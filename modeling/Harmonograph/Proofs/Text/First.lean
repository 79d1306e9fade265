import Mathlib.Data.List.Infix
import Mathlib.Tactic.Push

/-!
The shortest beginning of a text that has a property.
-/

namespace Harmonograph

/-- `w` is the first text in front of `r` with the property `P`. -/
structure IsFirst (P : List Char → Prop) (w r : List Char) : Prop where
  front : w <+: r
  holds : P w
  eq_of_holds : ∀ v, v <+: w → P v → v = w

instance {P : List Char → Prop} [DecidablePred P] (w r : List Char) : Decidable (IsFirst P w r) :=
  decidable_of_iff (w <+: r ∧ P w ∧ ∀ v ∈ w.inits, P v → v = w) <| by
    simp only [List.mem_inits]
    exact ⟨fun ⟨hr, hw, hv⟩ ↦ ⟨hr, hw, hv⟩, fun ⟨hr, hw, hv⟩ ↦ ⟨hr, hw, hv⟩⟩

theorem exists_isFirst {P : List Char → Prop} {w r : List Char} (hw : w <+: r) (h : P w) :
    ∃ v, IsFirst P v r := by
  induction hn : w.length using Nat.strongRecOn generalizing w with
  | ind n ih =>
    by_cases hfirst : ∀ v, v <+: w → P v → v = w
    · exact ⟨w, hw, h, hfirst⟩
    · push Not at hfirst
      obtain ⟨v, hv, hP, hne⟩ := hfirst
      refine ih v.length ?_ (hv.trans hw) hP rfl
      have hle := hv.length_le
      have hlen : v.length ≠ w.length := fun he ↦ hne (hv.eq_of_length he)
      omega

theorem IsFirst.eq {P : List Char → Prop} {v w r : List Char} (hv : IsFirst P v r)
    (hw : IsFirst P w r) : v = w := by
  rcases List.prefix_or_prefix_of_prefix hv.front hw.front with h | h
  · exact hw.eq_of_holds v h hv.holds
  · exact (hv.eq_of_holds w h hw.holds).symm

end Harmonograph
