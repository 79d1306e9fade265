import Harmonograph.Proofs.Source.Order
import Harmonograph.Figure.NameIndex

/-!
Finding the innermost name at a place. The name that is found has a smallest one of the extents at
the place, and of the names with that extent it is the last. An extent that lies in all others at
the place is found in whatever order the names come.
-/

namespace Harmonograph.NameIndex

section Fold

variable {best entry x : String × Extent} {es : List (String × Extent)}

theorem inner_eq_or (best entry : String × Extent) :
    inner best entry = best ∨ inner best entry = entry := by
  unfold inner
  split
  · exact .inr rfl
  · exact .inl rfl

theorem mem_foldl_inner (best : String × Extent) (es : List (String × Extent)) :
    es.foldl inner best ∈ best :: es := by
  induction es generalizing best with
  | nil => exact List.mem_singleton_self best
  | cons y es ih =>
    rw [List.foldl_cons]
    rcases List.mem_cons.1 (ih (inner best y)) with hbest | hes
    · rw [hbest]
      rcases inner_eq_or best y with hi | hi
      · simp [hi]
      · simp [hi]
    · exact List.mem_cons_of_mem _ (List.mem_cons_of_mem _ hes)

theorem covers_inner (h : best.2.InOneFile) : best.2.Covers (inner best entry).2 := by
  unfold inner
  split
  case isTrue hcovers => exact hcovers
  case isFalse => exact .refl h

/-- The best entry only ever gets smaller. -/
theorem covers_foldl_inner (h : best.2.InOneFile) : best.2.Covers (es.foldl inner best).2 := by
  induction es generalizing best with
  | nil => exact .refl h
  | cons y es ih =>
    have hstep : best.2.Covers (inner best y).2 := covers_inner h
    exact hstep.trans (ih hstep.2.1)

/-- An entry that was passed over does not lie in the last best one: it would have lain in the best
one at its turn, as that one covers the last. -/
theorem eq_and_le_of_foldl_inner_covers (hfile : best.2.InOneFile)
    (hsorted : (best :: es).Pairwise fun y z ↦ y.1 < z.1) (hx : x ∈ best :: es)
    (h : (es.foldl inner best).2.Covers x.2) :
    x.2 = (es.foldl inner best).2 ∧ x.1 ≤ (es.foldl inner best).1 := by
  induction es generalizing best x with
  | nil =>
    obtain rfl := List.mem_singleton.1 hx
    exact ⟨rfl, String.le_refl _⟩
  | cons y es ih =>
    rw [List.foldl_cons] at h ⊢
    obtain ⟨hlt, hrest⟩ := List.pairwise_cons.1 hsorted
    by_cases hy : best.2.Covers y.2
    · have hstep : inner best y = y := if_pos hy
      rw [hstep] at h ⊢
      rcases List.mem_cons.1 hx with rfl | hx
      · -- The extent of the first entry is that of the second, which comes later.
        have hlast : y.2.Covers (es.foldl inner y).2 := covers_foldl_inner hy.2.1
        obtain ⟨he, hle⟩ := ih hy.2.1 hrest List.mem_cons_self (h.trans hy)
        have hxy : y.2 = x.2 := hy.antisymm (hlast.trans h)
        exact ⟨hxy ▸ he, String.le_trans (Std.le_of_lt (hlt y List.mem_cons_self)) hle⟩
      · exact ih hy.2.1 hrest hx h
    · have hstep : inner best y = best := if_neg hy
      rw [hstep] at h ⊢
      have hlast : best.2.Covers (es.foldl inner best).2 := covers_foldl_inner hfile
      have hne : x ≠ y := fun he ↦ hy (hlast.trans (he ▸ h))
      have hx' : x ∈ best :: es := by simpa [hne] using hx
      exact ih hfile (hsorted.sublist (List.Sublist.cons_cons best (List.sublist_cons_self y es)))
        hx' h

end Fold

variable {index : NameIndex} {p : Location} {name : String} {e : Extent}

theorem mem_containing_iff {x : String × Extent} :
    x ∈ index.containing p ↔ index[x.1]? = some x.2 ∧ p ∈ x.2 := by
  rw [containing, List.mem_filter, decide_eq_true_eq, Std.TreeMap.mem_toList_iff_getElem?_eq_some]

/-- The entries at a place come in the order of their names. -/
theorem pairwise_containing (index : NameIndex) (p : Location) :
    (index.containing p).Pairwise fun x y ↦ x.1 < y.1 := by
  have hsorted := Std.TreeMap.ordered_keys_toList (t := index)
  exact (hsorted.imp fun hlt ↦ compareOfLessAndEq_eq_lt.1 hlt).filter _

theorem resolve_eq_none_iff :
    index.resolve p = none ↔ ∀ (name : String) (e : Extent), index[name]? = some e → p ∉ e := by
  have hnil : index.resolve p = none ↔ index.containing p = [] := by
    unfold resolve
    cases index.containing p with
    | nil => exact iff_of_true rfl rfl
    | cons x xs => exact iff_of_false (by simp [innermost?]) (by simp)
  rw [hnil, List.eq_nil_iff_forall_not_mem]
  constructor
  · intro h name e he hp
    exact h (name, e) (mem_containing_iff.2 ⟨he, hp⟩)
  · intro h x hx
    obtain ⟨hx', hpx⟩ := mem_containing_iff.1 hx
    exact h x.1 x.2 hx' hpx

/-- Whatever lies in the extent of the name that is found is that extent, under a name no later than
the one found. -/
theorem exists_of_resolve_eq_some (h : index.resolve p = some name) :
    ∃ e, index[name]? = some e ∧ p ∈ e ∧ ∀ (name' : String) (e' : Extent), index[name']? = some e' →
      p ∈ e' → e.Covers e' → e' = e ∧ name' ≤ name := by
  have hsorted := pairwise_containing index p
  have hmem : ∀ x ∈ index.containing p, index[x.1]? = some x.2 ∧ p ∈ x.2 := fun x ↦
    mem_containing_iff.1
  have hall : ∀ (name' : String) (e' : Extent), index[name']? = some e' → p ∈ e' →
      (name', e') ∈ index.containing p := fun _ _ he hp ↦ mem_containing_iff.2 ⟨he, hp⟩
  unfold resolve at h
  generalize index.containing p = entries at h hsorted hmem hall
  cases entries with
  | nil => cases h
  | cons best es =>
    obtain rfl : (es.foldl inner best).1 = name := Option.some.inj h
    have hlast := hmem _ (mem_foldl_inner best es)
    refine ⟨_, hlast.1, hlast.2, fun name' e' he' hp' hcovers ↦ ?_⟩
    exact eq_and_le_of_foldl_inner_covers (hmem best List.mem_cons_self).2.1 hsorted
      (hall name' e' he' hp') hcovers

/-- The name at `p` whose extent lies in those of all names at `p`, and covers none of them. -/
theorem resolve_eq_some (h : index[name]? = some e) (hp : p ∈ e)
    (hcovers : ∀ (name' : String) (e' : Extent), index[name']? = some e' → p ∈ e' → e'.Covers e)
    (hleast : ∀ (name' : String) (e' : Extent), index[name']? = some e' → p ∈ e' → e.Covers e' →
      name' = name) : index.resolve p = some name := by
  cases hfound : index.resolve p with
  | none => exact absurd hp (resolve_eq_none_iff.1 hfound name e h)
  | some found =>
    obtain ⟨e', he', hp', hinner⟩ := exists_of_resolve_eq_some hfound
    obtain ⟨rfl, -⟩ := hinner name e h hp (hcovers found e' he' hp')
    rw [hleast found e he' hp (.refl hp.1)]

/-- The extent `e` of some name contains `p`. -/
def HasAt (index : NameIndex) (p : Location) (e : Extent) : Prop :=
  p ∈ e ∧ ∃ name : String, index[name]? = some e

/-- A name is found where there is any. Its extent contains the place and covers no other extent
that does, and of all names with that extent the last is found. If of any two extents at the place
the one covers the other, all of them cover that of the name found. -/
theorem resolve_most_specific (index : NameIndex) (p : Location) :
    (index.resolve p = none ↔ ∀ e, ¬ index.HasAt p e) ∧
    ∀ name, index.resolve p = some name → ∃ e, index[name]? = some e ∧ p ∈ e ∧
      (∀ e', index.HasAt p e' → e.Covers e' → e' = e) ∧
      (∀ name' : String, index[name']? = some e → name' ≤ name) ∧
      ((∀ d d', index.HasAt p d → index.HasAt p d' → d.Covers d' ∨ d'.Covers d) →
        ∀ e', index.HasAt p e' → e'.Covers e) := by
  constructor
  · rw [resolve_eq_none_iff]
    constructor
    · rintro h e ⟨hp, name, he⟩
      exact h name e he hp
    · intro h name e he hp
      exact h e ⟨hp, name, he⟩
  · intro name hname
    obtain ⟨e, he, hp, hinner⟩ := exists_of_resolve_eq_some hname
    have hsmallest : ∀ e', index.HasAt p e' → e.Covers e' → e' = e := by
      rintro e' ⟨hp', name', he'⟩ hcovers
      exact (hinner name' e' he' hp' hcovers).1
    refine ⟨e, he, hp, hsmallest, ?_, ?_⟩
    · intro name' he'
      exact (hinner name' e he' hp (.refl hp.1)).2
    · intro hchain e' he'
      rcases hchain e' e he' ⟨hp, name, he⟩ with hcovers | hcovers
      · exact hcovers
      · rw [hsmallest e' he' hcovers]
        exact .refl hp.1

end Harmonograph.NameIndex
