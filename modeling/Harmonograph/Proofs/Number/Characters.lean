import Harmonograph.Lexicon.Scanner
import Harmonograph.Number.Literal
import Mathlib.Data.List.TakeDrop

/-!
The characters of number texts: every text that spells a finite number is a single run of the
characters that are read for a number.
-/

namespace Harmonograph

open Scanner (isNumberChar)

theorem isAlphanumeric_of_isAlphanum {c : Char} (h : c.isAlphanum = true) :
    isAlphanumeric c = true := by
  have hc : c.toNat ≤ 'z'.toNat := by
    rcases Bool.or_eq_true_iff.1 h with ha | hdigit
    · rcases Bool.or_eq_true_iff.1 ha with hupper | hlower
      · have hle : c.val ≤ 'Z'.val := (of_decide_eq_true hupper).2
        exact Nat.le_trans (UInt32.le_iff_toNat_le.1 hle) (by decide)
      · have hle : c.val ≤ 'z'.val := of_decide_eq_true (Bool.and_eq_true_iff.1 hlower).2
        exact UInt32.le_iff_toNat_le.1 hle
    · have hle : c.val ≤ '9'.val := of_decide_eq_true (Bool.and_eq_true_iff.1 hdigit).2
      exact Nat.le_trans (UInt32.le_iff_toNat_le.1 hle) (by decide)
  rwa [isAlphanumeric_eq (Nat.lt_of_le_of_lt hc (by decide))]

/-- A character whose small letter is one of the first 128 code points is a letter itself. -/
theorem isAlphanumeric_of_toLower {c : Char} (h : c.toLower.isAlpha = true) :
    isAlphanumeric c = true := by
  refine isAlphanumeric_of_isAlphanum ?_
  unfold Char.toLower at h
  split at h
  case isTrue hc =>
    have hu : c.isUpper = true := decide_eq_true hc
    exact Bool.or_eq_true_iff.2 (.inl (Bool.or_eq_true_iff.2 (.inl hu)))
  case isFalse => simp [Char.isAlphanum, h]

theorem isNumberChar_of_isAlphanumeric {c : Char} (h : isAlphanumeric c = true) :
    isNumberChar c = true := by
  simp [isNumberChar, h]

theorem isNumberChar_of_isDigit {c : Char} (h : c.isDigit = true) : isNumberChar c = true :=
  isNumberChar_of_isAlphanumeric (isAlphanumeric_of_isAlphanum (by simp [Char.isAlphanum, h]))

namespace Literal

variable {cs u v : List Char}

theorem mem_span {p : Char → Bool} (h : cs.span p = (u, v)) : ∀ c ∈ cs, p c = true ∨ c ∈ v := by
  intro c hc
  rw [List.span_eq_takeWhile_dropWhile, Prod.mk.injEq] at h
  rw [← List.takeWhile_append_dropWhile (p := p) (l := cs), List.mem_append] at hc
  rcases hc with hu | hv
  · exact .inl (List.all_eq_true.1 List.all_takeWhile c hu)
  · exact .inr (h.2 ▸ hv)

theorem mem_sign {b : Bool} (h : sign cs = (b, v)) : ∀ c ∈ cs, isNumberChar c = true ∨ c ∈ v := by
  intro c hc
  unfold sign at h
  split at h <;> obtain ⟨-, rfl⟩ := Prod.mk.inj h
  · rcases List.mem_cons.1 hc with rfl | hc
    · exact .inl (by decide)
    · exact .inr hc
  · rcases List.mem_cons.1 hc with rfl | hc
    · exact .inl (by decide)
    · exact .inr hc
  · exact .inr hc

theorem mem_afterPoint (h : afterPoint cs = (u, v)) : ∀ c ∈ cs, isNumberChar c = true ∨ c ∈ v := by
  intro c hc
  unfold afterPoint at h
  split at h
  · rcases List.mem_cons.1 hc with rfl | hc
    · exact .inl (by decide)
    · exact (mem_span h c hc).imp_left isNumberChar_of_isDigit
  · obtain ⟨-, rfl⟩ := Prod.mk.inj h
    exact .inr hc

theorem forall_mem_power {e : Int} (h : power cs = some e) : ∀ c ∈ cs, isNumberChar c = true := by
  cases cs with
  | nil => exact fun c hc ↦ absurd hc List.not_mem_nil
  | cons d ds =>
    simp only [power] at h
    split at h
    case isFalse => cases h
    case isTrue he =>
      simp only [Bool.and_eq_true, Bool.or_eq_true, decide_eq_true_eq, List.all_eq_true] at he
      intro c hc
      rcases List.mem_cons.1 hc with rfl | hc
      · rcases he.1.1 with rfl | rfl <;> decide
      · rcases mem_sign rfl c hc with hn | hv
        · exact hn
        · exact isNumberChar_of_isDigit (he.2 c hv)

theorem forall_mem_ofDigits {b : Bool} {l : Literal} (h : ofDigits b cs = some l) :
    ∀ c ∈ cs, isNumberChar c = true := by
  intro c hc
  simp only [ofDigits] at h
  split at h
  · cases h
  · obtain ⟨e, he, -⟩ := Option.map_eq_some_iff.1 h
    rcases mem_span rfl c hc with hd | hr
    · exact isNumberChar_of_isDigit hd
    · rcases mem_afterPoint rfl c hr with hn | hv
      · exact hn
      · exact forall_mem_power he c hv

theorem forall_mem_of_map_toLower {word : List Char} (hw : word.all Char.isAlpha = true)
    (h : cs.map Char.toLower = word) : ∀ c ∈ cs, isNumberChar c = true := by
  intro c hc
  have hl : c.toLower ∈ word := h ▸ List.mem_map_of_mem hc
  exact isNumberChar_of_isAlphanumeric (isAlphanumeric_of_toLower (List.all_eq_true.1 hw _ hl))

theorem forall_mem_read? {l : Literal} (h : read? cs = some l) :
    ∀ c ∈ cs, isNumberChar c = true := by
  intro c hc
  simp only [read?] at h
  rcases mem_sign rfl c hc with hn | hv
  · exact hn
  · split at h
    case isTrue hw =>
      rcases hw with hw | hw
      · exact forall_mem_of_map_toLower (by decide) hw c hv
      · exact forall_mem_of_map_toLower (by decide) hw c hv
    case isFalse =>
      split at h
      case isTrue hw => exact forall_mem_of_map_toLower (by decide) hw c hv
      case isFalse => exact forall_mem_ofDigits h c hv

end Literal

/-- A number text is not empty, and reading a number from the text of a file takes all of it. -/
theorem numberChars_of_readNumber? {cs : List Char} {x : Float} (h : readNumber? cs = some x) :
    cs ≠ [] ∧ ∀ c ∈ cs, isNumberChar c = true := by
  have hx : readFloat? cs = some x := Option.eq_some_of_filter_eq_some h
  obtain ⟨l, hl, -⟩ := Option.map_eq_some_iff.1 hx
  refine ⟨?_, Literal.forall_mem_read? hl⟩
  rintro rfl
  simp [Literal.read?, Literal.sign, Literal.ofDigits, Literal.afterPoint] at hl

end Harmonograph
