import Harmonograph.Lexicon.Scanner

/-!
Blanks, one by one: there are 25 of them, and none belongs to a name or to a number.
-/

namespace Harmonograph

/-- The first two switches of a set enclose its first members. -/
theorem CodeSet.holds_cons_cons_iff (a b n : Nat) (l : List Nat) :
    holds ⟨a :: b :: l⟩ n = true ↔ a ≤ n ∧ (n < b ∨ holds ⟨l⟩ n = true) := by
  by_cases ha : a ≤ n
  · by_cases hb : b ≤ n
    · have hm : ((l.takeWhile (· ≤ n)).length + 1 + 1) % 2 = (l.takeWhile (· ≤ n)).length % 2 := by
        omega
      have hb' : ¬ n < b := by omega
      simp [holds, ha, hb, hb', hm]
    · have hb' : n < b := by omega
      simp [holds, ha, hb, hb']
  · have ha' : n < a := by omega
    rw [holds_of_lt_head ha']
    simp [ha]

/-- The code points of the blanks. -/
def blankCodes : List Nat := [
  0x9, 0xa, 0xb, 0xc, 0xd, 0x20, 0x85, 0xa0, 0x1680, 0x2000, 0x2001, 0x2002, 0x2003, 0x2004, 0x2005,
  0x2006, 0x2007, 0x2008, 0x2009, 0x200a, 0x2028, 0x2029, 0x202f, 0x205f, 0x3000]

theorem toNat_mem_blankCodes {c : Char} (h : isBlank c = true) : c.toNat ∈ blankCodes := by
  simp only [isBlank, blanks, CodeSet.holds_cons_cons_iff, CodeSet.holds_nil, Bool.false_eq_true,
    or_false] at h
  simp only [blankCodes, List.mem_cons, List.not_mem_nil, or_false]
  omega

/-- What holds of 25 characters holds of every blank. -/
theorem forall_isBlank {P : Char → Prop} (hP : ∀ n ∈ blankCodes, P (Char.ofNat n)) {c : Char}
    (h : isBlank c = true) : P c := by
  have hc := hP c.toNat (toNat_mem_blankCodes h)
  rwa [Char.ofNat_toNat] at hc

theorem isNumberChar_eq_false_of_isBlank {c : Char} (h : isBlank c = true) :
    Scanner.isNumberChar c = false := by
  refine forall_isBlank (P := fun c ↦ Scanner.isNumberChar c = false) ?_ h
  decide +kernel

theorem isAlphanumeric_eq_false_of_isBlank {c : Char} (h : isBlank c = true) :
    isAlphanumeric c = false := by
  have hn := isNumberChar_eq_false_of_isBlank h
  simp only [Scanner.isNumberChar, Bool.or_eq_false_iff] at hn
  exact hn.1.1.1

/-- Blanks are the same in both letter cases. -/
theorem foldCase_eq_self_of_isBlank {c : Char} (h : isBlank c = true) : foldCase c = c := by
  refine forall_isBlank (P := fun c ↦ foldCase c = c) ?_ h
  decide +kernel

end Harmonograph
