import Harmonograph.Text.CodeSet

/-!
White space: the characters of the Unicode property of that name.
-/

namespace Harmonograph

def blanks : CodeSet where
  switches := [
    0x9, 0xe, 0x20, 0x21, 0x85, 0x86, 0xa0, 0xa1, 0x1680, 0x1681, 0x2000, 0x200b, 0x2028, 0x202a,
    0x202f, 0x2030, 0x205f, 0x2060, 0x3000, 0x3001]

/-- A character that may stand between two words. -/
def isBlank (c : Char) : Bool := blanks.holds c.toNat

theorem isBlank_of_isWhitespace {c : Char} (h : c.isWhitespace = true) : isBlank c = true := by
  simp only [Char.isWhitespace, Bool.or_eq_true, decide_eq_true_eq] at h
  rcases h with ((rfl | rfl) | rfl) | rfl <;> decide

example : isBlank '\x0b' = true ∧ isBlank '\u3000' = true ∧ isBlank '\u200b' = false := by decide

end Harmonograph
