import Harmonograph.Text.Quoted

/-!
Control characters that would steer the terminal on which a text is shown, and how they are spelled
out so that they do not. Tabs and the ends of lines are none of them.
-/

namespace Harmonograph

/-- The bell, a step back, a new page, the start of a control sequence, and deletion. -/
def narrowControls : List Char := ['\x07', '\x08', '\x0c', '\x1b', '\x7f']

/-- The controls beyond the first 128 code points. -/
def isWideControl (c : Char) : Bool := 0x80 ≤ c.toNat && c.toNat < 0xa0

def spelledControl (c : Char) : List Char :=
  if narrowControls.contains c then ['\\', 'x'] ++ (hexText (c.toNat + 256)).drop 1
  else if isWideControl c then codePointText c
  else [c]

def spellControls (s : String) : String := String.ofList (s.toList.flatMap spelledControl)

theorem spelledControl_eq_self {c : Char} (h : c ∉ narrowControls) (hw : isWideControl c = false) :
    spelledControl c = [c] := by
  simp [spelledControl, h, hw]

theorem flatMap_spelledControl {cs : List Char} (h : ∀ c ∈ cs, c ∉ narrowControls)
    (hw : ∀ c ∈ cs, isWideControl c = false) : cs.flatMap spelledControl = cs := by
  induction cs with
  | nil => rfl
  | cons c cs ih =>
    rw [List.flatMap_cons, spelledControl_eq_self (h c (by simp)) (hw c (by simp)),
      ih (fun d hd ↦ h d (by simp [hd])) (fun d hd ↦ hw d (by simp [hd]))]
    rfl

example : spellControls "a\x07b\t\x1b\u009bé" = "a\\x07b\t\\x1b\\u\x7b9b\x7dé" := by
  decide +kernel

end Harmonograph
