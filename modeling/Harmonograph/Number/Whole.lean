import Harmonograph.Number.Count
import Harmonograph.Number.Literal

/-!
Texts of whole numbers.
-/

namespace Harmonograph

/-- The count that an optional plus sign and decimal digits spell. -/
def readCount? (cs : List Char) : Option Nat :=
  let ds := match cs with
    | '+' :: ds => ds
    | _ => cs
  if ds.isEmpty || !ds.all Char.isDigit then none
  else
    let n := Digits.value ds
    if n ≤ Count.limit then some n else none

example : readCount? ['+', '0', '7'] = some 7 ∧ readCount? ['+'] = none ∧
    readCount? ['-', '0'] = none := by
  decide

end Harmonograph
