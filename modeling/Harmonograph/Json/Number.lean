import Harmonograph.Json.Basic
import Harmonograph.Number.Layout
import Harmonograph.Number.Whole

/-!
Numbers in JSON. A number that is written reads back as itself. A number that is read keeps as many
of its leading digits as fit in 64 bits, and is scaled by powers of ten afterwards; each of these
steps is rounded.
-/

namespace Harmonograph.Json

/-- What is no finite number has no spelling. -/
def ofFloat (x : Float) : Json :=
  if Binary64.isFinite x then .number (NumberLayout.data.write x).toList else .null

/-- The digits after `n` that fit beside it in 64 bits, and how many do not. -/
def keepDigits (n : Nat) : List Char → Nat × Nat
  | [] => (n, 0)
  | d :: ds =>
    let m := 10 * n + Digits.value [d]
    if m ≤ Count.limit then keepDigits m ds else (n, ds.length + 1)

/-- The largest power of ten that scaling takes in one step. -/
def largestPower : Nat := 308

def tenTo (e : Nat) : Float := Binary64.ofDecimal false 1 e

/-- `x` divided by `10 ^ e`. -/
def scaleDown (x : Float) (e : Nat) : Float :=
  if e ≤ largestPower then x / tenTo e
  else if x == 0 then x
  else scaleDown (x / tenTo largestPower) (e - largestPower)
termination_by e
decreasing_by simp only [largestPower] at *; omega

/-- `x` times `10 ^ e`, when that is finite. -/
def scaleUp? (x : Float) (e : Nat) : Option Float :=
  if e ≤ largestPower then
    let y := x * tenTo e
    if Binary64.isFinite y then some y else none
  else if x == 0 then some x
  else none

def scale? (x : Float) (e : Int) : Option Float :=
  if 0 ≤ e then scaleUp? x e.toNat else some (scaleDown x (-e).toNat)

/-- The power of ten that a number ends in. -/
def power (cs : List Char) : Int := (Literal.power cs).getD 0

/-- The number that a spelling stands for, when it is in range. -/
def spelledNumber? (cs : List Char) : Option Float := do
  let (negative, cs) := match cs with
    | '-' :: cs => (true, cs)
    | _ => (false, cs)
  let (whole, cs) := cs.span Char.isDigit
  let (fraction, cs) := Literal.afterPoint cs
  let (n, beyond) := keepDigits 0 whole
  let (m, left) := keepDigits n fraction
  let x ← scale? (Binary64.ofNat m) (beyond - (fraction.length - left : Nat) + power cs)
  return if negative then -x else x

def number? : Json → Option Float
  | .number cs => spelledNumber? cs
  | _ => none

end Harmonograph.Json
