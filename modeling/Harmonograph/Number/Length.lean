import Harmonograph.Number.Binary64

/-!
The length of a vector, rounded once.
-/

namespace Harmonograph

/-- The largest whole number whose square is at most `n`. -/
def squareRoot (n : Nat) : Nat :=
  if n = 0 then 0
  else
    let r := 2 * squareRoot (n / 4)
    if (r + 1) * (r + 1) ≤ n then r + 1 else r

namespace Binary64

/-- The mantissa of `p` when its last place is `2 ^ e`, where `e` is at most its exponent. -/
def mantissaAt (p : Parts) (e : Int) : Nat := p.mantissa * Nat.pow 2 (p.exponent - e).toNat

/-- The magnitude nearest to `√n * 2 ^ e`. The root is taken to 64 binary places, and an inexact
one stands half a place above what was taken. -/
def rootBits (n : Nat) (e : Int) : Nat :=
  let m := n * Nat.pow 2 128
  let r := squareRoot m
  let s := scaled (2 * r + if r * r = m then 0 else 1) 1 (65 - e)
  nearestBits s.1 s.2

/-- The length of the vector `(x, y)`. An infinite side is infinite whatever the other is. -/
def hypotenuse (x y : Float) : Float :=
  if isInfinite x || isInfinite y then infinity false
  else if isNaN x || isNaN y then nan
  else
    let p := parts x
    let q := parts y
    let e := min p.exponent q.exponent
    let a := mantissaAt p e
    let b := mantissaAt q e
    ofMagnitude false (rootBits (a * a + b * b) e)

end Binary64

end Harmonograph
