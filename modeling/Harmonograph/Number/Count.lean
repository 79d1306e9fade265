import Harmonograph.Number.Binary64

/-!
Counts: whole numbers that fit in 64 bits, taken from arbitrary ones.
-/

namespace Harmonograph.Count

/-- The largest count. -/
def limit : Nat := Nat.pow 2 64 - 1

/-- A count from `x`: what is negative or no number counts nothing, what is too large counts as
`limit`, and the whole number between comes from the ratio that `x` is. -/
def ofFloat (whole : Nat → Nat → Nat) (x : Float) : Nat :=
  if Binary64.isNaN x then 0
  else if Binary64.isNegative x then 0
  else if Binary64.isInfinite x then limit
  else
    let p := Binary64.parts x
    let s := Binary64.scaled p.mantissa 1 (-p.exponent)
    min limit (whole s.1 s.2)

/-- The fraction is dropped. -/
def truncated (x : Float) : Nat := ofFloat (fun n d ↦ n / d) x

/-- The nearest whole number; a half goes up. -/
def rounded (x : Float) : Nat := ofFloat (fun n d ↦ (2 * n + d) / (2 * d)) x

theorem ofFloat_le_limit (whole : Nat → Nat → Nat) (x : Float) : ofFloat whole x ≤ limit := by
  unfold ofFloat
  split
  · exact Nat.zero_le _
  · split
    · exact Nat.zero_le _
    · split
      · exact Nat.le_refl _
      · exact Nat.min_le_left _ _

example : rounded (Binary64.ofRatio false 5 2) = 3 ∧ truncated (Binary64.ofRatio false 5 2) = 2 ∧
    rounded (Binary64.ofRatio true 5 2) = 0 ∧ rounded (Binary64.infinity false) = limit := by
  decide +kernel

end Harmonograph.Count
