/-!
Binary floating-point numbers as exact values: taking one apart, and rounding a ratio of natural
numbers to the nearest one.
-/

namespace Harmonograph.Binary64

/-- A finite number, `mantissa * 2 ^ exponent` up to sign. -/
structure Parts where
  negative : Bool
  mantissa : Nat
  exponent : Int
  deriving DecidableEq, Repr

/-- The weight of the sign in a pattern. -/
def signWeight : Nat := Nat.pow 2 63

/-- The weight of the exponent in a pattern. -/
def exponentWeight : Nat := Nat.pow 2 52

def isNegative (x : Float) : Bool := x.toBits.toNat / signWeight == 1

def magnitudeBits (x : Float) : Nat := x.toBits.toNat % signWeight

def infinityBits : Nat := 2047 * exponentWeight

def isNaN (x : Float) : Bool := infinityBits < magnitudeBits x

def isInfinite (x : Float) : Bool := magnitudeBits x == infinityBits

def isFinite (x : Float) : Bool := magnitudeBits x < infinityBits

/-- The mantissa and exponent of the magnitude `b`, a pattern below `infinityBits`. -/
def partsOfBits (b : Nat) : Nat × Int :=
  if b / exponentWeight = 0 then (b, -1074)
  else (exponentWeight + b % exponentWeight, (b / exponentWeight : Nat) - 1075)

/-- Meaningful for a finite `x`. -/
def parts (x : Float) : Parts :=
  let p := partsOfBits (magnitudeBits x)
  ⟨isNegative x, p.1, p.2⟩

/-- The whole number nearest to `n / d`; a tie goes to the even one. -/
def roundRatio (n d : Nat) : Nat :=
  let r := n % d
  if 2 * r < d then n / d
  else if d < 2 * r then n / d + 1
  else n / d + n / d % 2

/-- `n / d` in units of `2 ^ e`, as a ratio. -/
def scaled (n d : Nat) (e : Int) : Nat × Nat :=
  if 0 ≤ e then (n, d * Nat.pow 2 e.toNat) else (n * Nat.pow 2 (-e).toNat, d)

/-- The exponent of the last place when `n / d` is rounded. -/
def lastPlace (n d : Nat) : Int :=
  let e := max ((n.log2 : Int) - d.log2 - 53) (-1074)
  let s := scaled n d e
  if s.1 / s.2 < 2 * exponentWeight then e else e + 1

/-- The pattern of the magnitude nearest to `n / d`, infinite past the largest finite one. -/
def nearestBits (n d : Nat) : Nat :=
  if n = 0 then 0
  else
    let e := lastPlace n d
    let s := scaled n d e
    min infinityBits ((e + 1074).toNat * exponentWeight + roundRatio s.1 s.2)

def ofMagnitude (negative : Bool) (b : Nat) : Float :=
  Float.ofBits (UInt64.ofNat (if negative then signWeight + b else b))

/-- The number nearest to `n / d`, with the given sign. -/
def ofRatio (negative : Bool) (n d : Nat) : Float := ofMagnitude negative (nearestBits n d)

def ofNat (n : Nat) : Float := ofRatio false n 1

/-- The number nearest to `m * 10 ^ e`, with the given sign. -/
def ofDecimal (negative : Bool) (m : Nat) (e : Int) : Float :=
  if 0 ≤ e then ofRatio negative (m * Nat.pow 10 e.toNat) 1
  else ofRatio negative m (Nat.pow 10 (-e).toNat)

def infinity (negative : Bool) : Float := ofMagnitude negative infinityBits

def nan : Float := ofMagnitude false (infinityBits + exponentWeight / 2)

example : nearestBits 1 10 = 0x3fb999999999999a ∧
    nearestBits (2 ^ 53 + 1) 1 = nearestBits (2 ^ 53) 1 ∧
    nearestBits (2 ^ 1024) 1 = infinityBits ∧ nearestBits 1 (2 ^ 1075) = 0 ∧
    nearestBits 3 (2 ^ 1075) = 2 := by
  decide +kernel

end Harmonograph.Binary64
