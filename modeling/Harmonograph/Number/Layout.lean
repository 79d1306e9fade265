import Harmonograph.Number.Shortest

/-!
Number texts with the fewest digits, in the layouts that readers of the output expect.
-/

namespace Harmonograph

/-- How the digits of a number are set out. -/
structure NumberLayout where
  tie : Shortest.Tie
  /-- The numbers `0.d₁d₂… * 10 ^ point` that are written without a power of ten. -/
  isPlain : Int → Bool
  /-- Whether a plain whole number ends in a point and a zero. -/
  marksWhole : Bool
  /-- Whether a positive power of ten has a sign. -/
  signsPower : Bool

namespace NumberLayout

/-- Never a power of ten, and no point in a whole number. -/
def plain : NumberLayout := ⟨.up, fun _ ↦ true, false, false⟩

/-- For data: a power of ten, signed, below `10 ^ -5` and from `10 ^ 16` on. -/
def data : NumberLayout := ⟨.toEven, fun p ↦ -4 ≤ p && p ≤ 16, true, true⟩

/-- For settings: a power of ten below `10 ^ -4` and from `10 ^ 16` on. -/
def setting : NumberLayout := ⟨.up, fun p ↦ -3 ≤ p && p ≤ 16, true, false⟩

def zeros (n : Nat) : List Char := List.replicate n '0'

def positional (l : NumberLayout) (ds : List Char) (point : Int) : List Char :=
  if point ≤ 0 then ['0', '.'] ++ zeros (-point).toNat ++ ds
  else if point < ds.length then ds.take point.toNat ++ '.' :: ds.drop point.toNat
  else ds ++ zeros (point.toNat - ds.length) ++ if l.marksWhole then ['.', '0'] else []

def power (l : NumberLayout) (e : Int) : List Char :=
  let digits := Nat.toDigits 10 e.natAbs
  if e < 0 then 'e' :: '-' :: digits
  else if l.signsPower then 'e' :: '+' :: digits
  else 'e' :: digits

def scientific (l : NumberLayout) (ds : List Char) (point : Int) : List Char :=
  let fraction := ds.drop 1
  ds.take 1 ++ (if fraction.isEmpty then [] else '.' :: fraction) ++ l.power (point - 1)

/-- The text of the magnitude `b`, a finite one. -/
def magnitude (l : NumberLayout) (b : Nat) : List Char :=
  if b = 0 then '0' :: if l.marksWhole then ['.', '0'] else []
  else
    let d := Shortest.ofBits l.tie b
    if l.isPlain d.point then l.positional d.digits d.point else l.scientific d.digits d.point

def write (l : NumberLayout) (x : Float) : String :=
  if Binary64.isNaN x then "NaN"
  else
    let digits := if Binary64.isInfinite x then ['i', 'n', 'f']
      else l.magnitude (Binary64.magnitudeBits x)
    String.ofList (if Binary64.isNegative x then '-' :: digits else digits)

end NumberLayout

/-- The text of a number in messages. -/
def numberText (x : Float) : String := NumberLayout.plain.write x

example : numberText (Binary64.ofRatio true 3 2) = "-1.5" ∧
    numberText (Binary64.ofNat (10 ^ 23)) = "100000000000000000000000" ∧
    NumberLayout.data.write (Binary64.ofNat (10 ^ 16)) = "1e+16" ∧
    NumberLayout.data.write (Binary64.ofRatio false 3 20000000) = "1.5e-7" ∧
    NumberLayout.setting.write (Binary64.ofRatio false 1 10000) = "0.0001" := by
  decide +kernel

end Harmonograph
