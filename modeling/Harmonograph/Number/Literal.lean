import Harmonograph.Number.Binary64

/-!
Number texts: an optional sign, then decimal digits with at most one point among them and an
optional power of ten, or a word for infinity or for no number at all.
-/

namespace Harmonograph

namespace Digits

def value (ds : List Char) : Nat := ds.foldl (fun n c ↦ 10 * n + (c.toNat - '0'.toNat)) 0

/-- Value of the digits of a power of ten. Past 65536 no number can depend on further digits. -/
def cappedValue (ds : List Char) : Nat :=
  ds.foldl (fun n c ↦ if n < 65536 then 10 * n + (c.toNat - '0'.toNat) else n) 0

end Digits

/-- A number text, read but not yet rounded. -/
inductive Literal
  /-- `digits * 10 ^ scale` up to sign, where `digits` are the characters as written. -/
  | decimal (negative : Bool) (digits : List Char) (scale : Int)
  | infinite (negative : Bool)
  | notANumber
  deriving DecidableEq, Repr

namespace Literal

def sign : List Char → Bool × List Char
  | '-' :: cs => (true, cs)
  | '+' :: cs => (false, cs)
  | cs => (false, cs)

/-- The power of ten at the end of a number text; nothing stands for the power 0. -/
def power : List Char → Option Int
  | [] => some 0
  | c :: cs =>
    let (negative, ds) := sign cs
    if (c = 'e' || c = 'E') && !ds.isEmpty && ds.all Char.isDigit then
      some (if negative then -(Digits.cappedValue ds : Int) else Digits.cappedValue ds)
    else none

def afterPoint : List Char → List Char × List Char
  | '.' :: cs => cs.span Char.isDigit
  | cs => ([], cs)

def ofDigits (negative : Bool) (cs : List Char) : Option Literal :=
  let (whole, rest) := cs.span Char.isDigit
  let (fraction, rest) := afterPoint rest
  if whole.isEmpty && fraction.isEmpty then none
  else (power rest).map fun e ↦ .decimal negative (whole ++ fraction) (e - fraction.length)

def read? (cs : List Char) : Option Literal :=
  let (negative, rest) := sign cs
  let word := rest.map Char.toLower
  if word = ['i', 'n', 'f'] ∨ word = ['i', 'n', 'f', 'i', 'n', 'i', 't', 'y'] then
    some (.infinite negative)
  else if word = ['n', 'a', 'n'] then some .notANumber
  else ofDigits negative rest

/-- A decimal is rounded to nearest. One whose leading digit stands past the 309th place is
infinite and one whose leading digit stands below the 323rd place after the point is zero. -/
def toFloat : Literal → Float
  | .infinite negative => Binary64.infinity negative
  | .notANumber => Binary64.nan
  | .decimal negative ds scale =>
    let digits := ds.dropWhile (· = '0')
    let top := digits.length + scale
    if digits.isEmpty ∨ top < -323 then Binary64.ofMagnitude negative 0
    else if 309 < top then Binary64.infinity negative
    else Binary64.ofDecimal negative (Digits.value digits) scale

end Literal

/-- The value of a number text, infinities and the missing number included. -/
def readFloat? (cs : List Char) : Option Float := (Literal.read? cs).map Literal.toFloat

/-- The value of a text that spells a finite number. -/
def readNumber? (cs : List Char) : Option Float := (readFloat? cs).filter Binary64.isFinite

example : Literal.read? ['-', '1', '.', '5', 'e', '3'] = some (.decimal true ['1', '5'] 2) ∧
    Literal.read? ['.'] = none ∧ Literal.read? ['1', 'e'] = none ∧
    Literal.read? ['I', 'n', 'f'] = some (.infinite false) := by
  decide +kernel

end Harmonograph
