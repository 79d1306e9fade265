import Harmonograph.Number.Binary64

/-!
The fewest decimal digits that read back as a given number.
-/

namespace Harmonograph.Shortest

/-- Digits of a decimal `0.d₁d₂… * 10 ^ point`. -/
structure Decimal where
  digits : List Char
  point : Int
  deriving DecidableEq, Repr

/-- What happens to a number halfway between two decimals that both read back. -/
inductive Tie
  | up
  | toEven
  deriving DecidableEq, Repr

/-- A positive number `m * 2 ^ e` as a ratio. -/
def ratio (m : Nat) (e : Int) : Nat × Nat := Binary64.scaled m 1 (-e)

/-- `n / d` in units of `10 ^ k`, as a ratio. -/
def inTens (n d : Nat) (k : Int) : Nat × Nat :=
  if 0 ≤ k then (n, d * Nat.pow 10 k.toNat) else (n * Nat.pow 10 (-k).toNat, d)

/-- The least `k` with `n / d < 10 ^ k`, sought upward from `k` in at most `tries` steps. -/
def decade (n d : Nat) : Nat → Int → Int
  | 0, k => k
  | tries + 1, k =>
    let s := inTens n d k
    if s.1 < s.2 then k else decade n d tries (k + 1)

/-- A power of ten at most 2 places below the leading place of `n / d`. -/
def decadeGuess (n d : Nat) : Int := ((n.log2 : Int) - d.log2 - 1) * 30103 / 100000

def place (n d : Nat) : Int := decade n d 4 (decadeGuess n d)

/-- Whether `c * 10 ^ k` reads back as the magnitude `b`. -/
def readsBack (b c : Nat) (k : Int) : Bool :=
  let s := inTens c 1 (-k)
  Binary64.nearestBits s.1 s.2 == b

/-- Of the two multiples of `10 ^ k` beside `n / d`, the one that reads back as `b`; of two, the
nearer. -/
def onGrid (tie : Tie) (b n d : Nat) (k : Int) : Option Nat :=
  let s := inTens n d k
  let low := s.1 / s.2
  let r := 2 * (s.1 % s.2)
  match readsBack b low k, readsBack b (low + 1) k with
  | false, false => none
  | true, false => some low
  | false, true => some (low + 1)
  | true, true =>
    if r < s.2 then some low
    else if s.2 < r then some (low + 1)
    else match tie with
      | .up => some (low + 1)
      | .toEven => some (low + low % 2)

/-- The first grid with a hit, from `10 ^ k` downward. -/
def search (tie : Tie) (b n d : Nat) : Nat → Int → Nat × Int
  | 0, k => (0, k)
  | tries + 1, k =>
    match onGrid tie b n d k with
    | some c => (c, k)
    | none => search tie b n d tries (k - 1)

/-- Digits of the positive magnitude `b`. Seventeen digits always read back. -/
def ofBits (tie : Tie) (b : Nat) : Decimal :=
  let p := Binary64.partsOfBits b
  let s := ratio p.1 p.2
  let (c, k) := search tie b s.1 s.2 17 (place s.1 s.2 - 1)
  let ds := Nat.toDigits 10 c
  ⟨(ds.reverse.dropWhile (· = '0')).reverse, k + ds.length⟩

example : ofBits .up (Binary64.nearestBits 1 10) = ⟨['1'], 0⟩ ∧
    ofBits .up 1 = ⟨['5'], -323⟩ ∧
    ofBits .up (Binary64.nearestBits (10 ^ 23) 1) = ⟨['1'], 24⟩ := by
  decide +kernel

end Harmonograph.Shortest
