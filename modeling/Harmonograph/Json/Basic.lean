import Harmonograph.Text.Quoted

/-!
JSON values as they are written: the leaves keep their spelling, and the fields of an object their
order and repetitions.
-/

namespace Harmonograph

inductive Json
  | null
  | bool (b : Bool)
  /-- The number that a text spells. -/
  | number (spelling : List Char)
  /-- The text that is spelled between two quotes. -/
  | string (spelling : List Char)
  | array (items : List Json)
  /-- Names are spelled as strings are. -/
  | object (fields : List (List Char × Json))

namespace Json

/-- A character with a short escape, and the letter that stands for it. -/
def shortEscapes : List (Char × Char) := [
  ('"', '"'), ('\\', '\\'), ('/', '/'), ('\x08', 'b'), ('\x0c', 'f'), ('\n', 'n'), ('\r', 'r'),
  ('\t', 't')]

/-- Only quotes, backslashes and controls are escaped. -/
def escapeChar (c : Char) : List Char :=
  if c.toNat < 32 ∨ c = '"' ∨ c = '\\' then
    match shortEscapes.lookup c with
    | some e => ['\\', e]
    | none => ['\\', 'u', '0', '0', if c.toNat < 16 then '0' else '1'] ++ hexText (c.toNat % 16)
  else [c]

def escape (cs : List Char) : List Char := cs.flatMap escapeChar

def hexDigit? (c : Char) : Option Nat :=
  if c.isDigit then some (c.toNat - '0'.toNat)
  else if 'a' ≤ c ∧ c ≤ 'f' then some (c.toNat - 'a'.toNat + 10)
  else if 'A' ≤ c ∧ c ≤ 'F' then some (c.toNat - 'A'.toNat + 10)
  else none

/-- The value of four hexadecimal digits. -/
def hexUnit? (a b c d : Char) : Option Nat := do
  let a ← hexDigit? a
  let b ← hexDigit? b
  let c ← hexDigit? c
  let d ← hexDigit? d
  return ((a * 16 + b) * 16 + c) * 16 + d

def isHighHalf (n : Nat) : Bool := 0xd800 ≤ n && n < 0xdc00

def isLowHalf (n : Nat) : Bool := 0xdc00 ≤ n && n < 0xe000

/-- The text that a spelling stands for. Two halves of a character must come as a pair. -/
def unescape? : List Char → Option (List Char)
  | [] => some []
  | '\\' :: 'u' :: a :: b :: c :: d :: '\\' :: 'u' :: e :: f :: g :: h :: cs => do
    let n ← hexUnit? a b c d
    if isHighHalf n then
      let m ← hexUnit? e f g h
      if isLowHalf m then
        (Char.ofNat (0x10000 + (n - 0xd800) * 0x400 + (m - 0xdc00)) :: ·) <$> unescape? cs
      else none
    else if isLowHalf n then none
    else (Char.ofNat n :: ·) <$> unescape? ('\\' :: 'u' :: e :: f :: g :: h :: cs)
  | '\\' :: 'u' :: a :: b :: c :: d :: cs => do
    let n ← hexUnit? a b c d
    if isHighHalf n || isLowHalf n then none else (Char.ofNat n :: ·) <$> unescape? cs
  | '\\' :: e :: cs => do
    let (c, _) ← shortEscapes.find? (·.2 = e)
    (c :: ·) <$> unescape? cs
  | c :: cs => (c :: ·) <$> unescape? cs

def ofString (s : String) : Json := .string (escape s.toList)

def ofNat (n : Nat) : Json := .number (Nat.toDigits 10 n)

def ofOption {α : Type} (f : α → Json) : Option α → Json
  | some a => f a
  | none => .null

/-- An object with the given names. -/
def record (fields : List (String × Json)) : Json :=
  .object (fields.map fun f ↦ (escape f.1.toList, f.2))

def string? : Json → Option String
  | .string cs => (unescape? cs).map String.ofList
  | _ => none

end Json

end Harmonograph
