import Harmonograph.Json.Basic

/-!
Reading JSON: the text is cut into tokens, and the tokens build values, innermost first, under the
containers that are still open.
-/

namespace Harmonograph.Json

inductive Token
  | openArray
  | closeArray
  | openObject
  | closeObject
  | comma
  | colon
  /-- A value without parts. -/
  | leaf (value : Json)

/-- The spelling of a string up to its closing quote, and what follows. -/
def stringBody : List Char → Option (List Char × List Char)
  | [] => none
  | '"' :: cs => some ([], cs)
  | '\\' :: 'u' :: a :: b :: c :: d :: cs =>
    if (hexUnit? a b c d).isSome then
      (stringBody cs).map fun r ↦ ('\\' :: 'u' :: a :: b :: c :: d :: r.1, r.2)
    else none
  | '\\' :: e :: cs =>
    if shortEscapes.any (·.2 = e) then (stringBody cs).map fun r ↦ ('\\' :: e :: r.1, r.2) else none
  | c :: cs =>
    if c = '\\' ∨ c.toNat < 32 then none else (stringBody cs).map fun r ↦ (c :: r.1, r.2)

/-- A whole number has no zeros in front. -/
def wholePart (cs : List Char) : Option (List Char × List Char) :=
  match cs.span Char.isDigit with
  | ([], _) => none
  | ('0' :: _ :: _, _) => none
  | r => some r

/-- A point and the digits after it; nothing stands for none. -/
def fractionPart : List Char → Option (List Char × List Char)
  | '.' :: cs =>
    match cs.span Char.isDigit with
    | ([], _) => none
    | (ds, rest) => some ('.' :: ds, rest)
  | cs => some ([], cs)

/-- A power of ten; nothing stands for none. -/
def powerPart : List Char → Option (List Char × List Char)
  | c :: cs =>
    if c = 'e' ∨ c = 'E' then
      let (sign, cs) := match cs with
        | '+' :: cs => (['+'], cs)
        | '-' :: cs => (['-'], cs)
        | _ => ([], cs)
      match cs.span Char.isDigit with
      | ([], _) => none
      | (ds, rest) => some (c :: sign ++ ds, rest)
    else some ([], c :: cs)
  | [] => some ([], [])

def unsigned (cs : List Char) : Option (List Char × List Char) := do
  let (whole, cs) ← wholePart cs
  let (fraction, cs) ← fractionPart cs
  let (power, cs) ← powerPart cs
  return (whole ++ fraction ++ power, cs)

/-- The spelling of a number, and what follows. -/
def numberBody : List Char → Option (List Char × List Char)
  | '-' :: cs => (unsigned cs).map fun r ↦ ('-' :: r.1, r.2)
  | cs => unsigned cs

/-- The token that stands first in a text without blanks in front, and what follows. -/
def token? : List Char → Option (Token × List Char)
  | '[' :: cs => some (.openArray, cs)
  | ']' :: cs => some (.closeArray, cs)
  | '\x7b' :: cs => some (.openObject, cs)
  | '\x7d' :: cs => some (.closeObject, cs)
  | ',' :: cs => some (.comma, cs)
  | ':' :: cs => some (.colon, cs)
  | 'n' :: 'u' :: 'l' :: 'l' :: cs => some (.leaf .null, cs)
  | 't' :: 'r' :: 'u' :: 'e' :: cs => some (.leaf (.bool true), cs)
  | 'f' :: 'a' :: 'l' :: 's' :: 'e' :: cs => some (.leaf (.bool false), cs)
  | '"' :: cs => (stringBody cs).map fun r ↦ (.leaf (.string r.1), r.2)
  | cs => (numberBody cs).map fun r ↦ (.leaf (.number r.1), r.2)

def isSpace (c : Char) : Bool := c == ' ' || c == '\n' || c == '\t' || c == '\r'

/-- The tokens of a text, at most `limit` of them. -/
def tokensUpTo : Nat → List Char → Option (List Token)
  | limit, cs =>
    match cs.dropWhile isSpace with
    | [] => some []
    | cs =>
      match limit with
      | 0 => none
      | limit + 1 => do
        let (t, rest) ← token? cs
        let ts ← tokensUpTo limit rest
        return t :: ts

/-- A text has no more tokens than characters. -/
def tokens? (cs : List Char) : Option (List Token) := tokensUpTo cs.length cs

/-- A container of which a part has been read, the last items and fields first. -/
inductive Frame
  | array (items : List Json)
  | object (fields : List (List Char × Json))
  /-- An object before the value of the named field. -/
  | field (fields : List (List Char × Json)) (name : List Char)

/-- What may come next. -/
inductive Expectation
  | value
  /-- A value, or the end of the array that has just been opened. -/
  | firstItem
  | name
  /-- A name, or the end of the object that has just been opened. -/
  | firstName
  | colon
  /-- A comma, or the end of the innermost container. -/
  | separator
  /-- Nothing: the value is complete. -/
  | nothing (value : Json)

structure Builder where
  /-- The open containers, the innermost first. -/
  frames : List Frame
  expected : Expectation

namespace Builder

/-- A complete value takes its place in the innermost container. -/
def complete (v : Json) : List Frame → Option Builder
  | [] => some ⟨[], .nothing v⟩
  | .array items :: fs => some ⟨.array (v :: items) :: fs, .separator⟩
  | .field fields name :: fs => some ⟨.object ((name, v) :: fields) :: fs, .separator⟩
  | .object _ :: _ => none

/-- The value that a token begins. -/
def value (fs : List Frame) : Token → Option Builder
  | .openArray => some ⟨.array [] :: fs, .firstItem⟩
  | .openObject => some ⟨.object [] :: fs, .firstName⟩
  | .leaf v => complete v fs
  | _ => none

def name : List Frame → Token → Option Builder
  | .object fields :: fs, .leaf (.string cs) => some ⟨.field fields cs :: fs, .colon⟩
  | _, _ => none

def close : List Frame → Token → Option Builder
  | .array items :: fs, .closeArray => complete (.array items.reverse) fs
  | .object fields :: fs, .closeObject => complete (.object fields.reverse) fs
  | _, _ => none

def comma : List Frame → Option Builder
  | .array items :: fs => some ⟨.array items :: fs, .value⟩
  | .object fields :: fs => some ⟨.object fields :: fs, .name⟩
  | _ => none

def step (b : Builder) (t : Token) : Option Builder :=
  match b.expected, t with
  | .value, t => value b.frames t
  | .firstItem, .closeArray => close b.frames .closeArray
  | .firstItem, t => value b.frames t
  | .name, t => name b.frames t
  | .firstName, .closeObject => close b.frames .closeObject
  | .firstName, t => name b.frames t
  | .colon, .colon => some ⟨b.frames, .value⟩
  | .separator, .comma => comma b.frames
  | .separator, t => close b.frames t
  | _, _ => none

def value? (b : Builder) : Option Json :=
  match b.expected with
  | .nothing v => some v
  | _ => none

end Builder

/-- The value that a text spells. -/
def read? (cs : List Char) : Option Json := do
  let ts ← tokens? cs
  let b ← ts.foldlM Builder.step ⟨[], .value⟩
  b.value?

end Harmonograph.Json
