import Harmonograph.Text.Lines

/-!
Excerpts of a source: a line with those around it, and a mark under one of its characters.
-/

namespace Harmonograph

/-- The line with number `n`, counted from 1. -/
def lineAt? (cs : List Char) (n : Nat) : Option (List Char) :=
  if n = 0 then none else (lines cs)[n - 1]?

namespace Excerpt

inductive Row
  | rule
  | source (number : Nat) (text : List Char)
  /-- A mark under the character after the first `offset` ones. -/
  | mark (offset : Nat)
  deriving DecidableEq, Repr

/-- How many lines are shown on either side. -/
def reach : Nat := 2

def firstLine (line : Nat) : Nat := max 1 (line - reach)

def lastLine (count line : Nat) : Nat := min count (line + reach)

/-- The row of the line `number`, and under the line `line` the mark. -/
def rowsOf (line column : Nat) (text : List Char) (number : Nat) : List Row :=
  if number = line then [.source number text, .mark (column - 1)] else [.source number text]

/-- The lines from `firstLine` to `lastLine` between two rules. -/
def rows (ls : List (List Char)) (line column : Nat) : List Row :=
  let first := firstLine line
  let shown := (ls.take (lastLine ls.length line)).drop (first - 1)
  .rule :: (shown.zipIdx first).flatMap (fun l ↦ rowsOf line column l.1 l.2) ++ [.rule]

/-- `n` in decimal, with blanks in front up to `width` digits. -/
def gutter (width n : Nat) : List Char :=
  let digits := Nat.toDigits 10 n
  List.replicate (width - digits.length) ' ' ++ digits

def Row.render (width : Nat) : Row → List Char
  | rule => List.replicate (width + 3) '-' ++ ['\n']
  | source number text => gutter width number ++ [' ', '|', ' '] ++ text ++ ['\n']
  | mark offset =>
    List.replicate width ' ' ++ [' ', '|', ' '] ++ List.replicate offset ' ' ++ ['^', '\n']

/-- The excerpt around a place; there is none around a line that is not in the source. -/
def render (cs : List Char) (line column : Nat) : List Char :=
  let ls := lines cs
  if line = 0 ∨ ls.length < line then []
  else
    let width := (Nat.toDigits 10 (lastLine ls.length line)).length
    (rows ls line column).flatMap (Row.render width)

end Excerpt

example : Excerpt.render ['a', '\n', 'b'] 2 1 =
    "----\n1 | a\n2 | b\n  | ^\n----\n".toList := by decide +kernel

end Harmonograph
