import Harmonograph.Number.Whole
import Harmonograph.Source.Location

/-!
Reading a place from its text, the name of a file and two numbers. The name may have colons of its
own; the numbers may have a sign.
-/

namespace Harmonograph

/-- What stands before the last colon of a text and after it. -/
def splitLastColon (cs : List Char) : Option (List Char × List Char) :=
  match cs.reverse.span (· ≠ ':') with
  | (_, []) => none
  | (after, _ :: before) => some (before.reverse, after.reverse)

/-- Why a text is no place. -/
inductive LocationFault
  | malformed (text : List Char)
  | invalidLine (text : List Char)
  | invalidColumn (text : List Char)
  deriving DecidableEq, Repr

namespace LocationFault

def message : LocationFault → String
  | malformed text => "expected FILE:LINE:COL, got '" ++ String.ofList text ++ "'"
  | invalidLine text => "invalid line '" ++ String.ofList text ++ "'"
  | invalidColumn text => "invalid column '" ++ String.ofList text ++ "'"

end LocationFault

namespace Location

/-- The three parts of the text of a place. The name of the file is not empty. -/
def textParts? (cs : List Char) : Option (List Char × List Char × List Char) := do
  let (front, column) ← splitLastColon cs
  let (file, line) ← splitLastColon front
  if file.isEmpty then none else some (file, line, column)

def read (cs : List Char) : Except LocationFault Location :=
  match textParts? cs with
  | none => .error (.malformed cs)
  | some (file, line, column) =>
    match readCount? line, readCount? column with
    | none, _ => .error (.invalidLine line)
    | some _, none => .error (.invalidColumn column)
    | some line, some column => .ok ⟨String.ofList file, line, column⟩

end Location

example : splitLastColon "a:b:c".toList = some ("a:b".toList, "c".toList) ∧
    splitLastColon "a".toList = none := by decide +kernel

example : (Location.read "a:b:+1:02".toList).toOption = some ⟨"a:b", 1, 2⟩ := by decide +kernel

end Harmonograph
