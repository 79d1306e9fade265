import Harmonograph.Figure.Generator
import Harmonograph.Lexicon.Symbol
import Harmonograph.Source.Location

/-!
Why a source cannot be read.
-/

namespace Harmonograph

inductive Fault
  | unexpectedSymbol (found : Symbol) (expected : String)
  | missingSeparator (found : Symbol)
  | unknownMotion (found : String)
  | expectedIdentifier (field : Symbol) (found : String)
  | expectedNumber (found : String)
  | invalidNumber (text : String)
  | unterminatedComment
  | unexpectedEnd
  | invalidGenerator (name : String) (flaws : List Flaw)
  deriving DecidableEq, Repr

/-- Whether a source is malformed, or describes something that breaks a rule. -/
inductive FaultCategory
  | malformed
  | ruleBroken
  deriving DecidableEq, Repr

def FaultCategory.text : FaultCategory → String
  | malformed => "syntax"
  | ruleBroken => "validation"

namespace Fault

def message : Fault → String
  | unexpectedSymbol found expected => "unexpected " ++ found.text ++ ", expected " ++ expected
  | missingSeparator found => "expected ',' between values, found " ++ found.text
  | unknownMotion found =>
    "unknown entity type '" ++ found ++ "', expected 'oscillation' or 'rotation'"
  | expectedIdentifier field found =>
    "expected an identifier after " ++ field.text ++ ", found " ++ found
  | expectedNumber found => "expected a number, found " ++ found
  | invalidNumber text => "invalid number '" ++ text ++ "'"
  | unterminatedComment => "unterminated comment, expected '*/'"
  | unexpectedEnd => "unexpected end of input, expected '\x7d'"
  | invalidGenerator name flaws =>
    "invalid entity '" ++ name ++ "': " ++ ", ".intercalate (flaws.map Flaw.message)

def category : Fault → FaultCategory
  | invalidGenerator _ _ => .ruleBroken
  | _ => .malformed

/-- The name of a fault in data. -/
def tag : Fault → String
  | unexpectedSymbol _ _ => "UnexpectedToken"
  | missingSeparator _ => "MissingSeparator"
  | unknownMotion _ => "UnknownEntityType"
  | expectedIdentifier _ _ => "ExpectedIdentifier"
  | expectedNumber _ => "ExpectedNumber"
  | invalidNumber _ => "InvalidNumber"
  | unterminatedComment => "UnterminatedComment"
  | unexpectedEnd => "UnexpectedEndOfInput"
  | invalidGenerator _ _ => "InvalidEntity"

end Fault

/-- A fault, and how far the source had been read when it was found. -/
structure Failure where
  fault : Fault
  location : Location
  deriving DecidableEq, Repr

def Failure.text (f : Failure) : String := "[" ++ f.location.text ++ "] " ++ f.fault.message

end Harmonograph
