/-!
Log records: what was said, how serious it is, and in which span.
-/

namespace Harmonograph.Log

/-- How serious a record is, the least first. -/
inductive Level
  | trace
  | debug
  | info
  | warn
  | error
  deriving DecidableEq, Repr

namespace Level

/-- The place of a level among all levels. -/
def code : Level → Nat
  | trace => 0
  | debug => 1
  | info => 2
  | warn => 3
  | error => 4

def ofCode? : Nat → Option Level
  | 0 => some trace
  | 1 => some debug
  | 2 => some info
  | 3 => some warn
  | 4 => some error
  | _ => none

instance : LE Level := ⟨fun a b ↦ a.code ≤ b.code⟩

instance (a b : Level) : Decidable (a ≤ b) := inferInstanceAs (Decidable (a.code ≤ b.code))

def text : Level → String
  | trace => "TRACE"
  | debug => "DEBUG"
  | info => "INFO"
  | warn => "WARN"
  | error => "ERROR"

theorem ofCode?_code (l : Level) : ofCode? l.code = some l := by
  cases l <;> rfl

end Level

/-- A stretch of work, numbered in the order of entering. -/
structure Span where
  id : Nat
  name : String
  deriving DecidableEq, Repr

/-- Something said, how serious it is, and the part of the program that says it. -/
structure Message where
  level : Level
  target : String
  text : String
  deriving DecidableEq, Repr

/-- A message with its time, in milliseconds, and the span it was said in. -/
structure Record extends Message where
  time : Nat
  spanId : Option Nat
  spanName : Option String
  deriving DecidableEq, Repr

/-- `n` in decimal, with zeros in front up to `width` digits. -/
def padded (width n : Nat) : String :=
  let digits := Nat.toDigits 10 n
  String.ofList (List.replicate (width - digits.length) '0' ++ digits)

/-- The time of day. -/
def clockText (time : Nat) : String :=
  let seconds := time / 1000
  padded 2 (seconds / 3600 % 24) ++ ":" ++ padded 2 (seconds / 60 % 60) ++ ":" ++
    padded 2 (seconds % 60) ++ "." ++ padded 3 (time % 1000)

namespace Record

/-- A span without a number is not shown. -/
def spanText (r : Record) : String :=
  match r.spanId, r.spanName with
  | some id, some name => " [" ++ name ++ "#" ++ toString id ++ "]"
  | some id, none => " [span=" ++ toString id ++ "]"
  | none, _ => ""

/-- The record as it is written after the time in brackets. -/
def body (r : Record) : String :=
  " " ++ r.level.text ++ " " ++ r.target ++ r.spanText ++ ": " ++ r.toMessage.text

/-- The record as it is written. -/
def line (r : Record) : String := "[" ++ clockText r.time ++ "]" ++ r.body

end Record

end Harmonograph.Log
