import Harmonograph.Command.Misuse
import Harmonograph.Settings.LevelName
import Harmonograph.Settings.TimeStep
import Harmonograph.Source.LocationText

/-!
Arguments of the command: names of sources, and options in front of them, behind or between.
-/

namespace Harmonograph.Command

structure Arguments where
  files : List String
  project : Option String
  /-- Whether the drawing is written as data. -/
  json : Bool
  locate : Option Location
  timeStep : Option Float
  level : Option Log.Level
  tokenizerLevel : Option Log.Level
  parserLevel : Option Log.Level
  format : Option EventFormat

namespace Arguments

def blank : Arguments where
  files := []
  project := none
  json := false
  locate := none
  timeStep := none
  level := none
  tokenizerLevel := none
  parserLevel := none
  format := none

variable (a : Arguments)

def has : Setting → Bool
  | .project => a.project.isSome
  | .locate => a.locate.isSome
  | .timeStep => a.timeStep.isSome
  | .level => a.level.isSome
  | .tokenizerLevel => a.tokenizerLevel.isSome
  | .parserLevel => a.parserLevel.isSome
  | .format => a.format.isSome

def readTimeStep (value : String) : Except String Float :=
  match readFloat? value.toList with
  | none => .error ("invalid time delta '" ++ value ++ "'")
  | some x => if TimeStep.isValid x then .ok x else .error (TimeStep.refusal x)

def readLevel (value : String) : Except String Log.Level :=
  match Log.Level.read? value with
  | none => .error ("unknown log level '" ++ value ++ "'")
  | some l => .ok l

/-- Gives the option `s` the value that was read, or the reason that there is none. -/
def settle {α : Type} (s : Setting) (value : String) (set : α → Arguments) :
    Except String α → Except Refusal Arguments
  | .ok x => .ok (set x)
  | .error reason => .error (.misuse (.invalidValue value s (some reason)))

/-- Gives an option a value. -/
def set (value : String) (s : Setting) : Except Refusal Arguments :=
  match s with
  | .project =>
    if value.isEmpty then .error (.misuse (.missingValue s.text))
    else .ok { a with project := some value }
  | .locate => settle s value (fun l ↦ { a with locate := some l })
    ((Location.read value.toList).mapError LocationFault.message)
  | .timeStep => settle s value (fun x ↦ { a with timeStep := some x }) (readTimeStep value)
  | .level => settle s value (fun l ↦ { a with level := some l }) (readLevel value)
  | .tokenizerLevel => settle s value (fun l ↦ { a with tokenizerLevel := some l })
    (readLevel value)
  | .parserLevel => settle s value (fun l ↦ { a with parserLevel := some l }) (readLevel value)
  | .format =>
    match EventFormat.ofName? value with
    | some f => .ok { a with format := some f }
    | none =>
      if value.isEmpty then .error (.misuse (.missingValue s.text))
      else .error (.misuse (.invalidValue value s none))

/-- Gives an option its only value. -/
def assign (value : String) (s : Setting) : Except Refusal Arguments :=
  if a.has s then .error (.misuse (.repeated s.text)) else a.set value s

/-- Files that are named one after the other. -/
def addFiles (paths : List String) : Except Refusal Arguments :=
  if paths.contains "" then .error (.misuse (.missingValue "[FILE]..."))
  else .ok { a with files := a.files ++ paths }

def turnOn : Switch → Except Refusal Arguments
  | .json =>
    if a.json then .error (.misuse (.repeated Switch.json.text)) else .ok { a with json := true }
  | .help => .error .help
  | .version => .error .version

end Arguments

/-- What has been read but is not settled, because more may belong to it. -/
inductive Pending
  | nothing
  | setting (s : Setting) (value : Option String)
  | files (paths : List String)

/-- The arguments part way through. -/
structure Reader where
  settled : Arguments
  pending : Pending
  /-- Whether all that follows is the name of a file. -/
  onlyFiles : Bool

namespace Reader

def start : Reader := ⟨.blank, .nothing, false⟩

variable (r : Reader)

/-- Settles what is pending. -/
def flush : Except Refusal Arguments :=
  match r.pending with
  | .nothing => .ok r.settled
  | .setting s none => .error (.misuse (.missingValue s.text))
  | .setting s (some value) => r.settled.assign value s
  | .files paths => r.settled.addFiles paths

def addFile (path : String) : Except Refusal Reader :=
  match r.pending with
  | .files paths => .ok { r with pending := .files (paths ++ [path]) }
  | _ => return { r with settled := ← r.flush, pending := .files [path] }

def turnOn (s : Switch) : Except Refusal Reader := do
  return { r with settled := ← (← r.flush).turnOn s, pending := .nothing }

/-- An option by its name, with the value after an equals sign if there is one. -/
def readNamed (name : String) (value : Option String) : Except Refusal Reader :=
  match Setting.ofName? name, Switch.ofName? name, value with
  | some s, _, none => return { r with settled := ← r.flush, pending := .setting s none }
  | some s, _, some value =>
    return { r with settled := ← (← r.flush).assign value s, pending := .nothing }
  | none, some s, none => r.turnOn s
  | none, some s, some value => .error (.misuse (.unexpectedValue value s))
  | none, none, _ => .error (.misuse (.unexpected ("--" ++ name)))

def readLetter (c : Char) : Except Refusal Reader :=
  match Switch.ofLetter? c with
  | some s => r.turnOn s
  | none => .error (.misuse (.unexpected (String.ofList ['-', c])))

/-- The value of the option before it, or else the name of a file. -/
def readPlain (argument : String) : Except Refusal Reader :=
  match r.pending with
  | .setting s none => .ok { r with pending := .setting s (some argument) }
  | _ => r.addFile argument

/-- What stands before the first equals sign, and what stands after it. -/
def splitEquals (cs : List Char) : String × Option String :=
  match cs.span (· ≠ '=') with
  | (name, []) => (String.ofList name, none)
  | (name, _ :: value) => (String.ofList name, some (String.ofList value))

def read (argument : String) : Except Refusal Reader :=
  if r.onlyFiles then r.addFile argument
  else match argument.toList with
  | ['-', '-'] => .ok { r with onlyFiles := true }
  | '-' :: '-' :: cs => r.readNamed (splitEquals cs).1 (splitEquals cs).2
  | '-' :: c :: _ => r.readLetter c
  | _ => r.readPlain argument

/-- The arguments, when nothing follows. A run without a project has files. -/
def finish : Except Refusal Arguments := do
  let a ← r.flush
  if a.files.isEmpty && a.project.isNone then throw (.misuse .missingFiles)
  return a

end Reader

def Arguments.read (arguments : List String) : Except Refusal Arguments := do
  let r ← arguments.foldlM Reader.read .start
  r.finish

end Harmonograph.Command
