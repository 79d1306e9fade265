import Harmonograph.Files.Path
import Harmonograph.Json.Reader
import Harmonograph.Settings.LevelName
import Harmonograph.Settings.TimeStep

/-!
Project files: they list the sources of a drawing and may settle how it is made.
-/

namespace Harmonograph

structure Project where
  /-- The paths of the sources, seen from the folder of the project file. -/
  files : List String
  timeStep : Option Float
  /-- The name of a log level, as it is written. -/
  logLevel : Option String

/-- Why a project file is no good. -/
inductive ProjectError
  | malformed
  | unknownLevel (name : String)
  | invalidTimeStep (x : Float)

namespace ProjectError

/-- What is said of a file whose form is right. -/
def message? : ProjectError → Option String
  | malformed => none
  | unknownLevel name => some ("unknown log_level '" ++ name ++ "'")
  | invalidTimeStep x => some (TimeStep.refusal x)

end ProjectError

namespace Project

def ofJson? (v : Json) : Option Project := do
  match ← Json.fields? ["files", "time_delta", "log_level"] v with
  | [files, timeStep, logLevel] =>
    return {
      files := ← Json.needed? (Json.items? Json.string?) files
      timeStep := ← Json.omissible? Json.number? timeStep
      logLevel := ← Json.omissible? Json.string? logLevel }
  | _ => none

/-- What keeps a project from being used. -/
def fault? (p : Project) : Option ProjectError :=
  match p.logLevel.filter fun name ↦ (Log.Level.read? name).isNone, p.timeStep with
  | some name, _ => some (.unknownLevel name)
  | none, some x => if TimeStep.isValid x then none else some (.invalidTimeStep x)
  | none, none => none

def read (text : List Char) : Except ProjectError Project :=
  match (Json.read? text).bind ofJson? with
  | none => .error .malformed
  | some p =>
    match p.fault? with
    | some e => .error e
    | none => .ok p

/-- The paths of the sources, seen from where the path of the project file starts. -/
def resolved (p : Project) (path : String) : List String :=
  p.files.map (Path.join ((Path.parent? path).getD "."))

end Project

end Harmonograph
