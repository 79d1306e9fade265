import Harmonograph.Command.Entry
import Harmonograph.Figure.Data
import Harmonograph.Files.Disk
import Harmonograph.Reading.Report
import Harmonograph.Reading.Run
import Harmonograph.Settings.Basic
import Harmonograph.Source.Excerpt

/-!
Runs of the command: from its arguments and the files that it reads to all that it writes.
-/

namespace Harmonograph.Command

/-- Why a project cannot be worked on. -/
inductive ProjectFailure
  | unreadable (e : SystemError)
  | notText
  | invalid (e : ProjectError)

/-- What is said of the project file at `path`. -/
def ProjectFailure.text (path : String) : ProjectFailure → String
  | unreadable e => "cannot read '" ++ path ++ "': " ++ e.message
  | notText => "cannot read '" ++ path ++ "': stream did not contain valid UTF-8"
  | invalid e => "invalid '" ++ path ++ "'" ++ (e.message?.map (": " ++ ·)).getD ""

/-- What is written to the standard error. -/
inductive Remark
  | entry (e : Entry)
  | text (s : String)

def Remark.write (format : EventFormat) : Remark → String
  | entry e => e.write format ++ "\n"
  | text s => s

structure Outcome where
  /-- Zero when all is well, two when the command is misused, one otherwise. -/
  code : Nat
  stdout : String
  stderr : List Remark

def versionText : String := "harmonogram 0.1.0\n"

def helpText : String :=
  "Parse harmonogram description files\n\nUsage: harmonogram [OPTIONS] [FILE]...\n\nOptions:\n" ++
    String.join (Setting.all.map fun s ↦ "      " ++ s.text ++ "\n") ++
    String.join (Switch.all.map fun s ↦ "      " ++ s.text ++ "\n")

variable (read : SystemReader)

/-- The project in the file at `path`. -/
def readProject (path : String) : Except ProjectFailure Project :=
  match read path with
  | .error e => .error (.unreadable e)
  | .ok content =>
    match String.fromUTF8? content with
    | none => .error .notText
    | some text => (Project.read text.toList).mapError .invalid

namespace Arguments

variable (a : Arguments)

/-- The settings of a run: those of the project, if there is one, and the user's. -/
def settings (project : Option (String × Project)) : Settings :=
  let s := Settings.merge project a.files a.timeStep a.level
  { s with levels := { s.levels with tokenizer := a.tokenizerLevel, parser := a.parserLevel } }

/-- What a run does. -/
def settings? : Except (String × ProjectFailure) Settings :=
  match a.project with
  | none => .ok (a.settings none)
  | some path =>
    match readProject read path with
    | .error e => .error (path, e)
    | .ok project => .ok (a.settings (some (path, project)))

/-- What is written after a failure. -/
def showFailure (f : Failure) (before : List Remark) : Outcome :=
  let problem := Problem.reading f
  if a.json then ⟨1, (Json.record [("error", problem.report.json)]).pretty ++ "\n", before⟩
  else
    let excerpt := match read.text f.location.file with
      | .ok text =>
        String.ofList (Excerpt.render text.toList f.location.line f.location.column)
      | .error _ => ""
    ⟨1, "", before ++ [.text ("error: " ++ problem.text ++ "\n" ++ excerpt)]⟩

/-- What is written of a drawing. -/
def showDrawing (d : Drawing) (before : List Remark) : Outcome :=
  match a.locate with
  | some l =>
    match d.index.resolve l with
    | some name => ⟨0, name ++ "\n", before⟩
    | none => ⟨1, "", before ++ [.text ("no entity defined at " ++ l.text ++ "\n")]⟩
  | none =>
    if a.json then ⟨0, d.json.pretty ++ "\n", before⟩
    else ⟨0, String.join (d.figures.map fun f ↦ f.text ++ "\n"), before⟩

def perform (s : Settings) : Outcome :=
  let run := draw s.timeStep read.text s.files
  let records := ((Log.Logger.ofLevel s.levels.lowest).run 0 run.2).2
  let entries := Entry.shownOwn s.levels .debug (toString s.files.length ++ " input file(s)") ++
    Entry.shownRecords s.levels records
  match run.1 with
  | .error f => a.showFailure read f (entries.map .entry)
  | .ok d =>
    let last := Entry.shownOwn s.levels .info ("parsed: " ++ d.summary)
    a.showDrawing d ((entries ++ last).map .entry)

end Arguments

/-- Everything that the command does. -/
def run (arguments : List String) : Outcome :=
  match Arguments.read arguments with
  | .error .help => ⟨0, helpText, []⟩
  | .error .version => ⟨0, versionText, []⟩
  | .error (.misuse m) => ⟨2, "", [.text m.text]⟩
  | .ok a =>
    match a.settings? read with
    | .error (path, e) => ⟨1, "", [.text ("Error: " ++ e.text path ++ "\n")]⟩
    | .ok s => a.perform read s

/-- How the command writes the entries of its log. -/
def formatOf (arguments : List String) : EventFormat :=
  match Arguments.read arguments with
  | .ok a => a.format.getD .pretty
  | .error _ => .pretty

/-- The files that a run reads, as far as that is known from what it has read. -/
def filesNeeded (arguments : List String) : List String :=
  match Arguments.read arguments with
  | .error _ => []
  | .ok a =>
    match a.settings? read with
    | .error (path, _) => [path]
    | .ok s => a.project.toList ++ s.files

end Harmonograph.Command
