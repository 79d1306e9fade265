import Harmonograph.Files.Error
import Harmonograph.Json.Basic
import Harmonograph.Reading.Fault

/-!
Reports of what went wrong in a run, for people and for programs.
-/

namespace Harmonograph

/-- What can go wrong in a run: a source cannot be understood, or a file not be opened. -/
inductive Problem
  | reading (f : Failure)
  | file (e : FileError)
  deriving DecidableEq, Repr

structure Report where
  /-- The part of the run that failed. -/
  phase : String
  category : Option FaultCategory
  file : String
  /-- Line and column. -/
  position : Option (Nat × Nat)
  tag : String
  /-- What went wrong, without the place. -/
  message : String
  deriving DecidableEq, Repr

namespace Problem

def text : Problem → String
  | reading f => f.text
  | file e => "File error: " ++ e.message

def report : Problem → Report
  | reading f => {
      phase := "parser"
      category := some f.fault.category
      file := f.location.file
      position := some (f.location.line, f.location.column)
      tag := f.fault.tag
      message := f.fault.message }
  | file e => {
      phase := "vfs"
      category := none
      file := e.path
      position := none
      tag := e.tag
      message := e.message }

end Problem

namespace Report

variable (r : Report)

def text : String :=
  let kind := (r.category.map FaultCategory.text).getD r.phase
  let place := match r.position with
    | some (line, column) => r.file ++ ":" ++ toString line ++ ":" ++ toString column
    | none => r.phase
  "[" ++ place ++ "] " ++ kind ++ " error: " ++ r.message

/-- On one line of a terminal. -/
def brief : String := r.phase ++ ": " ++ r.message

def json : Json :=
  let category := match r.category with
    | some c => [("category", Json.ofString c.text)]
    | none => []
  .record (category ++ [
    ("column", .ofOption (fun p ↦ .ofNat p.2) r.position), ("error_kind", .ofString r.tag),
    ("file", .ofString r.file), ("line", .ofOption (fun p ↦ .ofNat p.1) r.position),
    ("message", .ofString r.message), ("phase", .ofString r.phase)])

end Report

end Harmonograph
