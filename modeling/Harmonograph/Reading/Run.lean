import Harmonograph.Files.SystemPath
import Harmonograph.Reading.Sheet

/-!
Reading the files of a drawing one after the other, with all that is said meanwhile.
-/

namespace Harmonograph

abbrev RunEvent := Log.Event Notice

/-- What a run gives, and the events of its log. -/
abbrev Run (α : Type) := Except Failure α × List RunEvent

/-- The notices of a file in a drawing that knows the names in `index` already: after a name that
it defines again it is said where it was defined before. -/
def withRelocations : NameIndex → List Notice → List Notice
  | _, [] => []
  | index, .located name extent :: ns =>
    let before := match index[name]? with
      | some previous => [.relocated name previous]
      | none => []
    .located name extent :: before ++ withRelocations (index.insert name extent) ns
  | index, n :: ns => n :: withRelocations index ns

namespace Run

variable {π : Type} [PathLike π] (timeStep : Float)

/-- Adds what a file describes to a drawing. -/
def file (d : Drawing) (file : String) (text : String) : Run Drawing :=
  let r := readSheet timeStep d file text.toList
  let notices := .reading file :: withRelocations d.index r.2
  (r.1, .enter "parse_file" :: notices.map .note ++ [.leave])

/-- Adds what the files describe to a drawing, in order. A file that cannot be opened is passed
over; the first that cannot be understood ends the run. All that is said of a file is said of the
name that its path is shown by. -/
def files (readText : π → Except FileError String) : Drawing → List π → Run Drawing
  | d, [] => (.ok d, [])
  | d, path :: paths =>
    match readText path with
    | .error e =>
      let r := files readText d paths
      (r.1, .note (.unreadable (PathLike.shown path) e) :: r.2)
    | .ok text =>
      match file timeStep d (PathLike.shown path) text with
      | (.error e, events) => (.error e, events)
      | (.ok d', events) =>
        let r := files readText d' paths
        (r.1, events ++ r.2)

/-- The drawing of all files. -/
def all (readText : π → Except FileError String) (paths : List π) : Run Drawing :=
  let r := files timeStep readText .empty paths
  let last := match r.1 with
    | .ok d => [.note (.allRead d.figures.length paths.length)]
    | .error _ => []
  (r.1, .enter "parse" :: r.2 ++ last ++ [.leave])

end Run

/-- Draws what the files at `paths` describe. -/
def draw {π : Type} [PathLike π] (timeStep : Float) (readText : π → Except FileError String)
    (paths : List π) : Run Drawing :=
  let r := Run.all timeStep readText paths
  let last := match r.1 with
    | .ok d => [.note (.completed d.summary)]
    | .error _ => []
  (r.1, .note (.started paths.length) :: .note .lexicon :: r.2 ++ last)

/-- Draws what the text of one file describes. -/
def drawText (timeStep : Float) (file text : String) : Run Drawing :=
  let r := Run.file timeStep .empty file text
  (r.1, .note .lexicon :: r.2)

end Harmonograph
