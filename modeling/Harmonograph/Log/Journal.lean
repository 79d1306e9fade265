import Harmonograph.Files.Tree
import Harmonograph.Log.Logger
import Harmonograph.Log.Ring
import Harmonograph.Log.Setup

/-!
Journals: a logger with its outputs open.
-/

namespace Harmonograph.Log

/-- An output that has been opened. -/
inductive Channel
  | stdout
  | stderr
  | file (place : Place)
  | ring (r : Ring Record)

structure Journal where
  logger : Logger
  channels : List Channel
  /-- The files at hand, with all that has been written to them. -/
  files : FileTree
  /-- What has been written to the standard output. -/
  stdout : String
  stderr : String

namespace Journal

def ofLevel (level : Level) (files : FileTree) : Journal := ⟨.ofLevel level, [], files, "", ""⟩

variable (j : Journal)

def addChannel (c : Channel) : Journal := { j with channels := j.channels ++ [c] }

/-- Opens an output after the others. A file is made unless it is there. -/
def openOutput : Output → Except SystemError Journal
  | .stdout => .ok (j.addChannel .stdout)
  | .stderr => .ok (j.addChannel .stderr)
  | .ring capacity => .ok (j.addChannel (.ring (.empty capacity)))
  | .file path => do
    let place ← j.files.placeToWrite path
    return { j with files := j.files.append place "" }.addChannel (.file place)

/-- What is said of an output that cannot be opened. -/
def refusal (e : SystemError) : String := "IO error: " ++ e.message

/-- Opens the outputs of a setup, all of them or none. -/
def openStrictly (s : Setup) (files : FileTree) : Except SystemError Journal :=
  s.outputs.foldlM openOutput (ofLevel s.level files)

/-- Opens those outputs of a setup that can be opened. -/
def openLeniently (s : Setup) (files : FileTree) : Journal :=
  s.outputs.foldl (fun j o ↦ (j.openOutput o).toOption.getD j) (ofLevel s.level files)

/-- What is kept in the ring that was opened last. -/
def lastRing? : Option (Ring Record) :=
  j.channels.reverse.findSome? fun
    | .ring r => some r
    | _ => none

/-- Writes a record to an open output, which is then the last of the outputs. -/
def write (r : Record) (j : Journal) : Channel → Journal
  | .stdout => { j with stdout := j.stdout ++ r.line ++ "\n" }.addChannel .stdout
  | .stderr => { j with stderr := j.stderr ++ r.line ++ "\n" }.addChannel .stderr
  | .file place =>
    { j with files := j.files.append place (r.line ++ "\n") }.addChannel (.file place)
  | .ring ring => j.addChannel (.ring (ring.push r))

/-- Writes a record to all open outputs in turn. -/
def deliver (r : Record) : Journal := j.channels.foldl (write r) { j with channels := [] }

/-- Takes note of a message, if it passes. -/
def log (time : Nat) (m : Message) : Journal :=
  match j.logger.record? time m with
  | some r => j.deliver r
  | none => j

/-- Opens a span. -/
def enter (name : String) : Journal := { j with logger := j.logger.enter name }

end Journal

end Harmonograph.Log
