import Harmonograph.Log.Record
import Harmonograph.Text.Quoted

/-!
Which records a run keeps, and where.
-/

namespace Harmonograph.Log

inductive Output
  | stdout
  | stderr
  /-- Records go to the end of a file. -/
  | file (path : String)
  /-- The newest records are kept in memory. -/
  | ring (capacity : Nat)
  deriving DecidableEq, Repr

structure Setup where
  level : Level
  outputs : List Output
  deriving DecidableEq, Repr

namespace Output

def text : Output → String
  | stdout => "Stdout"
  | stderr => "Stderr"
  | file path => "File(" ++ quoted path.toList ++ ")"
  | ring capacity => "RingBuffer(" ++ toString capacity ++ ")"

/-- Whether it makes sense to have this output twice. -/
def isRepeatable : Output → Bool
  | stdout | stderr => false
  | file _ | ring _ => true

end Output

/-- The level with one capital. -/
def Level.title : Level → String
  | trace => "Trace"
  | debug => "Debug"
  | info => "Info"
  | warn => "Warn"
  | error => "Error"

namespace Setup

def ofLevel (level : Level) : Setup := ⟨level, []⟩

def usual : Setup := ofLevel .info

/-- For those who work on sources. -/
def development : Setup := ⟨.debug, [.stdout, .ring 10000]⟩

/-- For those who only use them. -/
def production : Setup := ⟨.warn, [.stderr, .ring 1000]⟩

/-- Nothing is kept. -/
def silent : Setup := ofLevel .error

variable (s : Setup)

def addOutput (o : Output) : Setup :=
  if !o.isRepeatable && s.outputs.contains o then s else { s with outputs := s.outputs ++ [o] }

def text : String :=
  "LogConfig \x7b level: " ++ s.level.title ++ ", outputs: [" ++
    ", ".intercalate (s.outputs.map Output.text) ++ "] \x7d"

end Setup

end Harmonograph.Log
