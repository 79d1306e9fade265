import Harmonograph.Log.Record

/-!
Loggers: they let messages of a least level pass and mark each with the innermost open span.
-/

namespace Harmonograph.Log

structure Logger where
  /-- The least level that passes. -/
  level : Level
  /-- The open spans, the innermost first. -/
  spans : List Span
  nextSpan : Nat
  deriving DecidableEq, Repr

/-- What happens to a logger: a span is entered or left, or something is to be said. -/
inductive Event (ν : Type)
  | enter (name : String)
  | leave
  | note (n : ν)

/-- Things that can be said in a log. -/
class Loggable (ν : Type) where
  level : ν → Level
  target : ν → String
  text : ν → String

instance : Loggable Message := ⟨Message.level, Message.target, Message.text⟩

namespace Logger

def ofLevel (level : Level) : Logger := ⟨level, [], 1⟩

variable (l : Logger)

def isEnabled (level : Level) : Bool := l.level ≤ level

def depth : Nat := l.spans.length

/-- Opens a span of this name. -/
def enter (name : String) : Logger :=
  { l with spans := ⟨l.nextSpan, name⟩ :: l.spans, nextSpan := l.nextSpan + 1 }

/-- Closes the innermost span. -/
def leave : Logger := { l with spans := l.spans.tail }

/-- The record of a message, said at `time`, in the innermost span. -/
def stamp (time : Nat) (m : Message) : Record :=
  ⟨m, time, l.spans.head?.map Span.id, l.spans.head?.map Span.name⟩

/-- The record of a message that passes. -/
def record? (time : Nat) (m : Message) : Option Record :=
  if l.isEnabled m.level then some (l.stamp time m) else none

variable {ν : Type} [Loggable ν]

/-- A text is made only for what passes. -/
def recordOf? (time : Nat) (n : ν) : Option Record :=
  if l.isEnabled (Loggable.level n) then
    some (l.stamp time ⟨Loggable.level n, Loggable.target n, Loggable.text n⟩)
  else none

def step (time : Nat) : Event ν → Logger × List Record
  | .enter name => (l.enter name, [])
  | .leave => (l.leave, [])
  | .note n => (l, (l.recordOf? time n).toList)

/-- The logger after some events, and the records that pass. -/
def run (time : Nat) : Logger → List (Event ν) → Logger × List Record
  | l, [] => (l, [])
  | l, e :: es =>
    let r := l.step time e
    let r' := run time r.1 es
    (r'.1, r.2 ++ r'.2)

theorem run_append (time : Nat) (l : Logger) (es fs : List (Event ν)) :
    l.run time (es ++ fs) =
      ((l.run time es).1.run time fs |>.1,
        (l.run time es).2 ++ ((l.run time es).1.run time fs).2) := by
  induction es generalizing l with
  | nil => rfl
  | cons e es ih =>
    simp only [List.cons_append, run, ih, List.append_assoc]

end Logger

end Harmonograph.Log
