import Harmonograph.Log.Logger
import Harmonograph.Log.Ring

/-!
Networks of loggers. A record that passes a logger goes to each of its sinks in turn: a ring keeps
it, and another logger lets its message pass or not and marks it with a span of its own.
-/

namespace Harmonograph.Log

/-- Where the records of a logger go. Rings and loggers are numbered. -/
inductive Sink
  | ring (k : Nat)
  | logger (j : Nat)
  deriving DecidableEq, Repr

/-- A logger and where its records go. -/
structure Hub where
  logger : Logger
  sinks : List Sink

/-- An entered span, for whoever is to close it. -/
structure Guard where
  /-- The logger of the span. -/
  owner : Nat
  isOpen : Bool

/-- Loggers that feed only loggers made after them. -/
structure Network where
  hubs : Array Hub
  rings : Array (Ring Record)
  guards : Array Guard
  forward : ∀ (i : Nat) (h : i < hubs.size) (j : Nat), .logger j ∈ hubs[i].sinks → i < j

namespace Network

def empty : Network := ⟨#[], #[], #[], fun i h ↦ absurd h (Nat.not_lt_zero i)⟩

variable (n : Network)

def addLogger (level : Level) : Network where
  hubs := n.hubs.push ⟨.ofLevel level, []⟩
  rings := n.rings
  guards := n.guards
  forward i h j hj := by
    rw [Array.getElem_push] at hj
    split at hj
    case isTrue hi => exact n.forward i hi j hj
    case isFalse => cases hj

/-- Changes the logger `i` and not where its records go. -/
def modifyLogger (i : Nat) (f : Logger → Logger) : Network where
  hubs := n.hubs.modify i fun h ↦ { h with logger := f h.logger }
  rings := n.rings
  guards := n.guards
  forward k h j hj := by
    rw [Array.size_modify] at h
    rw [Array.getElem_modify] at hj
    split at hj
    · exact n.forward k h j hj
    · exact n.forward k h j hj

/-- Makes `s` the last sink of the logger `i`. A logger does not feed one made before it. -/
def addSink (i : Nat) (s : Sink) (hs : ∀ j, s = .logger j → i < j) : Network where
  hubs := n.hubs.modify i fun h ↦ { h with sinks := h.sinks ++ [s] }
  rings := n.rings
  guards := n.guards
  forward k h j hj := by
    rw [Array.size_modify] at h
    rw [Array.getElem_modify] at hj
    split at hj
    case isTrue hk =>
      rcases List.mem_append.1 hj with hj | hj
      · exact n.forward k h j hj
      · exact hk ▸ hs j (List.mem_singleton.1 hj).symm
    case isFalse => exact n.forward k h j hj

/-- A new ring that keeps the records of the logger `i`. -/
def addRing (i capacity : Nat) : Network :=
  { n.addSink i (.ring n.rings.size) (fun _ h ↦ by cases h) with
    rings := n.rings.push (.empty capacity) }

def logger (i : Nat) : Logger := (n.hubs[i]?.map Hub.logger).getD (.ofLevel .error)

/-- The rings that a message said at the logger `i` reaches, in order, with the records they get. -/
def deliveries (time : Nat) (m : Message) (i : Nat) : List (Nat × Record) :=
  if h : i < n.hubs.size then
    match n.hubs[i].logger.record? time m with
    | none => []
    | some r => n.hubs[i].sinks.attach.flatMap fun s ↦
      match hs : s.1 with
      | .ring k => [(k, r)]
      | .logger j => deliveries time m j
  else []
termination_by n.hubs.size - i
decreasing_by
  have := n.forward i h j (hs ▸ s.2)
  omega

/-- Keeps a record in the ring `k`. -/
def keep (k : Nat) (r : Record) : Network := { n with rings := n.rings.modify k (·.push r) }

def log (time : Nat) (i : Nat) (m : Message) : Network :=
  (n.deliveries time m i).foldl (fun n d ↦ n.keep d.1 d.2) n

/-- Opens a span at the logger `i`, under the next guard. -/
def enter (i : Nat) (name : String) : Network :=
  { n.modifyLogger i (·.enter name) with guards := n.guards.push ⟨i, true⟩ }

/-- Gives up the guard `g`: once, the innermost span of its logger is closed. -/
def drop (g : Nat) : Network :=
  match n.guards[g]? with
  | some ⟨i, true⟩ =>
    { n.modifyLogger i Logger.leave with guards := n.guards.setIfInBounds g ⟨i, false⟩ }
  | _ => n

def clearRing (k : Nat) : Network := { n with rings := n.rings.modify k Ring.clear }

end Network

end Harmonograph.Log
