import Harmonograph.Log.Logger

/-!
What is recorded of the events of a log. A logger that enters and leaves spans marks its records
differently, but what passes is decided by the level alone.
-/

namespace Harmonograph.Log

variable {ν : Type} [Loggable ν]

/-- What is said, without the spans in which it is said. -/
def Event.note? {ν : Type} : Event ν → Option ν
  | .note n => some n
  | _ => none

namespace Message

def of (n : ν) : Message := ⟨Loggable.level n, Loggable.target n, Loggable.text n⟩

/-- A warning whose text begins with `head`. -/
def isWarning (head : String) (m : Message) : Bool :=
  decide (m.level = .warn) && head.toList.isPrefixOf m.text.toList

end Message

namespace Logger

variable (time : Nat) (l : Logger)

theorem recordOf?_of_isEnabled {n : ν} (h : l.isEnabled (Loggable.level n) = true) :
    l.recordOf? time n = some (l.stamp time (.of n)) := if_pos h

theorem recordOf?_of_not_isEnabled {n : ν} (h : ¬ l.isEnabled (Loggable.level n) = true) :
    l.recordOf? time n = none := if_neg h

theorem level_step (e : Event ν) : (l.step time e).1.level = l.level := by
  cases e <;> rfl

theorem map_toMessage_step (e : Event ν) : (l.step time e).2.map Record.toMessage =
    (e.note?.toList.map Message.of).filter fun m ↦ l.isEnabled m.level := by
  cases e with
  | enter name => rfl
  | leave => rfl
  | note n =>
    by_cases h : l.isEnabled (Message.of n).level
    · simp [step, recordOf?_of_isEnabled time l h, Event.note?, h, stamp]
    · simp [step, recordOf?_of_not_isEnabled time l h, Event.note?, h]

/-- The messages that pass are recorded in the order in which they are said. -/
theorem map_toMessage_run (es : List (Event ν)) : (l.run time es).2.map Record.toMessage =
    ((es.filterMap Event.note?).map Message.of).filter fun m ↦ l.isEnabled m.level := by
  -- Spans change the logger from event to event, but not what it lets pass.
  induction es generalizing l with
  | nil => rfl
  | cons e es ih =>
    have hlevel : ∀ level, (l.step time e).1.isEnabled level = l.isEnabled level := by
      simp [isEnabled, level_step]
    have hcons : (e :: es).filterMap Event.note? = e.note?.toList ++ es.filterMap Event.note? := by
      cases h : e.note? <;> simp [h]
    rw [run, List.map_append, map_toMessage_step, ih, hcons, List.map_append, List.filter_append]
    simp only [hlevel]

/-- Messages of a level that passes are recorded as often as they are said. -/
theorem countP_run {p : Message → Bool} (hp : ∀ m, p m = true → l.isEnabled m.level = true)
    (es : List (Event ν)) : (l.run time es).2.countP (fun r ↦ p r.toMessage) =
      (es.filterMap Event.note?).countP fun n ↦ p (.of n) := by
  have hrecords : (l.run time es).2.countP (fun r ↦ p r.toMessage) =
      ((l.run time es).2.map Record.toMessage).countP p := by
    rw [List.countP_map]
    rfl
  rw [hrecords, map_toMessage_run, List.countP_filter, List.countP_map]
  refine List.countP_congr fun n _ ↦ ?_
  simpa using fun h ↦ hp _ h

end Logger

end Harmonograph.Log
