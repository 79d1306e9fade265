import Harmonograph.Proofs.Drawing.Charts
import Harmonograph.Proofs.Log.Records

/-!
What a higher level changes: fewer records pass, and those that do are the same. Spans are numbered
and kept whether or not anything passes in them.
-/

namespace Harmonograph

namespace Log

/-- The record without its time. -/
def Record.untimed (r : Record) : Record := { r with time := 0 }

namespace Logger

def atLevel (l : Logger) (level : Level) : Logger := { l with level := level }

variable {ν : Type} [Loggable ν] {l : Logger} {level : Level} (time time' : Nat)

/-- A record that passes both levels is the same under both. -/
theorem recordOf?_atLevel (h : l.level ≤ level) (n : ν) :
    ((l.atLevel level).recordOf? time n).map Record.untimed =
      ((l.recordOf? time' n).filter fun r ↦ level ≤ r.level).map Record.untimed := by
  by_cases hhigh : level ≤ Loggable.level n
  · have hlow : l.level ≤ Loggable.level n := Nat.le_trans h hhigh
    have hkept : ((some (l.stamp time' (.of n))).filter fun r : Record ↦ level ≤ r.level) =
        some (l.stamp time' (.of n)) := Option.filter_eq_some_iff.2 ⟨rfl, decide_eq_true hhigh⟩
    rw [recordOf?_of_isEnabled time _ (decide_eq_true hhigh),
      recordOf?_of_isEnabled time' _ (decide_eq_true hlow), hkept]
    rfl
  · have hnone : ((l.recordOf? time' n).filter fun r : Record ↦ level ≤ r.level) = none := by
      refine Option.filter_eq_none_iff.2 fun r hr hr' ↦ hhigh ?_
      obtain ⟨-, hr⟩ := Option.ite_none_right_eq_some.1 hr
      obtain rfl := Option.some.inj hr
      exact of_decide_eq_true hr'
    have hstop : (l.atLevel level).recordOf? time n = none :=
      recordOf?_of_not_isEnabled time _ fun hpass ↦ hhigh (of_decide_eq_true hpass)
    rw [hstop, hnone]

theorem step_atLevel (h : l.level ≤ level) (e : Event ν) :
    ((l.atLevel level).step time e).1 = (l.step time' e).1.atLevel level ∧
    ((l.atLevel level).step time e).2.map Record.untimed =
      ((l.step time' e).2.filter fun r ↦ level ≤ r.level).map Record.untimed := by
  cases e with
  | enter name => exact ⟨rfl, rfl⟩
  | leave => exact ⟨rfl, rfl⟩
  | note n =>
    refine ⟨rfl, ?_⟩
    have hrecord := congrArg Option.toList (recordOf?_atLevel time time' h n)
    simpa only [step, Option.toList_map, Option.toList_filter] using hrecord

/-- Side by side, the logger of the higher level is in the same spans, and what it lets pass is so
much of what the other one lets pass. -/
theorem run_atLevel (h : l.level ≤ level) (es : List (Event ν)) :
    ((l.atLevel level).run time es).1 = (l.run time' es).1.atLevel level ∧
    ((l.atLevel level).run time es).2.map Record.untimed =
      ((l.run time' es).2.filter fun r ↦ level ≤ r.level).map Record.untimed := by
  induction es generalizing l with
  | nil => exact ⟨rfl, rfl⟩
  | cons e es ih =>
    obtain ⟨hnext, hrecords⟩ := step_atLevel time time' h e
    obtain ⟨hlast, hrest⟩ := ih (l := (l.step time' e).1) (by rwa [level_step])
    simp only [run, hnext, hlast, List.map_append, List.filter_append, hrecords, hrest, and_self]

end Logger

end Log

namespace Run

variable {α : Type}

/-- What a run comes to when `l` listens: what it gives, the logger after it, and the records that
pass. -/
def heard (r : Run α) (l : Log.Logger) (time : Nat) :
    Except Failure α × Log.Logger × List Log.Record :=
  (r.1, l.run time r.2)

/-- Whatever the level of a logger is, a run gives the same and goes through the same spans. On the
lowest level all that is said is recorded; on a higher one only the records of this level and of
those above, but these in the same order and in the same spans. A run of any kind is a result and
the events on the way to it, so nothing in it can ask for the level. -/
theorem heard_of_levels (run : Run α) (l : Log.Logger) (level : Log.Level) (time time' : Nat) :
    let quiet := heard run (l.atLevel level) time
    let loud := heard run (l.atLevel .trace) time'
    quiet.1 = loud.1 ∧ quiet.2.1 = loud.2.1.atLevel level ∧
    quiet.2.2.map Log.Record.untimed =
      (loud.2.2.filter fun r ↦ level ≤ r.level).map Log.Record.untimed ∧
    loud.2.2.map Log.Record.toMessage = (notices run.2).map Log.Message.of := by
  intro quiet loud
  have hlowest : ∀ level : Log.Level, .trace ≤ level := fun level ↦ Nat.zero_le level.code
  obtain ⟨hlogger, hrecords⟩ :=
    (l.atLevel .trace).run_atLevel time time' (hlowest level) run.2
  refine ⟨rfl, hlogger, hrecords, ?_⟩
  exact (Log.Logger.map_toMessage_run time' (l.atLevel .trace) run.2).trans
    (List.filter_eq_self.2 fun m _ ↦ decide_eq_true (hlowest m.level))

variable {π : Type} [PathLike π]

/-- A reader is made, and it reads the files. -/
def ofReader (timeStep : Float) (readText : π → Except FileError String) (paths : List π) :
    Run Drawing :=
  let r := all timeStep readText paths
  (r.1, .note .lexicon :: r.2)

/-- Whatever the level of the logger of a reader is, the reader gives the same and goes through the
same spans, and a higher level only leaves records out. -/
theorem heard_atLevel (timeStep : Float) (readText : π → Except FileError String)
    (paths : List π) (l : Log.Logger) (level : Log.Level) (time time' : Nat) :
    let run := ofReader timeStep readText paths
    let quiet := heard run (l.atLevel level) time
    let loud := heard run (l.atLevel .trace) time'
    quiet.1 = loud.1 ∧ quiet.2.1 = loud.2.1.atLevel level ∧
    quiet.2.2.map Log.Record.untimed =
      (loud.2.2.filter fun r ↦ level ≤ r.level).map Log.Record.untimed ∧
    loud.2.2.map Log.Record.toMessage = (notices run.2).map Log.Message.of :=
  heard_of_levels _ l level time time'

end Run

end Harmonograph
