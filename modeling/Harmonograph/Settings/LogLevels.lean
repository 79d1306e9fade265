import Harmonograph.Settings.LevelName
import Harmonograph.Text.Occurrence

/-!
The levels that records must have to be shown, by the phase of the work that they come from.
-/

namespace Harmonograph

inductive Phase
  | tokenizer
  | parser
  deriving DecidableEq, Repr

namespace Phase

def name : Phase → String
  | tokenizer => "tokenizer"
  | parser => "parser"

/-- The name that records of this phase are shown under. -/
def target (p : Phase) : String := "harmonogram::" ++ p.name

/-- The phase of the part of the program that a record comes from. -/
def ofTarget? (target : String) : Option Phase :=
  if occursIn "::lexer".toList target.toList then some tokenizer
  else if occursIn "::parser".toList target.toList then some parser
  else none

end Phase

structure LogLevels where
  /-- For all records whose phase has no level of its own. -/
  everywhere : Log.Level
  tokenizer : Option Log.Level
  parser : Option Log.Level
  deriving DecidableEq, Repr

namespace LogLevels

def usual : LogLevels := ⟨.warn, none, none⟩

variable (l : LogLevels)

def ofPhase : Phase → Log.Level
  | .tokenizer => l.tokenizer.getD l.everywhere
  | .parser => l.parser.getD l.everywhere

/-- The level for records under a name that is or is not that of a phase. -/
def ofPhase? (p : Option Phase) : Log.Level := (p.map l.ofPhase).getD l.everywhere

/-- The lowest of the levels: whatever is shown anywhere passes it. -/
def lowest : Log.Level := l.everywhere.lower ((l.ofPhase .tokenizer).lower (l.ofPhase .parser))

theorem lowest_le (p : Option Phase) : l.lowest ≤ l.ofPhase? p := by
  have left (a b : Log.Level) : a.lower b ≤ a := by cases a <;> cases b <;> decide
  have right (a b : Log.Level) : a.lower b ≤ b := by cases a <;> cases b <;> decide
  match p with
  | none => exact left _ _
  | some .tokenizer => exact Nat.le_trans (right _ _) (left _ _)
  | some .parser => exact Nat.le_trans (right _ _) (right _ _)

end LogLevels

end Harmonograph
