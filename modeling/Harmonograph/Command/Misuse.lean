import Harmonograph.Command.Options
import Harmonograph.Text.ControlSequence

/-!
Misuse of the command, and what is said of it.
-/

namespace Harmonograph.Command

/-- How the command is misused. -/
inductive Misuse
  | unexpected (argument : String)
  | unexpectedValue (value : String) (s : Switch)
  | repeated (option : String)
  /-- A value is missing, or is empty where it must not be. -/
  | missingValue (argument : String)
  | invalidValue (value : String) (s : Setting) (reason : Option String)
  | missingFiles
  deriving DecidableEq, Repr

/-- A text of which some parts stand out. -/
structure MarkedText where
  /-- The parts that stand out, each behind the plain text before it. -/
  marked : List (String × String)
  /-- The plain text at the end. -/
  rest : String

/-- What is shown of a marked text. A control sequence ends where the look of the text changes. -/
def MarkedText.shown (t : MarkedText) : String :=
  String.join (t.marked.map fun p ↦ shownText p.1 ++ shownText p.2) ++ shownText t.rest

namespace Misuse

/-- What has gone wrong, up to the end of the line or of the list that belongs to it. -/
def cause : Misuse → MarkedText
  | unexpected argument => ⟨[("unexpected argument '", argument)], "' found"⟩
  | unexpectedValue value s =>
    ⟨[("unexpected value '", value), ("' for '", s.text)], "' found; no more were expected"⟩
  | repeated option => ⟨[("the argument '", option)], "' cannot be used multiple times"⟩
  | missingValue argument =>
    ⟨[("a value is required for '", argument)], "' but none was supplied"⟩
  | invalidValue value s reason =>
    ⟨[("invalid value '", value), ("' for '", s.text)], "'" ++ (reason.map (": " ++ ·)).getD ""⟩
  | missingFiles =>
    ⟨[("the following required arguments were not provided:\n  ", "<FILE>...")], ""⟩

/-- All that is said, the last line of it to where help is found. -/
def text (m : Misuse) : String :=
  let t := m.cause
  "error: " ++ MarkedText.shown
    ⟨t.marked ++ [(t.rest ++ "\n\nFor more information, try '", Switch.help.text)], "'.\n"⟩

end Misuse

/-- Why the command does not run: its user asks for something else, or misuses it. -/
inductive Refusal
  | help
  | version
  | misuse (m : Misuse)
  deriving DecidableEq, Repr

end Harmonograph.Command
