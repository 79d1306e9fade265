import Harmonograph.Number.Literal
import Harmonograph.Reading.Progress

/-!
Reading the values of fields. Only the separators between numbers are symbols.
-/

namespace Harmonograph.Reading

/-- What stands next in the file, for a message. -/
def found : Reading String := do
  match ← peek? with
  | some c => return "'" ++ String.singleton c ++ "'"
  | none => return "end of input"

/-- The name that follows a field keyword. -/
def identifier (field : Symbol) : Reading String := do
  let cs ← scan Scanner.identifier
  if cs.isEmpty then fail (.expectedIdentifier field (← found)) else return String.ofList cs

/-- A finite number. -/
def number : Reading Float := do
  let cs ← scan Scanner.numberText
  if cs.isEmpty then fail (.expectedNumber (← found))
  else match readNumber? cs with
    | some x => return x
    | none => fail (.invalidNumber (String.ofList cs))

def separator : Reading Unit := do
  let s ← next
  if s = .comma then return () else fail (.missingSeparator s)

/-- Two numbers. -/
def point : Reading Point := do
  let x ← number
  separator
  let y ← number
  return ⟨x, y⟩

/-- Four numbers. -/
def colour : Reading Colour := do
  let r ← number
  separator
  let g ← number
  separator
  let b ← number
  separator
  let a ← number
  return ⟨r, g, b, a⟩

def motion : Reading Motion := do
  let cs ← scan Scanner.identifier
  match Motion.ofName? cs with
  | some m => return m
  | none => fail (.unknownMotion (String.ofList cs))

theorem advances_found : Advances found :=
  advances_peek?.bind fun c ↦ by
    cases c
    · exact .pure _
    · exact .pure _

theorem advances_word (p : Char → Bool) : Advances (scan (·.word p)) :=
  advances_scan fun s ↦ s.remaining_word_le p

theorem advances_identifier (field : Symbol) : Advances (identifier field) :=
  (advances_word _).bind fun _ ↦ .ite (advances_found.bind fun _ ↦ advances_fail _) (.pure _)

theorem advances_number : Advances number :=
  (advances_word _).bind fun cs ↦ .ite (advances_found.bind fun _ ↦ advances_fail _) (by
    cases readNumber? cs
    · exact advances_fail _
    · exact .pure _)

theorem advances_separator : Advances separator :=
  advances_next.bind fun _ ↦ .ite (.pure _) (advances_fail _)

theorem advances_point : Advances point :=
  advances_number.bind fun _ ↦ advances_separator.bind fun _ ↦ .map _ advances_number

theorem advances_colour : Advances colour :=
  advances_number.bind fun _ ↦ advances_separator.bind fun _ ↦
  advances_number.bind fun _ ↦ advances_separator.bind fun _ ↦
  advances_number.bind fun _ ↦ advances_separator.bind fun _ ↦ .map _ advances_number

theorem advances_motion : Advances motion :=
  (advances_word _).bind fun cs ↦ by
    cases Motion.ofName? cs
    · exact advances_fail _
    · exact .pure _

end Harmonograph.Reading
