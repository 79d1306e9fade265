/-!
The symbols of the figure language: field keywords, motion names and punctuation.
-/

namespace Harmonograph

inductive Symbol
  | amplitude
  | center
  | color
  | cycles
  | direction
  | frequency
  | name
  | startPhase
  | type
  | oscillation
  | rotation
  | comma
  | commentBegin
  | commentEnd
  | entityBegin
  | entityEnd
  | endOfInput
  deriving DecidableEq, Repr

namespace Symbol

/-- The symbols in the order in which they enter the lexicon. The end of input has no spelling. -/
def spelled : List Symbol := [
  amplitude, center, color, comma, commentBegin, commentEnd, cycles, direction, frequency, name,
  oscillation, entityBegin, entityEnd, rotation, startPhase, type]

/-- How a symbol is written. -/
def literal? : Symbol → Option String
  | amplitude => some "amplitude:"
  | center => some "center:"
  | color => some "color:"
  | cycles => some "cycles:"
  | direction => some "direction:"
  | frequency => some "frequency:"
  | name => some "name:"
  | startPhase => some "startphase:"
  | type => some "type:"
  | oscillation => some "oscillation"
  | rotation => some "rotation"
  | comma => some ","
  | commentBegin => some "/*"
  | commentEnd => some "*/"
  | entityBegin => some "\x7b"
  | entityEnd => some "\x7d"
  | endOfInput => none

/-- The symbol that `cs` spells in any letter case. -/
def ofLiteral? (cs : List Char) : Option Symbol :=
  spelled.find? fun s ↦
    match s.literal? with
    | some l => l.toList = cs.map Char.toLower
    | none => false

/-- A keyword that opens a field. -/
def isField : Symbol → Bool
  | amplitude | center | color | cycles | direction | frequency | name | startPhase | type => true
  | _ => false

/-- How messages show a symbol. -/
def text (s : Symbol) : String :=
  match s.literal? with
  | some l => "'" ++ l ++ "'"
  | none => "end of input"

/-- The name of a symbol in traces. -/
def label : Symbol → String
  | amplitude => "Amplitude"
  | center => "Center"
  | color => "Color"
  | cycles => "Cycles"
  | direction => "Direction"
  | frequency => "Frequency"
  | name => "Name"
  | startPhase => "StartPhase"
  | type => "Type"
  | oscillation => "Oscillation"
  | rotation => "Rotation"
  | comma => "Comma"
  | commentBegin => "CommentBegin"
  | commentEnd => "CommentEnd"
  | entityBegin => "EntityBegin"
  | entityEnd => "EntityEnd"
  | endOfInput => "Eof"

/-- The name of a symbol in data. -/
def tag : Symbol → String
  | amplitude => "amplitude"
  | center => "center"
  | color => "color"
  | cycles => "cycles"
  | direction => "direction"
  | frequency => "frequency"
  | name => "name"
  | startPhase => "start_phase"
  | type => "type"
  | oscillation => "oscillation"
  | rotation => "rotation"
  | comma => "comma"
  | commentBegin => "comment_begin"
  | commentEnd => "comment_end"
  | entityBegin => "entity_begin"
  | entityEnd => "entity_end"
  | endOfInput => "eof"

theorem literal?_eq_none_iff (s : Symbol) : s.literal? = none ↔ s = endOfInput := by
  cases s <;> simp [literal?]

end Symbol

end Harmonograph
