import Harmonograph.Figure.Geometry
import Harmonograph.Number.Count

/-!
Generators: single points in oscillation or rotation.
-/

namespace Harmonograph

inductive Motion
  | oscillation
  | rotation
  /-- The motion of a generator that has been given none. -/
  | invalid
  deriving DecidableEq, Repr

namespace Motion

def text : Motion → String
  | oscillation => "oscillation"
  | rotation => "rotation"
  | invalid => "invalid"

/-- The motion that `cs` names in any letter case. -/
def ofName? (cs : List Char) : Option Motion :=
  [oscillation, rotation].find? fun m ↦ m.text.toList = cs.map Char.toLower

/-- The part of a period that is drawn at once. -/
def cycles : Motion → Float
  | oscillation => 0.125
  | rotation => 0.75
  | invalid => 0

end Motion

/-- A rule that a generator breaks. -/
inductive Flaw
  | invalidMotion
  | nonPositiveFrequency
  | nonPositiveAmplitude
  | zeroDirection
  deriving DecidableEq, Repr

namespace Flaw

def message : Flaw → String
  | invalidMotion => "missing or invalid type"
  | nonPositiveFrequency => "frequency must be positive"
  | nonPositiveAmplitude => "amplitude must be positive"
  | zeroDirection => "oscillation direction must be non-zero"

/-- The name of a flaw in data. -/
def tag : Flaw → String
  | invalidMotion => "invalid_type"
  | nonPositiveFrequency => "non_positive_frequency"
  | nonPositiveAmplitude => "non_positive_amplitude"
  | zeroDirection => "zero_direction"

end Flaw

structure Generator where
  name : String
  motion : Motion
  amplitude : Float
  frequency : Frequency
  direction : Point
  center : Point
  colour : Colour
  /-- How many points of its way to keep. -/
  bufferSize : Nat

/-- A field of a generator, as it is written. -/
inductive GeneratorField
  | motion (m : Motion)
  | name (s : String)
  | center (p : Point)
  | direction (p : Point)
  | frequency (x : Float)
  | startPhase (x : Float)
  | amplitude (x : Float)
  | colour (c : Colour)

/-- The ratio of the circumference of a circle to its diameter. -/
def pi : Float := 3.141592653589793

namespace Generator

/-- The generator that no field has been given. -/
def blank : Generator where
  name := ""
  motion := .invalid
  amplitude := 1
  frequency := .unset
  direction := ⟨1, 0⟩
  center := .zero
  colour := .black
  bufferSize := 0

/-- A later field takes the place of an earlier one. -/
def assign (g : Generator) : GeneratorField → Generator
  | .motion m => { g with motion := m }
  | .name s => { g with name := s }
  | .center p => { g with center := p }
  | .direction p => { g with direction := p }
  | .frequency x => { g with frequency := { g.frequency with value := x } }
  | .startPhase x => { g with frequency := g.frequency.withStart x }
  | .amplitude x => { g with amplitude := x }
  | .colour c => { g with colour := c }

variable (g : Generator)

def period : Float := g.frequency.period

def wavelength : Float := 2 * pi * g.amplitude

def isPositive (x : Float) : Bool := !(Binary64.isNaN x || x ≤ 0)

/-- Every rule that the generator breaks. -/
def flaws : List Flaw :=
  (if g.motion = .invalid then [.invalidMotion] else []) ++
  (if isPositive g.frequency.value then [] else [.nonPositiveFrequency]) ++
  (if isPositive g.amplitude then [] else [.nonPositiveAmplitude]) ++
  (if g.motion = .oscillation && g.direction.norm == 0 then [.zeroDirection] else [])

def isValid : Bool := g.flaws.isEmpty

/-- The number of time steps in the part of a period that is drawn at once. -/
def bufferHint (timeStep : Float) : Nat := Count.rounded (g.motion.cycles * g.period / timeStep)

def withBuffer (timeStep : Float) : Generator := { g with bufferSize := g.bufferHint timeStep }

def text : String :=
  "\x7bname: " ++ g.name ++ ", type: " ++ g.motion.text ++
    ", amplitude: " ++ numberText g.amplitude ++
    ", center: " ++ g.center.text ++ ", color: " ++ g.colour.text ++
    ", direction: " ++ g.direction.text ++ ", frequency: " ++ g.frequency.text ++ "\x7d"

end Generator

end Harmonograph
