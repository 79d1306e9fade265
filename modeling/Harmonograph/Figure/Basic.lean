import Harmonograph.Figure.Generator
import Harmonograph.Figure.Group

/-!
Figures: generators and groups.
-/

namespace Harmonograph

inductive Figure
  | generator (g : Generator)
  | group (g : Group)

namespace Figure

def name : Figure → String
  | generator g => g.name
  | group g => g.name

def center : Figure → Point
  | generator g => g.center
  | group g => g.center

def colour : Figure → Colour
  | generator g => g.colour
  | group g => g.colour

def bufferSize : Figure → Nat
  | generator g => g.bufferSize
  | group g => g.bufferSize

/-- A group breaks no rule. -/
def isValid : Figure → Bool
  | generator g => g.isValid
  | group _ => true

def withCenter (p : Point) : Figure → Figure
  | generator g => generator { g with center := p }
  | group g => group { g with center := p }

/-- The figure with its center at `p`, and the way that the center went. -/
def moveTo (f : Figure) (p : Point) : Figure × Point := (f.withCenter p, p - f.center)

def group? : Figure → Option Group
  | generator _ => none
  | group g => some g

def text : Figure → String
  | generator g => g.text
  | group g => g.text

end Figure

end Harmonograph
