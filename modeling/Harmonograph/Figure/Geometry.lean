import Harmonograph.Number.Layout
import Harmonograph.Number.Length

/-!
The plain values that figures are made of.
-/

namespace Harmonograph

/-- A point of the plane, or a vector. -/
structure Point where
  x : Float
  y : Float

namespace Point

def zero : Point := ⟨0, 0⟩

instance : Add Point := ⟨fun p q ↦ ⟨p.x + q.x, p.y + q.y⟩⟩

instance : Sub Point := ⟨fun p q ↦ ⟨p.x - q.x, p.y - q.y⟩⟩

/-- Equal as numbers: the two zeros are equal, and what is no number equals nothing. -/
instance : BEq Point := ⟨fun p q ↦ p.x == q.x && p.y == q.y⟩

def norm (p : Point) : Float := Binary64.hypotenuse p.x p.y

def text (p : Point) : String :=
  "\x7bx: " ++ numberText p.x ++ ", y: " ++ numberText p.y ++ "\x7d"

end Point

/-- A colour and its opacity, each part nominally between 0 and 1. -/
structure Colour where
  red : Float
  green : Float
  blue : Float
  alpha : Float

namespace Colour

def black : Colour := ⟨0, 0, 0, 1⟩

def text (c : Colour) : String :=
  "\x7br: " ++ numberText c.red ++ ", g: " ++ numberText c.green ++ ", b: " ++ numberText c.blue ++
    ", a: " ++ numberText c.alpha ++ "\x7d"

end Colour

/-- How often a motion repeats in a second, and its phase in seconds. -/
structure Frequency where
  value : Float
  phase : Float

namespace Frequency

/-- The frequency of a figure that has been given none. -/
def unset : Frequency := ⟨-1, 0⟩

def period (f : Frequency) : Float := 1 / f.value

/-- The phase is given as a part of the period that the frequency has now. -/
def withStart (f : Frequency) (part : Float) : Frequency := { f with phase := part * f.period }

def text (f : Frequency) : String :=
  "\x7bfreq: " ++ numberText f.value ++ ", phase: " ++ numberText f.phase ++ "\x7d"

end Frequency

end Harmonograph
