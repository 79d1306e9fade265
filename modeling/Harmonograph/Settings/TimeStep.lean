import Harmonograph.Json.Record
import Harmonograph.Number.Layout

/-!
The time between two steps of a figure, in seconds.
-/

namespace Harmonograph.TimeStep

/-- A hundredth of a second. -/
def usual : Float := Binary64.ofRatio false 1 100

def isValid (x : Float) : Bool :=
  Binary64.isFinite x && !Binary64.isNegative x && Binary64.magnitudeBits x != 0

/-- What is said of a time step that is not valid. -/
def refusal (x : Float) : String := "time_delta must be a positive number, got " ++ numberText x

def json (x : Float) : Json := .record [("time_delta", .ofFloat x)]

def ofJson? (v : Json) : Option Float := do
  match ← Json.fields? ["time_delta"] v with
  | [x] => Json.needed? Json.number? x
  | _ => none

end Harmonograph.TimeStep
