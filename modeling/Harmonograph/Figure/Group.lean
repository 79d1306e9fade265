import Harmonograph.Figure.Geometry
import Harmonograph.Number.Count

/-!
Groups: generators that move as the sum of their motions.
-/

namespace Harmonograph

structure Group where
  name : String
  /-- The numbers of the generators that belong to the group. -/
  members : List Nat
  cycles : Float
  center : Point
  colour : Colour
  /-- How many points of its way to keep. -/
  bufferSize : Nat

/-- A field of a group, as it is written. -/
inductive GroupField
  | name (s : String)
  | center (p : Point)
  | colour (c : Colour)
  | cycles (x : Float)

namespace Group

/-- The group that no field has been given. -/
def blank : Group where
  name := ""
  members := []
  cycles := 0
  center := .zero
  colour := .black
  bufferSize := 0

/-- A later field takes the place of an earlier one. -/
def assign (g : Group) : GroupField → Group
  | .name s => { g with name := s }
  | .center p => { g with center := p }
  | .colour c => { g with colour := c }
  | .cycles x => { g with cycles := x }

variable (g : Group)

def addMember (id : Nat) : Group := { g with members := g.members ++ [id] }

/-- The largest hint of a member, times the cycles of the group when it has any. With a negative
number of cycles none are kept. -/
def bufferHint (hints : List Nat) : Nat :=
  let most := hints.foldl max 0
  if g.cycles == 0 then most
  else
    let size := g.cycles * Binary64.ofNat most
    Count.truncated (if size > 0 then size else 0)

def withBuffer (hints : List Nat) : Group := { g with bufferSize := g.bufferHint hints }

def text : String :=
  "\x7b" ++ g.name ++ ": [" ++ ", ".intercalate (g.members.map fun id ↦ "#" ++ toString id) ++
    "], cycles: " ++ numberText g.cycles ++ ", center: " ++ g.center.text ++
    ", color: " ++ g.colour.text ++ "\x7d"

end Group

end Harmonograph
