import Harmonograph.Figure.Drawing
import Harmonograph.Json.Number

/-!
Drawings as data.
-/

namespace Harmonograph

def Point.json (p : Point) : Json := .record [("x", .ofFloat p.x), ("y", .ofFloat p.y)]

def Colour.json (c : Colour) : Json :=
  .record [("r", .ofFloat c.red), ("g", .ofFloat c.green), ("b", .ofFloat c.blue),
    ("a", .ofFloat c.alpha)]

def Frequency.json (f : Frequency) : Json :=
  .record [("value", .ofFloat f.value), ("phase", .ofFloat f.phase)]

def Generator.json (g : Generator) : Json :=
  .record [("kind", .ofString "simple"), ("name", .ofString g.name),
    ("type", .ofString g.motion.text), ("amplitude", .ofFloat g.amplitude),
    ("frequency", g.frequency.json), ("direction", g.direction.json), ("center", g.center.json),
    ("color", g.colour.json), ("preferred_buffer_size", .ofNat g.bufferSize)]

def Group.json (g : Group) : Json :=
  .record [("kind", .ofString "composite"), ("name", .ofString g.name),
    ("members", .array (g.members.map .ofNat)), ("cycles", .ofFloat g.cycles),
    ("center", g.center.json), ("color", g.colour.json),
    ("preferred_buffer_size", .ofNat g.bufferSize)]

def Figure.json : Figure → Json
  | .generator g => g.json
  | .group g => g.json

def Location.json (l : Location) : Json :=
  .record [("file", .ofString l.file), ("line", .ofNat l.line), ("column", .ofNat l.column)]

def Extent.json (e : Extent) : Json := .record [("begin", e.start.json), ("end", e.stop.json)]

/-- The names in order, each with its extent. -/
def NameIndex.json (index : NameIndex) : Json :=
  .record (index.toList.map fun e ↦ (e.1, e.2.json))

def Drawing.json (d : Drawing) : Json :=
  .record [("entities", .array (d.figures.map Figure.json)), ("locations", NameIndex.json d.index)]

end Harmonograph
