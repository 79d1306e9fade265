import Std.Data.TreeMap
import Harmonograph.Source.Extent

/-!
Where names are defined in the source, and which of them lie at a place.
-/

namespace Harmonograph

/-- The extent of the definition of each name. -/
abbrev NameIndex := Std.TreeMap String Extent

namespace NameIndex

/-- The entries whose extents contain `p`, in the order of their names. -/
def containing (index : NameIndex) (p : Location) : List (String × Extent) :=
  index.toList.filter fun e ↦ p ∈ e.2

/-- Of two entries, the second unless its extent reaches beyond the first. -/
def inner (best entry : String × Extent) : String × Extent :=
  if best.2.Covers entry.2 then entry else best

/-- The entry left when each in turn is held against the best of those before it. -/
def innermost? : List (String × Extent) → Option (String × Extent)
  | [] => none
  | e :: es => some (es.foldl inner e)

/-- The most specific name at `p`. -/
def resolve (index : NameIndex) (p : Location) : Option String :=
  (innermost? (index.containing p)).map (·.1)

end NameIndex

end Harmonograph
