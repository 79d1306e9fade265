import Harmonograph.Figure.Basic
import Harmonograph.Figure.NameIndex

/-!
Drawings: all figures of some files, and where they are defined.
-/

namespace Harmonograph

/-- The figures of all files, file after file, and the last definition of each name. -/
structure Drawing where
  figures : List Figure
  index : NameIndex

namespace Drawing

def empty : Drawing := ⟨[], ∅⟩

/-- The drawing with one more figure, whose definition is `extent`. -/
def define (d : Drawing) (f : Figure) (extent : Extent) : Drawing where
  figures := d.figures ++ [f]
  index := d.index.insert f.name extent

variable (d : Drawing)

def get? (id : Nat) : Option Figure := d.figures[id]?

/-- The last figure of this name. -/
def find? (name : String) : Option Figure := d.figures.findRev? fun f ↦ f.name == name

def groups : List Group := d.figures.filterMap Figure.group?

/-- The figures that belong to a group. -/
def members (g : Group) : List Figure := g.members.filterMap d.get?

/-- How many generators, groups and names there are. -/
def summary : String :=
  let groups := d.groups.length
  toString (d.figures.length - groups) ++ " simple, " ++ toString groups ++ " composite, " ++
    toString d.index.size ++ " located"

end Drawing

end Harmonograph
