import Harmonograph.Reading.Sheet

/-!
Figures under other names. A name is carried along and decides nothing: what a figure is made of,
whether it breaks a rule and how many points of it are kept are the same under any name.
-/

namespace Harmonograph

variable (f : String → String)

def GeneratorField.rename : GeneratorField → GeneratorField
  | .name s => .name (f s)
  | x => x

def GroupField.rename : GroupField → GroupField
  | .name s => .name (f s)
  | x => x

namespace Generator

def rename (g : Generator) : Generator := { g with name := f g.name }

variable (g : Generator)

theorem rename_assign (x : GeneratorField) :
    (g.assign x).rename f = (g.rename f).assign (x.rename f) := by
  cases x <;> rfl

theorem flaws_rename : (g.rename f).flaws = g.flaws := rfl

theorem isValid_rename : (g.rename f).isValid = g.isValid := rfl

theorem rename_withBuffer (timeStep : Float) :
    (g.withBuffer timeStep).rename f = (g.rename f).withBuffer timeStep := rfl

end Generator

namespace Group

def rename (g : Group) : Group := { g with name := f g.name }

variable (g : Group)

theorem rename_assign (x : GroupField) :
    (g.assign x).rename f = (g.rename f).assign (x.rename f) := by
  cases x <;> rfl

theorem members_rename : (g.rename f).members = g.members := rfl

theorem cycles_rename : (g.rename f).cycles = g.cycles := rfl

theorem rename_addMember (id : Nat) : (g.addMember id).rename f = (g.rename f).addMember id := rfl

theorem rename_withBuffer (hints : List Nat) :
    (g.withBuffer hints).rename f = (g.rename f).withBuffer hints := rfl

end Group

namespace Figure

def rename : Figure → Figure
  | generator g => generator (g.rename f)
  | group g => group (g.rename f)

theorem bufferSize_rename (x : Figure) : (x.rename f).bufferSize = x.bufferSize := by
  cases x <;> rfl

theorem rename_id : rename id = id := by
  funext x
  cases x <;> rfl

end Figure

namespace SheetDraft

/-- What a draft is made of, with its names seen through `f`. -/
def shown (d : SheetDraft) : Group × List Figure :=
  (d.group.rename f, d.drawing.figures.map (Figure.rename f))

variable {f} {d e : SheetDraft} (h : d.shown f = e.shown f)
include h

theorem shown_assign {x y : GroupField} (hxy : x.rename f = y.rename f) :
    shown f { d with group := d.group.assign x } =
      shown f { e with group := e.group.assign y } := by
  obtain ⟨hgroup, hfigures⟩ := Prod.mk.inj h
  apply Prod.ext
  · simp only [shown, Group.rename_assign, hgroup, hxy]
  · exact hfigures

theorem shown_addGenerator {g g' : Generator} (hg : g.rename f = g'.rename f)
    (extent extent' : Extent) :
    (d.addGenerator g extent).shown f = (e.addGenerator g' extent').shown f := by
  obtain ⟨hgroup, hfigures⟩ := Prod.mk.inj h
  have hlength : d.drawing.figures.length = e.drawing.figures.length := by
    simpa using congrArg List.length hfigures
  have hlast : Figure.rename f (.generator g) = Figure.rename f (.generator g') :=
    congrArg Figure.generator hg
  apply Prod.ext
  · simp only [shown, addGenerator, Group.rename_addMember, hgroup, hlength]
  · simp only [shown, addGenerator, Drawing.define, List.map_append, hfigures, List.map_cons, hlast]

/-- How much of the members is kept does not depend on their names. -/
theorem bufferSizes_eq : (d.drawing.members d.group).map Figure.bufferSize =
    (e.drawing.members e.group).map Figure.bufferSize := by
  obtain ⟨hgroup, hfigures⟩ := Prod.mk.inj h
  have hsizes : ∀ (d : Drawing) (id : Nat), (d.get? id).map Figure.bufferSize =
      (d.figures.map (Figure.rename f))[id]?.map Figure.bufferSize := by
    intro d id
    rw [Drawing.get?, List.getElem?_map, Option.map_map]
    congr 1
    funext x
    exact (Figure.bufferSize_rename f x).symm
  have hmembers : d.group.members = e.group.members := by
    rw [← Group.members_rename f, hgroup, Group.members_rename]
  simp only [Drawing.members, List.map_filterMap, hsizes, hfigures, hmembers]

theorem rename_finish : d.finish.rename f = e.finish.rename f := by
  rw [finish, finish, bufferSizes_eq h, Group.rename_withBuffer, Group.rename_withBuffer,
    (Prod.mk.inj h).1]

end SheetDraft

end Harmonograph
