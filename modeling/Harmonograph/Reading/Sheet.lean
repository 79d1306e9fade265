import Harmonograph.Figure.Drawing
import Harmonograph.Reading.Block

/-!
Reading a whole file: the fields of its group, in any order, with comments and the blocks of its
generators between them.
-/

namespace Harmonograph

/-- A file that is being read: its group so far, and the drawing with its generators so far. -/
structure SheetDraft where
  group : Group
  drawing : Drawing

namespace SheetDraft

/-- Adds a generator of the file. Its number is its place among all figures of the drawing. -/
def addGenerator (d : SheetDraft) (g : Generator) (extent : Extent) : SheetDraft where
  group := d.group.addMember d.drawing.figures.length
  drawing := d.drawing.define (.generator g) extent

/-- The group of the file, once all of it is known. -/
def finish (d : SheetDraft) : Group :=
  d.group.withBuffer ((d.drawing.members d.group).map Figure.bufferSize)

end SheetDraft

namespace Reading

/-- What may stand in a file. -/
inductive SheetItem
  | comment
  | field (f : GroupField)
  | block (g : Generator) (extent : Extent)

variable (timeStep : Float)

/-- The item that a symbol opens. -/
def sheetItem? : Symbol → Option (Reading SheetItem)
  | .name => some (.field <$> .name <$> identifier .name)
  | .center => some (.field <$> .center <$> point)
  | .color => some (.field <$> .colour <$> colour)
  | .cycles => some (.field <$> .cycles <$> number)
  | .entityBegin => some ((fun g ↦ .block g.1 g.2) <$> block timeStep)
  | .commentBegin => some ((fun _ ↦ .comment) <$> (comment : Reading Unit))
  | _ => none

/-- A file with one more item taken in. -/
def takeSheetItem (d : SheetDraft) : SheetItem → SheetDraft
  | .comment => d
  | .field f => { d with group := d.group.assign f }
  | .block g extent => d.addGenerator g extent

theorem advances_sheetItem {s : Symbol} {m : Reading SheetItem}
    (h : sheetItem? timeStep s = some m) :
    Advances m := by
  cases s <;> simp only [sheetItem?, Option.some.injEq, reduceCtorEq] at h <;> subst h
  case center => exact (advances_point.map _).map _
  case color => exact (advances_colour.map _).map _
  case cycles => exact (advances_number.map _).map _
  case name => exact ((advances_identifier _).map _).map _
  case commentBegin => exact advances_comment.map _
  case entityBegin => exact (advances_block _).map _

/-- Reads the items of a file, to its end, into `d`. -/
def sheetItems (d : SheetDraft) (p : Progress) : Except Failure SheetDraft × Progress :=
  let r := p.next
  if _ : r.1 = .endOfInput then (.ok d, r.2)
  else match _ : sheetItem? timeStep r.1 with
    | none =>
      fail (.unexpectedSymbol r.1 "'name:', 'center:', 'color:', 'cycles:', '\x7b' or '/*'") r.2
    | some m =>
      match _ : m r.2 with
      | (.error e, q) => (.error e, q)
      | (.ok item, q) => sheetItems (takeSheetItem d item) q
termination_by p.remaining
decreasing_by
  have h₁ := p.remaining_next_lt ‹_›
  have h₂ := advances_sheetItem timeStep ‹_› r.2
  rw [‹m r.2 = _›] at h₂
  exact Nat.lt_of_le_of_lt h₂ h₁

/-- Reads a file into the drawing `d`. The extent of its group is all of it. -/
def sheet (d : Drawing) : Reading Drawing := do
  let start ← location
  let s ← (sheetItems timeStep ⟨.blank, d⟩ : Reading SheetDraft)
  if s.group.cycles < 0 then say (.negativeCycles s.group.name s.group.cycles)
  let g := s.finish
  let extent := ⟨start, ← location⟩
  say (.located g.name extent)
  say (.group g)
  return s.drawing.define (.group g) extent

end Reading

/-- The drawing `d` with what the text `cs` of a file describes, or why it cannot be read, and what
there is to say about it. -/
def readSheet (timeStep : Float) (d : Drawing) (file : String) (cs : List Char) :
    Except Failure Drawing × List Notice :=
  let r := Reading.sheet timeStep d (.ofText file cs)
  (r.1, r.2.notices.toList)

end Harmonograph
