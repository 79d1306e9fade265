import Harmonograph.Proofs.Reading.Items
import Mathlib.Data.List.Basic

/-!
Reading one list of files behind another: what the second gives on its own is put behind what the
first gives, with the numbers of its members moved up.
-/

namespace Harmonograph

namespace Group

/-- The group with the numbers of its members moved up by `k`. -/
def shift (k : Nat) (g : Group) : Group := { g with members := g.members.map (· + k) }

variable (k : Nat) (g : Group)

theorem shift_assign (f : GroupField) : (g.assign f).shift k = (g.shift k).assign f := by
  cases f <;> rfl

theorem shift_addMember (id : Nat) : (g.addMember id).shift k = (g.shift k).addMember (id + k) := by
  simp [shift, addMember]

theorem shift_withBuffer (hints : List Nat) :
    (g.withBuffer hints).shift k = (g.shift k).withBuffer hints := rfl

end Group

namespace Figure

def shift (k : Nat) : Figure → Figure
  | generator g => generator g
  | group g => group (g.shift k)

@[simp]
theorem name_shift (k : Nat) (f : Figure) : (f.shift k).name = f.name := by
  cases f <;> rfl

@[simp]
theorem bufferSize_shift (k : Nat) (f : Figure) : (f.shift k).bufferSize = f.bufferSize := by
  cases f <;> rfl

theorem map_name_shift (k : Nat) (fs : List Figure) :
    (fs.map (shift k)).map name = fs.map name := by
  rw [List.map_map]
  exact List.map_congr_left fun f _ ↦ f.name_shift k

theorem map_members_shift (k : Nat) (fs : List Figure) :
    ((fs.map (shift k)).filterMap group?).map Group.members =
      ((fs.filterMap group?).map Group.members).map fun ids ↦ ids.map (· + k) := by
  rw [List.filterMap_map, List.map_filterMap, List.map_filterMap, List.map_filterMap]
  exact List.filterMap_congr fun f _ ↦ by cases f <;> rfl

end Figure

/-- `e` is the drawing `d` put behind the drawing `front`: the names of `d` hide those of
`front`. -/
structure Drawing.Behind (front d e : Drawing) : Prop where
  figures : e.figures = front.figures ++ d.figures.map (Figure.shift front.figures.length)
  index : ∀ name : String, e.index[name]? = d.index[name]?.or front.index[name]?

namespace Drawing.Behind

variable {front d e : Drawing}

theorem empty (front : Drawing) : front.Behind .empty front where
  figures := by simp [Drawing.empty]
  index name := by simp [Drawing.empty]

theorem define (h : front.Behind d e) (f : Figure) (extent : Extent) :
    front.Behind (d.define f extent) (e.define (f.shift front.figures.length) extent) where
  figures := by simp [Drawing.define, h.figures]
  index name := by
    simp only [Drawing.define, Std.TreeMap.getElem?_insert, Figure.name_shift]
    split
    · rfl
    · exact h.index name

theorem length_figures (h : front.Behind d e) :
    e.figures.length = d.figures.length + front.figures.length := by
  rw [h.figures, List.length_append, List.length_map, Nat.add_comm]

theorem get? (h : front.Behind d e) (id : Nat) :
    e.get? (id + front.figures.length) = (d.get? id).map (Figure.shift front.figures.length) := by
  rw [Drawing.get?, h.figures, List.getElem?_append_right (Nat.le_add_left _ _), Nat.add_sub_cancel,
    List.getElem?_map]
  rfl

theorem members (h : front.Behind d e) (g : Group) :
    e.members (g.shift front.figures.length) =
      (d.members g).map (Figure.shift front.figures.length) := by
  simp only [Drawing.members, Group.shift, List.filterMap_map, List.map_filterMap]
  exact List.filterMap_congr fun id _ ↦ h.get? id

end Drawing.Behind

/-- `e` is the draft `d` put behind the drawing `front`. -/
structure SheetDraft.Behind (front : Drawing) (d e : SheetDraft) : Prop where
  group : e.group = d.group.shift front.figures.length
  drawing : front.Behind d.drawing e.drawing

namespace SheetDraft.Behind

open Reading

variable {front : Drawing} {d e : SheetDraft}

theorem addGenerator (h : Behind front d e) (g : Generator) (extent : Extent) :
    Behind front (d.addGenerator g extent) (e.addGenerator g extent) where
  group := by
    simp only [SheetDraft.addGenerator, h.group, h.drawing.length_figures, Group.shift_addMember]
  drawing := h.drawing.define (.generator g) extent

theorem takeSheetItem (h : Behind front d e) (item : SheetItem) :
    Behind front (takeSheetItem d item) (takeSheetItem e item) := by
  cases item with
  | comment => exact h
  | field f =>
    refine ⟨?_, h.drawing⟩
    simp only [Reading.takeSheetItem, h.group, Group.shift_assign]
  | block g extent => exact h.addGenerator g extent

theorem foldl (h : Behind front d e) (items : List SheetItem) :
    Behind front (items.foldl Reading.takeSheetItem d) (items.foldl Reading.takeSheetItem e) := by
  induction items generalizing d e with
  | nil => exact h
  | cons item items ih => exact ih (h.takeSheetItem item)

/-- The members of a draft are as large as they were before it was put behind `front`. -/
theorem finish (h : Behind front d e) : e.finish = d.finish.shift front.figures.length := by
  rw [SheetDraft.finish, SheetDraft.finish, Group.shift_withBuffer, h.group, h.drawing.members,
    List.map_map]
  congr 1
  exact List.map_congr_left fun f _ ↦ f.bufferSize_shift _

theorem close (h : Behind front d e) (extent : Extent) :
    front.Behind (d.close extent) (e.close extent) := by
  have hdefine := h.drawing.define (.group d.finish) extent
  simp only [Figure.shift, ← h.finish] at hdefine
  exact hdefine

end SheetDraft.Behind

namespace Run

/-- Two runs end alike: with the same failure, or with a drawing and that drawing behind `front`. -/
inductive Alike (front : Drawing) : Except Failure Drawing → Except Failure Drawing → Prop
  | error (e : Failure) : Alike front (.error e) (.error e)
  | ok {d e : Drawing} (h : front.Behind d e) : Alike front (.ok d) (.ok e)

namespace Alike

variable {front d : Drawing} {x y : Except Failure Drawing}

theorem bind {f g : Drawing → Except Failure Drawing} (h : Alike front x y)
    (hf : ∀ d e, front.Behind d e → Alike front (f d) (g e)) : Alike front (x >>= f) (y >>= g) := by
  cases h with
  | error e => exact .error e
  | ok hb => exact hf _ _ hb

theorem eq_error {e : Failure} (h : Alike front x y) (hx : x = .error e) : y = .error e := by
  cases h with
  | error f => exact hx
  | ok hb => cases hx

theorem eq_ok (h : Alike front x y) (hx : x = .ok d) : ∃ e, y = .ok e ∧ front.Behind d e := by
  cases h with
  | error f => cases hx
  | ok hb =>
    cases hx
    exact ⟨_, rfl, hb⟩

end Alike

section Append

variable {π : Type} [PathLike π] (timeStep : Float) (readText : π → Except FileError String)
  {front d e : Drawing}

theorem alike_file (h : front.Behind d e) (path text : String) :
    Alike front (file timeStep d path text).1 (file timeStep e path text).1 := by
  rcases file_eq_foldl timeStep path text with ⟨f, hf⟩ | ⟨items, extent, -, hok⟩
  · rw [hf, hf]
    exact .error f
  · rw [hok, hok]
    have hstart : SheetDraft.Behind front ⟨.blank, d⟩ ⟨.blank, e⟩ := ⟨rfl, h⟩
    exact .ok ((hstart.foldl items).close extent)

theorem alike_files (h : front.Behind d e) (paths : List π) :
    Alike front (files timeStep readText d paths).1 (files timeStep readText e paths).1 := by
  induction paths generalizing d e with
  | nil => exact .ok h
  | cons path paths ih =>
    cases hr : readText path with
    | error f =>
      rw [files_of_unreadable hr, files_of_unreadable hr]
      exact ih h
    | ok text =>
      rw [files_of_readable hr, files_of_readable hr]
      exact (alike_file timeStep h _ text).bind fun _ _ hb ↦ ih hb

/-- Reading one list of files behind another. The first failure is that of the whole run; without
one the drawing of the second list is put behind the drawing of the first. -/
theorem all_append (xs ys : List π) :
    (∀ e, (all timeStep readText xs).1 = .error e →
      (all timeStep readText (xs ++ ys)).1 = .error e) ∧
    (∀ a e, (all timeStep readText xs).1 = .ok a → (all timeStep readText ys).1 = .error e →
      (all timeStep readText (xs ++ ys)).1 = .error e) ∧
    (∀ a b, (all timeStep readText xs).1 = .ok a → (all timeStep readText ys).1 = .ok b →
      ∃ c, (all timeStep readText (xs ++ ys)).1 = .ok c ∧
        c.figures = a.figures ++ b.figures.map (Figure.shift a.figures.length) ∧
        ∀ name : String, c.index[name]? = b.index[name]?.or a.index[name]?) := by
  simp only [all]
  rw [files_append]
  have halike := fun a ↦ alike_files timeStep readText (.empty a) ys
  refine ⟨?_, ?_, ?_⟩
  · intro e he
    rw [he]
    rfl
  · intro a e ha he
    rw [ha]
    exact (halike a).eq_error he
  · intro a b ha hb
    obtain ⟨c, hc, hbehind⟩ := (halike a).eq_ok hb
    rw [ha]
    exact ⟨c, hc, hbehind.figures, hbehind.index⟩

end Append

/-- The files `a` and `b` have a name in common, and any other has a brace too few. -/
def namesakes (path : String) : Except FileError String :=
  match path with
  | "a" => .ok "name: X \x7bname: A type: rotation frequency: 2\x7d"
  | "b" => .ok "\x7bname: A type: rotation frequency: 4\x7d name: Y"
  | _ => .ok "\x7bname: B"

/-- The later one of two namesakes is in the index. The failure of a file is that of a list before
it and of a list behind it. -/
theorem all_append_of_namesakes :
    (∃ d, (all 0.5 namesakes ["a", "b"]).1 = .ok d ∧
      d.figures.map Figure.name = ["A", "X", "A", "Y"] ∧
      d.groups.map Group.members = [[0], [2]] ∧ d.index["A"]? = some ⟨⟨"b", 1, 2⟩, ⟨"b", 1, 38⟩⟩ ∧
      d.index["X"]? = some ⟨⟨"a", 1, 1⟩, ⟨"a", 1, 46⟩⟩) ∧
    ∃ e, (all 0.5 namesakes ["c"]).1 = .error e ∧ (all 0.5 namesakes ["c", "b"]).1 = .error e ∧
      (all 0.5 namesakes ["a", "c"]).1 = .error e := by
  let parts (d : Drawing) :=
    (d.figures.map Figure.name, d.groups.map Group.members, [d.index["A"]?, d.index["X"]?])
  have ha : (all 0.5 namesakes ["a"]).1.toOption.map parts = some (["A", "X"], [[0]],
      [some ⟨⟨"a", 1, 10⟩, ⟨"a", 1, 46⟩⟩, some ⟨⟨"a", 1, 1⟩, ⟨"a", 1, 46⟩⟩]) := by
    decide +kernel
  have hb : (all 0.5 namesakes ["b"]).1.toOption.map parts = some (["A", "Y"], [[0]],
      [some ⟨⟨"b", 1, 2⟩, ⟨"b", 1, 38⟩⟩, none]) := by
    decide +kernel
  have hc : (all 0.5 namesakes ["c"]).1.isOk = false := by
    decide +kernel
  obtain ⟨a, ha, hpartsA⟩ := exists_ok_of_map_toOption ha
  obtain ⟨b, hb, hpartsB⟩ := exists_ok_of_map_toOption hb
  simp only [parts, Prod.mk.injEq, List.cons.injEq, and_true] at hpartsA hpartsB
  constructor
  · obtain ⟨d, hd, hfigures, hindex⟩ := (all_append 0.5 namesakes ["a"] ["b"]).2.2 a b ha hb
    have hlength : a.figures.length = 2 := by rw [← List.length_map, hpartsA.1]; rfl
    refine ⟨d, hd, ?_, ?_, ?_, ?_⟩
    · rw [hfigures, List.map_append, Figure.map_name_shift, hpartsA.1, hpartsB.1]
      rfl
    · simp only [Drawing.groups] at hpartsA hpartsB ⊢
      rw [hfigures, List.filterMap_append, List.map_append, Figure.map_members_shift, hpartsA.2.1,
        hpartsB.2.1, hlength]
      rfl
    · rw [hindex, hpartsB.2.2.1]
      rfl
    · rw [hindex, hpartsB.2.2.2, hpartsA.2.2.2]
      rfl
  · cases he : (all 0.5 namesakes ["c"]).1 with
    | ok d =>
      rw [he] at hc
      cases hc
    | error e =>
      refine ⟨e, rfl, (all_append 0.5 namesakes ["c"] ["b"]).1 e he, ?_⟩
      exact (all_append 0.5 namesakes ["a"] ["c"]).2.1 a e ha he

end Run

end Harmonograph
