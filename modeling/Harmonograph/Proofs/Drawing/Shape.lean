import Harmonograph.Proofs.Drawing.Sheets

/-!
The shape of every drawing that a run gives: one complete sheet for each file that can be opened.
-/

namespace Harmonograph

open Reading

/-- The draft of a file behind the figures `front`, once the generators `gs` have been added. -/
structure SheetDraft.Holds (timeStep : Float) (front : List Figure) (gs : List Generator)
    (d : SheetDraft) : Prop where
  figures : d.drawing.figures = front ++ gs.map .generator
  members : d.group.members = List.range' front.length gs.length
  finished : ∀ g ∈ gs, g.Finished timeStep

namespace SheetDraft.Holds

variable {timeStep : Float} {front : List Figure} {gs : List Generator} {d : SheetDraft}

theorem blank (timeStep : Float) (d : Drawing) : Holds timeStep d.figures [] ⟨.blank, d⟩ where
  figures := (List.append_nil _).symm
  members := rfl
  finished := by simp

theorem addGenerator (h : Holds timeStep front gs d) {g : Generator} (hg : g.Finished timeStep)
    (extent : Extent) : Holds timeStep front (gs ++ [g]) (d.addGenerator g extent) where
  figures := by simp [SheetDraft.addGenerator, Drawing.define, h.figures]
  members := by
    simp [SheetDraft.addGenerator, Group.addMember, h.members, h.figures, List.range'_concat]
  finished := by
    intro g' hg'
    rcases List.mem_append.1 hg' with hmem | hmem
    · exact h.finished g' hmem
    · rw [List.mem_singleton.1 hmem]
      exact hg

theorem takeSheetItem (h : Holds timeStep front gs d) {item : SheetItem}
    (hi : item.Finished timeStep) : ∃ gs', Holds timeStep front gs' (takeSheetItem d item) := by
  cases item with
  | comment => exact ⟨gs, h⟩
  | field f => exact ⟨gs, h.figures, (Group.members_assign _ f).trans h.members, h.finished⟩
  | block g extent => exact ⟨gs ++ [g], h.addGenerator hi extent⟩

theorem foldl {items : List SheetItem} (hi : ∀ item ∈ items, item.Finished timeStep)
    (h : Holds timeStep front gs d) :
    ∃ gs', Holds timeStep front gs' (items.foldl Reading.takeSheetItem d) := by
  induction items generalizing gs d with
  | nil => exact ⟨gs, h⟩
  | cons item items ih =>
    obtain ⟨gs', h'⟩ := h.takeSheetItem (hi item List.mem_cons_self)
    exact ih (fun i hmem ↦ hi i (List.mem_cons_of_mem item hmem)) h'

theorem close (h : Holds timeStep front gs d) (extent : Extent) :
    ∃ s : Sheet, (d.close extent).figures = front ++ s.figures ∧ s.Fits timeStep front.length := by
  have hmembers : d.drawing.members d.group = gs.map .generator := by
    refine Drawing.members_eq front _ [] ?_ ?_
    · rw [h.figures, List.append_nil]
    · rw [h.members, List.length_map]
  refine ⟨⟨gs, d.finish⟩, ?_, h.finished, h.members, ?_⟩
  · simp only [SheetDraft.close, Drawing.define, h.figures, Sheet.figures, List.append_assoc]
  · rw [SheetDraft.finish, hmembers, List.map_map]
    rfl

end SheetDraft.Holds

/-- The sheet is what the file at `path` adds to a drawing with the figures `front`. -/
def Sheet.AddedBy {π : Type} [PathLike π] (timeStep : Float)
    (readText : π → Except FileError String) (path : π) (front : List Figure) (s : Sheet) : Prop :=
  ∃ text before after, readText path = .ok text ∧
    (Run.file timeStep before (PathLike.shown path) text).1 = .ok after ∧
    before.figures = front ∧ after.figures = front ++ s.figures

/-- The sheets are what the files at `paths` add, one after the other, behind the figures
`front`. -/
structure Sheet.Laid {π : Type} [PathLike π] (timeStep : Float)
    (readText : π → Except FileError String) (front : List Figure) (paths : List π)
    (ss : List Sheet) : Prop where
  length : ss.length = paths.length
  placed : ∀ (k : Nat) (s : Sheet), ss[k]? = some s → ∃ path, paths[k]? = some path ∧
    s.AddedBy timeStep readText path (front ++ allFigures (ss.take k)) ∧
    s.Fits timeStep (front.length + base ss k)

namespace Sheet.Laid

variable {π : Type} [PathLike π] {timeStep : Float} {readText : π → Except FileError String}
  {front : List Figure} {path : π} {paths : List π} {s : Sheet} {ss : List Sheet}

theorem nil : Laid timeStep readText front [] [] := ⟨rfl, fun k s hs ↦ by cases hs⟩

theorem cons (hs : s.AddedBy timeStep readText path front) (hfit : s.Fits timeStep front.length)
    (h : Laid timeStep readText (front ++ s.figures) paths ss) :
    Laid timeStep readText front (path :: paths) (s :: ss) where
  length := congrArg (· + 1) h.length
  placed := by
    rintro (_ | k) t ht
    · obtain rfl := Option.some.inj ht
      have hfront : front ++ allFigures [] = front := List.append_nil front
      exact ⟨path, rfl, hfront.symm ▸ hs, hfit⟩
    · obtain ⟨path', hpath, hadded, hfit'⟩ := h.placed k t ht
      have hcons : allFigures (s :: ss.take k) = s.figures ++ allFigures (ss.take k) := rfl
      refine ⟨path', hpath, ?_, ?_⟩
      · rwa [List.append_assoc, ← hcons] at hadded
      · rwa [List.length_append, Nat.add_assoc, base, ← List.length_append, ← hcons] at hfit'

end Sheet.Laid

namespace Run

variable (timeStep : Float)

theorem fits_of_file {before after : Drawing} {path text : String}
    (h : (file timeStep before path text).1 = .ok after) :
    ∃ s : Sheet, after.figures = before.figures ++ s.figures ∧
      s.Fits timeStep before.figures.length := by
  rcases file_eq_foldl timeStep path text with ⟨e, he⟩ | ⟨items, extent, hall, hok⟩
  · rw [he] at h
    cases h
  · rw [hok] at h
    obtain rfl := Except.ok.inj h
    obtain ⟨gs, hgs⟩ := (SheetDraft.Holds.blank timeStep before).foldl hall
    exact hgs.close extent

variable {π : Type} (readText : π → Except FileError String)

/-- Of the files at `paths`, those that can be opened. -/
def readable (paths : List π) : List π := paths.filter fun path ↦ (readText path).isOk

section Readable

variable {readText} {path : π} (paths : List π)

theorem readable_cons_of_error {e : FileError} (h : readText path = .error e) :
    readable readText (path :: paths) = readable readText paths :=
  List.filter_cons_of_neg (by simp [h, Except.isOk, Except.toBool])

theorem readable_cons_of_ok {text : String} (h : readText path = .ok text) :
    readable readText (path :: paths) = path :: readable readText paths :=
  List.filter_cons_of_pos (by simp [h, Except.isOk, Except.toBool])

end Readable

variable [PathLike π]

theorem laid_of_files {before after : Drawing} {paths : List π}
    (h : (files timeStep readText before paths).1 = .ok after) :
    ∃ ss : List Sheet, after.figures = before.figures ++ Sheet.allFigures ss ∧
      Sheet.Laid timeStep readText before.figures (readable readText paths) ss := by
  induction paths generalizing before with
  | nil =>
    obtain rfl := Except.ok.inj h
    exact ⟨[], (List.append_nil _).symm, .nil⟩
  | cons path paths ih =>
    cases hr : readText path with
    | error e =>
      rw [files_of_unreadable hr] at h
      rw [readable_cons_of_error paths hr]
      exact ih h
    | ok text =>
      rw [files_of_readable hr] at h
      cases hf : (file timeStep before (PathLike.shown path) text).1 with
      | error e =>
        rw [hf] at h
        cases h
      | ok next =>
        rw [hf] at h
        obtain ⟨s, hs, hfit⟩ := fits_of_file timeStep hf
        obtain ⟨ss, hfigures, hlaid⟩ := ih h
        rw [hs] at hlaid
        rw [hs, List.append_assoc] at hfigures
        rw [readable_cons_of_ok paths hr]
        exact ⟨s :: ss, hfigures, .cons ⟨text, before, next, hr, hf, rfl, hs⟩ hfit hlaid⟩

/-- A drawing is the sheets of the files that can be opened, in their order. Each has complete
generators and behind them a group with their numbers. So every generator belongs to one group,
once; every member of a group is a generator; and every group is as large as its members ask for. -/
theorem all_sheets {paths : List π} {d : Drawing}
    (h : (all timeStep readText paths).1 = .ok d) :
    (∃ ss : List Sheet, d.figures = Sheet.allFigures ss ∧
      ss.length = (readable readText paths).length ∧
      ∀ (k : Nat) (s : Sheet), ss[k]? = some s → ∃ path, (readable readText paths)[k]? = some path ∧
        s.AddedBy timeStep readText path (Sheet.allFigures (ss.take k)) ∧
        s.Fits timeStep (Sheet.base ss k)) ∧
    (∀ (i : Nat) (g : Generator), d.get? i = some (.generator g) → g.Finished timeStep ∧
      ∃ j owner, d.get? j = some (.group owner) ∧ owner.members.count i = 1 ∧
        ∀ j' owner', d.get? j' = some (.group owner') → i ∈ owner'.members → j' = j) ∧
    (∀ (j : Nat) (g : Group), d.get? j = some (.group g) →
      (∀ i ∈ g.members, ∃ m, d.get? i = some (.generator m)) ∧
        g.bufferSize = g.bufferHint ((d.members g).map Figure.bufferSize)) := by
  have hfiles : (files timeStep readText .empty paths).1 = .ok d := h
  obtain ⟨ss, hfigures, hlength, hsheets⟩ := laid_of_files timeStep readText hfiles
  simp only [Drawing.empty, List.nil_append, List.length_nil, Nat.zero_add] at hfigures hsheets
  have hfit : Sheet.FitAll timeStep ss := by
    intro k s hs
    obtain ⟨path, -, -, hfit⟩ := hsheets k s hs
    exact hfit
  refine ⟨⟨ss, hfigures, hlength, hsheets⟩, ?_, ?_⟩
  · intro i g hg
    exact Sheet.owner_of_generator hfit hfigures hg
  · intro j g hg
    exact Sheet.members_of_group hfit hfigures hg

/-- Of the files `a`, `b` and `c` the second cannot be opened, and the third has no generators. -/
def threeFiles (path : String) : Except FileError String :=
  match path with
  | "a" => .ok "\x7btype:rotation frequency:2\x7d \x7btype:rotation frequency:3\x7d"
  | "c" => .ok "name: C cycles: 2"
  | _ => .error (.notFound path)

theorem all_sheets_of_three : ∃ d ss, (all 0.5 threeFiles ["a", "b", "c"]).1 = .ok d ∧
    d.figures.length = 4 ∧ d.figures = Sheet.allFigures ss ∧ ss.length = 2 ∧
    ∀ i g, d.get? i = some (.generator g) → g.Finished 0.5 := by
  have hlength :
      (all 0.5 threeFiles ["a", "b", "c"]).1.toOption.map (·.figures.length) = some 4 := by
    decide +kernel
  obtain ⟨d, hd, hlength⟩ := exists_ok_of_map_toOption hlength
  obtain ⟨⟨ss, hfigures, hsheets, -⟩, hgenerators, -⟩ := all_sheets 0.5 threeFiles hd
  refine ⟨d, ss, hd, hlength, hfigures, ?_, ?_⟩
  · exact hsheets.trans (by decide +kernel)
  · intro i g hg
    exact (hgenerators i g hg).1

end Run

end Harmonograph
