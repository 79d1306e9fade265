import Harmonograph.Proofs.Drawing.Charts
import Mathlib.Data.List.Forall2

/-!
Charts of a run: the files that can be opened are charted one after the other, and what the charts
define is all of the drawing.
-/

namespace Harmonograph

namespace Drawing

/-- All that some charts define, chart after chart. -/
def ofCharts (charts : List Chart) : Drawing := empty.defineAll (charts.flatMap (·.definitions))

theorem figures_ofCharts (charts : List Chart) :
    (ofCharts charts).figures = (charts.flatMap (·.definitions)).map (·.1) :=
  (figures_defineAll _ _).trans (List.nil_append _)

/-- Each chart has one group. -/
theorem groups_ofCharts (charts : List Chart) :
    (ofCharts charts).groups = charts.map (·.group) := by
  have hchart : ∀ c : Chart, (c.definitions.map (·.1)).filterMap Figure.group? = [c.group] := by
    intro c
    have hnone : (c.blocks.map fun b ↦ Figure.generator b.1).filterMap Figure.group? = [] := by
      rw [List.filterMap_map]
      exact List.filterMap_eq_nil_iff.2 fun _ _ ↦ rfl
    rw [c.map_definitions, List.filterMap_append, hnone]
    rfl
  rw [groups, figures_ofCharts]
  induction charts with
  | nil => rfl
  | cons c charts ih =>
    rw [List.flatMap_cons, List.map_append, List.filterMap_append, hchart, ih]
    rfl

end Drawing

namespace Run

section Charted

variable {π : Type} [PathLike π]

/-- The chart is one of the file at `path`. -/
def IsChartOf (readText : π → Except FileError String) (c : Chart) (path : π) : Prop :=
  c.file = PathLike.shown path ∧ ∃ text, readText path = .ok text ∧ c.text = text.toList

/-- What the files of a run add to a drawing, and what is said of them: a chart for each file that
can be opened. -/
structure Charted (readText : π → Except FileError String) (paths : List π)
    (before after : Drawing) (events : List RunEvent) (charts : List Chart) : Prop where
  files : List.Forall₂ (IsChartOf readText) charts (readable readText paths)
  drawing : after = before.defineAll (charts.flatMap (·.definitions))
  definitions : definitions events = (charts.flatMap (·.definitions)).map Figure.named
  relocated : (notices events).countP Notice.isRelocated + after.index.size =
    before.index.size + (charts.flatMap (·.definitions)).length
  unreadable : (notices events).countP Notice.isUnreadable + charts.length = paths.length

variable {timeStep : Float} {readText : π → Except FileError String} {path : π} {paths : List π}
  {text : String} {before middle after : Drawing} {events more : List RunEvent} {c : Chart}
  {charts : List Chart}

theorem Charted.nil (before : Drawing) : Charted readText [] before before [] [] where
  files := .nil
  drawing := rfl
  definitions := rfl
  relocated := Nat.zero_add _
  unreadable := rfl

theorem Charted.skip {e : FileError} (hr : readText path = .error e)
    (h : Charted readText paths before after events charts) :
    Charted readText (path :: paths) before after
      (.note (.unreadable (PathLike.shown path) e) :: events) charts where
  files := by
    rw [readable_cons_of_error paths hr]
    exact h.files
  drawing := h.drawing
  definitions := h.definitions
  relocated := h.relocated
  unreadable := by
    have hcons : notices (.note (.unreadable (PathLike.shown path) e) :: events) =
        .unreadable (PathLike.shown path) e :: notices events := rfl
    have hcount := h.unreadable
    rw [hcons, List.countP_cons_of_pos rfl, List.length_cons]
    omega

theorem Charted.cons (hr : readText path = .ok text)
    (hc : Adds (PathLike.shown path) text before middle events c)
    (h : Charted readText paths middle after more charts) :
    Charted readText (path :: paths) before after (events ++ more) (c :: charts) where
  files := by
    rw [readable_cons_of_ok paths hr]
    exact .cons ⟨hc.file, text, hr, hc.text⟩ h.files
  drawing := by
    rw [List.flatMap_cons, Drawing.defineAll_append, ← hc.drawing]
    exact h.drawing
  definitions := by
    have hevents : Run.definitions (events ++ more) =
        Run.definitions events ++ Run.definitions more := by
      rw [Run.definitions, notices_append, List.filterMap_append]
      rfl
    rw [hevents, hc.definitions, h.definitions, List.flatMap_cons, List.map_append]
  relocated := by
    have hfirst := hc.relocated
    have hrest := h.relocated
    rw [notices_append, List.countP_append, List.flatMap_cons, List.length_append]
    omega
  unreadable := by
    have hfirst := hc.unreadable
    have hrest := h.unreadable
    rw [notices_append, List.countP_append, List.length_cons, List.length_cons]
    omega

/-- The charts have the names of the files. -/
theorem Charted.map_file (h : Charted readText paths before after events charts) :
    charts.map (·.file) = (readable readText paths).map PathLike.shown := by
  rw [← List.forall₂_eq_eq_eq, List.forall₂_map_left_iff, List.forall₂_map_right_iff]
  exact h.files.imp fun _ _ hc ↦ hc.1

theorem exists_charted (h : files timeStep readText before paths = (.ok after, events)) :
    ∃ charts, Charted readText paths before after events charts := by
  -- Each file adds to the drawing that the files in front of it have left.
  induction paths generalizing before events with
  | nil =>
    cases h
    exact ⟨[], .nil _⟩
  | cons path paths ih =>
    rw [files] at h
    cases hr : readText path with
    | error e =>
      simp only [hr, Prod.mk.injEq] at h
      obtain ⟨hd, rfl⟩ := h
      obtain ⟨charts, hcharts⟩ := ih (Prod.ext hd rfl)
      exact ⟨charts, hcharts.skip hr⟩
    | ok text =>
      rcases hf : file timeStep before (PathLike.shown path) text with ⟨e | middle, es⟩
      · simp [hr, hf] at h
      · simp only [hr, hf, Prod.mk.injEq] at h
        obtain ⟨hd, rfl⟩ := h
        obtain ⟨c, hc⟩ := exists_adds (congrArg Prod.fst hf)
        rw [hf] at hc
        obtain ⟨charts, hcharts⟩ := ih (Prod.ext hd rfl)
        exact ⟨c :: charts, hcharts.cons hr hc⟩

theorem exists_charted_all {d : Drawing} (h : all timeStep readText paths = (.ok d, events)) :
    ∃ charts, Charted readText paths .empty d events charts := by
  rcases hf : files timeStep readText .empty paths with ⟨e | d', es⟩
  · simp [all, hf] at h
  · simp only [all, hf, Prod.mk.injEq, Except.ok.injEq] at h
    obtain ⟨rfl, rfl⟩ := h
    obtain ⟨charts, hcharts⟩ := exists_charted hf
    have hnotices : notices (.enter "parse" :: es ++
        [.note (.allRead d'.figures.length paths.length)] ++ [.leave]) =
          notices es ++ [.allRead d'.figures.length paths.length] := by
      rw [notices_append, notices_append, ← List.singleton_append, notices_append]
      exact List.append_nil _
    refine ⟨charts, hcharts.files, hcharts.drawing, ?_, ?_, ?_⟩
    · rw [Run.definitions, hnotices, List.filterMap_append]
      exact (List.append_nil _).trans hcharts.definitions
    · rw [hnotices, List.countP_append]
      exact hcharts.relocated
    · rw [hnotices, List.countP_append]
      exact hcharts.unreadable

/-- A run leaves nothing in the index but the definitions that it tells of. -/
theorem index_all {d : Drawing} (h : all timeStep readText paths = (.ok d, events)) :
    d.index = NameIndex.record ∅ (Run.definitions events) := by
  obtain ⟨charts, hcharts⟩ := exists_charted_all h
  rw [hcharts.drawing, Drawing.index_defineAll, hcharts.definitions]
  rfl

end Charted

end Run

end Harmonograph
