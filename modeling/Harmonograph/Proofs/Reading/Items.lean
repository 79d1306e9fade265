import Harmonograph.Proofs.Reading.Loops
import Harmonograph.Reading.Run

/-!
What stands in a file does not depend on the drawing that it is added to: a file is a list of items,
taken in from left to right, and is read in the same way wherever it stands.
-/

namespace Harmonograph

/-- If what comes of a run passes a check, then something comes of it. -/
theorem exists_ok_of_map_toOption {ε α β : Type} {x : Except ε α} {f : α → β} {b : β}
    (h : x.toOption.map f = some b) : ∃ a, x = .ok a ∧ f a = b := by
  cases x with
  | error e => cases h
  | ok a => exact ⟨a, rfl, Option.some.inj h⟩

/-- A generator as it enters a drawing. -/
structure Generator.Finished (timeStep : Float) (g : Generator) : Prop where
  isValid : g.isValid = true
  bufferSize : g.bufferSize = g.bufferHint timeStep

namespace Reading

variable {timeStep : Float}

theorem map_eq_ok {α β : Type} {f : α → β} {m : Reading α} {p q : Progress} {b : β}
    (h : (f <$> m) p = (.ok b, q)) : ∃ a, m p = (.ok a, q) ∧ f a = b := by
  simp only [Functor.map] at h
  rcases hm : m p with ⟨e | a, q'⟩
  · rw [hm] at h
    cases h
  · rw [hm] at h
    cases h
    exact ⟨a, rfl, rfl⟩

theorem finished_of_block {p q : Progress} {g : Generator} {extent : Extent}
    (h : block timeStep p = (.ok (g, extent), q)) : g.Finished timeStep := by
  rw [block_eq] at h
  rcases hb : blockItems .blank p with ⟨e | g', q'⟩
  · rw [hb] at h
    cases h
  · rw [hb] at h
    cases hv : g'.isValid
    · simp [hv] at h
    · simp only [hv, if_true, Prod.mk.injEq, Except.ok.injEq] at h
      obtain ⟨⟨rfl, -⟩, -⟩ := h
      exact ⟨hv, rfl⟩

/-- A generator among the items of a file is finished. -/
def SheetItem.Finished (timeStep : Float) : SheetItem → Prop
  | .block g _ => g.Finished timeStep
  | _ => True

theorem finished_of_sheetItem? {s : Symbol} {m : Reading SheetItem} {p q : Progress}
    {item : SheetItem} (hm : sheetItem? timeStep s = some m) (h : m p = (.ok item, q)) :
    item.Finished timeStep := by
  cases s <;> simp only [sheetItem?, Option.some.injEq, reduceCtorEq] at hm <;> subst hm
  case entityBegin =>
    obtain ⟨⟨g, extent⟩, hb, rfl⟩ := map_eq_ok h
    exact finished_of_block hb
  all_goals
    obtain ⟨a, -, rfl⟩ := map_eq_ok h
    trivial

/-- Reading the items of a file ends in the same way for all drafts that could take them in. -/
theorem sheetItems_eq_foldl (timeStep : Float) (p : Progress) :
    (∃ e q, ∀ d, sheetItems timeStep d p = (.error e, q)) ∨
      ∃ (items : List SheetItem) (q : Progress), (∀ item ∈ items, item.Finished timeStep) ∧
        ∀ d, sheetItems timeStep d p = (.ok (items.foldl takeSheetItem d), q) := by
  induction h : p.remaining using Nat.strongRecOn generalizing p with
  | ind n ih =>
    by_cases hend : p.next.1 = .endOfInput
    · exact .inr ⟨[], _, by simp, fun d ↦ sheetItems_of_end hend⟩
    · cases hm : sheetItem? timeStep p.next.1 with
      | none => exact .inl ⟨_, _, fun d ↦ sheetItems_of_none hend hm⟩
      | some m =>
        rcases hr : m p.next.2 with ⟨e | item, q⟩
        · refine .inl ⟨e, q, fun d ↦ ?_⟩
          rw [sheetItems_of_item hm, hr]
        · have hlt : q.remaining < n := by
            have h₁ := p.remaining_next_lt hend
            have h₂ := advances_sheetItem timeStep hm p.next.2
            rw [hr] at h₂
            exact h ▸ Nat.lt_of_le_of_lt h₂ h₁
          have hstep : ∀ d, sheetItems timeStep d p =
              sheetItems timeStep (takeSheetItem d item) q := by
            intro d
            rw [sheetItems_of_item hm, hr]
          rcases ih _ hlt q rfl with ⟨e, q', he⟩ | ⟨items, q', hall, hok⟩
          · exact .inl ⟨e, q', fun d ↦ (hstep d).trans (he _)⟩
          · refine .inr ⟨item :: items, q', ?_, fun d ↦ (hstep d).trans (hok _)⟩
            exact List.forall_mem_cons.2 ⟨finished_of_sheetItem? hm hr, hall⟩

end Reading

/-- The drawing with all figures of a file whose group is complete. -/
def SheetDraft.close (d : SheetDraft) (extent : Extent) : Drawing :=
  d.drawing.define (.group d.finish) extent

namespace Run

open Reading

/-- What a file adds to a drawing, or why it cannot be read, does not depend on the drawing. -/
theorem file_eq_foldl (timeStep : Float) (path text : String) :
    (∃ e, ∀ d, (file timeStep d path text).1 = .error e) ∨
      ∃ (items : List SheetItem) (extent : Extent), (∀ item ∈ items, item.Finished timeStep) ∧
        ∀ d, (file timeStep d path text).1 =
          .ok ((items.foldl takeSheetItem ⟨.blank, d⟩).close extent) := by
  rcases sheetItems_eq_foldl timeStep (.ofText path text.toList) with
    ⟨e, q, he⟩ | ⟨items, q, hall, hok⟩
  · refine .inl ⟨e, fun d ↦ ?_⟩
    simp only [file, readSheet, sheet_eq, he]
  · refine .inr ⟨items, ⟨.start path, q.scanner.location⟩, hall, fun d ↦ ?_⟩
    simp only [file, readSheet, sheet_eq, hok]
    rfl

section Files

variable {π : Type} [PathLike π] {timeStep : Float} {readText : π → Except FileError String}
  {d : Drawing} {path : π} {paths : List π}

/-- A file that cannot be opened adds nothing. -/
theorem files_of_unreadable {e : FileError} (h : readText path = .error e) :
    (files timeStep readText d (path :: paths)).1 = (files timeStep readText d paths).1 := by
  rw [files, h]

theorem files_of_readable {text : String} (h : readText path = .ok text) :
    (files timeStep readText d (path :: paths)).1 =
      (file timeStep d (PathLike.shown path) text).1 >>= fun d' ↦
        (files timeStep readText d' paths).1 := by
  rw [files, h]
  dsimp only
  rcases file timeStep d (PathLike.shown path) text with ⟨e | d', events⟩
  · rfl
  · rfl

theorem files_append (timeStep : Float) (readText : π → Except FileError String) (d : Drawing)
    (xs ys : List π) :
    (files timeStep readText d (xs ++ ys)).1 =
      (files timeStep readText d xs).1 >>= fun d' ↦ (files timeStep readText d' ys).1 := by
  induction xs generalizing d with
  | nil => rfl
  | cons path xs ih =>
    rw [List.cons_append]
    cases h : readText path with
    | error e => rw [files_of_unreadable h, files_of_unreadable h, ih]
    | ok text =>
      rw [files_of_readable h, files_of_readable h]
      rcases (file timeStep d (PathLike.shown path) text).1 with e | d'
      · rfl
      · exact ih d'

end Files

end Run

end Harmonograph
