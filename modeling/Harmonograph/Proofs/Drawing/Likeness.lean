import Harmonograph.Proofs.Drawing.Charts
import Harmonograph.Proofs.Reading.Lockstep

/-!
Drawings of single texts. A run over a text tells of all that it draws, and texts that are read side
by side to their ends are drawn alike.
-/

namespace Harmonograph

theorem NameIndex.mem_record_empty {ds : List (String × Extent)} {name : String} :
    name ∈ NameIndex.record ∅ ds ↔ name ∈ ds.map (·.1) := by
  rw [Std.TreeMap.mem_iff_isSome_getElem?, getElem?_record, Std.TreeMap.getElem?_emptyc,
    Option.or_none, Option.isSome_map, List.findRev?_eq_find?_reverse, List.find?_isSome]
  simp

namespace Run

open Reading

theorem definitions_drawText (timeStep : Float) (file text : String) :
    definitions (drawText timeStep file text).2 =
      (sheet timeStep .empty (.ofText file text.toList)).2.definitions := by
  have hnotices : notices (drawText timeStep file text).2 =
      .lexicon :: notices (Run.file timeStep .empty file text).2 := rfl
  rw [definitions, hnotices, notices_file, List.filterMap_cons_none rfl,
    List.filterMap_cons_none rfl, filterMap_withRelocations]
  rfl

variable {timeStep : Float} {file text : String} {d : Drawing}

/-- The figures are told of by their names, one after the other, and the index is made of that. -/
theorem names_drawText (h : (drawText timeStep file text).1 = .ok d) :
    (definitions (drawText timeStep file text).2).map (·.1) = d.figures.map Figure.name ∧
      d.index = NameIndex.record ∅ (definitions (drawText timeStep file text).2) := by
  have hfile : (Run.file timeStep .empty file text).1 = .ok d := h
  obtain ⟨c, hc⟩ := exists_adds hfile
  have hdefinitions : definitions (drawText timeStep file text).2 =
      c.definitions.map Figure.named :=
    hc.definitions
  rw [hdefinitions, hc.drawing, Drawing.figures_defineAll, Drawing.index_defineAll]
  constructor
  · rw [List.map_map, List.map_append, List.map_map]
    rfl
  · rfl

theorem definitions_eq_zip (h : (drawText timeStep file text).1 = .ok d) :
    definitions (drawText timeStep file text).2 =
      (d.figures.map Figure.name).zip
        ((definitions (drawText timeStep file text).2).map (·.2)) := by
  rw [← (names_drawText h).1, List.zip_map', List.map_id'']
  exact fun _ ↦ rfl

theorem mem_index_drawText (h : (drawText timeStep file text).1 = .ok d) (name : String) :
    name ∈ d.index ↔ name ∈ d.figures.map Figure.name := by
  obtain ⟨hnames, hindex⟩ := names_drawText h
  rw [hindex, NameIndex.mem_record_empty, hnames]

end Run

namespace Lockstep

open Reading

variable {k : Lockstep} {file : String} {cs ds : List Char}

theorem along_ofText (h : k.Abreast (.ofText file cs) (.ofText file ds)) :
    k.Along (.ofText file cs) (.ofText file ds) := ⟨h, rfl⟩

/-- Texts that have something in common to their ends are drawn alike, or neither of them can be
read. -/
theorem cases_drawText (hpast : ∀ s, ¬ k.Past s) (timeStep : Float) {text text' : String}
    (h : k.Abreast (.ofText file text.toList) (.ofText file text'.toList)) :
    (∃ d d', (drawText timeStep file text).1 = .ok d ∧ (drawText timeStep file text').1 = .ok d' ∧
      d.figures.map (Figure.rename k.word) = d'.figures.map (Figure.rename k.word) ∧
      (Run.definitions (drawText timeStep file text).2).map k.definition =
        (Run.definitions (drawText timeStep file text').2).map k.definition) ∨
    ∃ e e', (drawText timeStep file text).1 = .error e ∧
      (drawText timeStep file text').1 = .error e' ∧ k.failure e = k.failure e' := by
  have hends := ends_sheet timeStep .empty (along_ofText h)
  have hfirst : ∀ text : String, (drawText timeStep file text).1 =
      (sheet timeStep .empty (.ofText file text.toList)).1 := fun _ ↦ rfl
  simp only [hfirst, Run.definitions_drawText]
  generalize sheet timeStep .empty (.ofText file text.toList) = r at hends ⊢
  generalize sheet timeStep .empty (.ofText file text'.toList) = r' at hends ⊢
  cases hends with
  | past hp => exact absurd hp (hpast _)
  | ok hfigures hpq => exact .inl ⟨_, _, rfl, rfl, hfigures, hpq.definitions⟩
  | error he => exact .inr ⟨_, _, rfl, rfl, he⟩

end Lockstep

end Harmonograph
