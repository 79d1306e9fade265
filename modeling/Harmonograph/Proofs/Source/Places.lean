import Harmonograph.Proofs.Source.Order
import Mathlib.Order.Interval.Set.Basic

/-!
Stretches by the places that they contain. A stretch is the interval of the places between its ends.
If its start is not behind its end, it lies in another just if all its places do, and its lines are
those of its places.
-/

namespace Harmonograph

theorem Location.line_le {a b : Location} (h : a ≤ b) : a.line ≤ b.line := by
  obtain ⟨-, hlt | ⟨heq, -⟩⟩ := h
  · exact hlt.le
  · exact heq.le

theorem LineSpan.not_mem_none {n : Nat} : n ∉ LineSpan.none := by
  rintro ⟨hfirst, hlast⟩
  exact absurd (hfirst.trans hlast) (by decide)

namespace Extent

variable {d e : Extent} {p : Location} {n : Nat}

/-- No place lies between ends in different files, so only the ends matter. -/
theorem mem_iff_mem_Icc : p ∈ e ↔ p ∈ Set.Icc e.start e.stop := by
  constructor
  · exact fun h ↦ h.2
  · intro hends
    have hfile : e.start ≤ e.stop := hends.1.trans hends.2
    exact ⟨hfile.1, hends⟩

theorem covers_iff_le (h : d.start ≤ d.stop) :
    e.Covers d ↔ e.start ≤ d.start ∧ d.stop ≤ e.stop := by
  constructor
  · exact fun h ↦ h.2.2
  · intro hends
    have hfile : e.start ≤ e.stop := (hends.1.trans h).trans hends.2
    exact ⟨hfile.1, h.1, hends⟩

theorem covers_iff_forall_mem (h : d.start ≤ d.stop) : e.Covers d ↔ ∀ p, p ∈ d → p ∈ e := by
  have hplaces : (∀ p, p ∈ d → p ∈ e) ↔ Set.Icc d.start d.stop ⊆ Set.Icc e.start e.stop :=
    forall_congr' fun _ ↦ imp_congr mem_iff_mem_Icc mem_iff_mem_Icc
  rw [hplaces, Set.Icc_subset_Icc_iff h, covers_iff_le h]

/-- Both stretches are in one and the same file. -/
def ShareFile (d e : Extent) : Prop := d.InOneFile ∧ e.InOneFile ∧ d.start.file = e.start.file

theorem ShareFile.symm (h : d.ShareFile e) : e.ShareFile d := ⟨h.2.1, h.1, h.2.2.symm⟩

theorem Covers.shareFile (h : e.Covers d) : d.ShareFile e := by
  obtain ⟨he, hd, hstart, -⟩ := h
  exact ⟨hd, he, hstart.1.symm⟩

theorem shareFile_of_mem (hd : p ∈ d) (he : p ∈ e) : d.ShareFile e :=
  ⟨hd.1, he.1, (file_of_mem hd).symm.trans (file_of_mem he)⟩

theorem mem_lines_iff : n ∈ e.lines ↔ e.InOneFile ∧ e.start.line ≤ n ∧ n ≤ e.stop.line := by
  unfold lines
  split
  case isTrue hfile => exact (and_iff_right hfile).symm
  case isFalse hfile =>
    exact iff_of_false LineSpan.not_mem_none fun h ↦ hfile h.1

theorem line_mem_lines (hp : p ∈ e) : p.line ∈ e.lines := by
  obtain ⟨hfile, hstart, hstop⟩ := hp
  exact mem_lines_iff.2 ⟨hfile, Location.line_le hstart, Location.line_le hstop⟩

theorem exists_mem_of_mem_lines (h : e.start ≤ e.stop) (hn : n ∈ e.lines) :
    ∃ p ∈ e, p.line = n := by
  obtain ⟨hfile, hfirst, hlast⟩ := mem_lines_iff.1 hn
  -- The column of the start will do on each line before the last, where only the end is sure to be
  -- a place of `e`.
  rcases Nat.lt_or_eq_of_le hlast with hlt | rfl
  · have hstart : e.start ≤ ⟨e.start.file, n, e.start.column⟩ :=
      ⟨rfl, (Nat.lt_or_eq_of_le hfirst).imp_right (⟨·, le_rfl⟩)⟩
    have hstop : (⟨e.start.file, n, e.start.column⟩ : Location) ≤ e.stop := ⟨hfile, .inl hlt⟩
    exact ⟨_, ⟨hfile, hstart, hstop⟩, rfl⟩
  · exact ⟨e.stop, ⟨hfile, h, le_rfl⟩, rfl⟩

/-- Stretches are ordered by covering, each that has both ends in one file being covered by itself.
If the start of a stretch is not behind its end, the stretches that cover it are those with all its
places, and its lines are the lines of its places. Stretches that are not in one and the same file
do not cover each other and have no place in common. -/
theorem relations_by_places (c d e : Extent) :
    (e.Covers e ↔ e.InOneFile) ∧
    (e.Covers d → d.Covers c → e.Covers c) ∧
    (e.Covers d → d.Covers e → d = e) ∧
    (d.start ≤ d.stop → (e.Covers d ↔ ∀ p, p ∈ d → p ∈ e)) ∧
    (d.start ≤ d.stop →
      ∀ n, n ∈ d.lines ↔ ∃ p, p ∈ d ∧ p.file = d.start.file ∧ p.line = n) ∧
    (¬ d.ShareFile e → ¬ e.Covers d ∧ ¬ d.Covers e ∧ ∀ p, p ∈ d → p ∉ e) := by
  refine ⟨⟨fun h ↦ h.1, Covers.refl⟩, Covers.trans, Covers.antisymm, covers_iff_forall_mem, ?lines,
    ?files⟩
  case lines =>
    intro h n
    constructor
    · intro hn
      obtain ⟨p, hp, hline⟩ := exists_mem_of_mem_lines h hn
      exact ⟨p, hp, file_of_mem hp, hline⟩
    · rintro ⟨p, hp, -, rfl⟩
      exact line_mem_lines hp
  case files =>
    intro hnot
    exact ⟨fun h ↦ hnot h.shareFile, fun h ↦ hnot h.shareFile.symm,
      fun p hd he ↦ hnot (shareFile_of_mem hd he)⟩

theorem relations_by_places_of_nested :
    let file : Extent := ⟨⟨"a", 1, 1⟩, ⟨"a", 12, 0⟩⟩
    let block : Extent := ⟨⟨"a", 1, 30⟩, ⟨"a", 10, 1⟩⟩
    let item : Extent := ⟨⟨"a", 2, 3⟩, ⟨"a", 9, 40⟩⟩
    let other : Extent := ⟨⟨"b", 1, 1⟩, ⟨"b", 12, 0⟩⟩
    (file.Covers block ∧ block.Covers item ∧ file.Covers item) ∧
    (block.start ≤ block.stop ∧ (∀ p, p ∈ block → p ∈ file) ∧
      10 ∈ block.lines ∧ ∃ p, p ∈ block ∧ p.file = "a" ∧ p.line = 10) ∧
    (¬ block.ShareFile other ∧ ¬ other.Covers block ∧ ∀ p, p ∈ block → p ∉ other) := by
  intro file block item other
  have hblock : file.Covers block := by decide
  have hitem : block.Covers item := by decide
  have hle : block.start ≤ block.stop := by decide
  have hline : 10 ∈ block.lines := by decide
  have hfiles : block.start.file ≠ other.start.file := by decide
  have hnot : ¬ block.ShareFile other := fun h ↦ hfiles h.2.2
  obtain ⟨-, htrans, -, hmem, hlines, -⟩ := relations_by_places item block file
  obtain ⟨hcovers, -, hapart⟩ := (relations_by_places item block other).2.2.2.2.2 hnot
  exact ⟨⟨hblock, hitem, htrans hblock hitem⟩,
    ⟨hle, (hmem hle).1 hblock, hline, (hlines hle 10).1 hline⟩, hnot, hcovers, hapart⟩

end Extent

end Harmonograph
