import Harmonograph.Source.Extent
import Mathlib.Order.Basic

/-!
The order of places. Reading leads strictly forward, so the places in a text are in the order of
their positions, and stretches between positions lie as their positions do.
-/

namespace Harmonograph

namespace Location

instance : PartialOrder Location where
  le_refl l := ⟨rfl, .inr ⟨rfl, Nat.le_refl _⟩⟩
  le_trans a b c hab hbc := by
    obtain ⟨hfile, h⟩ := hab
    obtain ⟨hfile', h'⟩ := hbc
    exact ⟨hfile.trans hfile', by omega⟩
  le_antisymm a b hab hba := by
    obtain ⟨hfile, h⟩ := hab
    obtain ⟨-, h'⟩ := hba
    have hline : a.line = b.line := by omega
    have hcolumn : a.column = b.column := by omega
    cases a
    cases b
    simp_all

theorem lt_iff {a b : Location} :
    a < b ↔ a.file = b.file ∧ (a.line < b.line ∨ a.line = b.line ∧ a.column < b.column) := by
  rw [lt_iff_le_not_ge, le_def, le_def]
  constructor
  · rintro ⟨⟨hfile, h⟩, hnot⟩
    refine ⟨hfile, ?_⟩
    have hline : ¬ (b.line < a.line ∨ b.line = a.line ∧ b.column ≤ a.column) :=
      fun h' ↦ hnot ⟨hfile.symm, h'⟩
    omega
  · rintro ⟨hfile, h⟩
    refine ⟨⟨hfile, by omega⟩, fun h' ↦ ?_⟩
    have hline := h'.2
    omega

/-- Whatever is read, the place after it is another one and behind the place before it. -/
theorem lt_advance (l : Location) {cs : List Char} (h : cs ≠ []) : l < l.advance cs := by
  rw [lt_iff]
  by_cases hend : '\n' ∈ cs
  · have hcount := List.count_pos_iff.2 hend
    rw [advance_of_mem l hend]
    exact ⟨rfl, .inl (Nat.lt_add_of_pos_right hcount)⟩
  · have hlength := List.length_pos_iff.2 h
    rw [advance_of_not_mem l hend]
    exact ⟨rfl, .inr ⟨rfl, Nat.lt_add_of_pos_right hlength⟩⟩

/-- The place after the first `n` characters of a text. -/
def ofPosition (file : String) (cs : List Char) (n : Nat) : Location :=
  (start file).advance (cs.take n)

section Position

variable (file : String) (cs : List Char) {m n : Nat}

@[simp]
theorem ofPosition_zero : ofPosition file cs 0 = start file := advance_nil _

@[simp]
theorem file_ofPosition (n : Nat) : (ofPosition file cs n).file = file := file_advance _ _

theorem ofPosition_length : ofPosition file cs cs.length = (start file).advance cs := by
  rw [ofPosition, List.take_length]

theorem ofPosition_lt (h : m < n) (hn : n ≤ cs.length) :
    ofPosition file cs m < ofPosition file cs n := by
  obtain ⟨k, rfl⟩ := Nat.exists_eq_add_of_lt h
  have hne : (cs.drop m).take (k + 1) ≠ [] := by
    rw [← List.length_pos_iff, List.length_take, List.length_drop]
    omega
  rw [ofPosition, ofPosition, Nat.add_assoc, List.take_add, advance_append]
  exact lt_advance _ hne

theorem ofPosition_le (h : m ≤ n) (hn : n ≤ cs.length) :
    ofPosition file cs m ≤ ofPosition file cs n := by
  rcases Nat.lt_or_eq_of_le h with hlt | rfl
  · exact (ofPosition_lt file cs hlt hn).le
  · exact le_rfl

end Position

end Location

namespace Extent

/-- The stretch of a text between two positions. -/
def ofPositions (file : String) (cs : List Char) (m : Nat × Nat) : Extent :=
  ⟨.ofPosition file cs m.1, .ofPosition file cs m.2⟩

variable {c d e : Extent} {p : Location}

theorem inOneFile_ofPositions (file : String) (cs : List Char) (m : Nat × Nat) :
    (ofPositions file cs m).InOneFile :=
  (Location.file_ofPosition file cs m.1).trans (Location.file_ofPosition file cs m.2).symm

theorem file_of_mem (h : p ∈ e) : p.file = e.start.file := h.2.1.1.symm

theorem Covers.refl (h : e.InOneFile) : e.Covers e := ⟨h, h, le_rfl, le_rfl⟩

theorem Covers.trans (h : e.Covers d) (h' : d.Covers c) : e.Covers c := by
  obtain ⟨he, -, hstart, hstop⟩ := h
  obtain ⟨-, hc, hstart', hstop'⟩ := h'
  exact ⟨he, hc, hstart.trans hstart', hstop'.trans hstop⟩

theorem Covers.antisymm (h : e.Covers d) (h' : d.Covers e) : d = e := by
  obtain ⟨-, -, hstart, hstop⟩ := h
  obtain ⟨-, -, hstart', hstop'⟩ := h'
  cases d
  cases e
  rw [mk.injEq]
  exact ⟨hstart'.antisymm hstart, hstop.antisymm hstop'⟩

/-- Nothing lies in two stretches of which the one ends before the other begins. -/
theorem not_mem_of_stop_lt (h : d.stop < e.start) (hd : p ∈ d) : p ∉ e := fun he ↦
  absurd (he.2.1.trans hd.2.2) h.not_ge

end Extent

end Harmonograph
