import Harmonograph.Proofs.Reading.BlockPlaces
import Harmonograph.Proofs.Source.Excerpts
import Harmonograph.Reading.Run

/-!
Where reading fails, and what can be shown of it. A file that cannot be read fails behind some part
of its text, and that place has a line of the text, except behind a text that ends in a line end.
-/

namespace Harmonograph

open Reading

section Sheet

variable {timeStep : Float} {d : Drawing} {file : String} {cs : List Char} {e : Failure}

/-- A failure names a place that reading has come to. -/
theorem location_of_readSheet (h : (readSheet timeStep d file cs).1 = .error e) :
    ∃ n ≤ cs.length, e.location = .ofPosition file cs n := by
  have honward := regular_sheet timeStep d (.ofText file cs)
  have hwithin := ((Progress.Within.ofText file cs).onward honward).1
  exact ⟨_, hwithin.position_le, (honward.fails e h).trans hwithin.location⟩

theorem readSheet_nil (timeStep : Float) (d : Drawing) (file : String) :
    ∃ d', (readSheet timeStep d file []).1 = .ok d' := by
  have hend : (Progress.ofText file []).next.1 = .endOfInput := by
    by_contra hne
    have hlt := Progress.Within.position_lt_next hne
    have hle := (Progress.Within.ofText file []).next.position_le
    simp only [List.length_nil] at hle
    omega
  rw [readSheet, sheet_eq, sheetItems_of_end hend]
  exact ⟨_, rfl⟩

end Sheet

/-- An excerpt around the place of a failure holds the line of the place and right under it the
mark. There is none just if all of the text has been read and its last character ends a line. -/
theorem excerpt_of_failure {timeStep : Float} {file text : String} {e : Failure}
    (h : (drawText timeStep file text).1 = .error e) :
    let shown := Excerpt.render text.toList e.location.line e.location.column
    (shown = [] ↔ e.location = (Location.start file).advance text.toList ∧
      text.toList.getLast? = some '\n') ∧
    (shown ≠ [] → ∃ width line, lineAt? text.toList e.location.line = some line ∧
      (Excerpt.Row.source e.location.line line).render width ++
        (Excerpt.Row.mark (e.location.column - 1)).render width <:+: shown) := by
  have hread : (readSheet timeStep .empty file text.toList).1 = .error e := h
  have hne : text.toList ≠ [] := by
    intro hnil
    rw [hnil] at hread
    obtain ⟨d, hd⟩ := readSheet_nil timeStep .empty file
    rw [hd] at hread
    cases hread
  obtain ⟨n, hn, hlocation⟩ := location_of_readSheet hread
  have hline : 0 < e.location.line := by
    rw [hlocation, Location.line_ofPosition]
    omega
  have hend : e.location = (Location.start file).advance text.toList ↔ n = text.toList.length := by
    rw [hlocation, ← Location.ofPosition_length]
    constructor
    · intro heq
      -- Places further in front are other places.
      by_contra hlt
      exact absurd heq (Location.ofPosition_lt file text.toList (by omega) le_rfl).ne
    · rintro rfl
      rfl
  have hshown : (lines text.toList).length < e.location.line ↔
      e.location = (Location.start file).advance text.toList ∧
      text.toList.getLast? = some '\n' := by
    rw [hend, hlocation]
    exact length_lines_lt_line_iff hne hn
  by_cases hlt : (lines text.toList).length < e.location.line
  · have hnil := Excerpt.render_of_lt e.location.column hlt
    exact ⟨iff_of_true hnil (hshown.1 hlt), fun hsome ↦ absurd hnil hsome⟩
  · obtain ⟨width, line, htext, hinfix⟩ :=
      Excerpt.infix_render e.location.column hline (Nat.le_of_not_lt hlt)
    have hsome : Excerpt.render text.toList e.location.line e.location.column ≠ [] := by
      intro hnil
      rw [hnil, List.infix_nil] at hinfix
      cases line <;> simp [Excerpt.Row.render] at hinfix
    exact ⟨iff_of_false hsome (fun hr ↦ hlt (hshown.2 hr)), fun _ ↦ ⟨width, line, htext, hinfix⟩⟩

theorem eq_error_of_map {α : Type} {r : Except Failure α} {e : Failure}
    (h : r.map (fun _ ↦ ()) = .error e) : r = .error e := by
  cases r with
  | ok a => cases h
  | error e' => exact congrArg _ (Except.error.inj h)

theorem excerpt_of_open_block : ∃ e, (drawText 0.5 "t" "\x7b\nname: A").1 = .error e ∧
    e.location = ⟨"t", 2, 7⟩ ∧ ∃ width, (Excerpt.Row.source 2 "name: A".toList).render width ++
      (Excerpt.Row.mark 6).render width <:+: Excerpt.render "\x7b\nname: A".toList 2 7 := by
  have he : (drawText 0.5 "t" "\x7b\nname: A").1 = .error ⟨.unexpectedEnd, ⟨"t", 2, 7⟩⟩ :=
    eq_error_of_map (by decide +kernel)
  obtain ⟨hnil, hrows⟩ := excerpt_of_failure he
  have hlast : "\x7b\nname: A".toList.getLast? ≠ some '\n' := by decide
  obtain ⟨width, line, hline, hinfix⟩ := hrows fun h ↦ hlast (hnil.1 h).2
  have htext : lineAt? "\x7b\nname: A".toList 2 = some "name: A".toList := by decide
  obtain rfl := Option.some.inj (htext.symm.trans hline)
  exact ⟨_, he, rfl, width, hinfix⟩

/-- The end of this block is missed behind the last line end, on a line that is not shown. -/
theorem excerpt_empty_behind_last_line : ∃ e, (drawText 0.5 "t.hg" "\x7b\n").1 = .error e ∧
    e.location = ⟨"t.hg", 2, 0⟩ ∧
    Excerpt.render "\x7b\n".toList e.location.line e.location.column = [] := by
  have he : (drawText 0.5 "t.hg" "\x7b\n").1 = .error ⟨.unexpectedEnd, ⟨"t.hg", 2, 0⟩⟩ :=
    eq_error_of_map (by decide +kernel)
  exact ⟨_, he, rfl, Excerpt.render_of_lt 0 (by decide)⟩

end Harmonograph
