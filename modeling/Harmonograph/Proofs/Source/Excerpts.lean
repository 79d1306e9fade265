import Harmonograph.Proofs.Source.Order
import Harmonograph.Source.Excerpt
import Mathlib.Data.List.Infix

/-!
How the lines of an excerpt are counted against the lines of a place. A place counts the line ends
in front of it, an excerpt knows the lines of the whole text. They differ only behind a line end
that is the last character of the text: a place has a line there, and the text has none.
-/

namespace Harmonograph

/-- Characters behind the last line end make a line of their own. -/
theorem length_linesFrom (line cs : List Char) : (linesFrom line cs).length =
    cs.count '\n' + ((cs.getLast?.map (· != '\n')).getD (!line.isEmpty)).toNat := by
  induction cs generalizing line with
  | nil =>
    cases line with
    | nil => rfl
    | cons c line => rfl
  | cons c cs ih =>
    have hlast : (c :: cs).getLast?.map (· != '\n') =
        some ((cs.getLast?.map (· != '\n')).getD (c != '\n')) := by
      cases h : cs.getLast? with
      | none => simp [List.getLast?_cons, h]
      | some d => simp [List.getLast?_cons, h]
    rw [hlast, Option.getD_some, linesFrom]
    by_cases hc : c = '\n'
    · subst hc
      rw [if_pos rfl, List.length_cons, ih, List.count_cons_self, Nat.add_right_comm]
      rfl
    · have hne : (c != '\n') = true := by simpa using hc
      rw [if_neg hc, ih, List.count_cons_of_ne hc, hne]
      rfl

section Place

variable {file : String} {cs : List Char} {n : Nat}

theorem Location.line_ofPosition : (ofPosition file cs n).line = 1 + (cs.take n).count '\n' := by
  by_cases h : '\n' ∈ cs.take n
  · rw [ofPosition, advance_of_mem _ h]
    rfl
  · rw [ofPosition, advance_of_not_mem _ h, List.count_eq_zero.2 h]
    rfl

/-- A place has a line that the text does not have just if it is behind a text that ends in a line
end. -/
theorem length_lines_lt_line_iff (hcs : cs ≠ []) (hn : n ≤ cs.length) :
    (lines cs).length < (Location.ofPosition file cs n).line ↔
      n = cs.length ∧ cs.getLast? = some '\n' := by
  obtain ⟨c, hc⟩ : ∃ c, cs.getLast? = some c := ⟨_, List.getLast?_eq_some_getLast hcs⟩
  rw [lines, length_linesFrom, Location.line_ofPosition, hc, Option.map_some, Option.getD_some,
    Option.some.injEq]
  -- What is behind the place ends in a line end or in a line of its own, unless it is nothing.
  rcases Nat.lt_or_eq_of_le hn with hlt | rfl
  · have hcount : cs.count '\n' = (cs.take n).count '\n' + (cs.drop n).count '\n' := by
      rw [← List.count_append, List.take_append_drop]
    have hle : 1 ≤ (cs.drop n).count '\n' + (c != '\n').toNat := by
      by_cases hend : c = '\n'
      · have hmem : c ∈ cs.drop n := by
          refine List.mem_of_getLast? ?_
          rw [List.getLast?_drop, if_neg (by omega), hc]
        have hpos := List.count_pos_iff.2 (hend ▸ hmem)
        omega
      · have hne : (c != '\n') = true := by simpa using hend
        rw [hne]
        exact Nat.le_add_left 1 _
    omega
  · rw [List.take_length]
    by_cases hend : c = '\n'
    · simp [hend]
    · have hne : (c != '\n') = true := by simpa using hend
      simp [hend, hne, Nat.add_comm]

end Place

namespace Excerpt

variable {cs : List Char} {line : Nat} (column : Nat)

theorem render_of_lt (h : (lines cs).length < line) : render cs line column = [] :=
  if_pos (.inr h)

theorem render_of_le (hline : 0 < line) (h : line ≤ (lines cs).length) : render cs line column =
    (rows (lines cs) line column).flatMap
      (Row.render (Nat.toDigits 10 (lastLine (lines cs).length line)).length) :=
  if_neg (by omega)

section Rows

variable {ls : List (List Char)}

/-- The row of the line `n`. -/
def sourceRow (ls : List (List Char)) (n : Nat) : Row := .source n (ls.getD (n - 1) [])

/-- The lines of an excerpt, each with its number. -/
theorem shown_eq (ls : List (List Char)) (line : Nat) :
    ((ls.take (lastLine ls.length line)).drop (firstLine line - 1)).zipIdx (firstLine line) =
      (List.range' (firstLine line) (lastLine ls.length line + 1 - firstLine line)).map
        fun n ↦ (ls.getD (n - 1) [], n) := by
  have hfirst : 1 ≤ firstLine line := Nat.le_max_left _ _
  have hlast : lastLine ls.length line ≤ ls.length := Nat.min_le_left _ _
  refine List.ext_getElem ?_ fun i hi hi' ↦ ?_
  · rw [List.length_zipIdx, List.length_drop, List.length_take, List.length_map, List.length_range']
    omega
  · rw [List.length_map, List.length_range'] at hi'
    have hindex : firstLine line - 1 + i = firstLine line + i - 1 := by omega
    have hlt : firstLine line + i - 1 < ls.length := by omega
    rw [List.getElem_zipIdx, List.getElem_drop, List.getElem_take, List.getElem_map,
      List.getElem_range', Nat.one_mul, List.getD_eq_getElem?_getD, List.getElem?_eq_getElem hlt,
      Option.getD_some]
    simp only [hindex]

theorem rowsOf_of_ne {text : List Char} {n : Nat} (h : n ≠ line) :
    rowsOf line column text n = [.source n text] := if_neg h

/-- The rows of an excerpt: the lines in front of `line`, that line with the mark under it, and the
lines behind it, between two rules. -/
theorem rows_eq (hline : 0 < line) (h : line ≤ ls.length) : rows ls line column =
    .rule :: (List.range' (firstLine line) (line - firstLine line)).map (sourceRow ls) ++
      sourceRow ls line :: .mark (column - 1) ::
        (List.range' (line + 1) (lastLine ls.length line - line)).map (sourceRow ls) ++
          [.rule] := by
  have hfirst : firstLine line ≤ line := by
    simp only [firstLine]
    omega
  have hlast : line ≤ lastLine ls.length line := by
    simp only [lastLine]
    omega
  have hcount : lastLine ls.length line + 1 - firstLine line =
      line - firstLine line + (lastLine ls.length line - line + 1) := by omega
  have hsplit : List.range' (firstLine line) (lastLine ls.length line + 1 - firstLine line) =
      List.range' (firstLine line) (line - firstLine line) ++
        line :: List.range' (line + 1) (lastLine ls.length line - line) := by
    rw [hcount, ← List.range'_append_1, Nat.add_sub_cancel' hfirst, List.range'_succ]
  have hother : ∀ s n : Nat, line ∉ List.range' s n → (List.range' s n).flatMap
      (fun n ↦ rowsOf line column (ls.getD (n - 1) []) n) =
        (List.range' s n).map (sourceRow ls) := by
    intro s n hmem
    rw [← List.flatMap_pure_eq_map]
    refine List.flatMap_congr fun m hm ↦ ?_
    exact rowsOf_of_ne column fun he ↦ hmem (he ▸ hm)
  have hbefore : line ∉ List.range' (firstLine line) (line - firstLine line) := by
    rw [List.mem_range'_1]
    omega
  have hbehind : line ∉ List.range' (line + 1) (lastLine ls.length line - line) := by
    rw [List.mem_range'_1]
    omega
  have hmark : rowsOf line column (ls.getD (line - 1) []) line =
      [sourceRow ls line, .mark (column - 1)] := if_pos rfl
  rw [rows, shown_eq, List.flatMap_map, hsplit, List.flatMap_append, List.flatMap_cons,
    hother _ _ hbefore, hother _ _ hbehind, hmark]
  simp

/-- The rows of a line, with the mark under it, stand in an excerpt around it. -/
theorem infix_rows (hline : 0 < line) {text : List Char} (h : ls[line - 1]? = some text) :
    [.source line text, .mark (column - 1)] <:+: rows ls line column := by
  have hle : line ≤ ls.length := by
    have := (List.getElem?_eq_some_iff.1 h).1
    omega
  have htext : sourceRow ls line = .source line text := by
    rw [sourceRow, List.getD_eq_getElem?_getD, h, Option.getD_some]
  rw [rows_eq column hline hle, htext]
  exact ⟨.rule :: (List.range' (firstLine line) (line - firstLine line)).map (sourceRow ls),
    (List.range' (line + 1) (lastLine ls.length line - line)).map (sourceRow ls) ++ [.rule], by
    simp⟩

end Rows

/-- An excerpt around a line of the text holds the line, and right under it the mark. -/
theorem infix_render (hline : 0 < line) (h : line ≤ (lines cs).length) :
    ∃ width text, lineAt? cs line = some text ∧
      (Row.source line text).render width ++ (Row.mark (column - 1)).render width <:+:
        render cs line column := by
  have hlt : line - 1 < (lines cs).length := by omega
  have htext : (lines cs)[line - 1]? = some (lines cs)[line - 1] := List.getElem?_eq_getElem hlt
  let width := (Nat.toDigits 10 (lastLine (lines cs).length line)).length
  refine ⟨width, _, (if_neg (by omega)).trans htext, ?_⟩
  have hflat := (infix_rows column hline htext).flatMap (Row.render width)
  rw [render_of_le column hline h]
  simpa using hflat

end Excerpt

end Harmonograph
