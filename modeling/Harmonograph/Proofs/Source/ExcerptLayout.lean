import Harmonograph.Proofs.Source.Excerpts

/-!
What an excerpt looks like. All numbers are set flush right in as many columns as the last of them
has digits, so that the texts of the lines begin below one another, and the mark below a line is in
the column of the character that it is for.
-/

namespace Harmonograph

theorem mem_of_mem_chomp {c : Char} {l : List Char} (h : c ∈ chomp l) : c ∈ l := by
  unfold chomp at h
  split at h
  · exact (List.dropLast_sublist l).subset h
  · exact h

theorem not_mem_of_mem_linesFrom {line cs l : List Char} (hline : '\n' ∉ line)
    (h : l ∈ linesFrom line cs) :
    '\n' ∉ l := by
  induction cs generalizing line with
  | nil =>
    rw [linesFrom] at h
    split at h
    · cases h
    · rw [List.mem_singleton.1 h, List.mem_reverse]
      exact hline
  | cons c cs ih =>
    rw [linesFrom] at h
    split at h
    case isTrue =>
      rcases List.mem_cons.1 h with rfl | h
      · exact fun hmem ↦ hline (List.mem_reverse.1 (mem_of_mem_chomp hmem))
      · exact ih List.not_mem_nil h
    case isFalse hc => exact ih (List.not_mem_cons_of_ne_of_not_mem (Ne.symm hc) hline) h

theorem length_toDigits_mono {m n : Nat} (h : m ≤ n) :
    (Nat.toDigits 10 m).length ≤ (Nat.toDigits 10 n).length := by
  rw [Nat.length_toDigits_le_iff (by decide) Nat.length_toDigits_pos]
  exact h.trans_lt ((Nat.length_toDigits_le_iff (by decide) Nat.length_toDigits_pos).1 le_rfl)

namespace Excerpt

variable {cs : List Char} {line n : Nat}

theorem render_eq_nil_iff (column : Nat) :
    render cs line column = [] ↔ line = 0 ∨ (lines cs).length < line := by
  refine ⟨fun h ↦ ?_, fun h ↦ if_pos h⟩
  by_contra hline
  rw [render_of_le column (by omega) (by omega), rows] at h
  simp [Row.render] at h

/-- A row without its line end. -/
def Row.text (width : Nat) : Row → List Char
  | rule => List.replicate (width + 3) '-'
  | source number text => gutter width number ++ [' ', '|', ' '] ++ text
  | mark offset => List.replicate width ' ' ++ [' ', '|', ' '] ++ List.replicate offset ' ' ++ ['^']

theorem Row.render_eq (width : Nat) (r : Row) : r.render width = r.text width ++ ['\n'] := by
  cases r with
  | rule => rfl
  | source number text => rfl
  | mark offset => simp [render, text]

theorem render_eq_flatMap (column : Nat) (hline : 0 < line) (h : line ≤ (lines cs).length) :
    let width := (Nat.toDigits 10 (lastLine (lines cs).length line)).length
    render cs line column =
      ((rows (lines cs) line column).map (Row.text width)).flatMap (· ++ ['\n']) := by
  intro width
  rw [render_of_le column hline h, List.flatMap_map]
  exact List.flatMap_congr fun r _ ↦ r.render_eq width

/-- The digits of a number up to the last one fill its columns from the right. -/
theorem text_sourceRow {width : Nat} (hn : 0 < n) (h : n ≤ (lines cs).length)
    (hwidth : (Nat.toDigits 10 n).length ≤ width) : ∃ blanks text,
      lineAt? cs n = some text ∧ '\n' ∉ text ∧ blanks + (Nat.toDigits 10 n).length = width ∧
      (sourceRow (lines cs) n).text width =
        List.replicate blanks ' ' ++ Nat.toDigits 10 n ++ [' ', '|', ' '] ++ text := by
  have hlt : n - 1 < (lines cs).length := by omega
  have htext : (lines cs)[n - 1]? = some (lines cs)[n - 1] := List.getElem?_eq_getElem hlt
  refine ⟨width - (Nat.toDigits 10 n).length, (lines cs)[n - 1], ?_, ?_,
    Nat.sub_add_cancel hwidth, ?_⟩
  · rw [lineAt?, if_neg (by omega), htext]
  · exact not_mem_of_mem_linesFrom List.not_mem_nil (List.getElem_mem hlt)
  · rw [sourceRow, List.getD_eq_getElem?_getD, htext]
    rfl

/-- There is no excerpt around a line that the text does not have. Around any other line there is
one row for each line that is at most two lines away, in order and between two rules. The row of a
line has its number flush right in columns that are the same for all rows, and its text as it is.
Right below the row of `line`, and nowhere else, there is a mark, under the character with the
number `column`, or the first one for 0. -/
theorem render_layout (cs : List Char) (line column : Nat) :
    let count := (lines cs).length
    let first := max 1 (line - 2)
    let last := min count (line + 2)
    let width := (Nat.toDigits 10 last).length
    let rule := List.replicate (width + 3) '-'
    let mark := List.replicate width ' ' ++ [' ', '|', ' '] ++
      List.replicate (max 1 column - 1) ' ' ++ ['^']
    (render cs line column = [] ↔ line = 0 ∨ count < line) ∧
    (0 < line → line ≤ count → ∃ row : Nat → List Char,
      render cs line column = (rule :: (List.range' first (line - first)).map row ++
        row line :: mark :: (List.range' (line + 1) (last - line)).map row ++ [rule]).flatMap
          (· ++ ['\n']) ∧
      ∀ n, first ≤ n → n ≤ last → ∃ blanks text,
        lineAt? cs n = some text ∧ '\n' ∉ text ∧ blanks + (Nat.toDigits 10 n).length = width ∧
        row n = List.replicate blanks ' ' ++ Nat.toDigits 10 n ++ [' ', '|', ' '] ++ text) := by
  intro count first last width rule mark
  refine ⟨render_eq_nil_iff column, fun hline h ↦
    ⟨fun n ↦ (sourceRow (lines cs) n).text width, ?_, ?_⟩⟩
  · have hoffset : max 1 column - 1 = column - 1 := by omega
    rw [render_eq_flatMap column hline h, rows_eq column hline h]
    simp only [mark, hoffset, List.map_append, List.map_cons, List.map_map, List.map_nil]
    rfl
  · intro n hfirst hlast
    refine text_sourceRow ?_ ?_ (length_toDigits_mono hlast)
    · exact (Nat.le_max_left 1 _).trans hfirst
    · exact hlast.trans (Nat.min_le_left _ _)

theorem rows_flush_right :
    let cs := (List.replicate 11 ['x', '\n']).flatten
    let rule := ['-', '-', '-', '-', '-']
    let mark := [' ', ' ', ' ', '|', ' ', ' ', ' ', '^']
    0 < 9 ∧ 9 ≤ (lines cs).length ∧ ∃ row : Nat → List Char,
      row 9 = [' ', '9', ' ', '|', ' ', 'x'] ∧ row 10 = ['1', '0', ' ', '|', ' ', 'x'] ∧
      render cs 9 3 =
        [rule, row 7, row 8, row 9, mark, row 10, row 11, rule].flatMap (· ++ ['\n']) := by
  intro cs rule mark
  have hcount : 9 ≤ (lines cs).length := by decide
  obtain ⟨row, hrender, hrow⟩ := (render_layout cs 9 3).2 (by decide) hcount
  obtain ⟨blanks, text, htext, -, hblanks, hnine⟩ := hrow 9 (by decide) (by decide)
  obtain ⟨blanks', text', htext', -, hblanks', hten⟩ := hrow 10 (by decide) (by decide)
  obtain rfl : ['x'] = text := Option.some.inj htext
  obtain rfl : ['x'] = text' := Option.some.inj htext'
  have hcount' : (lines cs).length = 11 := by decide
  have hwidth : (Nat.toDigits 10 11).length = 2 := by decide
  have hone : (Nat.toDigits 10 9).length = 1 := by decide
  have htwo : (Nat.toDigits 10 10).length = 2 := by decide
  simp only [hcount', hwidth, hone, htwo, Nat.reduceAdd, Nat.min_self] at hrender hblanks hblanks'
  obtain rfl : blanks = 1 := by omega
  obtain rfl : blanks' = 0 := by omega
  exact ⟨by decide, hcount, row, hnine, hten, hrender⟩

end Excerpt

end Harmonograph
