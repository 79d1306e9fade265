/-!
Places in source files. Places of one file are ordered by line and column; places of different
files are not comparable.
-/

namespace Harmonograph

/-- What stands after the last line end of a text. -/
def lastLine (cs : List Char) : List Char := (cs.reverse.takeWhile (· != '\n')).reverse

theorem lastLine_append_of_not_mem (cs : List Char) {ds : List Char} (h : '\n' ∉ ds) :
    lastLine (cs ++ ds) = lastLine cs ++ ds := by
  have hd : ∀ c ∈ ds.reverse, (c != '\n') = true := by
    intro c hc
    have hne : c ≠ '\n' := fun he ↦ h (he ▸ List.mem_reverse.1 hc)
    simpa using hne
  rw [lastLine, List.reverse_append, List.takeWhile_append_of_pos hd, List.reverse_append,
    List.reverse_reverse, lastLine]

theorem lastLine_append_of_mem (cs : List Char) {ds : List Char} (h : '\n' ∈ ds) :
    lastLine (cs ++ ds) = lastLine ds := by
  have hd : ds.reverse.takeWhile (· != '\n') ≠ ds.reverse := by
    intro he
    have hc := List.all_takeWhile (p := (· != '\n')) (l := ds.reverse)
    rw [he, List.all_eq_true] at hc
    simpa using hc '\n' (List.mem_reverse.2 h)
  rw [lastLine, List.reverse_append, List.takeWhile_append, if_neg (fun he ↦ hd ?_), lastLine]
  exact (List.takeWhile_sublist _).eq_of_length he

/-- A place in a file, counted from 1. -/
structure Location where
  file : String
  line : Nat
  column : Nat
  deriving DecidableEq, Repr

namespace Location

/-- The first character of a file. -/
def start (file : String) : Location := ⟨file, 1, 1⟩

/-- `a` is in the same file as `b`, on an earlier line or on its line and not behind it. -/
instance : LE Location where
  le a b := a.file = b.file ∧ (a.line < b.line ∨ a.line = b.line ∧ a.column ≤ b.column)

theorem le_def (a b : Location) :
    a ≤ b ↔ a.file = b.file ∧ (a.line < b.line ∨ a.line = b.line ∧ a.column ≤ b.column) := Iff.rfl

instance (a b : Location) : Decidable (a ≤ b) := decidable_of_iff' _ (le_def a b)

/-- The order of two places of one file. -/
def compare? (a b : Location) : Option Ordering :=
  if a.file = b.file then some ((compare a.line b.line).then (compare a.column b.column)) else none

/-- The place after the text `cs`, which is read at once. A text that ends a line leaves the column
at the number of its characters after the last line end; any other moves it on by its length. So a
column counts the characters read of the line, and on the first line it is that count plus 1. -/
def advance (l : Location) (cs : List Char) : Location :=
  if '\n' ∈ cs then ⟨l.file, l.line + cs.count '\n', (lastLine cs).length⟩
  else ⟨l.file, l.line, l.column + cs.length⟩

variable (l : Location)

theorem advance_of_mem {cs : List Char} (h : '\n' ∈ cs) :
    l.advance cs = ⟨l.file, l.line + cs.count '\n', (lastLine cs).length⟩ := if_pos h

theorem advance_of_not_mem {cs : List Char} (h : '\n' ∉ cs) :
    l.advance cs = ⟨l.file, l.line, l.column + cs.length⟩ := if_neg h

@[simp]
theorem advance_nil : l.advance [] = l := advance_of_not_mem l List.not_mem_nil

@[simp]
theorem file_advance (cs : List Char) : (l.advance cs).file = l.file := by
  unfold advance
  split <;> rfl

/-- How a text is cut into pieces makes no difference to the place after it. -/
theorem advance_append (cs ds : List Char) : l.advance (cs ++ ds) = (l.advance cs).advance ds := by
  by_cases hd : '\n' ∈ ds
  · rw [advance_of_mem l (List.mem_append_right cs hd), advance_of_mem _ hd,
      lastLine_append_of_mem cs hd, List.count_append, file_advance]
    by_cases hc : '\n' ∈ cs
    · rw [advance_of_mem l hc, Nat.add_assoc]
    · rw [advance_of_not_mem l hc, List.count_eq_zero.2 hc, Nat.zero_add]
  · have hn : ds.count '\n' = 0 := List.count_eq_zero.2 hd
    rw [advance_of_not_mem _ hd]
    by_cases hc : '\n' ∈ cs
    · rw [advance_of_mem l (List.mem_append_left ds hc), advance_of_mem l hc,
        lastLine_append_of_not_mem cs hd, List.count_append, List.length_append, hn, Nat.add_zero]
    · have h : '\n' ∉ cs ++ ds := fun h ↦ (List.mem_append.1 h).elim hc hd
      rw [advance_of_not_mem l h, advance_of_not_mem l hc, List.length_append, Nat.add_assoc]

def text (l : Location) : String := l.file ++ ":" ++ toString l.line ++ ":" ++ toString l.column

end Location

end Harmonograph
