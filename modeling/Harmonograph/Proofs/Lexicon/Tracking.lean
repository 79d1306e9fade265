import Harmonograph.Proofs.Lexicon.Recognition

/-!
A scanner reads its text from front to back without a gap, and its location is that of the text it
has read, whatever it is asked for and in whatever order.
-/

namespace Harmonograph

namespace Location

variable (l : Location)

theorem foldl_advance (chunks : List (List Char)) :
    chunks.foldl advance l = l.advance chunks.flatten := by
  induction chunks generalizing l with
  | nil => exact l.advance_nil.symm
  | cons chunk chunks ih => rw [List.foldl_cons, List.flatten_cons, ih, advance_append]

/-- The column is a count of characters: of those on the line, or from 1 where no line has ended. -/
theorem advance_start (file : String) (cs : List Char) :
    ((start file).advance cs).file = file ∧
    ((start file).advance cs).line = 1 + cs.count '\n' ∧
    (∀ before line, cs = before ++ '\n' :: line → '\n' ∉ line →
      ((start file).advance cs).column = line.length) ∧
    ('\n' ∉ cs → ((start file).advance cs).column = cs.length + 1) := by
  refine ⟨file_advance _ _, ?_, ?_, ?_⟩
  · by_cases h : '\n' ∈ cs
    · rw [advance_of_mem _ h]
      rfl
    · rw [advance_of_not_mem _ h, List.count_eq_zero.2 h]
      rfl
  · rintro before line rfl hline
    have hend : lastLine (before ++ '\n' :: line) = line := by
      rw [List.append_cons, lastLine_append_of_not_mem _ hline,
        lastLine_append_of_mem before (List.mem_singleton_self '\n')]
      rfl
    rw [advance_of_mem _ (by simp), hend]
  · intro h
    rw [advance_of_not_mem _ h]
    exact Nat.add_comm _ _

end Location

namespace Scanner

/-- `t` is where `s` gets by reading `text`. -/
structure Reads (s : Scanner) (text : List Char) (t : Scanner) : Prop where
  rest : text ++ t.unread.rest = s.unread.rest
  position : t.unread.position = s.unread.position + text.length
  location : t.location = s.location.advance text

namespace Reads

variable {s t u : Scanner} {text more : List Char}

theorem refl (s : Scanner) : s.Reads [] s := ⟨rfl, rfl, s.location.advance_nil.symm⟩

theorem trans (h : s.Reads text t) (h' : t.Reads more u) : s.Reads (text ++ more) u where
  rest := by rw [List.append_assoc, h'.rest, h.rest]
  position := by rw [h'.position, h.position, List.length_append, Nat.add_assoc]
  location := by rw [h'.location, h.location, Location.advance_append]

theorem length_rest_le (h : s.Reads text t) : t.unread.rest.length ≤ s.unread.rest.length := by
  rw [← h.rest, List.length_append]
  exact Nat.le_add_left _ _

/-- From the start of a text a front part of it is read. -/
theorem of_ofText {file : String} {cs : List Char} (h : (ofText file cs).Reads text t) :
    text = cs.take t.unread.position ∧ t.unread.rest = cs.drop t.unread.position ∧
      t.unread.position ≤ cs.length := by
  have hrest : text ++ t.unread.rest = cs := h.rest
  have hposition : t.unread.position = text.length := h.position.trans (Nat.zero_add _)
  rw [hposition, ← hrest, List.take_left, List.drop_left, List.length_append]
  exact ⟨rfl, rfl, Nat.le_add_right _ _⟩

/-- Nothing can be read where nothing is left. -/
theorem eq_nil (h : s.Reads text t) (hs : s.unread.rest = []) :
    text = [] ∧ t.unread.rest = [] ∧ t.location = s.location := by
  obtain ⟨ht, hrest⟩ := List.append_eq_nil_iff.1 (h.rest.trans hs)
  refine ⟨ht, hrest, ?_⟩
  rw [h.location, ht, Location.advance_nil]

end Reads

/-- What a scanner can be asked for. -/
inductive Request
  | next
  | identifier
  | numberText
  deriving DecidableEq, Repr

variable (s : Scanner)

/-- The texts that are read at once on the way to a word: the blanks before it and the word. -/
def wordPieces (p : Char → Bool) : List (List Char) := [(s.takeWhile isBlank).1, (s.word p).1]

def pieces : Request → List (List Char)
  | .next => [s.next.1.text]
  | .identifier => s.wordPieces isAlphanumeric
  | .numberText => s.wordPieces isNumberChar

def after : Request → Scanner
  | .next => s.next.2
  | .identifier => s.identifier.2
  | .numberText => s.numberText.2

/-- The texts read on a list of requests, and where the scanner is after them. -/
def run (s : Scanner) : List Request → List (List Char) × Scanner
  | [] => ([], s)
  | r :: rs => (s.pieces r ++ ((s.after r).run rs).1, ((s.after r).run rs).2)

theorem reads_next : s.Reads s.next.1.text s.next.2 :=
  ⟨lexicon.read_text_append_rest _ _, rfl, rfl⟩

theorem reads_takeWhile (p : Char → Bool) : s.Reads (s.takeWhile p).1 (s.takeWhile p).2 :=
  ⟨s.unread.takeWhile_append_rest p, s.unread.position_takeWhile p, rfl⟩

theorem reads_word (p : Char → Bool) : s.Reads (s.wordPieces p).flatten (s.word p).2 := by
  have h := (s.reads_takeWhile isBlank).trans (reads_takeWhile _ p)
  simpa [wordPieces, word] using h

theorem reads_after (r : Request) : s.Reads (s.pieces r).flatten (s.after r) := by
  cases r with
  | next => simpa [pieces, after] using s.reads_next
  | identifier => exact s.reads_word _
  | numberText => exact s.reads_word _

theorem reads_run (rs : List Request) : s.Reads (s.run rs).1.flatten (s.run rs).2 := by
  induction rs generalizing s with
  | nil => exact .refl s
  | cons r rs ih =>
    rw [run, List.flatten_append]
    exact (s.reads_after r).trans (ih _)

/-- The end of the input is found where nothing is left. -/
theorem rest_next_eq_nil (h : s.next.1.symbol = .endOfInput) : s.next.2.unread.rest = [] := by
  cases hr : s.unread.rest with
  | nil => exact (s.reads_next.eq_nil hr).2.1
  | cons c cs =>
    have ht := lexicon.text_read_ne_nil s.state c cs
    rw [← hr] at ht
    refine lexicon.rest_read_eq_nil s.state _ ?_
    have hk : (lexicon.kind? (lexicon.read s.state s.unread.rest).state).getD .endOfInput =
        .endOfInput := by
      simpa [next, ht] using h
    cases hkind : lexicon.kind? (lexicon.read s.state s.unread.rest).state with
    | none => rfl
    | some y =>
      rw [hkind, Option.getD_some] at hk
      exact absurd (hk ▸ hkind) (Lexicon.kind?_ne_endOfInput _)

/-- Where nothing is left, the end of the input is all that is found. -/
theorem run_of_rest_eq_nil (h : s.unread.rest = []) (rs : List Request) :
    (s.run rs).2.next.1 = ⟨.endOfInput, []⟩ ∧ (s.run rs).2.identifier.1 = [] ∧
      (s.run rs).2.numberText.1 = [] ∧ (s.run rs).2.location = s.location := by
  obtain ⟨-, hrest, hloc⟩ := (s.reads_run rs).eq_nil h
  have hword : ∀ p, ((s.run rs).2.word p).1 = [] := by
    intro p
    have hp := ((s.run rs).2.reads_word p).eq_nil hrest
    exact List.flatten_eq_nil_iff.1 hp.1 _ (by simp [wordPieces])
  refine ⟨?_, hword _, hword _, hloc⟩
  simp only [next, hrest, Trie.read, List.isEmpty_nil, if_true]

/-- Whatever a scanner is asked for, it has read a front part of its text, piece by piece and
without a gap, and its location is the place after that part, however it is cut. The end of the
input is found only when all of the text has been read, and from then on nothing else is. -/
theorem run_tracks (file : String) (cs : List Char) (rs : List Request) :
    let s := ((ofText file cs).run rs).2
    let front := cs.take s.unread.position
    ((ofText file cs).run rs).1.flatten = front ∧ s.unread.rest = cs.drop s.unread.position ∧
    s.unread.position ≤ cs.length ∧
    s.location.file = file ∧ s.location.line = 1 + front.count '\n' ∧
    (∀ before line, front = before ++ '\n' :: line → '\n' ∉ line →
      s.location.column = line.length) ∧
    ('\n' ∉ front → s.location.column = front.length + 1) ∧
    (∀ chunks : List (List Char), chunks.flatten = front →
      chunks.foldl Location.advance (.start file) = s.location) ∧
    (s.next.1.symbol = .endOfInput →
      s.next.2.unread.position = cs.length ∧ ∀ more,
        (s.next.2.run more).2.next.1 = ⟨.endOfInput, []⟩ ∧
        (s.next.2.run more).2.identifier.1 = [] ∧ (s.next.2.run more).2.numberText.1 = [] ∧
        (s.next.2.run more).2.location = s.next.2.location) := by
  intro s front
  have h : (ofText file cs).Reads _ s := (ofText file cs).reads_run rs
  obtain ⟨hfront, hrest, hle⟩ := h.of_ofText
  rw [hfront] at h
  have hloc : s.location = (Location.start file).advance front := h.location
  obtain ⟨hfile, hline, hcolumn, hfirst⟩ := Location.advance_start file front
  rw [← hloc] at hfile hline hcolumn hfirst
  refine ⟨hfront, hrest, hle, hfile, hline, hcolumn, hfirst, ?_, ?_⟩
  · intro chunks hchunks
    rw [Location.foldl_advance, hchunks, hloc]
  · intro hend
    have hnil := s.rest_next_eq_nil hend
    refine ⟨?_, s.next.2.run_of_rest_eq_nil hnil⟩
    obtain ⟨-, hdrop, hle'⟩ := (h.trans s.reads_next).of_ofText
    rw [hnil] at hdrop
    exact Nat.le_antisymm hle' (List.drop_eq_nil_iff.1 hdrop.symm)

end Scanner

end Harmonograph
