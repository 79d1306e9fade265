import Harmonograph.Proofs.Drawing.Likeness
import Harmonograph.Proofs.Reading.Failures

/-!
How far ahead a failure is decided. Reading looks at one character beyond what it has read, so that
texts that are the same up to there fail in the same way.
-/

namespace Harmonograph

namespace Scanner

/-- Scanners at the same place of texts that go on alike for a while, and then with `a` and with
`b`. -/
structure Together (a b : List Char) (s t : Scanner) : Prop where
  state : s.state = t.state
  location : s.location = t.location
  rest : ∃ front, front ≠ [] ∧ s.unread.rest = front ++ a ∧ t.unread.rest = front ++ b

namespace Together

variable {a b : List Char} {s t : Scanner}

theorem peek?_eq (h : s.Together a b t) : s.unread.peek? = t.unread.peek? := by
  obtain ⟨front, hne, hs, ht⟩ := h.rest
  rw [Unread.peek?, Unread.peek?, hs, ht, List.head?_append_of_ne_nil _ hne,
    List.head?_append_of_ne_nil _ hne]

/-- A symbol that ends before what the texts have in common ends is found in both. -/
theorem next (h : s.Together a b t) : s.next.2.unread.rest.length ≤ a.length ∨
    s.next.1.symbol = t.next.1.symbol ∧ s.next.2.Together a b t.next.2 := by
  obtain ⟨front, hne, hs, ht⟩ := h.rest
  by_cases hk : (lexicon.kind? (lexicon.read s.state front).state).isSome
  · generalize hread : lexicon.read s.state front = r at hk
    have hreads : lexicon.read s.state s.unread.rest = ⟨r.state, r.text, r.rest ++ a⟩ := by
      rw [hs, lexicon.read_append s.state a hne (hread ▸ hk), hread]
    have hreadt : lexicon.read t.state t.unread.rest = ⟨r.state, r.text, r.rest ++ b⟩ := by
      rw [ht, ← h.state, lexicon.read_append s.state b hne (hread ▸ hk), hread]
    by_cases hrest : r.rest = []
    · refine .inl (Nat.le_of_eq ?_)
      simp only [Scanner.next, hreads, hrest, List.nil_append]
    · have hstate : s.next.2.state = t.next.2.state := by
        simp only [Scanner.next, hreads, hreadt]
      have hempty : s.unread.rest.isEmpty = t.unread.rest.isEmpty := by
        rw [hs, ht, List.isEmpty_eq_false_iff.2 (List.append_ne_nil_of_left_ne_nil hne a),
          List.isEmpty_eq_false_iff.2 (List.append_ne_nil_of_left_ne_nil hne b)]
      refine .inr ⟨symbol_next_eq hstate hempty, hstate, ?_, r.rest, hrest, ?_, ?_⟩
      · simp only [Scanner.next, hreads, hreadt, h.location]
      · simp only [Scanner.next, hreads]
      · simp only [Scanner.next, hreadt]
  · have hreads := lexicon.read_append_of_none s.state a (Option.not_isSome_iff_eq_none.1 hk)
    have hlength := congrArg List.length
      (lexicon.read_text_append_rest (lexicon.read s.state front).state a)
    rw [List.length_append] at hlength
    left
    rw [← hs] at hreads
    simp only [Scanner.next, hreads]
    omega

/-- A run of characters that ends before what the texts have in common ends is the same in both. -/
theorem takeWhile (h : s.Together a b t) (p : Char → Bool) :
    (s.takeWhile p).2.unread.rest.length ≤ a.length ∨
      (s.takeWhile p).1 = (t.takeWhile p).1 ∧ (s.takeWhile p).2.Together a b (t.takeWhile p).2 := by
  obtain ⟨front, hne, hs, ht⟩ := h.rest
  have hparts := List.takeWhile_append_dropWhile (p := p) (l := front)
  by_cases hrest : front.dropWhile p = []
  · rw [hrest, List.append_nil] at hparts
    left
    simp only [Scanner.takeWhile, Unread.takeWhile, hs, List.dropWhile_append, hrest,
      List.isEmpty_nil, if_true]
    exact (List.dropWhile_sublist _).length_le
  · have hlength : (front.takeWhile p).length ≠ front.length := by
      have hsum := congrArg List.length hparts
      have hpos := List.length_pos_iff.2 hrest
      rw [List.length_append] at hsum
      omega
    have hrun : (s.takeWhile p).1 = front.takeWhile p ∧ (t.takeWhile p).1 = front.takeWhile p := by
      simp only [Scanner.takeWhile, Unread.takeWhile, hs, ht, List.takeWhile_append, if_neg hlength,
        and_self]
    refine .inr ⟨hrun.1.trans hrun.2.symm, h.state, ?_, front.dropWhile p, hrest, ?_, ?_⟩
    · have hadvance : ∀ s : Scanner,
          (s.takeWhile p).2.location = s.location.advance (s.takeWhile p).1 := fun _ ↦ rfl
      rw [hadvance, hadvance, hrun.1, hrun.2, h.location]
    · simp [Scanner.takeWhile, Unread.takeWhile, hs, List.dropWhile_append, hrest]
    · simp [Scanner.takeWhile, Unread.takeWhile, ht, List.dropWhile_append, hrest]

theorem word (h : s.Together a b t) (p : Char → Bool) :
    (s.word p).2.unread.rest.length ≤ a.length ∨
      (s.word p).1 = (t.word p).1 ∧ (s.word p).2.Together a b (t.word p).2 := by
  rcases h.takeWhile isBlank with hpast | ⟨-, hblank⟩
  · exact .inl (Nat.le_trans (remaining_takeWhile_le _ p) hpast)
  · exact hblank.takeWhile p

end Together

end Scanner

/-- Texts that go on alike for a while, and then with `a` and with `b`. -/
def Lockstep.together (a b : List Char) : Lockstep where
  Abreast := Scanner.Together a b
  Past s := s.unread.rest.length ≤ a.length
  word := id
  place := id
  past_of_reads h hr := Nat.le_trans hr.length_rest_le h
  place_eq h := h.location
  next_abreast h := h.next
  word_abreast {s t p} _ h := by
    rcases h.word p with hpast | ⟨hword, hafter⟩
    · exact .inl hpast
    · exact .inr ⟨congrArg String.ofList hword, hafter, fun _ ↦ hafter.peek?_eq⟩
  word_means := Lockstep.word_means_id

theorem Lockstep.failure_together (a b : List Char) (e : Failure) : (together a b).failure e = e :=
  congrArg (Failure.mk · e.location) e.fault.requote_id

open Reading

/-- A failure is behind what has been read of a text. Where that is not all of the text, the failure
is decided by it and by the character that follows. -/
theorem drawText_error_ahead {timeStep : Float} {file text : String} {e : Failure}
    (h : (drawText timeStep file text).1 = .error e) :
    ∃ n ≤ text.toList.length, e.location = .ofPosition file text.toList n ∧
      (n < text.toList.length → ∀ text' : String,
        text'.toList.take (n + 1) = text.toList.take (n + 1) →
          (drawText timeStep file text').1 = .error e) := by
  have honward := regular_sheet timeStep .empty (.ofText file text.toList)
  have hwithin := ((Progress.Within.ofText file text.toList).onward honward).1
  have hlocation := (honward.fails e h).trans hwithin.location
  refine ⟨_, hwithin.position_le, hlocation, fun hlt text' htake ↦ ?_⟩
  let n := (sheet timeStep .empty (.ofText file text.toList)).2.position
  let k := Lockstep.together (text.toList.drop (n + 1)) (text'.toList.drop (n + 1))
  have hstart : k.Abreast (.ofText file text.toList) (.ofText file text'.toList) := by
    refine ⟨rfl, rfl, text.toList.take (n + 1), ?_, ?_, ?_⟩
    · rw [← List.length_pos_iff, List.length_take]
      omega
    · exact (List.take_append_drop _ _).symm
    · rw [← htake]
      exact (List.take_append_drop _ _).symm
  have hends := Lockstep.ends_sheet timeStep .empty (Lockstep.along_ofText hstart)
  have hsecond : (drawText timeStep file text').1 =
      (sheet timeStep .empty (.ofText file text'.toList)).1 := rfl
  have hfirst : (sheet timeStep .empty (.ofText file text.toList)).1 = .error e := h
  -- Where the failure is found, one character at least is left of what the texts have in common.
  have hahead : ¬ k.Past (sheet timeStep .empty (.ofText file text.toList)).2.scanner := by
    have hrest := congrArg List.length hwithin.rest
    have hpast : k.Past (sheet timeStep .empty (.ofText file text.toList)).2.scanner ↔
        (sheet timeStep .empty (.ofText file text.toList)).2.scanner.unread.rest.length ≤
          (text.toList.drop (n + 1)).length := Iff.rfl
    rw [List.length_drop] at hrest
    rw [hpast, List.length_drop]
    omega
  have hfailure : ∀ e, k.failure e = e := Lockstep.failure_together _ _
  rw [hsecond]
  clear_value k
  generalize sheet timeStep .empty (.ofText file text.toList) = r at hends hfirst hahead
  generalize sheet timeStep .empty (.ofText file text'.toList) = r' at hends ⊢
  cases hends with
  | past hpast => exact absurd hpast hahead
  | ok => cases hfirst
  | error he =>
    obtain rfl := Except.error.inj hfirst
    rw [hfailure, hfailure] at he
    exact congrArg Except.error he.symm

theorem drawText_error_ahead_of_name : ∃ e, (drawText 0.5 "t" "name: -\x7b").1 = .error e ∧
    e.location = ⟨"t", 1, 7⟩ ∧
    ∀ more : String, (drawText 0.5 "t" ("name: -" ++ more)).1 = .error e := by
  have he : (drawText 0.5 "t" "name: -\x7b").1 =
      .error ⟨.expectedIdentifier .name "'-'", ⟨"t", 1, 7⟩⟩ :=
    eq_error_of_map (by decide +kernel)
  obtain ⟨n, hn, hlocation, hahead⟩ := drawText_error_ahead he
  obtain rfl : n = 6 := by
    have hplaces : ∀ n ≤ 8, (⟨"t", 1, 7⟩ : Location) =
        .ofPosition "t" "name: -\x7b".toList n → n = 6 := by
      decide
    exact hplaces n hn hlocation
  refine ⟨_, he, rfl, fun more ↦ hahead (by decide) _ ?_⟩
  rw [String.toList_append]
  rfl

end Harmonograph
