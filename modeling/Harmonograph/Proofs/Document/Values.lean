import Harmonograph.Proofs.Document.Grammar
import Harmonograph.Proofs.Number.Characters

/-!
Reading the words of a document: symbols, values and comments. Words stand apart from each other, so
that no reader takes anything of the next word, whatever state the lexicon has been left in.
-/

namespace Harmonograph

theorem Parted.head_blank {ws : List (List Char)} {cs : List Char} (h : Parted ws cs) :
    ∀ c ∈ cs.head?, isBlank c = true := by
  cases h with
  | nil hb => exact fun c hc ↦ hb c (List.mem_of_head? hc)
  | cons hb hne hs =>
    obtain ⟨d, gap', rfl⟩ := List.exists_cons_of_ne_nil hne
    intro c hc
    obtain rfl : d = c := Option.some.inj hc
    exact hb _ List.mem_cons_self

/-- A run of characters of a class ends where a character outside of the class follows. -/
theorem takeWhile_run {p : Char → Bool} {w cs : List Char} (hw : ∀ c ∈ w, p c = true)
    (hcs : ∀ c ∈ cs.head?, p c = false) :
    (w ++ cs).takeWhile p = w ∧ (w ++ cs).dropWhile p = cs := by
  rw [List.takeWhile_append_of_pos hw, List.dropWhile_append_of_pos hw]
  cases cs with
  | nil => simp
  | cons c cs => simp [hcs c rfl]

/-- The words `ws` are what is left of a file. Without a blank before them they are read from the
root of the lexicon. -/
def Progress.At (p : Progress) (ws : List (List Char)) : Prop :=
  Parted ws p.scanner.unread.rest ∨ p.scanner.state = 0 ∧ Spaced ws p.scanner.unread.rest

namespace Progress.At

variable {p : Progress} {w : List Char} {ws : List (List Char)}

theorem of_parted (h : Parted ws p.scanner.unread.rest) : p.At ws := .inl h

theorem blank (h : p.At []) : Blank p.scanner.unread.rest := by
  rcases h with h | ⟨-, h⟩
  · cases h with
    | nil hb => exact hb
  · cases h with
    | nil hb => exact hb

theorem exists_gap (h : p.At (w :: ws)) : ∃ gap cs, p.scanner.unread.rest = gap ++ (w ++ cs) ∧
    Blank gap ∧ (gap ≠ [] ∨ p.scanner.state = 0) ∧ Parted ws cs := by
  rcases h with h | ⟨hs, h⟩
  · generalize hr : p.scanner.unread.rest = text at h
    cases h with
    | cons hb hne hp => exact ⟨_, _, rfl, hb, .inl hne, hp⟩
  · generalize hr : p.scanner.unread.rest = text at h
    cases h with
    | cons hb hp => exact ⟨_, _, rfl, hb, .inr hs, hp⟩

end Progress.At

namespace Scanner

variable {s : Scanner} {gap w cs : List Char}

theorem next_of_blank (hb : Blank s.unread.rest) : s.next.1.symbol = .endOfInput := by
  by_cases hr : s.unread.rest = []
  · simp [next, hr, Trie.read]
  · have hroot := Lexicon.read_blanks (s := s.state) hb (.inl hr)
    simp [next, hroot, Lexicon.kind?_root]

/-- A run of characters that are not blank is read as a word, up to a character outside of its
class. -/
theorem word_run {p : Char → Bool} (hp : ∀ c, isBlank c = true → p c = false)
    (hr : s.unread.rest = gap ++ (w ++ cs)) (hb : Blank gap) (hne : w ≠ [])
    (hw : ∀ c ∈ w, p c = true) (hcs : ∀ c ∈ cs.head?, isBlank c = true) :
    (s.word p).1 = w ∧ (s.word p).2.unread.rest = cs := by
  have hhead : ∀ c ∈ (w ++ cs).head?, isBlank c = false := by
    obtain ⟨d, w', rfl⟩ := List.exists_cons_of_ne_nil hne
    intro c hc
    obtain rfl : d = c := Option.some.inj hc
    by_contra hbl
    have hpd := hp d (by simpa using hbl)
    rw [hw d List.mem_cons_self] at hpd
    cases hpd
  obtain ⟨-, hskip⟩ := takeWhile_run hb hhead
  obtain ⟨htake, hdrop⟩ := takeWhile_run hw (fun c hc ↦ hp c (hcs c hc))
  simp only [word, takeWhile, Unread.takeWhile, hr, hskip, htake, hdrop, and_self]

end Scanner

namespace Reading

variable {α β : Type}

/-- The step takes the words `us` and gives `a`, whatever words follow. -/
def Takes (m : Reading α) (us : List (List Char)) (a : α) : Prop :=
  ∀ (p : Progress) (ws : List (List Char)), p.At (us ++ ws) → ∃ q, m p = (.ok a, q) ∧ q.At ws

theorem Takes.pure (a : α) : Takes (Pure.pure a : Reading α) [] a := fun p _ hp ↦ ⟨p, rfl, hp⟩

theorem Takes.bind {m : Reading α} {f : α → Reading β} {us vs : List (List Char)} {a : α} {b : β}
    (hm : m.Takes us a) (hf : (f a).Takes vs b) : Takes (m >>= f) (us ++ vs) b := by
  intro p ws hp
  rw [List.append_assoc] at hp
  obtain ⟨q, hq, hq'⟩ := hm p (vs ++ ws) hp
  obtain ⟨r, hr, hr'⟩ := hf q ws hq'
  refine ⟨r, ?_, hr'⟩
  simp only [Bind.bind, hq, hr]

/-- A step that takes nothing more may follow. -/
theorem Takes.finish {m : Reading α} {f : α → Reading β} {us : List (List Char)} {a : α} {b : β}
    (hm : m.Takes us a) (hf : (f a).Takes [] b) : Takes (m >>= f) us b := by
  have h := hm.bind hf
  rwa [List.append_nil] at h

theorem Takes.map {m : Reading α} {us : List (List Char)} {a : α} (f : α → β) (hm : m.Takes us a) :
    Takes (f <$> m) us (f a) := hm.finish (.pure (f a))

theorem takes_next {s : Symbol} {w : List Char} (hw : s.Spells w) : Takes next [w] s := by
  intro p ws hp
  obtain ⟨gap, cs, hr, hb, hg, hcs⟩ := hp.exists_gap
  obtain ⟨hs, hrest, -⟩ := Scanner.next_of_spells hr hb hg hw
  exact ⟨p.next.2, congrArg (fun s ↦ (Except.ok s, p.next.2)) hs, .of_parted (hrest ▸ hcs)⟩

theorem takes_word {p : Char → Bool} {w : List Char} (hp : ∀ c, isBlank c = true → p c = false)
    (hne : w ≠ []) (hw : ∀ c ∈ w, p c = true) : Takes (scan (·.word p)) [w] w := by
  intro q ws hq
  obtain ⟨gap, cs, hr, hb, -, hcs⟩ := hq.exists_gap
  obtain ⟨h₁, h₂⟩ := Scanner.word_run hp hr hb hne hw hcs.head_blank
  refine ⟨{ q with scanner := (q.scanner.word p).2 }, ?_, .of_parted (h₂ ▸ hcs)⟩
  simp only [scan, h₁]

theorem takes_identifier {field : Symbol} {s : String} {w : List Char} (h : NameWord s w) :
    Takes (identifier field) [w] s := by
  obtain ⟨hne, hw, rfl⟩ := h
  refine (takes_word (fun c ↦ isAlphanumeric_eq_false_of_isBlank) hne hw).finish ?_
  have he : w.isEmpty = false := by simpa using hne
  simp only [he, Bool.false_eq_true, if_false]
  exact .pure _

theorem takes_number {x : Float} {w : List Char} (h : NumberWord x w) : Takes number [w] x := by
  obtain ⟨hne, hw⟩ := numberChars_of_readNumber? h
  refine (takes_word (fun c ↦ isNumberChar_eq_false_of_isBlank) hne hw).finish ?_
  have he : w.isEmpty = false := by simpa using hne
  have hx : readNumber? w = some x := h
  simp only [he, hx, Bool.false_eq_true, if_false]
  exact .pure _

theorem takes_separator : Takes separator [[',']] () :=
  (takes_next (s := .comma) ⟨",", rfl, rfl⟩).finish (.pure ())

theorem takes_point {p : Point} {ws : List (List Char)} (h : PointWords p ws) :
    Takes point ws p := by
  obtain ⟨u, v, hu, hv, rfl⟩ := h
  exact (takes_number hu).bind (takes_separator.bind ((takes_number hv).bind (.pure p)))

theorem takes_colour {c : Colour} {ws : List (List Char)} (h : ColourWords c ws) :
    Takes colour ws c := by
  obtain ⟨r, g, b, a, hr, hg, hb, ha, rfl⟩ := h
  exact (takes_number hr).bind (takes_separator.bind ((takes_number hg).bind
    (takes_separator.bind ((takes_number hb).bind (takes_separator.bind
      ((takes_number ha).bind (.pure c)))))))

theorem ofName?_of_motionWord {m : Motion} {w : List Char} (h : MotionWord m w) :
    Motion.ofName? w = some m := by
  obtain ⟨hm, hw⟩ := h
  cases m with
  | oscillation => simp [Motion.ofName?, hw]
  | rotation => simp [Motion.ofName?, hw]; decide
  | invalid => exact absurd rfl hm

theorem takes_motion {m : Motion} {w : List Char} (h : MotionWord m w) : Takes motion [w] m := by
  have hlower : m.text.toList.all Char.isAlpha = true := by
    cases m <;> decide
  have hne : w ≠ [] := by
    rintro rfl
    cases m <;> exact absurd h.2 (by decide)
  have hw : ∀ c ∈ w, isAlphanumeric c = true := by
    intro c hc
    have hl : c.toLower ∈ m.text.toList := h.2 ▸ List.mem_map_of_mem hc
    exact isAlphanumeric_of_toLower (List.all_eq_true.1 hlower _ hl)
  refine (takes_word (fun c ↦ isAlphanumeric_eq_false_of_isBlank) hne hw).finish ?_
  simp only [ofName?_of_motionWord h]
  exact .pure _

end Reading

end Harmonograph
