import Harmonograph.Proofs.Document.Grammar
import Harmonograph.Proofs.Drawing.Likeness

/-!
Layout. What a text describes depends on the words in it and not on how they are laid out: how many
blanks stand between two of them, and which, is the same to every reader.
-/

namespace Harmonograph

/-- Texts that are the same but for their blanks, and have blanks in the same places. -/
inductive Respaced : List Char → List Char → Prop
  | nil : Respaced [] []
  | char {c : Char} {cs ds : List Char} :
    isBlank c = false → Respaced cs ds → Respaced (c :: cs) (c :: ds)
  | gap {u v cs ds : List Char} : Blank u → Blank v → u ≠ [] → v ≠ [] →
    Respaced cs ds → Respaced (u ++ cs) (v ++ ds)

namespace Respaced

variable {cs ds : List Char}

theorem word {w : List Char} (hw : w.all (!isBlank ·) = true) (h : Respaced cs ds) :
    Respaced (w ++ cs) (w ++ ds) := by
  induction w with
  | nil => exact h
  | cons c w ih =>
    rw [List.all_cons, Bool.and_eq_true, Bool.not_eq_true'] at hw
    exact .char hw.1 (ih hw.2)

theorem isEmpty_eq (h : Respaced cs ds) : cs.isEmpty = ds.isEmpty := by
  cases h with
  | nil => rfl
  | char => rfl
  | gap _ _ hne hne' =>
    obtain ⟨c, gap, rfl⟩ := List.exists_cons_of_ne_nil hne
    obtain ⟨c', gap', rfl⟩ := List.exists_cons_of_ne_nil hne'
    rfl

theorem skip (h : Respaced cs ds) : Respaced (cs.dropWhile isBlank) (ds.dropWhile isBlank) ∧
    (cs.dropWhile isBlank).head? = (ds.dropWhile isBlank).head? := by
  induction h with
  | nil => exact ⟨.nil, rfl⟩
  | char hc h _ =>
    rw [List.dropWhile_cons_of_neg (by simp [hc]), List.dropWhile_cons_of_neg (by simp [hc])]
    exact ⟨.char hc h, rfl⟩
  | gap hb hb' _ _ _ ih => rwa [List.dropWhile_append_of_pos hb, List.dropWhile_append_of_pos hb']

/-- A run of characters that are not blank is the same in both, and ends in the same place. -/
theorem run {p : Char → Bool} (hp : ∀ c, isBlank c = true → p c = false) (h : Respaced cs ds) :
    cs.takeWhile p = ds.takeWhile p ∧ Respaced (cs.dropWhile p) (ds.dropWhile p) := by
  have hgap : ∀ {gap : List Char} (cs : List Char), Blank gap → gap ≠ [] →
      (gap ++ cs).takeWhile p = [] ∧ (gap ++ cs).dropWhile p = gap ++ cs := by
    intro gap cs hb hne
    obtain ⟨c, gap, rfl⟩ := List.exists_cons_of_ne_nil hne
    have hc := hp c (hb c List.mem_cons_self)
    simp [hc]
  induction h with
  | nil => exact ⟨rfl, .nil⟩
  | @char c cs ds hc h ih =>
    cases hpc : p c
    · simp only [List.takeWhile_cons, List.dropWhile_cons, hpc]
      exact ⟨rfl, .char hc h⟩
    · simp only [List.takeWhile_cons, List.dropWhile_cons, hpc]
      exact ⟨congrArg (c :: ·) ih.1, ih.2⟩
  | @gap gap gap' cs ds hb hb' hne hne' h _ =>
    rw [(hgap cs hb hne).1, (hgap cs hb hne).2, (hgap ds hb' hne').1, (hgap ds hb' hne').2]
    exact ⟨rfl, .gap hb hb' hne hne' h⟩

/-- Blanks lead back to the root of the lexicon, however many there are. -/
theorem read (h : Respaced cs ds) (s : Nat) :
    (lexicon.read s cs).state = (lexicon.read s ds).state ∧
      Respaced (lexicon.read s cs).rest (lexicon.read s ds).rest := by
  -- the two gaps need not be equally long, but both reads are at the root behind them
  have hgap : ∀ {gap : List Char} (s : Nat) (cs : List Char), Blank gap → gap ≠ [] →
      (lexicon.read s (gap ++ cs)).state = (lexicon.read 0 cs).state ∧
        (lexicon.read s (gap ++ cs)).rest = (lexicon.read 0 cs).rest := by
    intro gap s cs hb hne
    have hroot := Lexicon.read_blanks (s := s) hb (.inl hne)
    have hnone : lexicon.kind? (lexicon.read s gap).state = none := by
      rw [hroot]
      exact Lexicon.kind?_root
    rw [lexicon.read_append_of_none s cs hnone, hroot]
    exact ⟨rfl, rfl⟩
  induction h generalizing s with
  | nil => exact ⟨rfl, .nil⟩
  | @char c cs ds hc h ih =>
    rw [Trie.read, Trie.read]
    split
    · exact ⟨rfl, h⟩
    · exact ih _
  | @gap gap gap' cs ds hb hb' hne hne' _ ih =>
    rw [(hgap s cs hb hne).1, (hgap s cs hb hne).2, (hgap s ds hb' hne').1, (hgap s ds hb' hne').2]
    exact ih 0

end Respaced

/-- Texts with the same words in them, wherever these stand. -/
def Lockstep.layout : Lockstep where
  Abreast s t := s.state = t.state ∧ Respaced s.unread.rest t.unread.rest
  Past _ := False
  word := id
  place _ := .start ""
  past_of_reads h _ := h
  place_eq _ := rfl
  next_abreast {s t} h := by
    obtain ⟨hstate, hrest⟩ := h
    have hread := hrest.read s.state
    have hnext : s.next.2.state = t.next.2.state ∧
        Respaced s.next.2.unread.rest t.next.2.unread.rest := by
      simp only [Scanner.next, ← hstate]
      exact hread
    exact .inr ⟨Scanner.symbol_next_eq hnext.1 hrest.isEmpty_eq, hnext⟩
  word_abreast {s t p} hp h := by
    have hblank : ∀ c, isBlank c = true → p c = false := by
      intro c hc
      rcases hp with rfl | rfl
      · exact isAlphanumeric_eq_false_of_isBlank hc
      · exact isNumberChar_eq_false_of_isBlank hc
    obtain ⟨hskip, hhead⟩ := h.2.skip
    obtain ⟨hword, hrest⟩ := hskip.run hblank
    refine .inr ⟨congrArg String.ofList hword, ⟨h.1, hrest⟩, fun hnil ↦ ?_⟩
    have hnil' : (t.word p).1 = [] := hword.symm.trans hnil
    rw [Scanner.peek?_word hnil, Scanner.peek?_word hnil', hhead]
  word_means := Lockstep.word_means_id

/-- How the words of a text are laid out makes no difference to what it describes, nor to what is
wrong with it, but only to the places. -/
theorem drawText_respaced (timeStep : Float) (file : String) {text text' : String}
    (h : Respaced text.toList text'.toList) :
    (∃ d d', (drawText timeStep file text).1 = .ok d ∧ (drawText timeStep file text').1 = .ok d' ∧
      d.figures = d'.figures ∧ ∀ name, name ∈ d.index ↔ name ∈ d'.index) ∨
    ∃ e e', (drawText timeStep file text).1 = .error e ∧
      (drawText timeStep file text').1 = .error e' ∧ e.fault = e'.fault := by
  have hstart : Lockstep.layout.Abreast (.ofText file text.toList) (.ofText file text'.toList) :=
    ⟨rfl, h⟩
  rcases Lockstep.cases_drawText (fun _ ↦ id) timeStep hstart with
    ⟨d, d', hd, hd', hfigures, -⟩ | ⟨e, e', he, he', hfailure⟩
  · have hsame : d.figures = d'.figures := by
      have hid : Figure.rename Lockstep.layout.word = id := Figure.rename_id
      rwa [hid, List.map_id, List.map_id] at hfigures
    refine .inl ⟨d, d', hd, hd', hsame, fun name ↦ ?_⟩
    rw [Run.mem_index_drawText hd, Run.mem_index_drawText hd', hsame]
  · have hid : ∀ x : Fault, x.requote Lockstep.layout.word = x := Fault.requote_id
    have hfault := congrArg Failure.fault hfailure
    simp only [Lockstep.failure, hid] at hfault
    exact .inr ⟨e, e', he, he', hfault⟩

theorem drawText_respaced_over_lines : ∃ d d',
    (drawText 0.5 "t" "\x7bname: A type: rotation frequency: 2\x7d").1 = .ok d ∧
    (drawText 0.5 "t" "\x7bname:\n\tA type:  rotation\r\nfrequency:\u30002\x7d").1 = .ok d' ∧
    d.figures.map Figure.name = ["A", ""] ∧ d.figures = d'.figures := by
  have hrespaced : Respaced "\x7bname: A type: rotation frequency: 2\x7d".toList
      "\x7bname:\n\tA type:  rotation\r\nfrequency:\u30002\x7d".toList :=
    .word (w := "\x7bname:".toList) (by decide) <|
    .gap (u := [' ']) (v := ['\n', '\t']) (by decide) (by decide) (by decide) (by decide) <|
    .word (w := ['A']) (by decide) <|
    .gap (u := [' ']) (v := [' ']) (by decide) (by decide) (by decide) (by decide) <|
    .word (w := "type:".toList) (by decide) <|
    .gap (u := [' ']) (v := [' ', ' ']) (by decide) (by decide) (by decide) (by decide) <|
    .word (w := "rotation".toList) (by decide) <|
    .gap (u := [' ']) (v := ['\r', '\n']) (by decide) (by decide) (by decide) (by decide) <|
    .word (w := "frequency:".toList) (by decide) <|
    .gap (u := [' ']) (v := ['\u3000']) (by decide) (by decide) (by decide) (by decide) <|
    .word (w := ['2', '\x7d']) (by decide) .nil
  have hnames : (drawText 0.5 "t" "\x7bname: A type: rotation frequency: 2\x7d").1.toOption.map
      (·.figures.map Figure.name) = some ["A", ""] := by
    decide +kernel
  rcases drawText_respaced 0.5 "t" hrespaced with
    ⟨d, d', hd, hd', hfigures, -⟩ | ⟨e, e', he, -, -⟩
  · rw [hd] at hnames
    exact ⟨d, d', hd, hd', Option.some.inj hnames, hfigures⟩
  · rw [he] at hnames
    cases hnames

end Harmonograph
