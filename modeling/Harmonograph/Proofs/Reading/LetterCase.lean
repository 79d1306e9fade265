import Harmonograph.Proofs.Drawing.Likeness
import Harmonograph.Proofs.Text.LetterCase

/-!
Sources in another letter case. Names keep the case in which they are written; nothing else that is
read depends on it, and places are the same.
-/

namespace Harmonograph

namespace Scanner

/-- Scanners at the same place of texts that differ in letter case. -/
structure Recased (s t : Scanner) : Prop where
  state : s.state = t.state
  location : s.location = t.location
  rest : s.unread.rest.map Char.toLower = t.unread.rest.map Char.toLower

namespace Recased

variable {s t : Scanner}

theorem advance_eq {l l' : Location} {cs ds : List Char} (hl : l = l')
    (h : cs.map Char.toLower = ds.map Char.toLower) : l.advance cs = l'.advance ds := by
  rw [hl, ← Location.advance_map_toLower, h, Location.advance_map_toLower]

theorem next (h : s.Recased t) : s.next.1.symbol = t.next.1.symbol ∧ s.next.2.Recased t.next.2 := by
  have hfold : s.unread.rest.map foldCase = t.unread.rest.map foldCase := by
    have hcomp : foldCase ∘ Char.toLower = foldCase :=
      funext fun c ↦ (smallLetter_toLower c).foldCase
    rw [← hcomp, ← List.map_map, ← List.map_map, h.rest]
  obtain ⟨hstate, hlength⟩ := lexicon.read_congr s.state hfold
  rw [h.state] at hstate hlength
  have hparts : s.next.1.text.map Char.toLower = t.next.1.text.map Char.toLower ∧
      s.next.2.unread.rest.map Char.toLower = t.next.2.unread.rest.map Char.toLower := by
    have hs := congrArg (List.map Char.toLower)
      (lexicon.read_text_append_rest s.state s.unread.rest)
    have ht := congrArg (List.map Char.toLower)
      (lexicon.read_text_append_rest t.state t.unread.rest)
    rw [← h.rest, ← hs, List.map_append, List.map_append] at ht
    exact (List.append_inj ht (by simpa [h.state] using hlength.symm)).imp Eq.symm Eq.symm
  have hnext : s.next.2.state = t.next.2.state := by
    simp only [Scanner.next, h.state, hstate]
  have hempty : s.unread.rest.isEmpty = t.unread.rest.isEmpty := by
    rw [← List.isEmpty_map (f := Char.toLower), h.rest, List.isEmpty_map]
  exact ⟨symbol_next_eq hnext hempty, hnext, advance_eq h.location hparts.1, hparts.2⟩

theorem takeWhile (h : s.Recased t) {p : Char → Bool} (hp : ∀ c, p c.toLower = p c) :
    (s.takeWhile p).1.map Char.toLower = (t.takeWhile p).1.map Char.toLower ∧
      (s.takeWhile p).2.Recased (t.takeWhile p).2 := by
  have hrun : (s.takeWhile p).1.map Char.toLower = (t.takeWhile p).1.map Char.toLower := by
    simp only [Scanner.takeWhile, Unread.takeWhile]
    rw [← takeWhile_map_toLower _ hp, h.rest, takeWhile_map_toLower _ hp]
  refine ⟨hrun, h.state, advance_eq h.location hrun, ?_⟩
  simp only [Scanner.takeWhile, Unread.takeWhile]
  rw [← dropWhile_map_toLower _ hp, h.rest, dropWhile_map_toLower _ hp]

/-- What stands next in place of a word is no letter. -/
theorem head?_eq {p : Char → Bool} {cs ds : List Char}
    (hp : ∀ c, isAlphanumeric c = true → p c = true)
    (h : cs.map Char.toLower = ds.map Char.toLower) (hcs : cs.takeWhile p = [])
    (hds : ds.takeWhile p = []) : cs.head? = ds.head? := by
  -- a letter would have been read with the word
  have hself : ∀ (c : Char) (cs : List Char), (c :: cs).takeWhile p = [] → c.toLower = c := by
    intro c cs hnil
    apply toLower_of_not_alphanumeric
    by_contra hc
    have hpc := hp c (eq_true_of_ne_false hc)
    rw [List.takeWhile_cons_of_pos hpc] at hnil
    cases hnil
  cases cs with
  | nil =>
    obtain rfl : ds = [] := List.map_eq_nil_iff.1 h.symm
    rfl
  | cons c cs =>
    obtain ⟨d, ds, rfl, hd, -⟩ := List.map_eq_cons_iff.1 h.symm
    rw [hself d ds hds, hself c cs hcs] at hd
    rw [hd, List.head?_cons, List.head?_cons]

theorem word (h : s.Recased t) {p : Char → Bool} (hp : p = isAlphanumeric ∨ p = isNumberChar) :
    (s.word p).1.map Char.toLower = (t.word p).1.map Char.toLower ∧
      (s.word p).2.Recased (t.word p).2 ∧
      ((s.word p).1 = [] → (s.word p).2.unread.peek? = (t.word p).2.unread.peek?) := by
  have hlower : ∀ c, p c.toLower = p c := by
    rcases hp with rfl | rfl
    · exact fun c ↦ (smallLetter_toLower c).isAlphanumeric
    · exact fun c ↦ (smallLetter_toLower c).isNumberChar
  have hletter : ∀ c, isAlphanumeric c = true → p c = true := by
    intro c hc
    rcases hp with rfl | rfl
    · exact hc
    · simp [isNumberChar, hc]
  have hblank := (h.takeWhile fun c ↦ (smallLetter_toLower c).isBlank).2
  obtain ⟨hword, hafter⟩ := hblank.takeWhile hlower
  refine ⟨hword, hafter, fun hnil ↦ ?_⟩
  have hnil' : (t.word p).1 = [] := by
    have hmap : (t.word p).1.map Char.toLower = [] :=
      hword.symm.trans (by rw [← Scanner.word, hnil]; rfl)
    exact List.map_eq_nil_iff.1 hmap
  rw [peek?_word hnil, peek?_word hnil']
  exact head?_eq hletter hblank.rest hnil hnil'

end Recased

end Scanner

theorem toLower_ofList_eq_iff {cs ds : List Char} :
    (String.ofList cs).toLower = (String.ofList ds).toLower ↔
      cs.map Char.toLower = ds.map Char.toLower := by
  rw [← String.toList_inj, toList_toLower, toList_toLower, String.toList_ofList,
    String.toList_ofList]

/-- Texts that differ in letter case. -/
def Lockstep.letterCase : Lockstep where
  Abreast := Scanner.Recased
  Past _ := False
  word := String.toLower
  place := id
  past_of_reads h _ := h
  place_eq h := h.location
  next_abreast h := .inr h.next
  word_abreast hp h := .inr (by
    obtain ⟨hword, hafter, hpeek⟩ := h.word hp
    exact ⟨toLower_ofList_eq_iff.2 hword, hafter, hpeek⟩)
  word_means {cs ds} h := by
    have hmap := toLower_ofList_eq_iff.1 h
    refine ⟨?_, ?_, ?_⟩
    · rw [← List.isEmpty_map (f := Char.toLower), hmap, List.isEmpty_map]
    · rw [← readNumber?_map_toLower, hmap, readNumber?_map_toLower]
    · rw [Motion.ofName?, Motion.ofName?, hmap]

/-- Texts that differ in letter case describe figures that differ in the letter case of their names,
with the same extents, or something is wrong with them in the same place, of which the words that
are quoted differ in letter case. -/
theorem drawText_of_toLower_eq (timeStep : Float) (file : String) {text text' : String}
    (h : text.toLower = text'.toLower) :
    (∃ d d', (drawText timeStep file text).1 = .ok d ∧ (drawText timeStep file text').1 = .ok d' ∧
      d.figures.map (Figure.rename String.toLower) = d'.figures.map (Figure.rename String.toLower) ∧
      ∃ extents : List Extent, extents.length = d.figures.length ∧
        Run.definitions (drawText timeStep file text).2 = (d.figures.map Figure.name).zip extents ∧
        Run.definitions (drawText timeStep file text').2 =
          (d'.figures.map Figure.name).zip extents ∧
        d.index = .record ∅ (Run.definitions (drawText timeStep file text).2) ∧
        d'.index = .record ∅ (Run.definitions (drawText timeStep file text').2)) ∨
    ∃ e e', (drawText timeStep file text).1 = .error e ∧
      (drawText timeStep file text').1 = .error e' ∧ e.location = e'.location ∧
      e.fault.requote String.toLower = e'.fault.requote String.toLower := by
  have hrest : text.toList.map Char.toLower = text'.toList.map Char.toLower := by
    rw [← String.toList_map, ← String.toList_map]
    exact congrArg String.toList h
  have hstart :
      Lockstep.letterCase.Abreast (.ofText file text.toList) (.ofText file text'.toList) :=
    ⟨rfl, rfl, hrest⟩
  rcases Lockstep.cases_drawText (fun _ ↦ id) timeStep hstart with
    ⟨d, d', hd, hd', hfigures, hdefinitions⟩ | ⟨e, e', he, he', hfailure⟩
  · let extents := (Run.definitions (drawText timeStep file text).2).map (·.2)
    have hextents : extents = (Run.definitions (drawText timeStep file text').2).map (·.2) := by
      have hsecond := congrArg (List.map Prod.snd) hdefinitions
      rwa [List.map_map, List.map_map] at hsecond
    obtain ⟨hnames, hindex⟩ := Run.names_drawText hd
    have hlength : extents.length = d.figures.length := by
      rw [← List.length_map (f := Figure.name), ← hnames, List.length_map, List.length_map]
    refine .inl ⟨d, d', hd, hd', hfigures, extents, hlength, Run.definitions_eq_zip hd, ?_, hindex,
      (Run.names_drawText hd').2⟩
    rw [hextents]
    exact Run.definitions_eq_zip hd'
  · obtain ⟨hfault, hlocation⟩ := Failure.mk.inj hfailure
    exact .inr ⟨e, e', he, he', hlocation, hfault⟩

theorem drawText_of_toLower_eq_of_capitals : ∃ d d',
    (drawText 0.5 "t" "\x7bNAME: Ab Type: rotatioN frequency: 1E0\x7d").1 = .ok d ∧
    (drawText 0.5 "t" "\x7bname: aB tYPE: Rotation FREQUENCY: 1e0\x7d").1 = .ok d' ∧
    d.figures.map Figure.name = ["Ab", ""] ∧ d'.figures.map Figure.name = ["aB", ""] ∧
    d.figures.map (Figure.rename String.toLower) =
      d'.figures.map (Figure.rename String.toLower) := by
  have hlower : "\x7bNAME: Ab Type: rotatioN frequency: 1E0\x7d".toLower =
      "\x7bname: aB tYPE: Rotation FREQUENCY: 1e0\x7d".toLower := by
    rw [← String.toList_inj, toList_toLower, toList_toLower]
    decide
  have hnames : (drawText 0.5 "t" "\x7bNAME: Ab Type: rotatioN frequency: 1E0\x7d").1.toOption.map
        (·.figures.map Figure.name) = some ["Ab", ""] ∧
      (drawText 0.5 "t" "\x7bname: aB tYPE: Rotation FREQUENCY: 1e0\x7d").1.toOption.map
        (·.figures.map Figure.name) = some ["aB", ""] := by
    decide +kernel
  rcases drawText_of_toLower_eq 0.5 "t" hlower with
    ⟨d, d', hd, hd', hfigures, -⟩ | ⟨e, e', he, -, -, -⟩
  · rw [hd, hd'] at hnames
    exact ⟨d, d', hd, hd', Option.some.inj hnames.1, Option.some.inj hnames.2, hfigures⟩
  · rw [he] at hnames
    cases hnames.1

end Harmonograph
