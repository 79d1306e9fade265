import Harmonograph.Proofs.Lexicon.Recognition

/-!
Letter case of symbols. A symbol is found in a text by its literal and by the lexicon, and both
ignore letter case: the first that of the ASCII letters, the second that of all letters. They differ
about one character, the capital I with a dot above, which the lexicon takes for an `i`.
-/

namespace Harmonograph

/-- The character itself, but `i` for the capital I with a dot above. -/
def undotted (c : Char) : Char := if c = '\u0130' then 'i' else c

theorem foldCase_eq_iff {c d : Char} (hd : d.toNat < 128) (hk : d ≠ 'k') :
    foldCase c = d ↔ (undotted c).toLower = d := by
  by_cases hI : c = '\u0130'
  · subst hI
    have hfold : foldCase '\u0130' = 'i' := by decide +kernel
    rw [hfold, undotted, if_pos rfl]
    rfl
  · rw [undotted, if_neg hI]
    constructor
    · intro h
      rcases toNat_lt_or_of_foldCase_eq h hd with hc | ⟨hc, -⟩ | ⟨-, hc⟩
      · rw [← h, foldCase_eq_toLower hc]
      · exact absurd hc hI
      · exact absurd hc hk
    · intro h
      rw [← h, foldCase_eq_toLower (toNat_lt_of_toLower_lt (h ▸ hd))]

theorem map_foldCase_eq_iff {cs ds : List Char} (hds : ∀ d ∈ ds, d.toNat < 128 ∧ d ≠ 'k') :
    cs.map foldCase = ds ↔ (cs.map undotted).map Char.toLower = ds := by
  induction cs generalizing ds with
  | nil => rfl
  | cons c cs ih =>
    cases ds with
    | nil => simp
    | cons d ds =>
      obtain ⟨hd, hk⟩ := hds d List.mem_cons_self
      have hrest := ih fun x hx ↦ hds x (List.mem_cons_of_mem d hx)
      simp only [List.map_cons, List.cons.injEq, foldCase_eq_iff hd hk, hrest]

namespace Symbol

variable {cs : List Char} {y : Symbol}

theorem ofLiteral?_eq (cs : List Char) : ofLiteral? cs =
    spelled.find? fun x ↦ (x.literal?.getD "").toList = cs.map Char.toLower := rfl

theorem ofLiteral?_eq_some_iff : ofLiteral? cs = some y ↔
    y ∈ spelled ∧ cs.map Char.toLower = (y.literal?.getD "").toList := by
  have hfound : ∀ x, ofLiteral? cs = some x →
      x ∈ spelled ∧ cs.map Char.toLower = (x.literal?.getD "").toList := by
    intro x hx
    rw [ofLiteral?_eq] at hx
    have hlit := List.find?_some hx
    exact ⟨List.mem_of_find?_eq_some hx, (of_decide_eq_true hlit).symm⟩
  refine ⟨hfound y, fun ⟨hy, hcs⟩ ↦ ?_⟩
  have hsome : (ofLiteral? cs).isSome := by
    rw [ofLiteral?_eq, List.find?_isSome]
    exact ⟨y, hy, decide_eq_true hcs.symm⟩
  obtain ⟨x, hx⟩ := Option.isSome_iff_exists.1 hsome
  obtain ⟨hmem, hlit⟩ := hfound x hx
  have hsame := hlit.symm.trans hcs
  rw [hx, eq_of_literal_prefix hmem hy (hsame ▸ List.prefix_rfl)]

end Symbol

namespace Lexicon

variable {cs : List Char} {y : Symbol}

/-- The text is read whole from the root, and ends a symbol of as many characters. -/
def Recognizes (cs : List Char) (y : Symbol) : Prop :=
  let r := lexicon.read 0 cs
  r.text = cs ∧ r.rest = [] ∧ lexicon.kind? r.state = some y ∧
    (lexicon.node r.state).text.length = cs.length

theorem recognizes_iff : Recognizes cs y ↔
    y ∈ Symbol.spelled ∧ cs.map foldCase = (y.literal?.getD "").toList := by
  constructor
  · rintro ⟨htext, -, hk, hlength⟩
    obtain ⟨-, -, hnode, -⟩ := node_of_kind? hk
    refine ⟨(lt_size_of_kind? hk).2, ?_⟩
    -- The node spells an end of the text, and has as many characters as all of it.
    have hsuffix := spelled.text_foldl_suffix 0 (lexicon.read 0 cs).text
    rw [Trie.foldl_text_read, htext, spelled.text_root, List.nil_append] at hsuffix
    rw [← hnode]
    exact (hsuffix.eq_of_length (by rw [hlength, List.length_map])).symm
  · rintro ⟨hy, hcs⟩
    obtain ⟨-, htext, hrest, hk⟩ := read_of_map_foldCase hy hcs
    obtain ⟨-, -, hnode, -⟩ := node_of_kind? hk
    refine ⟨htext, hrest, hk, ?_⟩
    rw [hnode, ← hcs, List.length_map]

/-- The lexicon recognizes in a text just the symbol whose literal the text is when an `i` is put
for every dotted capital, and so the symbol of the text itself if it has none. A text with a dotted
capital is no literal. -/
theorem recognizes_iff_literal (cs : List Char) (y : Symbol) :
    (Recognizes cs y ↔ Symbol.ofLiteral? (cs.map undotted) = some y) ∧
    ('\u0130' ∉ cs → (Symbol.ofLiteral? cs = some y ↔ Recognizes cs y)) ∧
    ('\u0130' ∈ cs → Symbol.ofLiteral? cs = none) := by
  have hiff : Recognizes cs y ↔ Symbol.ofLiteral? (cs.map undotted) = some y := by
    rw [recognizes_iff, Symbol.ofLiteral?_eq_some_iff]
    exact and_congr_right fun hy ↦ map_foldCase_eq_iff (Symbol.literal_chars hy)
  refine ⟨hiff, fun hI ↦ ?_, fun hI ↦ ?_⟩
  · have hself : ∀ c ∈ cs, undotted c = c := fun c hc ↦ if_neg fun he : c = '\u0130' ↦ hI (he ▸ hc)
    rw [hiff, List.map_congr_left hself, List.map_id']
  · by_contra hsome
    obtain ⟨z, hz⟩ := Option.ne_none_iff_exists'.1 hsome
    obtain ⟨hmem, hcs⟩ := Symbol.ofLiteral?_eq_some_iff.1 hz
    have hascii := Symbol.literal_chars hmem ('\u0130' : Char).toLower
      (hcs ▸ List.mem_map_of_mem hI)
    exact absurd hascii.1 (by decide)

/-- A dotted capital keeps a text from being a literal, but not from being recognized. -/
theorem recognizes_dotted_capital :
    let cs := "d\u0130rection:".toList
    Recognizes cs .direction ∧
      ¬ (Symbol.ofLiteral? cs = some .direction ↔ Recognizes cs .direction) := by
  intro cs
  have hrecognized : Recognizes cs .direction := recognizes_iff.2 (by decide +kernel)
  refine ⟨hrecognized, fun h ↦ ?_⟩
  have hnone : Symbol.ofLiteral? cs ≠ some .direction := by decide
  exact hnone (h.2 hrecognized)

end Lexicon

end Harmonograph
