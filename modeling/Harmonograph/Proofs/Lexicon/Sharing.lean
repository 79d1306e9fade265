import Harmonograph.Proofs.Lexicon.Tracking

/-!
Whether symbols share characters. The lexicon goes on from the end of the last symbol, and where
that end begins another symbol, the next one may lack its first character: a comment may begin with
the slash that ended another, and a name with the last letter of a motion. Every other symbol stands
complete in the text that is read to reach it.
-/

namespace Harmonograph

namespace Symbol

/-- The second symbol may begin with the last character of the first. -/
def Shares (x y : Symbol) : Prop :=
  x = commentEnd ∧ y = commentBegin ∨ (x = oscillation ∨ x = rotation) ∧ y = name

instance (x y : Symbol) : Decidable (x.Shares y) := inferInstanceAs (Decidable (_ ∨ _))

theorem kept_cases (x : Symbol) : x.kept = [] ∨ ∃ a, x.kept = [a] := by
  cases x <;> simp [kept]

theorem shares_of_kept {x y : Symbol} (hy : y ∈ spelled) (hx : x.kept ≠ [])
    (h : x.kept <+: (y.literal?.getD "").toList) : x.Shares y := by
  have hall : ∀ x ∈ [commentEnd, oscillation, rotation], ∀ y ∈ spelled,
      x.kept <+: (y.literal?.getD "").toList → x.Shares y := by
    decide
  refine hall x ?_ y hy h
  cases x <;> first | decide | exact absurd rfl hx

end Symbol

namespace Lexicon

/-- What is read up to the end of a symbol ends with the symbol, except for what was spelled by the
state in which the read began. -/
theorem literal_suffix_read {s : Nat} {cs : List Char} {y : Symbol}
    (h : lexicon.kind? (lexicon.read s cs).state = some y) :
    (y.literal?.getD "").toList <:+
      (lexicon.node s).text ++ (lexicon.read s cs).text.map foldCase := by
  have hsuffix := spelled.text_foldl_suffix s (lexicon.read s cs).text
  rwa [lexicon.foldl_text_read, (node_of_kind? h).2.2.1] at hsuffix

/-- After a symbol the next one is complete, or else begins with what is kept of the first. -/
theorem literal_of_read_after {s : Nat} {cs : List Char} {x y : Symbol}
    (hx : lexicon.kind? s = some x) (hne : cs ≠ [])
    (hy : lexicon.kind? (lexicon.read s cs).state = some y) :
    (y.literal?.getD "").toList <:+ (lexicon.read s cs).text.map foldCase ∨
      x.Shares y ∧ (lexicon.read s cs).text.map foldCase = (y.literal?.getD "").toList.tail := by
  obtain ⟨hs0, hleaf, -, hkept⟩ := node_of_kind? hx
  have hread := lexicon.read_of_leaf hs0 hleaf hne
  have hsuffix := literal_suffix_read (hread ▸ hy)
  rw [hkept, ← hread] at hsuffix
  rcases x.kept_cases with hnil | ⟨a, ha⟩
  · rw [hnil, List.nil_append] at hsuffix
    exact .inl hsuffix
  · rw [ha, List.singleton_append, List.suffix_cons_iff] at hsuffix
    rcases hsuffix with hshared | hwhole
    · refine .inr ⟨Symbol.shares_of_kept (lt_size_of_kind? hy).2 (by simp [ha]) ?_, ?_⟩
      · rw [ha, hshared]
        exact ⟨_, rfl⟩
      · rw [hshared, List.tail_cons]
    · exact .inl hwhole

/-- Where the rest of a symbol follows that may share the last character, it does share it. -/
theorem read_shared {s : Nat} {x y : Symbol} {u : List Char} (v : List Char)
    (hx : lexicon.kind? s = some x) (hxy : x.Shares y)
    (hu : u.map foldCase = (y.literal?.getD "").toList.tail) :
    ∃ q, lexicon.read s (u ++ v) = ⟨q, u, v⟩ ∧ u ≠ [] ∧ lexicon.kind? q = some y := by
  have hall : ∀ s < lexicon.size, ∀ p ∈ [(Symbol.commentEnd, Symbol.commentBegin),
      (.oscillation, .name), (.rotation, .name)], lexicon.kind? s = some p.1 →
      let w := (p.2.literal?.getD "").toList.tail
      w ≠ [] ∧ (lexicon.read s w).text.length = w.length ∧
        lexicon.kind? (lexicon.read s w).state = some p.2 := by
    decide +kernel
  have hp : (x, y) ∈ [(Symbol.commentEnd, Symbol.commentBegin), (.oscillation, .name),
      (.rotation, .name)] := by
    rcases hxy with ⟨rfl, rfl⟩ | ⟨rfl | rfl, rfl⟩ <;> simp
  obtain ⟨hw, hlen, hk⟩ := hall s (lt_size_of_kind? hx).1 (x, y) hp hx
  have hne : u ≠ [] := by
    rintro rfl
    exact hw hu.symm
  have hfold : u.map foldCase = ((y.literal?.getD "").toList.tail).map foldCase := by
    rw [← hu, map_foldCase_map_foldCase]
  exact ⟨_, lexicon.read_append_of_map_foldCase v hne hfold hlen (by rw [hk]; rfl), hne, hk⟩

end Lexicon

namespace Scanner

/-- The tokens found on a list of requests. -/
def tokens (s : Scanner) : List Request → List Token
  | [] => []
  | .next :: rs => s.next.1 :: (s.after .next).tokens rs
  | .identifier :: rs => (s.after .identifier).tokens rs
  | .numberText :: rs => (s.after .numberText).tokens rs

theorem run_concat (s : Scanner) (rs : List Request) (r : Request) :
    (s.run (rs ++ [r])).2 = (s.run rs).2.after r := by
  induction rs generalizing s with
  | nil => rfl
  | cons q rs ih => exact ih (s.after q)

theorem tokens_append (s : Scanner) (rs rs' : List Request) :
    s.tokens (rs ++ rs') = s.tokens rs ++ (s.run rs).2.tokens rs' := by
  induction rs generalizing s with
  | nil => rfl
  | cons q rs ih =>
    cases q with
    | next => exact congrArg (s.next.1 :: ·) (ih _)
    | identifier => exact ih _
    | numberText => exact ih _

/-- What the state of a scanner says about the last token: its symbol, or that nothing is left. -/
def Remembers (s : Scanner) : Option Token → Prop
  | none => s.state = 0
  | some t => lexicon.kind? s.state = some t.symbol ∨ s.unread.rest = []

theorem remembers_next (s : Scanner) : s.next.2.Remembers (some s.next.1) := by
  by_cases h : s.next.1.symbol = .endOfInput
  · exact .inr (s.rest_next_eq_nil h)
  · exact .inl (kind?_next h).2

theorem Remembers.word {s : Scanner} {last? : Option Token} (h : s.Remembers last?)
    (p : Char → Bool) : (s.word p).2.Remembers last? := by
  cases last? with
  | none => exact h
  | some t => exact h.imp_right fun hrest ↦ ((s.reads_word p).eq_nil hrest).2.1

theorem remembers_run (file : String) (cs : List Char) (rs : List Request) :
    ((ofText file cs).run rs).2.Remembers ((ofText file cs).tokens rs).getLast? := by
  induction rs using List.reverseRec with
  | nil => rfl
  | append_singleton rs r ih =>
    rw [run_concat, tokens_append]
    cases r with
    | next =>
      rw [tokens, tokens, List.getLast?_concat]
      exact remembers_next _
    | identifier =>
      rw [tokens, tokens, List.append_nil]
      exact ih.word _
    | numberText =>
      rw [tokens, tokens, List.append_nil]
      exact ih.word _

theorem tail_literal_ne_nil {x y : Symbol} {l : String} (h : x.Shares y)
    (hl : y.literal? = some l) : l.toList.tail ≠ [] := by
  rcases h with ⟨-, rfl⟩ | ⟨-, rfl⟩
  · obtain rfl := Option.some.inj hl
    decide
  · obtain rfl := Option.some.inj hl
    decide

/-- Whatever a scanner is asked for, the next symbol stands complete at the end of the text of its
token, in some letter case, unless it shares its first character with the symbol of the last token.
Then the text is all the rest of it, and this is so wherever the rest of such a symbol is next. -/
theorem token_ends_with_symbol (file : String) (cs : List Char) (rs : List Request) :
    let s := ((ofText file cs).run rs).2
    let last? := ((ofText file cs).tokens rs).getLast?
    (∀ l, s.next.1.symbol.literal? = some l →
      l.toList <:+ s.next.1.text.map foldCase ∧
        s.unread.position + l.length ≤ s.next.2.unread.position ∨
      (∃ last, last? = some last ∧ last.symbol.Shares s.next.1.symbol) ∧
        s.next.1.text.map foldCase = l.toList.tail ∧
        s.unread.position + l.length = s.next.2.unread.position + 1) ∧
    (∀ last y l, last? = some last → last.symbol.Shares y → y.literal? = some l →
      l.toList.tail <+: s.unread.rest.map foldCase →
      s.next.1.symbol = y ∧ s.next.1.text.map foldCase = l.toList.tail) := by
  intro s last?
  have hmem : s.Remembers last? := remembers_run file cs rs
  refine ⟨?_, ?_⟩
  · intro l hl
    have hsymbol : s.next.1.symbol ≠ .endOfInput := by
      intro he
      rw [he] at hl
      cases hl
    obtain ⟨htext, hk⟩ := kind?_next hsymbol
    have hrest : s.unread.rest ≠ [] := fun hnil ↦ htext (s.reads_next.eq_nil hnil).1
    have hposition := s.reads_next.position
    have hcases : l.toList <:+ s.next.1.text.map foldCase ∨
        (∃ last, last? = some last ∧ last.symbol.Shares s.next.1.symbol) ∧
          s.next.1.text.map foldCase = l.toList.tail := by
      generalize last? = known at hmem
      cases known with
      | none =>
        have hroot : (lexicon.node s.state).text = [] := by
          rw [show s.state = 0 from hmem, Lexicon.spelled.text_root]
        have hsuffix := Lexicon.literal_suffix_read hk
        rw [hroot, List.nil_append, hl] at hsuffix
        exact .inl hsuffix
      | some last =>
        have h := Lexicon.literal_of_read_after (hmem.resolve_right hrest) hrest hk
        rw [hl] at h
        exact h.imp_right fun ⟨hshares, htail⟩ ↦ ⟨⟨last, rfl, hshares⟩, htail⟩
    rcases hcases with hwhole | ⟨⟨last, hlast, hshares⟩, htail⟩
    · have hlen := hwhole.length_le
      rw [List.length_map, String.length_toList] at hlen
      exact .inl ⟨hwhole, by omega⟩
    · have hlen := congrArg List.length htail
      have hpos := List.length_pos_iff.2 (tail_literal_ne_nil hshares hl)
      rw [List.length_map, List.length_tail, String.length_toList] at hlen
      rw [List.length_tail, String.length_toList] at hpos
      exact .inr ⟨⟨last, hlast, hshares⟩, htail, by omega⟩
  · intro last y l hlast hshares hl hfront
    obtain ⟨u, ⟨v, hv⟩, hu⟩ := List.prefix_map_iff.1 hfront
    rw [hlast] at hmem
    have hrest : s.unread.rest ≠ [] := by
      intro hnil
      rw [hnil, List.append_eq_nil_iff] at hv
      rw [hv.1] at hu
      exact tail_literal_ne_nil hshares hl hu
    obtain ⟨q, hread, hne, hk⟩ := Lexicon.read_shared (u := u) v (hmem.resolve_right hrest) hshares
      (by rw [hl, ← hu]; rfl)
    have htext : s.next.1.text = u := by
      simp only [next, ← hv, hread]
    exact ⟨(next_of_read (hv ▸ hread) hne hk).1, by rw [htext, hu]⟩

/-- After the end of one comment a star begins another one without a slash of its own. -/
theorem comment_begins_without_slash :
    let s := ((ofText "" ['*', '/', '*']).run [.next]).2
    (ofText "" ['*', '/', '*']).tokens [.next] = [⟨.commentEnd, ['*', '/']⟩] ∧
      s.next.1.symbol.literal? = some "/*" ∧ ¬ "/*".toList <:+ s.next.1.text.map foldCase := by
  decide +kernel

end Scanner

end Harmonograph
