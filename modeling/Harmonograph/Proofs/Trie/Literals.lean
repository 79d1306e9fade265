import Harmonograph.Proofs.Trie.Read
import Harmonograph.Proofs.Trie.Spelling
import Mathlib.Data.List.Induction

/-!
Which literals a trie holds: its nodes spell the beginnings of the folded literals, and the kind of
a node is that of the last literal that it spells. A read that stops has come to the end of a
literal.
-/

namespace Harmonograph.Trie

universe u

variable {κ : Type u} {t : Trie κ} {s : Nat} {c : Char} {cs w : List Char}

/-- Some node spells `w`. -/
def Spells (t : Trie κ) (w : List Char) : Prop := ∃ n < t.size, (t.node n).text = w

theorem spells_addChild :
    (t.addChild s c).Spells w ↔ t.Spells w ∨ w = (t.node s).text ++ [c] := by
  constructor
  · rintro ⟨n, hn, rfl⟩
    rw [size_addChild] at hn
    rcases Nat.lt_or_eq_of_le (Nat.le_of_lt_succ hn) with hlt | rfl
    · exact .inl ⟨n, hlt, (text_addChild_of_lt hlt).symm⟩
    · exact .inr text_addChild_size
  · rintro (⟨n, hn, rfl⟩ | rfl)
    · exact ⟨n, by rw [size_addChild]; omega, text_addChild_of_lt hn⟩
    · exact ⟨t.size, by rw [size_addChild]; omega, text_addChild_size⟩

section Extend

theorem text_extend (h : t.Spelled) (s : Nat) (c : Char) :
    ((t.extend s c).1.node (t.extend s c).2).text = (t.node s).text ++ [c] := by
  unfold extend
  cases hc : t.child? s c with
  | some n => exact h.text_child hc
  | none => exact text_addChild_size

theorem kind?_extend (i : Nat) : (t.extend s c).1.kind? i = t.kind? i := by
  unfold extend
  cases t.child? s c with
  | some n => rfl
  | none => exact kind?_addChild

theorem spells_extend (h : t.Spelled) :
    (t.extend s c).1.Spells w ↔ t.Spells w ∨ w = (t.node s).text ++ [c] := by
  unfold extend
  cases hc : t.child? s c with
  | some n =>
    refine (or_iff_left_of_imp ?_).symm
    rintro rfl
    exact ⟨n, t.lt_size_of_child? hc, h.text_child hc⟩
  | none => exact spells_addChild

theorem text_extendAll (h : t.Built) (hs : s < t.size) (hf : ∀ c ∈ cs, foldCase c = c) :
    ((t.extendAll s cs).1.node (t.extendAll s cs).2).text = (t.node s).text ++ cs := by
  induction cs generalizing t s with
  | nil => simp [extendAll]
  | cons c cs ih =>
    obtain ⟨h', hs'⟩ := h.extend hs (hf c List.mem_cons_self)
    have hrest := ih h' hs' (fun d hd ↦ hf d (List.mem_cons_of_mem c hd))
    rw [text_extend h.spelled, List.append_assoc] at hrest
    exact hrest

theorem kind?_extendAll (i : Nat) : (t.extendAll s cs).1.kind? i = t.kind? i := by
  induction cs generalizing t s with
  | nil => rfl
  | cons c cs ih => exact ih.trans (kind?_extend i)

theorem spells_extendAll (h : t.Built) (hs : s < t.size) (hf : ∀ c ∈ cs, foldCase c = c) :
    (t.extendAll s cs).1.Spells w ↔ t.Spells w ∨ ∃ v, v <+: cs ∧ w = (t.node s).text ++ v := by
  induction cs generalizing t s with
  | nil =>
    refine (or_iff_left_of_imp ?_).symm
    rintro ⟨v, hv, rfl⟩
    rw [List.prefix_nil.1 hv, List.append_nil]
    exact ⟨s, hs, rfl⟩
  | cons c cs ih =>
    obtain ⟨h', hs'⟩ := h.extend hs (hf c List.mem_cons_self)
    have hrest := ih h' hs' (fun d hd ↦ hf d (List.mem_cons_of_mem c hd))
    rw [text_extend h.spelled, spells_extend h.spelled] at hrest
    refine hrest.trans ?_
    constructor
    · rintro ((hw | rfl) | ⟨v, hv, rfl⟩)
      · exact .inl hw
      · exact .inr ⟨[c], by simp, rfl⟩
      · exact .inr ⟨c :: v, List.cons_prefix_cons.2 ⟨rfl, hv⟩, by simp⟩
    · rintro (hw | ⟨v, hv, rfl⟩)
      · exact .inl (.inl hw)
      · rcases List.prefix_cons_iff.1 hv with rfl | ⟨v, rfl, hv⟩
        · exact .inl (.inl ⟨s, hs, by simp⟩)
        · exact .inr ⟨v, (List.cons_prefix_cons.1 hv).2, by simp⟩

end Extend

section Insert

variable {k : κ}

theorem foldCase_of_mem_map (hc : c ∈ cs.map foldCase) : foldCase c = c := by
  obtain ⟨d, -, rfl⟩ := List.mem_map.1 hc
  exact foldCase_foldCase d

theorem spells_insert (h : t.Built) :
    (t.insert cs k).1.Spells w ↔ t.Spells w ∨ w <+: cs.map foldCase := by
  unfold insert
  have hroot : t.Spells [] := ⟨0, t.nonempty, h.spelled.text_root⟩
  by_cases hcs : cs.isEmpty
  · rw [if_pos hcs]
    obtain rfl := List.isEmpty_iff.1 hcs
    refine (or_iff_left_of_imp fun hw ↦ ?_).symm
    rwa [List.prefix_nil.1 hw]
  · have hf : ∀ c ∈ cs.map foldCase, foldCase c = c := fun c hc ↦ foldCase_of_mem_map hc
    have hall := spells_extendAll (w := w) h t.nonempty hf
    rw [h.spelled.text_root] at hall
    simpa [hcs, Spells] using hall

/-- An insert marks the node that spells the literal, after the nodes for it have been made. -/
theorem exists_insert (h : t.Built) (hne : cs ≠ []) (k : κ) :
    ∃ (u : Trie κ) (e : Nat), t.insert cs k = (u.mark e k, some e) ∧ u.Built ∧ e < u.size ∧
      (u.node e).text = cs.map foldCase ∧ ∀ i, u.kind? i = t.kind? i := by
  have hf : ∀ c ∈ cs.map foldCase, foldCase c = c := fun c hc ↦ foldCase_of_mem_map hc
  obtain ⟨hbuilt, hend⟩ := h.extendAll t.nonempty hf
  have htext := text_extendAll h t.nonempty hf
  rw [h.spelled.text_root, List.nil_append] at htext
  refine ⟨_, _, ?_, hbuilt, hend, htext, fun i ↦ kind?_extendAll i⟩
  have hne' : ¬ cs.isEmpty = true := by simpa using hne
  rw [insert, if_neg hne']

theorem kind?_insert (h : t.Built) (hs : s < (t.insert cs k).1.size) :
    (t.insert cs k).1.kind? s =
      if cs ≠ [] ∧ cs.map foldCase = ((t.insert cs k).1.node s).text then some k
      else t.kind? s := by
  by_cases hne : cs = []
  · simp [insert, hne]
  · obtain ⟨u, e, hins, hu, he, htext, hkind⟩ := exists_insert h hne k
    simp only [hins, size_mark] at hs
    have hsame : s = e ↔ cs.map foldCase = (u.node s).text := by
      rw [← htext]
      exact ⟨fun hse ↦ by rw [hse], fun heq ↦ hu.spelled.text_injective hs he heq.symm⟩
    simp only [hins, kind?_mark he, hkind, text_mark, hsame, ne_eq, hne, not_false_eq_true,
      true_and]

end Insert

/-- The kind of the last of the literals `ls` that is folded to `w`. There is no empty literal. -/
def lastKind? (ls : List (List Char × κ)) (w : List Char) : Option κ :=
  (ls.reverse.find? fun l ↦ l.1 ≠ [] ∧ l.1.map foldCase = w).map (·.2)

variable {ls : List (List Char × κ)}

theorem lastKind?_concat (l : List Char × κ) : lastKind? (ls ++ [l]) w =
    if l.1 ≠ [] ∧ l.1.map foldCase = w then some l.2 else lastKind? ls w := by
  unfold lastKind?
  rw [List.reverse_append, List.reverse_singleton, List.singleton_append, List.find?_cons]
  by_cases hl : l.1 ≠ [] ∧ l.1.map foldCase = w
  · simp [hl]
  · simp only [hl, decide_false, if_false]

theorem isSome_lastKind?_iff :
    (lastKind? ls w).isSome ↔ ∃ l ∈ ls, l.1 ≠ [] ∧ l.1.map foldCase = w := by
  simp [lastKind?]

theorem mem_of_lastKind? {k : κ} (h : lastKind? ls w = some k) :
    ∃ l ∈ ls, l.1 ≠ [] ∧ l.1.map foldCase = w ∧ l.2 = k := by
  obtain ⟨l, hl, hk⟩ := Option.map_eq_some_iff.1 h
  have hw := List.find?_some hl
  simp only [decide_eq_true_eq] at hw
  exact ⟨l, List.mem_reverse.1 (List.mem_of_find?_eq_some hl), hw.1, hw.2, hk⟩

theorem ofLiterals_concat (ls : List (List Char × κ)) (l : List Char × κ) :
    ofLiterals (ls ++ [l]) = ((ofLiterals ls).insert l.1 l.2).1 := by
  unfold ofLiterals
  rw [List.foldl_append]
  rfl

theorem spells_ofLiterals :
    (ofLiterals ls).Spells w ↔ w = [] ∨ ∃ l ∈ ls, w <+: l.1.map foldCase := by
  induction ls using List.reverseRec with
  | nil =>
    simp only [List.not_mem_nil, false_and, exists_false, or_false]
    constructor
    · rintro ⟨n, hn, rfl⟩
      obtain rfl : n = 0 := Nat.lt_one_iff.1 hn
      rfl
    · rintro rfl
      exact ⟨0, Nat.one_pos, rfl⟩
  | append_singleton ls l ih =>
    rw [ofLiterals_concat, spells_insert (built_ofLiterals ls), ih, or_assoc]
    simp only [List.mem_append, List.mem_singleton, or_and_right, exists_or, exists_eq_left]

theorem kind?_ofLiterals (hs : s < (ofLiterals ls).size) :
    (ofLiterals ls).kind? s = lastKind? ls ((ofLiterals ls).node s).text := by
  generalize ht : ((ofLiterals ls).node s).text = w
  induction ls using List.reverseRec generalizing s with
  | nil =>
    obtain rfl : s = 0 := Nat.lt_one_iff.1 hs
    rfl
  | append_singleton ls l ih =>
    have hbuilt := built_ofLiterals ls
    rw [lastKind?_concat]
    rw [ofLiterals_concat] at hs ht ⊢
    rw [kind?_insert hbuilt hs, ht]
    by_cases hl : l.1 ≠ [] ∧ l.1.map foldCase = w
    · rw [if_pos hl, if_pos hl]
    · rw [if_neg hl, if_neg hl]
      have hgrows := Grows.insert (ofLiterals ls) l.1 l.2
      by_cases hlt : s < (ofLiterals ls).size
      · exact ih hlt (hgrows.text s hlt ▸ ht)
      · -- A new node spells no literal that was there before it.
        rw [kind?_eq_none_of_size_le _ (Nat.not_lt.1 hlt), eq_comm, ← Option.not_isSome_iff_eq_none,
          isSome_lastKind?_iff]
        rintro ⟨m, hm, -, hmw⟩
        obtain ⟨n, hn, hnw⟩ := spells_ofLiterals.2 (.inr ⟨m, hm, List.prefix_rfl⟩)
        have hnw' := (hgrows.text n hn).trans (hnw.trans (hmw.trans ht.symm))
        have hns := (hbuilt.insert l.1 l.2).spelled.text_injective
          (Nat.lt_of_lt_of_le hn hgrows.size_le) hs hnw'
        exact hlt (hns ▸ hn)

theorem exists_literal_of_kind? {k : κ} (h : (ofLiterals ls).kind? s = some k) :
    s < (ofLiterals ls).size ∧ lastKind? ls ((ofLiterals ls).node s).text = some k := by
  have hs : s < (ofLiterals ls).size := by
    by_contra hs
    rw [kind?_eq_none_of_size_le _ (Nat.not_lt.1 hs)] at h
    cases h
  exact ⟨hs, kind?_ofLiterals hs ▸ h⟩

theorem kind?_root : (ofLiterals ls).kind? 0 = none := by
  rw [kind?_ofLiterals (ofLiterals ls).nonempty, (built_ofLiterals ls).spelled.text_root,
    ← Option.not_isSome_iff_eq_none, isSome_lastKind?_iff]
  rintro ⟨l, -, hne, hnil⟩
  exact hne (List.map_eq_nil_iff.1 hnil)

/-- A character of no literal leads to the root. -/
theorem step_eq_root (hc : ∀ l ∈ ls, foldCase c ∉ l.1.map foldCase) :
    (ofLiterals ls).step s c = 0 := by
  have h := (built_ofLiterals ls).spelled
  have hspells : (ofLiterals ls).Spells _ := ⟨_, (ofLiterals ls).step_lt s c, rfl⟩
  rcases List.suffix_concat_iff.1 (h.text_step_suffix s c) with hnil | ⟨v, hv, -⟩
  · exact h.text_injective ((ofLiterals ls).step_lt s c) (ofLiterals ls).nonempty
      (hnil.trans h.text_root.symm)
  · rcases spells_ofLiterals.1 hspells with hnil | ⟨l, hl, hfront⟩
    · rw [hv] at hnil
      simp at hnil
    · rw [hv] at hfront
      exact absurd (hfront.subset (by simp)) (hc l hl)

/-- There are no false matches, whatever has been inserted and in whatever order. A node spells the
characters on the way to it from the root, and a walk ends in a node that spells an end of what was
spelled at its start and read on the way. The fallback of a node spells a proper end of what the
node spells, and so fallbacks lead to the root. Where a read from the root stops at a literal, what
was read ends with that literal. -/
theorem no_false_match (ls : List (List Char × κ)) :
    ((ofLiterals ls).node 0).text = [] ∧
    let t := ofLiterals ls
    (∀ s < t.size, 0 < s → ∃ p < s, ∃ c, (t.node s).parent = some p ∧
      (t.node s).text = (t.node p).text ++ [c]) ∧
    (∀ s (w : List Char), (t.node (w.foldl t.step s)).text <:+ (t.node s).text ++ w.map foldCase) ∧
    (∀ s < t.size, 0 < s → (t.node s).fallback < t.size ∧
      (t.node (t.node s).fallback).text <:+ (t.node s).text ∧
      (t.node (t.node s).fallback).text ≠ (t.node s).text) ∧
    (∀ s < t.size, ∃ n ≤ (t.node s).text.length, (fun i ↦ (t.node i).fallback)^[n] s = 0) ∧
    (∀ w k, t.kind? (t.read 0 w).state = some k →
      ∃ l, lastKind? ls l = some k ∧ l <:+ (t.read 0 w).text.map foldCase) := by
  have h := (built_ofLiterals ls).spelled
  refine ⟨h.text_root, ?_⟩
  intro t
  refine ⟨?_, h.text_foldl_suffix, ?_, fun s hs ↦ h.exists_fallback_root hs, ?_⟩
  · intro s hs hpos
    obtain ⟨p, hp, c, hparent, hc⟩ := h.exists_parent hpos hs
    exact ⟨p, hp, c, hparent, h.text_child hc⟩
  · intro s hs hpos
    obtain ⟨hsuffix, hshort⟩ := h.fallback_suffix hpos hs
    exact ⟨Nat.lt_trans (t.fallback_node_lt hpos) hs, hsuffix,
      fun he ↦ Nat.ne_of_lt hshort (congrArg List.length he)⟩
  · intro w k hk
    have hsuffix := h.text_foldl_suffix 0 (t.read 0 w).text
    rw [foldl_text_read, h.text_root, List.nil_append] at hsuffix
    exact ⟨_, (exists_literal_of_kind? hk).2, hsuffix⟩

end Harmonograph.Trie
