import Harmonograph.Proofs.Trie.Literals

/-!
When the fallbacks of a trie are up to date. If every node was made after the nodes that spell its
ends, each fallback spells the longest proper end there is, a walk from the root keeps track of the
longest end of the text that any node spells, and a read misses no literal.
-/

namespace Harmonograph.Trie

universe u

variable {κ : Type u} {t : Trie κ} {s : Nat} {c : Char}

/-- A node that spells an end of what another node spells was made before that one. -/
def Fresh (t : Trie κ) : Prop :=
  ∀ n < t.size, ∀ m < t.size, 0 < m → (t.node m).text <:+ (t.node n).text → m ≤ n

instance (t : Trie κ) : Decidable t.Fresh := inferInstanceAs (Decidable (∀ n < t.size, _))

/-- Every fallback spells the longest proper end of a text that any node spells. -/
def Current (t : Trie κ) : Prop :=
  ∀ n < t.size, 0 < n → ∀ m < t.size, m ≠ n → (t.node m).text <:+ (t.node n).text →
    (t.node m).text <:+ (t.node (t.node n).fallback).text

namespace Spelled

variable (h : t.Spelled)
include h

/-- What ends with one more character than an end of what `s` spells is a child of that end. -/
theorem exists_end {m : Nat} (hm : m < t.size) (hw : (t.node m).text <:+ (t.node s).text ++ [c]) :
    (t.node m).text = [] ∨
      ∃ p < t.size, (t.node p).text <:+ (t.node s).text ∧ t.child? p c = some m := by
  refine (List.suffix_concat_iff.1 hw).imp_right ?_
  rintro ⟨v, hv, hsuffix⟩
  obtain ⟨p, hp, hpv, hc⟩ := h.exists_child hm hv
  exact ⟨p, hp, hpv ▸ hsuffix, hc⟩

/-- The fallbacks of a state pass through all nodes that spell its ends, the longest first. -/
theorem suffix_follow (hcur : t.Current) (hs : s < t.size) {m : Nat} (hm : m < t.size)
    (hw : (t.node m).text <:+ (t.node s).text ++ [c]) :
    (t.node m).text <:+ (t.node (t.follow s c)).text := by
  fun_induction t.follow s c with
  | case1 s n hn => rwa [h.text_child hn]
  | case2 hn =>
    rcases h.exists_end hm hw with hnil | ⟨p, hp, hsuffix, hc⟩
    · simp [hnil]
    · rw [h.text_root, List.suffix_nil] at hsuffix
      obtain rfl := h.text_injective hp t.nonempty (hsuffix.trans h.text_root.symm)
      rw [hn] at hc
      cases hc
  | case3 s hn hs0 ih =>
    refine ih (Nat.lt_trans (t.fallback_node_lt (Nat.pos_of_ne_zero hs0)) hs) ?_
    rcases h.exists_end hm hw with hnil | ⟨p, hp, hsuffix, hc⟩
    · simp [hnil]
    · have hps : p ≠ s := by
        rintro rfl
        rw [hn] at hc
        cases hc
      rw [h.text_child hc]
      exact List.suffix_append_self_iff.2 (hcur s hs (Nat.pos_of_ne_zero hs0) p hp hps hsuffix)

theorem suffix_step (hcur : t.Current) (hs : s < t.size) {m : Nat} (hm : m < t.size)
    (hw : (t.node m).text <:+ (t.node s).text ++ [foldCase c]) :
    (t.node m).text <:+ (t.node (t.step s c)).text := h.suffix_follow hcur hs hm hw

end Spelled

/-- A walk from the root comes to the longest end of its text that any node spells. -/
theorem Spelled.suffix_foldl (h : t.Spelled) (hcur : t.Current) {m : Nat} (hm : m < t.size)
    {w : List Char} (hw : (t.node m).text <:+ w.map foldCase) :
    (t.node m).text <:+ (t.node (w.foldl t.step 0)).text := by
  induction w using List.reverseRec generalizing m with
  | nil => rwa [List.foldl_nil, h.text_root]
  | append_singleton w c ih =>
    rw [List.map_append, List.map_singleton] at hw
    rw [List.foldl_concat]
    rcases List.suffix_concat_iff.1 hw with hnil | ⟨v, hv, hsuffix⟩
    · simp [hnil]
    · obtain ⟨p, hp, rfl, -⟩ := h.exists_child hm hv
      refine h.suffix_step hcur (t.foldl_step_lt t.nonempty w) hm ?_
      rw [hv]
      exact List.suffix_append_self_iff.2 (ih hp hsuffix)

theorem Fresh.of_addChild (h : (t.addChild s c).Fresh) : t.Fresh := by
  intro n hn m hm hpos hw
  have hsize := size_addChild t s c
  refine h n (by omega) m (by omega) hpos ?_
  rwa [text_addChild_of_lt hm, text_addChild_of_lt hn]

theorem Fresh.of_mark {k : κ} (h : (t.mark s k).Fresh) : t.Fresh := by
  simpa [Fresh] using h

/-- The fallback of a new node is the right one, and no node is made later that would be a better
one for an older node. -/
theorem Current.addChild (hcur : t.Current) (h : t.Spelled) (hs : s < t.size)
    (hc : t.child? s c = none) (hf : foldCase c = c) (hfresh : (t.addChild s c).Fresh) :
    (t.addChild s c).Current := by
  have hsize := size_addChild t s c
  have hspelled := h.addChild hs hc hf
  intro n hn hpos m hm hne hw
  have hmn : m = 0 ∨ m ≤ n := (Nat.eq_zero_or_pos m).imp_right fun hm0 ↦ hfresh n hn m hm hm0 hw
  have hmt : m < t.size := by omega
  rcases Nat.lt_or_eq_of_le (Nat.le_of_lt_succ (hsize ▸ hn)) with hlt | rfl
  · rw [text_addChild_of_lt hmt, text_addChild_of_lt hlt] at hw
    rw [text_addChild_of_lt hmt, fallback_addChild_of_lt hlt,
      text_addChild_of_lt (Nat.lt_trans (t.fallback_node_lt hpos) hlt)]
    exact hcur n hlt hpos m hmt hne hw
  · have hfallback : ((t.addChild s c).node t.size).fallback = t.follow (t.node s).fallback c := by
      rw [node_addChild_size, step, hf]
    rw [text_addChild_size, text_addChild_of_lt hmt] at hw
    rw [hfallback, text_addChild_of_lt hmt, text_addChild_of_lt (t.follow_lt _ c)]
    rcases h.exists_end hmt hw with hnil | ⟨p, hp, hsuffix, hpc⟩
    · simp [hnil]
    · have hps : p ≠ s := by
        rintro rfl
        rw [hc] at hpc
        cases hpc
      rcases Nat.eq_zero_or_pos s with rfl | hs0
      · rw [h.text_root, List.suffix_nil] at hsuffix
        exact absurd (h.text_injective hp hs (hsuffix.trans h.text_root.symm)) hps
      · refine h.suffix_follow hcur (Nat.lt_trans (t.fallback_node_lt hs0) hs) hmt ?_
        rw [h.text_child hpc]
        exact List.suffix_append_self_iff.2 (hcur s hs hs0 p hp hps hsuffix)

theorem Built.current (h : t.Built) (hfresh : t.Fresh) : t.Current := by
  induction h with
  | empty =>
    intro n hn hpos
    exact absurd hpos (Nat.not_lt.2 (Nat.le_of_lt_succ hn))
  | addChild h hs hc hf ih => exact (ih hfresh.of_addChild).addChild h.spelled hs hc hf hfresh
  | mark h s k ih => simpa [Current] using ih hfresh.of_mark

section Literals

variable {ls : List (List Char × κ)} {v w : List Char}

/-- One of the literals `ls` ends where `w` ends. -/
def EndsLiteral (ls : List (List Char × κ)) (w : List Char) : Prop :=
  ∃ l ∈ ls, l.1 ≠ [] ∧ l.1.map foldCase <:+ w.map foldCase

/-- No literal stands inside of another. -/
def Apart (ls : List (List Char × κ)) : Prop :=
  ∀ l ∈ ls, ∀ l' ∈ ls, l.1 ≠ [] → l.1.map foldCase <:+: l'.1.map foldCase →
    l.1.map foldCase = l'.1.map foldCase

instance (ls : List (List Char × κ)) : Decidable (Apart ls) :=
  inferInstanceAs (Decidable (∀ l ∈ ls, _))

theorem infix_map_foldCase_iff {l : List Char} :
    l.map foldCase <:+: w.map foldCase ↔ ∃ v, v <+: w ∧ l.map foldCase <:+ v.map foldCase := by
  rw [List.infix_iff_suffix_prefix]
  constructor
  · rintro ⟨u, hu, hw⟩
    obtain ⟨v, hv, rfl⟩ := List.prefix_map_iff.1 hw
    exact ⟨v, hv, hu⟩
  · rintro ⟨v, hv, hl⟩
    exact ⟨v.map foldCase, hl, hv.map foldCase⟩

/-- Where a literal ends, a walk is in the node of that literal: any longer text that the node could
spell begins another literal, which would have the first one inside of it. -/
theorem text_foldl_of_suffix (hfresh : (ofLiterals ls).Fresh) (hapart : Apart ls)
    {l : List Char × κ} (hl : l ∈ ls) (hne : l.1 ≠ []) (hw : l.1.map foldCase <:+ w.map foldCase) :
    ((ofLiterals ls).node (w.foldl (ofLiterals ls).step 0)).text = l.1.map foldCase := by
  have hbuilt := built_ofLiterals ls
  obtain ⟨n, hn, hnl⟩ := spells_ofLiterals.2 (.inr ⟨l, hl, List.prefix_rfl⟩)
  have hsuffix := hbuilt.spelled.suffix_foldl (hbuilt.current hfresh) hn (hnl ▸ hw)
  rw [hnl] at hsuffix
  have hspells : (ofLiterals ls).Spells _ := ⟨_, foldl_step_lt _ (ofLiterals ls).nonempty w, rfl⟩
  rcases spells_ofLiterals.1 hspells with hnil | ⟨l', hl', hprefix⟩
  · rw [hnil, List.suffix_nil, List.map_eq_nil_iff] at hsuffix
    exact absurd hsuffix hne
  · have hsame := hapart l hl l' hl' hne (List.infix_iff_suffix_prefix.2 ⟨_, hsuffix, hprefix⟩)
    rw [← hsame] at hprefix
    exact hprefix.eq_of_length (Nat.le_antisymm hprefix.length_le hsuffix.length_le)

theorem isSome_kind?_foldl_iff (hfresh : (ofLiterals ls).Fresh) (hapart : Apart ls) :
    ((ofLiterals ls).kind? (w.foldl (ofLiterals ls).step 0)).isSome ↔ EndsLiteral ls w := by
  rw [kind?_ofLiterals (foldl_step_lt _ (ofLiterals ls).nonempty w), isSome_lastKind?_iff]
  constructor
  · rintro ⟨l, hl, hne, htext⟩
    have hsuffix := (built_ofLiterals ls).spelled.text_foldl_suffix 0 w
    rw [(built_ofLiterals ls).spelled.text_root, List.nil_append, ← htext] at hsuffix
    exact ⟨l, hl, hne, hsuffix⟩
  · rintro ⟨l, hl, hne, hw⟩
    exact ⟨l, hl, hne, (text_foldl_of_suffix hfresh hapart hl hne hw).symm⟩

theorem isSome_kind?_read_iff (hfresh : (ofLiterals ls).Fresh) (hapart : Apart ls) (w : List Char) :
    ((ofLiterals ls).kind? ((ofLiterals ls).read 0 w).state).isSome ↔
      EndsLiteral ls ((ofLiterals ls).read 0 w).text := by
  rw [← foldl_text_read]
  exact isSome_kind?_foldl_iff hfresh hapart

theorem prefix_text_read (t : Trie κ) (s : Nat) (w : List Char) : (t.read s w).text <+: w :=
  ⟨_, t.read_text_append_rest s w⟩

/-- A read goes no further than to the first end of a literal. -/
theorem prefix_of_endsLiteral (hfresh : (ofLiterals ls).Fresh) (hapart : Apart ls)
    (hv : v <+: w) (hends : EndsLiteral ls v) : ((ofLiterals ls).read 0 w).text <+: v := by
  rcases Nat.lt_or_ge v.length ((ofLiterals ls).read 0 w).text.length with hlt | hge
  · have hsome := (isSome_kind?_foldl_iff hfresh hapart).2 hends
    have hne : v ≠ [] := by
      rintro rfl
      obtain ⟨l, -, hl, hsuffix⟩ := hends
      exact hl (List.map_eq_nil_iff.1 (List.suffix_nil.1 hsuffix))
    have hprefix := List.prefix_of_prefix_length_le hv (prefix_text_read _ 0 w) (Nat.le_of_lt hlt)
    have hshort : v ≠ ((ofLiterals ls).read 0 w).text := fun he ↦ by
      rw [← he] at hlt
      exact Nat.lt_irrefl _ hlt
    rw [kind?_of_prefix_read _ hprefix hne hshort] at hsome
    cases hsome
  · exact List.prefix_of_prefix_length_le (prefix_text_read _ 0 w) hv hge

/-- A read finds a literal if there is one. -/
theorem endsLiteral_read (hfresh : (ofLiterals ls).Fresh) (hapart : Apart ls)
    {l : List Char × κ} (hl : l ∈ ls) (hne : l.1 ≠ []) (hw : l.1.map foldCase <:+: w.map foldCase) :
    EndsLiteral ls ((ofLiterals ls).read 0 w).text := by
  obtain ⟨v, hv, hsuffix⟩ := infix_map_foldCase_iff.1 hw
  have hends : EndsLiteral ls v := ⟨l, hl, hne, hsuffix⟩
  by_contra hno
  have hnone := Option.not_isSome_iff_eq_none.1 fun hs ↦
    hno ((isSome_kind?_read_iff hfresh hapart w).1 hs)
  have hall := (ofLiterals ls).read_text_append_rest 0 w
  rw [rest_read_eq_nil _ 0 w hnone, List.append_nil] at hall
  have hprefix := prefix_of_endsLiteral hfresh hapart hv hends
  rw [hall] at hprefix hno
  exact hno (hv.eq_of_length_le hprefix.length_le ▸ hends)

/-- There are no missed matches where no fallback is out of date. A walk from the root ends in the
node of the longest text that ends what was read. If moreover no literal stands inside of another, a
read from the root stops at the first end of a literal, in the node of that literal, and fails to
stop only where the text has none. -/
theorem no_missed_match (ls : List (List Char × κ)) (hfresh : (ofLiterals ls).Fresh) :
    let t := ofLiterals ls
    (∀ w : List Char, let s := w.foldl t.step 0
      s < t.size ∧ (t.node s).text <:+ w.map foldCase ∧
      ∀ n < t.size, n ≠ s → (t.node n).text <:+ w.map foldCase →
        (t.node n).text.length < (t.node s).text.length) ∧
    (Apart ls → ∀ w : List Char, let r := t.read 0 w
      (t.kind? r.state = none → r.text = w ∧ r.rest = []) ∧
      (t.kind? r.state = none ↔ ∀ l ∈ ls, l.1 ≠ [] → ¬ l.1.map foldCase <:+: w.map foldCase) ∧
      ((t.kind? r.state).isSome → EndsLiteral ls r.text) ∧
      (∀ v, v <+: w → EndsLiteral ls v → r.text <+: v) ∧
      (∀ l ∈ ls, l.1 ≠ [] → l.1.map foldCase <:+ r.text.map foldCase →
        (t.node r.state).text = l.1.map foldCase)) := by
  intro t
  have hbuilt : t.Built := built_ofLiterals ls
  have h := hbuilt.spelled
  refine ⟨?_, ?_⟩
  · intro w s
    have hs : s < t.size := t.foldl_step_lt t.nonempty w
    have hsuffix := h.text_foldl_suffix 0 w
    rw [h.text_root, List.nil_append] at hsuffix
    refine ⟨hs, hsuffix, fun n hn hne hw ↦ ?_⟩
    have hns := h.suffix_foldl (hbuilt.current hfresh) hn hw
    refine Nat.lt_of_le_of_ne hns.length_le fun hlen ↦ hne ?_
    exact h.text_injective hn hs (hns.eq_of_length hlen)
  · intro hapart w r
    have hstop : (t.kind? r.state).isSome ↔ EndsLiteral ls r.text :=
      isSome_kind?_read_iff hfresh hapart w
    have hall : r.text ++ r.rest = w := t.read_text_append_rest 0 w
    refine ⟨?_, ?_, hstop.1, fun v hv ↦ prefix_of_endsLiteral hfresh hapart hv, ?_⟩
    · intro hnone
      have hrest : r.rest = [] := t.rest_read_eq_nil 0 w hnone
      exact ⟨by simpa [hrest] using hall, hrest⟩
    · rw [← Option.not_isSome_iff_eq_none, hstop]
      constructor
      · exact fun hno l hl hne hw ↦ hno (endsLiteral_read hfresh hapart hl hne hw)
      · rintro hno ⟨l, hl, hne, hsuffix⟩
        exact hno l hl hne (infix_map_foldCase_iff.2 ⟨_, ⟨_, hall⟩, hsuffix⟩)
    · intro l hl hne hsuffix
      rw [← foldl_text_read]
      exact text_foldl_of_suffix hfresh hapart hl hne hsuffix

end Literals

/-- In these literals one begins as another ends, and the later one was inserted first. -/
theorem no_missed_match_overlapping :
    let ls := [(['b', 'c', 'd'], 1), (['A', 'b', 'c', 'x'], 2)]
    (ofLiterals ls).Fresh ∧ Apart ls ∧
      ((ofLiterals ls).node ((ofLiterals ls).read 0 ['a', 'B', 'c', 'D']).state).text =
        ['b', 'c', 'd'] := by
  intro ls
  have hfresh : (ofLiterals ls).Fresh := by decide +kernel
  have hapart : Apart ls := by decide +kernel
  refine ⟨hfresh, hapart, ?_⟩
  obtain ⟨-, -, -, -, hnode⟩ := (no_missed_match ls hfresh).2 hapart ['a', 'B', 'c', 'D']
  exact hnode (['b', 'c', 'd'], 1) (by simp [ls]) (by simp) (by decide +kernel)

end Harmonograph.Trie
