import Harmonograph.Proofs.Trie.Growth
import Mathlib.Data.List.Infix

/-!
What the nodes of a trie spell. A child spells one character more than its parent, no two nodes
spell the same, and a fallback spells less: only an end of what its node spells. A walk along a text
therefore never spells anything but an end of that text.
-/

namespace Harmonograph.Trie

universe u

variable {κ : Type u} {t : Trie κ}

structure Spelled (t : Trie κ) : Prop where
  text_root : (t.node 0).text = []
  fallback_root : (t.node 0).fallback = 0
  text_child : ∀ {s n : Nat} {c : Char}, t.child? s c = some n →
    (t.node n).text = (t.node s).text ++ [c]
  exists_parent : ∀ {n : Nat}, 0 < n → n < t.size →
    ∃ p < n, ∃ c, (t.node n).parent = some p ∧ t.child? p c = some n
  fallback_suffix : ∀ {n : Nat}, 0 < n → n < t.size →
    (t.node (t.node n).fallback).text <:+ (t.node n).text ∧
      (t.node (t.node n).fallback).text.length < (t.node n).text.length

theorem lt_size_of_child?_left {s n : Nat} {c : Char} (h : t.child? s c = some n) : s < t.size := by
  by_contra hs
  unfold child? at h
  rw [t.node_of_size_le (Nat.not_lt.1 hs)] at h
  cases h

namespace Spelled

variable (h : t.Spelled)
include h

theorem suffix_fallback (s : Nat) : (t.node (t.node s).fallback).text <:+ (t.node s).text := by
  rcases Nat.eq_zero_or_pos s with rfl | hs
  · rw [h.fallback_root]
  · by_cases hlt : s < t.size
    · exact (h.fallback_suffix hs hlt).1
    · rw [t.node_of_size_le (Nat.not_lt.1 hlt)]
      simp [TrieNode.bare, h.text_root]

theorem text_follow_suffix (s : Nat) (c : Char) :
    (t.node (t.follow s c)).text <:+ (t.node s).text ++ [c] := by
  fun_induction t.follow s c with
  | case1 s n hn => rw [h.text_child hn]
  | case2 => simp [h.text_root]
  | case3 s hn hs ih => exact ih.trans (List.suffix_append_self_iff.2 (h.suffix_fallback s))

theorem text_step_suffix (s : Nat) (c : Char) :
    (t.node (t.step s c)).text <:+ (t.node s).text ++ [foldCase c] := h.text_follow_suffix s _

/-- What a step comes to ends with its character. -/
theorem foldCase_of_text_step {s : Nat} {c d : Char} {w : List Char}
    (hw : (t.node (t.step s c)).text = w ++ [d]) : foldCase c = d := by
  have hsuffix := h.text_step_suffix s c
  rw [hw, List.suffix_concat_iff] at hsuffix
  rcases hsuffix with hnil | ⟨v, hv, -⟩
  · simp at hnil
  · exact (List.singleton_inj.1 (List.append_inj' hv rfl).2).symm

/-- What a walk spells was spelled at its start or read on the way. -/
theorem text_foldl_suffix (s : Nat) (w : List Char) :
    (t.node (w.foldl t.step s)).text <:+ (t.node s).text ++ w.map foldCase := by
  induction w generalizing s with
  | nil => simp
  | cons c w ih =>
    have hstep : (t.node (t.step s c)).text ++ w.map foldCase <:+
        ((t.node s).text ++ [foldCase c]) ++ w.map foldCase :=
      List.suffix_append_self_iff.2 (h.text_step_suffix s c)
    rw [List.append_assoc] at hstep
    exact (ih (t.step s c)).trans hstep

/-- The fallbacks of a node lead to the root in as many turns as the node spells characters. -/
theorem exists_fallback_root {s : Nat} (hs : s < t.size) :
    ∃ n ≤ (t.node s).text.length, (fun i ↦ (t.node i).fallback)^[n] s = 0 := by
  induction s using Nat.strongRecOn with
  | ind s ih =>
    rcases Nat.eq_zero_or_pos s with rfl | hpos
    · exact ⟨0, Nat.zero_le _, rfl⟩
    · have hlt := t.fallback_node_lt hpos
      obtain ⟨n, hn, hroot⟩ := ih _ hlt (Nat.lt_trans hlt hs)
      have hshort := (h.fallback_suffix hpos hs).2
      exact ⟨n + 1, by omega, hroot⟩

theorem text_ne_nil {n : Nat} (hn : 0 < n) (hlt : n < t.size) : (t.node n).text ≠ [] := by
  obtain ⟨p, -, c, -, hc⟩ := h.exists_parent hn hlt
  rw [h.text_child hc]
  simp

/-- A node that spells at least one character has a parent that spells all but the last. -/
theorem exists_child {n : Nat} {w : List Char} {c : Char} (hlt : n < t.size)
    (hw : (t.node n).text = w ++ [c]) :
    ∃ p < t.size, (t.node p).text = w ∧ t.child? p c = some n := by
  have hn : 0 < n := by
    rcases Nat.eq_zero_or_pos n with rfl | hn
    · rw [h.text_root] at hw
      simp at hw
    · exact hn
  obtain ⟨p, -, d, -, hd⟩ := h.exists_parent hn hlt
  obtain ⟨hp, hcd⟩ := List.append_inj' ((h.text_child hd).symm.trans hw) rfl
  obtain rfl : d = c := List.singleton_inj.1 hcd
  exact ⟨p, lt_size_of_child?_left hd, hp, hd⟩

/-- Different nodes spell different texts. -/
theorem text_injective {m n : Nat} (hm : m < t.size) (hn : n < t.size)
    (he : (t.node m).text = (t.node n).text) : m = n := by
  generalize hw : (t.node n).text = w at he
  induction w using List.reverseRec generalizing m n with
  | nil =>
    have hroot : ∀ i < t.size, (t.node i).text = [] → i = 0 := fun i hi hnil ↦
      Nat.eq_zero_of_not_pos fun hpos ↦ h.text_ne_nil hpos hi hnil
    rw [hroot m hm he, hroot n hn hw]
  | append_singleton w c ih =>
    obtain ⟨p, hp, hpw, hpc⟩ := h.exists_child hm he
    obtain ⟨q, hq, hqw, hqc⟩ := h.exists_child hn hw
    obtain rfl := ih hp hq hqw hpw
    exact Option.some.inj (hpc.symm.trans hqc)

end Spelled

namespace Spelled

theorem empty : (empty : Trie κ).Spelled where
  text_root := rfl
  fallback_root := rfl
  text_child {s n c} hc := by
    obtain rfl : s = 0 := Nat.lt_one_iff.1 (lt_size_of_child?_left hc)
    cases hc
  exists_parent hn hlt := absurd hn (Nat.not_lt.2 (Nat.le_of_lt_succ hlt))
  fallback_suffix hn hlt := absurd hn (Nat.not_lt.2 (Nat.le_of_lt_succ hlt))

theorem mark (h : t.Spelled) (s : Nat) (k : κ) : (t.mark s k).Spelled where
  text_root := by simpa using h.text_root
  fallback_root := by simpa using h.fallback_root
  text_child hc := by simpa using h.text_child (child?_mark _ ▸ hc)
  exists_parent hn hlt := by simpa using h.exists_parent hn (size_mark ▸ hlt)
  fallback_suffix hn hlt := by simpa using h.fallback_suffix hn (size_mark ▸ hlt)

/-- The fallback of a new node is found in the trie without it, and so spells less. -/
theorem addChild (h : t.Spelled) {s : Nat} {c : Char} (hs : s < t.size) (hc : t.child? s c = none)
    (hf : foldCase c = c) : (t.addChild s c).Spelled where
  text_root := by rw [text_addChild_of_lt t.nonempty, h.text_root]
  fallback_root := by rw [fallback_addChild_of_lt t.nonempty, h.fallback_root]
  text_child {i n d} hd := by
    rw [child?_addChild hs] at hd
    split at hd
    case isTrue hid =>
      obtain ⟨rfl, rfl⟩ := hid
      obtain rfl := Option.some.inj hd
      rw [text_addChild_size, text_addChild_of_lt hs]
    case isFalse hid =>
      rw [text_addChild_of_lt (t.lt_size_of_child? hd),
        text_addChild_of_lt (lt_size_of_child?_left hd), h.text_child hd]
  exists_parent {n} hn hlt := by
    rw [size_addChild] at hlt
    rcases Nat.lt_or_eq_of_le (Nat.le_of_lt_succ hlt) with hlt | rfl
    · obtain ⟨p, hp, d, hparent, hd⟩ := h.exists_parent hn hlt
      refine ⟨p, hp, d, ?_, ?_⟩
      · rw [parent_addChild_of_lt hlt, hparent]
      · rw [child?_addChild hs, if_neg, hd]
        rintro ⟨rfl, rfl⟩
        rw [hc] at hd
        cases hd
    · refine ⟨s, hs, c, ?_, ?_⟩
      · rw [node_addChild_size]
      · rw [child?_addChild hs, if_pos ⟨rfl, rfl⟩]
  fallback_suffix {n} hn hlt := by
    rw [size_addChild] at hlt
    rcases Nat.lt_or_eq_of_le (Nat.le_of_lt_succ hlt) with hlt | rfl
    · rw [fallback_addChild_of_lt hlt, text_addChild_of_lt hlt,
        text_addChild_of_lt (Nat.lt_trans (t.fallback_node_lt hn) hlt)]
      exact h.fallback_suffix hn hlt
    · have hfallback :
          ((t.addChild s c).node t.size).fallback = t.follow (t.node s).fallback c := by
        rw [node_addChild_size, step, hf]
      have hsuffix := h.text_follow_suffix (t.node s).fallback c
      rw [hfallback, text_addChild_size, text_addChild_of_lt (t.follow_lt _ c)]
      refine ⟨hsuffix.trans (List.suffix_append_self_iff.2 (h.suffix_fallback s)), ?_⟩
      rcases Nat.eq_zero_or_pos s with rfl | hpos
      · -- The root has no child for the character yet, so that the new node falls back to the root.
        rw [h.fallback_root, follow, hc, if_pos rfl, h.text_root]
        simp
      · have hlen := hsuffix.length_le
        have hshort := (h.fallback_suffix hpos hs).2
        simp only [List.length_append, List.length_singleton] at hlen ⊢
        omega

end Spelled

theorem Built.spelled (h : t.Built) : t.Spelled := by
  induction h with
  | empty => exact .empty
  | addChild _ hs hc hf ih => exact ih.addChild hs hc hf
  | mark _ s k ih => exact ih.mark s k

end Harmonograph.Trie
