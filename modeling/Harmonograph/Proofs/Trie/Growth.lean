import Harmonograph.Proofs.Text.Folding
import Harmonograph.Trie.Basic

/-!
How a trie grows, node by node: what a new node is like, and what it leaves as it was. Whatever is
inserted, a trie is `Built` by adding one child at a time and marking literals.
-/

namespace Harmonograph

universe u

variable {κ : Type u}

theorem TrieNode.lookup_children_link (n : TrieNode κ) (c d : Char) (s : Nat) :
    (n.link c s).children.lookup d = if d = c then some s else n.children.lookup d := by
  simp only [link, List.lookup_append]
  by_cases hd : d = c
  · subst hd
    have hnone : (n.children.takeWhile (·.1 < d)).lookup d = none := by
      rw [List.lookup_eq_none_iff]
      intro e he
      have hlt : e.1 < d := of_decide_eq_true (List.all_eq_true.1 List.all_takeWhile e he)
      simpa using (Char.ne_of_lt hlt).symm
    simp [hnone]
  · have hcons : ((c, s) :: n.children.dropWhile (·.1 < c)).lookup d =
        (n.children.dropWhile (·.1 < c)).lookup d := by
      rw [List.lookup_cons, beq_false_of_ne hd]
    rw [hcons, if_neg hd, ← List.lookup_append, List.takeWhile_append_dropWhile]

namespace Trie

section AddChild

variable (t : Trie κ) (s : Nat) (c : Char)

@[simp]
theorem size_addChild : (t.addChild s c).size = t.size + 1 := by simp [size, addChild]

theorem node_addChild_size : (t.addChild s c).node t.size =
    { TrieNode.bare with
      text := (t.node s).text ++ [c]
      parent := some s
      fallback := t.step (t.node s).fallback c } := by
  rw [node_eq_getElem _ (by simp [addChild, size])]
  simp [addChild, size, Array.getElem_push]

theorem node_addChild_of_lt {i : Nat} (h : i < t.size) : (t.addChild s c).node i =
    if s = i then (t.node i).link c t.size else t.node i := by
  have h' : i < t.nodes.size := h
  rw [node_eq_getElem _ (by simp [addChild]; omega), node_eq_getElem _ h']
  simp only [addChild, Array.getElem_push, Array.size_modify, dif_pos h', Array.getElem_modify]

theorem node_of_size_le {i : Nat} (h : t.size ≤ i) : t.node i = .bare :=
  t.node_eq_bare (Nat.not_lt.2 h)

variable {t s c} {i : Nat}

theorem text_addChild_of_lt (h : i < t.size) :
    ((t.addChild s c).node i).text = (t.node i).text := by
  rw [node_addChild_of_lt t s c h]
  split <;> rfl

theorem parent_addChild_of_lt (h : i < t.size) :
    ((t.addChild s c).node i).parent = (t.node i).parent := by
  rw [node_addChild_of_lt t s c h]
  split <;> rfl

theorem fallback_addChild_of_lt (h : i < t.size) :
    ((t.addChild s c).node i).fallback = (t.node i).fallback := by
  rw [node_addChild_of_lt t s c h]
  split <;> rfl

theorem text_addChild_size : ((t.addChild s c).node t.size).text = (t.node s).text ++ [c] := by
  rw [node_addChild_size]

theorem kind?_addChild : (t.addChild s c).kind? i = t.kind? i := by
  unfold kind?
  rcases Nat.lt_trichotomy i t.size with h | rfl | h
  · rw [node_addChild_of_lt t s c h]
    split <;> rfl
  · rw [node_addChild_size, node_of_size_le t (Nat.le_refl _)]
  · rw [node_of_size_le _ (by simpa using Nat.succ_le_of_lt h), node_of_size_le t (Nat.le_of_lt h)]

theorem child?_addChild (hs : s < t.size) (d : Char) :
    (t.addChild s c).child? i d = if i = s ∧ d = c then some t.size else t.child? i d := by
  unfold child?
  rcases Nat.lt_trichotomy i t.size with h | rfl | h
  · rw [node_addChild_of_lt t s c h]
    by_cases hi : s = i
    · subst hi
      simp only [if_true, TrieNode.lookup_children_link, true_and]
    · simp only [if_neg hi, if_neg fun h : i = s ∧ d = c ↦ hi h.1.symm]
  · rw [node_addChild_size, node_of_size_le t (Nat.le_refl _), if_neg (by omega)]
  · rw [node_of_size_le _ (by simpa using Nat.succ_le_of_lt h), node_of_size_le t (Nat.le_of_lt h),
      if_neg (by omega)]

end AddChild

section Mark

variable {t : Trie κ} {s i : Nat} {k : κ}

@[simp]
theorem size_mark : (t.mark s k).size = t.size := by simp [size, mark]

theorem node_mark : (t.mark s k).node i =
    if s = i ∧ i < t.size then (t.node i).mark k else t.node i := by
  by_cases hi : i < t.size
  · have hi' : i < t.nodes.size := hi
    rw [node_eq_getElem _ (by simpa [mark] using hi'), node_eq_getElem _ hi']
    simp only [mark, Array.getElem_modify, hi, and_true]
  · rw [node_of_size_le _ (by simpa using hi), node_of_size_le t (by simpa using hi)]
    simp [hi]

@[simp]
theorem text_mark : ((t.mark s k).node i).text = (t.node i).text := by
  rw [node_mark]
  split <;> rfl

@[simp]
theorem parent_mark : ((t.mark s k).node i).parent = (t.node i).parent := by
  rw [node_mark]
  split <;> rfl

@[simp]
theorem fallback_mark : ((t.mark s k).node i).fallback = (t.node i).fallback := by
  rw [node_mark]
  split <;> rfl

@[simp]
theorem child?_mark (c : Char) : (t.mark s k).child? i c = t.child? i c := by
  unfold child?
  rw [node_mark]
  split <;> rfl

theorem kind?_mark (hs : s < t.size) :
    (t.mark s k).kind? i = if i = s then some k else t.kind? i := by
  unfold kind?
  rw [node_mark]
  by_cases h : i = s
  · subst h
    simp [hs, TrieNode.mark]
  · have h' : ¬ (s = i ∧ i < t.size) := fun hs ↦ h hs.1.symm
    rw [if_neg h, if_neg h']

end Mark

/-- `u` has every node of `t`, with the same text, parent and fallback. -/
structure Grows (t u : Trie κ) : Prop where
  size_le : t.size ≤ u.size
  text : ∀ i < t.size, (u.node i).text = (t.node i).text
  parent : ∀ i < t.size, (u.node i).parent = (t.node i).parent
  fallback : ∀ i < t.size, (u.node i).fallback = (t.node i).fallback

namespace Grows

variable {t u v : Trie κ} {s : Nat}

theorem refl (t : Trie κ) : t.Grows t :=
  ⟨Nat.le_refl _, fun _ _ ↦ rfl, fun _ _ ↦ rfl, fun _ _ ↦ rfl⟩

theorem trans (h : t.Grows u) (h' : u.Grows v) : t.Grows v where
  size_le := Nat.le_trans h.size_le h'.size_le
  text i hi := (h'.text i (Nat.lt_of_lt_of_le hi h.size_le)).trans (h.text i hi)
  parent i hi := (h'.parent i (Nat.lt_of_lt_of_le hi h.size_le)).trans (h.parent i hi)
  fallback i hi := (h'.fallback i (Nat.lt_of_lt_of_le hi h.size_le)).trans (h.fallback i hi)

theorem addChild (t : Trie κ) (s : Nat) (c : Char) : t.Grows (t.addChild s c) where
  size_le := by simp
  text _ hi := text_addChild_of_lt hi
  parent _ hi := parent_addChild_of_lt hi
  fallback _ hi := fallback_addChild_of_lt hi

theorem mark (t : Trie κ) (s : Nat) (k : κ) : t.Grows (t.mark s k) where
  size_le := by simp
  text _ _ := text_mark
  parent _ _ := parent_mark
  fallback _ _ := fallback_mark

theorem extend (t : Trie κ) (s : Nat) (c : Char) : t.Grows (t.extend s c).1 := by
  unfold Trie.extend
  cases t.child? s c with
  | some n => exact .refl t
  | none => exact .addChild t s c

theorem extendAll (t : Trie κ) (s : Nat) (cs : List Char) : t.Grows (t.extendAll s cs).1 := by
  induction cs generalizing t s with
  | nil => exact .refl t
  | cons c cs ih => exact (Grows.extend t s c).trans (ih _ _)

theorem insert (t : Trie κ) (cs : List Char) (k : κ) : t.Grows (t.insert cs k).1 := by
  unfold Trie.insert
  split
  · exact .refl t
  · exact (Grows.extendAll t 0 _).trans (.mark _ _ k)

end Grows

/-- A trie that comes from the empty one. Only characters that are folded already lead on. -/
inductive Built : Trie κ → Prop
  | empty : Built empty
  | addChild {t : Trie κ} {s : Nat} {c : Char} (h : Built t) (hs : s < t.size)
      (hc : t.child? s c = none) (hf : foldCase c = c) : Built (t.addChild s c)
  | mark {t : Trie κ} (h : Built t) (s : Nat) (k : κ) : Built (t.mark s k)

namespace Built

variable {t : Trie κ} {s : Nat}

theorem extend (h : t.Built) (hs : s < t.size) {c : Char} (hf : foldCase c = c) :
    (t.extend s c).1.Built ∧ (t.extend s c).2 < (t.extend s c).1.size := by
  unfold Trie.extend
  cases hc : t.child? s c with
  | some n => exact ⟨h, t.lt_size_of_child? hc⟩
  | none => exact ⟨h.addChild hs hc hf, by simp⟩

theorem extendAll (h : t.Built) (hs : s < t.size) {cs : List Char}
    (hf : ∀ c ∈ cs, foldCase c = c) :
    (t.extendAll s cs).1.Built ∧ (t.extendAll s cs).2 < (t.extendAll s cs).1.size := by
  induction cs generalizing t s with
  | nil => exact ⟨h, hs⟩
  | cons c cs ih =>
    obtain ⟨h', hs'⟩ := h.extend hs (hf c List.mem_cons_self)
    exact ih h' hs' (fun d hd ↦ hf d (List.mem_cons_of_mem c hd))

theorem insert (h : t.Built) (cs : List Char) (k : κ) : (t.insert cs k).1.Built := by
  unfold Trie.insert
  split
  · exact h
  · have hf : ∀ c ∈ cs.map foldCase, foldCase c = c := by
      intro c hc
      obtain ⟨d, -, rfl⟩ := List.mem_map.1 hc
      exact foldCase_foldCase d
    exact (h.extendAll t.nonempty hf).1.mark _ k

end Built

theorem built_ofLiterals (ls : List (List Char × κ)) : (ofLiterals ls).Built := by
  have hfold : ∀ t : Trie κ, t.Built → (ls.foldl (fun t l ↦ (t.insert l.1 l.2).1) t).Built := by
    induction ls with
    | nil => exact fun t h ↦ h
    | cons l ls ih => exact fun t h ↦ ih _ (h.insert l.1 l.2)
  exact hfold empty .empty

end Trie

end Harmonograph
