import Harmonograph.Proofs.Trie.Children
import Harmonograph.Proofs.Trie.Literals
import Mathlib.Data.Set.Card

/-!
The shape of a trie. Its nodes form a tree with the root at the top, and there is one node for each
beginning of a literal. A listing walks down this tree with a queue, and comes to every node once.
-/

namespace Harmonograph.Trie

universe u

variable {κ : Type u} {t : Trie κ}

/-- What a walk visits that has a queue of states to go to. The first of the queue is visited next,
and its children go to the end of the queue. -/
inductive Walk (t : Trie κ) : List Nat → List Nat → Prop
  | nil : Walk t [] []
  | cons {s : Nat} {queue visited : List Nat} (h : Walk t (queue ++ t.below s) visited) :
      Walk t (s :: queue) (s :: visited)

namespace Walk

variable {queue visited : List Nat}

/-- Once a layer at the front of the queue has been visited, the layer below stands at the end. -/
theorem layer {layer : List Nat} (h : t.Walk (queue ++ layer.flatMap t.below) visited) :
    t.Walk (layer ++ queue) (layer ++ visited) := by
  induction layer generalizing queue with
  | nil => simpa using h
  | cons s layer ih =>
    rw [List.cons_append, List.cons_append]
    refine .cons ?_
    rw [List.append_assoc]
    exact ih (by simpa using h)

/-- A state is visited as often as it is in the queue at first or is a child of a state that is
visited. -/
theorem count_eq (h : t.Walk queue visited) (n : Nat) :
    visited.count n = queue.count n + (visited.flatMap t.below).count n := by
  induction h with
  | nil => rfl
  | cons h ih =>
    rw [List.count_cons, List.count_cons, ih, List.count_append, List.flatMap_cons,
      List.count_append]
    omega

end Walk

namespace Built

variable (h : t.Built)
include h

theorem length_text_le {n : Nat} (hn : n < t.size) : (t.node n).text.length ≤ n := by
  induction n using Nat.strongRecOn with
  | ind n ih =>
    rcases Nat.eq_zero_or_pos n with rfl | hpos
    · rw [h.spelled.text_root]
      exact Nat.le_refl 0
    · obtain ⟨p, hp, c, -, hc⟩ := h.spelled.exists_parent hpos hn
      have hparent := ih p hp (hp.trans hn)
      rw [h.spelled.text_child hc, List.length_append, List.length_singleton]
      omega

/-- The states of one layer spell texts of one length, so that there are fewer layers than nodes. -/
theorem walk_layersFrom {depth : Nat} {layer : List Nat}
    (hlayer : ∀ s ∈ layer, s < t.size ∧ (t.node s).text.length + depth = t.size) :
    t.Walk layer (t.layersFrom depth layer) := by
  induction depth generalizing layer with
  | zero =>
    have hnil : layer = [] := by
      rw [List.eq_nil_iff_forall_not_mem]
      intro s hs
      obtain ⟨hlt, hlength⟩ := hlayer s hs
      have := h.length_text_le hlt
      omega
    subst hnil
    exact .nil
  | succ depth ih =>
    rw [layersFrom]
    split
    case isTrue hempty =>
      rw [List.isEmpty_iff.1 hempty]
      exact .nil
    case isFalse =>
      have hwalk : t.Walk (layer.flatMap t.below) (t.layersFrom depth (layer.flatMap t.below)) := by
        refine ih fun n hn ↦ ?_
        obtain ⟨s, hs, hmem⟩ := List.mem_flatMap.1 hn
        obtain ⟨⟨c, m⟩, he, rfl⟩ := List.mem_map.1 hmem
        have hc := h.child?_eq_some_iff.2 he
        refine ⟨t.lt_size_of_child? hc, ?_⟩
        have hlength := (hlayer s hs).2
        rw [h.spelled.text_child hc, List.length_append, List.length_singleton]
        omega
      have hnext : t.Walk (layer ++ []) (layer ++ t.layersFrom depth (layer.flatMap t.below)) :=
        .layer hwalk
      rwa [List.append_nil] at hnext

theorem walk_states : t.Walk [0] t.states := by
  refine h.walk_layersFrom fun s hs ↦ ?_
  obtain rfl := List.mem_singleton.1 hs
  exact ⟨t.nonempty, by rw [h.spelled.text_root, List.length_nil, Nat.zero_add]⟩

theorem count_flatMap_below (visited : List Nat) {n p : Nat}
    (hparent : (t.node n).parent = some p) :
    (visited.flatMap t.below).count n = visited.count p := by
  induction visited with
  | nil => rfl
  | cons s visited ih =>
    rw [List.flatMap_cons, List.count_append, ih, h.count_below, hparent, List.count_cons,
      Nat.add_comm]
    by_cases hs : s = p
    · simp [hs]
    · simp [hs, Ne.symm hs]

theorem not_mem_flatMap_below (visited : List Nat) {n : Nat} (hparent : (t.node n).parent = none) :
    n ∉ visited.flatMap t.below := by
  rintro hmem
  obtain ⟨s, -, hs⟩ := List.mem_flatMap.1 hmem
  rw [h.mem_below_iff, hparent] at hs
  cases hs

/-- A walk from the root comes to every node once. -/
theorem perm_of_walk {visited : List Nat} (hwalk : t.Walk [0] visited) :
    visited.Perm (List.range t.size) := by
  have hroot : visited.count 0 = 1 := by
    rw [hwalk.count_eq, List.count_eq_zero.2 (h.not_mem_flatMap_below visited h.parent_root)]
    rfl
  have hcount : ∀ n, 0 < n → visited.count n = (visited.flatMap t.below).count n := fun n hn ↦ by
    rw [hwalk.count_eq, List.count_eq_zero.2 (by simpa using hn.ne'), Nat.zero_add]
  have hone : ∀ n < t.size, visited.count n = 1 := by
    intro n hn
    induction n using Nat.strongRecOn with
    | ind n ih =>
      rcases Nat.eq_zero_or_pos n with rfl | hpos
      · exact hroot
      · obtain ⟨p, hp, c, hparent, -⟩ := h.spelled.exists_parent hpos hn
        rw [hcount n hpos, h.count_flatMap_below visited hparent]
        exact ih p hp (hp.trans hn)
  refine List.perm_iff_count.2 fun n ↦ ?_
  rw [List.nodup_range.count]
  split
  case isTrue hn => exact hone n (List.mem_range.1 hn)
  case isFalse hn =>
    have hle : t.size ≤ n := Nat.not_lt.1 fun hlt ↦ hn (List.mem_range.2 hlt)
    rw [hcount n (t.nonempty.trans_le hle)]
    refine List.count_eq_zero.2 (h.not_mem_flatMap_below visited ?_)
    rw [node_of_size_le t hle]
    rfl

/-- There is one node for each text that is spelled. -/
theorem size_eq : t.size = {w | w ≠ [] ∧ t.Spells w}.ncard + 1 := by
  let texts := (Finset.range t.size).image fun n ↦ (t.node n).text
  have hmem : ∀ w, w ∈ texts ↔ t.Spells w := fun w ↦ by simp [texts, Spells]
  have hset : {w | w ≠ [] ∧ t.Spells w} = ↑(texts.erase []) := by
    ext w
    simp [hmem, and_comm]
  have hroot : [] ∈ texts := (hmem []).2 ⟨0, t.nonempty, h.spelled.text_root⟩
  have hcard : texts.card = t.size := by
    refine (Finset.card_image_of_injOn fun m hm n hn he ↦ ?_).trans (Finset.card_range _)
    exact h.spelled.text_injective (Finset.mem_range.1 hm) (Finset.mem_range.1 hn) he
  rw [hset, Set.ncard_coe_finset, Finset.card_erase_add_one hroot, hcard]

end Built

/-- The nodes are a tree, and the fallbacks lead towards its root. A node has its text from its
parent and the character for it, and it is found there by that character. -/
structure IsTree (t : Trie κ) : Prop where
  text_root : (t.node 0).text = []
  parent_root : (t.node 0).parent = none
  exists_parent : ∀ n < t.size, 0 < n → ∃ p < n, (t.node n).parent = some p
  fallback_lt : ∀ n < t.size, 0 < n → (t.node n).fallback < n
  count_below : ∀ s n, (t.below s).count n = if (t.node n).parent = some s then 1 else 0
  inOrder : ∀ s, InOrder (t.node s).children
  text_child : ∀ s, ∀ e ∈ (t.node s).children, (t.node e.2).text = (t.node s).text ++ [e.1]
  child?_eq_some_iff : ∀ s c n, t.child? s c = some n ↔ (c, n) ∈ (t.node s).children
  search?_eq_child? : ∀ s c, t.search? s c = t.child? s c
  text_injective : ∀ m < t.size, ∀ n < t.size, (t.node m).text = (t.node n).text → m = n

theorem Built.isTree (h : t.Built) : t.IsTree where
  text_root := h.spelled.text_root
  parent_root := h.parent_root
  exists_parent n hn hpos := by
    obtain ⟨p, hp, c, hparent, -⟩ := h.spelled.exists_parent hpos hn
    exact ⟨p, hp, hparent⟩
  fallback_lt n _ hpos := t.fallback_node_lt hpos
  count_below s n := h.count_below
  inOrder := h.inOrder
  text_child s e he := h.spelled.text_child (h.child?_eq_some_iff.2 he)
  child?_eq_some_iff s c n := h.child?_eq_some_iff
  search?_eq_child? s c := h.search?_eq_child?
  text_injective m hm n hn := h.spelled.text_injective hm hn

/-- Whatever has been inserted and in whatever order, the trie is a tree whose nodes spell the
beginnings of the folded literals, each of them once, so that their order does not matter to the
number of nodes. The kind of a node is that of the last literal that it spells. One more literal
leaves all nodes as they are but for their children and kinds, and the insertion gives the node that
spells it. A walk over the children, as a listing makes it, ends and has come to every node once. -/
theorem tree_of_literals (ls : List (List Char × κ)) : (ofLiterals ls).IsTree ∧
    let t := ofLiterals ls
    (∀ w, t.Spells w ↔ w = [] ∨ ∃ l ∈ ls, w <+: l.1.map foldCase) ∧
    t.size = {w | w ≠ [] ∧ ∃ l ∈ ls, w <+: l.1.map foldCase}.ncard + 1 ∧
    (∀ n < t.size, t.kind? n = lastKind? ls (t.node n).text) ∧
    (∀ cs k, t.Grows (t.insert cs k).1 ∧
      if cs = [] then t.insert cs k = (t, none)
      else ∃ e < (t.insert cs k).1.size, (t.insert cs k).2 = some e ∧
        ((t.insert cs k).1.node e).text = cs.map foldCase) ∧
    t.Walk [0] t.states ∧ t.states.Perm (List.range t.size) := by
  let t := ofLiterals ls
  have h : t.Built := built_ofLiterals ls
  refine ⟨h.isTree, fun w ↦ spells_ofLiterals, ?_, fun n hn ↦ kind?_ofLiterals hn, fun cs k ↦
    ⟨.insert t cs k, ?_⟩, h.walk_states, h.perm_of_walk h.walk_states⟩
  · have hset : {w | w ≠ [] ∧ t.Spells w} = {w | w ≠ [] ∧ ∃ l ∈ ls, w <+: l.1.map foldCase} := by
      ext w
      exact and_congr_right fun hw ↦ spells_ofLiterals.trans (or_iff_right hw)
    rw [h.size_eq, hset]
  · split
    case isTrue hnil => simp [insert, hnil]
    case isFalse hne =>
      obtain ⟨u, e, hinsert, -, he, htext, -⟩ := exists_insert h hne k
      rw [hinsert]
      exact ⟨e, by simpa using he, rfl, by simpa using htext⟩

end Harmonograph.Trie
