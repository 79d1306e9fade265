import Harmonograph.Proofs.Trie.Spelling
import Harmonograph.Trie.Listing
import Mathlib.Data.Char

/-!
The children of a node. They stand in the order of their characters, so that a binary search finds
the child for a character, and each node but the root stands among the children of its parent, once,
and nowhere else.
-/

namespace Harmonograph

universe u

variable {κ : Type u}

/-- In the order of the characters, with no character twice. -/
def InOrder (es : List (Char × Nat)) : Prop := es.Pairwise fun d e ↦ d.1 < e.1

namespace InOrder

variable {es : List (Char × Nat)} {c : Char}

theorem lt_of_mem_dropWhile (h : InOrder es) (hc : ∀ e ∈ es, c ≠ e.1) {e : Char × Nat}
    (he : e ∈ es.dropWhile (·.1 < c)) : c < e.1 := by
  have hrest : InOrder (es.dropWhile (·.1 < c)) := h.sublist (List.dropWhile_sublist _)
  have hhead := List.head?_dropWhile_not (fun e : Char × Nat ↦ decide (e.1 < c)) es
  have hmem := (List.dropWhile_sublist (l := es) fun e ↦ decide (e.1 < c)).subset
  cases hds : es.dropWhile (·.1 < c) with
  | nil =>
    rw [hds] at he
    cases he
  | cons d ds =>
    rw [hds] at he hhead hrest hmem
    have hd : c < d.1 :=
      lt_of_le_of_ne (not_lt.1 (of_decide_eq_false hhead)) (hc d (hmem List.mem_cons_self))
    rcases List.mem_cons.1 he with rfl | he
    · exact hd
    · exact hd.trans ((List.pairwise_cons.1 hrest).1 e he)

/-- A new child that is put in front of the first with a greater character keeps the order. -/
theorem link {n : TrieNode κ} (h : InOrder n.children) (hc : n.children.lookup c = none) (s : Nat) :
    InOrder (n.link c s).children := by
  have hne : ∀ e ∈ n.children, c ≠ e.1 := fun e he ↦ by
    simpa using List.lookup_eq_none_iff.1 hc e he
  have hbehind : ∀ e ∈ n.children.dropWhile (·.1 < c), c < e.1 := fun e ↦ h.lt_of_mem_dropWhile hne
  refine List.pairwise_append.2 ⟨h.sublist (List.takeWhile_sublist _), ?_, fun d hd e he ↦ ?_⟩
  · exact List.pairwise_cons.2 ⟨hbehind, h.sublist (List.dropWhile_sublist _)⟩
  · have hlt : d.1 < c := of_decide_eq_true (List.all_eq_true.1 List.all_takeWhile d hd)
    rcases List.mem_cons.1 he with rfl | he
    · exact hlt
    · exact hlt.trans (hbehind e he)

theorem lookup_eq_some_iff (h : InOrder es) {n : Nat} : es.lookup c = some n ↔ (c, n) ∈ es := by
  induction es with
  | nil => simp
  | cons e es ih =>
    obtain ⟨hfirst, hrest⟩ := List.pairwise_cons.1 h
    obtain ⟨d, m⟩ := e
    rw [List.lookup_cons, List.mem_cons]
    by_cases hd : c = d
    · subst hd
      have hnot : (c, n) ∉ es := fun hmem ↦ (hfirst _ hmem).false
      simp [hnot, eq_comm]
    · simp [beq_false_of_ne hd, hd, ih hrest]

section Search

variable {as : Array (Char × Nat)} {k : Char × Nat}

theorem getElem_lt_iff (h : InOrder as.toList) {i j : Nat} (hi : i < as.size) (hj : j < as.size) :
    as[i].1 < as[j].1 ↔ i < j := by
  have hlt : ∀ {i j : Nat} (hi : i < as.size) (hj : j < as.size), i < j → as[i].1 < as[j].1 :=
    fun hi hj ↦ List.pairwise_iff_getElem.1 h _ _ hi hj
  rcases Nat.lt_trichotomy i j with hij | rfl | hij
  · exact iff_of_true (hlt hi hj hij) hij
  · exact iff_of_false (lt_irrefl _) (lt_irrefl _)
  · exact iff_of_false (hlt hj hi hij).not_gt hij.not_gt

theorem binSearchAux_eq_some_iff (h : InOrder as.toList) (lo : Fin (as.size + 1)) (hi : Fin as.size)
    (hle : lo.1 ≤ hi.1) {e : Char × Nat} :
    Array.binSearchAux (fun d e ↦ d.1 < e.1) id as k lo hi hle = some e ↔
      e.1 = k.1 ∧ ∃ (i : Nat) (hlt : i < as.size), lo.1 ≤ i ∧ i ≤ hi.1 ∧ as[i] = e := by
  fun_induction Array.binSearchAux (fun d e : Char × Nat ↦ decide (d.1 < e.1)) id as k lo hi
    hle with
  | case1 lo hi hle m a hlt hnext _ ih =>
    rw [ih]
    refine and_congr_right fun hkey ↦ exists₂_congr fun i hi' ↦ and_congr_left fun ⟨_, he⟩ ↦ ?_
    have hmi : m < i := (h.getElem_lt_iff _ hi').1 (by rw [he, hkey]; exact of_decide_eq_true hlt)
    simp only
    omega
  | case2 lo hi hle m a hlt hstop _ =>
    refine iff_of_false nofun fun ⟨hkey, i, hi', hlo, hhi, he⟩ ↦ ?_
    have hmi : m < i := (h.getElem_lt_iff _ hi').1 (by rw [he, hkey]; exact of_decide_eq_true hlt)
    omega
  | case3 lo hi hle m a _ hlt hstop _ =>
    refine iff_of_false nofun fun ⟨hkey, i, hi', hlo, hhi, he⟩ ↦ ?_
    have him : i < m := (h.getElem_lt_iff hi' _).1 (by rw [he, hkey]; exact of_decide_eq_true hlt)
    omega
  | case4 lo hi hle m a _ hlt hgo _ ih =>
    rw [ih]
    refine and_congr_right fun hkey ↦ exists₂_congr fun i hi' ↦ and_congr_right fun _ ↦
      and_congr_left fun he ↦ ?_
    have him : i < m := (h.getElem_lt_iff hi' _).1 (by rw [he, hkey]; exact of_decide_eq_true hlt)
    simp only
    omega
  | case5 lo hi hle m a hnot hnot' _ =>
    have hkey : a.1 = k.1 :=
      le_antisymm (not_lt.1 (by simpa using hnot')) (not_lt.1 (by simpa using hnot))
    rw [id, Option.some.injEq]
    constructor
    · rintro rfl
      exact ⟨hkey, m, by omega, by omega, by omega, rfl⟩
    · rintro ⟨hkey', i, hi', -, -, rfl⟩
      have hm : m < as.size := by omega
      have hsame : as[m].1 = as[i].1 := hkey.trans hkey'.symm
      rcases Nat.lt_trichotomy m i with hlt | rfl | hlt
      · exact absurd hsame ((h.getElem_lt_iff hm hi').2 hlt).ne
      · rfl
      · exact absurd hsame ((h.getElem_lt_iff hi' hm).2 hlt).ne'

/-- A binary search by the character finds the child that has it. -/
theorem binSearch_eq_some_iff (h : InOrder es) {e : Char × Nat} :
    es.toArray.binSearch k (fun d e ↦ d.1 < e.1) = some e ↔ e.1 = k.1 ∧ e ∈ es := by
  by_cases hes : es = []
  · subst hes
    exact iff_of_false nofun fun h ↦ List.not_mem_nil h.2
  · have hsize : 0 < es.toArray.size := by simpa [List.length_pos_iff] using hes
    unfold Array.binSearch
    rw [dif_pos hsize, dif_pos (Nat.zero_le _), binSearchAux_eq_some_iff h]
    refine and_congr_right fun _ ↦ ?_
    rw [List.mem_iff_getElem]
    refine exists₂_congr fun i hi ↦ ?_
    have hlast : i ≤ es.length - 1 := Nat.le_sub_one_of_lt hi
    simp [hlast]

end Search

end InOrder

namespace Trie

variable {t : Trie κ}

/-- The child of `s` for the folded character `c`, found by halving the children again and again. -/
def search? (t : Trie κ) (s : Nat) (c : Char) : Option Nat :=
  ((t.node s).children.toArray.binSearch (c, 0) fun d e ↦ d.1 < e.1).map (·.2)

theorem Built.inOrder (h : t.Built) (s : Nat) : InOrder (t.node s).children := by
  induction h generalizing s with
  | empty =>
    have hnone : (Trie.empty : Trie κ).node s = TrieNode.bare := by
      by_cases hs : s < 1
      · obtain rfl := Nat.lt_one_iff.1 hs
        rfl
      · exact node_of_size_le _ (Nat.not_lt.1 hs)
    rw [hnone]
    exact List.Pairwise.nil
  | @addChild t p c h hp hc hf ih =>
    rcases Nat.lt_trichotomy s t.size with hs | rfl | hs
    · rw [node_addChild_of_lt t p c hs]
      split
      case isTrue hps =>
        subst hps
        exact (ih p).link hc t.size
      case isFalse => exact ih s
    · rw [node_addChild_size]
      exact List.Pairwise.nil
    · rw [node_of_size_le _ (by simpa using Nat.succ_le_of_lt hs)]
      exact List.Pairwise.nil
  | mark h p k ih =>
    rw [node_mark]
    split
    · exact ih s
    · exact ih s

namespace Built

variable (h : t.Built) {s n : Nat} {c : Char}
include h

theorem child?_eq_some_iff : t.child? s c = some n ↔ (c, n) ∈ (t.node s).children :=
  (h.inOrder s).lookup_eq_some_iff

theorem search?_eq_child? : t.search? s c = t.child? s c := by
  refine Option.ext fun n ↦ ?_
  rw [h.child?_eq_some_iff, search?, Option.map_eq_some_iff]
  simp only [(h.inOrder s).binSearch_eq_some_iff]
  constructor
  · rintro ⟨e, ⟨rfl, he⟩, rfl⟩
    exact he
  · exact fun hmem ↦ ⟨(c, n), ⟨rfl, hmem⟩, rfl⟩

theorem parent_root : (t.node 0).parent = none := by
  induction h with
  | empty => rfl
  | addChild h hs hc hf ih => rw [parent_addChild_of_lt (Trie.nonempty _), ih]
  | mark h s k ih => rw [parent_mark, ih]

theorem mem_below_iff : n ∈ t.below s ↔ (t.node n).parent = some s := by
  have hspelled := h.spelled
  rw [Trie.below, List.mem_map]
  constructor
  · rintro ⟨⟨c, m⟩, hmem, rfl⟩
    have hc := h.child?_eq_some_iff.2 hmem
    have htext := hspelled.text_child hc
    have hpos : 0 < m := by
      rcases Nat.eq_zero_or_pos m with rfl | hpos
      · rw [hspelled.text_root] at htext
        simp at htext
      · exact hpos
    obtain ⟨p, -, d, hparent, hd⟩ := hspelled.exists_parent hpos (t.lt_size_of_child? hc)
    have hsame := (List.append_inj' ((hspelled.text_child hd).symm.trans htext) rfl).1
    rw [hparent, hspelled.text_injective (lt_size_of_child?_left hd) (lt_size_of_child?_left hc)
      hsame]
  · intro hparent
    have hlt : n < t.size := by
      by_contra hn
      rw [node_of_size_le t (Nat.not_lt.1 hn)] at hparent
      cases hparent
    have hpos : 0 < n := by
      rcases Nat.eq_zero_or_pos n with rfl | hpos
      · rw [h.parent_root] at hparent
        cases hparent
      · exact hpos
    obtain ⟨p, -, c, hp, hc⟩ := hspelled.exists_parent hpos hlt
    obtain rfl : p = s := Option.some.inj (hp.symm.trans hparent)
    exact ⟨(c, n), h.child?_eq_some_iff.1 hc, rfl⟩

theorem nodup_below : (t.below s).Nodup := by
  rw [Trie.below, List.nodup_iff_pairwise_ne, List.pairwise_map]
  refine (h.inOrder s).imp_of_mem fun {d e} hd he hlt hsame ↦ ?_
  have htext := (h.spelled.text_child (h.child?_eq_some_iff.2 hd)).symm.trans
    (hsame ▸ h.spelled.text_child (h.child?_eq_some_iff.2 he))
  have hchar : d.1 = e.1 := List.singleton_inj.1 (List.append_inj' htext rfl).2
  exact hlt.ne hchar

/-- A node stands among the children of its parent, once, and among no other. -/
theorem count_below : (t.below s).count n = if (t.node n).parent = some s then 1 else 0 := by
  rw [h.nodup_below.count]
  simp only [h.mem_below_iff]

end Built

end Trie

end Harmonograph
