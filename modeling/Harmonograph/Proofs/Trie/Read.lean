import Harmonograph.Trie.Basic

/-!
Reading with a trie: a read is a walk that stops at the first literal, and how it depends on the
state where it begins, on the text behind it and on its letter case.
-/

namespace Harmonograph.Trie

universe u

variable {κ : Type u} (t : Trie κ)

theorem kind?_eq_none_of_size_le {s : Nat} (h : t.size ≤ s) : t.kind? s = none := by
  unfold kind?
  rw [t.node_eq_bare (Nat.not_lt.2 h)]
  rfl

theorem foldl_step_lt {s : Nat} (hs : s < t.size) (w : List Char) : w.foldl t.step s < t.size := by
  induction w generalizing s with
  | nil => exact hs
  | cons c w ih => exact ih (t.step_lt s c)

/-- A read stops in a state that ends a literal, or else nothing is left. -/
theorem rest_read_eq_nil (s : Nat) (cs : List Char) (h : t.kind? (t.read s cs).state = none) :
    (t.read s cs).rest = [] := by
  induction cs generalizing s with
  | nil => rfl
  | cons c cs ih =>
    rw [read] at h ⊢
    by_cases hk : (t.kind? (t.step s c)).isSome
    · rw [if_pos hk] at h
      rw [h] at hk
      cases hk
    · rw [if_neg hk] at h ⊢
      exact ih _ h

theorem step_of_child? {s n : Nat} {c : Char} (h : t.child? s (foldCase c) = some n) :
    t.step s c = n := by
  rw [step, follow, h]

/-- A node without children does what its fallback does. -/
theorem follow_of_leaf {s : Nat} (hs : s ≠ 0) (h : (t.node s).children = []) (c : Char) :
    t.follow s c = t.follow (t.node s).fallback c := by
  have hc : t.child? s c = none := by
    unfold child?
    rw [h]
    rfl
  rw [follow]
  simp only [hc, if_neg hs]

theorem read_of_leaf {s : Nat} (hs : s ≠ 0) (h : (t.node s).children = []) {cs : List Char}
    (hne : cs ≠ []) : t.read s cs = t.read (t.node s).fallback cs := by
  obtain ⟨c, cs, rfl⟩ := List.exists_cons_of_ne_nil hne
  have hstep : t.step s c = t.step (t.node s).fallback c := t.follow_of_leaf hs h (foldCase c)
  rw [read, read, hstep]

/-- A read is a walk along the text that it reads. -/
theorem foldl_text_read (s : Nat) (cs : List Char) :
    (t.read s cs).text.foldl t.step s = (t.read s cs).state := by
  induction cs generalizing s with
  | nil => rfl
  | cons c cs ih =>
    rw [read]
    by_cases hk : (t.kind? (t.step s c)).isSome
    · simp only [if_pos hk, List.foldl_cons, List.foldl_nil]
    · simp only [if_neg hk, List.foldl_cons, ih]

/-- No literal ends on the way to where a read stops. -/
theorem kind?_of_prefix_read {s : Nat} {cs v : List Char} (hv : v <+: (t.read s cs).text)
    (hne : v ≠ []) (hlt : v ≠ (t.read s cs).text) : t.kind? (v.foldl t.step s) = none := by
  induction cs generalizing s v with
  | nil => exact absurd (List.prefix_nil.1 hv) hne
  | cons c cs ih =>
    rw [read] at hv hlt
    by_cases hk : (t.kind? (t.step s c)).isSome
    · simp only [if_pos hk] at hv hlt
      rcases List.prefix_cons_iff.1 hv with rfl | ⟨u, rfl, hu⟩
      · exact absurd rfl hne
      · exact absurd (congrArg (c :: ·) (List.prefix_nil.1 hu)) hlt
    · simp only [if_neg hk] at hv hlt
      rcases List.prefix_cons_iff.1 hv with rfl | ⟨u, rfl, hu⟩
      · exact absurd rfl hne
      · rw [List.foldl_cons]
        by_cases hu' : u = []
        · subst hu'
          exact Option.not_isSome_iff_eq_none.1 hk
        · exact ih hu hu' fun he ↦ hlt (congrArg (c :: ·) he)

/-- A read takes a text whole if no literal ends on the way along it but at its end. -/
theorem read_append_of_foldl {s : Nat} {v : List Char} (cs : List Char) (hne : v ≠ [])
    (hend : (t.kind? (v.foldl t.step s)).isSome)
    (hway : ∀ u, u <+: v → u ≠ [] → u ≠ v → t.kind? (u.foldl t.step s) = none) :
    t.read s (v ++ cs) = ⟨v.foldl t.step s, v, cs⟩ := by
  induction v generalizing s with
  | nil => exact absurd rfl hne
  | cons c v ih =>
    rw [List.foldl_cons] at hend ⊢
    rw [List.cons_append, read]
    by_cases hv : v = []
    · subst hv
      rw [List.foldl_nil] at hend ⊢
      rw [if_pos hend, List.nil_append]
    · have hfirst : ¬ (t.kind? (t.step s c)).isSome := by
        have hnone := hway [c] (by simp) (by simp) (by simpa using Ne.symm hv)
        exact Option.not_isSome_iff_eq_none.2 hnone
      have hrest := ih hv hend fun u hu hnil hshort ↦
        hway (c :: u) (List.cons_prefix_cons.2 ⟨rfl, hu⟩) (by simp) (by simpa using hshort)
      rw [if_neg hfirst, hrest]

/-- What stands behind a literal has no part in reading it. -/
theorem read_append (s : Nat) {cs : List Char} (ds : List Char) (hne : cs ≠ [])
    (h : (t.kind? (t.read s cs).state).isSome) :
    t.read s (cs ++ ds) = ⟨(t.read s cs).state, (t.read s cs).text, (t.read s cs).rest ++ ds⟩ := by
  induction cs generalizing s with
  | nil => exact absurd rfl hne
  | cons c cs ih =>
    rw [List.cons_append, read, read]
    rw [read] at h
    by_cases hk : (t.kind? (t.step s c)).isSome
    · simp only [if_pos hk]
    · simp only [if_neg hk] at h ⊢
      have hcs : cs ≠ [] := by
        rintro rfl
        exact hk h
      rw [ih _ hcs h]

/-- A read goes on from where a text without a literal has led. -/
theorem read_append_of_none (s : Nat) {cs : List Char} (ds : List Char)
    (h : t.kind? (t.read s cs).state = none) :
    t.read s (cs ++ ds) = ⟨(t.read (t.read s cs).state ds).state,
      cs ++ (t.read (t.read s cs).state ds).text, (t.read (t.read s cs).state ds).rest⟩ := by
  induction cs generalizing s with
  | nil => rfl
  | cons c cs ih =>
    rw [List.cons_append, read, read]
    rw [read] at h
    by_cases hk : (t.kind? (t.step s c)).isSome
    · rw [if_pos hk] at h
      rw [h] at hk
      cases hk
    · simp only [if_neg hk] at h ⊢
      rw [ih _ h, List.cons_append]

/-- What every step on a character of a text brings about holds where a read of the text stops. -/
theorem read_state_of_step {P : Nat → Prop} {cs : List Char} (s : Nat) (hne : cs ≠ [])
    (h : ∀ s, ∀ c ∈ cs, P (t.step s c)) : P (t.read s cs).state := by
  induction cs generalizing s with
  | nil => exact absurd rfl hne
  | cons c cs ih =>
    have hc := h s c List.mem_cons_self
    rw [read]
    by_cases hk : (t.kind? (t.step s c)).isSome
    · rwa [if_pos hk]
    · rw [if_neg hk]
      by_cases hcs : cs = []
      · subst hcs
        exact hc
      · exact ih _ hcs (fun s d hd ↦ h s d (List.mem_cons_of_mem c hd))

/-- Letter case has no part in a read. -/
theorem read_congr (s : Nat) {cs ds : List Char} (h : cs.map foldCase = ds.map foldCase) :
    (t.read s cs).state = (t.read s ds).state ∧
      (t.read s cs).text.length = (t.read s ds).text.length := by
  induction cs generalizing s ds with
  | nil =>
    obtain rfl : ds = [] := List.map_eq_nil_iff.1 h.symm
    exact ⟨rfl, rfl⟩
  | cons c cs ih =>
    obtain ⟨d, ds', rfl, hc, hcs⟩ := List.map_eq_cons_iff.1 h.symm
    have hs : t.step s c = t.step s d := by
      unfold step
      rw [hc]
    obtain ⟨hst, htx⟩ := ih (t.step s c) hcs.symm
    rw [read, read, ← hs]
    by_cases hk : (t.kind? (t.step s c)).isSome
    · simp only [if_pos hk, List.length_singleton, and_self]
    · simp only [if_neg hk, List.length_cons, hst, htx, and_self]

/-- A literal that is read from one text is read from the front of every other text that has the
same characters there in some letter case. -/
theorem read_append_of_map_foldCase {s : Nat} {u w : List Char} (v : List Char) (hne : u ≠ [])
    (hfold : u.map foldCase = w.map foldCase) (hlen : (t.read s w).text.length = w.length)
    (hk : (t.kind? (t.read s w).state).isSome) :
    t.read s (u ++ v) = ⟨(t.read s w).state, u, v⟩ := by
  obtain ⟨hst, htx⟩ := t.read_congr s hfold
  have happ := t.read_text_append_rest s u
  have hlenu : u.length = w.length := by simpa using congrArg List.length hfold
  have hrest : (t.read s u).rest = [] := by
    have h' := congrArg List.length happ
    rw [List.length_append] at h'
    exact List.eq_nil_of_length_eq_zero (by omega)
  rw [hrest, List.append_nil] at happ
  rw [t.read_append s v hne (hst ▸ hk), happ, hrest, hst, List.nil_append]

end Harmonograph.Trie
