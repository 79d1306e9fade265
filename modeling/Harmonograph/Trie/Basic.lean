import Harmonograph.Text.Folding

/-!
A trie of literals that recognizes them inside running text. A state is a node of the trie; a
character with no child is tried again from the fallback of the state, up to the root. Letter case
is ignored.

A fallback is fixed when its node is made, from the literals inserted until then.
-/

namespace Harmonograph

universe u

variable {κ : Type u}

/-- A node of a trie whose literals are of kinds `κ`. -/
structure TrieNode (κ : Type u) where
  /-- The characters on the way from the root. -/
  text : List Char
  /-- Characters that lead on, in increasing order, and where they lead. -/
  children : List (Char × Nat)
  parent : Option Nat
  fallback : Nat
  /-- The kind of the literal that ends here. -/
  kind : Option κ

namespace TrieNode

/-- A root without literals. -/
def bare : TrieNode κ := ⟨[], [], none, 0, none⟩

def link (n : TrieNode κ) (c : Char) (s : Nat) : TrieNode κ :=
  { n with children := n.children.takeWhile (·.1 < c) ++ (c, s) :: n.children.dropWhile (·.1 < c) }

def mark (n : TrieNode κ) (k : κ) : TrieNode κ := { n with kind := some k }

theorem mem_children_link {n : TrieNode κ} {c : Char} {s : Nat} {e : Char × Nat}
    (h : e ∈ (n.link c s).children) : e = (c, s) ∨ e ∈ n.children := by
  simp only [link, List.mem_append, List.mem_cons] at h
  rcases h with h | rfl | h
  · exact .inr (List.takeWhile_sublist _ |>.subset h)
  · exact .inl rfl
  · exact .inr (List.dropWhile_sublist _ |>.subset h)

end TrieNode

/-- A trie. Its states are the numbers of its nodes. -/
structure Trie (κ : Type u) where
  /-- The nodes in the order in which they were made, the root first. -/
  nodes : Array (TrieNode κ)
  nonempty : 0 < nodes.size
  fallback_lt : ∀ (s : Nat) (h : s < nodes.size), 0 < s → nodes[s].fallback < s
  child_lt : ∀ (s : Nat) (h : s < nodes.size), ∀ e ∈ nodes[s].children, e.2 < nodes.size

namespace Trie

variable (t : Trie κ)

/-- The trie without literals. -/
def empty : Trie κ where
  nodes := #[.bare]
  nonempty := Nat.one_pos
  fallback_lt s h hs := absurd h (by simp; omega)
  child_lt s h e he := by
    have : s = 0 := by simpa using h
    subst this
    cases he

instance : Inhabited (Trie κ) := ⟨empty⟩

def size : Nat := t.nodes.size

def node (s : Nat) : TrieNode κ := t.nodes.getD s .bare

theorem node_eq_getElem {s : Nat} (h : s < t.nodes.size) : t.node s = t.nodes[s] := by
  unfold node Array.getD
  exact dif_pos h

theorem node_eq_bare {s : Nat} (h : ¬ s < t.nodes.size) : t.node s = .bare := by
  unfold node Array.getD
  exact dif_neg h

theorem fallback_node_lt {s : Nat} (hs : 0 < s) : (t.node s).fallback < s := by
  by_cases h : s < t.nodes.size
  · rw [t.node_eq_getElem h]
    exact t.fallback_lt s h hs
  · rw [t.node_eq_bare h]
    exact hs

theorem child_node_lt {s : Nat} {e : Char × Nat} (he : e ∈ (t.node s).children) : e.2 < t.size := by
  by_cases h : s < t.nodes.size
  · rw [t.node_eq_getElem h] at he
    exact t.child_lt s h e he
  · rw [t.node_eq_bare h] at he
    cases he

/-- Where the folded character `c` leads from `s` without a fallback. -/
def child? (s : Nat) (c : Char) : Option Nat := (t.node s).children.lookup c

theorem lt_size_of_child? {s n : Nat} {c : Char} (h : t.child? s c = some n) : n < t.size := by
  have he : (c, n) ∈ (t.node s).children := by
    obtain ⟨l, r, hl, _⟩ := List.lookup_eq_some_iff.1 h
    simp [hl]
  exact t.child_node_lt he

/-- The state after the folded character `c`. -/
def follow (s : Nat) (c : Char) : Nat :=
  match t.child? s c with
  | some n => n
  | none => if s = 0 then 0 else follow (t.node s).fallback c
termination_by s
decreasing_by exact t.fallback_node_lt (by omega)

/-- The state after the character `c`. -/
def step (s : Nat) (c : Char) : Nat := t.follow s (foldCase c)

theorem follow_lt (s : Nat) (c : Char) : t.follow s c < t.size := by
  fun_induction t.follow s c with
  | case1 s n h => exact t.lt_size_of_child? h
  | case2 => exact t.nonempty
  | case3 s h hs ih => exact ih

theorem step_lt (s : Nat) (c : Char) : t.step s c < t.size := t.follow_lt s (foldCase c)

/-- A new node for `c` under `s`. Its fallback is found before the node is linked. -/
def addChild (s : Nat) (c : Char) : Trie κ where
  nodes := (t.nodes.modify s (·.link c t.size)).push {
    TrieNode.bare with
    text := (t.node s).text ++ [c]
    parent := some s
    fallback := t.step (t.node s).fallback c }
  nonempty := by simp
  fallback_lt i h hi := by
    simp only [Array.size_push, Array.size_modify] at h
    simp only [Array.getElem_push, Array.size_modify]
    split
    case isTrue hlt =>
      rw [Array.getElem_modify]
      split
      · exact t.fallback_lt i hlt hi
      · exact t.fallback_lt i hlt hi
    case isFalse hlt =>
      have h' := t.step_lt (t.node s).fallback c
      have : t.size = t.nodes.size := rfl
      dsimp only
      omega
  child_lt i h e he := by
    simp only [Array.size_push, Array.size_modify] at h ⊢
    simp only [Array.getElem_push, Array.size_modify] at he
    split at he
    case isTrue hlt =>
      rw [Array.getElem_modify] at he
      split at he
      · rcases TrieNode.mem_children_link he with rfl | he
        · exact Nat.lt_succ_self _
        · exact Nat.lt_succ_of_lt (t.child_lt i hlt e he)
      · exact Nat.lt_succ_of_lt (t.child_lt i hlt e he)
    case isFalse hlt => cases he

/-- The trie with a way on from `s` by the folded character `c`, and where it leads. -/
def extend (s : Nat) (c : Char) : Trie κ × Nat :=
  match t.child? s c with
  | some n => (t, n)
  | none => (t.addChild s c, t.size)

/-- The trie with a way from `s` by the folded characters `cs`, and where it leads. -/
def extendAll : Trie κ → Nat → List Char → Trie κ × Nat
  | t, s, [] => (t, s)
  | t, s, c :: cs =>
    let p := t.extend s c
    extendAll p.1 p.2 cs

def mark (s : Nat) (k : κ) : Trie κ where
  nodes := t.nodes.modify s (·.mark k)
  nonempty := by simpa using t.nonempty
  fallback_lt i h hi := by
    rw [Array.size_modify] at h
    rw [Array.getElem_modify]
    split
    · exact t.fallback_lt i h hi
    · exact t.fallback_lt i h hi
  child_lt i h e he := by
    rw [Array.size_modify] at h ⊢
    rw [Array.getElem_modify] at he
    split at he
    · exact t.child_lt i h e he
    · exact t.child_lt i h e he

/-- The trie with the literal `cs` of kind `k`, and the state in which it ends. A literal inserted
again takes the new kind. There is no empty literal. -/
def insert (cs : List Char) (k : κ) : Trie κ × Option Nat :=
  if cs.isEmpty then (t, none)
  else
    let p := t.extendAll 0 (cs.map foldCase)
    (p.1.mark p.2 k, some p.2)

def ofLiterals (ls : List (List Char × κ)) : Trie κ :=
  ls.foldl (fun t l ↦ (t.insert l.1 l.2).1) empty

/-- The kind of the literal that ends in state `s`. -/
def kind? (s : Nat) : Option κ := (t.node s).kind

/-- What reading a text gives: the state at the end, the text read, and what is left. -/
structure Reached where
  state : Nat
  text : List Char
  rest : List Char
  deriving DecidableEq, Repr

/-- Reads from state `s` until a literal ends or nothing is left. The first literal to end is
taken, also when a longer one could follow. -/
def read (s : Nat) : List Char → Reached
  | [] => ⟨s, [], []⟩
  | c :: cs =>
    if (t.kind? (t.step s c)).isSome then ⟨t.step s c, [c], cs⟩
    else
      let r := read (t.step s c) cs
      ⟨r.state, c :: r.text, r.rest⟩

theorem read_text_append_rest (s : Nat) (cs : List Char) :
    (t.read s cs).text ++ (t.read s cs).rest = cs := by
  induction cs generalizing s with
  | nil => rfl
  | cons c cs ih =>
    rw [read]
    split
    · rfl
    · exact congrArg (c :: ·) (ih _)

theorem text_read_ne_nil (s : Nat) (c : Char) (cs : List Char) :
    (t.read s (c :: cs)).text ≠ [] := by
  rw [read]
  split <;> simp

end Trie

end Harmonograph
