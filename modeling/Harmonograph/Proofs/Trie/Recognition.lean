import Harmonograph.Proofs.Text.First
import Harmonograph.Proofs.Trie.Literals

/-!
Literals are recognized where a read begins. A walk from the root along a literal goes down from
node to node and needs no fallback, so it makes no difference in what order the literals were
inserted. A character of no literal leads to the root from everywhere.
-/

namespace Harmonograph.Trie

universe u

variable {κ : Type u} {t : Trie κ} {ls : List (List Char × κ)} {v w : List Char}

/-- A walk along what some node spells comes to that node. -/
theorem Spelled.text_foldl_of_spells (h : t.Spelled) (hw : t.Spells (w.map foldCase)) :
    (t.node (w.foldl t.step 0)).text = w.map foldCase := by
  induction w using List.reverseRec with
  | nil => exact h.text_root
  | append_singleton w c ih =>
    obtain ⟨n, hn, hnw⟩ := hw
    have hconcat : (t.node n).text = w.map foldCase ++ [foldCase c] := by
      rw [hnw, List.map_append, List.map_singleton]
    obtain ⟨p, hp, hpw, hpc⟩ := h.exists_child hn hconcat
    have hwalk := ih ⟨p, hp, hpw⟩
    obtain rfl := h.text_injective (t.foldl_step_lt t.nonempty w) hp (hwalk.trans hpw.symm)
    rw [List.foldl_concat, t.step_of_child? hpc, hnw]

/-- `w` is one of the literals `ls` in some letter case. There is no empty literal. -/
def IsLiteral (ls : List (List Char × κ)) (w : List Char) : Prop :=
  w ≠ [] ∧ ∃ l ∈ ls, l.1.map foldCase = w.map foldCase

instance (ls : List (List Char × κ)) (w : List Char) : Decidable (IsLiteral ls w) :=
  inferInstanceAs (Decidable (_ ∧ ∃ l ∈ ls, _))

theorem isLiteral_iff : IsLiteral ls w ↔ (lastKind? ls (w.map foldCase)).isSome := by
  rw [isSome_lastKind?_iff, IsLiteral]
  have hnil : ∀ l : List Char × κ, l.1.map foldCase = w.map foldCase → (l.1 ≠ [] ↔ w ≠ []) := by
    intro l hl
    simpa using congrArg (· ≠ []) hl
  constructor
  · rintro ⟨hne, l, hl, hw⟩
    exact ⟨l, hl, (hnil l hw).2 hne, hw⟩
  · rintro ⟨l, hl, hne, hw⟩
    exact ⟨(hnil l hw).1 hne, l, hl, hw⟩

/-- Along the beginnings of a literal, a walk from the root finds just those that are literals
themselves. -/
theorem IsLiteral.foldl (h : IsLiteral ls w) (hv : v <+: w) :
    ((ofLiterals ls).node (v.foldl (ofLiterals ls).step 0)).text = v.map foldCase ∧
    (ofLiterals ls).kind? (v.foldl (ofLiterals ls).step 0) = lastKind? ls (v.map foldCase) := by
  obtain ⟨-, l, hl, hw⟩ := h
  have hspells : (ofLiterals ls).Spells (v.map foldCase) :=
    spells_ofLiterals.2 (.inr ⟨l, hl, hw ▸ hv.map foldCase⟩)
  have htext := (built_ofLiterals ls).spelled.text_foldl_of_spells hspells
  refine ⟨htext, ?_⟩
  rw [kind?_ofLiterals (foldl_step_lt _ (ofLiterals ls).nonempty v), htext]

theorem IsLiteral.read (h : IsLiteral ls w) (hv : IsFirst (IsLiteral ls) v w) (cs : List Char) :
    (ofLiterals ls).read 0 (w ++ cs) =
      ⟨v.foldl (ofLiterals ls).step 0, v, w.drop v.length ++ cs⟩ := by
  have hw : w = v ++ w.drop v.length := List.prefix_append_drop hv.front
  have hsplit : w ++ cs = v ++ (w.drop v.length ++ cs) := by rw [← List.append_assoc, ← hw]
  rw [hsplit]
  refine read_append_of_foldl _ _ hv.holds.1 ?_ fun u hu hne hshort ↦ ?_
  · rw [(h.foldl hv.front).2]
    exact isLiteral_iff.1 hv.holds
  · rw [(h.foldl (hu.trans hv.front)).2, ← Option.not_isSome_iff_eq_none, ← isLiteral_iff]
    exact fun hlit ↦ hshort (hv.eq_of_holds u hu hlit)

/-- Behind a character of no literal a read goes on from the root. -/
theorem read_cons_of_notMem {c : Char} (hc : ∀ l ∈ ls, foldCase c ∉ l.1.map foldCase) (s : Nat)
    (cs : List Char) :
    let r := (ofLiterals ls).read 0 cs
    (ofLiterals ls).read s (c :: cs) = ⟨r.state, c :: r.text, r.rest⟩ := by
  intro r
  have hroot : ¬ ((ofLiterals ls).kind? 0).isSome := Option.not_isSome_iff_eq_none.2 kind?_root
  rw [Trie.read, step_eq_root hc, if_neg hroot]

/-- Whatever the literals are and in whatever order they were inserted, a text that begins with one
of them, in any letter case and with anything behind it, is read from the root up to the end of the
shortest literal in front of it, into the node that spells this literal and has its last kind.
Behind a character of no literal the same is read from every state. -/
theorem read_first_literal (h : IsLiteral ls w) :
    ∃ v, IsFirst (IsLiteral ls) v w ∧ ∃ k, lastKind? ls (v.map foldCase) = some k ∧
      let t := ofLiterals ls
      ∃ n < t.size, (t.node n).text = v.map foldCase ∧ t.kind? n = some k ∧ ∀ cs : List Char,
        t.read 0 (w ++ cs) = ⟨n, v, w.drop v.length ++ cs⟩ ∧
        ∀ (s : Nat) (c : Char), (∀ l ∈ ls, foldCase c ∉ l.1.map foldCase) →
          t.read s (c :: (w ++ cs)) = ⟨n, c :: v, w.drop v.length ++ cs⟩ := by
  obtain ⟨v, hv⟩ := exists_isFirst List.prefix_rfl h
  obtain ⟨k, hk⟩ := Option.isSome_iff_exists.1 (isLiteral_iff.1 hv.holds)
  obtain ⟨htext, hkind⟩ := h.foldl hv.front
  refine ⟨v, hv, k, hk, _, foldl_step_lt _ (ofLiterals ls).nonempty v, htext, hkind.trans hk, ?_⟩
  intro cs
  have hread := h.read hv cs
  refine ⟨hread, fun s c hc ↦ ?_⟩
  rw [read_cons_of_notMem hc, hread]

/-- The shortest of these literals begins the others and is inserted last, and twice. -/
theorem read_first_literal_of_repeated :
    let ls := [(['c', 'e', 'n', 't'], 1), (['C', 'e'], 2), (['c'], 3), (['C'], 4)]
    let t := ofLiterals ls
    IsLiteral ls ['C', 'E', 'N', 'T'] ∧
      t.kind? (t.read 2 ['-', 'C', 'E', 'N', 'T', '!']).state = some 4 ∧
      (t.read 2 ['-', 'C', 'E', 'N', 'T', '!']).rest = ['E', 'N', 'T', '!'] := by
  intro ls t
  have h : IsLiteral ls ['C', 'E', 'N', 'T'] := by decide
  have hc : ∀ l ∈ ls, foldCase '-' ∉ l.1.map foldCase := by decide
  have hfirst : IsFirst (IsLiteral ls) ['C'] ['C', 'E', 'N', 'T'] := by decide
  obtain ⟨v, hv, k, hk, n, -, -, hkind, hread⟩ := read_first_literal h
  obtain rfl := hv.eq hfirst
  have hbehind := (hread ['!']).2 2 '-' hc
  rw [show ['-', 'C', 'E', 'N', 'T', '!'] = '-' :: (['C', 'E', 'N', 'T'] ++ ['!']) from rfl,
    hbehind]
  exact ⟨h, hkind.trans hk.symm, rfl⟩

end Harmonograph.Trie
