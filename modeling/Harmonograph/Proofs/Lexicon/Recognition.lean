import Harmonograph.Lexicon.Scanner
import Harmonograph.Proofs.Text.Blank
import Harmonograph.Proofs.Trie.Recognition

/-!
What the lexicon recognizes: every symbol in every letter case, from the root and after any blanks,
and the end of a comment from every state but the one after a slash.
-/

namespace Harmonograph

theorem toNat_lt_of_toLower_lt {c : Char} (h : c.toLower.toNat < 128) : c.toNat < 128 := by
  unfold Char.toLower at h
  split at h
  case isTrue hc => exact Nat.lt_of_le_of_lt (UInt32.le_iff_toNat_le.1 hc.2) (by decide)
  case isFalse => exact h

set_option maxRecDepth 2000 in
/-- No character but itself is folded to an ASCII character that is no letter. -/
theorem eq_of_foldCase_eq {c d : Char} (h : foldCase c = d) (hd : d.toNat < 128)
    (hletter : d.isAlpha = false) : c = d := by
  have hall : ∀ n < 128, (Char.ofNat n).toLower.isAlpha = false →
      (Char.ofNat n).toLower = Char.ofNat n := by
    decide
  rcases toNat_lt_or_of_foldCase_eq h hd with hc | ⟨-, rfl⟩ | ⟨-, rfl⟩
  · rw [foldCase_eq_toLower hc] at h
    have hself := hall c.toNat hc
    rw [Char.ofNat_toNat, h] at hself
    exact (hself hletter).symm
  · cases hletter
  · cases hletter

theorem Symbol.mem_spelled_of_literal? {s : Symbol} {l : String} (h : s.literal? = some l) :
    s ∈ spelled := by
  cases s <;> first | decide | cases h

namespace Symbol

variable {x y : Symbol}

/-- The Kelvin sign, which is folded to `k`, stands for no character of a literal. -/
theorem literal_chars (hy : y ∈ spelled) :
    ∀ d ∈ (y.literal?.getD "").toList, d.toNat < 128 ∧ d ≠ 'k' := by
  have hall : ∀ y ∈ spelled, (y.literal?.getD "").toList.all
      (fun d ↦ d.toNat < 128 && d != 'k') = true := by
    decide
  intro d hd
  simpa using List.all_eq_true.1 (hall y hy) d hd

theorem map_foldCase_literal (hy : y ∈ spelled) :
    (y.literal?.getD "").toList.map foldCase = (y.literal?.getD "").toList ∧
      (y.literal?.getD "").toList ≠ [] := by
  have hall : ∀ y ∈ spelled,
      (y.literal?.getD "").toList.map foldCase = (y.literal?.getD "").toList ∧
      (y.literal?.getD "").toList ≠ [] := by
    decide
  exact hall y hy

/-- No literal begins another. -/
theorem eq_of_literal_prefix (hx : x ∈ spelled) (hy : y ∈ spelled)
    (h : (x.literal?.getD "").toList <+: (y.literal?.getD "").toList) : x = y := by
  have hall : ∀ x ∈ spelled, ∀ y ∈ spelled,
      (x.literal?.getD "").toList <+: (y.literal?.getD "").toList → x = y := by
    decide
  exact hall x hx y hy h

end Symbol

/-- `w` writes the symbol in some letter case. -/
def Symbol.Spells (s : Symbol) (w : List Char) : Prop :=
  ∃ l, s.literal? = some l ∧ w.map Char.toLower = l.toList

namespace Symbol.Spells

variable {s : Symbol} {w : List Char}

theorem mem_spelled (h : s.Spells w) : s ∈ spelled := by
  obtain ⟨l, hl, -⟩ := h
  exact mem_spelled_of_literal? hl

theorem map_foldCase (h : s.Spells w) : w.map foldCase = (s.literal?.getD "").toList := by
  have hs := literal_chars h.mem_spelled
  obtain ⟨l, hl, hw⟩ := h
  rw [hl, Option.getD_some] at hs ⊢
  rw [← hw] at hs ⊢
  refine List.map_congr_left fun c hc ↦ foldCase_eq_toLower (toNat_lt_of_toLower_lt ?_)
  exact (hs _ (List.mem_map_of_mem hc)).1

end Symbol.Spells

/-- The end of a symbol that the lexicon keeps for the next one. -/
def Symbol.kept : Symbol → List Char
  | .commentEnd => ['/']
  | .oscillation | .rotation => ['n']
  | _ => []

namespace Lexicon

theorem spelled : lexicon.Spelled := (Trie.built_ofLiterals _).spelled

theorem kind?_root : lexicon.kind? 0 = none := Trie.kind?_root

theorem lt_size_of_kind? {s : Nat} {y : Symbol} (h : lexicon.kind? s = some y) :
    s < lexicon.size ∧ y ∈ Symbol.spelled := by
  obtain ⟨hs, hlast⟩ := Trie.exists_literal_of_kind? h
  obtain ⟨l, hl, -, -, rfl⟩ := Trie.mem_of_lastKind? hlast
  obtain ⟨y, hy, rfl⟩ := List.mem_map.1 hl
  exact ⟨hs, hy⟩

/-- No symbol is found for the end of the input. -/
theorem kind?_ne_endOfInput (s : Nat) : lexicon.kind? s ≠ some .endOfInput := by
  intro h
  exact absurd (lt_size_of_kind? h).2 (by decide)

/-- After a blank nothing of what stood before it counts. -/
theorem step_blank {c : Char} (h : isBlank c = true) (s : Nat) : lexicon.step s c = 0 := by
  have hall : ∀ y ∈ Symbol.spelled,
      ((y.literal?.getD "").toList.map foldCase).all (fun c ↦ !isBlank c) = true := by
    decide
  refine Trie.step_eq_root fun l hl hc ↦ ?_
  obtain ⟨y, hy, rfl⟩ := List.mem_map.1 hl
  have hblank := List.all_eq_true.1 (hall y hy) _ hc
  rw [foldCase_eq_self_of_isBlank h, h] at hblank
  cases hblank

/-- A run of blanks leads to the root, which is where it begins if it is empty. -/
theorem read_blanks {s : Nat} {gap : List Char} (hb : ∀ c ∈ gap, isBlank c = true)
    (h : gap ≠ [] ∨ s = 0) : (lexicon.read s gap).state = 0 := by
  by_cases hg : gap = []
  · subst hg
    exact h.resolve_left (fun hn ↦ hn rfl)
  · exact lexicon.read_state_of_step (P := (· = 0)) s hg (fun s c hc ↦ step_blank (hb c hc) s)

/-- The state after a slash outside of any other literal. -/
def slash : Nat := (lexicon.read 0 ['/']).state

/-- The state after a star outside of any other literal. -/
def star : Nat := (lexicon.read 0 ['*']).state

/-- The trie of all symbols, state by state: where the symbols end, and where a slash and a star
lead. -/
theorem table :
    (∀ s < lexicon.size, ∀ y ∈ Symbol.spelled, lexicon.kind? s = some y →
      s ≠ 0 ∧ (lexicon.node s).children = [] ∧ (lexicon.node s).text = (y.literal?.getD "").toList ∧
        (lexicon.node (lexicon.node s).fallback).text = y.kept) ∧
    ((lexicon.node slash).text = ['/'] ∧ (lexicon.node star).text = ['*'] ∧
      lexicon.kind? slash = none ∧ lexicon.kind? star = none) ∧
    ∀ s < lexicon.size,
      (lexicon.kind? (lexicon.step s '/') = some .commentEnd ↔ s = star) ∧
      (lexicon.step s '/' = slash ↔ s ≠ star) ∧
      (lexicon.step s '*' = star ↔ s ≠ slash ∧ lexicon.kind? s ≠ some .commentEnd) := by
  decide +kernel

/-- The symbols as they are inserted. -/
def literals : List (List Char × Symbol) :=
  Symbol.spelled.map fun y ↦ ((y.literal?.getD "").toList, y)

variable {y : Symbol} {w : List Char}

theorem isLiteral_iff : Trie.IsLiteral literals w ↔
    ∃ y ∈ Symbol.spelled, w.map foldCase = (y.literal?.getD "").toList := by
  constructor
  · rintro ⟨-, l, hl, hw⟩
    obtain ⟨y, hy, rfl⟩ := List.mem_map.1 hl
    exact ⟨y, hy, hw.symm.trans (Symbol.map_foldCase_literal hy).1⟩
  · rintro ⟨y, hy, hw⟩
    obtain ⟨hself, hne⟩ := Symbol.map_foldCase_literal hy
    refine ⟨?_, _, List.mem_map_of_mem hy, hself.trans hw.symm⟩
    rintro rfl
    exact hne hw.symm

theorem lastKind?_literals (hy : y ∈ Symbol.spelled) :
    Trie.lastKind? literals (y.literal?.getD "").toList = some y := by
  obtain ⟨hself, hne⟩ := Symbol.map_foldCase_literal hy
  have hsome : (Trie.lastKind? literals (y.literal?.getD "").toList).isSome :=
    Trie.isSome_lastKind?_iff.2 ⟨_, List.mem_map_of_mem hy, hne, hself⟩
  obtain ⟨k, hk⟩ := Option.isSome_iff_exists.1 hsome
  obtain ⟨l, hl, -, hlit, rfl⟩ := Trie.mem_of_lastKind? hk
  obtain ⟨x, hx, rfl⟩ := List.mem_map.1 hl
  have hsame := (Symbol.map_foldCase_literal hx).1.symm.trans hlit
  rw [hk, Symbol.eq_of_literal_prefix hx hy (hsame ▸ List.prefix_rfl)]

/-- Every symbol is recognized from the root as soon as it is complete, for no other is complete
before it. -/
theorem read_of_map_foldCase (hy : y ∈ Symbol.spelled)
    (hw : w.map foldCase = (y.literal?.getD "").toList) :
    w ≠ [] ∧ (lexicon.read 0 w).text = w ∧ (lexicon.read 0 w).rest = [] ∧
      lexicon.kind? (lexicon.read 0 w).state = some y := by
  have h : Trie.IsLiteral literals w := isLiteral_iff.2 ⟨y, hy, hw⟩
  have hfirst : IsFirst (Trie.IsLiteral literals) w w := by
    refine ⟨List.prefix_rfl, h, fun v hv hlit ↦ ?_⟩
    obtain ⟨x, hx, hxv⟩ := isLiteral_iff.1 hlit
    have hxy := hv.map foldCase
    rw [hxv, hw] at hxy
    obtain rfl := Symbol.eq_of_literal_prefix hx hy hxy
    exact hv.eq_of_length (by simpa using congrArg List.length (hxv.trans hw.symm))
  have hread := h.read hfirst []
  have hkind := (h.foldl List.prefix_rfl).2
  rw [List.append_nil, List.drop_length, List.append_nil] at hread
  rw [hw, lastKind?_literals hy] at hkind
  have hlexicon : lexicon.read 0 w = _ := hread
  rw [hlexicon]
  exact ⟨h.1, rfl, rfl, hkind⟩

theorem read_spelling {s : Symbol} {w : List Char} (h : s.Spells w) :
    w ≠ [] ∧ (lexicon.read 0 w).text = w ∧ (lexicon.read 0 w).rest = [] ∧
      lexicon.kind? (lexicon.read 0 w).state = some s :=
  read_of_map_foldCase h.mem_spelled h.map_foldCase

/-- A symbol ends where it is spelled, and the way on from there is through the fallback, which
keeps no more of the symbol than it may share with the next one. -/
theorem node_of_kind? {s : Nat} {y : Symbol} (h : lexicon.kind? s = some y) :
    s ≠ 0 ∧ (lexicon.node s).children = [] ∧
    (lexicon.node s).text = (y.literal?.getD "").toList ∧
    (lexicon.node (lexicon.node s).fallback).text = y.kept := by
  obtain ⟨hs, hy⟩ := lt_size_of_kind? h
  exact table.1 s hs y hy h

section Comment

variable {s : Nat} {c : Char} (hs : s < lexicon.size)
include hs

/-- A comment ends with a slash after a star that begins nothing else. -/
theorem kind?_step_iff :
    lexicon.kind? (lexicon.step s c) = some .commentEnd ↔ c = '/' ∧ s = star := by
  obtain ⟨-, -, hall⟩ := table
  constructor
  · intro hk
    have htext := (node_of_kind? hk).2.2.1
    have hc := eq_of_foldCase_eq (spelled.foldCase_of_text_step (w := ['*']) (d := '/') htext)
      (by decide) (by decide)
    exact ⟨hc, (hall s hs).1.1 (hc ▸ hk)⟩
  · rintro ⟨rfl, he⟩
    exact (hall s hs).1.2 he

theorem step_eq_slash_iff : lexicon.step s c = slash ↔ c = '/' ∧ s ≠ star := by
  obtain ⟨-, ⟨htext, -⟩, hall⟩ := table
  constructor
  · intro he
    have hc := eq_of_foldCase_eq
      (spelled.foldCase_of_text_step (w := []) (d := '/') (he ▸ htext)) (by decide)
      (by decide)
    exact ⟨hc, (hall s hs).2.1.1 (hc ▸ he)⟩
  · rintro ⟨rfl, hne⟩
    exact (hall s hs).2.1.2 hne

/-- A star after a slash is taken for the beginning of a comment. -/
theorem step_eq_star_iff :
    lexicon.step s c = star ↔ c = '*' ∧ s ≠ slash ∧ lexicon.kind? s ≠ some .commentEnd := by
  obtain ⟨-, ⟨-, htext, -⟩, hall⟩ := table
  constructor
  · intro he
    have hc := eq_of_foldCase_eq
      (spelled.foldCase_of_text_step (w := []) (d := '*') (he ▸ htext)) (by decide)
      (by decide)
    exact ⟨hc, (hall s hs).2.2.1 (hc ▸ he)⟩
  · rintro ⟨rfl, hne⟩
    exact (hall s hs).2.2.2 hne

end Comment

end Lexicon

/-- What the next symbol is, given the read of the lexicon that finds it. -/
theorem Scanner.next_of_read {s : Scanner} {q : Nat} {text rest : List Char} {y : Symbol}
    (h : lexicon.read s.state s.unread.rest = ⟨q, text, rest⟩) (hne : text ≠ [])
    (hk : lexicon.kind? q = some y) :
    s.next.1.symbol = y ∧ s.next.2.unread.rest = rest ∧ s.next.2.state = q := by
  have ht : text.isEmpty = false := by simpa using hne
  simp only [next, h, ht, hk, Bool.false_eq_true, if_false, Option.getD_some, and_self]

/-- Past a gap, a spelled symbol is the next one, whatever stands behind it. -/
theorem Scanner.next_of_spells {s : Scanner} {gap w cs : List Char} {y : Symbol}
    (hr : s.unread.rest = gap ++ (w ++ cs)) (hb : ∀ c ∈ gap, isBlank c = true)
    (hg : gap ≠ [] ∨ s.state = 0) (hw : y.Spells w) :
    s.next.1.symbol = y ∧ s.next.2.unread.rest = cs ∧ lexicon.kind? s.next.2.state = some y := by
  obtain ⟨hne, ht, hrest, hk⟩ := Lexicon.read_spelling hw
  have hroot := Lexicon.read_blanks hb hg
  have hnone : lexicon.kind? (lexicon.read s.state gap).state = none := by
    rw [hroot]
    exact Lexicon.kind?_root
  have hread := lexicon.read_append_of_none s.state (w ++ cs) hnone
  rw [hroot, lexicon.read_append 0 cs hne (by rw [hk]; rfl), ht, hrest, List.nil_append] at hread
  have htext : gap ++ w ≠ [] := fun he ↦ hne (List.append_eq_nil_iff.1 he).2
  obtain ⟨hy, hcs, hq⟩ := next_of_read (hr ▸ hread) htext hk
  exact ⟨hy, hcs, hq ▸ hk⟩

/-- A symbol is found where something has been read, in a state that ends it. -/
theorem Scanner.kind?_next {s : Scanner} (h : s.next.1.symbol ≠ .endOfInput) :
    s.next.1.text ≠ [] ∧ lexicon.kind? s.next.2.state = some s.next.1.symbol := by
  have ht : (lexicon.read s.state s.unread.rest).text ≠ [] := fun ht ↦ h (by simp [next, ht])
  refine ⟨ht, ?_⟩
  cases hk : lexicon.kind? (lexicon.read s.state s.unread.rest).state with
  | none => exact absurd (by simp [next, hk]) h
  | some y => simp [next, ht, hk]

end Harmonograph
