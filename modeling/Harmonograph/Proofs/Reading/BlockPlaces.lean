import Harmonograph.Proofs.Reading.Items
import Harmonograph.Proofs.Reading.Steps
import Harmonograph.Proofs.Source.Order

/-!
Where the blocks of a file stand. A block runs from behind an opening brace to behind a closing one,
and the blocks of a file follow each other.
-/

namespace Harmonograph

/-- A symbol that ends with an ASCII character other than a letter ends with it in the text. -/
theorem Scanner.getLast?_text_next {s : Scanner} {l : String} {w : List Char} {c : Char}
    (hs : s.next.1.symbol.literal? = some l) (hl : l.toList = w ++ [c]) (hc : c.toNat < 128)
    (hletter : c.isAlpha = false) : s.next.1.text.getLast? = some c := by
  have hsymbol : s.next.1.symbol ≠ .endOfInput := by
    intro he
    rw [he] at hs
    cases hs
  obtain ⟨htext, hk⟩ := kind?_next hsymbol
  have hnode := (Lexicon.node_of_kind? hk).2.2.1
  have hwalk : s.next.1.text.foldl lexicon.step s.state = s.next.2.state :=
    lexicon.foldl_text_read _ _
  obtain ⟨v, d, hv⟩ := (List.eq_nil_or_concat' s.next.1.text).resolve_left htext
  rw [hv, List.foldl_concat] at hwalk
  rw [← hwalk, hs, Option.getD_some, hl] at hnode
  rw [hv, List.getLast?_concat,
    eq_of_foldCase_eq (Lexicon.spelled.foldCase_of_text_step hnode) hc hletter]

namespace Progress

/-- How many characters have been read. -/
def position (p : Progress) : Nat := p.scanner.unread.position

/-- A front part of the text `cs` has been read. -/
def Within (file : String) (cs : List Char) (p : Progress) : Prop :=
  ∃ front, (Scanner.ofText file cs).Reads front p.scanner

namespace Within

open Reading

variable {file : String} {cs : List Char} {p q : Progress}

theorem ofText (file : String) (cs : List Char) : (Progress.ofText file cs).Within file cs :=
  ⟨[], .refl _⟩

theorem position_le (h : p.Within file cs) : p.position ≤ cs.length := by
  obtain ⟨front, hfront⟩ := h
  exact hfront.of_ofText.2.2

theorem location (h : p.Within file cs) : p.scanner.location = .ofPosition file cs p.position := by
  obtain ⟨front, hfront⟩ := h
  rw [hfront.location, hfront.of_ofText.1]
  rfl

theorem rest (h : p.Within file cs) : p.scanner.unread.rest = cs.drop p.position := by
  obtain ⟨front, hfront⟩ := h
  exact hfront.of_ofText.2.1

theorem reads {text : List Char} (h : p.Within file cs) (hq : p.scanner.Reads text q.scanner) :
    q.Within file cs := by
  obtain ⟨front, hfront⟩ := h
  exact ⟨_, hfront.trans hq⟩

theorem onward {α : Type} {P : Notice → Prop} {r : Except Failure α × Progress}
    (h : p.Within file cs) (hr : Onward P p r) :
    r.2.Within file cs ∧ p.position ≤ r.2.position := by
  obtain ⟨text, htext⟩ := hr.reads
  have hposition : r.2.position = p.position + text.length := htext.position
  exact ⟨h.reads htext, by omega⟩

theorem next (h : p.Within file cs) : p.next.2.Within file cs := h.reads p.scanner.reads_next

theorem position_lt_next (h : p.next.1 ≠ .endOfInput) : p.position < p.next.2.position := by
  have hpos := List.length_pos_iff.2 (Scanner.kind?_next h).1
  have hposition : p.next.2.position = p.position + p.scanner.next.1.text.length := rfl
  omega

/-- At the end of the input all of the text has been read. -/
theorem position_next_of_end (h : p.Within file cs) (hend : p.next.1 = .endOfInput) :
    p.next.2.position = cs.length := by
  have hrest := h.next.rest
  rw [show p.next.2.scanner.unread.rest = [] from p.scanner.rest_next_eq_nil hend] at hrest
  exact Nat.le_antisymm h.next.position_le (List.drop_eq_nil_iff.1 hrest.symm)

/-- The last character that was read stands before the place that reading has come to. -/
theorem getElem?_of_getLast? {c : Char} (h : p.Within file cs)
    (hc : p.scanner.next.1.text.getLast? = some c) : cs[p.next.2.position - 1]? = some c := by
  obtain ⟨front, hfront⟩ := h
  have hreads := hfront.trans p.scanner.reads_next
  obtain ⟨htake, -, hle⟩ := hreads.of_ofText
  have hlast : (front ++ p.scanner.next.1.text).getLast? = some c := by
    rw [List.getLast?_append, hc]
    rfl
  rw [htake, List.getLast?_eq_getElem?, List.length_take, Nat.min_eq_left hle,
    List.getElem?_take] at hlast
  split at hlast
  · exact hlast
  · cases hlast

theorem getElem?_of_literal {l : String} {w : List Char} {c : Char} (h : p.Within file cs)
    (hs : p.next.1.literal? = some l) (hl : l.toList = w ++ [c]) (hc : c.toNat < 128)
    (hletter : c.isAlpha = false) : cs[p.next.2.position - 1]? = some c :=
  h.getElem?_of_getLast? (Scanner.getLast?_text_next hs hl hc hletter)

end Within

end Progress

/-- The positions from `n` on where the blocks of a text begin and end: each begins behind an
opening brace and ends behind a closing one. -/
inductive Marked (cs : List Char) : Nat → List (Nat × Nat) → Prop
  | nil {n : Nat} : n ≤ cs.length → Marked cs n []
  | cons {n b e : Nat} {marks : List (Nat × Nat)} :
    n < b → cs[b - 1]? = some '\x7b' → b < e → cs[e - 1]? = some '\x7d' → Marked cs e marks →
      Marked cs n ((b, e) :: marks)

namespace Marked

variable {cs : List Char} {m n : Nat} {marks : List (Nat × Nat)}

theorem of_le (h : Marked cs n marks) (hm : m ≤ n) : Marked cs m marks := by
  cases h with
  | nil hn => exact .nil (Nat.le_trans hm hn)
  | cons hb hopen he hclose htail => exact .cons (Nat.lt_of_le_of_lt hm hb) hopen he hclose htail

theorem le_length (h : Marked cs n marks) : n ≤ cs.length := by
  induction h with
  | nil hn => exact hn
  | cons hb _ he _ _ ih => omega

theorem bounds (h : Marked cs n marks) : ∀ m ∈ marks, n < m.1 ∧ m.1 < m.2 ∧ m.2 ≤ cs.length := by
  induction h with
  | nil => simp
  | cons hb _ he _ htail ih =>
    intro m hm
    rcases List.mem_cons.1 hm with rfl | hm
    · exact ⟨hb, he, htail.le_length⟩
    · obtain ⟨hlt, hm'⟩ := ih m hm
      exact ⟨by omega, hm'⟩

theorem pairwise (h : Marked cs n marks) : marks.Pairwise fun a b ↦ a.2 < b.1 := by
  induction h with
  | nil => exact .nil
  | cons _ _ _ _ htail ih => exact .cons (fun m hm ↦ (htail.bounds m hm).1) ih

end Marked

namespace Reading

variable {timeStep : Float} {p q : Progress}

/-- The items of a block are read up to its closing brace. -/
theorem exists_next_of_blockItems {g g' : Generator} (h : blockItems g p = (.ok g', q)) :
    ∃ p', Onward (·.isToken = true) p ((.ok (), p') : Except Failure Unit × Progress) ∧
      p'.next.1 = .entityEnd ∧ p'.next.2 = q := by
  fun_induction blockItems g p with
  | case1 g p r he =>
    cases h
    exact ⟨p, .refl p (), he, rfl⟩
  | case2 g p r he he' => cases h
  | case3 g p r he he' hm => cases h
  | case4 g p r he he' m hm e q' hq => cases h
  | case5 g p r he he' m hm item q' hq ih =>
    obtain ⟨p', hp', hend⟩ := ih h
    have hitem := regular_blockItem (P := (·.isToken = true)) (fun _ hn ↦ hn) hm r.2
    rw [hq] at hitem
    exact ⟨p', ((onward_next (fun _ hn ↦ hn) p).trans hitem).trans hp', hend⟩

/-- A block that is read ends behind its closing brace, and is the one definition in it. -/
theorem place_of_block {file : String} {cs : List Char} {g : Generator} {extent : Extent}
    (hp : p.Within file cs) (h : block timeStep p = (.ok (g, extent), q)) :
    q.Within file cs ∧ p.position < q.position ∧ cs[q.position - 1]? = some '\x7d' ∧
      extent = .ofPositions file cs (p.position, q.position) ∧
      q.definitions = p.definitions ++ [(g.name, extent)] := by
  rw [block_eq] at h
  rcases hb : blockItems .blank p with ⟨e | g', r⟩
  · rw [hb] at h
    cases h
  · cases hv : g'.isValid
    · simp [hb, hv] at h
    · simp only [hb, hv, if_true, Prod.mk.injEq, Except.ok.injEq] at h
      obtain ⟨⟨rfl, rfl⟩, rfl⟩ := h
      obtain ⟨p', hp', hend, rfl⟩ := exists_next_of_blockItems hb
      obtain ⟨hwithin, hle⟩ := hp.onward hp'
      have hlt : p'.position < p'.next.2.position :=
        Progress.Within.position_lt_next (by rw [hend]; decide)
      have hbrace : cs[p'.next.2.position - 1]? = some '\x7d' :=
        hwithin.getElem?_of_literal (w := []) (by rw [hend]; rfl) rfl (by decide) (by decide)
      have hextent : (⟨p.scanner.location, p'.next.2.scanner.location⟩ : Extent) =
          .ofPositions file cs (p.position, p'.next.2.position) := by
        rw [hp.location, hwithin.next.location]
        rfl
      have hdefinitions : p'.next.2.definitions = p.definitions :=
        (hp'.trans (onward_next (fun _ hn ↦ hn) p')).definitions_eq
      refine ⟨hwithin.next, Nat.lt_of_le_of_lt hle hlt, hbrace, hextent, ?_⟩
      rw [← hdefinitions]
      simp [Progress.definitions, Progress.say, Notice.definition?, Generator.withBuffer]

/-- Reading on from `p` to the end of the input comes upon these items. -/
inductive ItemsRead (timeStep : Float) : Progress → List SheetItem → Progress → Prop
  | nil {p : Progress} : p.next.1 = .endOfInput → ItemsRead timeStep p [] p.next.2
  | cons {p q r : Progress} {m : Reading SheetItem} {item : SheetItem} {items : List SheetItem} :
    sheetItem? timeStep p.next.1 = some m → m p.next.2 = (.ok item, q) →
      ItemsRead timeStep q items r → ItemsRead timeStep p (item :: items) r

theorem exists_itemsRead {d d' : SheetDraft} (h : sheetItems timeStep d p = (.ok d', q)) :
    ∃ items, ItemsRead timeStep p items q ∧ items.foldl takeSheetItem d = d' := by
  fun_induction sheetItems timeStep d p with
  | case1 d p r he =>
    cases h
    exact ⟨[], .nil he, rfl⟩
  | case2 d p r he hm => cases h
  | case3 d p r he m hm e q' hq => cases h
  | case4 d p r he m hm item q' hq ih =>
    obtain ⟨items, hitems, hd⟩ := ih h
    exact ⟨item :: items, .cons hm hq hitems, hd⟩

/-- The blocks among the items of a file stand one behind the other, from the place where reading
begins to the end of the text. -/
theorem ItemsRead.exists_blocks {file : String} {cs : List Char} {items : List SheetItem}
    (h : ItemsRead timeStep p items q) (hp : p.Within file cs) :
    q.Within file cs ∧ q.position = cs.length ∧ ∃ blocks : List (Generator × Nat × Nat),
      Marked cs p.position (blocks.map (·.2)) ∧
      items.filterMap SheetItem.definition? =
        blocks.map (fun b ↦ (b.1, .ofPositions file cs b.2)) ∧
      q.definitions = p.definitions ++ blocks.map fun b ↦ (b.1.name, .ofPositions file cs b.2) := by
  induction h with
  | @nil p he =>
    have htoken := onward_next (P := (·.isToken = true)) (fun _ hn ↦ hn) p
    refine ⟨hp.next, hp.position_next_of_end he, [], .nil hp.position_le, rfl, ?_⟩
    rw [List.map_nil, List.append_nil]
    exact htoken.definitions_eq
  | @cons p q r m item items hm hr _ ih =>
    have htoken := onward_next (P := (·.isToken = true)) (fun _ hn ↦ hn) p
    have hlt : p.position < p.next.2.position :=
      Progress.Within.position_lt_next (ne_of_sheetItem? hm)
    rcases sheetItem_cases timeStep hm with ⟨hbegin, rfl⟩ | ⟨α, f, m', rfl, hm', hf⟩
    · obtain ⟨⟨g, extent⟩, hb, rfl⟩ := map_eq_ok hr
      obtain ⟨hq, hlt', hbrace, rfl, hdefinitions⟩ := place_of_block hp.next hb
      obtain ⟨hwithin, hend, blocks, hmarked, hitems, hall⟩ := ih hq
      have hopen : cs[p.next.2.position - 1]? = some '\x7b' :=
        hp.getElem?_of_literal (w := []) (by rw [hbegin]; rfl) rfl (by decide) (by decide)
      refine ⟨hwithin, hend, (g, p.next.2.position, q.position) :: blocks,
        .cons hlt hopen hlt' hbrace hmarked, ?_, ?_⟩
      · rw [List.filterMap_cons, hitems]
        rfl
      · rw [hall, hdefinitions, htoken.definitions_eq, List.append_assoc]
        rfl
    -- An item of another kind is no definition, so the marks behind it serve from here on.
    · obtain ⟨a, ha, rfl⟩ := map_eq_ok hr
      have hitem := hm' p.next.2
      rw [ha] at hitem
      obtain ⟨hq, hle⟩ := hp.next.onward hitem
      obtain ⟨hwithin, hend, blocks, hmarked, hitems, hall⟩ := ih hq
      refine ⟨hwithin, hend, blocks, hmarked.of_le (Nat.le_trans hlt.le hle), ?_, ?_⟩
      · rw [List.filterMap_cons_none (hf a), hitems]
      · rw [hall, (htoken.trans hitem).definitions_eq]

end Reading

end Harmonograph
