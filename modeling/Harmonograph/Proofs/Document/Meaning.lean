import Harmonograph.Proofs.Document.Blocks
import Harmonograph.Proofs.Figure.Members
import Harmonograph.Reading.Run

/-!
Documents mean what they say: a document is read exactly if the generators of all its blocks break
no rule, and then it is read as these generators and their group.
-/

namespace Harmonograph

namespace Reading

variable (timeStep : Float)

/-- What the generator of a block is refused for. -/
def Refuses {α : Type} (g : Generator) (r : Except Failure α × Progress) : Prop :=
  ∃ e q, r = (.error e, q) ∧ e.fault = .invalidGenerator g.name g.flaws

section Block

open Document

variable {items : List BlockItem} {us ws : List (List Char)} {p : Progress}

theorem takes_generator (h : BlockWords items us) :
    Takes (blockItems .blank) (us ++ [['\x7d']]) (generatorOf (blockFields items)) := by
  rw [generatorOf_eq_foldl]
  exact takes_blockItems h .blank

theorem block_of_words (h : BlockWords items us) (hp : p.At (us ++ [['\x7d']] ++ ws))
    (hv : (generatorOf (blockFields items)).isValid = true) :
    ∃ extent q, block timeStep p =
      (.ok ((generatorOf (blockFields items)).withBuffer timeStep, extent), q) ∧ q.At ws := by
  obtain ⟨q, hq, hq'⟩ := takes_generator h p ws hp
  have hb := block_eq (p := p) timeStep
  rw [hq] at hb
  exact ⟨_, _, hb.trans (if_pos hv), hq'⟩

theorem block_refuses (h : BlockWords items us) (hp : p.At (us ++ [['\x7d']] ++ ws))
    (hv : (generatorOf (blockFields items)).isValid = false) :
    Refuses (generatorOf (blockFields items)) (block timeStep p) := by
  obtain ⟨q, hq, -⟩ := takes_generator h p ws hp
  have hb := block_eq (p := p) timeStep
  rw [hq] at hb
  have hv' : ¬ (generatorOf (blockFields items)).isValid = true := by simp [hv]
  exact ⟨_, q, hb.trans (if_neg hv'), rfl⟩

end Block

section Items

variable {ws us : List (List Char)} {p : Progress} (d : SheetDraft)

theorem sheetItems_comment {w : List Char} (hw : CommentWord w) (hp : p.At (w :: ws)) :
    ∃ q, sheetItems timeStep d p = sheetItems timeStep d q ∧ q.At ws := by
  obtain ⟨hs, q, hq, hq'⟩ := next_at_comment hw hp
  refine ⟨q, ?_, hq'⟩
  rw [sheetItems_of_item (m := (fun _ ↦ .comment) <$> (comment : Reading Unit)) (by rw [hs]; rfl)]
  simp only [Functor.map, hq]
  rfl

/-- The keyword of a field opens the field. -/
theorem sheetItem?_of_words {f : GroupField} (h : GroupWords f us) :
    ∃ k vs s m, us = k :: vs ∧ Symbol.Spells s k ∧ sheetItem? timeStep s = some m ∧
      m.Takes vs (SheetItem.field f) := by
  cases h with
  | name hk hw => exact ⟨_, _, _, _, rfl, hk, rfl, ((takes_identifier hw).map _).map _⟩
  | center hk hw => exact ⟨_, _, _, _, rfl, hk, rfl, ((takes_point hw).map _).map _⟩
  | colour hk hw => exact ⟨_, _, _, _, rfl, hk, rfl, ((takes_colour hw).map _).map _⟩
  | cycles hk hw => exact ⟨_, _, _, _, rfl, hk, rfl, ((takes_number hw).map _).map _⟩

theorem sheetItems_field {f : GroupField} (hf : GroupWords f us) (hp : p.At (us ++ ws)) :
    ∃ q, sheetItems timeStep d p =
      sheetItems timeStep { d with group := d.group.assign f } q ∧ q.At ws := by
  obtain ⟨k, vs, s, m, rfl, hk, hm, ht⟩ := sheetItem?_of_words timeStep hf
  obtain ⟨hs, hq⟩ := next_at_symbol hk hp
  obtain ⟨q, hmq, hq'⟩ := ht _ _ hq
  refine ⟨q, ?_, hq'⟩
  rw [sheetItems_of_item (hs ▸ hm), hmq]
  rfl

/-- The opening brace of a block opens the block. -/
theorem sheetItems_brace (hp : p.At (['\x7b'] :: ws)) :
    p.next.2.At ws ∧ sheetItems timeStep d p = match block timeStep p.next.2 with
      | (.error e, q) => (.error e, q)
      | (.ok g, q) => sheetItems timeStep (d.addGenerator g.1 g.2) q := by
  obtain ⟨hs, hq⟩ := next_at_symbol (s := .entityBegin) ⟨"\x7b", rfl, rfl⟩ hp
  refine ⟨hq, ?_⟩
  rw [sheetItems_of_item (m := (fun g ↦ .block g.1 g.2) <$> block timeStep) (by rw [hs]; rfl)]
  simp only [Functor.map]
  rcases block timeStep p.next.2 with ⟨e | g, q⟩
  · rfl
  · rfl

end Items

section Document

open Document

/-- The items of a document are taken in from left to right, up to the first block whose generator
breaks a rule. -/
theorem sheetItems_of_words {doc : List DocumentItem} {ws : List (List Char)}
    (h : DocumentWords doc ws) (d : SheetDraft) {p : Progress} (hp : p.At ws) :
    match (generators doc).find? (!·.isValid) with
    | some g => Refuses g (sheetItems timeStep d p)
    | none => ∃ d' q, sheetItems timeStep d p = (.ok d', q) ∧
        d'.group = (List.range' d.drawing.figures.length (generators doc).length).foldl .addMember
          ((groupFields doc).foldl .assign d.group) ∧
        d'.drawing.figures = d.drawing.figures ++
          ((generators doc).map (·.withBuffer timeStep)).map .generator := by
  induction h generalizing d p with
  | nil =>
    exact ⟨d, p.next.2, sheetItems_of_end (Scanner.next_of_blank hp.blank), rfl, by
      simp [generators]⟩
  | comment hw hws ih =>
    obtain ⟨q, hq, hq'⟩ := sheetItems_comment timeStep d hw hp
    rw [hq]
    exact ih d hq'
  | field hf hws ih =>
    obtain ⟨q, hq, hq'⟩ := sheetItems_field timeStep d hf hp
    rw [hq]
    exact ih _ hq'
  | @block items doc us ws hb hws ih =>
    obtain ⟨hnext, heq⟩ := sheetItems_brace timeStep d hp
    have hblock : p.next.2.At (us ++ [['\x7d']] ++ ws) := by simpa using hnext
    rw [heq]
    cases hv : (generatorOf (blockFields items)).isValid with
    | false =>
      obtain ⟨e, q, hq, he⟩ := block_refuses timeStep hb hblock hv
      simp only [generators, List.find?_cons, hv, Bool.not_false]
      exact ⟨e, q, by rw [hq], he⟩
    | true =>
      obtain ⟨extent, q, hq, hq'⟩ := block_of_words timeStep hb hblock hv
      have h := ih (d.addGenerator ((generatorOf (blockFields items)).withBuffer timeStep) extent)
        hq'
      simp only [generators, List.find?_cons, hv, Bool.not_true, hq]
      split at h
      case h_1 g hg =>
        rw [hg]
        exact h
      case h_2 hg =>
        rw [hg]
        obtain ⟨d', r, hr, hgroup, hfigures⟩ := h
        refine ⟨d', r, hr, ?_, ?_⟩
        · rw [hgroup]
          simp only [SheetDraft.addGenerator, Drawing.define, groupFields, List.length_append,
            List.length_cons, List.length_nil, Nat.zero_add, List.range'_succ, List.foldl_cons,
            Group.foldl_assign_addMember]
        · rw [hfigures]
          simp only [SheetDraft.addGenerator, Drawing.define, List.map_cons, List.append_assoc,
            List.singleton_append]

/-- Reading a file with a document, up to the first block whose generator breaks a rule. -/
theorem sheet_of_words {doc : List DocumentItem} {ws : List (List Char)} (file : String)
    {cs : List Char} (h : DocumentWords doc ws) (hs : Spaced ws cs) :
    match (generators doc).find? (!·.isValid) with
    | some g => Refuses g (sheet timeStep .empty (.ofText file cs))
    | none => ∃ d q, sheet timeStep .empty (.ofText file cs) = (.ok d, q) ∧
        d.figures = figures timeStep doc := by
  have hp : (Progress.ofText file cs).At ws := .inr ⟨rfl, hs⟩
  have hitems := sheetItems_of_words timeStep h ⟨.blank, .empty⟩ hp
  split
  case h_1 g hg =>
    rw [hg] at hitems
    obtain ⟨e, q, hq, he⟩ := hitems
    refine ⟨e, q, ?_, he⟩
    rw [sheet_eq, hq]
  case h_2 hg =>
    rw [hg] at hitems
    obtain ⟨d, q, hq, hgroup, hfigures⟩ := hitems
    simp only [Drawing.empty, List.length_nil, List.nil_append] at hgroup hfigures
    have hmembers : d.group.members = List.range' 0 (generators doc).length := by
      rw [hgroup, Group.foldl_addMember]
      simp only [Group.members_foldl_assign]
      rfl
    have hlookup : d.drawing.members d.group =
        ((generators doc).map (·.withBuffer timeStep)).map .generator := by
      refine Drawing.members_eq [] _ [] ?_ ?_
      · simpa using hfigures
      · simpa using hmembers
    have hfinish : d.finish = { groupOf (groupFields doc) with
        members := List.range (generators doc).length
        bufferSize := (groupOf (groupFields doc)).bufferHint
          (((generators doc).map (·.withBuffer timeStep)).map (·.bufferSize)) } := by
      rw [SheetDraft.finish, hlookup, hgroup, Group.foldl_addMember, Group.members_foldl_assign,
        List.range_eq_range', List.map_map, groupOf_eq_foldl]
      rfl
    refine ⟨_, _, by rw [sheet_eq, hq], ?_⟩
    simp only [Drawing.define, hfigures, hfinish, figures_eq, List.length_map]

end Document

end Reading

/-- A document is drawn exactly if no generator of a block breaks a rule. It is drawn as the figures
that it describes; otherwise the first generator that breaks a rule is named with all the rules that
it breaks. -/
theorem drawText_document (timeStep : Float) (file text : String) {doc : List DocumentItem}
    {ws : List (List Char)} (h : DocumentWords doc ws) (hs : Spaced ws text.toList) :
    ((∃ d, (drawText timeStep file text).1 = .ok d) ↔
      ∀ g ∈ Document.generators doc, ∀ rule, ¬ Document.Breaks g rule) ∧
    (∀ d, (drawText timeStep file text).1 = .ok d → d.figures = Document.figures timeStep doc) ∧
    (∀ e, (drawText timeStep file text).1 = .error e →
      ∃ front g behind, Document.generators doc = front ++ g :: behind ∧
        (∀ g' ∈ front, ∀ rule, ¬ Document.Breaks g' rule) ∧ (∃ rule, Document.Breaks g rule) ∧
        e.fault = .invalidGenerator g.name (Document.broken g)) := by
  have hsheet := Reading.sheet_of_words timeStep file h hs
  have hdraw : (drawText timeStep file text).1 =
      (Reading.sheet timeStep .empty (.ofText file text.toList)).1 := rfl
  have hinvalid : ∀ g : Generator, (!g.isValid) = true ↔ ∃ rule, Document.Breaks g rule := by
    intro g
    rw [Bool.not_eq_true', ← Bool.not_eq_true, Document.isValid_iff, not_forall_not]
  rw [hdraw]
  split at hsheet
  case h_1 g hg =>
    obtain ⟨e, q, hq, he⟩ := hsheet
    obtain ⟨hrule, front, behind, hdoc, hfront⟩ := List.find?_eq_some_iff_append.1 hg
    rw [hinvalid] at hrule
    simp only [hq, reduceCtorEq, false_implies, implies_true, exists_false, false_iff, true_and]
    refine ⟨?_, ?_⟩
    · intro hall
      obtain ⟨rule, hbreaks⟩ := hrule
      exact hall g (hdoc ▸ List.mem_append_right _ List.mem_cons_self) rule hbreaks
    · rintro e' he'
      obtain rfl : e = e' := Except.error.inj he'
      refine ⟨front, g, behind, hdoc, fun g' hg' ↦ ?_, hrule, Document.flaws_eq_broken g ▸ he⟩
      exact (Document.isValid_iff g').1 (by simpa using hfront g' hg')
  case h_2 hg =>
    obtain ⟨d, q, hq, hd⟩ := hsheet
    have hall : ∀ g ∈ Document.generators doc, ∀ rule, ¬ Document.Breaks g rule := by
      intro g hmem
      have hvalid := List.find?_eq_none.1 hg g hmem
      rwa [hinvalid, not_exists] at hvalid
    simp only [hq, Except.ok.injEq, exists_eq', true_iff, forall_eq', reduceCtorEq, false_implies,
      implies_true, and_true]
    exact ⟨hall, hd⟩

section Examples

/-- The start phase is given between two frequencies. -/
def rotationFields : List GeneratorField :=
  [.motion .rotation, .frequency 4, .startPhase 0.5, .frequency 2]

def swingFields : List GeneratorField := [.motion .oscillation, .direction ⟨0, 2⟩, .frequency 2]

/-- There is neither a frequency nor a direction. -/
def stillFields : List GeneratorField := [.motion .oscillation, .direction ⟨0, 0⟩]

/-- Of the first text the comment holds a keyword and a brace, and the second name counts. The
second text is refused for its second block. -/
theorem drawText_rotation :
    (∃ d, (drawText 0.125 "t.hg" ("CYCLES: 2 name: A /*name: \x7b*/ " ++
        "\x7b Type: ROTATION frequency: 4 startPhase: 0.5 frequency: 2 \x7d name: G")).1 = .ok d ∧
      d.figures = [
        .generator ⟨"", .rotation, 1, ⟨2, 0.125⟩, ⟨1, 0⟩, ⟨0, 0⟩, ⟨0, 0, 0, 1⟩, 3⟩,
        .group ⟨"G", [0], 2, ⟨0, 0⟩, ⟨0, 0, 0, 1⟩, 6⟩]) ∧
    ∃ e, (drawText 0.125 "t.hg" ("\x7b type: oscillation direction: 0 , 2 frequency: 2 \x7d " ++
        "\x7b type: oscillation direction: 0 , 0 \x7d")).1 = .error e ∧
      e.fault = .invalidGenerator "" [.nonPositiveFrequency, .zeroDirection] := by
  have hnumbers : NumberWord 0 ['0'] ∧ NumberWord 2 ['2'] ∧ NumberWord 4 ['4'] ∧
      NumberWord 0.5 "0.5".toList := by
    decide +kernel
  obtain ⟨hzero, htwo, hfour, hhalf⟩ := hnumbers
  constructor
  · have hblock : BlockWords (rotationFields.map .field)
        ["Type:".toList, "ROTATION".toList, "frequency:".toList, "4".toList, "startPhase:".toList,
          "0.5".toList, "frequency:".toList, "2".toList] :=
      .field (.motion ⟨"type:", rfl, by decide⟩ ⟨by decide, by decide⟩)
        (.field (.frequency ⟨"frequency:", rfl, by decide⟩ hfour)
          (.field (.startPhase ⟨"startphase:", rfl, by decide⟩ hhalf)
            (.field (.frequency ⟨"frequency:", rfl, by decide⟩ htwo) .nil)))
    have hcycles : GroupWords (.cycles 2) ["CYCLES:".toList, "2".toList] :=
      .cycles ⟨"cycles:", rfl, by decide⟩ htwo
    have hname : ∀ c, isAlphanumeric c = true →
        GroupWords (.name (String.singleton c)) ["name:".toList, [c]] := fun c hc ↦
      .name ⟨"name:", rfl, by decide⟩ ⟨List.cons_ne_nil _ _, List.forall_mem_singleton.2 hc, rfl⟩
    have hcomment : CommentWord "/*name: \x7b*/".toList :=
      ⟨"name: \x7b".toList, by decide, by decide, by decide⟩
    have h := drawText_document 0.125 "t.hg" ("CYCLES: 2 name: A /*name: \x7b*/ " ++
      "\x7b Type: ROTATION frequency: 4 startPhase: 0.5 frequency: 2 \x7d name: G")
      (.field hcycles (.field (hname 'A' (by decide)) (.comment hcomment (.block hblock
        (.field (hname 'G' (by decide)) .nil))))) (spaced_join "CYCLES:".toList _)
    have hvalues :
        Document.lastOf (Document.phase? rotationFields) 0 rotationFields.zipIdx = 0.125 ∧
        Document.samples (Document.generatorOf rotationFields) 0.125 = 3 ∧
        Document.groupSamples 2 [3] = 6 ∧
        Document.broken (Document.generatorOf rotationFields) = [] := by
      decide +kernel
    obtain ⟨hphase, hsize, hsizes, hbroken⟩ := hvalues
    obtain ⟨d, hd⟩ :=
      h.1.2 (List.forall_mem_singleton.2 ((Document.broken_eq_nil_iff _).1 hbroken))
    refine ⟨d, hd, (h.2.1 d hd).trans ?_⟩
    change [Figure.generator { Document.generatorOf rotationFields with
        bufferSize := Document.samples (Document.generatorOf rotationFields) 0.125 },
      .group { Document.groupOf [.cycles 2, .name "A", .name "G"] with
        members := [0]
        bufferSize := Document.groupSamples 2
          [Document.samples (Document.generatorOf rotationFields) 0.125] }] = _
    rw [hsize, hsizes, Document.generatorOf, hphase]
    rfl
  · have hswing : BlockWords (swingFields.map .field)
        ["type:".toList, "oscillation".toList, "direction:".toList, "0".toList, [','],
          "2".toList, "frequency:".toList, "2".toList] :=
      .field (.motion ⟨"type:", rfl, by decide⟩ ⟨by decide, by decide⟩)
        (.field (.direction ⟨"direction:", rfl, by decide⟩ ⟨_, _, hzero, htwo, rfl⟩)
          (.field (.frequency ⟨"frequency:", rfl, by decide⟩ htwo) .nil))
    have hstill : BlockWords (stillFields.map .field)
        ["type:".toList, "oscillation".toList, "direction:".toList, "0".toList, [','],
          "0".toList] :=
      .field (.motion ⟨"type:", rfl, by decide⟩ ⟨by decide, by decide⟩)
        (.field (.direction ⟨"direction:", rfl, by decide⟩ ⟨_, _, hzero, hzero, rfl⟩) .nil)
    have h := drawText_document 0.125 "t.hg"
      ("\x7b type: oscillation direction: 0 , 2 frequency: 2 \x7d " ++
        "\x7b type: oscillation direction: 0 , 0 \x7d")
      (.block hswing (.block hstill .nil)) (spaced_join ['\x7b'] _)
    have hrules : Document.broken (Document.generatorOf swingFields) = [] ∧
        Document.broken (Document.generatorOf stillFields) =
          [.nonPositiveFrequency, .zeroDirection] := by
      decide +kernel
    obtain ⟨hkept, hbroken⟩ := hrules
    cases hr : (drawText 0.125 "t.hg"
        ("\x7b type: oscillation direction: 0 , 2 frequency: 2 \x7d " ++
          "\x7b type: oscillation direction: 0 , 0 \x7d")).1 with
    | error e =>
      obtain ⟨front, g, behind, hdoc, -, hrule, he⟩ := h.2.2 e hr
      replace hdoc : [Document.generatorOf swingFields, Document.generatorOf stillFields] =
          front ++ g :: behind := hdoc
      cases front with
      | nil =>
        obtain ⟨rfl, -⟩ := List.cons.inj hdoc
        exact absurd hrule (not_exists.2 ((Document.broken_eq_nil_iff _).1 hkept))
      | cons _ front =>
        obtain ⟨-, hdoc⟩ := List.cons.inj hdoc
        have hmem : g ∈ [Document.generatorOf stillFields] := by
          rw [hdoc]
          exact List.mem_append_right _ List.mem_cons_self
        obtain rfl := List.mem_singleton.1 hmem
        rw [hbroken] at he
        exact ⟨e, rfl, he⟩
    | ok d =>
      have hmem : Flaw.zeroDirection ∈ Document.broken (Document.generatorOf stillFields) := by
        rw [hbroken]
        decide
      have hrule := (Document.mem_broken_iff _ _).1 hmem
      exact absurd hrule (h.1.1 ⟨d, hr⟩ _ (List.mem_cons_of_mem _ List.mem_cons_self) _)

end Examples

end Harmonograph
