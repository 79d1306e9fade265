import Harmonograph.Proofs.Figure.Finite
import Harmonograph.Proofs.Reading.Items
import Harmonograph.Proofs.Reading.Steps

/-!
Only finite numbers are read, so the fields of all figures are finite. What is made of the fields
may still go beyond: the phase of a generator can be infinite.
-/

namespace Harmonograph

namespace Reading

variable {α β : Type} {P : α → Prop} {Q : β → Prop}

/-- Every value that the step gives satisfies `P`. -/
def Yields (P : α → Prop) (m : Reading α) : Prop := ∀ p a q, m p = (.ok a, q) → P a

namespace Yields

theorem pure {a : α} (h : P a) : Yields P (Pure.pure a : Reading α) := by
  intro p b q hb
  obtain rfl := Except.ok.inj (Prod.mk.inj hb).1
  exact h

theorem any (m : Reading α) : Yields (fun _ ↦ True) m := fun _ _ _ _ ↦ trivial

theorem bind {m : Reading α} {f : α → Reading β} (hm : Yields P m)
    (hf : ∀ a, P a → Yields Q (f a)) :
    Yields Q (m >>= f) := by
  intro p b q hb
  simp only [Bind.bind] at hb
  rcases hr : m p with ⟨e | a, p'⟩
  · rw [hr] at hb
    cases hb
  · rw [hr] at hb
    exact hf a (hm p a p' hr) p' b q hb

theorem map {m : Reading α} {f : α → β} (hm : Yields P m) (hf : ∀ a, P a → Q (f a)) :
    Yields Q (f <$> m) := hm.bind fun a ha ↦ .pure (hf a ha)

theorem ite {c : Prop} [Decidable c] {m n : Reading α} (hm : Yields P m) (hn : Yields P n) :
    Yields P (if c then m else n) := by
  split
  · exact hm
  · exact hn

end Yields

theorem yields_fail (fault : Fault) : Yields P (fail fault : Reading α) := by
  intro p a q h
  cases h

theorem yields_number : Yields (fun x ↦ Binary64.isFinite x = true) number :=
  (Yields.any _).bind fun cs _ ↦ .ite ((Yields.any _).bind fun _ _ ↦ yields_fail _) (by
    cases h : readNumber? cs with
    | none => exact yields_fail _
    | some x => exact .pure ((Option.filter_eq_some_iff.1 h).2))

theorem yields_point : Yields Point.IsFinite point :=
  yields_number.bind fun _ hx ↦ (Yields.any _).bind fun _ _ ↦ yields_number.bind fun _ hy ↦
    .pure ⟨hx, hy⟩

theorem yields_colour : Yields Colour.IsFinite colour :=
  yields_number.bind fun _ hr ↦ (Yields.any _).bind fun _ _ ↦
  yields_number.bind fun _ hg ↦ (Yields.any _).bind fun _ _ ↦
  yields_number.bind fun _ hb ↦ (Yields.any _).bind fun _ _ ↦
  yields_number.bind fun _ ha ↦ .pure ⟨hr, hg, hb, ha⟩

/-- All numbers of the item are finite. -/
def BlockItem.IsFinite : BlockItem → Prop
  | .comment => True
  | .field f => f.IsFinite

theorem yields_blockItem {s : Symbol} {m : Reading BlockItem} (h : blockItem? s = some m) :
    Yields BlockItem.IsFinite m := by
  have hfield : ∀ {α : Type} {P : α → Prop} {m : Reading α} (f : α → GeneratorField), Yields P m →
      (∀ a, P a → (f a).IsFinite) → Yields BlockItem.IsFinite (.field <$> f <$> m) :=
    fun _ hm hf ↦ (hm.map hf).map fun _ hx ↦ hx
  cases s <;> simp only [blockItem?, Option.some.injEq, reduceCtorEq] at h <;> subst h
  case amplitude => exact hfield _ yields_number fun _ hx ↦ hx
  case center => exact hfield _ yields_point fun _ hp ↦ hp
  case color => exact hfield _ yields_colour fun _ hc ↦ hc
  case direction => exact hfield _ yields_point fun _ hp ↦ hp
  case frequency => exact hfield _ yields_number fun _ hx ↦ hx
  case name => exact hfield _ (.any _) fun _ _ ↦ trivial
  case startPhase => exact hfield _ yields_number fun _ hx ↦ hx
  case type => exact hfield _ (.any _) fun _ _ ↦ trivial
  case commentBegin => exact (Yields.any _).map fun _ _ ↦ trivial

/-- All numbers of the item are finite, if it stands outside of blocks. -/
def SheetItem.IsFinite : SheetItem → Prop
  | .field f => f.IsFinite
  | .comment | .block _ _ => True

theorem yields_sheetItem {timeStep : Float} {s : Symbol} {m : Reading SheetItem}
    (h : sheetItem? timeStep s = some m) : Yields SheetItem.IsFinite m := by
  have hfield : ∀ {α : Type} {P : α → Prop} {m : Reading α} (f : α → GroupField), Yields P m →
      (∀ a, P a → (f a).IsFinite) → Yields SheetItem.IsFinite (.field <$> f <$> m) :=
    fun _ hm hf ↦ (hm.map hf).map fun _ hx ↦ hx
  cases s <;> simp only [sheetItem?, Option.some.injEq, reduceCtorEq] at h <;> subst h
  case center => exact hfield _ yields_point fun _ hp ↦ hp
  case color => exact hfield _ yields_colour fun _ hc ↦ hc
  case cycles => exact hfield _ yields_number fun _ hx ↦ hx
  case name => exact hfield _ (.any _) fun _ _ ↦ trivial
  case entityBegin => exact (Yields.any _).map fun _ _ ↦ trivial
  case commentBegin => exact (Yields.any _).map fun _ _ ↦ trivial

/-- Reading on from `p` to the closing brace of a block comes upon these fields. -/
inductive FieldsRead : Progress → List GeneratorField → Progress → Prop
  | nil {p : Progress} : p.next.1 = .entityEnd → FieldsRead p [] p.next.2
  | comment {p q r : Progress} {m : Reading BlockItem} {fields : List GeneratorField} :
    blockItem? p.next.1 = some m → m p.next.2 = (.ok .comment, q) →
      FieldsRead q fields r → FieldsRead p fields r
  | field {p q r : Progress} {m : Reading BlockItem} {f : GeneratorField}
    {fields : List GeneratorField} :
    blockItem? p.next.1 = some m → m p.next.2 = (.ok (.field f), q) →
      FieldsRead q fields r → FieldsRead p (f :: fields) r

/-- Reading on from `p` to the end of the input comes upon blocks with these fields. -/
inductive BlocksRead (timeStep : Float) : Progress → List (List GeneratorField) → Progress → Prop
  | nil {p : Progress} : p.next.1 = .endOfInput → BlocksRead timeStep p [] p.next.2
  | block {p q q' r : Progress} {b : Generator × Extent} {fields : List GeneratorField}
    {blocks : List (List GeneratorField)} :
    p.next.1 = .entityBegin → FieldsRead p.next.2 fields q' → block timeStep p.next.2 = (.ok b, q) →
      BlocksRead timeStep q blocks r → BlocksRead timeStep p (fields :: blocks) r
  | item {p q r : Progress} {m : Reading SheetItem} {item : SheetItem}
    {blocks : List (List GeneratorField)} :
    sheetItem? timeStep p.next.1 = some m → m p.next.2 = (.ok item, q) → item.definition? = none →
      BlocksRead timeStep q blocks r → BlocksRead timeStep p blocks r

section Blocks

variable {timeStep : Float} {p q : Progress}

theorem exists_fieldsRead {g g' : Generator} (h : blockItems g p = (.ok g', q)) :
    ∃ fields, FieldsRead p fields q ∧ fields.foldl .assign g = g' ∧ ∀ f ∈ fields, f.IsFinite := by
  fun_induction blockItems g p with
  | case1 g p r he =>
    cases h
    exact ⟨[], .nil he, rfl, fun f hf ↦ absurd hf List.not_mem_nil⟩
  | case2 g p r he he' => cases h
  | case3 g p r he he' hm => cases h
  | case4 g p r he he' m hm e q' hq => cases h
  | case5 g p r he he' m hm item q' hq ih =>
    obtain ⟨fields, hfields, hg, hfinite⟩ := ih h
    have hitem := yields_blockItem hm _ _ _ hq
    cases item with
    | comment => exact ⟨fields, .comment hm hq hfields, hg, hfinite⟩
    | field f => exact ⟨f :: fields, .field hm hq hfields, hg,
      List.forall_mem_cons.2 ⟨hitem, hfinite⟩⟩

theorem exists_fieldsRead_of_block {g : Generator} {extent : Extent}
    (h : block timeStep p = (.ok (g, extent), q)) :
    ∃ fields q', FieldsRead p fields q' ∧ g = (Generator.ofFields fields).withBuffer timeStep ∧
      ∀ f ∈ fields, f.IsFinite := by
  rw [block_eq] at h
  rcases hb : blockItems .blank p with ⟨e | g', q'⟩
  · rw [hb] at h
    cases h
  · cases hv : g'.isValid
    · simp [hb, hv] at h
    · simp only [hb, hv, if_true, Prod.mk.injEq, Except.ok.injEq] at h
      obtain ⟨⟨rfl, -⟩, -⟩ := h
      obtain ⟨fields, hfields, rfl, hfinite⟩ := exists_fieldsRead hb
      exact ⟨fields, q', hfields, rfl, hfinite⟩

/-- The figure of a block with these fields. -/
def blockFigure (timeStep : Float) (fields : List GeneratorField) : Figure :=
  .generator ((Generator.ofFields fields).withBuffer timeStep)

theorem exists_blocksRead {d d' : SheetDraft} (h : sheetItems timeStep d p = (.ok d', q))
    (hd : d.group.IsFinite) :
    ∃ blocks, BlocksRead timeStep p blocks q ∧
      d'.drawing.figures = d.drawing.figures ++ blocks.map (blockFigure timeStep) ∧
      d'.group.IsFinite ∧ ∀ fields ∈ blocks, ∀ f ∈ fields, f.IsFinite := by
  fun_induction sheetItems timeStep d p with
  | case1 d p r he =>
    cases h
    exact ⟨[], .nil he, (List.append_nil _).symm, hd, fun _ hf ↦ absurd hf List.not_mem_nil⟩
  | case2 d p r he hm => cases h
  | case3 d p r he m hm e q' hq => cases h
  | case4 d p r he m hm item q' hq ih =>
    rcases sheetItem_cases timeStep hm with ⟨hbegin, rfl⟩ | ⟨α, f, m', rfl, -, hf⟩
    · obtain ⟨⟨g, extent⟩, hb, rfl⟩ := map_eq_ok hq
      obtain ⟨fields, q'', hfields, rfl, hfinite⟩ := exists_fieldsRead_of_block hb
      obtain ⟨blocks, hblocks, hfigures, hgroup, hall⟩ := ih h ⟨hd.cycles, hd.center, hd.colour⟩
      refine ⟨fields :: blocks, .block hbegin hfields hb hblocks, ?_, hgroup,
        List.forall_mem_cons.2 ⟨hfinite, hall⟩⟩
      rw [hfigures, List.map_cons, ← List.singleton_append, ← List.append_assoc]
      rfl
    · have hitem := yields_sheetItem hm _ _ _ hq
      have hnone : item.definition? = none := by
        obtain ⟨a, -, rfl⟩ := map_eq_ok hq
        exact hf a
      have hgroup : (takeSheetItem d item).group.IsFinite ∧
          (takeSheetItem d item).drawing = d.drawing := by
        cases item with
        | comment => exact ⟨hd, rfl⟩
        | field x => exact ⟨hd.assign hitem, rfl⟩
        | block g extent => cases hnone
      obtain ⟨blocks, hblocks, hfigures, hrest⟩ := ih h hgroup.1
      rw [hgroup.2] at hfigures
      exact ⟨blocks, .item hm hq hnone hblocks, hfigures, hrest⟩

end Blocks

end Reading

open Reading

/-- All values of all figures are finite, except that a phase is finite just if the last start phase
of its block, times the period that the frequency had there, is finite. -/
theorem drawText_finite {timeStep : Float} {file text : String} {d : Drawing}
    (h : (drawText timeStep file text).1 = .ok d) :
    ∃ (blocks : List (List GeneratorField)) (g : Group) (q : Progress),
      BlocksRead timeStep (.ofText file text.toList) blocks q ∧
      d.figures = blocks.map (blockFigure timeStep) ++ [.group g] ∧ g.IsFinite ∧
      ∀ fields ∈ blocks, (∀ f ∈ fields, f.IsFinite) ∧
        let made := (Generator.ofFields fields).withBuffer timeStep
        made.IsFiniteButPhase ∧ (Binary64.isFinite made.frequency.phase ↔
          ∀ x f, Generator.LastStart fields x f → Binary64.isFinite (x * (1 / f))) := by
  have hsheet : (sheet timeStep .empty (.ofText file text.toList)).1 = .ok d := h
  rw [sheet_eq] at hsheet
  rcases hi : sheetItems timeStep ⟨.blank, .empty⟩ (.ofText file text.toList) with ⟨e | d', q⟩
  · rw [hi] at hsheet
    cases hsheet
  · obtain ⟨blocks, hblocks, hfigures, hgroup, hall⟩ := exists_blocksRead hi Group.isFinite_blank
    rw [hi] at hsheet
    obtain rfl := Except.ok.inj hsheet
    refine ⟨blocks, d'.finish, q, hblocks, ?_, ⟨hgroup.cycles, hgroup.center, hgroup.colour⟩, ?_⟩
    · rw [Drawing.define, hfigures]
      rfl
    · intro fields hfields
      have hfinite := hall fields hfields
      have hmade := Generator.isFiniteButPhase_ofFields hfinite
      exact ⟨hfinite, { hmade with }, Generator.isFinite_phase_iff⟩

theorem drawText_finite_of_early_start : ∃ d fields,
    (drawText 0.5 "t" "\x7btype: rotation startphase: 0.5 frequency: 2\x7d cycles: 3").1 = .ok d ∧
    d.get? 0 = some (blockFigure 0.5 fields) ∧ (∀ f ∈ fields, f.IsFinite) ∧
    ((Generator.ofFields fields).withBuffer 0.5).IsFiniteButPhase := by
  have hlength : (drawText 0.5 "t"
      "\x7btype: rotation startphase: 0.5 frequency: 2\x7d cycles: 3").1.toOption.map
        (·.figures.length) = some 2 := by
    decide +kernel
  obtain ⟨d, hd, htwo⟩ := exists_ok_of_map_toOption hlength
  obtain ⟨blocks, g, q, -, hfigures, -, hall⟩ := drawText_finite hd
  obtain ⟨fields, rfl⟩ : ∃ fields, blocks = [fields] := by
    rw [hfigures, List.length_append, List.length_map, List.length_singleton] at htwo
    exact List.length_eq_one_iff.1 (by omega)
  obtain ⟨hfinite, hmade, -⟩ := hall fields List.mem_cons_self
  refine ⟨d, fields, hd, ?_, hfinite, hmade⟩
  rw [Drawing.get?, hfigures]
  rfl

/-- Both numbers of this block are finite, and what the start phase is multiplied by is finite as
well. -/
theorem infinite_phase_of_finite_fields : ∃ d g,
    (drawText 0.5 "t.hg" "\x7btype: rotation frequency: 1e-308 startphase: 1e308\x7d").1 = .ok d ∧
    d.get? 0 = some (.generator g) ∧ Binary64.isFinite g.frequency.phase = false := by
  have hphase : (drawText 0.5 "t.hg"
      "\x7btype: rotation frequency: 1e-308 startphase: 1e308\x7d").1.toOption.map
        (fun d ↦ ((d.get? 0).bind Figure.phase?).map Binary64.isFinite) = some (some false) := by
    decide +kernel
  obtain ⟨d, hd, hfalse⟩ := exists_ok_of_map_toOption hphase
  obtain ⟨x, hx, hinfinite⟩ := Option.map_eq_some_iff.1 hfalse
  obtain ⟨f, hf, hphase⟩ := Option.bind_eq_some_iff.1 hx
  cases f with
  | generator g =>
    obtain rfl := Option.some.inj hphase
    exact ⟨d, g, hd, hf, hinfinite⟩
  | group g => cases hphase

end Harmonograph
