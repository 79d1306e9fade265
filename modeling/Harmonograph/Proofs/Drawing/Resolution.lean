import Harmonograph.Proofs.Drawing.ChartedRun
import Harmonograph.Proofs.Figure.Innermost
import Mathlib.Data.List.Pairwise

/-!
What is found at a place of a drawing: the generator whose block is there, else the group of the
file. The names of the figures have no part in it, as long as they differ and those of the files do.
-/

namespace Harmonograph

namespace Chart

variable (c : Chart) {p : Location} {b b' : Generator × Nat × Nat} {d : Figure × Extent}

theorem mem_definitions_iff :
    d ∈ c.definitions ↔ (∃ b ∈ c.blocks, d = (.generator b.1, c.extentOf b)) ∨
      d = (.group c.group, c.whole) := by
  simp only [definitions, generators, List.mem_append, List.mem_map, List.mem_singleton, eq_comm]

/-- A chart has at most one block at a place. -/
theorem eq_of_mem_extentOf (hb : b ∈ c.blocks) (hb' : b' ∈ c.blocks) (hp : p ∈ c.extentOf b)
    (hp' : p ∈ c.extentOf b') : b = b' := by
  have hapart : c.blocks.Pairwise fun x y ↦ ¬ (p ∈ c.extentOf x ∧ p ∈ c.extentOf y) :=
    c.pairwise.imp fun hxy ⟨hx, hy⟩ ↦ Extent.not_mem_of_stop_lt hxy hx hy
  have : Std.Symm fun x y ↦ ¬ (p ∈ c.extentOf x ∧ p ∈ c.extentOf y) :=
    ⟨fun x y hxy ⟨hy, hx⟩ ↦ hxy ⟨hx, hy⟩⟩
  by_contra hne
  exact hapart.forall hb hb' hne ⟨hp, hp'⟩

theorem file_eq_of_mem (hd : d ∈ c.definitions) (hp : p ∈ d.2) : c.file = p.file :=
  (c.inOneFile_of_mem hd).2.symm.trans (Extent.file_of_mem hp).symm

end Chart

namespace Drawing

/-- The figure belongs to the drawing, and `p` lies in its extent. -/
def IsAt (d : Drawing) (f : Figure) (p : Location) : Prop :=
  f ∈ d.figures ∧ ∃ e : Extent, d.index[f.name]? = some e ∧ p ∈ e

section Names

variable {ds : List (Figure × Extent)} (hnames : (ds.map (·.1.name)).Nodup)
include hnames

theorem getElem?_index_eq_some_iff {name : String} {e : Extent} :
    (empty.defineAll ds).index[name]? = some e ↔ ∃ f, (f, e) ∈ ds ∧ f.name = name := by
  rw [(find?_defineAll_empty name).2, List.findRev?_eq_find?_reverse, Option.map_eq_some_iff]
  constructor
  · rintro ⟨d, hd, rfl⟩
    have hmem := List.mem_reverse.1 (List.mem_of_find?_eq_some hd)
    exact ⟨d.1, hmem, by simpa using List.find?_some hd⟩
  · rintro ⟨f, hf, rfl⟩
    have hsome : (ds.reverse.find? (·.1.name == f.name)).isSome := by
      rw [List.find?_isSome]
      exact ⟨(f, e), List.mem_reverse.2 hf, by simp⟩
    obtain ⟨d, hd⟩ := Option.isSome_iff_exists.1 hsome
    have hmem := List.mem_reverse.1 (List.mem_of_find?_eq_some hd)
    have hname : d.1.name = f.name := by simpa using List.find?_some hd
    exact ⟨d, hd, congrArg Prod.snd (List.inj_on_of_nodup_map hnames hmem hf hname)⟩

theorem isAt_iff {f : Figure} {p : Location} :
    (empty.defineAll ds).IsAt f p ↔ ∃ e, (f, e) ∈ ds ∧ p ∈ e := by
  have hfigures : f ∈ (empty.defineAll ds).figures ↔ ∃ e, (f, e) ∈ ds := by
    simp [figures_defineAll, empty]
  rw [IsAt, hfigures]
  constructor
  · rintro ⟨⟨e, he⟩, e', he', hp⟩
    obtain ⟨f', hf', hname⟩ := (getElem?_index_eq_some_iff hnames).1 he'
    have heq := List.inj_on_of_nodup_map hnames hf' he hname
    exact ⟨e', (Prod.mk.inj heq).1 ▸ hf', hp⟩
  · rintro ⟨e, he, hp⟩
    exact ⟨⟨e, he⟩, e, (getElem?_index_eq_some_iff hnames).2 ⟨f, he, rfl⟩, hp⟩

end Names

section Charts

variable {charts : List Chart} {c : Chart} {p : Location}
  (hnames : ((charts.flatMap (·.definitions)).map (·.1.name)).Nodup)
include hnames

theorem isAt_generator_iff {g : Generator} : (ofCharts charts).IsAt (.generator g) p ↔
    ∃ c ∈ charts, ∃ b ∈ c.blocks, b.1 = g ∧ p ∈ c.extentOf b := by
  rw [ofCharts, isAt_iff hnames]
  constructor
  · rintro ⟨e, he, hp⟩
    obtain ⟨c, hc, hd⟩ := List.mem_flatMap.1 he
    rcases c.mem_definitions_iff.1 hd with ⟨b, hb, heq⟩ | heq
    · obtain ⟨hg, rfl⟩ := Prod.mk.inj heq
      exact ⟨c, hc, b, hb, (Figure.generator.inj hg).symm, hp⟩
    · cases (Prod.mk.inj heq).1
  · rintro ⟨c, hc, b, hb, rfl, hp⟩
    exact ⟨_, List.mem_flatMap.2 ⟨c, hc, c.mem_definitions_iff.2 (.inl ⟨b, hb, rfl⟩)⟩, hp⟩

theorem isAt_group_iff {g : Group} : (ofCharts charts).IsAt (.group g) p ↔
    ∃ c ∈ charts, c.group = g ∧ p ∈ c.whole := by
  rw [ofCharts, isAt_iff hnames]
  constructor
  · rintro ⟨e, he, hp⟩
    obtain ⟨c, hc, hd⟩ := List.mem_flatMap.1 he
    rcases c.mem_definitions_iff.1 hd with ⟨b, hb, heq⟩ | heq
    · cases (Prod.mk.inj heq).1
    · obtain ⟨hg, rfl⟩ := Prod.mk.inj heq
      exact ⟨c, hc, (Figure.group.inj hg).symm, hp⟩
  · rintro ⟨c, hc, rfl, hp⟩
    exact ⟨_, List.mem_flatMap.2 ⟨c, hc, c.mem_definitions_iff.2 (.inr rfl)⟩, hp⟩

theorem resolve_eq_none_of_charts (hblocks : ∀ c ∈ charts, ∀ b ∈ c.blocks, p ∉ c.extentOf b)
    (hgroups : ∀ c ∈ charts, p ∉ c.whole) : (ofCharts charts).index.resolve p = none := by
  refine NameIndex.resolve_eq_none_iff.2 fun name e he hp ↦ ?_
  obtain ⟨f, hf, -⟩ := (getElem?_index_eq_some_iff hnames).1 he
  obtain ⟨c, hc, hd⟩ := List.mem_flatMap.1 hf
  rcases c.mem_definitions_iff.1 hd with ⟨b, hb, heq⟩ | heq
  · obtain ⟨-, rfl⟩ := Prod.mk.inj heq
    exact hblocks c hc b hb hp
  · obtain ⟨-, rfl⟩ := Prod.mk.inj heq
    exact hgroups c hc hp

variable (hfiles : (charts.map (·.file)).Nodup) (hc : c ∈ charts)
include hfiles hc

/-- A name at a place is that of a block or of the group in the file of the place. -/
theorem definition_at {name : String} {e : Extent} (hfile : c.file = p.file)
    (h : (ofCharts charts).index[name]? = some e) (hp : p ∈ e) :
    (∃ b ∈ c.blocks, name = b.1.name ∧ e = c.extentOf b) ∨ name = c.group.name ∧ e = c.whole := by
  obtain ⟨f, hf, rfl⟩ := (getElem?_index_eq_some_iff hnames).1 h
  obtain ⟨c', hc', hd⟩ := List.mem_flatMap.1 hf
  have heq : c'.file = c.file := (c'.file_eq_of_mem hd hp).trans hfile.symm
  obtain rfl := List.inj_on_of_nodup_map hfiles hc' hc heq
  rcases c'.mem_definitions_iff.1 hd with ⟨b, hb, heq⟩ | heq
  · obtain ⟨rfl, rfl⟩ := Prod.mk.inj heq
    exact .inl ⟨b, hb, rfl, rfl⟩
  · obtain ⟨rfl, rfl⟩ := Prod.mk.inj heq
    exact .inr ⟨rfl, rfl⟩

theorem resolve_at_block {b : Generator × Nat × Nat} (hb : b ∈ c.blocks) (hp : p ∈ c.extentOf b) :
    (ofCharts charts).index.resolve p = some b.1.name := by
  have hd : (.generator b.1, c.extentOf b) ∈ c.definitions :=
    c.mem_definitions_iff.2 (.inl ⟨b, hb, rfl⟩)
  have hindex := (getElem?_index_eq_some_iff hnames).2
    ⟨_, List.mem_flatMap.2 ⟨c, hc, hd⟩, rfl⟩
  have hat : ∀ (name' : String) (e' : Extent), (ofCharts charts).index[name']? = some e' → p ∈ e' →
      name' = b.1.name ∧ e' = c.extentOf b ∨ e' = c.whole := by
    intro name' e' h' hp'
    rcases definition_at hnames hfiles hc (c.file_eq_of_mem hd hp) h' hp' with
      ⟨b', hb', rfl, rfl⟩ | ⟨-, rfl⟩
    · obtain rfl := c.eq_of_mem_extentOf hb hb' hp hp'
      exact .inl ⟨rfl, rfl⟩
    · exact .inr rfl
  -- The block lies within the group of its file, and the group goes further.
  obtain ⟨-, hwhole, hless⟩ := c.covers hb
  refine NameIndex.resolve_eq_some hindex hp ?_ ?_
  · intro name' e' h' hp'
    rcases hat name' e' h' hp' with ⟨-, rfl⟩ | rfl
    · exact .refl (c.inOneFile_of_mem hd).1
    · exact hwhole
  · intro name' e' h' hp' hcovers
    rcases hat name' e' h' hp' with ⟨hname, -⟩ | rfl
    · exact hname
    · exact absurd hcovers hless

theorem resolve_at_group (hnone : ∀ b ∈ c.blocks, p ∉ c.extentOf b) (hp : p ∈ c.whole) :
    (ofCharts charts).index.resolve p = some c.group.name := by
  have hd : (.group c.group, c.whole) ∈ c.definitions := c.mem_definitions_iff.2 (.inr rfl)
  have hindex := (getElem?_index_eq_some_iff hnames).2
    ⟨_, List.mem_flatMap.2 ⟨c, hc, hd⟩, rfl⟩
  have hat : ∀ (name' : String) (e' : Extent), (ofCharts charts).index[name']? = some e' → p ∈ e' →
      name' = c.group.name ∧ e' = c.whole := by
    intro name' e' h' hp'
    rcases definition_at hnames hfiles hc (c.file_eq_of_mem hd hp) h' hp' with
      ⟨b, hb, -, rfl⟩ | hgroup
    · exact absurd hp' (hnone b hb)
    · exact hgroup
  refine NameIndex.resolve_eq_some hindex hp ?_ ?_
  · intro name' e' h' hp'
    rw [(hat name' e' h' hp').2]
    exact .refl (c.inOneFile_of_mem hd).1
  · intro name' e' h' hp' _
    exact (hat name' e' h' hp').1

end Charts

end Drawing

namespace Run

variable {π : Type} [PathLike π] {timeStep : Float} {readText : π → Except FileError String}

/-- Whatever place is asked for, the generator in whose block it lies is found; there is at most
one. Without one the group of the file of the place is found, if its extent goes as far, and else
nothing. A place has only the name of a file, so the files that can be opened have to differ in
their names. -/
theorem resolve_all {paths : List π} {d : Drawing}
    (hfiles : ((readable readText paths).map PathLike.shown).Nodup)
    (h : (all timeStep readText paths).1 = .ok d) (hnames : (d.figures.map Figure.name).Nodup)
    (p : Location) :
    (∀ g, d.IsAt (.generator g) p → d.index.resolve p = some g.name) ∧
    (∀ (i j : Nat) (g g' : Generator), d.get? i = some (.generator g) →
      d.get? j = some (.generator g') → d.IsAt (.generator g) p → d.IsAt (.generator g') p →
      i = j) ∧
    ((∀ g, ¬ d.IsAt (.generator g) p) →
      (∀ g, (p.file, g) ∈ ((readable readText paths).map PathLike.shown).zip d.groups →
        d.IsAt (.group g) p → d.index.resolve p = some g.name) ∧
      ((∀ g, (p.file, g) ∈ ((readable readText paths).map PathLike.shown).zip d.groups →
        ¬ d.IsAt (.group g) p) → d.index.resolve p = none)) := by
  have hrun : all timeStep readText paths = (.ok d, (all timeStep readText paths).2) :=
    Prod.ext h rfl
  obtain ⟨charts, hcharts⟩ := exists_charted_all hrun
  rw [← hcharts.map_file] at hfiles ⊢
  obtain rfl : d = .ofCharts charts := hcharts.drawing
  have hds : ((charts.flatMap (·.definitions)).map (·.1.name)).Nodup := by
    rw [Drawing.figures_ofCharts, List.map_map] at hnames
    exact hnames
  have hgenerator : ∀ g, (Drawing.ofCharts charts).IsAt (.generator g) p →
      (Drawing.ofCharts charts).index.resolve p = some g.name := by
    intro g hg
    obtain ⟨c, hc, b, hb, rfl, hp⟩ := (Drawing.isAt_generator_iff hds).1 hg
    exact Drawing.resolve_at_block hds hfiles hc hb hp
  refine ⟨hgenerator, ?_, ?_⟩
  · intro i j g g' hi hj hg hg'
    have hname := (hgenerator g hg).symm.trans (hgenerator g' hg')
    have hlength : i < (Drawing.ofCharts charts).figures.length :=
      (List.getElem?_eq_some_iff.1 hi).1
    rw [Drawing.get?] at hi hj
    refine (List.getElem?_inj (by rwa [List.length_map]) hnames).1 ?_
    rw [List.getElem?_map, List.getElem?_map, hi, hj]
    exact hname
  · intro hnone
    have hblocks : ∀ c ∈ charts, ∀ b ∈ c.blocks, p ∉ c.extentOf b := fun c hc b hb hp ↦
      hnone b.1 ((Drawing.isAt_generator_iff hds).2 ⟨c, hc, b, hb, rfl, hp⟩)
    have hgroups : ∀ g, (p.file, g) ∈ (charts.map (·.file)).zip (Drawing.ofCharts charts).groups ↔
        ∃ c ∈ charts, c.file = p.file ∧ c.group = g := by
      intro g
      rw [Drawing.groups_ofCharts, List.zip_map', List.mem_map]
      simp only [Prod.mk.injEq]
    constructor
    · rintro g - hat
      obtain ⟨c, hc, rfl, hp⟩ := (Drawing.isAt_group_iff hds).1 hat
      exact Drawing.resolve_at_group hds hfiles hc (hblocks c hc) hp
    · intro hgroup
      refine Drawing.resolve_eq_none_of_charts hds hblocks fun c hc hp ↦ ?_
      have hfile := c.file_eq_of_mem (c.mem_definitions_iff.2 (.inr rfl)) hp
      exact hgroup c.group ((hgroups _).2 ⟨c, hc, hfile, rfl⟩)
        ((Drawing.isAt_group_iff hds).2 ⟨c, hc, rfl, hp⟩)

/-- A name that is marked as that of no group is that of a generator. -/
theorem exists_generator_of_mem {figures : List Figure} {name : String}
    (h : (name, true) ∈ figures.map fun f ↦ (f.name, f.group?.isNone)) :
    ∃ g, .generator g ∈ figures ∧ g.name = name := by
  obtain ⟨f, hf, heq⟩ := List.mem_map.1 h
  obtain ⟨rfl, hnone⟩ := Prod.mk.inj heq
  cases f with
  | generator g => exact ⟨g, hf, rfl⟩
  | group g => cases hnone

/-- The name of the group of the file `a` comes between those of its generators. -/
def twoFiles (path : String) : Except FileError String :=
  match path with
  | "a" => .ok ("name: M \x7bname: A type: rotation frequency: 2\x7d\n" ++
      "\x7bname: Z type: rotation frequency: 3\x7d")
  | "b" => .ok "name: N"
  | _ => .error (.notFound path)

theorem resolve_all_of_two : ∃ d, (all 0.5 twoFiles ["a", "b"]).1 = .ok d ∧
    d.figures.map Figure.name = ["A", "Z", "M", "N"] ∧
    d.index.resolve ⟨"a", 1, 10⟩ = some "A" ∧ d.index.resolve ⟨"a", 2, 37⟩ = some "Z" := by
  have hrun : (all 0.5 twoFiles ["a", "b"]).1.toOption.map (fun d ↦
      (d.figures.map (fun f ↦ (f.name, f.group?.isNone)), d.index["A"]?, d.index["Z"]?)) =
        some ([("A", true), ("Z", true), ("M", false), ("N", false)],
          some ⟨⟨"a", 1, 10⟩, ⟨"a", 1, 46⟩⟩, some ⟨⟨"a", 2, 1⟩, ⟨"a", 2, 37⟩⟩) := by
    decide +kernel
  obtain ⟨d, hd, hparts⟩ := exists_ok_of_map_toOption hrun
  obtain ⟨hpairs, hindex⟩ := Prod.mk.inj hparts
  obtain ⟨hfirst, hsecond⟩ := Prod.mk.inj hindex
  have hnames : d.figures.map Figure.name = ["A", "Z", "M", "N"] := by
    have hfront := congrArg (List.map Prod.fst) hpairs
    rwa [List.map_map] at hfront
  have hblock : ∀ (name : String) (e : Extent) (p : Location),
      (name, true) ∈ d.figures.map (fun f ↦ (f.name, f.group?.isNone)) →
        d.index[name]? = some e → p ∈ e → d.index.resolve p = some name := by
    intro name e p hmem he hp
    obtain ⟨g, hg, rfl⟩ := exists_generator_of_mem hmem
    exact (resolve_all (by decide) hd (hnames ▸ by decide) p).1 g ⟨hg, e, he, hp⟩
  refine ⟨d, hd, hnames, ?_, ?_⟩
  · exact hblock "A" _ _ (hpairs ▸ by decide) hfirst (by decide)
  · exact hblock "Z" _ _ (hpairs ▸ by decide) hsecond (by decide)

/-- Neither of the two paths is a text, so both are shown by the same sign. -/
def twins (path : SystemPath) : Except FileError String :=
  match path.bytes with
  | [0xFF] => .ok "name: G \x7bname: S type: rotation frequency: 2\x7d"
  | [0xFE] => .ok "name: A color: 0,0,0,1"
  | _ => .error (.notFound (PathLike.shown path))

/-- It is not enough that the paths differ: in a block of the one file the group of the other is
found. -/
theorem resolve_between_twins :
    let paths : List SystemPath := [⟨[0xFF]⟩, ⟨[0xFE]⟩]
    let p : Location := ⟨"\uFFFD", 1, 15⟩
    paths.Nodup ∧ ∃ d g, (all 0.5 twins paths).1 = .ok d ∧ (d.figures.map Figure.name).Nodup ∧
      g.name = "S" ∧ d.IsAt (.generator g) p ∧ (∀ g', d.IsAt (.generator g') p → g' = g) ∧
      d.index.resolve p = some "A" := by
  intro paths p
  have hrun : (all 0.5 twins paths).1.toOption.map (fun d ↦
      (d.figures.map (fun f ↦ (f.name, f.group?.isNone)), d.index["S"]?, d.index.resolve p)) =
        some ([("S", true), ("G", false), ("A", false)],
          some ⟨⟨"\uFFFD", 1, 10⟩, ⟨"\uFFFD", 1, 46⟩⟩, some "A") := by
    decide +kernel
  obtain ⟨d, hd, hparts⟩ := exists_ok_of_map_toOption hrun
  obtain ⟨hpairs, hindex⟩ := Prod.mk.inj hparts
  obtain ⟨hblock, hresolve⟩ := Prod.mk.inj hindex
  have hnames : (d.figures.map Figure.name).Nodup := by
    have hfront := congrArg (List.map Prod.fst) hpairs
    rw [List.map_map] at hfront
    exact hfront ▸ by decide
  have hmem : ("S", true) ∈ d.figures.map (fun f ↦ (f.name, f.group?.isNone)) := hpairs ▸ by decide
  obtain ⟨g, hg, hname⟩ := exists_generator_of_mem hmem
  refine ⟨by decide, d, g, hd, hnames, hname, ⟨hg, _, hname ▸ hblock, by decide⟩, ?_, hresolve⟩
  rintro g' ⟨hg', -⟩
  have hmem' : (g'.name, true) ∈ d.figures.map (fun f ↦ (f.name, f.group?.isNone)) :=
    List.mem_map.2 ⟨_, hg', rfl⟩
  have hname' : g'.name = "S" := by
    rw [hpairs] at hmem'
    simpa using hmem'
  have heq := List.inj_on_of_nodup_map hnames hg' hg (hname'.trans hname.symm)
  exact Figure.generator.inj heq

end Run

end Harmonograph
