import Harmonograph.Proofs.Drawing.Definitions
import Harmonograph.Proofs.Drawing.Shape
import Harmonograph.Proofs.Log.Records
import Harmonograph.Proofs.Reading.BlockPlaces

/-!
Charts: what one file defines, and where. A file that is read gives a chart, in which the extents of
the generators lie apart from each other, in the order of the generators, and within the extent of
the group.
-/

namespace Harmonograph

/-- What one file defines: the generators of its blocks, which stand at marked positions of its
text, and its group, which is all of the text. -/
structure Chart where
  file : String
  text : List Char
  blocks : List (Generator × Nat × Nat)
  group : Group
  marked : Marked text 0 (blocks.map (·.2))

namespace Chart

variable (c : Chart)

def extentOf (b : Generator × Nat × Nat) : Extent := .ofPositions c.file c.text b.2

/-- The extent of the group. -/
def whole : Extent := ⟨.start c.file, (Location.start c.file).advance c.text⟩

def generators : List (Figure × Extent) := c.blocks.map fun b ↦ (.generator b.1, c.extentOf b)

def definitions : List (Figure × Extent) := c.generators ++ [(.group c.group, c.whole)]

theorem whole_eq : c.whole = .ofPositions c.file c.text (0, c.text.length) := by
  rw [Extent.ofPositions, Location.ofPosition_zero, Location.ofPosition_length]
  rfl

theorem map_definitions : c.definitions.map (·.1) =
    c.blocks.map (fun b ↦ .generator b.1) ++ [.group c.group] := by
  simp [definitions, generators]

theorem named_definitions : c.definitions.map Figure.named =
    c.blocks.map (fun b ↦ (b.1.name, c.extentOf b)) ++ [(c.group.name, c.whole)] := by
  rw [definitions, List.map_append, generators, List.map_map]
  rfl

/-- Every block has a beginning and an end, and is less than the whole. -/
theorem covers {b : Generator × Nat × Nat} (hb : b ∈ c.blocks) :
    (c.extentOf b).start < (c.extentOf b).stop ∧ c.whole.Covers (c.extentOf b) ∧
      ¬ (c.extentOf b).Covers c.whole := by
  obtain ⟨hpos, hlt, hle⟩ := c.marked.bounds b.2 (List.mem_map_of_mem hb)
  have hstart : Location.ofPosition c.file c.text 0 < (c.extentOf b).start :=
    Location.ofPosition_lt _ _ hpos (by omega)
  rw [whole_eq]
  refine ⟨Location.ofPosition_lt _ _ hlt hle, ⟨Extent.inOneFile_ofPositions _ _ _,
    Extent.inOneFile_ofPositions _ _ _, hstart.le, Location.ofPosition_le _ _ hle le_rfl⟩, ?_⟩
  exact fun hcovers ↦ absurd hcovers.2.2.1 hstart.not_ge

/-- A block ends before the next one begins. -/
theorem pairwise : c.blocks.Pairwise fun a b ↦ (c.extentOf a).stop < (c.extentOf b).start := by
  have hmarks := List.pairwise_map.1 c.marked.pairwise
  refine hmarks.imp_of_mem fun {a b} _ hb hab ↦ ?_
  obtain ⟨-, hlt, hle⟩ := c.marked.bounds b.2 (List.mem_map_of_mem hb)
  exact Location.ofPosition_lt _ _ hab (by omega)

theorem inOneFile_of_mem {d : Figure × Extent} (hd : d ∈ c.definitions) :
    d.2.InOneFile ∧ d.2.start.file = c.file := by
  rcases List.mem_append.1 hd with hmem | hmem
  · obtain ⟨b, -, rfl⟩ := List.mem_map.1 hmem
    exact ⟨Extent.inOneFile_ofPositions _ _ _, Location.file_ofPosition _ _ _⟩
  · rw [List.mem_singleton.1 hmem, whole_eq]
    exact ⟨Extent.inOneFile_ofPositions _ _ _, Location.file_ofPosition _ _ _⟩

end Chart

namespace Run

def notices (events : List RunEvent) : List Notice := events.filterMap Log.Event.note?

/-- The definitions that a run tells of, in order. -/
def definitions (events : List RunEvent) : List (String × Extent) :=
  (notices events).filterMap Notice.definition?

theorem notices_append (es fs : List RunEvent) : notices (es ++ fs) = notices es ++ notices fs :=
  List.filterMap_append

theorem notices_map_note (ns : List Notice) : notices (ns.map .note) = ns := by
  rw [notices, List.filterMap_map]
  exact List.filterMap_some

open Reading

/-- Only the blocks of a file are added to its drawing. -/
theorem drawing_foldl_takeSheetItem (items : List SheetItem) (d : SheetDraft) :
    (items.foldl takeSheetItem d).drawing =
      d.drawing.defineAll
        ((items.filterMap SheetItem.definition?).map fun x ↦ (.generator x.1, x.2)) := by
  induction items generalizing d with
  | nil => rfl
  | cons item items ih =>
    rw [List.foldl_cons, ih]
    cases item with
    | comment => rfl
    | field f => rfl
    | block g extent => rfl

section Sheet

variable {timeStep : Float} {path : String} {cs : List Char} {before after : Drawing}

theorem isOfFile_of_readSheet (timeStep : Float) (before : Drawing) (path : String)
    (cs : List Char) :
    ∀ n ∈ (readSheet timeStep before path cs).2, n.isOfFile = true := by
  obtain ⟨said, hsaid, hfile⟩ := (regular_sheet timeStep before (.ofText path cs)).notices
  have hnotices : (readSheet timeStep before path cs).2 = said := hsaid
  rw [hnotices]
  exact hfile

/-- Behind the definitions of its blocks a file has that of its group. -/
theorem definitions_sheet {p q : Progress} {d : SheetDraft}
    (h : sheetItems timeStep ⟨.blank, before⟩ p = (.ok d, q)) :
    (sheet timeStep before p).2.definitions =
      q.definitions ++ [(d.finish.name, ⟨p.scanner.location, q.scanner.location⟩)] := by
  rw [sheet_eq, h]
  by_cases hc : d.group.cycles < 0
  · simp only [hc, if_true, Progress.definitions, Progress.say, Array.toList_push,
      List.append_assoc, List.filterMap_append]
    rfl
  · simp only [hc, if_false, Progress.definitions, Progress.say, Array.toList_push,
      List.append_assoc, List.filterMap_append]
    rfl

theorem exists_chart (h : (readSheet timeStep before path cs).1 = .ok after) :
    ∃ c : Chart, c.file = path ∧ c.text = cs ∧ after = before.defineAll c.definitions ∧
      (readSheet timeStep before path cs).2.filterMap Notice.definition? =
        c.definitions.map Figure.named := by
  have hsheet : (sheet timeStep before (.ofText path cs)).1 = .ok after := h
  rcases hi : sheetItems timeStep ⟨.blank, before⟩ (.ofText path cs) with ⟨e | d, q⟩
  · simp [sheet_eq, hi] at hsheet
  · obtain ⟨items, hitems, hd⟩ := exists_itemsRead hi
    obtain ⟨hwithin, hend, blocks, hmarked, hblocks, hdefinitions⟩ :=
      hitems.exists_blocks (.ofText path cs)
    let c : Chart := ⟨path, cs, blocks, d.finish, hmarked⟩
    have hwhole : (⟨.start path, q.scanner.location⟩ : Extent) = c.whole := by
      rw [hwithin.location, hend, Location.ofPosition_length]
      rfl
    refine ⟨c, rfl, rfl, ?_, ?_⟩
    · have hdrawing : d.drawing = before.defineAll c.generators := by
        rw [← hd, drawing_foldl_takeSheetItem, hblocks, List.map_map]
        rfl
      simp only [sheet_eq, hi, Except.ok.injEq] at hsheet
      rw [← hsheet, hdrawing, Chart.definitions, Drawing.defineAll_append, ← hwhole]
      rfl
    · have hall := definitions_sheet hi
      rw [hdefinitions] at hall
      rw [Chart.named_definitions, ← hwhole]
      exact hall

end Sheet

/-- What a file that can be read adds to a drawing, and what is said of it. -/
structure Adds (path text : String) (before after : Drawing) (events : List RunEvent) (c : Chart) :
    Prop where
  file : c.file = path
  text : c.text = text.toList
  drawing : after = before.defineAll c.definitions
  definitions : definitions events = c.definitions.map Figure.named
  relocated : (notices events).countP Notice.isRelocated + after.index.size =
    before.index.size + c.definitions.length
  unreadable : (notices events).countP Notice.isUnreadable = 0

theorem notices_file (timeStep : Float) (d : Drawing) (path text : String) :
    notices (file timeStep d path text).2 =
      .reading path :: withRelocations d.index (readSheet timeStep d path text.toList).2 := by
  simp only [file]
  rw [notices_append, ← List.singleton_append, notices_append, notices_map_note]
  exact List.append_nil _

theorem exists_adds {timeStep : Float} {path text : String} {before after : Drawing}
    (h : (file timeStep before path text).1 = .ok after) :
    ∃ c, Adds path text before after (file timeStep before path text).2 c := by
  obtain ⟨c, hfile, htext, hafter, hdefinitions⟩ := exists_chart h
  have hofFile := isOfFile_of_readSheet timeStep before path text.toList
  refine ⟨c, hfile, htext, hafter, ?_, ?_, ?_⟩
  · rw [definitions, notices_file, List.filterMap_cons_none rfl, filterMap_withRelocations,
      hdefinitions]
  · have hcount := countP_isRelocated_withRelocations before.index hofFile
    rw [hdefinitions, ← Drawing.index_defineAll, ← hafter, List.length_map] at hcount
    rw [notices_file, List.countP_cons_of_neg (by simp [Notice.isRelocated])]
    exact hcount
  · rw [notices_file, List.countP_cons_of_neg (by simp [Notice.isUnreadable]),
      countP_isUnreadable_withRelocations _ hofFile]

/-- The extent of a generator is its block, from behind the one brace to behind the other, and the
extent of the group is all of the file. So the extents of generators lie one behind the other and
apart, each within that of the group and none as far as it. -/
theorem drawText_extents {timeStep : Float} {file text : String} {d : Drawing}
    {events : List RunEvent} (h : drawText timeStep file text = (.ok d, events)) :
    ∃ (blocks : List (Generator × Nat × Nat)) (g : Group),
      let extents := blocks.map fun b ↦ Extent.ofPositions file text.toList b.2
      let whole : Extent := ⟨.start file, (Location.start file).advance text.toList⟩
      Marked text.toList 0 (blocks.map (·.2)) ∧
      d.figures = blocks.map (fun b ↦ .generator b.1) ++ [.group g] ∧
      definitions events = (blocks.map (·.1.name)).zip extents ++ [(g.name, whole)] ∧
      d.index = NameIndex.record ∅ (definitions events) ∧
      (∀ e ∈ extents, e.start < e.stop ∧ whole.Covers e ∧ ¬ e.Covers whole) ∧
      extents.Pairwise (fun a b ↦ a.stop < b.start ∧ ∀ p, ¬ (p ∈ a ∧ p ∈ b)) := by
  simp only [drawText, Prod.mk.injEq] at h
  obtain ⟨hd, rfl⟩ := h
  obtain ⟨c, hc⟩ := exists_adds hd
  have hdefinitions : definitions (.note .lexicon :: (Run.file timeStep .empty file text).2) =
      c.definitions.map Figure.named := hc.definitions
  obtain rfl := hc.file
  refine ⟨c.blocks, c.group, ?_⟩
  rw [← hc.text, hdefinitions]
  refine ⟨c.marked, ?_, ?_, ?_, ?_, ?_⟩
  · rw [hc.drawing, Drawing.figures_defineAll, c.map_definitions]
    rfl
  · rw [c.named_definitions, List.zip_map']
    rfl
  · rw [hc.drawing, Drawing.index_defineAll]
    rfl
  · intro e he
    obtain ⟨b, hb, rfl⟩ := List.mem_map.1 he
    exact c.covers hb
  · refine List.pairwise_map.2 (c.pairwise.imp fun hab ↦ ⟨hab, ?_⟩)
    rintro p ⟨ha, hb⟩
    exact Extent.not_mem_of_stop_lt hab ha hb

/-- Two blocks that touch each other, the second of which begins behind one line end and ends behind
another. -/
def touchingBlocks : String :=
  "name: G\n\x7bname: A type: rotation frequency: 2\x7d" ++
    "\x7b\nname: B type: rotation frequency: 3\n\x7d\n"

theorem drawText_extents_of_touching :
    ∃ d events, drawText 0.5 "t" touchingBlocks = (.ok d, events) ∧
      definitions events = [("A", ⟨⟨"t", 2, 1⟩, ⟨"t", 2, 37⟩⟩), ("B", ⟨⟨"t", 2, 38⟩, ⟨"t", 4, 1⟩⟩),
        ("G", ⟨⟨"t", 1, 1⟩, ⟨"t", 5, 0⟩⟩)] ∧
      ∃ (blocks : List (Generator × Nat × Nat)) (g : Group),
        Marked touchingBlocks.toList 0 (blocks.map (·.2)) ∧
        d.figures = blocks.map (fun b ↦ .generator b.1) ++ [.group g] := by
  have hrun : (drawText 0.5 "t" touchingBlocks).1.isOk = true ∧
      definitions (drawText 0.5 "t" touchingBlocks).2 = [("A", ⟨⟨"t", 2, 1⟩, ⟨"t", 2, 37⟩⟩),
        ("B", ⟨⟨"t", 2, 38⟩, ⟨"t", 4, 1⟩⟩), ("G", ⟨⟨"t", 1, 1⟩, ⟨"t", 5, 0⟩⟩)] := by
    decide +kernel
  rcases hd : drawText 0.5 "t" touchingBlocks with ⟨e | d, events⟩
  · rw [hd] at hrun
    cases hrun.1
  · rw [hd] at hrun
    obtain ⟨blocks, g, hmarked, hfigures, -⟩ := drawText_extents hd
    exact ⟨d, events, rfl, hrun.2, blocks, g, hmarked, hfigures⟩

end Run

end Harmonograph
