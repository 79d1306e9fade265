import Harmonograph.Reading.Sheet

/-!
The loops of reading, one turn at a time: what a loop does depends on the next symbol and on how the
item that it opens is read. What is read around the loops is said at once.
-/

namespace Harmonograph.Reading

/-- A turn of the loop over a comment. -/
theorem comment_eq : comment = next >>= fun s ↦
    if s = .commentEnd then pure ()
    else if s = .endOfInput then fail .unterminatedComment
    else comment := by
  funext p
  rw [comment]
  by_cases h : p.next.1 = .commentEnd
  · simp only [Bind.bind, next, if_pos h]
    rfl
  · simp only [Bind.bind, next, if_neg h]
    by_cases h' : p.next.1 = .endOfInput
    · exact (dif_pos h').trans (congrFun (if_pos h') p.next.2).symm
    · exact (dif_neg h').trans (congrFun (if_neg h') p.next.2).symm

section Block

variable {g : Generator} {p : Progress}

theorem blockItems_of_end (h : p.next.1 = .entityEnd) : blockItems g p = (.ok g, p.next.2) := by
  rw [blockItems]
  simp only [h, if_true]

theorem ne_of_blockItem? {s : Symbol} {m : Reading BlockItem} (h : blockItem? s = some m) :
    s ≠ .entityEnd ∧ s ≠ .endOfInput := by
  constructor
  · rintro rfl
    cases h
  · rintro rfl
    cases h

/-- What a turn of the loop over a block comes to, once the item that a symbol opens has been
read. -/
theorem blockItems_of_item {m : Reading BlockItem} (hm : blockItem? p.next.1 = some m) :
    blockItems g p = match m p.next.2 with
      | (.error e, q) => (.error e, q)
      | (.ok item, q) => blockItems (takeBlockItem g item) q := by
  obtain ⟨h, h'⟩ := ne_of_blockItem? hm
  rw [blockItems]
  simp only [if_neg h, dif_neg h']
  split
  case h_1 hn =>
    rw [hm] at hn
    cases hn
  case h_2 m' hm' =>
    obtain rfl : m = m' := Option.some.inj (hm.symm.trans hm')
    split
    case h_1 e q hq => rw [hq]
    case h_2 item q hq => rw [hq]

/-- A turn of the loop over a block. -/
theorem blockItems_eq (g : Generator) : blockItems g = next >>= fun s ↦
    if s = .entityEnd then pure g
    else if s = .endOfInput then fail .unexpectedEnd
    else match blockItem? s with
      | none => fail (.unexpectedSymbol s "an entity field, '/*' or '\x7d'")
      | some m => m >>= fun item ↦ blockItems (takeBlockItem g item) := by
  funext p
  by_cases h : p.next.1 = .entityEnd
  · rw [blockItems_of_end h]
    simp only [Bind.bind, next, if_pos h]
    rfl
  · simp only [Bind.bind, next, if_neg h]
    by_cases h' : p.next.1 = .endOfInput
    · rw [blockItems, if_pos h']
      simp only [if_neg h, dif_pos h']
    · rw [if_neg h']
      cases hm : blockItem? p.next.1 with
      | none =>
        rw [blockItems]
        simp only [if_neg h, dif_neg h']
        split
        case h_1 => rfl
        case h_2 m hm' =>
          rw [hm] at hm'
          cases hm'
      | some m =>
        rw [blockItems_of_item hm]
        dsimp only
        rcases m p.next.2 with ⟨e | item, q⟩
        · rfl
        · rfl

/-- What reading a block comes to, once its items have been read. -/
theorem block_eq (timeStep : Float) : block timeStep p = match blockItems .blank p with
    | (.error e, q) => (.error e, q)
    | (.ok g, q) =>
      let extent := ⟨p.scanner.location, q.scanner.location⟩
      if g.isValid then
        (.ok (g.withBuffer timeStep, extent),
          (q.say (.located g.name extent)).say (.generator (g.withBuffer timeStep)))
      else (.error ⟨.invalidGenerator g.name g.flaws, q.scanner.location⟩, q) := by
  simp only [block, Bind.bind, location]
  rcases blockItems .blank p with ⟨e | g, q⟩
  · rfl
  · cases hv : g.isValid
    · simp [fail, hv]
    · simp [say, Pure.pure, hv, Generator.withBuffer]

end Block

section Sheet

variable {timeStep : Float} {d : SheetDraft} {p : Progress}

theorem sheetItems_of_end (h : p.next.1 = .endOfInput) :
    sheetItems timeStep d p = (.ok d, p.next.2) := by
  rw [sheetItems]
  simp only [h, dif_pos]

theorem sheetItems_of_none (h : p.next.1 ≠ .endOfInput) (hm : sheetItem? timeStep p.next.1 = none) :
    sheetItems timeStep d p = fail (.unexpectedSymbol p.next.1
      "'name:', 'center:', 'color:', 'cycles:', '\x7b' or '/*'") p.next.2 := by
  rw [sheetItems]
  simp only [dif_neg h]
  split
  case h_1 => rfl
  case h_2 m hm' =>
    rw [hm] at hm'
    cases hm'

theorem ne_of_sheetItem? {s : Symbol} {m : Reading SheetItem} (h : sheetItem? timeStep s = some m) :
    s ≠ .endOfInput := by
  rintro rfl
  cases h

/-- What a turn of the loop over a file comes to, once the item that a symbol opens has been
read. -/
theorem sheetItems_of_item {m : Reading SheetItem} (hm : sheetItem? timeStep p.next.1 = some m) :
    sheetItems timeStep d p = match m p.next.2 with
      | (.error e, q) => (.error e, q)
      | (.ok item, q) => sheetItems timeStep (takeSheetItem d item) q := by
  rw [sheetItems]
  simp only [dif_neg (ne_of_sheetItem? hm)]
  split
  case h_1 hn =>
    rw [hm] at hn
    cases hn
  case h_2 m' hm' =>
    obtain rfl : m = m' := Option.some.inj (hm.symm.trans hm')
    split
    case h_1 e q hq => rw [hq]
    case h_2 item q hq => rw [hq]

/-- A turn of the loop over a file. -/
theorem sheetItems_eq (timeStep : Float) (d : SheetDraft) :
    sheetItems timeStep d = next >>= fun s ↦
      if s = .endOfInput then pure d
      else match sheetItem? timeStep s with
        | none => fail (.unexpectedSymbol s
          "'name:', 'center:', 'color:', 'cycles:', '\x7b' or '/*'")
        | some m => m >>= fun item ↦ sheetItems timeStep (takeSheetItem d item) := by
  funext p
  by_cases h : p.next.1 = .endOfInput
  · rw [sheetItems_of_end h]
    simp only [Bind.bind, next, if_pos h]
    rfl
  · simp only [Bind.bind, next, if_neg h]
    cases hm : sheetItem? timeStep p.next.1 with
    | none => rw [sheetItems_of_none h hm]
    | some m =>
      rw [sheetItems_of_item hm]
      dsimp only
      rcases m p.next.2 with ⟨e | item, q⟩
      · rfl
      · rfl

/-- What reading a file comes to, once its items have been read. -/
theorem sheet_eq (before : Drawing) :
    sheet timeStep before p = match sheetItems timeStep ⟨.blank, before⟩ p with
      | (.error e, q) => (.error e, q)
      | (.ok d, q) =>
        let extent := ⟨p.scanner.location, q.scanner.location⟩
        let q' := if d.group.cycles < 0 then q.say (.negativeCycles d.group.name d.group.cycles)
          else q
        (.ok (d.drawing.define (.group d.finish) extent),
          (q'.say (.located d.finish.name extent)).say (.group d.finish)) := by
  simp only [sheet, Bind.bind, location]
  rcases sheetItems timeStep ⟨.blank, before⟩ p with ⟨e | d, q⟩
  · rfl
  · by_cases hc : d.group.cycles < 0
    · simp [say, Pure.pure, hc, Progress.say]
    · simp [say, Pure.pure, hc, Progress.say]

end Sheet

end Harmonograph.Reading
