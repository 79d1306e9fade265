import Harmonograph.Proofs.Lexicon.Tracking
import Harmonograph.Reading.Sheet

/-!
What every step of reading keeps to: it reads on without a gap, it says nothing but what belongs to
it, and where it fails it names the place that it has come to.
-/

namespace Harmonograph

namespace Notice

/-- Said of a symbol that is read. -/
def isToken : Notice → Bool
  | token _ _ _ _ => true
  | _ => false

/-- Said while one file is read, whatever has been read before it. -/
def isOfFile : Notice → Bool
  | token _ _ _ _ | located _ _ | generator _ | negativeCycles _ _ | group _ => true
  | _ => false

theorem isOfFile_of_isToken {n : Notice} (h : n.isToken = true) : n.isOfFile = true := by
  cases n <;> first | rfl | cases h

/-- A name that is defined, and the extent of its definition. -/
def definition? : Notice → Option (String × Extent)
  | located name extent => some (name, extent)
  | _ => none

theorem definition?_of_isToken {n : Notice} (h : n.isToken = true) : n.definition? = none := by
  cases n <;> first | rfl | cases h

end Notice

/-- The definitions that have been read. -/
def Progress.definitions (p : Progress) : List (String × Extent) :=
  p.notices.toList.filterMap Notice.definition?

namespace Reading

variable {α β : Type} {P Q : Notice → Prop}

/-- What reading on from `p` comes to, if it says only what `P` allows. -/
structure Onward (P : Notice → Prop) (p : Progress) (r : Except Failure α × Progress) : Prop where
  reads : ∃ text, p.scanner.Reads text r.2.scanner
  notices : ∃ said, r.2.notices.toList = p.notices.toList ++ said ∧ ∀ n ∈ said, P n
  fails : ∀ e, r.1 = .error e → e.location = r.2.scanner.location

namespace Onward

variable {p q : Progress} {a : α} {e : Failure} {r : Except Failure β × Progress}

theorem refl (p : Progress) (a : α) : Onward P p (.ok a, p) where
  reads := ⟨[], .refl _⟩
  notices := ⟨[], by simp, by simp⟩
  fails := by simp

theorem trans (h : Onward P p ((.ok a, q) : Except Failure α × Progress)) (h' : Onward P q r) :
    Onward P p r := by
  obtain ⟨text, htext⟩ := h.reads
  obtain ⟨text', htext'⟩ := h'.reads
  obtain ⟨said, hsaid, hP⟩ := h.notices
  obtain ⟨said', hsaid', hP'⟩ := h'.notices
  refine ⟨⟨_, htext.trans htext'⟩, ⟨said ++ said', ?_, ?_⟩, h'.fails⟩
  · rw [hsaid', hsaid, List.append_assoc]
  · intro n hn
    exact (List.mem_append.1 hn).elim (hP n) (hP' n)

/-- A failure is the same whatever was to be read. -/
theorem error (h : Onward P p ((.error e, q) : Except Failure α × Progress)) :
    Onward P p ((.error e, q) : Except Failure β × Progress) :=
  ⟨h.reads, h.notices, fun e' he ↦ h.fails e' (congrArg _ (Except.error.inj he))⟩

theorem mono (h : Onward P p r) (hPQ : ∀ n, P n → Q n) : Onward Q p r := by
  obtain ⟨said, hsaid, hP⟩ := h.notices
  exact ⟨h.reads, ⟨said, hsaid, fun n hn ↦ hPQ n (hP n hn)⟩, h.fails⟩

theorem fail (p : Progress) (fault : Fault) : Onward P p ((fail fault : Reading α) p) :=
  ⟨⟨[], .refl _⟩, ⟨[], by simp [Reading.fail], by simp⟩, fun e he ↦ by cases he; rfl⟩

/-- No symbol is a definition. -/
theorem definitions_eq (h : Onward (·.isToken = true) p r) : r.2.definitions = p.definitions := by
  obtain ⟨said, hsaid, htoken⟩ := h.notices
  have hnone : said.filterMap Notice.definition? = [] :=
    List.filterMap_eq_nil_iff.2 fun n hn ↦ Notice.definition?_of_isToken (htoken n hn)
  rw [Progress.definitions, hsaid, List.filterMap_append, hnone, List.append_nil]
  rfl

end Onward

/-- The step keeps to the rules wherever it is taken. -/
def Regular (P : Notice → Prop) (m : Reading α) : Prop := ∀ p, Onward P p (m p)

namespace Regular

theorem pure (a : α) : Regular P (Pure.pure a : Reading α) := fun p ↦ .refl p a

theorem bind {m : Reading α} {f : α → Reading β} (hm : Regular P m) (hf : ∀ a, Regular P (f a)) :
    Regular P (m >>= f) := fun p ↦ by
  have h := hm p
  simp only [Bind.bind]
  split
  case h_1 a q hq =>
    rw [hq] at h
    exact h.trans (hf a q)
  case h_2 e q hq =>
    rw [hq] at h
    exact h.error

theorem map {m : Reading α} (f : α → β) (hm : Regular P m) : Regular P (f <$> m) :=
  hm.bind fun a ↦ .pure (f a)

theorem ite {c : Prop} [Decidable c] {m n : Reading α} (hm : Regular P m) (hn : Regular P n) :
    Regular P (if c then m else n) := by
  split
  · exact hm
  · exact hn

theorem mono {m : Reading α} (hm : Regular P m) (hPQ : ∀ n, P n → Q n) : Regular Q m :=
  fun p ↦ (hm p).mono hPQ

end Regular

theorem regular_fail (fault : Fault) : Regular P (fail fault : Reading α) := fun p ↦ .fail p fault

theorem regular_say {n : Notice} (hn : P n) : Regular P (say n) := fun _ ↦
  ⟨⟨[], .refl _⟩, ⟨[n], by simp [say, Progress.say], by simpa using hn⟩, fun e he ↦ by cases he⟩

theorem regular_location : Regular P location := fun p ↦ .refl p _

theorem regular_peek? : Regular P peek? := fun p ↦ .refl p _

theorem onward_next (hP : ∀ n, n.isToken = true → P n) (p : Progress) :
    Onward P p ((.ok p.next.1, p.next.2) : Except Failure Symbol × Progress) where
  reads := ⟨_, p.scanner.reads_next⟩
  notices := by
    refine ⟨[.token p.scanner.next.2.state p.scanner.next.1.text p.next.1
      p.scanner.next.2.location], ?_, ?_⟩
    · simp [Progress.next, Progress.say]
    · intro n hn
      rw [List.mem_singleton.1 hn]
      exact hP _ rfl
  fails := by simp

theorem regular_scan {read : Scanner → List Char × Scanner}
    (h : ∀ s : Scanner, ∃ text, s.Reads text (read s).2) : Regular P (scan read) := fun p ↦
  ⟨h p.scanner, ⟨[], by simp [scan], by simp⟩, fun e he ↦ by cases he⟩

section Values

theorem regular_word (p : Char → Bool) : Regular P (scan (·.word p)) :=
  regular_scan fun s ↦ ⟨_, s.reads_word p⟩

theorem regular_found : Regular P found :=
  regular_peek?.bind fun c ↦ by
    cases c
    · exact .pure _
    · exact .pure _

theorem regular_identifier (field : Symbol) : Regular P (identifier field) :=
  (regular_word _).bind fun _ ↦ .ite (regular_found.bind fun _ ↦ regular_fail _) (.pure _)

theorem regular_number : Regular P number :=
  (regular_word _).bind fun cs ↦ .ite (regular_found.bind fun _ ↦ regular_fail _) (by
    cases readNumber? cs
    · exact regular_fail _
    · exact .pure _)

theorem regular_motion : Regular P motion :=
  (regular_word _).bind fun cs ↦ by
    cases Motion.ofName? cs
    · exact regular_fail _
    · exact .pure _

variable (hP : ∀ n, n.isToken = true → P n)
include hP

theorem regular_separator : Regular P separator :=
  Regular.bind (onward_next hP) fun _ ↦ .ite (.pure _) (regular_fail _)

theorem regular_point : Regular P point :=
  regular_number.bind fun _ ↦ (regular_separator hP).bind fun _ ↦ regular_number.bind fun _ ↦
    .pure _

theorem regular_colour : Regular P colour :=
  regular_number.bind fun _ ↦ (regular_separator hP).bind fun _ ↦
  regular_number.bind fun _ ↦ (regular_separator hP).bind fun _ ↦
  regular_number.bind fun _ ↦ (regular_separator hP).bind fun _ ↦ regular_number.bind fun _ ↦
    .pure _

theorem regular_comment : Regular P comment := fun p ↦ by
  fun_induction comment p with
  | case1 p r h => exact (onward_next hP p).trans (.refl _ ())
  | case2 p r h h' => exact (onward_next hP p).trans (.fail _ _)
  | case3 p r h h' ih => exact (onward_next hP p).trans ih

end Values

section Blocks

variable (hP : ∀ n, n.isToken = true → P n)
include hP

theorem regular_blockItem {s : Symbol} {m : Reading BlockItem} (h : blockItem? s = some m) :
    Regular P m := by
  cases s <;> simp only [blockItem?, Option.some.injEq, reduceCtorEq] at h <;> subst h
  case amplitude => exact (regular_number.map _).map _
  case center => exact ((regular_point hP).map _).map _
  case color => exact ((regular_colour hP).map _).map _
  case direction => exact ((regular_point hP).map _).map _
  case frequency => exact (regular_number.map _).map _
  case name => exact ((regular_identifier _).map _).map _
  case startPhase => exact (regular_number.map _).map _
  case type => exact (regular_motion.map _).map _
  case commentBegin => exact (regular_comment hP).map _

theorem regular_blockItems (g : Generator) : Regular P (blockItems g) := fun p ↦ by
  fun_induction blockItems g p with
  | case1 g p r h => exact (onward_next hP p).trans (.refl _ g)
  | case2 g p r h h' => exact (onward_next hP p).trans (.fail _ _)
  | case3 g p r h h' hm => exact (onward_next hP p).trans (.fail _ _)
  | case4 g p r h h' m hm e q hq =>
    have hitem := regular_blockItem hP hm r.2
    rw [hq] at hitem
    exact (onward_next hP p).trans hitem.error
  | case5 g p r h h' m hm item q hq ih =>
    have hitem := regular_blockItem hP hm r.2
    rw [hq] at hitem
    exact ((onward_next hP p).trans hitem).trans ih

end Blocks

section Sheets

variable (timeStep : Float)

theorem regular_block : Regular (·.isOfFile = true) (block timeStep) :=
  regular_location.bind fun _ ↦
    (regular_blockItems (fun _ ↦ Notice.isOfFile_of_isToken) _).bind fun _ ↦
      .ite (regular_fail _) (regular_location.bind fun _ ↦
        (regular_say (P := (·.isOfFile = true)) rfl).bind fun _ ↦
          (regular_say (P := (·.isOfFile = true)) rfl).bind fun _ ↦ .pure _)

/-- The definition that an item of a file is. -/
def SheetItem.definition? : SheetItem → Option (Generator × Extent)
  | .block g extent => some (g, extent)
  | _ => none

/-- An item of a file is a block, or it is read as the items of blocks are. -/
theorem sheetItem_cases {s : Symbol} {m : Reading SheetItem} (h : sheetItem? timeStep s = some m) :
    s = .entityBegin ∧ m = (fun g ↦ .block g.1 g.2) <$> block timeStep ∨
      ∃ (α : Type) (f : α → SheetItem) (m' : Reading α), m = f <$> m' ∧
        Regular (·.isToken = true) m' ∧ ∀ a, (f a).definition? = none := by
  cases s <;> simp only [sheetItem?, Option.some.injEq, reduceCtorEq] at h <;> subst h
  case entityBegin => exact .inl ⟨rfl, rfl⟩
  case center =>
    exact .inr ⟨_, _, _, rfl, (regular_point fun _ hn ↦ hn).map _, fun _ ↦ rfl⟩
  case color =>
    exact .inr ⟨_, _, _, rfl, (regular_colour fun _ hn ↦ hn).map _, fun _ ↦ rfl⟩
  case cycles => exact .inr ⟨_, _, _, rfl, regular_number.map _, fun _ ↦ rfl⟩
  case name => exact .inr ⟨_, _, _, rfl, (regular_identifier _).map _, fun _ ↦ rfl⟩
  case commentBegin => exact .inr ⟨_, _, _, rfl, regular_comment fun _ hn ↦ hn, fun _ ↦ rfl⟩

theorem regular_sheetItem {s : Symbol} {m : Reading SheetItem}
    (h : sheetItem? timeStep s = some m) :
    Regular (·.isOfFile = true) m := by
  rcases sheetItem_cases timeStep h with ⟨-, rfl⟩ | ⟨α, f, m', rfl, hm', -⟩
  · exact (regular_block timeStep).map _
  · exact (hm'.mono fun _ ↦ Notice.isOfFile_of_isToken).map f

theorem regular_sheetItems (d : SheetDraft) : Regular (·.isOfFile = true) (sheetItems timeStep d) :=
  fun p ↦ by
  have hnext := onward_next (P := (·.isOfFile = true)) (fun _ ↦ Notice.isOfFile_of_isToken)
  fun_induction sheetItems timeStep d p with
  | case1 d p r h => exact (hnext p).trans (.refl _ d)
  | case2 d p r h hm => exact (hnext p).trans (.fail _ _)
  | case3 d p r h m hm e q hq =>
    have hitem := regular_sheetItem timeStep hm r.2
    rw [hq] at hitem
    exact (hnext p).trans hitem.error
  | case4 d p r h m hm item q hq ih =>
    have hitem := regular_sheetItem timeStep hm r.2
    rw [hq] at hitem
    exact ((hnext p).trans hitem).trans ih

theorem regular_sheet (d : Drawing) : Regular (·.isOfFile = true) (sheet timeStep d) :=
  regular_location.bind fun _ ↦ (regular_sheetItems timeStep _).bind fun s ↦ by
    have hsay : ∀ n : Notice, n.isOfFile = true → Regular (·.isOfFile = true) (say n) :=
      fun n hn ↦ regular_say hn
    refine Regular.ite ((hsay _ rfl).bind fun _ ↦ ?_) ?_ <;>
      exact regular_location.bind fun _ ↦ (hsay _ rfl).bind fun _ ↦ (hsay _ rfl).bind fun _ ↦
        .pure _

end Sheets

end Reading

end Harmonograph
