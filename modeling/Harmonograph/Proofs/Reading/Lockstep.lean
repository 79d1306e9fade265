import Harmonograph.Proofs.Figure.Renaming
import Harmonograph.Proofs.Reading.Loops
import Harmonograph.Proofs.Reading.Steps

/-!
Two files that are read side by side. If their scanners find the same symbols, and words that mean
the same, for as long as the files have something in common, then so far the files come to the same
figures or to the same failure. What is the same is a matter of how texts and places are looked at.
-/

namespace Harmonograph

open Reading

/-- The fault with the words that it quotes seen through `f`. -/
def Fault.requote (f : String → String) : Fault → Fault
  | .unknownMotion s => .unknownMotion (f s)
  | .invalidNumber s => .invalidNumber (f s)
  | .invalidGenerator s flaws => .invalidGenerator (f s) flaws
  | x => x

theorem Fault.requote_id (x : Fault) : x.requote id = x := by
  cases x <;> rfl

theorem Progress.definitions_say (p : Progress) (n : Notice) :
    (p.say n).definitions = p.definitions ++ n.definition?.toList := by
  rw [definitions, say, Array.toList_push, List.filterMap_append]
  cases h : n.definition? <;> simp [h, definitions]

/-- Scanners find the same symbol if they get to the same state of the lexicon, and have something
to read or not. -/
theorem Scanner.symbol_next_eq {s t : Scanner} (hstate : s.next.2.state = t.next.2.state)
    (hempty : s.unread.rest.isEmpty = t.unread.rest.isEmpty) :
    s.next.1.symbol = t.next.1.symbol := by
  have htext : ∀ s : Scanner, s.next.1.text.isEmpty = s.unread.rest.isEmpty := by
    intro s
    simp only [next]
    cases s.unread.rest with
    | nil => rfl
    | cons c cs => exact List.isEmpty_eq_false_iff.2 (lexicon.text_read_ne_nil s.state c cs)
  have hsymbol : ∀ s : Scanner, s.next.1.symbol = if s.unread.rest.isEmpty then .endOfInput
      else (lexicon.kind? s.next.2.state).getD .endOfInput := by
    intro s
    rw [← htext]
    rfl
  rw [hsymbol, hsymbol, hstate, hempty]

/-- An empty word ends where the blanks in front of it end. -/
theorem Scanner.peek?_word {s : Scanner} {p : Char → Bool} (h : (s.word p).1 = []) :
    (s.word p).2.unread.peek? = (s.unread.rest.dropWhile isBlank).head? := by
  have happ := (s.takeWhile isBlank).2.unread.takeWhile_append_rest p
  have hword : ((s.takeWhile isBlank).2.unread.takeWhile p).1 = [] := h
  rw [hword, List.nil_append] at happ
  exact congrArg List.head? happ

structure Lockstep where
  /-- The two scanners are at places that correspond. -/
  Abreast : Scanner → Scanner → Prop
  /-- The first scanner is past what the two files have in common. -/
  Past : Scanner → Prop
  /-- What counts of a word. -/
  word : String → String
  /-- What counts of a place. -/
  place : Location → Location
  past_of_reads : ∀ {s t : Scanner} {cs : List Char}, Past s → s.Reads cs t → Past t
  place_eq : ∀ {s t : Scanner}, Abreast s t → place s.location = place t.location
  next_abreast : ∀ {s t : Scanner}, Abreast s t → Past s.next.2 ∨
    s.next.1.symbol = t.next.1.symbol ∧ Abreast s.next.2 t.next.2
  word_abreast : ∀ {s t : Scanner} {p : Char → Bool}, p = isAlphanumeric ∨
    p = Scanner.isNumberChar →
    Abreast s t → Past (s.word p).2 ∨
      word (.ofList (s.word p).1) = word (.ofList (t.word p).1) ∧
      Abreast (s.word p).2 (t.word p).2 ∧
        ((s.word p).1 = [] → (s.word p).2.unread.peek? = (t.word p).2.unread.peek?)
  word_means : ∀ {cs ds : List Char}, word (.ofList cs) = word (.ofList ds) →
    cs.isEmpty = ds.isEmpty ∧ readNumber? cs = readNumber? ds ∧
    Motion.ofName? cs = Motion.ofName? ds

namespace Lockstep

theorem word_means_id {cs ds : List Char} (h : id (String.ofList cs) = id (String.ofList ds)) :
    cs.isEmpty = ds.isEmpty ∧ readNumber? cs = readNumber? ds ∧
    Motion.ofName? cs = Motion.ofName? ds := by
  obtain rfl : cs = ds := String.ofList_injective h
  exact ⟨rfl, rfl, rfl⟩

variable (k : Lockstep) {α β γ δ : Type}

def extent (e : Extent) : Extent := ⟨k.place e.start, k.place e.stop⟩

def definition (d : String × Extent) : String × Extent := (k.word d.1, k.extent d.2)

def failure (e : Failure) : Failure := ⟨e.fault.requote k.word, k.place e.location⟩

/-- Readings have come to places that correspond, upon the same definitions. -/
structure Along (p q : Progress) : Prop where
  abreast : k.Abreast p.scanner q.scanner
  definitions : p.definitions.map k.definition = q.definitions.map k.definition

/-- Two steps end alike, with values that look the same through `view` or with the same failure,
unless the first is past what the files have in common. -/
inductive Ends (view : α → γ) :
    Except Failure α × Progress → Except Failure α × Progress → Prop
  | past {r r' : Except Failure α × Progress} : k.Past r.2.scanner → Ends view r r'
  | ok {a b : α} {p q : Progress} : view a = view b → k.Along p q → Ends view (.ok a, p) (.ok b, q)
  | error {e f : Failure} {p q : Progress} :
      k.failure e = k.failure f → Ends view (.error e, p) (.error f, q)

theorem Along.extent_eq {k : Lockstep} {p q p' q' : Progress} (h : k.Along p q)
    (h' : k.Along p' q') :
    k.extent ⟨p.scanner.location, p'.scanner.location⟩ =
      k.extent ⟨q.scanner.location, q'.scanner.location⟩ := by
  rw [extent, extent, k.place_eq h.abreast, k.place_eq h'.abreast]

theorem Along.say {k : Lockstep} {p q : Progress} {m n : Notice} (h : k.Along p q)
    (hmn : m.definition?.map k.definition = n.definition?.map k.definition) :
    k.Along (p.say m) (q.say n) where
  abreast := h.abreast
  definitions := by
    have htoList : ∀ n : Notice, n.definition?.toList.map k.definition =
        (n.definition?.map k.definition).toList := fun n ↦ by cases n.definition? <;> rfl
    rw [Progress.definitions_say, Progress.definitions_say, List.map_append, List.map_append,
      h.definitions, htoList, htoList, hmn]

variable {k} {view : α → γ} {view' : β → δ} {p q : Progress} {P : Notice → Prop}

theorem past_of_regular {m : Reading α} (hm : Regular P m) {p : Progress} (h : k.Past p.scanner) :
    k.Past (m p).2.scanner := by
  obtain ⟨text, htext⟩ := (hm p).reads
  exact k.past_of_reads h htext

namespace Ends

theorem bind {m m' : Reading α} {f f' : α → Reading β} (h : k.Ends view (m p) (m' q))
    (hf : ∀ a p, k.Past p.scanner → k.Past (f a p).2.scanner)
    (hend : ∀ a b p' q', m p = (.ok a, p') → view a = view b → k.Along p' q' →
      k.Ends view' (f a p') (f' b q')) :
    k.Ends view' ((m >>= f) p) ((m' >>= f') q) := by
  simp only [Bind.bind]
  generalize hr : m p = r at h
  generalize m' q = r' at h
  cases h with
  | past hpast =>
    rcases r with ⟨e | a, p'⟩
    · exact .past hpast
    · exact .past (hf a p' hpast)
  | ok hab hpq => exact hend _ _ _ _ hr hab hpq
  | error he => exact .error he

theorem fail {fault fault' : Fault} (hfault : fault.requote k.word = fault'.requote k.word)
    (hpq : k.Along p q) :
    k.Ends view ((fail fault : Reading α) p) ((fail fault' : Reading α) q) := by
  refine .error ?_
  rw [failure, failure, hfault, k.place_eq hpq.abreast]

theorem ite {c : Prop} [Decidable c] {m m' n n' : Reading α}
    (hthen : c → k.Ends view (m p) (m' q)) (helse : ¬ c → k.Ends view (n p) (n' q)) :
    k.Ends view ((if c then m else n) p) ((if c then m' else n') q) := by
  by_cases hc : c
  · simp only [if_pos hc]
    exact hthen hc
  · simp only [if_neg hc]
    exact helse hc

end Ends

/-- The step ends alike wherever it is taken side by side. -/
structure Keeps (k : Lockstep) (view : α → γ) (m : Reading α) : Prop where
  past : ∀ p, k.Past p.scanner → k.Past (m p).2.scanner
  ends : ∀ p q, k.Along p q → k.Ends view (m p) (m q)

namespace Keeps

theorem pure (a : α) : k.Keeps view (Pure.pure a) := ⟨fun _ h ↦ h, fun _ _ hpq ↦ .ok rfl hpq⟩

theorem fail (fault : Fault) : k.Keeps view (fail fault : Reading α) :=
  ⟨fun _ h ↦ h, fun _ _ hpq ↦ .fail rfl hpq⟩

theorem bind {m : Reading α} {f : α → Reading β} (hm : k.Keeps id m)
    (hf : ∀ a, k.Keeps view' (f a)) :
    k.Keeps view' (m >>= f) where
  past p h := by
    have hpast := hm.past p h
    simp only [Bind.bind]
    generalize m p = r at hpast
    rcases r with ⟨e | a, p'⟩
    · exact hpast
    · exact (hf a).past p' hpast
  ends p q hpq := by
    apply (hm.ends p q hpq).bind fun a ↦ (hf a).past
    intro a b p' q' _ hab hpq'
    obtain rfl : a = b := hab
    exact (hf a).ends p' q' hpq'

theorem map {m : Reading α} {f : α → β} (hm : k.Keeps view m)
    (hf : ∀ a b, view a = view b → view' (f a) = view' (f b)) : k.Keeps view' (f <$> m) where
  past p h := by
    have hpast := hm.past p h
    simp only [Functor.map]
    generalize m p = r at hpast
    rcases r with ⟨e | a, p'⟩
    · exact hpast
    · exact hpast
  ends p q hpq := by
    apply (hm.ends p q hpq).bind fun a p h ↦ h
    intro a b p' q' _ hab hpq'
    exact .ok (hf a b hab) hpq'

end Keeps

theorem keeps_next : k.Keeps id Reading.next where
  past p h := k.past_of_reads h p.scanner.reads_next
  ends p q hpq := by
    rcases k.next_abreast hpq.abreast with hpast | ⟨hsymbol, habreast⟩
    · exact .past hpast
    · refine .ok hsymbol ⟨habreast, ?_⟩
      have htoken : ∀ p : Progress, p.next.2.definitions = p.definitions := fun p ↦
        (onward_next (P := (·.isToken = true)) (fun _ hn ↦ hn) p).definitions_eq
      rw [htoken, htoken, hpq.definitions]

/-- Side by side, a step that goes by the next symbol goes by the same one. -/
theorem ends_next_bind {f f' : Symbol → Reading α} (hpq : k.Along p q) (hf : ∀ s, Regular P (f s))
    (hend : ∀ q', k.Along p.next.2 q' → k.Ends view (f p.next.1 p.next.2) (f' p.next.1 q')) :
    k.Ends view ((Reading.next >>= f) p) ((Reading.next >>= f') q) := by
  apply (keeps_next.ends p q hpq).bind fun s p' ↦ past_of_regular (hf s)
  intro s s' p' q' hs hss hpq'
  obtain rfl : s = s' := hss
  obtain ⟨rfl, rfl⟩ : p.next.1 = s ∧ p.next.2 = p' := by simpa [Reading.next] using hs
  exact hend q' hpq'

section Values

/-- Words that are read side by side mean the same, and behind an empty one the same character is
next. -/
theorem ends_word {c : Char → Bool} (hc : c = isAlphanumeric ∨ c = Scanner.isNumberChar)
    {f : List Char → Reading α} (hpq : k.Along p q) (hf : ∀ cs, Regular P (f cs))
    (hend : ∀ cs ds p' q', k.word (.ofList cs) = k.word (.ofList ds) → k.Along p' q' →
      (cs = [] → p'.scanner.unread.peek? = q'.scanner.unread.peek?) →
        k.Ends view (f cs p') (f ds q')) :
    k.Ends view ((scan (·.word c) >>= f) p) ((scan (·.word c) >>= f) q) := by
  rcases k.word_abreast hc hpq.abreast with hpast | ⟨hword, habreast, hpeek⟩
  · have hregular := hf (p.scanner.word c).1
    exact .past (past_of_regular hregular (p := { p with scanner := (p.scanner.word c).2 }) hpast)
  · exact hend _ _ { p with scanner := _ } { q with scanner := _ } hword ⟨habreast, hpq.definitions⟩
      hpeek

/-- A fault about the next character. -/
theorem ends_found {fault : String → Fault} (hpq : k.Along p q)
    (hpeek : p.scanner.unread.peek? = q.scanner.unread.peek?) :
    k.Ends view ((found >>= fun s ↦ (fail (fault s) : Reading α)) p)
      ((found >>= fun s ↦ (fail (fault s) : Reading α)) q) := by
  have hfound : ∃ text, found p = (.ok text, p) ∧ found q = (.ok text, q) := by
    simp only [found, Bind.bind, peek?, ← hpeek]
    cases p.scanner.unread.peek?
    · exact ⟨_, rfl, rfl⟩
    · exact ⟨_, rfl, rfl⟩
  obtain ⟨text, hp, hq⟩ := hfound
  simp only [Bind.bind, hp, hq]
  exact .fail rfl hpq

theorem keeps_identifier (field : Symbol) : k.Keeps k.word (identifier field) where
  past p := past_of_regular (P := fun _ ↦ True) (regular_identifier field)
  ends p q hpq := by
    apply ends_word (P := fun _ ↦ True) (.inl rfl) hpq
    · intro cs
      exact .ite (regular_found.bind fun _ ↦ regular_fail _) (.pure _)
    · intro cs ds p' q' hword hpq' hpeek
      obtain ⟨hempty, -, -⟩ := k.word_means hword
      rw [hempty]
      split
      case isTrue hd => exact ends_found hpq' (hpeek (List.isEmpty_iff.1 (hempty.trans hd)))
      case isFalse => exact .ok hword hpq'

theorem keeps_number : k.Keeps id number where
  past p := past_of_regular (P := fun _ ↦ True) regular_number
  ends p q hpq := by
    apply ends_word (P := fun _ ↦ True) (.inr rfl) hpq
    · intro cs
      apply Regular.ite (regular_found.bind fun _ ↦ regular_fail _)
      cases readNumber? cs
      · exact regular_fail _
      · exact .pure _
    · intro cs ds p' q' hword hpq' hpeek
      obtain ⟨hempty, hnumber, -⟩ := k.word_means hword
      rw [hempty, hnumber]
      split
      case isTrue hd => exact ends_found hpq' (hpeek (List.isEmpty_iff.1 (hempty.trans hd)))
      case isFalse =>
        cases readNumber? ds with
        | none => exact .fail (congrArg Fault.invalidNumber hword) hpq'
        | some x => exact .ok rfl hpq'

theorem keeps_motion : k.Keeps id motion where
  past p := past_of_regular (P := fun _ ↦ True) regular_motion
  ends p q hpq := by
    apply ends_word (P := fun _ ↦ True) (.inl rfl) hpq
    · intro cs
      cases Motion.ofName? cs
      · exact regular_fail _
      · exact .pure _
    · intro cs ds p' q' hword hpq' _
      obtain ⟨-, -, hmotion⟩ := k.word_means hword
      rw [hmotion]
      cases Motion.ofName? ds with
      | none => exact .fail (congrArg Fault.unknownMotion hword) hpq'
      | some m => exact .ok rfl hpq'

theorem keeps_separator : k.Keeps id separator := by
  apply keeps_next.bind
  intro s
  split
  · exact .pure ()
  · exact .fail _

theorem keeps_point : k.Keeps id point :=
  keeps_number.bind fun _ ↦ keeps_separator.bind fun _ ↦ keeps_number.bind fun _ ↦ .pure _

theorem keeps_colour : k.Keeps id colour :=
  keeps_number.bind fun _ ↦ keeps_separator.bind fun _ ↦
  keeps_number.bind fun _ ↦ keeps_separator.bind fun _ ↦
  keeps_number.bind fun _ ↦ keeps_separator.bind fun _ ↦ keeps_number.bind fun _ ↦ .pure _

end Values

/-- A comment is passed over up to the symbol that ends it. -/
theorem ends_comment (hpq : k.Along p q) : k.Ends id (comment p) (comment q) := by
  -- what is left of the first file decreases; the second one may have more or less of it
  induction h : p.remaining using Nat.strongRecOn generalizing p q with
  | ind n ih =>
    rw [comment_eq]
    apply ends_next_bind (P := fun _ ↦ True) hpq
    · intro s
      exact .ite (.pure _) (.ite (regular_fail _) (regular_comment fun _ _ ↦ trivial))
    · intro q' hpq'
      apply Ends.ite
      · exact fun _ ↦ .ok rfl hpq'
      · intro _
        apply Ends.ite
        · exact fun _ ↦ .fail rfl hpq'
        · intro hend
          exact ih _ (h ▸ p.remaining_next_lt hend) hpq' rfl

theorem keeps_comment : k.Keeps id comment where
  past _ := past_of_regular (P := fun _ ↦ True) (regular_comment fun _ _ ↦ trivial)
  ends _ _ := ends_comment

section Blocks

/-- An item of a block with its name seen through `f`. -/
def BlockItem.rename (f : String → String) : BlockItem → BlockItem
  | .field x => .field (x.rename f)
  | .comment => .comment

theorem keeps_blockItem {s : Symbol} {m : Reading BlockItem} (h : blockItem? s = some m) :
    k.Keeps (BlockItem.rename k.word) m := by
  have hfield : ∀ {α : Type} {m : Reading α} (f : α → GeneratorField), k.Keeps id m →
      k.Keeps (BlockItem.rename k.word) (.field <$> f <$> m) := by
    intro α m f hm
    have hvalue : k.Keeps id (f <$> m) := hm.map fun a b hab ↦ congrArg f hab
    exact hvalue.map fun a b hab ↦
      congrArg (fun x : GeneratorField ↦ BlockItem.field (x.rename k.word)) hab
  cases s <;> simp only [blockItem?, Option.some.injEq, reduceCtorEq] at h <;> subst h
  case amplitude => exact hfield _ keeps_number
  case center => exact hfield _ keeps_point
  case color => exact hfield _ keeps_colour
  case direction => exact hfield _ keeps_point
  case frequency => exact hfield _ keeps_number
  case startPhase => exact hfield _ keeps_number
  case type => exact hfield _ keeps_motion
  case name =>
    have hname : k.Keeps (GeneratorField.rename k.word) (.name <$> identifier .name) :=
      (keeps_identifier _).map fun a b hab ↦ congrArg GeneratorField.name hab
    exact hname.map fun a b hab ↦ congrArg BlockItem.field hab
  case commentBegin => exact keeps_comment.map fun _ _ _ ↦ rfl

theorem rename_takeBlockItem {f : String → String} {g g' : Generator} {x y : BlockItem}
    (hg : g.rename f = g'.rename f) (hxy : BlockItem.rename f x = BlockItem.rename f y) :
    (takeBlockItem g x).rename f = (takeBlockItem g' y).rename f := by
  cases x <;> cases y <;> simp only [BlockItem.rename, reduceCtorEq, BlockItem.field.injEq] at hxy
  case comment.comment => exact hg
  case field.field x y =>
    simp only [takeBlockItem, Generator.rename_assign, hg, hxy]

theorem ends_blockItems {g g' : Generator} (hg : g.rename k.word = g'.rename k.word)
    (hpq : k.Along p q) :
    k.Ends (Generator.rename k.word) (blockItems g p) (blockItems g' q) := by
  induction h : p.remaining using Nat.strongRecOn generalizing p q g g' with
  | ind n ih =>
    rw [blockItems_eq, blockItems_eq]
    apply ends_next_bind (P := fun _ ↦ True) hpq
    · intro s
      apply Regular.ite (.pure _)
      apply Regular.ite (regular_fail _)
      cases hm : blockItem? s with
      | none => exact regular_fail _
      | some m =>
        exact (regular_blockItem (fun _ _ ↦ trivial) hm).bind fun _ ↦
          regular_blockItems (fun _ _ ↦ trivial) _
    · intro q' hpq'
      apply Ends.ite
      · exact fun _ ↦ .ok hg hpq'
      · intro _
        apply Ends.ite
        · exact fun _ ↦ .fail rfl hpq'
        · intro hend
          cases hm : blockItem? p.next.1 with
          | none => exact .fail rfl hpq'
          | some m =>
            apply ((keeps_blockItem hm).ends _ _ hpq').bind
            · intro item p''
              exact past_of_regular (P := fun _ ↦ True) (regular_blockItems (fun _ _ ↦ trivial) _)
            · intro x y p'' q'' hx hxy hpq''
              have hlt := p.remaining_next_lt hend
              have hle := advances_blockItem hm p.next.2
              rw [hx] at hle
              exact ih _ (h ▸ Nat.lt_of_le_of_lt hle hlt) (rename_takeBlockItem hg hxy) hpq'' rfl

theorem keeps_block (timeStep : Float) :
    k.Keeps (fun x ↦ (x.1.rename k.word, k.extent x.2)) (block timeStep) where
  past _ := past_of_regular (regular_block timeStep)
  ends p q hpq := by
    have h := ends_blockItems (g := .blank) rfl hpq
    rw [block_eq, block_eq]
    generalize blockItems .blank p = r at h ⊢
    generalize blockItems .blank q = r' at h ⊢
    cases h with
    | @past r r' hpast =>
      -- from here on nothing is said of the second file
      rcases r with ⟨e | g, p'⟩
      · exact .past hpast
      · apply Ends.past
        dsimp only
        split
        · exact hpast
        · exact hpast
    | @ok g g' p' q' hg hpq' =>
      have hvalid : g.isValid = g'.isValid := by
        rw [← g.isValid_rename k.word, hg, Generator.isValid_rename]
      have hflaws : g.flaws = g'.flaws := by
        rw [← g.flaws_rename k.word, hg, Generator.flaws_rename]
      have hname : k.word g.name = k.word g'.name := congrArg Generator.name hg
      have hextent := hpq.extent_eq hpq'
      dsimp only
      rw [hvalid]
      split
      case isTrue =>
        apply Ends.ok
        · rw [Generator.rename_withBuffer, Generator.rename_withBuffer, hg, hextent]
        · have hlocated : (Notice.definition? (.located g.name _)).map k.definition =
              (Notice.definition? (.located g'.name _)).map k.definition :=
            congrArg some (Prod.ext hname hextent)
          have hpq'' := hpq'.say hlocated
          exact hpq''.say (m := .generator _) (n := .generator _) rfl
      case isFalse =>
        apply Ends.error
        rw [failure, failure, k.place_eq hpq'.abreast, hflaws]
        simp only [Fault.requote, hname]
    | error he => exact .error he

end Blocks

section Sheets

variable {timeStep : Float}

/-- What counts of an item of a file. -/
def sheetItem (k : Lockstep) : SheetItem → SheetItem
  | .field x => .field (x.rename k.word)
  | .block g extent => .block (g.rename k.word) (k.extent extent)
  | .comment => .comment

theorem keeps_sheetItem {s : Symbol} {m : Reading SheetItem} (h : sheetItem? timeStep s = some m) :
    k.Keeps k.sheetItem m := by
  have hfield : ∀ {α : Type} {m : Reading α} (f : α → GroupField), k.Keeps id m →
      k.Keeps k.sheetItem (.field <$> f <$> m) := by
    intro α m f hm
    have hvalue : k.Keeps id (f <$> m) := hm.map fun a b hab ↦ congrArg f hab
    exact hvalue.map fun a b hab ↦
      congrArg (fun x : GroupField ↦ SheetItem.field (x.rename k.word)) hab
  cases s <;> simp only [sheetItem?, Option.some.injEq, reduceCtorEq] at h <;> subst h
  case center => exact hfield _ keeps_point
  case color => exact hfield _ keeps_colour
  case cycles => exact hfield _ keeps_number
  case name =>
    have hname : k.Keeps (GroupField.rename k.word) (.name <$> identifier .name) :=
      (keeps_identifier _).map fun a b hab ↦ congrArg GroupField.name hab
    exact hname.map fun a b hab ↦ congrArg SheetItem.field hab
  case commentBegin => exact keeps_comment.map fun _ _ _ ↦ rfl
  case entityBegin =>
    refine (keeps_block timeStep).map fun a b hab ↦ ?_
    exact congrArg (fun x : Generator × Extent ↦ SheetItem.block x.1 x.2) hab

theorem shown_takeSheetItem {d e : SheetDraft} {x y : SheetItem}
    (hde : d.shown k.word = e.shown k.word) (hxy : k.sheetItem x = k.sheetItem y) :
    (takeSheetItem d x).shown k.word = (takeSheetItem e y).shown k.word := by
  cases x <;> cases y <;>
    simp only [sheetItem, reduceCtorEq, SheetItem.field.injEq, SheetItem.block.injEq] at hxy
  case comment.comment => exact hde
  case field.field => exact SheetDraft.shown_assign hde hxy
  case block.block => exact SheetDraft.shown_addGenerator hde hxy.1 _ _

theorem ends_sheetItems (timeStep : Float) {d e : SheetDraft}
    (hde : d.shown k.word = e.shown k.word)
    (hpq : k.Along p q) :
    k.Ends (SheetDraft.shown k.word) (sheetItems timeStep d p) (sheetItems timeStep e q) := by
  induction h : p.remaining using Nat.strongRecOn generalizing p q d e with
  | ind n ih =>
    rw [sheetItems_eq, sheetItems_eq]
    apply ends_next_bind (P := (·.isOfFile = true)) hpq
    · intro s
      apply Regular.ite (.pure _)
      cases hm : sheetItem? timeStep s with
      | none => exact regular_fail _
      | some m => exact (regular_sheetItem timeStep hm).bind fun _ ↦ regular_sheetItems timeStep _
    · intro q' hpq'
      apply Ends.ite
      · exact fun _ ↦ .ok hde hpq'
      · intro hend
        cases hm : sheetItem? timeStep p.next.1 with
        | none => exact .fail rfl hpq'
        | some m =>
          apply ((keeps_sheetItem hm).ends _ _ hpq').bind
          · exact fun item p'' ↦ past_of_regular (regular_sheetItems timeStep _)
          · intro x y p'' q'' hx hxy hpq''
            have hlt := p.remaining_next_lt hend
            have hle := advances_sheetItem timeStep hm p.next.2
            rw [hx] at hle
            exact ih _ (h ▸ Nat.lt_of_le_of_lt hle hlt) (shown_takeSheetItem hde hxy) hpq'' rfl

/-- Two files that are read side by side, into the same drawing, come to the same. -/
theorem ends_sheet (timeStep : Float) (before : Drawing) (hpq : k.Along p q) :
    k.Ends (fun d ↦ d.figures.map (Figure.rename k.word)) (sheet timeStep before p)
      (sheet timeStep before q) := by
  have h := ends_sheetItems timeStep (d := ⟨.blank, before⟩) rfl hpq
  rw [sheet_eq, sheet_eq]
  generalize sheetItems timeStep ⟨.blank, before⟩ p = r at h ⊢
  generalize sheetItems timeStep ⟨.blank, before⟩ q = r' at h ⊢
  cases h with
  | @past r r' hpast =>
    rcases r with ⟨e | d, p'⟩
    · exact .past hpast
    · apply Ends.past
      dsimp only
      split
      · exact hpast
      · exact hpast
  | @ok d e p' q' hde hpq' =>
    obtain ⟨hgroup, hfigures⟩ := Prod.mk.inj hde
    have hcycles : d.group.cycles = e.group.cycles := by
      rw [← d.group.cycles_rename k.word, hgroup, Group.cycles_rename]
    have hfinish := SheetDraft.rename_finish hde
    have hname : k.word d.finish.name = k.word e.finish.name := congrArg Group.name hfinish
    have hextent := hpq.extent_eq hpq'
    apply Ends.ok
    · have hlast : Figure.rename k.word (.group d.finish) =
          Figure.rename k.word (.group e.finish) :=
        congrArg Figure.group hfinish
      simp only [Drawing.define, List.map_append, hfigures, List.map_cons, hlast]
    · have hlocated : (Notice.definition? (.located d.finish.name _)).map k.definition =
          (Notice.definition? (.located e.finish.name _)).map k.definition :=
        congrArg some (Prod.ext hname hextent)
      refine (Along.say ?_ hlocated).say (m := .group _) (n := .group _) rfl
      rw [hcycles]
      split
      · exact hpq'.say rfl
      · exact hpq'
  | error he => exact .error he

end Sheets

end Lockstep

end Harmonograph
