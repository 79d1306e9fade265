import Harmonograph.Log.Network
import Mathlib.Data.Finset.Card
import Mathlib.Order.Bounds.Basic

/-!
Guards of one logger. A guard that is dropped closes the innermost span, whichever span it was made
for. So the number of open spans is that of the guards that are kept, but a record is in the span of
the newest guard only if no older guard has been dropped since that one was made.
-/

namespace Harmonograph.Log

/-- What is done with a logger. -/
inductive Use
  | enter (name : String)
  | drop (g : Nat)
  | log (time : Nat) (m : Message)

/-- The innermost span is the first of some spans only if none of these has been left. -/
theorem Logger.stamp_eq_iff (l : Logger) (time : Nat) (m : Message) {s : Span} {outer : List Span}
    {k : Nat} (h : l.spans = (s :: outer).drop k) (hid : ∀ o ∈ outer, o.id < s.id) :
    (l.stamp time m).spanId = some s.id ∧ (l.stamp time m).spanName = some s.name ↔ k = 0 := by
  cases k with
  | zero => simp [Logger.stamp, h]
  | succ k =>
    refine iff_of_false (fun ⟨hspan, _⟩ ↦ ?_) k.succ_ne_zero
    rw [Logger.stamp, h, List.drop_succ_cons] at hspan
    obtain ⟨o, ho, hsame⟩ := Option.map_eq_some_iff.1 hspan
    have hmem : o ∈ outer := List.mem_of_mem_drop (List.mem_of_mem_head? ho)
    exact (hid o hmem).ne hsame

namespace Network

/-- One logger, whose records go to a ring. -/
def single (level : Level) (capacity : Nat) : Network := (empty.addLogger level).addRing 0 capacity

def use (n : Network) : Use → Network
  | .enter name => n.enter 0 name
  | .drop g => n.drop g
  | .log time m => n.log time 0 m

def after (n : Network) (us : List Use) : Network := us.foldl use n

/-- The guards that have not been dropped. -/
def openGuards (n : Network) : Finset Nat :=
  (Finset.range n.guards.size).filter fun g ↦ n.guards[g]?.any Guard.isOpen

variable {n : Network}

theorem after_append (us vs : List Use) : n.after (us ++ vs) = (n.after us).after vs :=
  List.foldl_append

theorem mem_openGuards {g : Nat} : g ∈ n.openGuards ↔ ∃ i, n.guards[g]? = some ⟨i, true⟩ := by
  rw [openGuards, Finset.mem_filter, Finset.mem_range]
  constructor
  · rintro ⟨hg, hopen⟩
    rw [Array.getElem?_eq_getElem hg, Option.any_some] at hopen
    exact ⟨n.guards[g].owner, by rw [Array.getElem?_eq_getElem hg, ← hopen]⟩
  · rintro ⟨i, h⟩
    exact ⟨(Array.getElem?_eq_some_iff.1 h).1, by rw [h]; rfl⟩

theorem lt_of_mem_openGuards {g : Nat} (h : g ∈ n.openGuards) : g < n.guards.size :=
  Finset.mem_range.1 (Finset.mem_filter.1 h).1

theorem size_not_mem_openGuards : n.guards.size ∉ n.openGuards :=
  fun h ↦ (lt_of_mem_openGuards h).false

theorem openGuards_enter (i : Nat) (name : String) :
    (n.enter i name).openGuards = insert n.guards.size n.openGuards := by
  ext g
  rw [Finset.mem_insert, mem_openGuards, mem_openGuards]
  simp only [enter, Array.getElem?_push]
  split
  case isTrue h => simp [h]
  case isFalse h => simp [h]

theorem drop_of_not_mem {g : Nat} (h : g ∉ n.openGuards) : n.drop g = n := by
  rw [drop]
  split
  · exact absurd (mem_openGuards.2 ⟨_, ‹_›⟩) h
  · rfl

theorem drop_of_getElem? {g i : Nat} (h : n.guards[g]? = some ⟨i, true⟩) :
    n.drop g =
      { n.modifyLogger i Logger.leave with guards := n.guards.setIfInBounds g ⟨i, false⟩ } := by
  rw [drop, h]

theorem openGuards_drop (g : Nat) : (n.drop g).openGuards = n.openGuards.erase g := by
  by_cases hg : g ∈ n.openGuards
  · obtain ⟨i, hi⟩ := mem_openGuards.1 hg
    ext j
    rw [Finset.mem_erase, mem_openGuards, mem_openGuards, drop_of_getElem? hi]
    simp only [Array.getElem?_setIfInBounds]
    split
    case isTrue h => simp [h]
    case isFalse h => simp [Ne.symm h]
  · rw [drop_of_not_mem hg, Finset.erase_eq_of_notMem hg]

/-- A logger of this level with a ring behind it, and guards for its spans alone. There are as many
spans as open guards, all of them older than the next guard. -/
structure Solo (level : Level) (n : Network) : Prop where
  hubs : n.hubs = #[⟨n.logger 0, [.ring 0]⟩]
  ring : ∃ r, n.rings = #[r]
  level : (n.logger 0).level = level
  owner : ∀ g ∈ n.guards, g.owner = 0
  next : (n.logger 0).nextSpan = n.guards.size + 1
  older : ∀ s ∈ (n.logger 0).spans, s.id ≤ n.guards.size
  depth : (n.logger 0).depth = n.openGuards.card

namespace Solo

variable {level : Level}

theorem single (level : Level) (capacity : Nat) : Solo level (.single level capacity) where
  hubs := rfl
  ring := ⟨_, rfl⟩
  level := rfl
  owner := by simp [Network.single, addRing, addSink, addLogger, empty]
  next := rfl
  older := by simp [Network.single, addRing, addSink, addLogger, empty, logger, Logger.ofLevel]
  depth := rfl

theorem hubs_modifyLogger (h : Solo level n) (f : Logger → Logger) :
    (n.modifyLogger 0 f).hubs = #[⟨f (n.logger 0), [.ring 0]⟩] := by
  have hmodify : (n.modifyLogger 0 f).hubs =
      n.hubs.modify 0 fun k ↦ { k with logger := f k.logger } := rfl
  rw [hmodify, h.hubs]
  rfl

theorem logger_modifyLogger (h : Solo level n) (f : Logger → Logger) :
    (n.modifyLogger 0 f).logger 0 = f (n.logger 0) := by
  rw [logger, h.hubs_modifyLogger]
  rfl

theorem modify (h : Solo level n) {f : Logger → Logger} {guards : Array Guard}
    (hlevel : (f (n.logger 0)).level = (n.logger 0).level) (howner : ∀ g ∈ guards, g.owner = 0)
    (hnext : (f (n.logger 0)).nextSpan = guards.size + 1)
    (holder : ∀ s ∈ (f (n.logger 0)).spans, s.id ≤ guards.size)
    (hdepth : (f (n.logger 0)).depth =
      { n.modifyLogger 0 f with guards := guards }.openGuards.card) :
    Solo level { n.modifyLogger 0 f with guards := guards } := by
  have hlogger : logger { n.modifyLogger 0 f with guards := guards } 0 = f (n.logger 0) :=
    h.logger_modifyLogger f
  refine ⟨?_, h.ring, ?_, howner, ?_, ?_, ?_⟩
  · rw [hlogger]
    exact h.hubs_modifyLogger f
  · rw [hlogger, hlevel, h.level]
  · rw [hlogger, hnext]
  · rwa [hlogger]
  · rw [hlogger, hdepth]

theorem enter (h : Solo level n) (name : String) : Solo level (n.enter 0 name) := by
  refine h.modify rfl (fun g hg ↦ ?_) ?_ (fun s hs ↦ ?_) ?_
  · rcases Array.mem_push.1 hg with hg | rfl
    · exact h.owner g hg
    · rfl
  · rw [Array.size_push, ← h.next]
    rfl
  · rw [Array.size_push]
    rcases List.mem_cons.1 hs with rfl | hs
    · exact h.next.le
    · exact Nat.le_succ_of_le (h.older s hs)
  · rw [← Network.enter, openGuards_enter, Finset.card_insert_of_notMem size_not_mem_openGuards,
      ← h.depth]
    rfl

theorem getElem?_guards (h : Solo level n) {g : Nat} (hg : g ∈ n.openGuards) :
    n.guards[g]? = some ⟨0, true⟩ := by
  obtain ⟨i, hi⟩ := mem_openGuards.1 hg
  obtain rfl : i = 0 := h.owner _ (Array.mem_of_getElem? hi)
  exact hi

theorem drop (h : Solo level n) (g : Nat) : Solo level (n.drop g) := by
  by_cases hg : g ∈ n.openGuards
  · have hdrop := drop_of_getElem? (h.getElem?_guards hg)
    have hopen := openGuards_drop (n := n) g
    rw [hdrop] at hopen ⊢
    refine h.modify rfl (fun k hk ↦ ?_) ?_ (fun s hs ↦ ?_) ?_
    · rcases Array.mem_or_eq_of_mem_setIfInBounds hk with hk | rfl
      · exact h.owner k hk
      · rfl
    · rw [Array.size_setIfInBounds, ← h.next]
      rfl
    · rw [Array.size_setIfInBounds]
      exact h.older s (List.mem_of_mem_tail hs)
    · rw [hopen, Finset.card_erase_of_mem hg, ← h.depth]
      exact List.length_tail
  · rwa [drop_of_not_mem hg]

theorem logger_enter (h : Solo level n) (name : String) :
    (n.enter 0 name).logger 0 = (n.logger 0).enter name :=
  h.logger_modifyLogger (·.enter name)

/-- Whichever guard is dropped, the innermost span is closed. -/
theorem logger_drop (h : Solo level n) {g : Nat} (hg : g ∈ n.openGuards) :
    (n.drop g).logger 0 = (n.logger 0).leave := by
  rw [drop_of_getElem? (h.getElem?_guards hg)]
  exact h.logger_modifyLogger Logger.leave

theorem deliveries_eq (h : Solo level n) (time : Nat) (m : Message) :
    n.deliveries time m 0 = ((n.logger 0).record? time m).toList.map ((0, ·)) := by
  have hsize : 0 < n.hubs.size := by simp [h.hubs]
  have hub : n.hubs[0] = ⟨n.logger 0, [.ring 0]⟩ := by simp [h.hubs]
  rw [deliveries, dif_pos hsize]
  simp only [hub]
  cases (n.logger 0).record? time m with
  | none => rfl
  | some r =>
    simp only [List.flatMap_subtype, List.unattach_attach, Option.toList_some, List.map_cons,
      List.map_nil]
    rw [hub]
    rfl

theorem log_eq (h : Solo level n) (time : Nat) (m : Message) :
    n.log time 0 m = if level ≤ m.level then n.keep 0 ((n.logger 0).stamp time m) else n := by
  rw [Network.log, h.deliveries_eq, Logger.record?, Logger.isEnabled, h.level]
  by_cases hm : level ≤ m.level
  · simp [hm]
  · simp [hm]

theorem keep (h : Solo level n) (r : Record) : Solo level (n.keep 0 r) where
  hubs := h.hubs
  ring := by
    obtain ⟨ring, hring⟩ := h.ring
    exact ⟨ring.push r, by simp [Network.keep, hring]⟩
  level := h.level
  owner := h.owner
  next := h.next
  older := h.older
  depth := h.depth

theorem use (h : Solo level n) (u : Use) : Solo level (n.use u) := by
  cases u with
  | enter name => exact h.enter name
  | drop g => exact h.drop g
  | log time m =>
    rw [Network.use, h.log_eq]
    split
    · exact h.keep _
    · exact h

theorem after (h : Solo level n) (us : List Use) : Solo level (n.after us) := by
  induction us generalizing n with
  | nil => exact h
  | cons u us ih => exact ih (h.use u)

end Solo

/-- The guard `g` was made for the first of `spans`, while the guards `older` were open. As long as
it is open, what is left of `spans` lies under all later spans, and one span is missing for each of
`older` that has been dropped. -/
structure Kept (older : Finset Nat) (g : Nat) (spans : List Span) (n : Network) : Prop where
  length : spans.length = older.card + 1
  below : ∀ o ∈ older, o < g
  made : g < n.guards.size
  old : ∀ o ∈ n.openGuards, o < g → o ∈ older
  suffix : g ∈ n.openGuards → spans.drop (older \ n.openGuards).card <:+ (n.logger 0).spans

namespace Kept

variable {level : Level} {older : Finset Nat} {g : Nat} {spans : List Span}

theorem not_mem (k : Kept older g spans n) : g ∉ older := fun h ↦ (k.below g h).false

/-- Of `spans` so many are left as there are guards of them. -/
theorem length_drop (k : Kept older g spans n) (s : Finset Nat) :
    (spans.drop (older \ s).card).length = (insert g (older ∩ s)).card := by
  have hg : g ∉ older ∩ s := fun h ↦ k.not_mem (Finset.mem_inter.1 h).1
  have hcount := Finset.card_sdiff_add_card_inter older s
  rw [List.length_drop, k.length, Finset.card_insert_of_notMem hg]
  omega

theorem enter (h : Solo level n) (k : Kept older g spans n) (name : String) :
    Kept older g spans (n.enter 0 name) := by
  have hnew : n.guards.size ∉ older := fun h ↦ (k.made.trans (k.below _ h)).false
  refine ⟨k.length, k.below, ?_, fun o ho hlt ↦ ?_, fun hg ↦ ?_⟩
  · rw [Network.enter, Array.size_push]
    exact k.made.trans (Nat.lt_succ_self _)
  · rw [openGuards_enter] at ho
    rcases Finset.mem_insert.1 ho with rfl | ho
    · exact absurd (hlt.trans k.made) (Nat.lt_irrefl _)
    · exact k.old o ho hlt
  · rw [openGuards_enter] at hg ⊢
    rw [Finset.sdiff_insert_of_notMem hnew, h.logger_enter]
    have hopen := (Finset.mem_insert.1 hg).resolve_left k.made.ne
    exact (k.suffix hopen).trans (List.suffix_cons _ _)

theorem drop (h : Solo level n) (k : Kept older g spans n) (j : Nat) :
    Kept older g spans (n.drop j) := by
  by_cases hj : j ∈ n.openGuards
  · refine ⟨k.length, k.below, ?_, fun o ho ↦ ?_, fun hg ↦ ?_⟩
    · rw [drop_of_getElem? (h.getElem?_guards hj)]
      exact k.made.trans_eq (Array.size_setIfInBounds ..).symm
    · rw [openGuards_drop] at ho
      exact k.old o (Finset.mem_of_mem_erase ho)
    · have hopen : g ∈ n.openGuards := Finset.mem_of_mem_erase (openGuards_drop j ▸ hg)
      have hfewer : (older \ n.openGuards).card ≤ (older \ (n.drop j).openGuards).card := by
        rw [openGuards_drop]
        exact Finset.card_le_card (Finset.sdiff_subset_sdiff le_rfl (Finset.erase_subset _ _))
      have hunder := (List.drop_suffix_drop_left spans hfewer).trans (k.suffix hopen)
      have hshort : (insert g (older ∩ (n.drop j).openGuards)).card ≤ (n.drop j).openGuards.card :=
        Finset.card_le_card (Finset.insert_subset hg Finset.inter_subset_right)
      have hrest := (h.drop j).depth
      rw [h.logger_drop hj] at hrest ⊢
      -- Both lie at the bottom of the spans before, so only their lengths count.
      refine List.suffix_of_suffix_length_le hunder (List.tail_suffix _) ?_
      rw [k.length_drop]
      exact hshort.trans_eq hrest.symm
  · rwa [drop_of_not_mem hj]

theorem use (h : Solo level n) (k : Kept older g spans n) (u : Use) :
    Kept older g spans (n.use u) := by
  cases u with
  | enter name => exact k.enter h name
  | drop j => exact k.drop h j
  | log time m =>
    rw [Network.use, h.log_eq]
    split
    · exact ⟨k.length, k.below, k.made, k.old, k.suffix⟩
    · exact k

theorem after (h : Solo level n) (k : Kept older g spans n) (us : List Use) :
    Kept older g spans (n.after us) := by
  induction us generalizing n with
  | nil => exact k
  | cons u us ih => exact ih (h.use u) (k.use h u)

theorem of_enter (h : Solo level n) (name : String) :
    Kept n.openGuards n.guards.size (⟨n.guards.size + 1, name⟩ :: (n.logger 0).spans)
      (n.enter 0 name) := by
  have hopen : n.openGuards \ (n.enter 0 name).openGuards = ∅ := by
    rw [openGuards_enter, Finset.sdiff_eq_empty_iff_subset]
    exact Finset.subset_insert _ _
  refine ⟨?_, fun o ↦ lt_of_mem_openGuards, ?_, fun o ho hlt ↦ ?_, fun _ ↦ ?_⟩
  · rw [← h.depth]
    rfl
  · rw [Network.enter, Array.size_push]
    exact Nat.lt_succ_self _
  · rw [openGuards_enter] at ho
    exact (Finset.mem_insert.1 ho).resolve_left hlt.ne
  · rw [hopen, h.logger_enter, ← h.next]
    exact List.suffix_rfl

/-- Once all guards after `g` have been dropped, nothing lies over what is left of `spans`. -/
theorem spans_eq (h : Solo level n) (k : Kept older g spans n)
    (hg : IsGreatest (n.openGuards : Set Nat) g) :
    (n.logger 0).spans = spans.drop (older \ n.openGuards).card := by
  have hopen : insert g (older ∩ n.openGuards) = n.openGuards := by
    refine Finset.Subset.antisymm (Finset.insert_subset hg.1 Finset.inter_subset_right)
      fun o ho ↦ ?_
    rcases (hg.2 ho).lt_or_eq with hlt | rfl
    · exact Finset.mem_insert_of_mem (Finset.mem_inter.2 ⟨k.old o ho hlt, ho⟩)
    · exact Finset.mem_insert_self _ _
  refine ((k.suffix hg.1).eq_of_length ?_).symm
  rw [k.length_drop, hopen, ← h.depth]
  rfl

end Kept

theorem Solo.size_guards_use {level : Level} (h : Solo level n) (u : Use) :
    (∃ name, u = .enter name ∧ (n.use u).guards.size = n.guards.size + 1) ∨
      (n.use u).guards.size = n.guards.size := by
  cases u with
  | enter name => exact .inl ⟨name, rfl, Array.size_push _⟩
  | drop g =>
    right
    rw [Network.use]
    by_cases hg : g ∈ n.openGuards
    · rw [drop_of_getElem? (h.getElem?_guards hg)]
      exact Array.size_setIfInBounds ..
    · rw [drop_of_not_mem hg]
  | log time m =>
    right
    rw [Network.use, h.log_eq]
    split <;> rfl

/-- Every guard was made when its span was entered. -/
theorem exists_enter {level : Level} (h : Solo level n) {us : List Use} {g : Nat}
    (hold : n.guards.size ≤ g) (hg : g < (n.after us).guards.size) : ∃ before name behind,
      us = before ++ .enter name :: behind ∧ (n.after before).guards.size = g := by
  induction us generalizing n with
  | nil => exact absurd (hold.trans_lt hg) (Nat.lt_irrefl _)
  | cons u us ih =>
    by_cases hlater : (n.use u).guards.size ≤ g
    · obtain ⟨before, name, behind, rfl, hsize⟩ := ih (h.use u) hlater hg
      exact ⟨u :: before, name, behind, rfl, hsize⟩
    · rcases h.size_guards_use u with ⟨name, rfl, hsize⟩ | hsize
      · exact ⟨[], name, us, rfl, show n.guards.size = g by omega⟩
      · omega

/-- There are as many spans as guards that are kept. Something that is said while the guard `g` is
the newest of them is in the span of `g` if all guards that were open when `g` was made are still
kept; otherwise it is in a span further out, by one for each of them that has been dropped. -/
theorem spans_after (level : Level) (capacity : Nat) (us : List Use) (time : Nat) (m : Message) :
    let start := single level capacity
    let n := start.after us
    let r := (n.logger 0).stamp time m
    (n.logger 0).depth = n.openGuards.card ∧
    (∃ ring, n.rings = #[ring] ∧
      n.log time 0 m = { n with rings := #[if level ≤ m.level then ring.push r else ring] }) ∧
    (r.spanId = none ↔ n.openGuards = ∅) ∧
    ∀ g, IsGreatest (n.openGuards : Set Nat) g →
      ∃ before name behind, us = before ++ .enter name :: behind ∧
      (start.after before).guards.size = g ∧
      let older := (start.after before).openGuards
      let spans := ⟨g + 1, name⟩ :: ((start.after before).logger 0).spans
      (n.logger 0).spans = spans.drop (older \ n.openGuards).card ∧
      (r.spanId = some (g + 1) ∧ r.spanName = some name ↔ older ⊆ n.openGuards) := by
  intro start n r
  have hstart : Solo level start := .single level capacity
  have h : Solo level n := hstart.after us
  refine ⟨h.depth, ?_, ?_, fun g hg ↦ ?_⟩
  · obtain ⟨ring, hring⟩ := h.ring
    refine ⟨ring, hring, ?_⟩
    rw [h.log_eq]
    split
    · simp [Network.keep, hring, r]
    · rw [← hring]
  · rw [← Finset.card_eq_zero, ← h.depth]
    simp [r, Logger.stamp, Logger.depth]
  · obtain ⟨before, name, behind, hus, hsize⟩ :=
      exists_enter hstart (Nat.zero_le g) (lt_of_mem_openGuards hg.1)
    refine ⟨before, name, behind, hus, hsize, ?_⟩
    intro older spans
    have hb : Solo level (start.after before) := hstart.after before
    have hn : n = ((start.after before).enter 0 name).after behind := by
      simp only [n, hus, after_append]
      rfl
    have hkept : Kept older g spans n := by
      rw [hn, ← hsize]
      simp only [older, spans, ← hsize]
      exact (Kept.of_enter hb name).after (hb.enter name) behind
    have hspans := hkept.spans_eq h hg
    refine ⟨hspans, ?_⟩
    rw [← Finset.sdiff_eq_empty_iff_subset, ← Finset.card_eq_zero]
    exact (n.logger 0).stamp_eq_iff time m hspans fun s hs ↦
      Nat.lt_succ_of_le (hsize ▸ hb.older s hs)

theorem span_of_first_guard :
    let n := (single .info 10).after [.enter "a", .enter "b", .drop 1]
    IsGreatest (n.openGuards : Set Nat) 0 ∧
      ((n.logger 0).stamp 0 ⟨.info, "t", "m"⟩).spanId = some 1 := by
  intro n
  have hopen : n.openGuards = {0} := by decide
  have hg : IsGreatest (n.openGuards : Set Nat) 0 := by
    rw [hopen, Finset.coe_singleton]
    exact isGreatest_singleton
  obtain ⟨-, -, -, h⟩ := spans_after .info 10 [.enter "a", .enter "b", .drop 1] 0 ⟨.info, "t", "m"⟩
  obtain ⟨before, name, behind, -, hsize, -, hspan⟩ := h 0 hg
  refine ⟨hg, (hspan.2 fun o ho ↦ ?_).1⟩
  exact absurd (hsize ▸ lt_of_mem_openGuards ho) (Nat.not_lt_zero o)

/-- The outer guard is dropped, and the inner span is closed. -/
theorem outer_guard_closes_inner_span :
    let n := (single .info 10).after [.enter "a", .enter "b", .drop 0]
    n.openGuards = {1} ∧
    (n.log 0 0 ⟨.info, "t", "m"⟩).rings.toList.map Ring.items =
      [[⟨⟨.info, "t", "m"⟩, 0, some 1, some "a"⟩]] := by
  intro n
  have h : Solo .info n := (Solo.single .info 10).after _
  refine ⟨by decide, ?_⟩
  rw [h.log_eq]
  decide

end Network

end Harmonograph.Log
