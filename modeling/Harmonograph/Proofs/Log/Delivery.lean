import Harmonograph.Proofs.Log.Numbering
import Mathlib.Data.List.Nodup

/-!
Delivery in a network of loggers. Something that is said at a logger comes to a ring once for each
way there through loggers that it passes, and the last logger of the way marks it.
-/

namespace Harmonograph.Log.Network

inductive Act
  | log (time i : Nat) (m : Message)
  | setLevel (i : Nat) (level : Level)
  | enter (i : Nat) (name : String)

/-- A way through a network by its sinks, each given by its logger and its place there. -/
abbrev Path := List (Nat × Nat)

/-- The logger of the last sink of a way from the logger `i`. -/
def lastLogger (i : Nat) (path : Path) : Nat := (path.getLastD (i, 0)).1

def received (k : Nat) (ds : List (Nat × Record)) : List Record :=
  ds.filterMap fun d ↦ if d.1 = k then some d.2 else none

variable (n : Network)

def act : Act → Network
  | .log time i m => n.log time i m
  | .setLevel i level => n.modifyLogger i fun l ↦ { l with level := level }
  | .enter i name => n.enter i name

def run (us : List Act) : Network := us.foldl act n

/-- The levels that the logger `j` is given. -/
def levelsOf (j : Nat) (us : List Act) : List Level :=
  us.filterMap fun
    | .setLevel i level => if i = j then some level else none
    | _ => none

/-- The names of the spans that are entered at the logger `j`. -/
def namesOf (j : Nat) (us : List Act) : List String :=
  us.filterMap fun
    | .enter i name => if i = j then some name else none
    | _ => none

/-- Spans with these names, in the order of entering. -/
def spansFrom (first : Nat) (names : List String) : List Span :=
  names.mapIdx fun p name ↦ ⟨first + p, name⟩

def sink? (i p : Nat) : Option Sink := n.hubs[i]?.bind fun h ↦ h.sinks[p]?

/-- A way from the logger `i` to the ring `k`. -/
inductive IsPath (k : Nat) : Nat → Path → Prop
  | ring {i p : Nat} (h : n.sink? i p = some (.ring k)) : IsPath k i [(i, p)]
  | logger {i p j : Nat} {path : Path} (h : n.sink? i p = some (.logger j))
    (hpath : IsPath k j path) :
      IsPath k i ((i, p) :: path)

/-- A message passes all loggers of a way. -/
def Passes (m : Message) (path : Path) : Prop := ∀ s ∈ path, (n.logger s.1).level ≤ m.level

/-- The ways from the logger `i` to the ring `k` that are open to a message, each of them once. -/
structure Ways (m : Message) (i k : Nat) (paths : List Path) : Prop where
  nodup : paths.Nodup
  mem_iff : ∀ path, path ∈ paths ↔ n.IsPath k i path ∧ n.Passes m path

/-- The record of a message said at the logger `i`, as it comes out of a way from there: the message
is as it was said, and the span is the innermost one of the last logger. -/
def arrival (time : Nat) (m : Message) (i : Nat) (path : Path) : Record :=
  let span? := (n.logger (lastLogger i path)).spans.head?
  { toMessage := m, time, spanId := span?.map Span.id, spanName := span?.map Span.name }

/-- The records that an act has for the ring `k`. -/
def Gives (k : Nat) : Act → List Record → Prop
  | .log time i m, rs => ∃ paths, n.Ways m i k paths ∧ rs = paths.map (n.arrival time m i)
  | .setLevel _ _, rs => rs = []
  | .enter _ _, rs => rs = []

/-- What becomes of a record at one of the sinks of its logger. -/
def passOn (time : Nat) (m : Message) (r : Record) : Sink → List (Nat × Record)
  | .ring k => [(k, r)]
  | .logger j => n.deliveries time m j

variable {n}

theorem sink?_eq {i : Nat} (h : i < n.hubs.size) (p : Nat) : n.sink? i p = n.hubs[i].sinks[p]? := by
  rw [sink?, Array.getElem?_eq_getElem h, Option.bind_some]

theorem deliveries_of_lt {time i : Nat} {m : Message} (h : i < n.hubs.size) :
    n.deliveries time m i =
    if (n.logger i).level ≤ m.level then
      n.hubs[i].sinks.flatMap (n.passOn time m ((n.logger i).stamp time m))
    else [] := by
  have hlogger : n.logger i = n.hubs[i].logger := by rw [logger, Array.getElem?_eq_getElem h]; rfl
  rw [deliveries, dif_pos h, Logger.record?, Logger.isEnabled, hlogger]
  by_cases hm : n.hubs[i].logger.level ≤ m.level
  · simp only [hm, decide_true, if_true]
    refine (List.flatMap_subtype (g := n.passOn time m (n.hubs[i].logger.stamp time m)) ?_).trans ?_
    · rintro (k | j) hs
      · rfl
      · rfl
    · rw [List.unattach_attach]
  · simp [hm]

theorem deliveries_of_size_le {time i : Nat} {m : Message} (h : n.hubs.size ≤ i) :
    n.deliveries time m i = [] := by
  rw [deliveries, dif_neg (Nat.not_lt.2 h)]

namespace IsPath

variable {k i : Nat} {path : Path}

theorem lt_size (h : n.IsPath k i path) : i < n.hubs.size := by
  by_contra hi
  have hnone : n.hubs[i]? = none := Array.getElem?_eq_none (Nat.not_lt.1 hi)
  cases h with
  | ring h => simp [sink?, hnone] at h
  | logger h => simp [sink?, hnone] at h

theorem lastLogger_cons (h : n.IsPath k i path) (s : Nat × Nat) (j : Nat) :
    lastLogger j (s :: path) = lastLogger i path := by
  cases h <;> simp only [lastLogger, List.getLastD_cons]

theorem exists_cons (h : n.IsPath k i path) : ∃ p rest, path = (i, p) :: rest := by
  cases h <;> exact ⟨_, _, rfl⟩

end IsPath

/-- The ways from the logger `i` by one of its sinks, made of those from the loggers behind it. -/
def waysBy (k i : Nat) (ways : Nat → List Path) : Sink × Nat → List Path
  | (.ring k', p) => if k' = k then [[(i, p)]] else []
  | (.logger j, p) => (ways j).map ((i, p) :: ·)

namespace Ways

variable {m : Message} {k i : Nat} {ways : Nat → List Path}

theorem of_not_le (h : ¬ (n.logger i).level ≤ m.level) : n.Ways m i k [] where
  nodup := List.nodup_nil
  mem_iff path := by
    refine iff_of_false List.not_mem_nil ?_
    rintro ⟨hpath, hpass⟩
    obtain ⟨p, rest, rfl⟩ := hpath.exists_cons
    exact h (hpass _ List.mem_cons_self)

theorem of_size_le (h : n.hubs.size ≤ i) : n.Ways m i k [] where
  nodup := List.nodup_nil
  mem_iff _ := iff_of_false List.not_mem_nil fun hpath ↦ Nat.not_lt.2 h hpath.1.lt_size

theorem mem_waysBy {s : Sink} {p : Nat} {path : Path} : path ∈ waysBy k i ways (s, p) ↔
    ∃ rest, path = (i, p) :: rest ∧
      (s = .ring k ∧ rest = [] ∨ ∃ j, s = .logger j ∧ rest ∈ ways j) := by
  cases s with
  | ring k' => by_cases h : k' = k <;> simp [waysBy, h]
  | logger j => simp [waysBy, and_comm, eq_comm]

theorem nodup_flatMap {sinks : List Sink} (hways : ∀ j, .logger j ∈ sinks → (ways j).Nodup) :
    (sinks.zipIdx.flatMap (waysBy k i ways)).Nodup := by
  rw [List.nodup_flatMap]
  constructor
  · rintro ⟨s, p⟩ hs
    cases s with
    | ring k' => by_cases h : k' = k <;> simp [waysBy, h]
    | logger j =>
      refine (hways j ?_).map fun a b h ↦ List.tail_eq_of_cons_eq h
      exact List.mem_of_getElem? (List.mem_zipIdx_iff_getElem?.1 hs)
  · -- Ways by different sinks differ in their first step.
    have hplaces : (sinks.zipIdx.map Prod.snd).Pairwise (· < ·) := by
      rw [List.zipIdx_map_snd]
      exact List.pairwise_lt_range'
    refine (List.pairwise_map.1 hplaces).imp ?_
    rintro ⟨s, p⟩ ⟨s', p'⟩ hlt path hpath hpath'
    obtain ⟨rest, rfl, -⟩ := mem_waysBy.1 hpath
    obtain ⟨rest', heq, -⟩ := mem_waysBy.1 hpath'
    exact Nat.ne_of_lt hlt (Prod.ext_iff.1 (List.cons.inj heq).1).2

theorem flatMap (hi : i < n.hubs.size) (hm : (n.logger i).level ≤ m.level)
    (hways : ∀ j, .logger j ∈ n.hubs[i].sinks → n.Ways m j k (ways j)) :
    n.Ways m i k (n.hubs[i].sinks.zipIdx.flatMap (waysBy k i ways)) where
  nodup := nodup_flatMap fun j hj ↦ (hways j hj).nodup
  mem_iff path := by
    have hpass : ∀ p rest, n.Passes m ((i, p) :: rest) ↔ n.Passes m rest := fun p rest ↦ by
      simp [Passes, hm]
    simp only [List.mem_flatMap, Prod.exists, List.mem_zipIdx_iff_getElem?, mem_waysBy]
    constructor
    · rintro ⟨s, p, hs, rest, rfl, ⟨rfl, rfl⟩ | ⟨j, rfl, hrest⟩⟩
      · exact ⟨.ring ((sink?_eq hi p).trans hs), (hpass p []).2 fun s hs ↦
          absurd hs List.not_mem_nil⟩
      · obtain ⟨hpath, hopen⟩ := ((hways j (List.mem_of_getElem? hs)).mem_iff rest).1 hrest
        exact ⟨.logger ((sink?_eq hi p).trans hs) hpath, (hpass p rest).2 hopen⟩
    · rintro ⟨hpath, hopen⟩
      cases hpath with
      | @ring _ p h => exact ⟨_, p, (sink?_eq hi p).symm.trans h, [], rfl, .inl ⟨rfl, rfl⟩⟩
      | @logger _ p j rest h hrest =>
        have hs := (sink?_eq hi p).symm.trans h
        refine ⟨_, p, hs, rest, rfl, .inr ⟨j, rfl, ?_⟩⟩
        exact ((hways j (List.mem_of_getElem? hs)).mem_iff rest).2 ⟨hrest, (hpass p rest).1 hopen⟩

end Ways

theorem received_passOn {time : Nat} {m : Message} {i k : Nat} {ways : Nat → List Path}
    {s : Sink} (p : Nat)
    (hways : ∀ j, s = .logger j → n.Ways m j k (ways j) ∧
      received k (n.deliveries time m j) = (ways j).map (n.arrival time m j)) :
    received k (n.passOn time m ((n.logger i).stamp time m) s) =
      (waysBy k i ways (s, p)).map (n.arrival time m i) := by
  cases s with
  | ring k' =>
    by_cases h : k' = k <;> simp [passOn, received, waysBy, h, arrival, lastLogger, Logger.stamp]
  | logger j =>
    obtain ⟨hj, hrecords⟩ := hways j rfl
    rw [passOn, hrecords, waysBy, List.map_map]
    refine List.map_congr_left fun path hpath ↦ ?_
    have hlast := ((hj.mem_iff path).1 hpath).1.lastLogger_cons (i, p) i
    rw [Function.comp_apply, arrival, arrival, hlast]

theorem received_flatMap_passOn {time : Nat} {m : Message} {i k : Nat} {ways : Nat → List Path}
    {sinks : List Sink} (hways : ∀ j, .logger j ∈ sinks → n.Ways m j k (ways j) ∧
      received k (n.deliveries time m j) = (ways j).map (n.arrival time m j)) :
    received k (sinks.flatMap (n.passOn time m ((n.logger i).stamp time m))) =
      (sinks.zipIdx.flatMap (waysBy k i ways)).map (n.arrival time m i) := by
  let r := (n.logger i).stamp time m
  calc received k (sinks.flatMap (n.passOn time m r))
      = sinks.flatMap fun s ↦ received k (n.passOn time m r s) := List.filterMap_flatMap
    _ = (sinks.zipIdx.map Prod.fst).flatMap fun s ↦ received k (n.passOn time m r s) := by
      rw [List.zipIdx_map_fst]
    _ = sinks.zipIdx.flatMap fun s ↦ received k (n.passOn time m r s.1) := List.flatMap_map ..
    _ = sinks.zipIdx.flatMap fun s ↦ (waysBy k i ways s).map (n.arrival time m i) := by
      refine List.flatMap_congr fun s hs ↦ received_passOn s.2 fun j hj ↦ hways j ?_
      rw [← hj]
      exact List.mem_of_getElem? (List.mem_zipIdx_iff_getElem?.1 hs)
    _ = (sinks.zipIdx.flatMap (waysBy k i ways)).map (n.arrival time m i) := List.map_flatMap.symm

/-- A ring gets one record for each way that is open to the message. -/
theorem exists_ways (time : Nat) (m : Message) (i k : Nat) : ∃ paths, n.Ways m i k paths ∧
    received k (n.deliveries time m i) = paths.map (n.arrival time m i) := by
  -- The loggers behind `i` have greater numbers.
  induction hd : n.hubs.size - i using Nat.strongRecOn generalizing i with
  | ind d ih =>
    by_cases hi : i < n.hubs.size
    · rw [deliveries_of_lt hi]
      by_cases hm : (n.logger i).level ≤ m.level
      · have hbehind : ∀ j, .logger j ∈ n.hubs[i].sinks → ∃ paths, n.Ways m j k paths ∧
            received k (n.deliveries time m j) = paths.map (n.arrival time m j) := fun j hj ↦ by
          have hlt := n.forward i hi j hj
          exact ih (n.hubs.size - j) (by omega) j rfl
        choose! ways hways using hbehind
        rw [if_pos hm]
        exact ⟨_, .flatMap hi hm fun j hj ↦ (hways j hj).1, received_flatMap_passOn hways⟩
      · rw [if_neg hm]
        exact ⟨[], .of_not_le hm, rfl⟩
    · rw [deliveries_of_size_le (Nat.not_lt.1 hi)]
      exact ⟨[], .of_size_le (Nat.not_lt.1 hi), rfl⟩

theorem hubs_foldl_keep (ds : List (Nat × Record)) :
    (ds.foldl (fun n d ↦ n.keep d.1 d.2) n).hubs = n.hubs := by
  induction ds generalizing n with
  | nil => rfl
  | cons d ds ih => exact ih

theorem rings_foldl_keep (ds : List (Nat × Record)) (k : Nat) :
    (ds.foldl (fun n d ↦ n.keep d.1 d.2) n).rings[k]? =
      n.rings[k]?.map fun r ↦ (received k ds).foldl Ring.push r := by
  induction ds generalizing n with
  | nil => simp [received]
  | cons d ds ih =>
    rw [List.foldl_cons, ih, keep, Array.getElem?_modify]
    by_cases hk : d.1 = k
    · simp [received, hk, Function.comp_def]
    · simp [received, hk]

theorem logger_modifyLogger {j : Nat} (hj : j < n.hubs.size) (i : Nat) (f : Logger → Logger) :
    (n.modifyLogger i f).logger j = if i = j then f (n.logger j) else n.logger j := by
  have hub : n.hubs[j]? = some n.hubs[j] := Array.getElem?_eq_getElem hj
  rw [logger, modifyLogger, Array.getElem?_modify, logger, hub]
  split <;> rfl

theorem sink?_modifyLogger (i : Nat) (f : Logger → Logger) (j p : Nat) :
    (n.modifyLogger i f).sink? j p = n.sink? j p := by
  rw [sink?, modifyLogger, Array.getElem?_modify, sink?]
  split
  · cases n.hubs[j]? <;> rfl
  · rfl

theorem hubs_log (time i : Nat) (m : Message) : (n.log time i m).hubs = n.hubs := hubs_foldl_keep _

theorem sink?_act (u : Act) (j p : Nat) : (n.act u).sink? j p = n.sink? j p := by
  cases u with
  | log time i m => rw [act, sink?, hubs_log, sink?]
  | setLevel i level => exact sink?_modifyLogger i _ j p
  | enter i name => exact sink?_modifyLogger i (·.enter name) j p

theorem size_hubs_act (u : Act) : (n.act u).hubs.size = n.hubs.size := by
  cases u with
  | log time i m => rw [act, hubs_log]
  | setLevel i level => exact Array.size_modify ..
  | enter i name => exact Array.size_modify ..

theorem exists_gives (k : Nat) (u : Act) : ∃ rs, n.Gives k u rs ∧
    (n.act u).rings[k]? = n.rings[k]?.map fun r ↦ rs.foldl Ring.push r := by
  cases u with
  | log time i m =>
    obtain ⟨paths, hpaths, hrecords⟩ := n.exists_ways time m i k
    exact ⟨_, ⟨paths, hpaths, hrecords⟩, rings_foldl_keep _ k⟩
  | setLevel i level => exact ⟨[], rfl, by simp [act, modifyLogger]⟩
  | enter i name => exact ⟨[], rfl, by simp [act, enter, modifyLogger]⟩

theorem logger_act {j : Nat} (hj : j < n.hubs.size) (u : Act) : (n.act u).logger j =
    match u with
    | .log _ _ _ => n.logger j
    | .setLevel i level => if i = j then { n.logger j with level := level } else n.logger j
    | .enter i name => if i = j then (n.logger j).enter name else n.logger j := by
  cases u with
  | log time i m => rw [act, logger, hubs_log, logger]
  | setLevel i level => exact logger_modifyLogger hj i _
  | enter i name => exact logger_modifyLogger hj i (·.enter name)

theorem run_cons (u : Act) (us : List Act) : n.run (u :: us) = (n.act u).run us := rfl

theorem sink?_run (us : List Act) (j p : Nat) : (n.run us).sink? j p = n.sink? j p := by
  induction us generalizing n with
  | nil => rfl
  | cons u us ih => exact ih.trans (sink?_act u j p)

theorem level_run {j : Nat} (hj : j < n.hubs.size) (us : List Act) :
    ((n.run us).logger j).level = (levelsOf j us).getLastD (n.logger j).level := by
  induction us generalizing n with
  | nil => rfl
  | cons u us ih =>
    rw [run_cons, ih ((size_hubs_act u).symm ▸ hj), logger_act hj]
    cases u with
    | log time i m => rfl
    | setLevel i level =>
      by_cases hi : i = j
      · have hlevels : levelsOf j (.setLevel i level :: us) = level :: levelsOf j us := by
          simp [levelsOf, hi]
        rw [hlevels, List.getLastD_cons]
        simp [hi]
      · simp [levelsOf, hi]
    | enter i name => by_cases hi : i = j <;> simp [levelsOf, hi, Logger.enter]

theorem spans_run {j : Nat} (hj : j < n.hubs.size) (us : List Act) : ((n.run us).logger j).spans =
    (spansFrom (n.logger j).nextSpan (namesOf j us)).reverse ++ (n.logger j).spans := by
  induction us generalizing n with
  | nil => rfl
  | cons u us ih =>
    rw [run_cons, ih ((size_hubs_act u).symm ▸ hj), logger_act hj]
    cases u with
    | log time i m => rfl
    | setLevel i level => by_cases hi : i = j <;> simp [namesOf, hi]
    | enter i name =>
      by_cases hi : i = j
      · simp [namesOf, hi, Logger.enter, spansFrom, List.mapIdx_cons, Nat.add_assoc, Nat.add_comm]
      · simp [namesOf, hi]

theorem exists_heard (us : List Act) (k : Nat) :
    ∃ heard : List (List Record), heard.length = us.length ∧
    (n.run us).rings[k]? = n.rings[k]?.map (fun r ↦ heard.flatten.foldl Ring.push r) ∧
    ∀ a u rs, us[a]? = some u → heard[a]? = some rs → (n.run (us.take a)).Gives k u rs := by
  induction us generalizing n with
  | nil => exact ⟨[], rfl, by simp [run], by simp⟩
  | cons u us ih =>
    obtain ⟨rs, hrs, hring⟩ := exists_gives (n := n) k u
    obtain ⟨heard, hlength, hrings, hheard⟩ := ih (n := n.act u)
    refine ⟨rs :: heard, congrArg Nat.succ hlength, ?_, fun a u' rs' hu hrs' ↦ ?_⟩
    · rw [run_cons, hrings, hring, Option.map_map]
      simp [Function.comp_def]
    · cases a with
      | zero =>
        obtain rfl := Option.some.inj hu
        obtain rfl := Option.some.inj hrs'
        exact hrs
      | succ a => exact hheard a u' rs' hu hrs'

/-- Networks are all loggers without a circle, but for their numbers. Whatever has been done with a
network, its sinks are as they were; a logger has the level that it was given last, and its newest
span is innermost. A ring has been given the records of one act after another: for something said at
a logger, one record for each way from there to the ring that was open to it then, marked by the
last logger of the way. -/
theorem delivered :
    (∀ hubs, Acyclic hubs ↔ ∃ σ, ∀ rings, ∃ n : Network, n.rings = rings ∧ Numbered hubs σ n) ∧
    ∀ (n : Network) (us : List Act),
      (∀ i p, (n.run us).sink? i p = n.sink? i p) ∧
      (∀ j < n.hubs.size,
        ((n.run us).logger j).level = (levelsOf j us).getLastD (n.logger j).level ∧
        ((n.run us).logger j).spans =
          (spansFrom (n.logger j).nextSpan (namesOf j us)).reverse ++ (n.logger j).spans) ∧
      ∀ k, ∃ heard : List (List Record), heard.length = us.length ∧
        (n.run us).rings[k]? = n.rings[k]?.map (fun r ↦ heard.flatten.foldl Ring.push r) ∧
        ∀ a u rs, us[a]? = some u → heard[a]? = some rs → (n.run (us.take a)).Gives k u rs := by
  refine ⟨fun hubs ↦ acyclic_iff, fun n us ↦ ⟨sink?_run us, fun j hj ↦ ?_, exists_heard us⟩⟩
  exact ⟨level_run hj us, spans_run hj us⟩

section TwoLinks

/-- The logger 0 is linked twice to the logger 1, which feeds the ring 0. -/
def twoLinks : Network :=
  let loggers := (empty.addLogger .info).addLogger .warn
  let once := loggers.addSink 0 (.logger 1) (by rintro _ ⟨⟩; decide)
  (once.addSink 0 (.logger 1) (by rintro _ ⟨⟩; decide)).addRing 1 5

/-- A span of the second logger, and two messages at the first: the second logger lets only one
pass. -/
def usesOfTwoLinks : List Act :=
  [.enter 1 "a", .log 7 0 ⟨.warn, "t", "m"⟩, .log 8 0 ⟨.info, "t", "m"⟩]

theorem twoLinks_sinks (us : List Act) :
    (∀ p, (twoLinks.run us).sink? 0 p = if p < 2 then some (.logger 1) else none) ∧
    (∀ p, (twoLinks.run us).sink? 1 p = if p < 1 then some (.ring 0) else none) := by
  simp only [sink?_run]
  constructor
  · rintro (_ | _ | p) <;> rfl
  · rintro (_ | p) <;> rfl

theorem isPath_twoLinks_iff (us : List Act) (path : Path) :
    (twoLinks.run us).IsPath 0 0 path ↔ path ∈ [[(0, 0), (1, 0)], [(0, 1), (1, 0)]] := by
  obtain ⟨hfirst, hsecond⟩ := twoLinks_sinks us
  have hbehind : ∀ rest, (twoLinks.run us).IsPath 0 1 rest ↔ rest = [(1, 0)] := by
    intro rest
    constructor
    · intro h
      cases h with
      | @ring _ p h =>
        rw [hsecond] at h
        obtain ⟨hp, -⟩ := Option.ite_none_right_eq_some.1 h
        rw [Nat.lt_one_iff.1 hp]
      | logger h _ =>
        rw [hsecond] at h
        obtain ⟨-, hsink⟩ := Option.ite_none_right_eq_some.1 h
        cases hsink
    · rintro rfl
      exact .ring (hsecond 0)
  constructor
  · intro h
    cases h with
    | ring h =>
      rw [hfirst] at h
      obtain ⟨-, hsink⟩ := Option.ite_none_right_eq_some.1 h
      cases hsink
    | @logger _ p j rest h hrest =>
      rw [hfirst] at h
      obtain ⟨hp, hsink⟩ := Option.ite_none_right_eq_some.1 h
      cases hsink
      rw [(hbehind rest).1 hrest]
      match p with
      | 0 => exact List.mem_cons_self
      | 1 => exact List.mem_cons_of_mem _ List.mem_cons_self
  · intro h
    simp only [List.mem_cons, List.not_mem_nil, or_false] at h
    rcases h with rfl | rfl
    · exact .logger (hfirst 0) ((hbehind _).2 rfl)
    · exact .logger (hfirst 1) ((hbehind _).2 rfl)

/-- Each of the two ways has a record for the ring, in the span of the second logger. -/
theorem delivered_over_two_links :
    let r : Record := ⟨⟨.warn, "t", "m"⟩, 7, some 1, some "a"⟩
    (twoLinks.run usesOfTwoLinks).rings[0]?.map Ring.items = some [r, r] := by
  intro r
  have hrun := delivered.2 twoLinks
  obtain ⟨heard, hlength, hring, hheard⟩ := (hrun usesOfTwoLinks).2.2 0
  obtain ⟨rs₀, rs₁, rs₂, rfl⟩ := List.length_eq_three.1 hlength
  obtain rfl : rs₀ = [] := hheard 0 _ _ rfl rfl
  obtain ⟨paths₁, hways₁, rfl⟩ := hheard 1 _ _ rfl rfl
  obtain ⟨paths₂, hways₂, rfl⟩ := hheard 2 _ _ rfl rfl
  have hpaths : ∀ path ∈ [[(0, 0), (1, 0)], [(0, 1), (1, 0)]],
      (1, 0) ∈ path ∧ lastLogger 0 path = 1 ∧ ∀ s ∈ path, s.1 < 2 := by
    decide
  have hlevel : ∀ j < 2, ((twoLinks.run (usesOfTwoLinks.take 1)).logger j).level ≤ .warn := by
    intro j hj
    rw [((hrun _).2.1 j hj).1]
    match j with
    | 0 => decide
    | 1 => decide
  have hspans : ((twoLinks.run (usesOfTwoLinks.take 1)).logger 1).spans = [⟨1, "a"⟩] :=
    ((hrun _).2.1 1 (by decide)).2
  -- Both ways are open to the warning, and none is to the other message.
  have hopen : ∀ path, path ∈ paths₁ ↔ path ∈ [[(0, 0), (1, 0)], [(0, 1), (1, 0)]] := by
    intro path
    rw [hways₁.mem_iff, isPath_twoLinks_iff]
    exact and_iff_left_of_imp fun hpath s hs ↦ hlevel s.1 ((hpaths path hpath).2.2 s hs)
  have hclosed : paths₂ = [] := by
    refine List.eq_nil_iff_forall_not_mem.2 fun path hpath ↦ ?_
    rw [hways₂.mem_iff, isPath_twoLinks_iff] at hpath
    have hlow := hpath.2 _ (hpaths path hpath.1).1
    rw [((hrun _).2.1 1 (by decide)).1] at hlow
    exact absurd hlow (by decide)
  have harrival : ∀ path ∈ paths₁,
      (twoLinks.run (usesOfTwoLinks.take 1)).arrival 7 ⟨.warn, "t", "m"⟩ 0 path = r := by
    intro path hpath
    rw [arrival, (hpaths path ((hopen path).1 hpath)).2.1, hspans]
    rfl
  have hperm := (List.perm_ext_iff_of_nodup hways₁.nodup (by decide)).2 hopen
  have hrecords :
      paths₁.map ((twoLinks.run (usesOfTwoLinks.take 1)).arrival 7 ⟨.warn, "t", "m"⟩ 0) =
        [r, r] := by
    rw [List.map_eq_replicate_iff.2 harrival, hperm.length_eq]
    rfl
  rw [hring, hclosed, hrecords]
  rfl

end TwoLinks

end Harmonograph.Log.Network
