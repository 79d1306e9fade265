import Harmonograph.Proofs.Drawing.Charts
import Harmonograph.Proofs.Log.Records

/-!
The spans of a run. It has one span for itself and one for each file that it reads, numbered in the
order of the files, and every record is in the span of the file that it is about, or in that of the
run. However a run ends, it leaves the spans that were open before.
-/

namespace Harmonograph

namespace Log.Logger

variable {ν : Type} [Loggable ν] (time : Nat) (l : Logger) (s : Span)

/-- The record of something said in the span `s`, if it passes. -/
def recordIn? (n : ν) : Option Record :=
  if l.isEnabled (Loggable.level n) then some ⟨.of n, time, some s.id, some s.name⟩ else none

variable {l s} {spans : List Span}

/-- What is said without entering or leaving a span is in the innermost one. -/
theorem run_notes (h : l.spans = s :: spans) (ns : List ν) :
    l.run time (ns.map .note) = (l, ns.filterMap (l.recordIn? time s)) := by
  have hrecord : ∀ n : ν, l.recordOf? time n = l.recordIn? time s n := by
    intro n
    simp only [recordOf?, recordIn?, stamp, h]
    rfl
  induction ns with
  | nil => rfl
  | cons n ns ih =>
    simp only [List.map_cons, run, step, ih, hrecord, List.filterMap_cons]
    cases l.recordIn? time s n <;> rfl

theorem run_within {l l' : Logger} {name : String} {es : List (Event ν)} {rs : List Record}
    (h : (l.enter name).run time es = (l', rs)) :
    l.run time (.enter name :: es ++ [.leave]) = (l'.leave, rs) := by
  rw [List.cons_append, run, run_append]
  simp only [step, h, run, List.append_nil, List.nil_append]

/-- What is said between entering a span and leaving it is in this span. Nothing but its number is
used up. -/
theorem run_span (l : Logger) (name : String) (ns : List ν) :
    l.run time (.enter name :: ns.map .note ++ [.leave]) =
      ({ l with nextSpan := l.nextSpan + 1 }, ns.filterMap (l.recordIn? time ⟨l.nextSpan, name⟩)) :=
  run_within time (run_notes time rfl ns)

end Log.Logger

/-- What a file adds about names that were known before is about nothing else. -/
theorem mem_withRelocations {index : NameIndex} {ns : List Notice} {n : Notice}
    (h : n ∈ withRelocations index ns) : n ∈ ns ∨ n.isRelocated = true := by
  fun_induction withRelocations index ns with
  | case1 => cases h
  | case2 index name extent ns before ih =>
    rw [List.cons_append, List.mem_cons, List.mem_append] at h
    rcases h with rfl | h | h
    · exact .inl List.mem_cons_self
    · right
      simp only [before] at h
      split at h
      · rw [List.mem_singleton.1 h]
        rfl
      · cases h
    · exact (ih h).imp_left (List.mem_cons_of_mem _)
  | case3 index m ns hm ih =>
    rcases List.mem_cons.1 h with rfl | h
    · exact .inl List.mem_cons_self
    · exact (ih h).imp_left (List.mem_cons_of_mem _)

namespace Notice

/-- Said of a run, not of one of its files. -/
def isOfRun : Notice → Bool
  | lexicon | unreadable _ _ | allRead _ _ | started _ | completed _ => true
  | _ => false

theorem isOfRun_of_isOfFile {n : Notice} (h : n.isOfFile = true) : n.isOfRun = false := by
  cases n <;> first | rfl | cases h

theorem isOfRun_of_isRelocated {n : Notice} (h : n.isRelocated = true) : n.isOfRun = false := by
  cases n <;> first | rfl | cases h

end Notice

namespace Run

variable {π : Type} [PathLike π] (timeStep : Float) (readText : π → Except FileError String)

/-- What is said on the way through some files. What is said of a file has the number of the file,
where the files that can be opened are numbered from `k`; all else has none. -/
def said : Nat → Drawing → List π → List (Option Nat × Notice)
  | _, _, [] => []
  | k, d, path :: paths =>
    match readText path with
    | .error e => (none, .unreadable (PathLike.shown path) e) :: said k d paths
    | .ok text =>
      let r := file timeStep d (PathLike.shown path) text
      let more := match r.1 with
        | .error _ => []
        | .ok d' => said (k + 1) d' paths
      (notices r.2).map (some k, ·) ++ more

/-- What is said behind the files. -/
def closing (r : Except Failure Drawing) (count : Nat) : List Notice :=
  match r with
  | .ok d => [.allRead d.figures.length count]
  | .error _ => []

/-- All that is said in a run. -/
def everything (paths : List π) : List (Option Nat × Notice) :=
  said timeStep readText 0 .empty paths ++
    (closing (files timeStep readText .empty paths).1 paths.length).map (none, ·)

/-- The spans of a run that begins with the number `n`: the first one is its own, and the others are
those of its files. -/
def spanOf (n : Nat) : Option Nat → Log.Span
  | none => ⟨n, "parse"⟩
  | some k => ⟨n + 1 + k, "parse_file"⟩

/-- What passes of all that is said, each record in its span. -/
def recordsOf (l : Log.Logger) (time n : Nat) (xs : List (Option Nat × Notice)) : List Log.Record :=
  xs.filterMap fun x ↦ l.recordIn? time (spanOf n x.1) x.2

theorem recordsOf_append (l : Log.Logger) (time n : Nat) (xs ys : List (Option Nat × Notice)) :
    recordsOf l time n (xs ++ ys) = recordsOf l time n xs ++ recordsOf l time n ys :=
  List.filterMap_append

section File

variable (d : Drawing) (path text : String)

theorem events_file : (file timeStep d path text).2 =
    .enter "parse_file" :: (notices (file timeStep d path text).2).map .note ++ [.leave] := by
  rw [notices_file]
  rfl

theorem reading_mem_notices_file {other : String} :
    .reading other ∈ notices (file timeStep d path text).2 ↔ other = path := by
  rw [notices_file, List.mem_cons, Notice.reading.injEq]
  refine or_iff_left fun hmem ↦ ?_
  rcases mem_withRelocations hmem with hmem | hrelocated
  · cases isOfFile_of_readSheet timeStep d path text.toList _ hmem
  · cases hrelocated

theorem isOfRun_of_mem_notices_file {m : Notice} (h : m ∈ notices (file timeStep d path text).2) :
    m.isOfRun = false := by
  rw [notices_file, List.mem_cons] at h
  rcases h with rfl | h
  · rfl
  · rcases mem_withRelocations h with h | h
    · exact Notice.isOfRun_of_isOfFile (isOfFile_of_readSheet timeStep d path text.toList _ h)
    · exact Notice.isOfRun_of_isRelocated h

theorem owned_file {k : Nat} {x : Option Nat × Notice}
    (h : x ∈ (notices (file timeStep d path text).2).map (some k, ·)) :
    x.1 = none ↔ x.2.isOfRun = true := by
  obtain ⟨m, hm, rfl⟩ := List.mem_map.1 h
  simp [isOfRun_of_mem_notices_file timeStep d path text hm]

/-- While the `k`-th file is read, all is in its span. -/
theorem heard_file {l : Log.Logger} {n k : Nat} (time : Nat) (h : l.nextSpan = n + 1 + k) :
    l.run time (file timeStep d path text).2 = ({ l with nextSpan := l.nextSpan + 1 },
      recordsOf l time n ((notices (file timeStep d path text).2).map (some k, ·))) := by
  rw [events_file, Log.Logger.run_span, h, ← events_file, recordsOf, List.filterMap_map]
  rfl

end File

/-- On the way through `paths` these files are opened. They are numbered from `k`, and each takes a
span of its own. -/
structure Opens (n k : Nat) (d : Drawing) (paths opened : List π) : Prop where
  front : opened <+: readable readText paths
  whole : (files timeStep readText d paths).1.isOk = true → opened = readable readText paths
  numbered : ∀ j name, (some j, .reading name) ∈ said timeStep readText k d paths ↔
    (name, j) ∈ (opened.map PathLike.shown).zipIdx k
  owned : ∀ x ∈ said timeStep readText k d paths, x.1 = none ↔ x.2.isOfRun = true
  told : (said timeStep readText k d paths).map (·.2) = notices (files timeStep readText d paths).2
  heard : ∀ (l : Log.Logger) (spans : List Log.Span) (time : Nat),
    l.spans = spanOf n none :: spans →
    l.nextSpan = n + 1 + k → l.run time (files timeStep readText d paths).2 =
      ({ l with nextSpan := l.nextSpan + opened.length },
        recordsOf l time n (said timeStep readText k d paths))

section Cons

variable {timeStep readText} {n k : Nat} {d d' : Drawing} {path : π} {text : String}
  {paths opened : List π} {e : FileError} {f : Failure}

theorem files_cons_of_error (hr : readText path = .error e) :
    files timeStep readText d (path :: paths) = ((files timeStep readText d paths).1,
      [.unreadable (PathLike.shown path) e].map .note ++ (files timeStep readText d paths).2) := by
  rw [files, hr]
  rfl

theorem files_cons_of_failed (hr : readText path = .ok text)
    (hf : (file timeStep d (PathLike.shown path) text).1 = .error f) :
    files timeStep readText d (path :: paths) =
      (.error f, (file timeStep d (PathLike.shown path) text).2) := by
  rcases hfile : file timeStep d (PathLike.shown path) text with ⟨r, events⟩
  obtain rfl : r = .error f := by rw [← hf, hfile]
  simp only [files, hr, hfile]

theorem files_cons_of_ok (hr : readText path = .ok text)
    (hf : (file timeStep d (PathLike.shown path) text).1 = .ok d') :
    files timeStep readText d (path :: paths) = ((files timeStep readText d' paths).1,
      (file timeStep d (PathLike.shown path) text).2 ++ (files timeStep readText d' paths).2) := by
  rcases hfile : file timeStep d (PathLike.shown path) text with ⟨r, events⟩
  obtain rfl : r = .ok d' := by rw [← hf, hfile]
  simp only [files, hr, hfile]

theorem said_cons_of_error (hr : readText path = .error e) :
    said timeStep readText k d (path :: paths) =
      [(none, .unreadable (PathLike.shown path) e)] ++ said timeStep readText k d paths := by
  rw [said, hr]
  rfl

theorem said_cons_of_failed (hr : readText path = .ok text)
    (hf : (file timeStep d (PathLike.shown path) text).1 = .error f) :
    said timeStep readText k d (path :: paths) =
      (notices (file timeStep d (PathLike.shown path) text).2).map (some k, ·) := by
  simp only [said, hr, hf, List.append_nil]

theorem said_cons_of_ok (hr : readText path = .ok text)
    (hf : (file timeStep d (PathLike.shown path) text).1 = .ok d') :
    said timeStep readText k d (path :: paths) =
      (notices (file timeStep d (PathLike.shown path) text).2).map (some k, ·) ++
        said timeStep readText (k + 1) d' paths := by
  simp only [said, hr, hf]

theorem Opens.nil : Opens timeStep readText n k d [] [] where
  front := List.prefix_rfl
  whole _ := rfl
  numbered j path := by simp [said]
  owned x hx := by cases hx
  told := rfl
  heard _ _ _ _ _ := rfl

theorem Opens.skip (hr : readText path = .error e)
    (h : Opens timeStep readText n k d paths opened) :
    Opens timeStep readText n k d (path :: paths) opened where
  front := by
    rw [readable_cons_of_error paths hr]
    exact h.front
  whole := by
    rw [readable_cons_of_error paths hr, files_cons_of_error hr]
    exact h.whole
  numbered j other := by
    rw [said_cons_of_error hr, List.mem_append, h.numbered]
    exact or_iff_right (by simp)
  owned x hx := by
    rw [said_cons_of_error hr] at hx
    rcases List.mem_cons.1 hx with rfl | hx
    · exact iff_of_true rfl rfl
    · exact h.owned x hx
  told := by
    rw [said_cons_of_error hr, files_cons_of_error hr, List.map_append, notices_append,
      notices_map_note, h.told]
    rfl
  heard l spans time hspans hnext := by
    rw [said_cons_of_error hr, files_cons_of_error hr, Log.Logger.run_append,
      Log.Logger.run_notes time hspans, h.heard l spans time hspans hnext, recordsOf_append]
    rfl

/-- A file that cannot be understood is the last one. -/
theorem Opens.stop (hr : readText path = .ok text)
    (hf : (file timeStep d (PathLike.shown path) text).1 = .error f) :
    Opens timeStep readText n k d (path :: paths) [path] where
  front := by
    rw [readable_cons_of_ok paths hr]
    exact ⟨_, rfl⟩
  whole := by
    rw [files_cons_of_failed hr hf]
    exact fun h ↦ by cases h
  numbered j other := by
    rw [said_cons_of_failed hr hf]
    simp [reading_mem_notices_file, eq_comm, and_comm]
  owned x hx := by
    rw [said_cons_of_failed hr hf] at hx
    exact owned_file timeStep d _ text hx
  told := by
    rw [said_cons_of_failed hr hf, files_cons_of_failed hr hf, List.map_map]
    exact List.map_id _
  heard l spans time hspans hnext := by
    rw [said_cons_of_failed hr hf, files_cons_of_failed hr hf,
      heard_file timeStep d _ text time hnext]
    rfl

/-- Behind a file that can be understood the run goes on. -/
theorem Opens.cons (hr : readText path = .ok text)
    (hf : (file timeStep d (PathLike.shown path) text).1 = .ok d')
    (h : Opens timeStep readText n (k + 1) d' paths opened) :
    Opens timeStep readText n k d (path :: paths) (path :: opened) where
  front := by
    rw [readable_cons_of_ok paths hr]
    exact List.cons_prefix_cons.2 ⟨rfl, h.front⟩
  whole hok := by
    rw [files_cons_of_ok hr hf] at hok
    rw [readable_cons_of_ok paths hr, h.whole hok]
  numbered j other := by
    rw [said_cons_of_ok hr hf, List.mem_append, h.numbered, List.map_cons, List.zipIdx_cons,
      List.mem_cons]
    refine or_congr_left ?_
    simp [reading_mem_notices_file, eq_comm, and_comm]
  owned x hx := by
    rw [said_cons_of_ok hr hf] at hx
    rcases List.mem_append.1 hx with hx | hx
    · exact owned_file timeStep d _ text hx
    · exact h.owned x hx
  told := by
    rw [said_cons_of_ok hr hf, files_cons_of_ok hr hf, List.map_append, notices_append, h.told,
      List.map_map]
    exact congrArg (· ++ _) (List.map_id _)
  heard l spans time hspans hnext := by
    -- The file has used up one number, so the next one is that of the file behind it.
    have hrest :=
      h.heard { l with nextSpan := l.nextSpan + 1 } spans time hspans (congrArg (· + 1) hnext)
    rw [said_cons_of_ok hr hf, files_cons_of_ok hr hf, Log.Logger.run_append,
      heard_file timeStep d _ text time hnext]
    dsimp only
    rw [hrest, recordsOf_append, List.length_cons, Nat.add_right_comm l.nextSpan,
      Nat.add_assoc l.nextSpan]
    rfl

end Cons

theorem exists_opens (n k : Nat) (d : Drawing) (paths : List π) :
    ∃ opened, Opens timeStep readText n k d paths opened := by
  induction paths generalizing k d with
  | nil => exact ⟨[], .nil⟩
  | cons path paths ih =>
    cases hr : readText path with
    | error e =>
      obtain ⟨opened, h⟩ := ih k d
      exact ⟨opened, h.skip hr⟩
    | ok text =>
      cases hf : (file timeStep d (PathLike.shown path) text).1 with
      | error e => exact ⟨[path], .stop hr hf⟩
      | ok d' =>
        obtain ⟨opened, h⟩ := ih (k + 1) d'
        exact ⟨path :: opened, h.cons hr hf⟩

theorem events_all (paths : List π) :
    (all timeStep readText paths).2 = .enter "parse" :: ((files timeStep readText .empty paths).2 ++
      (closing (files timeStep readText .empty paths).1 paths.length).map .note) ++ [.leave] := by
  simp only [all, closing]
  cases (files timeStep readText .empty paths).1 <;> rfl

theorem notices_all (paths : List π) :
    notices (all timeStep readText paths).2 = notices (files timeStep readText .empty paths).2 ++
      closing (files timeStep readText .empty paths).1 paths.length := by
  let last := closing (files timeStep readText .empty paths).1 paths.length
  rw [events_all]
  change notices ((files timeStep readText .empty paths).2 ++ last.map .note ++ [.leave]) = _
  rw [notices_append, notices_append, notices_map_note]
  exact List.append_nil _

theorem isOfRun_of_mem_closing {r : Except Failure Drawing} {count : Nat} {m : Notice}
    (h : m ∈ closing r count) : m.isOfRun = true := by
  cases r with
  | error e => cases h
  | ok d =>
    obtain rfl := List.mem_singleton.1 h
    rfl

/-- The span of the run is around those of its files, and it is left behind them. -/
theorem heard_all {timeStep : Float} {readText : π → Except FileError String}
    {paths opened : List π} {l : Log.Logger} (time : Nat)
    (h : Opens timeStep readText l.nextSpan 0 .empty paths opened) :
    l.run time (all timeStep readText paths).2 =
      ({ l with nextSpan := l.nextSpan + 1 + opened.length },
      recordsOf l time l.nextSpan (everything timeStep readText paths)) := by
  let last := closing (files timeStep readText .empty paths).1 paths.length
  let behind : Log.Logger := { l.enter "parse" with nextSpan := l.nextSpan + 1 + opened.length }
  have hfiles : (l.enter "parse").run time (files timeStep readText .empty paths).2 =
      (behind, recordsOf l time l.nextSpan (said timeStep readText 0 .empty paths)) :=
    h.heard (l.enter "parse") l.spans time rfl rfl
  have hlast : behind.run time (last.map .note) =
      (behind, recordsOf l time l.nextSpan (last.map (none, ·))) := by
    rw [Log.Logger.run_notes time (l := behind) (s := spanOf l.nextSpan none) rfl last, recordsOf,
      List.filterMap_map]
    rfl
  have hwithin : (l.enter "parse").run time
    ((files timeStep readText .empty paths).2 ++ last.map .note) =
      (behind, recordsOf l time l.nextSpan (everything timeStep readText paths)) := by
    rw [Log.Logger.run_append, hfiles, hlast, everything, recordsOf_append]
  rw [events_all]
  exact Log.Logger.run_within time hwithin

/-- A run has a span for itself and one for each file that it opens, and these are numbered as the
files follow each other. What is said of a file is recorded in the span of this file, all else in
that of the run. Behind the run, whether it fails or not, the same spans are open as before it. -/
theorem all_spans (paths : List π) (l : Log.Logger) (time : Nat) :
    let r := all timeStep readText paths
    let told := everything timeStep readText paths
    told.map (·.2) = notices r.2 ∧
    (l.run time r.2).2 = recordsOf l time l.nextSpan told ∧
    (∀ x ∈ told, x.1 = none ↔ x.2.isOfRun = true) ∧
    ∃ opened, opened <+: readable readText paths ∧
      (r.1.isOk = true → opened = readable readText paths) ∧
      (∀ k name, (some k, .reading name) ∈ told ↔ (opened[k]?).map PathLike.shown = some name) ∧
      (l.run time r.2).1 = { l with nextSpan := l.nextSpan + 1 + opened.length } := by
  intro r told
  obtain ⟨opened, h⟩ := exists_opens timeStep readText l.nextSpan 0 .empty paths
  let last := closing (files timeStep readText .empty paths).1 paths.length
  have htold : told = said timeStep readText 0 .empty paths ++ last.map (none, ·) := rfl
  have hlast : ∀ x ∈ last.map ((none : Option Nat), ·), x.1 = none ∧ x.2.isOfRun = true := by
    intro x hx
    obtain ⟨m, hm, rfl⟩ := List.mem_map.1 hx
    exact ⟨rfl, isOfRun_of_mem_closing hm⟩
  rw [heard_all time h]
  refine ⟨?_, rfl, fun x hx ↦ ?_, opened, h.front, h.whole, fun k name ↦ ?_, rfl⟩
  · have hmap : (last.map ((none : Option Nat), ·)).map (·.2) = last := by
      rw [List.map_map]
      exact List.map_id _
    rw [htold, List.map_append, h.told, hmap]
    exact (notices_all timeStep readText paths).symm
  · rcases List.mem_append.1 hx with hx | hx
    · exact h.owned x hx
    · exact iff_of_true (hlast x hx).1 (hlast x hx).2
  · rw [← List.getElem?_map, ← List.mk_mem_zipIdx_iff_getElem?, ← h.numbered]
    refine List.mem_append.trans (or_iff_left fun hmem ↦ ?_)
    cases (hlast _ hmem).1

end Run

end Harmonograph
