import Harmonograph.Proofs.Drawing.ChartedRun

/-!
The index of a drawing against its figures and the log of the run. Each figure gives its name an
entry, so an entry is missing just where a name has been taken over, and each time that is said.
-/

namespace Harmonograph

namespace Notice

/-- How the text of a warning begins. -/
def warningHead : Notice → String
  | unreadable _ _ => "couldn't open file '"
  | relocated _ _ => "overwriting location of '"
  | negativeCycles _ _ => "composite '"
  | _ => ""

theorem message_of_warning {n : Notice} (h : n.level = .warn) :
    ∃ rest, n.message = n.warningHead ++ rest := by
  cases n with
  | unreadable file error =>
    have hmessage : (unreadable file error).message =
        "couldn't open file '" ++ file ++ "': " ++ error.message := rfl
    exact ⟨_, by rw [hmessage, String.append_assoc, String.append_assoc, warningHead]⟩
  | relocated name previous =>
    have hmessage : (relocated name previous).message =
        "overwriting location of '" ++ name ++ "', previously " ++ previous.text := rfl
    exact ⟨_, by rw [hmessage, String.append_assoc, String.append_assoc, warningHead]⟩
  | negativeCycles name cycles =>
    have hmessage : (negativeCycles name cycles).message = "composite '" ++ name ++
        "' has negative cycles " ++ numberText cycles ++ ", buffer hint clamped to 0" := rfl
    exact ⟨_, by rw [hmessage, String.append_assoc, String.append_assoc, String.append_assoc,
      warningHead]⟩
  | _ => cases h

theorem isWarning_of_warning {n : Notice} (h : n.level = .warn) :
    ∃ rest, ∀ head : String, (Log.Message.of n).isWarning head =
      head.toList.isPrefixOf (n.warningHead.toList ++ rest) := by
  obtain ⟨rest, hrest⟩ := message_of_warning h
  have hlevel : (Log.Message.of n).level = .warn := h
  have htext : (Log.Message.of n).text = n.warningHead ++ rest := hrest
  refine ⟨rest.toList, fun head ↦ ?_⟩
  rw [Log.Message.isWarning, hlevel, htext, String.toList_append]
  exact Bool.true_and _

theorem isWarning_of_ne {n : Notice} (h : n.level ≠ .warn) (head : String) :
    (Log.Message.of n).isWarning head = false := by
  have hlevel : decide ((Log.Message.of n).level = .warn) = false := decide_eq_false h
  rw [Log.Message.isWarning, hlevel]
  exact Bool.false_and _

/-- The texts tell apart what the warnings are about. -/
theorem isWarning_eq (n : Notice) :
    (Log.Message.of n).isWarning "overwriting location" = n.isRelocated ∧
    (Log.Message.of n).isWarning "couldn't open file" = n.isUnreadable := by
  by_cases h : n.level = .warn
  · obtain ⟨rest, hrest⟩ := isWarning_of_warning h
    rw [hrest, hrest]
    cases n with
    | unreadable file error => rw [warningHead]; exact ⟨rfl, rfl⟩
    | relocated name previous => rw [warningHead]; exact ⟨rfl, rfl⟩
    | negativeCycles name cycles => rw [warningHead]; exact ⟨rfl, rfl⟩
    | _ => cases h
  · rw [isWarning_of_ne h, isWarning_of_ne h]
    cases n <;> first | exact ⟨rfl, rfl⟩ | exact absurd rfl h

end Notice

namespace Log.Logger

/-- A logger that lets warnings pass records as many of them as are said. -/
theorem countP_isWarning_run {l : Logger} (hl : l.isEnabled .warn = true) (time : Nat)
    (head : String) (events : List RunEvent) :
    (l.run time events).2.countP (·.toMessage.isWarning head) =
      (Run.notices events).countP fun n ↦ (Message.of n).isWarning head := by
  refine l.countP_run time (fun m hm ↦ ?_) events
  have hlevel : m.level = .warn := by
    simp only [Message.isWarning, Bool.and_eq_true, decide_eq_true_eq] at hm
    exact hm.1
  rw [hlevel]
  exact hl

end Log.Logger

namespace Run

variable {π : Type} [PathLike π] {timeStep : Float} {readText : π → Except FileError String}
  {paths : List π} {d : Drawing} {events : List RunEvent}

/-- The index has the names of the figures and no others. A name leads to the place of the same
figure, the last one of this name, in both. Each figure that has lost its entry has a warning, and
each path has a group or a warning. -/
theorem all_index (h : all timeStep readText paths = (.ok d, events)) :
    (∀ name, name ∈ d.index ↔ ∃ f ∈ d.figures, f.name = name) ∧
    (∃ charts : List Chart, List.Forall₂ (IsChartOf readText) charts (readable readText paths) ∧
      let ds := charts.flatMap (·.definitions)
      d.figures = ds.map (·.1) ∧ definitions events = ds.map Figure.named ∧
      ∀ name, d.find? name = (ds.findRev? (·.1.name == name)).map (·.1) ∧
        d.index[name]? = (ds.findRev? (·.1.name == name)).map (·.2)) ∧
    ∀ (l : Log.Logger) (time : Nat), l.isEnabled .warn = true →
      let records := (l.run time events).2
      records.countP (·.toMessage.isWarning "overwriting location") + d.index.size =
        d.figures.length ∧
      records.countP (·.toMessage.isWarning "couldn't open file") + d.groups.length =
        paths.length := by
  obtain ⟨charts, hcharts⟩ := exists_charted_all h
  obtain rfl : d = .ofCharts charts := hcharts.drawing
  have hfigures := Drawing.figures_ofCharts charts
  refine ⟨?_, ⟨charts, hcharts.files, hfigures, hcharts.definitions,
    fun name ↦ Drawing.find?_defineAll_empty name⟩, ?_⟩
  · intro name
    have hindex : (Drawing.ofCharts charts).index[name]? = _ :=
      (Drawing.find?_defineAll_empty name).2
    rw [Std.TreeMap.mem_iff_isSome_getElem?, hindex, Option.isSome_map,
      List.findRev?_eq_find?_reverse, List.find?_isSome, hfigures]
    simp
  · intro l time hl
    have hrelocated := hcharts.relocated
    have hunreadable := hcharts.unreadable
    simp only [Log.Logger.countP_isWarning_run hl, (Notice.isWarning_eq _).1,
      (Notice.isWarning_eq _).2]
    rw [hfigures, List.length_map, Drawing.groups_ofCharts, List.length_map]
    refine ⟨hrelocated.trans ?_, hunreadable⟩
    exact Nat.zero_add _

/-- All figures have the same name, and the second of the files `a`, `b` and `c` cannot be
opened. -/
def oneName (path : String) : Except FileError String :=
  match path with
  | "a" => .ok "\x7bname: X type: rotation frequency: 2\x7d name: X"
  | "c" => .ok "name: X cycles: 2"
  | _ => .error (.notFound path)

theorem all_index_of_one_name : ∃ d events, all 0.5 oneName ["a", "b", "c"] = (.ok d, events) ∧
    d.figures.map Figure.name = ["X", "X", "X"] ∧ (∀ name, name ∈ d.index ↔ name = "X") ∧
    ((Log.Logger.ofLevel .warn).run 0 events).2.countP
      (·.toMessage.isWarning "overwriting location") + d.index.size = 3 ∧
    ((Log.Logger.ofLevel .warn).run 0 events).2.countP
      (·.toMessage.isWarning "couldn't open file") + d.groups.length = 3 := by
  have hnames : (all 0.5 oneName ["a", "b", "c"]).1.toOption.map (·.figures.map Figure.name) =
      some ["X", "X", "X"] := by
    decide +kernel
  obtain ⟨d, hd, hnames⟩ := exists_ok_of_map_toOption hnames
  have hrun : all 0.5 oneName ["a", "b", "c"] = (.ok d, (all 0.5 oneName ["a", "b", "c"]).2) :=
    Prod.ext hd rfl
  have hlength : d.figures.length = 3 := by
    have := congrArg List.length hnames
    rwa [List.length_map] at this
  obtain ⟨hindex, -, hcount⟩ := all_index hrun
  obtain ⟨hrelocated, hunreadable⟩ := hcount (.ofLevel .warn) 0 rfl
  refine ⟨d, _, hrun, hnames, fun name ↦ ?_, hrelocated.trans hlength, hunreadable⟩
  rw [hindex, ← List.mem_map, hnames]
  simp

end Run

end Harmonograph
