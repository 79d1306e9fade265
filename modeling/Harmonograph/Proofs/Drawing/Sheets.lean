import Harmonograph.Proofs.Figure.Members
import Harmonograph.Proofs.Reading.Items
import Mathlib.Data.List.Nodup

/-!
The shape of a drawing: the generators and the group of each file stand together, file after file,
and a group has exactly the generators of its own file as members.
-/

namespace Harmonograph

/-- What one file adds to a drawing. -/
structure Sheet where
  generators : List Generator
  group : Group

namespace Sheet

/-- The generators in the order in which they are read, and the group behind them. -/
def figures (s : Sheet) : List Figure := s.generators.map .generator ++ [.group s.group]

def allFigures (ss : List Sheet) : List Figure := ss.flatMap figures

/-- How many figures stand before sheet `k`. -/
def base (ss : List Sheet) (k : Nat) : Nat := (allFigures (ss.take k)).length

/-- The sheet is complete, and numbered as the figures behind `n` others. -/
structure Fits (timeStep : Float) (n : Nat) (s : Sheet) : Prop where
  finished : ∀ g ∈ s.generators, g.Finished timeStep
  members : s.group.members = List.range' n s.generators.length
  bufferSize : s.group.bufferSize = s.group.bufferHint (s.generators.map (·.bufferSize))

section Places

variable {ss : List Sheet} {s : Sheet} {k n : Nat}

theorem length_figures (s : Sheet) : s.figures.length = s.generators.length + 1 := by
  simp [figures]

theorem allFigures_append (ss ts : List Sheet) :
    allFigures (ss ++ ts) = allFigures ss ++ allFigures ts := List.flatMap_append

theorem allFigures_split (h : ss[k]? = some s) :
    allFigures ss = allFigures (ss.take k) ++ s.figures ++ allFigures (ss.drop (k + 1)) := by
  obtain ⟨hk, hs⟩ := List.getElem?_eq_some_iff.1 h
  calc
    allFigures ss = allFigures (ss.take k ++ s :: ss.drop (k + 1)) := by
      rw [← hs, ← List.drop_eq_getElem_cons hk, List.take_append_drop]
    _ = allFigures (ss.take k) ++ s.figures ++ allFigures (ss.drop (k + 1)) := by
      rw [allFigures_append, List.append_assoc]
      rfl

theorem base_succ (h : ss[k]? = some s) : base ss (k + 1) = base ss k + s.figures.length := by
  unfold base
  rw [List.take_add_one, h, allFigures_append, List.length_append]
  simp [allFigures]

theorem base_mono (ss : List Sheet) {j k : Nat} (h : j ≤ k) : base ss j ≤ base ss k := by
  obtain ⟨m, rfl⟩ := Nat.exists_eq_add_of_le h
  rw [base, base, List.take_add, allFigures_append, List.length_append]
  exact Nat.le_add_right _ _

/-- Sheets do not overlap. -/
theorem base_add_le {j : Nat} (h : ss[j]? = some s) (hk : j < k) :
    base ss j + s.generators.length < base ss k := by
  have hsucc := base_succ h
  have hmono := base_mono ss (show j + 1 ≤ k from hk)
  rw [length_figures] at hsucc
  omega

theorem allFigures_getElem? (h : ss[k]? = some s) (hn : n < s.figures.length) :
    (allFigures ss)[base ss k + n]? = s.figures[n]? := by
  rw [allFigures_split h, List.append_assoc, base,
    List.getElem?_append_right (Nat.le_add_right _ _), Nat.add_sub_cancel_left,
    List.getElem?_append_left hn]

/-- Every figure stands in a sheet. -/
theorem exists_place {i : Nat} {f : Figure} (h : (allFigures ss)[i]? = some f) :
    ∃ k s n, ss[k]? = some s ∧ i = base ss k + n ∧ s.figures[n]? = some f := by
  induction ss generalizing i with
  | nil => cases h
  | cons s ss ih =>
    have hcons : allFigures (s :: ss) = s.figures ++ allFigures ss := rfl
    rw [hcons] at h
    by_cases hi : i < s.figures.length
    · rw [List.getElem?_append_left hi] at h
      exact ⟨0, s, i, rfl, (Nat.zero_add i).symm, h⟩
    · rw [List.getElem?_append_right (Nat.not_lt.1 hi)] at h
      obtain ⟨k, t, n, hk, hn, hf⟩ := ih h
      refine ⟨k + 1, t, n, hk, ?_, hf⟩
      have hbase : base (s :: ss) (k + 1) = s.figures.length + base ss k := List.length_append
      omega

theorem generator_of_figures {g : Generator} (h : s.figures[n]? = some (.generator g)) :
    n < s.generators.length ∧ g ∈ s.generators := by
  unfold figures at h
  by_cases hn : n < s.generators.length
  · rw [List.getElem?_append_left (by simpa using hn), List.getElem?_map] at h
    obtain ⟨g', hg, he⟩ := Option.map_eq_some_iff.1 h
    obtain rfl := Figure.generator.inj he
    exact ⟨hn, List.mem_of_getElem? hg⟩
  · rw [List.getElem?_append_right (by simpa using hn), List.getElem?_singleton] at h
    split at h <;> cases h

theorem group_of_figures {g : Group} (h : s.figures[n]? = some (.group g)) :
    n = s.generators.length ∧ g = s.group := by
  unfold figures at h
  by_cases hn : n < s.generators.length
  · rw [List.getElem?_append_left (by simpa using hn), List.getElem?_map] at h
    obtain ⟨g', -, he⟩ := Option.map_eq_some_iff.1 h
    cases he
  · rw [List.getElem?_append_right (by simpa using hn), List.getElem?_singleton] at h
    split at h
    case isTrue h₀ =>
      cases h
      rw [List.length_map] at h₀
      exact ⟨by omega, rfl⟩
    case isFalse => cases h

theorem figures_getElem? (hn : n < s.generators.length) :
    s.figures[n]? = some (.generator s.generators[n]) := by
  rw [figures, List.getElem?_append_left (by simpa using hn), List.getElem?_map,
    List.getElem?_eq_getElem hn]
  rfl

theorem figures_getElem?_length (s : Sheet) :
    s.figures[s.generators.length]? = some (.group s.group) := by
  simp [figures]

end Places

section Members

variable {timeStep : Float} {ss : List Sheet} {d : Drawing}

/-- Each of the sheets fits behind those before it. -/
def FitAll (timeStep : Float) (ss : List Sheet) : Prop :=
  ∀ (k : Nat) (s : Sheet), ss[k]? = some s → s.Fits timeStep (base ss k)

/-- A number of a member counts the figures before the generator: those before the sheet, and the
generators of the sheet before this one. -/
theorem Fits.mem_members {s : Sheet} {n i : Nat} (h : s.Fits timeStep n) :
    i ∈ s.group.members ↔ n ≤ i ∧ i < n + s.generators.length := by
  rw [h.members, List.mem_range'_1]

theorem Fits.count_members {s : Sheet} {n i : Nat} (h : s.Fits timeStep n)
    (hi : i ∈ s.group.members) : s.group.members.count i = 1 := by
  rw [h.members] at hi ⊢
  exact List.count_eq_one_of_mem List.nodup_range' hi

/-- A generator is complete, and belongs to one group only, once. -/
theorem owner_of_generator (h : FitAll timeStep ss) (hd : d.figures = allFigures ss) {i : Nat}
    {g : Generator} (hg : d.get? i = some (.generator g)) :
    g.Finished timeStep ∧ ∃ j owner, d.get? j = some (.group owner) ∧ owner.members.count i = 1 ∧
      ∀ j' owner', d.get? j' = some (.group owner') → i ∈ owner'.members → j' = j := by
  simp only [Drawing.get?, hd] at hg ⊢
  obtain ⟨k, s, n, hs, rfl, hf⟩ := exists_place hg
  obtain ⟨hn, hmem⟩ := generator_of_figures hf
  have hfit := h k s hs
  have hi : base ss k + n ∈ s.group.members := hfit.mem_members.2 (by omega)
  have howner : (allFigures ss)[base ss k + s.generators.length]? = some (.group s.group) := by
    rw [allFigures_getElem? hs (by simp [length_figures]), figures_getElem?_length]
  refine ⟨hfit.finished g hmem, _, s.group, howner, hfit.count_members hi, ?_⟩
  intro j' owner' hj' hi'
  obtain ⟨k', s', n', hs', rfl, hf'⟩ := exists_place hj'
  obtain ⟨rfl, rfl⟩ := group_of_figures hf'
  obtain ⟨hle, hlt⟩ := (h k' s' hs').mem_members.1 hi'
  rcases Nat.lt_trichotomy k k' with hk | rfl | hk
  · have hbefore := base_add_le hs hk
    omega
  · obtain rfl : s = s' := Option.some.inj (hs.symm.trans hs')
    rfl
  · have hbefore := base_add_le hs' hk
    omega

/-- A group belongs to one sheet, and its members are the generators of this sheet. -/
theorem members_of_group (h : FitAll timeStep ss) (hd : d.figures = allFigures ss) {j : Nat}
    {g : Group} (hg : d.get? j = some (.group g)) :
    (∀ i ∈ g.members, ∃ m, d.get? i = some (.generator m)) ∧
      g.bufferSize = g.bufferHint ((d.members g).map Figure.bufferSize) := by
  have hj : (allFigures ss)[j]? = some (.group g) := by
    rw [← hd]
    exact hg
  obtain ⟨k, s, n, hs, rfl, hf⟩ := exists_place hj
  obtain ⟨rfl, rfl⟩ := group_of_figures hf
  have hfit := h k s hs
  constructor
  · intro i hi
    obtain ⟨hle, hlt⟩ := hfit.mem_members.1 hi
    obtain ⟨n, rfl⟩ := Nat.exists_eq_add_of_le hle
    have hn : n < s.generators.length := by omega
    refine ⟨s.generators[n], ?_⟩
    rw [Drawing.get?, hd, allFigures_getElem? hs (by rw [length_figures]; omega),
      figures_getElem? hn]
  · have hmembers : d.members s.group = s.generators.map .generator := by
      refine Drawing.members_eq (allFigures (ss.take k)) _
        ([.group s.group] ++ allFigures (ss.drop (k + 1))) ?_ ?_
      · rw [hd, allFigures_split hs, figures]
        simp
      · rw [hfit.members, List.length_map, base]
    rw [hmembers, List.map_map]
    exact hfit.bufferSize

end Members

end Sheet

end Harmonograph
