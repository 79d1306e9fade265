import Harmonograph.Figure.Basic
import Mathlib.Data.List.Induction

/-!
Figures that are made of finite fields. All their values are finite but the phase of a generator,
which is a product: that of the last start phase among the fields and of the period that the
frequency had there.
-/

namespace Harmonograph

def Point.IsFinite (p : Point) : Prop := Binary64.isFinite p.x ∧ Binary64.isFinite p.y

def Colour.IsFinite (c : Colour) : Prop :=
  Binary64.isFinite c.red ∧ Binary64.isFinite c.green ∧ Binary64.isFinite c.blue ∧
    Binary64.isFinite c.alpha

/-- All numbers of the field are finite. -/
def GeneratorField.IsFinite : GeneratorField → Prop
  | .center p | .direction p => p.IsFinite
  | .frequency x | .startPhase x | .amplitude x => Binary64.isFinite x
  | .colour c => c.IsFinite
  | .motion _ | .name _ => True

def GeneratorField.frequency? : GeneratorField → Option Float
  | .frequency x => some x
  | _ => none

def GroupField.IsFinite : GroupField → Prop
  | .center p => p.IsFinite
  | .colour c => c.IsFinite
  | .cycles x => Binary64.isFinite x
  | .name _ => True

/-- The phase of a generator. A group has none. -/
def Figure.phase? : Figure → Option Float
  | .generator g => some g.frequency.phase
  | .group _ => none

structure Group.IsFinite (g : Group) : Prop where
  cycles : Binary64.isFinite g.cycles
  center : g.center.IsFinite
  colour : g.colour.IsFinite

/-- All values of the generator are finite, whatever its phase. -/
structure Generator.IsFiniteButPhase (g : Generator) : Prop where
  amplitude : Binary64.isFinite g.amplitude
  frequency : Binary64.isFinite g.frequency.value
  direction : g.direction.IsFinite
  center : g.center.IsFinite
  colour : g.colour.IsFinite

theorem isFinite_small : Binary64.isFinite 0 ∧ Binary64.isFinite 1 ∧ Binary64.isFinite (-1) := by
  decide +kernel

theorem Point.isFinite_zero : Point.zero.IsFinite := ⟨isFinite_small.1, isFinite_small.1⟩

theorem Colour.isFinite_black : Colour.black.IsFinite :=
  ⟨isFinite_small.1, isFinite_small.1, isFinite_small.1, isFinite_small.2.1⟩

namespace Group

theorem isFinite_blank : blank.IsFinite :=
  ⟨isFinite_small.1, Point.isFinite_zero, Colour.isFinite_black⟩

theorem IsFinite.assign {g : Group} (h : g.IsFinite) {f : GroupField} (hf : f.IsFinite) :
    (g.assign f).IsFinite := by
  cases f with
  | name s => exact ⟨h.cycles, h.center, h.colour⟩
  | center p => exact ⟨h.cycles, hf, h.colour⟩
  | colour c => exact ⟨h.cycles, h.center, hf⟩
  | cycles x => exact ⟨hf, h.center, h.colour⟩

end Group

namespace Generator

theorem isFiniteButPhase_blank : blank.IsFiniteButPhase where
  amplitude := isFinite_small.2.1
  frequency := isFinite_small.2.2
  direction := ⟨isFinite_small.2.1, isFinite_small.1⟩
  center := Point.isFinite_zero
  colour := Colour.isFinite_black

theorem IsFiniteButPhase.assign {g : Generator} (h : g.IsFiniteButPhase) {f : GeneratorField}
    (hf : f.IsFinite) : (g.assign f).IsFiniteButPhase := by
  cases f with
  | motion m => exact { h with }
  | name s => exact { h with }
  | center p => exact { h with center := hf }
  | direction p => exact { h with direction := hf }
  | frequency x => exact { h with frequency := hf }
  | startPhase x => exact { h with }
  | amplitude x => exact { h with amplitude := hf }
  | colour c => exact { h with colour := hf }

/-- The generator that is made of some fields. -/
def ofFields (fields : List GeneratorField) : Generator := fields.foldl assign blank

variable {fields : List GeneratorField}

theorem isFiniteButPhase_ofFields (h : ∀ f ∈ fields, f.IsFinite) :
    (ofFields fields).IsFiniteButPhase := by
  have hall : ∀ g : Generator, g.IsFiniteButPhase → (fields.foldl assign g).IsFiniteButPhase := by
    induction fields with
    | nil => exact fun _ hg ↦ hg
    | cons f fields ih =>
      intro g hg
      have hf := h f List.mem_cons_self
      exact ih (fun f' hf' ↦ h f' (List.mem_cons_of_mem f hf')) _ (hg.assign hf)
  exact hall _ isFiniteButPhase_blank

/-- The frequency that the fields come to: the last one among them, or that of a generator without
any. -/
def frequencyOf (fields : List GeneratorField) : Float :=
  (fields.filterMap GeneratorField.frequency?).getLast?.getD Frequency.unset.value

/-- The last start phase among the fields is `x`, and is given where the frequency is `f`. -/
def LastStart (fields : List GeneratorField) (x f : Float) : Prop :=
  ∃ before after, fields = before ++ .startPhase x :: after ∧ (∀ y, .startPhase y ∉ after) ∧
    f = frequencyOf before

theorem frequency_ofFields (fields : List GeneratorField) :
    (ofFields fields).frequency.value = frequencyOf fields := by
  -- the generator changes along the list, so the law is proved from every one
  have hall : ∀ g : Generator, (fields.foldl assign g).frequency.value =
      (fields.filterMap GeneratorField.frequency?).getLast?.getD g.frequency.value := by
    induction fields with
    | nil => exact fun _ ↦ rfl
    | cons f fields ih =>
      intro g
      rw [List.foldl_cons, ih]
      cases f with
      | frequency x => exact congrArg (Option.getD · _) List.getLast?_cons.symm
      | _ => rfl
  exact hall blank

theorem phase_foldl {after : List GeneratorField} (h : ∀ y, .startPhase y ∉ after) (g : Generator) :
    (after.foldl assign g).frequency.phase = g.frequency.phase := by
  induction after generalizing g with
  | nil => rfl
  | cons f after ih =>
    rw [List.foldl_cons, ih fun y hy ↦ h y (List.mem_cons_of_mem f hy)]
    cases f with
    | startPhase y => exact absurd List.mem_cons_self (h y)
    | _ => rfl

theorem exists_lastStart {y : Float} (h : .startPhase y ∈ fields) :
    ∃ x f, LastStart fields x f := by
  induction fields using List.reverseRecOn with
  | nil => exact absurd h List.not_mem_nil
  | append_singleton fields f ih =>
    by_cases hf : ∃ x, f = .startPhase x
    · obtain ⟨x, rfl⟩ := hf
      exact ⟨x, _, fields, [], rfl, fun _ ↦ List.not_mem_nil, rfl⟩
    · have hne : ∀ x, .startPhase x ∉ [f] := fun x hx ↦ hf ⟨x, (List.mem_singleton.1 hx).symm⟩
      have hmem := (List.mem_append.1 h).resolve_right (hne y)
      obtain ⟨x, frequency, before, after, rfl, hafter, hfrequency⟩ := ih hmem
      refine ⟨x, frequency, before, after ++ [f], ?_, ?_, hfrequency⟩
      · rw [List.append_assoc, List.cons_append]
      · intro z hz
        exact (List.mem_append.1 hz).elim (hafter z) (hne z)

/-- The phase is that of the last start phase, and none without one. -/
theorem phase_ofFields (fields : List GeneratorField) :
    (∀ x f, LastStart fields x f → (ofFields fields).frequency.phase = x * (1 / f)) ∧
    ((∀ y, .startPhase y ∉ fields) → (ofFields fields).frequency.phase = 0) := by
  constructor
  · rintro x f ⟨before, after, rfl, hafter, rfl⟩
    rw [ofFields, List.foldl_append, List.foldl_cons, phase_foldl hafter, ← frequency_ofFields]
    rfl
  · exact fun hnone ↦ phase_foldl hnone blank

theorem isFinite_phase_iff : Binary64.isFinite (ofFields fields).frequency.phase ↔
    ∀ x f, LastStart fields x f → Binary64.isFinite (x * (1 / f)) := by
  obtain ⟨hlast, hnone⟩ := phase_ofFields fields
  constructor
  · intro h x f hxf
    rwa [← hlast x f hxf]
  · intro h
    by_cases hstart : ∃ y, .startPhase y ∈ fields
    · obtain ⟨y, hy⟩ := hstart
      obtain ⟨x, f, hxf⟩ := exists_lastStart hy
      rw [hlast x f hxf]
      exact h x f hxf
    · rw [hnone fun y hy ↦ hstart ⟨y, hy⟩]
      exact isFinite_small.1

end Generator

end Harmonograph
