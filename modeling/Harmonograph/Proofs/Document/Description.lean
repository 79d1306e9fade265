import Harmonograph.Proofs.Document.Grammar
import Harmonograph.Proofs.Number.Positive
import Mathlib.Data.List.Induction

/-!
What documents describe, said without reading. A part of a figure is what the last field for it
says, and a field in front of another makes no difference to it, but for the frequency in front of a
start phase. The fields can as well be assigned from left to right, and this comes to the same.
-/

namespace Harmonograph

open Reading (BlockItem)

namespace Document

section Fields

variable {φ α : Type} (value? : φ → Option α) (usual : α)

/-- What the last field that says something says, or what is usual. -/
def lastOf (fs : List φ) : α := (fs.filterMap value?).getLastD usual

theorem lastOf_concat (fs : List φ) (f : φ) :
    lastOf value? usual (fs ++ [f]) = (value? f).getD (lastOf value? usual fs) := by
  rw [lastOf, List.filterMap_append, lastOf]
  cases h : value? f <;> simp [h]

end Fields

/-- The fields of a block, without its comments. -/
def blockFields : List BlockItem → List GeneratorField
  | [] => []
  | .comment :: items => blockFields items
  | .field f :: items => f :: blockFields items

/-- The fields of a document that stand outside of its blocks. -/
def groupFields : List DocumentItem → List GroupField
  | [] => []
  | .field f :: doc => f :: groupFields doc
  | _ :: doc => groupFields doc

def frequency (fs : List GeneratorField) : Float :=
  lastOf (fun | .frequency x => some x | _ => none) (-1) fs

/-- The phase in seconds that a field gives. It is given as a part of the period, which is that of
the frequency in front of it. -/
def phase? (fs : List GeneratorField) : GeneratorField × Nat → Option Float
  | (.startPhase x, i) => some (x * (1 / frequency (fs.take i)))
  | _ => none

/-- The generator that some fields describe. -/
def generatorOf (fs : List GeneratorField) : Generator where
  name := lastOf (fun | .name s => some s | _ => none) "" fs
  motion := lastOf (fun | .motion m => some m | _ => none) .invalid fs
  amplitude := lastOf (fun | .amplitude x => some x | _ => none) 1 fs
  frequency := ⟨frequency fs, lastOf (phase? fs) 0 fs.zipIdx⟩
  direction := lastOf (fun | .direction p => some p | _ => none) ⟨1, 0⟩ fs
  center := lastOf (fun | .center p => some p | _ => none) ⟨0, 0⟩ fs
  colour := lastOf (fun | .colour c => some c | _ => none) ⟨0, 0, 0, 1⟩ fs
  bufferSize := 0

/-- The group that some fields describe, without its members. -/
def groupOf (fs : List GroupField) : Group where
  name := lastOf (fun | .name s => some s | _ => none) "" fs
  members := []
  cycles := lastOf (fun | .cycles x => some x | _ => none) 0 fs
  center := lastOf (fun | .center p => some p | _ => none) ⟨0, 0⟩ fs
  colour := lastOf (fun | .colour c => some c | _ => none) ⟨0, 0, 0, 1⟩ fs
  bufferSize := 0

section Rules

variable (g : Generator)

/-- What a generator must not do. -/
def Breaks : Flaw → Prop
  | .invalidMotion => g.motion = .invalid
  | .nonPositiveFrequency => ¬ 0 < g.frequency.value
  | .nonPositiveAmplitude => ¬ 0 < g.amplitude
  | .zeroDirection => g.motion = .oscillation ∧ g.direction.norm == 0

instance : DecidablePred (Breaks g)
  | .invalidMotion => inferInstanceAs (Decidable (_ = _))
  | .nonPositiveFrequency => inferInstanceAs (Decidable (¬ _))
  | .nonPositiveAmplitude => inferInstanceAs (Decidable (¬ _))
  | .zeroDirection => inferInstanceAs (Decidable (_ ∧ _))

/-- All rules that a generator breaks. -/
def broken : List Flaw :=
  [.invalidMotion, .nonPositiveFrequency, .nonPositiveAmplitude, .zeroDirection].filter (Breaks g)

/-- How many time steps there are in an eighth of a period, or in three quarters for a rotation. -/
def samples (timeStep : Float) : Nat :=
  let part := match g.motion with
    | .oscillation => 0.125
    | .rotation => 0.75
    | .invalid => 0
  Count.rounded (part * (1 / g.frequency.value) / timeStep)

end Rules

/-- The buffer of a group: the largest of its members' buffers, as often as the group has cycles.
Without cycles it is the largest itself, and with less than none it is empty. -/
def groupSamples (cycles : Float) (sizes : List Nat) : Nat :=
  let most := sizes.max?.getD 0
  let size := cycles * Binary64.ofNat most
  if cycles == 0 then most else if 0 < size then Count.truncated size else 0

/-- The generators of all blocks, without their buffers. -/
def generators : List DocumentItem → List Generator
  | [] => []
  | .block items :: doc => generatorOf (blockFields items) :: generators doc
  | _ :: doc => generators doc

/-- The figures of a document: its generators, each with its buffer, and then the group of all of
them. -/
def figures (timeStep : Float) (doc : List DocumentItem) : List Figure :=
  let gs := (generators doc).map fun g ↦ { g with bufferSize := samples g timeStep }
  let g := groupOf (groupFields doc)
  gs.map .generator ++ [.group { g with
    members := List.range gs.length
    bufferSize := groupSamples g.cycles (gs.map (·.bufferSize)) }]

/-- A field behind the others makes no difference to the phases that they give. -/
theorem lastOf_phase?_concat (fs : List GeneratorField) (f : GeneratorField) :
    lastOf (phase? (fs ++ [f])) 0 (fs ++ [f]).zipIdx =
      (phase? fs (f, fs.length)).getD (lastOf (phase? fs) 0 fs.zipIdx) := by
  have hfront : ∀ i ≤ fs.length, ∀ g, phase? (fs ++ [f]) (g, i) = phase? fs (g, i) := by
    intro i hi g
    have htake : (fs ++ [f]).take i = fs.take i := List.take_append_of_le_length hi
    cases g <;> simp only [phase?, htake]
  have hphases : fs.zipIdx.filterMap (phase? (fs ++ [f])) = fs.zipIdx.filterMap (phase? fs) := by
    refine List.filterMap_congr fun x hx ↦ hfront x.2 ?_ x.1
    exact (List.snd_lt_of_mem_zipIdx hx).le
  rw [List.zipIdx_append, List.zipIdx_singleton, lastOf_concat, Nat.zero_add, hfront _ le_rfl,
    lastOf, hphases]
  rfl

theorem generatorOf_eq_foldl (fs : List GeneratorField) :
    generatorOf fs = fs.foldl .assign .blank := by
  induction fs using List.reverseRecOn with
  | nil => rfl
  | append_singleton fs f ih =>
    rw [List.foldl_append, List.foldl_cons, List.foldl_nil, ← ih]
    cases f <;> simp only [generatorOf, frequency, lastOf_concat, lastOf_phase?_concat, phase?,
      List.take_length, Generator.assign, Frequency.withStart, Frequency.period, Option.getD]

theorem groupOf_eq_foldl (fs : List GroupField) : groupOf fs = fs.foldl .assign .blank := by
  induction fs using List.reverseRecOn with
  | nil => rfl
  | append_singleton fs f ih =>
    rw [List.foldl_append, List.foldl_cons, List.foldl_nil, ← ih]
    cases f <;> simp only [groupOf, lastOf_concat, Group.assign, Option.getD]

section Rules

variable (g : Generator)

theorem mem_broken_iff (rule : Flaw) : rule ∈ broken g ↔ Breaks g rule := by
  rw [broken, List.mem_filter, decide_eq_true_iff]
  cases rule <;> simp

theorem broken_eq_nil_iff : broken g = [] ↔ ∀ rule, ¬ Breaks g rule := by
  rw [List.eq_nil_iff_forall_not_mem]
  simp only [mem_broken_iff]

theorem flaws_eq_broken : g.flaws = broken g := by
  have hcons : ∀ (rule : Flaw) (rules : List Flaw), (rule :: rules).filter (Breaks g ·) =
      (if Breaks g rule then [rule] else []) ++ rules.filter (Breaks g ·) := by
    intro rule rules
    rw [List.filter_cons]
    by_cases h : Breaks g rule <;> simp [h]
  have hpositive : ∀ (rule : Flaw) (x : Float), (Breaks g rule ↔ ¬ 0 < x) →
      (if Generator.isPositive x then [] else [rule]) = if Breaks g rule then [rule] else [] := by
    intro rule x hrule
    rw [← ite_not]
    exact if_congr ((not_congr Generator.isPositive_iff).trans hrule.symm) rfl rfl
  have hdirection : (if decide (g.motion = .oscillation) && g.direction.norm == 0
      then [Flaw.zeroDirection] else []) =
      if Breaks g .zeroDirection then [.zeroDirection] else [] := by
    refine if_congr ?_ rfl rfl
    rw [Bool.and_eq_true, decide_eq_true_iff]
    rfl
  rw [broken, hcons, hcons, hcons, hcons, List.filter_nil, List.append_nil, Generator.flaws,
    hpositive .nonPositiveFrequency _ .rfl, hpositive .nonPositiveAmplitude _ .rfl, hdirection,
    List.append_assoc, List.append_assoc]
  rfl

/-- A generator is valid if it breaks no rule. -/
theorem isValid_iff : g.isValid = true ↔ ∀ rule, ¬ Breaks g rule := by
  rw [Generator.isValid, flaws_eq_broken, List.isEmpty_iff, broken_eq_nil_iff]

theorem bufferHint_eq_samples (timeStep : Float) : g.bufferHint timeStep = samples g timeStep := by
  rw [Generator.bufferHint, samples]
  cases g.motion <;> rfl

end Rules

theorem foldl_max_eq (ns : List Nat) : ns.foldl max 0 = ns.max?.getD 0 := by
  cases ns with
  | nil => rfl
  | cons n ns => rw [List.max?_cons', Option.getD_some, List.foldl_cons, Nat.zero_max]

theorem bufferHint_eq_groupSamples (g : Group) (sizes : List Nat) :
    g.bufferHint sizes = groupSamples g.cycles sizes := by
  have hzero : Count.truncated 0 = 0 := by decide +kernel
  rw [Group.bufferHint, foldl_max_eq, groupSamples]
  dsimp only
  rw [apply_ite Count.truncated, hzero]

theorem figures_eq (timeStep : Float) (doc : List DocumentItem) : figures timeStep doc =
    let gs := (generators doc).map (·.withBuffer timeStep)
    gs.map .generator ++ [.group { groupOf (groupFields doc) with
      members := List.range gs.length
      bufferSize := (groupOf (groupFields doc)).bufferHint (gs.map (·.bufferSize)) }] := by
  simp only [figures, ← bufferHint_eq_samples, ← bufferHint_eq_groupSamples]
  rfl

end Document

end Harmonograph
