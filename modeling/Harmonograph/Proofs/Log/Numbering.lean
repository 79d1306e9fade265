import Harmonograph.Log.Network
import Mathlib.Data.Fin.Tuple.Sort
import Mathlib.Logic.Relation

/-!
Numberings of loggers. A network lets a logger feed only loggers with greater numbers. So it has no
circle of loggers, and all loggers that are without a circle can be numbered in this way.
-/

namespace Harmonograph.Log

/-- The logger `i` has the logger `j` among its sinks. -/
def Feeds (hubs : Array Hub) (i j : Nat) : Prop := ∃ h, hubs[i]? = some h ∧ .logger j ∈ h.sinks

/-- No logger feeds itself, be it through others. -/
def Acyclic (hubs : Array Hub) : Prop := ∀ i, ¬ Relation.TransGen (Feeds hubs) i i

def Sink.renumber (σ : Nat → Nat) : Sink → Sink
  | .ring k => .ring k
  | .logger j => .logger (σ j)

def Hub.renumber (σ : Nat → Nat) (h : Hub) : Hub :=
  { h with sinks := h.sinks.map (Sink.renumber σ) }

/-- The loggers `hubs` are those of a network under other numbers. -/
def Numbered (hubs : Array Hub) (σ : Equiv.Perm Nat) (n : Network) : Prop :=
  ∀ i, n.hubs[σ i]? = hubs[i]?.map (Hub.renumber σ)

variable {hubs : Array Hub}

theorem Sink.renumber_eq_logger_iff {σ : Nat → Nat} {s : Sink} {j : Nat} :
    s.renumber σ = .logger j ↔ ∃ j', s = .logger j' ∧ σ j' = j := by
  cases s <;> simp [renumber]

theorem Feeds.lt_size {i j : Nat} (h : Feeds hubs i j) : i < hubs.size := by
  obtain ⟨_, h, -⟩ := h
  exact (Array.getElem?_eq_some_iff.1 h).1

open Classical in
/-- The loggers that feed the logger `i`, be it through others. -/
noncomputable def feeders (hubs : Array Hub) (i : Nat) : Finset Nat :=
  (Finset.range hubs.size).filter fun j ↦ Relation.TransGen (Feeds hubs) j i

theorem mem_feeders {i j : Nat} :
    j ∈ feeders hubs i ↔ j < hubs.size ∧ Relation.TransGen (Feeds hubs) j i := by
  simp [feeders]

theorem Acyclic.card_feeders_lt (h : Acyclic hubs) {i j : Nat} (hij : Feeds hubs i j) :
    (feeders hubs i).card < (feeders hubs j).card := by
  have hsubset : feeders hubs i ⊆ feeders hubs j := fun a ha ↦ by
    obtain ⟨hsize, hfeeds⟩ := mem_feeders.1 ha
    exact mem_feeders.2 ⟨hsize, hfeeds.tail hij⟩
  have hnew : i ∈ feeders hubs j := mem_feeders.2 ⟨hij.lt_size, .single hij⟩
  have hold : i ∉ feeders hubs i := fun hi ↦ h i (mem_feeders.1 hi).2
  exact Finset.card_lt_card ((Finset.ssubset_iff_of_subset hsubset).2 ⟨i, hnew, hold⟩)

/-- A permutation of the first numbers that leaves the others where they are. -/
def spread {n : Nat} (e : Equiv.Perm (Fin n)) : Equiv.Perm Nat := e.extendDomain Fin.equivSubtype

theorem spread_of_lt {n : Nat} (e : Equiv.Perm (Fin n)) {i : Nat} (h : i < n) :
    spread e i = e ⟨i, h⟩ :=
  e.extendDomain_apply_subtype Fin.equivSubtype h

theorem spread_of_le {n : Nat} (e : Equiv.Perm (Fin n)) {i : Nat} (h : n ≤ i) : spread e i = i :=
  e.extendDomain_apply_not_subtype Fin.equivSubtype (Nat.not_lt.2 h)

theorem Acyclic.exists_order (h : Acyclic hubs) :
    ∃ e : Equiv.Perm (Fin hubs.size), ∀ i j, Feeds hubs i j → spread e i < spread e j := by
  let rank (i : Fin hubs.size) := (feeders hubs i).card
  refine ⟨(Tuple.sort rank).symm, fun i j hij ↦ ?_⟩
  have hi := hij.lt_size
  rw [spread_of_lt _ hi]
  by_cases hj : j < hubs.size
  · rw [spread_of_lt _ hj]
    refine Fin.lt_def.1 (Nat.not_le.1 fun hle ↦ ?_)
    have hrank := Tuple.monotone_sort rank hle
    simp only [Function.comp_apply, Equiv.apply_symm_apply] at hrank
    exact Nat.not_lt.2 hrank (h.card_feeders_lt hij)
  · rw [spread_of_le _ (Nat.not_lt.1 hj)]
    exact (Fin.isLt _).trans_le (Nat.not_lt.1 hj)

/-- The loggers in a new order. -/
def reordered (hubs : Array Hub) (e : Equiv.Perm (Fin hubs.size)) : Array Hub :=
  .ofFn fun p ↦ hubs[e.symm p].renumber (spread e)

theorem getElem?_reordered (e : Equiv.Perm (Fin hubs.size)) (i : Nat) :
    (reordered hubs e)[spread e i]? = hubs[i]?.map (Hub.renumber (spread e)) := by
  by_cases hi : i < hubs.size
  · rw [spread_of_lt e hi]
    simp [reordered, hi]
  · rw [spread_of_le e (Nat.not_lt.1 hi)]
    simp [reordered, hi]

theorem Numbered.lt_of_feeds {σ : Equiv.Perm Nat} {n : Network} (hn : Numbered hubs σ n) {i j : Nat}
    (h : Feeds hubs i j) : σ i < σ j := by
  obtain ⟨hub, hi, hj⟩ := h
  have hrenumbered := hn i
  rw [hi, Option.map_some] at hrenumbered
  obtain ⟨hlt, heq⟩ := Array.getElem?_eq_some_iff.1 hrenumbered
  refine n.forward (σ i) hlt (σ j) ?_
  rw [heq]
  exact List.mem_map.2 ⟨_, hj, rfl⟩

theorem Numbered.lt_of_transGen {σ : Equiv.Perm Nat} {n : Network} (hn : Numbered hubs σ n)
    {i j : Nat} (h : Relation.TransGen (Feeds hubs) i j) : σ i < σ j := by
  induction h with
  | single h => exact hn.lt_of_feeds h
  | tail _ h ih => exact ih.trans (hn.lt_of_feeds h)

theorem lt_of_mem_reordered {e : Equiv.Perm (Fin hubs.size)}
    (he : ∀ i j, Feeds hubs i j → spread e i < spread e j) (p : Nat)
    (hp : p < (reordered hubs e).size) (j : Nat)
    (hj : .logger j ∈ (reordered hubs e)[p].sinks) : p < j := by
  have hsize : p < hubs.size := by rwa [reordered, Array.size_ofFn] at hp
  let i := e.symm ⟨p, hsize⟩
  have hsinks : .logger j ∈ (hubs[i].renumber (spread e)).sinks := by
    simpa [reordered] using hj
  obtain ⟨s, hs, hsj⟩ := List.mem_map.1 hsinks
  obtain ⟨j', rfl, rfl⟩ := Sink.renumber_eq_logger_iff.1 hsj
  have hlt := he i j' ⟨hubs[i], Array.getElem?_eq_getElem i.isLt, hs⟩
  rw [spread_of_lt e i.isLt] at hlt
  simpa [i] using hlt

/-- Loggers are those of a network if and only if there is no circle of them. -/
theorem acyclic_iff : Acyclic hubs ↔ ∃ σ, ∀ rings, ∃ n, n.rings = rings ∧ Numbered hubs σ n := by
  constructor
  · intro h
    obtain ⟨e, he⟩ := h.exists_order
    exact ⟨spread e, fun rings ↦
      ⟨⟨reordered hubs e, rings, #[], lt_of_mem_reordered he⟩, rfl, getElem?_reordered e⟩⟩
  · rintro ⟨σ, hσ⟩ i hi
    obtain ⟨n, -, hn⟩ := hσ #[]
    exact (hn.lt_of_transGen hi).false

end Harmonograph.Log
