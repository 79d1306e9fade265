/-!
Rings: the newest items of a sequence, as many as fit, and the number of those that did not.
-/

namespace Harmonograph.Log

universe u

structure Ring (α : Type u) where
  capacity : Nat
  /-- The items kept, the oldest first. -/
  items : List α
  /-- How many items have been dropped since the ring was made or cleared. -/
  dropped : Nat
  length_le : items.length ≤ capacity

namespace Ring

variable {α : Type u} (r : Ring α)

def empty (capacity : Nat) : Ring α := ⟨capacity, [], 0, Nat.zero_le _⟩

/-- How many of the items and one more do not fit. -/
def excess : Nat := r.items.length + 1 - r.capacity

/-- The oldest items make room for the new one. Where there is no room at all, it is dropped. -/
def push (x : α) : Ring α where
  capacity := r.capacity
  items := (r.items ++ [x]).drop r.excess
  dropped := r.dropped + r.excess
  length_le := by
    have := r.length_le
    simp only [List.length_drop, List.length_append, List.length_singleton, excess]
    omega

def clear : Ring α := empty r.capacity

theorem capacity_push (x : α) : (r.push x).capacity = r.capacity := rfl

end Ring

end Harmonograph.Log
