import Harmonograph.Log.Ring
import Mathlib.Data.List.DropRight

/-!
What a ring keeps. After any pushes and clearings a ring holds the newest of the items pushed since
it was last cleared, as many as fit, and has counted the others.
-/

namespace Harmonograph.Log.Ring

universe u

variable {α : Type u}

/-- What is done to a ring. -/
inductive Use (α : Type u)
  | push (x : α)
  | clear

def Use.item? : Use α → Option α
  | .push x => some x
  | .clear => none

def use (r : Ring α) : Use α → Ring α
  | .push x => r.push x
  | .clear => r.clear

def after (r : Ring α) (us : List (Use α)) : Ring α := us.foldl use r

/-- The items pushed since the last clearing, the oldest first. -/
def pushed (us : List (Use α)) : List α :=
  (us.reverse.takeWhile (·.item?.isSome)).reverse.filterMap Use.item?

theorem pushed_concat_push (us : List (Use α)) (x : α) :
    pushed (us ++ [.push x]) = pushed us ++ [x] := by
  unfold pushed
  rw [List.reverse_append, List.reverse_singleton, List.singleton_append,
    List.takeWhile_cons_of_pos rfl, List.reverse_cons, List.filterMap_append]
  rfl

theorem pushed_concat_clear (us : List (Use α)) : pushed (us ++ [.clear]) = [] := by
  unfold pushed
  rw [List.reverse_append, List.reverse_singleton, List.singleton_append,
    List.takeWhile_cons_of_neg Bool.false_ne_true]
  rfl

/-- Of the items `xs` the ring has room for the last `c`, and all before them have been dropped. -/
structure Keeps (c : Nat) (xs : List α) (r : Ring α) : Prop where
  capacity : r.capacity = c
  dropped : r.dropped = xs.length - c
  items : r.items = xs.drop r.dropped

namespace Keeps

variable {c : Nat} {xs : List α} {r : Ring α}

theorem empty (c : Nat) : Keeps c [] (empty c : Ring α) :=
  ⟨rfl, (Nat.zero_sub c).symm, rfl⟩

theorem clear (h : Keeps c xs r) : Keeps c [] r.clear := by
  have hclear : r.clear = Ring.empty c := congrArg Ring.empty h.capacity
  rw [hclear]
  exact .empty c

/-- The item that makes room for a new one is the oldest of those kept, and the new one itself if
there is no room at all. -/
theorem push (h : Keeps c xs r) (x : α) : Keeps c (xs ++ [x]) (r.push x) := by
  have hlength : r.items.length = xs.length - r.dropped := by rw [h.items, List.length_drop]
  have hdropped := h.dropped
  have hexcess : r.excess = r.items.length + 1 - c := by rw [excess, h.capacity]
  refine ⟨h.capacity, ?_, ?_⟩
  · have hpush : (r.push x).dropped = r.dropped + r.excess := rfl
    rw [hpush, List.length_append, List.length_singleton]
    omega
  · have hold : r.items ++ [x] = (xs ++ [x]).drop r.dropped := by
      rw [h.items, List.drop_append_of_le_length (by omega)]
    have hpush : (r.push x).items = (r.items ++ [x]).drop r.excess := rfl
    rw [hpush, hold, List.drop_drop]
    rfl

theorem after (us : List (Use α)) : Keeps c (pushed us) ((Ring.empty c).after us) := by
  induction us using List.reverseRec with
  | nil => exact .empty c
  | append_singleton us u ih =>
    rw [Ring.after, List.foldl_concat, ← Ring.after]
    cases u with
    | push x =>
      rw [pushed_concat_push]
      exact ih.push x
    | clear =>
      rw [pushed_concat_clear]
      exact ih.clear

end Keeps

/-- Whatever has been done to a new ring, it keeps the last of the items pushed since it was
cleared, in their order and as many as it has room for, and the number of the others is the number
of those dropped. -/
theorem after_empty (capacity : Nat) (us : List (Use α)) :
    let r := (empty capacity).after us
    let xs := pushed us
    r.capacity = capacity ∧
    r.items = xs.rtake (min capacity xs.length) ∧
    r.dropped = xs.length - min capacity xs.length ∧
    r.items.length + r.dropped = xs.length ∧
    r.items.length ≤ capacity := by
  intro r xs
  have h : Keeps capacity xs r := .after us
  have hdropped : r.dropped = xs.length - min capacity xs.length := by
    have hk := h.dropped
    omega
  have hlength : r.items.length = xs.length - r.dropped := by rw [h.items, List.length_drop]
  refine ⟨h.capacity, ?_, hdropped, ?_, ?_⟩
  · rw [h.items, hdropped]
    rfl
  · omega
  · omega

example : let r := (empty 2).after [.push 1, .clear, .push 2, .push 3, .push 4]
    r.items = [3, 4] ∧ r.dropped = 1 := by
  decide

end Harmonograph.Log.Ring
