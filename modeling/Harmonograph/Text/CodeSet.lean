/-!
Sets of characters given by the code points at which membership changes.
-/

namespace Harmonograph

/-- An inversion list: the code points, in increasing order, at which membership
switches, starting outside the set. -/
structure CodeSet where
  switches : List Nat

namespace CodeSet

def holds (s : CodeSet) (n : Nat) : Bool :=
  (s.switches.takeWhile (· ≤ n)).length % 2 == 1

theorem holds_nil (n : Nat) : holds ⟨[]⟩ n = false := rfl

theorem holds_of_lt_head {a n : Nat} {l : List Nat} (h : n < a) : holds ⟨a :: l⟩ n = false := by
  have ha : ¬ a ≤ n := by omega
  simp [holds, ha]

end CodeSet

end Harmonograph
