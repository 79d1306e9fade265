import Harmonograph.Source.Location

/-!
Stretches of a source file, from one place to another, both included.
-/

namespace Harmonograph

/-- Consecutive line numbers, both ends included. -/
structure LineSpan where
  first : Nat
  last : Nat
  deriving DecidableEq, Repr

namespace LineSpan

def none : LineSpan := ⟨1, 0⟩

instance : Membership Nat LineSpan where
  mem s n := s.first ≤ n ∧ n ≤ s.last

theorem mem_def (n : Nat) (s : LineSpan) : n ∈ s ↔ s.first ≤ n ∧ n ≤ s.last := Iff.rfl

instance (n : Nat) (s : LineSpan) : Decidable (n ∈ s) := decidable_of_iff' _ (mem_def n s)

def isEmpty (s : LineSpan) : Bool := s.last < s.first

/-- At most the first `n` lines. -/
def take (s : LineSpan) (n : Nat) : List Nat := List.range' s.first (min n (s.last + 1 - s.first))

end LineSpan

/-- What lies between two places. Nothing does when they are in different files. -/
structure Extent where
  start : Location
  stop : Location
  deriving DecidableEq, Repr

namespace Extent

def InOneFile (e : Extent) : Prop := e.start.file = e.stop.file

instance (e : Extent) : Decidable e.InOneFile := inferInstanceAs (Decidable (_ = _))

/-- `p` lies between the ends. -/
instance : Membership Location Extent where
  mem e p := e.InOneFile ∧ e.start ≤ p ∧ p ≤ e.stop

theorem mem_def (p : Location) (e : Extent) : p ∈ e ↔ e.InOneFile ∧ e.start ≤ p ∧ p ≤ e.stop :=
  Iff.rfl

instance (p : Location) (e : Extent) : Decidable (p ∈ e) := decidable_of_iff' _ (mem_def p e)

/-- Both ends of `d` lie between those of `e`. -/
def Covers (e d : Extent) : Prop := e.InOneFile ∧ d.InOneFile ∧ e.start ≤ d.start ∧ d.stop ≤ e.stop

instance (e d : Extent) : Decidable (e.Covers d) := inferInstanceAs (Decidable (_ ∧ _))

def lines (e : Extent) : LineSpan :=
  if e.InOneFile then ⟨e.start.line, e.stop.line⟩ else LineSpan.none

def text (e : Extent) : String :=
  "\x7bbegin: " ++ e.start.text ++ ", end: " ++ e.stop.text ++ "\x7d"

end Extent

end Harmonograph
