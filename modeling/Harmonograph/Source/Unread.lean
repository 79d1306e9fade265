import Harmonograph.Text.Blank

/-!
A text being read from front to back.
-/

namespace Harmonograph

/-- The part of a text that has not been read, and how many characters were read before it. -/
structure Unread where
  position : Nat
  rest : List Char
  deriving DecidableEq, Repr

namespace Unread

def ofText (cs : List Char) : Unread := ⟨0, cs⟩

def peek? (u : Unread) : Option Char := u.rest.head?

def isEmpty (u : Unread) : Bool := u.rest.isEmpty

def drop (u : Unread) (n : Nat) : Unread := ⟨u.position + n, u.rest.drop n⟩

/-- The next character and what is left after it. -/
def next? (u : Unread) : Option (Char × Unread) := u.peek?.map fun c ↦ (c, u.drop 1)

/-- The longest run of characters that satisfy `p`, and what is left after it. -/
def takeWhile (u : Unread) (p : Char → Bool) : List Char × Unread :=
  let run := u.rest.takeWhile p
  (run, ⟨u.position + run.length, u.rest.dropWhile p⟩)

def takeBlank (u : Unread) : List Char × Unread := u.takeWhile isBlank

theorem takeWhile_append_rest (u : Unread) (p : Char → Bool) :
    (u.takeWhile p).1 ++ (u.takeWhile p).2.rest = u.rest := List.takeWhile_append_dropWhile

theorem position_takeWhile (u : Unread) (p : Char → Bool) :
    (u.takeWhile p).2.position = u.position + (u.takeWhile p).1.length := rfl

end Unread

end Harmonograph
