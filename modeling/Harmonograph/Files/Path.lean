/-!
Paths: parts between slashes. A path that begins with a slash leads down from the root, any other
from the folder at hand.
-/

namespace Harmonograph.Path

/-- The parts of a path; what stands between two slashes in a row is no part. -/
def parts (cs : List Char) : List (List Char) :=
  (cs.splitBy fun a b ↦ a ≠ '/' && b ≠ '/').filter (· ≠ ['/'])

def isAbsolute (cs : List Char) : Bool := cs.head? = some '/'

/-- The path `p` seen from the folder `base`. -/
def join (base p : String) : String :=
  if isAbsolute p.toList then p
  else if base.isEmpty || base.toList.getLast? = some '/' then base ++ p
  else base ++ "/" ++ p

/-- Drops slashes, and parts that stay where they are, from the end of a path written backwards. -/
def trim : List Char → List Char
  | '/' :: cs => trim cs
  | '.' :: '/' :: cs => trim cs
  | ['.'] => []
  | cs => cs

/-- The part of a path that has no parent: the root, or the dot that a path begins with. -/
def anchor : List Char → List Char
  | '/' :: _ => ['/']
  | ['.'] => ['.']
  | '.' :: '/' :: _ => ['.']
  | _ => []

/-- The path without its last part. The root has no parent. -/
def parent? (p : String) : Option String :=
  let cs := p.toList
  let top := anchor cs
  match trim (cs.drop top.length).reverse with
  | [] => if top = ['.'] then some "" else none
  | body => some (String.ofList (top ++ (trim (body.dropWhile (· ≠ '/'))).reverse))

example : parent? "a/./b/" = some "a" ∧ parent? "./p" = some "." ∧ parent? "/p" = some "/" ∧
    parent? "." = some "" ∧ parent? "/" = none ∧ parent? "" = none := by decide +kernel

end Harmonograph.Path
