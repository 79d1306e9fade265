/-!
Lines of a text. A line ends at a line feed, together with one carriage return before it; a text
that ends in a line feed has no line after it.
-/

namespace Harmonograph

/-- The line without the carriage return that belongs to its end. -/
def chomp (line : List Char) : List Char :=
  if line.getLast? = some '\r' then line.dropLast else line

/-- Lines of `cs`, where `line` holds the characters read of the current one, the last first. -/
def linesFrom (line : List Char) : List Char → List (List Char)
  | [] => if line.isEmpty then [] else [line.reverse]
  | c :: cs =>
    if c = '\n' then chomp line.reverse :: linesFrom [] cs else linesFrom (c :: line) cs

def lines (cs : List Char) : List (List Char) := linesFrom [] cs

theorem lines_nil : lines [] = [] := rfl

example : lines ['a', '\r', '\n', '\n', 'b', '\r'] = [['a'], [], ['b', '\r']] := by decide

end Harmonograph
