import Harmonograph.Json.Basic

/-!
Writing JSON, on one line or one item to a line.
-/

namespace Harmonograph.Json

def quote (spelling : List Char) : String := "\"" ++ String.ofList spelling ++ "\""

mutual

/-- On one line, without blanks. -/
def compact : Json → String
  | .null => "null"
  | .bool b => if b then "true" else "false"
  | .number cs => String.ofList cs
  | .string cs => quote cs
  | .array items => "[" ++ ",".intercalate (compactItems items) ++ "]"
  | .object fields => "\x7b" ++ ",".intercalate (compactFields fields) ++ "\x7d"

def compactItems : List Json → List String
  | [] => []
  | v :: vs => compact v :: compactItems vs

def compactFields : List (List Char × Json) → List String
  | [] => []
  | (name, v) :: fs => (quote name ++ ":" ++ compact v) :: compactFields fs

end

def margin (depth : Nat) : String := String.ofList (List.replicate (2 * depth) ' ')

/-- The parts of a container, each on a line of its own. -/
def enclose (open_ close : String) (depth : Nat) (parts : List String) : String :=
  if parts.isEmpty then open_ ++ close
  else open_ ++ "\n" ++ ",\n".intercalate (parts.map (margin (depth + 1) ++ ·)) ++ "\n" ++
    margin depth ++ close

mutual

/-- With every item and field on a line of its own, inside `depth` containers. -/
def prettyAt (depth : Nat) : Json → String
  | .null => "null"
  | .bool b => if b then "true" else "false"
  | .number cs => String.ofList cs
  | .string cs => quote cs
  | .array items => enclose "[" "]" depth (prettyItems (depth + 1) items)
  | .object fields => enclose "\x7b" "\x7d" depth (prettyFields (depth + 1) fields)

def prettyItems (depth : Nat) : List Json → List String
  | [] => []
  | v :: vs => prettyAt depth v :: prettyItems depth vs

def prettyFields (depth : Nat) : List (List Char × Json) → List String
  | [] => []
  | (name, v) :: fs => (quote name ++ ": " ++ prettyAt depth v) :: prettyFields depth fs

end

def pretty (v : Json) : String := prettyAt 0 v

end Harmonograph.Json
