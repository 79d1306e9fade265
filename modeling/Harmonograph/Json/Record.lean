import Harmonograph.Json.Number

/-!
Records in JSON: objects with known fields, or arrays of the values of all these fields in order.
-/

namespace Harmonograph.Json

/-- The values of the fields called `names`, in this order, as far as they are there. An object may
have other fields, but none of these twice; an array has exactly these. -/
def fields? (names : List String) : Json → Option (List (Option Json))
  | .array items => if items.length = names.length then some (items.map some) else none
  | .object fields => do
    let fields ← fields.mapM fun f ↦ (unescape? f.1).map fun name ↦ (String.ofList name, f.2)
    names.mapM fun name ↦
      match fields.filter (·.1 = name) with
      | [] => some none
      | [f] => some (some f.2)
      | _ => none
  | _ => none

variable {α : Type} (decode : Json → Option α)

/-- The value of a field that must be there. -/
def needed? (field : Option Json) : Option α := field.bind decode

/-- The value of a field that may be missing or null. -/
def omissible? : Option Json → Option (Option α)
  | none | some .null => some none
  | some v => (decode v).map some

def items? : Json → Option (List α)
  | .array items => items.mapM decode
  | _ => none

end Harmonograph.Json
