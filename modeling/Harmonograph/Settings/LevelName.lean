import Harmonograph.Json.Basic
import Harmonograph.Log.Record

/-!
Names of log levels, as people and settings files write them.
-/

namespace Harmonograph.Log.Level

def all : List Level := [trace, debug, info, warn, error]

def name : Level → String
  | trace => "trace"
  | debug => "debug"
  | info => "info"
  | warn => "warn"
  | error => "error"

def ofName? (s : String) : Option Level := all.find? (·.name = s)

/-- The level that a person names, in letters of any case. Who wants silence gets errors alone. -/
def read? (s : String) : Option Level :=
  let lower := String.ofList (s.toList.map Char.toLower)
  if lower = "silent" then some error else ofName? lower

/-- A level is spelled by its name, or as an object that has nothing but a null of this name. -/
def ofJson? : Json → Option Level
  | .string cs | .object [(cs, .null)] => do
    let cs ← Json.unescape? cs
    ofName? (String.ofList cs)
  | _ => none

/-- The level that lets the more pass. -/
def lower (a b : Level) : Level := if a ≤ b then a else b

theorem ofName?_name (l : Level) : ofName? l.name = some l := by
  cases l <;> decide +kernel

end Harmonograph.Log.Level
