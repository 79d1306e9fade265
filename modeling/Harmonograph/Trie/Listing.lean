import Harmonograph.Text.Quoted
import Harmonograph.Trie.Basic

/-!
Listings of a trie: its states from the root down, one line for each.
-/

namespace Harmonograph.Trie

universe u

variable {κ : Type u} (t : Trie κ)

/-- The states right below `s`. -/
def below (s : Nat) : List Nat := (t.node s).children.map (·.2)

/-- The states of `layer` and of at most `depth` layers below it. -/
def layersFrom : Nat → List Nat → List Nat
  | 0, layer => layer
  | depth + 1, layer =>
    if layer.isEmpty then [] else layer ++ layersFrom depth (layer.flatMap t.below)

/-- The states, layer after layer; each layer is in the order of the one above. No layer is as deep
as there are nodes. -/
def states : List Nat := t.layersFrom t.size [0]

def stateText (s : Nat) : String := "#" ++ toString s

/-- The character that leads to `s`; a blank stands for none. -/
def lead (s : Nat) : Char := (t.node s).text.getLast?.getD ' '

def line (kindText : κ → String) (s : Nat) : String :=
  stateText s ++ " '" ++ String.singleton (t.lead s) ++ "' fallback=" ++
    stateText (t.node s).fallback ++ " prefix=" ++ quoted (t.node s).text ++
    match t.kind? s with
    | some k => " => " ++ kindText k
    | none => ""

def listing (kindText : κ → String) : String :=
  String.join (t.states.map fun s ↦ t.line kindText s ++ "\n")

end Harmonograph.Trie
