import Harmonograph.Figure.Basic
import Harmonograph.Files.Error
import Harmonograph.Lexicon.Table
import Harmonograph.Log.Logger
import Harmonograph.Source.Extent

/-!
What a reader of sources has to say while it works.
-/

namespace Harmonograph

inductive Notice
  /-- The lexicon has been made. -/
  | lexicon
  /-- A symbol has been read. -/
  | token (state : Nat) (text : List Char) (symbol : Symbol) (place : Location)
  /-- A file is being read. -/
  | reading (file : String)
  /-- A file cannot be read and is passed over. -/
  | unreadable (file : String) (error : FileError)
  /-- A name has been defined. -/
  | located (name : String) (extent : Extent)
  /-- A name had been defined before. -/
  | relocated (name : String) (previous : Extent)
  | generator (g : Generator)
  | negativeCycles (name : String) (cycles : Float)
  | group (g : Group)
  /-- The files of a run have been read. -/
  | allRead (figures files : Nat)
  | started (files : Nat)
  | completed (summary : String)

namespace Notice

def level : Notice → Log.Level
  | lexicon | token _ _ _ _ => .trace
  | located _ _ | generator _ | group _ | allRead _ _ | completed _ => .debug
  | reading _ | started _ => .info
  | unreadable _ _ | relocated _ _ | negativeCycles _ _ => .warn

/-- The part of the program that speaks. -/
def target : Notice → String
  | token _ _ _ _ => "harmonogram_core::compiler::lexer::tokenizer"
  | started _ | completed _ => "harmonogram_api"
  | _ => "harmonogram_core::compiler::parser::parser"

def message : Notice → String
  | lexicon => "token automaton (" ++ toString Harmonograph.lexicon.size ++ " nodes):\n" ++
    Harmonograph.lexicon.listing Symbol.label
  | token state text symbol place =>
    Trie.stateText state ++ " " ++ quoted text ++ " -> " ++ symbol.label ++ " at " ++ place.text
  | reading file => "parsing: " ++ file
  | unreadable file error => "couldn't open file '" ++ file ++ "': " ++ error.message
  | located name extent => name ++ " -> " ++ extent.text
  | relocated name previous =>
    "overwriting location of '" ++ name ++ "', previously " ++ previous.text
  | generator g => "entity " ++ g.text
  | negativeCycles name cycles => "composite '" ++ name ++ "' has negative cycles " ++
    numberText cycles ++ ", buffer hint clamped to 0"
  | group g => "composite " ++ g.text
  | allRead figures files =>
    "parsed " ++ toString figures ++ " entities from " ++ toString files ++ " files"
  | started files => "Starting parse of " ++ toString files ++ " file(s)"
  | completed summary => "parse completed: " ++ summary

instance : Log.Loggable Notice := ⟨level, target, message⟩

end Notice

end Harmonograph
