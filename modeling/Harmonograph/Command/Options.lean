/-!
The options of the command.
-/

namespace Harmonograph.Command

/-- How events are written. -/
inductive EventFormat
  | pretty
  | compact
  | json
  deriving DecidableEq, Repr

def EventFormat.ofName? : String → Option EventFormat
  | "pretty" => some .pretty
  | "compact" => some .compact
  | "json" => some .json
  | _ => none

/-- An option with a value. -/
inductive Setting
  | project
  | locate
  | timeStep
  | level
  | tokenizerLevel
  | parserLevel
  | format
  deriving DecidableEq, Repr

namespace Setting

def all : List Setting := [project, locate, timeStep, level, tokenizerLevel, parserLevel, format]

def name : Setting → String
  | project => "project"
  | locate => "locate"
  | timeStep => "time-delta"
  | level => "log-level"
  | tokenizerLevel => "log-tokenizer"
  | parserLevel => "log-parser"
  | format => "log-format"

/-- What stands for the value when the option is talked about. -/
def valueName : Setting → String
  | project => "PATH"
  | locate => "FILE:LINE:COL"
  | timeStep => "TIME_DELTA"
  | level => "LOG_LEVEL"
  | tokenizerLevel => "LOG_TOKENIZER"
  | parserLevel => "LOG_PARSER"
  | format => "LOG_FORMAT"

def text (s : Setting) : String := "--" ++ s.name ++ " <" ++ s.valueName ++ ">"

def ofName? (name : String) : Option Setting := all.find? (·.name = name)

end Setting

/-- An option without a value. -/
inductive Switch
  | json
  | help
  | version
  deriving DecidableEq, Repr

namespace Switch

def all : List Switch := [json, help, version]

def name : Switch → String
  | json => "json"
  | help => "help"
  | version => "version"

def text (s : Switch) : String := "--" ++ s.name

def ofName? (name : String) : Option Switch := all.find? (·.name = name)

/-- The switch that a single letter stands for. -/
def ofLetter? : Char → Option Switch
  | 'h' => some help
  | 'V' => some version
  | _ => none

end Switch

end Harmonograph.Command
