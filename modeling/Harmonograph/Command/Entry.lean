import Harmonograph.Command.Arguments
import Harmonograph.Json.Writer
import Harmonograph.Settings.LogLevels
import Harmonograph.Text.Control

/-!
Entries of the log that the command shows to its user.
-/

namespace Harmonograph.Command

/-- A message, and for one that comes from the work itself the span it was said in. -/
structure Entry extends Log.Message where
  span : Option String
  deriving DecidableEq, Repr

namespace Entry

/-- The name that the command speaks under. -/
def ownTarget : String := "harmonogram::cli"

/-- What the command itself has to say. -/
def own (level : Log.Level) (text : String) : Entry := ⟨⟨level, ownTarget, text⟩, none⟩

/-- Records of a phase are shown under its name, and all others under that of the command. -/
def ofRecord (r : Log.Record) : Entry where
  level := r.level
  target := ((Phase.ofTarget? r.target).map Phase.target).getD ownTarget
  text := r.text
  span := some (r.spanName.getD "-")

/-- The command's own entries that are shown. -/
def shownOwn (l : LogLevels) (level : Log.Level) (text : String) : List Entry :=
  if l.everywhere ≤ level then [own level text] else []

/-- The entries of those records that are shown. -/
def shownRecords (l : LogLevels) (rs : List Log.Record) : List Entry :=
  (rs.filter fun r ↦ l.ofPhase? (Phase.ofTarget? r.target) ≤ r.level).map ofRecord

variable (e : Entry)

/-- The message as a terminal may be given it. -/
def safeText : String := spellControls e.text

def levelText : String :=
  String.ofList (List.replicate (5 - e.level.text.length) ' ') ++ e.level.text

/-- On one line, as far as the message is on one. -/
def compact : String :=
  let span := match e.span with
    | some name => " span_name=" ++ quoted name.toList
    | none => ""
  e.levelText ++ " " ++ e.safeText ++ span

/-- With the name that it is shown under, and set off from the next. -/
def pretty : String :=
  let span := match e.span with
    | some name => ", span_name: " ++ quoted name.toList
    | none => ""
  "  " ++ e.levelText ++ " " ++ e.target ++ ": " ++ e.safeText ++ span ++ "\n"

def json : Json :=
  let span := match e.span with
    | some name => [("span_name", Json.ofString name)]
    | none => []
  .record [("level", .ofString e.level.text),
    ("fields", .record (("message", .ofString e.text) :: span)), ("target", .ofString e.target)]

def write (e : Entry) : EventFormat → String
  | .pretty => e.pretty
  | .compact => e.compact
  | .json => e.json.compact

end Entry

end Harmonograph.Command
