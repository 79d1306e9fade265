import Harmonograph.Reading.Run
import Harmonograph.Settings.TimeStep

/-!
Sessions: the time step is settled once, and all drawings are made with it.
-/

namespace Harmonograph

inductive Session
  | fresh
  | settled (timeStep : Float)

/-- What a session refuses to do: to settle its time step again, or to draw before it is settled. -/
inductive SessionError
  | alreadySettled (asked : Float)
  | notSettled

/-- The settings of a session, as they are shown. -/
def settingsText (timeStep : Float) : String :=
  "RunConfig \x7b parser: ParserConfig \x7b time_delta: " ++ NumberLayout.setting.write timeStep ++
    " \x7d \x7d"

def SessionError.message : SessionError → String
  | alreadySettled asked => "Config already initialized: " ++ settingsText asked
  | notSettled => "Config not initialized"

namespace Session

variable (s : Session)

def isSettled : Bool :=
  match s with
  | settled _ => true
  | fresh => false

def settle (timeStep : Float) : Except SessionError Session :=
  if s.isSettled then .error (.alreadySettled timeStep) else .ok (settled timeStep)

def timeStep : Except SessionError Float :=
  match s with
  | settled x => .ok x
  | fresh => .error .notSettled

def draw {π : Type} [PathLike π] (readText : π → Except FileError String) (paths : List π) :
    Except SessionError (Run Drawing) :=
  s.timeStep.map fun x ↦ Harmonograph.draw x readText paths

/-- The session, settled as usual unless it is settled already. -/
def orUsual : Session :=
  match s with
  | settled x => settled x
  | fresh => settled TimeStep.usual

end Session

end Harmonograph
