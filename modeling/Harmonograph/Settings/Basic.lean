import Harmonograph.Settings.LogLevels
import Harmonograph.Settings.Project

/-!
What a run is to do, from a project file and from what its user asks for.
-/

namespace Harmonograph

structure Settings where
  files : List String
  timeStep : Float
  levels : LogLevels

/-- The user's wishes go before the project, and the project's files before the user's. -/
def Settings.merge (project : Option (String × Project)) (files : List String)
    (timeStep : Option Float) (level : Option Log.Level) : Settings :=
  let listed := (project.map fun p ↦ p.2.resolved p.1).getD []
  let projectLevel := (project.bind (·.2.logLevel)).bind Log.Level.read?
  { files := listed ++ files
    timeStep := (timeStep.or (project.bind (·.2.timeStep))).getD TimeStep.usual
    levels := { LogLevels.usual with
      everywhere := (level.or projectLevel).getD LogLevels.usual.everywhere } }

end Harmonograph
