import Harmonograph.Command.Run

/-!
The command: it reads the files that it needs, and then does what its arguments ask for.
-/

namespace Harmonograph.Command

/-- Why the system has refused to read a file. -/
def refusalOf : IO.Error → SystemError
  | .noFileOrDirectory _ _ _ => .missing
  | .permissionDenied _ _ _ => .denied
  | .inappropriateType _ code _ => if code = 21 then .isFolder else .notFolder
  | e => .other (toString e)

def readFile (path : String) : IO (String × Except SystemError ByteArray) := do
  try
    return (path, .ok (← IO.FS.readBinFile path))
  catch e =>
    return (path, .error (refusalOf e))

/-- What has been read. -/
def readerOf (files : List (String × Except SystemError ByteArray)) : SystemReader :=
  fun path ↦ (files.lookup path).getD (.error .missing)

end Harmonograph.Command

open Harmonograph Command in
def main (arguments : List String) : IO UInt32 := do
  let first ← (filesNeeded (readerOf []) arguments).mapM readFile
  let files ← (filesNeeded (readerOf first) arguments).mapM readFile
  let outcome := run (readerOf files) arguments
  IO.eprint (String.join (outcome.stderr.map (Remark.write (formatOf arguments))))
  IO.print outcome.stdout
  return UInt32.ofNat outcome.code
