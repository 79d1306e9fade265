/-!
What can go wrong with a file.
-/

namespace Harmonograph

inductive FileError
  | notFound (path : String)
  | permissionDenied (path : String)
  | invalidEncoding (path : String)
  /-- Any other failure, as the system describes it. -/
  | failed (path : String) (description : String)
  deriving DecidableEq, Repr

namespace FileError

def path : FileError → String
  | notFound p | permissionDenied p | invalidEncoding p | failed p _ => p

def message : FileError → String
  | notFound p => "path not found: " ++ p
  | permissionDenied p => "permission denied: " ++ p
  | invalidEncoding p => "file is not valid UTF-8: " ++ p
  | failed p d => "IO error on " ++ p ++ ": " ++ d

/-- The name of an error in data. -/
def tag : FileError → String
  | notFound _ => "NotFound"
  | permissionDenied _ => "PermissionDenied"
  | invalidEncoding _ => "InvalidUtf8"
  | failed _ _ => "Io"

end FileError

end Harmonograph
