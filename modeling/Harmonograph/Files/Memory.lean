import Std.Data.TreeMap
import Harmonograph.Files.Error

/-!
Files kept in memory. There are no folders: a folder exists as long as the path of some file leads
through it.
-/

namespace Harmonograph

/-- The text that the content of a file spells. -/
def decodeText (path : String) (content : ByteArray) : Except FileError String :=
  match String.fromUTF8? content with
  | some text => .ok text
  | none => .error (.invalidEncoding path)

/-- The content of each file, by path. -/
structure MemoryFiles where
  files : Std.TreeMap String ByteArray

namespace MemoryFiles

def empty : MemoryFiles := ⟨∅⟩

/-- A path with either kind of slash, written with forward ones. -/
def key (path : String) : String :=
  String.ofList (path.toList.map fun c ↦ if c = '\\' then '/' else c)

variable (m : MemoryFiles)

def size : Nat := m.files.size

def write (path : String) (content : ByteArray) : MemoryFiles := ⟨m.files.insert (key path) content⟩

def ofList (files : List (String × ByteArray)) : MemoryFiles :=
  files.foldl (fun m f ↦ m.write f.1 f.2) empty

def read (path : String) : Except FileError ByteArray :=
  match m.files[key path]? with
  | some content => .ok content
  | none => .error (.notFound (key path))

def readText (path : String) : Except FileError String := do
  let content ← m.read path
  decodeText path content

def isFile (path : String) : Bool := m.files.contains (key path)

/-- What all paths in a folder begin with. -/
def folderKey (path : String) : List Char :=
  let cs := (key path).toList
  if cs.getLast? = some '/' then cs else cs ++ ['/']

def isFolder (path : String) : Bool := m.files.keys.any fun k ↦ (folderKey path).isPrefixOf k.toList

end MemoryFiles

end Harmonograph
