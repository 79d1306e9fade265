import Harmonograph.Files.Memory
import Harmonograph.Files.Tree

/-!
Files of a system by path, with errors that give the path as it was asked for.
-/

namespace Harmonograph

/-- What the system gives for a path. -/
abbrev SystemReader := String → Except SystemError ByteArray

/-- The text of the file at `path`. -/
def SystemReader.text (read : SystemReader) (path : String) : Except FileError String :=
  match read path with
  | .ok content => decodeText path content
  | .error e => .error (e.fileError path)

structure Disk where
  tree : FileTree
  /-- Where relative paths start, when that is not the folder at hand. -/
  base : Option String

namespace Disk

variable (d : Disk)

def resolve (path : String) : String :=
  match d.base with
  | some base => Path.join base path
  | none => path

def reader : SystemReader := fun path ↦ d.tree.read (d.resolve path)

def read (path : String) : Except FileError ByteArray :=
  (d.reader path).mapError (·.fileError path)

def readText (path : String) : Except FileError String := d.reader.text path

def write (path : String) (content : ByteArray) : Except FileError Disk :=
  match d.tree.write (d.resolve path) content with
  | .ok tree => .ok { d with tree }
  | .error e => .error (e.fileError path)

def isFile (path : String) : Bool := d.tree.isFile (d.resolve path)

def isFolder (path : String) : Bool := d.tree.isFolder (d.resolve path)

end Disk

end Harmonograph
