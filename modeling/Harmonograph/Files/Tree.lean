import Std.Data.TreeMap
import Harmonograph.Files.Error
import Harmonograph.Files.Path

/-!
Folders of files, as a system shows them to a program that works in one of them.
-/

namespace Harmonograph

/-- Why the system refuses something. -/
inductive SystemError
  | missing
  | isFolder
  | notFolder
  | nameTooLong
  | invalidName
  | denied
  | other (description : String)
  deriving DecidableEq, Repr

namespace SystemError

def message : SystemError → String
  | missing => "No such file or directory (os error 2)"
  | isFolder => "Is a directory (os error 21)"
  | notFolder => "Not a directory (os error 20)"
  | nameTooLong => "File name too long (os error 36)"
  | invalidName => "file name contained an unexpected NUL byte"
  | denied => "Permission denied (os error 13)"
  | other description => description

/-- What is wrong with the file at `path`. -/
def fileError (path : String) : SystemError → FileError
  | missing => .notFound path
  | denied => .permissionDenied path
  | e => .failed path e.message

end SystemError

/-- What a path leads to. -/
inductive TreeEntry
  | file (content : ByteArray)
  | folder

/-- The parts of the way from the root, the last first. -/
abbrev Place := List (List Char)

structure FileTree where
  /-- What there is at each place, by the way to it. The root is always there. -/
  entries : Std.TreeMap String TreeEntry
  /-- The folder that relative paths start from. -/
  home : Place

namespace FileTree

def key (place : Place) : String :=
  String.ofList (place.reverse.flatMap ('/' :: ·))

variable (t : FileTree)

def entry? (place : Place) : Option TreeEntry :=
  if place.isEmpty then some .folder else t.entries[key place]?

def isFolderAt (place : Place) : Bool :=
  match t.entry? place with
  | some .folder => true
  | _ => false

def set (place : Place) (e : TreeEntry) : FileTree :=
  { t with entries := t.entries.insert (key place) e }

/-- Makes folders all the way to a place. -/
def addFolders : FileTree → Place → FileTree
  | t, [] => t
  | t, part :: place => (addFolders t place).set (part :: place) .folder

/-- The folders on the way home. -/
def empty (home : Place) : FileTree := addFolders ⟨∅, home⟩ home

/-- The place that parts lead to from another, whether or not it is there. -/
def descend (place : Place) (parts : List (List Char)) : Place :=
  parts.foldl (fun place part ↦
    if part = ['.'] then place else if part = ['.', '.'] then place.tail else part :: place) place

def startOf (path : List Char) : Place := if Path.isAbsolute path then [] else t.home

/-- Adds a file, with all folders on the way. -/
def addFile (path : String) (content : ByteArray) : FileTree :=
  let place := descend (t.startOf path.toList) (Path.parts path.toList)
  (t.addFolders place.tail).set place (.file content)

def ofList (home : Place) (files : List (String × ByteArray)) : FileTree :=
  files.foldl (fun t f ↦ t.addFile f.1 f.2) (empty home)

/-- The longest name of a file, in bytes. -/
def longestName : Nat := 255

/-- The longest path, in bytes. -/
def longestPath : Nat := 4095

def byteCount (cs : List Char) : Nat := (String.ofList cs).utf8ByteSize

/-- Follows parts from a place. -/
def walk : Place → List (List Char) → Except SystemError Place
  | place, [] => .ok place
  | place, part :: parts =>
    if !t.isFolderAt place then .error .notFolder
    else if part = ['.'] then walk place parts
    else if part = ['.', '.'] then walk place.tail parts
    else if longestName < byteCount part then .error .nameTooLong
    else if (t.entry? (part :: place)).isSome then walk (part :: place) parts
    else .error .missing

def checkPath (cs : List Char) : Except SystemError Unit :=
  if cs.contains '\x00' then .error .invalidName
  else if cs.isEmpty then .error .missing
  else if longestPath < byteCount cs then .error .nameTooLong
  else .ok ()

/-- The place that a path leads to. A path that ends in a slash leads to a folder. -/
def find (path : String) : Except SystemError Place := do
  let cs := path.toList
  checkPath cs
  let place ← t.walk (t.startOf cs) (Path.parts cs)
  if cs.getLast? = some '/' && !t.isFolderAt place then throw .notFolder
  return place

def read (path : String) : Except SystemError ByteArray := do
  match t.entry? (← t.find path) with
  | some (.file content) => return content
  | some .folder => throw .isFolder
  | none => throw .missing

def isFile (path : String) : Bool :=
  match t.read path with
  | .ok _ => true
  | .error _ => false

def isFolder (path : String) : Bool :=
  match t.find path with
  | .ok place => t.isFolderAt place
  | .error _ => false

/-- The place of a file that is to be written, new or not. -/
def placeToWrite (path : String) : Except SystemError Place := do
  let cs := path.toList
  checkPath cs
  match (Path.parts cs).reverse with
  | [] => throw .isFolder
  | name :: rest =>
    let folder ← t.walk (t.startOf cs) rest.reverse
    if !t.isFolderAt folder then throw .notFolder
    if name = ['.'] ∨ name = ['.', '.'] ∨ cs.getLast? = some '/' then throw .isFolder
    if longestName < byteCount name then throw .nameTooLong
    let place := name :: folder
    if t.isFolderAt place then throw .isFolder
    return place

def write (path : String) (content : ByteArray) : Except SystemError FileTree := do
  return t.set (← t.placeToWrite path) (.file content)

/-- The bytes of the file at a place; none when there is no file. -/
def contentAt (place : Place) : ByteArray :=
  match t.entry? place with
  | some (.file content) => content
  | _ => .empty

/-- Adds text to the end of the file at a place. -/
def append (place : Place) (text : String) : FileTree :=
  t.set place (.file (t.contentAt place ++ text.toUTF8))

end FileTree

end Harmonograph
