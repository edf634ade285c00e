import OptionCompiler.FileTree.Path
/-!
# File trees

A tree of directories and text files, with the operations that a program of this library needs:
reading a file, writing a file, and making a directory with all directories around it. Each
operation fails with the error that the tree gives cause for. Names and paths have a greatest
length, which is counted in the bytes of their UTF-8 form.

A place is the list of the names that lead to it, the last name first. A path starts at the working
directory, which is the only thing in the directory around it, or after a slash at that directory.
-/

namespace OptionCompiler

/-- Why an operation on files fails. -/
inductive FileError where
  /-- The system refuses, with a description and its number. -/
  | refused (description : String) (number : Nat)
  /-- The file does not hold a text. -/
  | notText
deriving DecidableEq, Repr

namespace FileError

def missing : FileError := .refused "No such file or directory" 2

/-- Something is there already. -/
def present : FileError := .refused "File exists" 17

/-- A file stands where a directory is needed. -/
def notDirectory : FileError := .refused "Not a directory" 20

/-- A directory stands where a file is needed. -/
def isDirectory : FileError := .refused "Is a directory" 21

/-- A name or a path is longer than the system allows. -/
def tooLong : FileError := .refused "File name too long" 36

def message : FileError → String
  | .refused description number => description ++ " (os error " ++ toString number ++ ")"
  | .notText => "stream did not contain valid UTF-8"

end FileError

/-- What is at a place. -/
inductive FileNode where
  | directory
  | file (text : String)
deriving DecidableEq, Repr

/-- A place in a tree: the names that lead to it, the last one first. -/
abbrev Place := List String

/-- A tree of files. -/
structure FileTree where
  nodes : List (Place × FileNode)
deriving DecidableEq, Repr

namespace FileTree

def workingDirectory : Place := ["."]

/-- A tree with nothing in its working directory. -/
def empty : FileTree := ⟨[(workingDirectory, .directory)]⟩

/-- What is at a place. The outermost place is a directory. -/
def node? (tree : FileTree) (place : Place) : Option FileNode :=
  if place.isEmpty then some .directory else tree.nodes.lookup place

/-- Puts something at a place, instead of what is there. -/
def put (tree : FileTree) (place : Place) (node : FileNode) : FileTree :=
  ⟨(place, node) :: tree.nodes.filter fun entry => entry.1 ≠ place⟩

/-- The place that a name leads to from a directory. -/
def enter (place : Place) (name : String) : Place :=
  if name = "." then place else if name = ".." then place.tail else name :: place

/-- The greatest length of a name. -/
def nameLimit : Nat := 255

/-- The greatest length of a path. -/
def pathLimit : Nat := 4095

/-- The place that names lead to. Every name must be looked up in a directory, but nothing need be
at the last place. -/
def follow (tree : FileTree) (place : Place) : List String → Except FileError Place
  | [] => .ok place
  | name :: rest =>
      match tree.node? place with
      | some .directory =>
          if nameLimit < name.utf8ByteSize then .error .tooLong
          else follow tree (enter place name) rest
      | some (.file _) => .error .notDirectory
      | none => .error .missing

def start (path : String) : Place :=
  if Path.isAbsolute path then [] else workingDirectory

/-- The names to follow for a path. After a slash at its end the path must lead to a directory. -/
def lookupNames (path : String) : List String :=
  if path.toList.getLast? == some '/' then Path.names path ++ ["."] else Path.names path

def locate (tree : FileTree) (path : String) : Except FileError Place :=
  if path.isEmpty then .error .missing
  else if pathLimit < path.utf8ByteSize then .error .tooLong
  else tree.follow (start path) (lookupNames path)

def read (tree : FileTree) (path : String) : Except FileError String := do
  match tree.node? (← tree.locate path) with
  | some (.file text) => .ok text
  | some .directory => .error .isDirectory
  | none => .error .missing

/-- Writes a text to a file, which is made if it is not there. -/
def write (tree : FileTree) (path text : String) : Except FileError FileTree := do
  let place ← tree.locate path
  match tree.node? place with
  | some .directory => .error .isDirectory
  | _ => .ok (tree.put place (.file text))

/-- Makes the directory that names lead to from a place. -/
def make (tree : FileTree) (start : Place) (names : List String) : Except FileError FileTree := do
  let place ← tree.follow start names
  match tree.node? place with
  | some _ => .error .present
  | none => .ok (tree.put place .directory)

/-- Whether names lead to a directory from a place. -/
def hasDirectory (tree : FileTree) (start : Place) (names : List String) : Bool :=
  match tree.follow start names with
  | .ok place => tree.node? place == some .directory
  | .error _ => false

/-- Makes a directory, unless it is there. -/
def ensure (tree : FileTree) (start : Place) (names : List String) : Except FileError FileTree :=
  match tree.make start names with
  | .ok made => .ok made
  | .error error => if tree.hasDirectory start names then .ok tree else .error error

/-- Makes the first of the directories, after the others if something around it is missing. -/
def ensureFirst (tree : FileTree) (start : Place) :
    List (List String) → Except FileError FileTree
  | [] => .ok tree
  | names :: outer =>
      match tree.ensure start names with
      | .error error =>
          if error = .missing then do (← ensureFirst tree start outer).ensure start names
          else .error error
      | made => made

/-- The directories around a path, innermost first. -/
def directoriesAround (path : String) : List (List String) :=
  let names := Path.components path
  (List.range' 1 (names.length - 1)).reverse.map names.take

/-- Makes the directory of a path and all directories around it, unless they are there. -/
def makeDirectories (tree : FileTree) (path : String) : Except FileError FileTree :=
  if pathLimit < path.utf8ByteSize then .error .tooLong
  else ensureFirst tree (start path) (Path.names path :: directoriesAround path)

end FileTree

end OptionCompiler
