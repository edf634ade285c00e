import OptionCompiler.CommandLine.Plan
/-!
# Running the program

The program in a monad that can act on files. It reads the files that a plan needs, works the plan
out, and carries it out; so it reads everything before it writes anything. A file that cannot be
written ends the program and leaves the files before it.

On a file tree the program is a function of the tree and the arguments.
-/

namespace OptionCompiler

/-- What a program may do to files. Each action may be refused. -/
class FileActions (m : Type → Type) where
  read (path : String) : m (Except FileError String)
  write (path text : String) : m (Except FileError Unit)
  makeDirectories (path : String) : m (Except FileError Unit)

/-- An operation on a file tree as an action. A refusal leaves the tree as it was. -/
def FileTree.action (operation : FileTree → Except FileError FileTree) :
    StateM FileTree (Except FileError Unit) := fun tree =>
  match operation tree with
  | .ok after => (.ok (), after)
  | .error error => (.error error, tree)

instance : FileActions (StateM FileTree) where
  read path := fun tree => (tree.read path, tree)
  write path text := FileTree.action fun tree => tree.write path text
  makeDirectories path := FileTree.action fun tree => tree.makeDirectories path

namespace CommandLine

section Actions

variable {m : Type → Type} [Monad m] [FileActions m]

/-- Reads files one after the other, into a table of what came of each. -/
def readAll : List String → m (List (String × Except FileError String))
  | [] => return []
  | path :: paths => do
      let text ← FileActions.read path
      return (path, text) :: (← readAll paths)

/-- Reads from a table of files. -/
def readFrom (files : List (String × Except FileError String)) (path : String) :
    Except FileError String :=
  (files.lookup path).getD (.error .missing)

/-- Writes files one after the other, up to the first that cannot be written. -/
def writeAll : List (String × String) → m (Except Problem Unit)
  | [] => return .ok ()
  | (path, text) :: files => do
      match ← FileActions.write path text with
      | .ok () => writeAll files
      | .error error => return .error (.outputFile path error)

/-- Makes the directory of a generation and writes its files. -/
def Generation.perform (generation : Generation) : m (Except Problem Ending) := do
  match ← FileActions.makeDirectories generation.directory with
  | .error error => return .error (.outputDirectory generation.directory error)
  | .ok () => return (← writeAll generation.files).map fun () => generation.ending

/-- Carries out a plan. -/
def Plan.perform : Plan → m (Except Problem Ending)
  | .finish ending => return .ok ending
  | .generate generation => generation.perform

/-- What the program does when it is given arguments. -/
def respond (arguments : List String) : m (Except Problem Ending) := do
  let files ← readAll (((request? arguments).map Plan.filesRead).getD [])
  match Plan.ofArguments (readFrom files) arguments with
  | .error problem => return .error problem
  | .ok plan => plan.perform

end Actions

/-- The program on a file tree. -/
def run (arguments : List String) (tree : FileTree) : Except Problem Ending × FileTree :=
  (respond arguments : StateM FileTree (Except Problem Ending)).run tree

end CommandLine

end OptionCompiler
