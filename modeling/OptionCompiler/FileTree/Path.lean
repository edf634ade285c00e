/-!
# Paths

A path is a text of names with slashes between them. Empty names count for nothing but a slash in
front, and a dot means the same directory, so it counts only where it comes first. Two dots mean
the directory around.

The name of a file is the last name of its path. Its last dot divides it into stem and extension,
unless it is the first character, as a name that begins with its only dot has no extension.
-/

namespace OptionCompiler

namespace Path

/-- The names between the slashes of the remaining characters, where `reversed` holds the first
name so far, back to front. -/
def namesFrom (reversed : List Char) : List Char → List (List Char)
  | [] => [reversed.reverse]
  | c :: rest =>
      if c = '/' then reversed.reverse :: namesFrom [] rest else namesFrom (c :: reversed) rest

/-- The names of a path that are not empty. -/
def names (path : String) : List String :=
  ((namesFrom [] path.toList).filter fun name => !name.isEmpty).map String.ofList

/-- Whether a path begins with a slash. -/
def isAbsolute (path : String) : Bool :=
  path.toList.head? == some '/'

/-- The names of a path without the dots that count for nothing. -/
def components (path : String) : List String :=
  match names path with
  | [] => []
  | first :: rest =>
      let rest := rest.filter fun name => name ≠ "."
      if isAbsolute path && first = "." then rest else first :: rest

def fileName? (path : String) : Option String :=
  match (components path).getLast? with
  | some "." => none
  | some ".." => none
  | other => other

/-- The characters before and after the last dot, or none if there is no dot after the first
character. -/
def splitName? (name : List Char) : Option (List Char × List Char) :=
  match name.reverse.dropWhile (· ≠ '.') with
  | [] => none
  | [_] => none
  | _ :: stem => some (stem.reverse, (name.reverse.takeWhile (· ≠ '.')).reverse)

/-- The name of the file without its extension. -/
def stem? (path : String) : Option String :=
  (fileName? path).map fun name =>
    match splitName? name.toList with
    | some (stem, _) => String.ofList stem
    | none => name

/-- The extension of the file, without the dot. -/
def extension? (path : String) : Option String :=
  (fileName? path).bind fun name =>
    (splitName? name.toList).map fun (_, extension) => String.ofList extension

def join (directory name : String) : String :=
  if directory.toList.getLast?.all (· = '/') then directory ++ name
  else directory ++ "/" ++ name

end Path

end OptionCompiler
