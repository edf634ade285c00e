import OptionCompiler.Literal
/-!
# Declarations

The input of the compiler: type declarations with their members, the declared types of the
members, and the annotations on both. Nothing here interprets an annotation.

A declared type is a primitive shape that may be nullable, a sequence, or both, together with the
element type that generated code spells for it.
-/

namespace OptionCompiler

/-- The kind of file system path that a path-shaped value names. -/
inductive PathKind where
  | file
  | directory
deriving DecidableEq, Repr

namespace PathKind

/-- The name of the annotation that constrains paths of this kind. -/
def annotationName : PathKind → String
  | .file => "file"
  | .directory => "directory"

/-- The path kind that an annotation of the given name constrains. -/
def ofAnnotationName? (name : String) : Option PathKind :=
  if name = "file" then some .file
  else if name = "directory" then some .directory
  else none

/-- The words for the kind in messages. -/
def label : PathKind → String
  | .file => "file path"
  | .directory => "directory path"

end PathKind

/-- The primitive shape of the values of a member. -/
inductive ValueShape where
  | bool
  | text
  | integer
  | float
  | file
  | directory
deriving DecidableEq, Repr

namespace ValueShape

/-- The name of a shape in documents. -/
def name : ValueShape → String
  | .bool => "bool"
  | .text => "text"
  | .integer => "integer"
  | .float => "float"
  | .file => "file"
  | .directory => "directory"

def all : List ValueShape :=
  [.bool, .text, .integer, .float, .file, .directory]

def ofName? (name : String) : Option ValueShape :=
  all.find? fun shape => shape.name = name

/-- The words for the shape in messages. -/
def label : ValueShape → String
  | .bool => "bool"
  | .text => "text"
  | .integer => "integer"
  | .float => "float"
  | .file => "file path"
  | .directory => "directory path"

/-- The element type that generated code spells when the declaration names none. -/
def defaultElement : ValueShape → String
  | .bool => "bool"
  | .text => "String"
  | .integer => "i64"
  | .float => "f64"
  | .file => "::std::path::PathBuf"
  | .directory => "::std::path::PathBuf"

/-- The kind of the paths of a path-shaped value. -/
def pathKind? : ValueShape → Option PathKind
  | .file => some .file
  | .directory => some .directory
  | _ => none

end ValueShape

/-- The declared type of a member. -/
structure DeclaredType where
  shape : ValueShape
  nullable : Bool
  sequence : Bool
  element : Option String
deriving DecidableEq, Repr

namespace DeclaredType

def ofShape (shape : ValueShape) : DeclaredType :=
  ⟨shape, false, false, none⟩

/-- The element type that generated code spells. -/
def elementType (type : DeclaredType) : String :=
  type.element.getD type.shape.defaultElement

/-- The type as messages show it. -/
def label (type : DeclaredType) : String :=
  match type.sequence, type.nullable with
  | true, true => "Option<Vec<" ++ type.shape.label ++ ">>"
  | true, false => "Vec<" ++ type.shape.label ++ ">"
  | false, true => "Option<" ++ type.shape.label ++ ">"
  | false, false => type.shape.label

end DeclaredType

/-- One argument of an annotation, positional when it has no name. -/
structure Argument where
  name : Option String
  value : Literal
deriving DecidableEq, Repr

/-- An annotation with its arguments as they are written. -/
structure Annotation where
  name : String
  args : List Argument
deriving DecidableEq, Repr

namespace Annotation

/-- The name of the annotation that makes a type a command container. -/
def commandName : String := "command"

/-- The name of the annotation that makes a member an option. -/
def optionName : String := "option"

end Annotation

/-- A member of a type. -/
structure Member where
  name : String
  type : DeclaredType
  annotations : List Annotation
deriving DecidableEq, Repr

namespace Member

def annotationsNamed (member : Member) (name : String) : List Annotation :=
  member.annotations.filter fun mark => mark.name = name

def hasOption (member : Member) : Bool :=
  !(member.annotationsNamed Annotation.optionName).isEmpty

/-- The annotations that constrain paths, in order, with the kinds of their paths. -/
def constraintAnnotations (member : Member) : List (PathKind × Annotation) :=
  member.annotations.filterMap fun mark =>
    (PathKind.ofAnnotationName? mark.name).map (·, mark)

end Member

/-- A type declaration, its members in declaration order. -/
structure TypeDeclaration where
  name : String
  annotations : List Annotation
  members : List Member
deriving DecidableEq, Repr

namespace TypeDeclaration

def annotationsNamed (declaration : TypeDeclaration) (name : String) : List Annotation :=
  declaration.annotations.filter fun mark => mark.name = name

/-- The first annotation that makes the type a command container. -/
def commandAnnotation? (declaration : TypeDeclaration) : Option Annotation :=
  (declaration.annotationsNamed Annotation.commandName).head?

/-- Whether the type carries a command annotation. -/
def isCommandContainer (declaration : TypeDeclaration) : Bool :=
  declaration.commandAnnotation?.isSome

end TypeDeclaration

/-- The type declarations of one input, in order. -/
structure DeclarationSet where
  declarations : List TypeDeclaration
deriving DecidableEq, Repr

end OptionCompiler
