import OptionCompiler.Declaration
import OptionCompiler.Diagnostic
/-!
# Descriptors

What the compiler knows about a command and its options once their annotations are read. A
command has its options in declaration order, which decides the order in help texts and of
registration.

An arity is the range of how many values an option takes. A backing type is what a declared type
means for an option, and it decides the arity an option has by default and the widest one it can
hold.
-/

namespace OptionCompiler

/-- How many values an option takes; no greatest number means without limit. -/
structure Arity where
  min : UInt32
  max : Option UInt32
deriving DecidableEq, Repr

namespace Arity

def exactlyOne : Arity := ⟨1, some 1⟩

def atMostOne : Arity := ⟨0, some 1⟩

/-- Any number of values. -/
def any : Arity := ⟨0, none⟩

/-- Whether the least number does not exceed the greatest. -/
def isOrdered (arity : Arity) : Bool :=
  match arity.max with
  | some max => arity.min ≤ max
  | none => true

/-- Whether the range is ordered and lies inside `natural`. -/
def fitsWithin (arity natural : Arity) : Bool :=
  arity.isOrdered && natural.min ≤ arity.min &&
    match arity.max, natural.max with
    | _, none => true
    | none, some _ => false
    | some max, some limit => max ≤ limit

/-- The range as messages show it. -/
def label (arity : Arity) : String :=
  match arity.max with
  | some max => "(" ++ toString arity.min.toNat ++ ", " ++ toString max.toNat ++ ")"
  | none => "(" ++ toString arity.min.toNat ++ ", unbounded)"

end Arity

/-- What a declared type means for an option. -/
inductive BackingType where
  | boolean
  | scalar (shape : ValueShape)
  | nullableScalar (shape : ValueShape)
  | filePath
  | directoryPath
  | sequence (shape : ValueShape)
  | nullableSequence (shape : ValueShape)
deriving DecidableEq, Repr

namespace BackingType

def classify (type : DeclaredType) : BackingType :=
  match type.sequence, type.nullable with
  | true, true => .nullableSequence type.shape
  | true, false => .sequence type.shape
  | false, true => .nullableScalar type.shape
  | false, false =>
      match type.shape with
      | .bool => .boolean
      | .file => .filePath
      | .directory => .directoryPath
      | shape => .scalar shape

def shape : BackingType → ValueShape
  | .boolean => .bool
  | .filePath => .file
  | .directoryPath => .directory
  | .scalar shape => shape
  | .nullableScalar shape => shape
  | .sequence shape => shape
  | .nullableSequence shape => shape

/-- Whether the value may be lacking. -/
def isNullable : BackingType → Bool
  | .nullableScalar _ => true
  | .nullableSequence _ => true
  | _ => false

/-- Whether there may be several values. -/
def isSequence : BackingType → Bool
  | .sequence _ => true
  | .nullableSequence _ => true
  | _ => false

/-- Whether the values are truth values. -/
def isBoolean (backing : BackingType) : Bool :=
  backing.shape = .bool

/-- The kind of the paths that are the values. -/
def pathKind? (backing : BackingType) : Option PathKind :=
  backing.shape.pathKind?

/-- The arity of an option whose annotation gives none. -/
def defaultArity (backing : BackingType) : Arity :=
  if backing.isSequence then .any
  else if backing.isBoolean then .atMostOne
  else .exactlyOne

/-- The widest arity that the type can hold. -/
def naturalArity (backing : BackingType) : Arity :=
  if backing.isSequence then .any else .atMostOne

/-- The words for the type in messages. -/
def label : BackingType → String
  | .boolean => "bool"
  | .scalar shape => shape.label
  | .nullableScalar shape => "nullable " ++ shape.label
  | .filePath => "file path"
  | .directoryPath => "directory path"
  | .sequence shape => "sequence of " ++ shape.label
  | .nullableSequence shape => "nullable sequence of " ++ shape.label

end BackingType

/-- What to do about a directory that does not exist. -/
inductive DirectoryMode where
  | existingOnly
  | createIfMissing
deriving DecidableEq, Repr

/-- What to do about a file that does not exist. -/
inductive FileMode where
  | existingOnly
deriving DecidableEq, Repr

/-- The condition that a path given to an option has to meet. -/
inductive PathConstraint where
  | directory (mode : DirectoryMode)
  | file (mode : FileMode)
deriving DecidableEq, Repr

namespace PathConstraint

def pathKind : PathConstraint → PathKind
  | .directory _ => .directory
  | .file _ => .file

end PathConstraint

/-- An option: a member with a readable option annotation. -/
structure OptionDescriptor where
  member : String
  primaryFlag : String
  aliases : List String
  description : Option String
  helpName : Option String
  required : Bool
  hidden : Bool
  arity : Arity
  backingType : BackingType
  elementType : String
  constraints : List PathConstraint
  location : Location
deriving DecidableEq, Repr

namespace OptionDescriptor

/-- The primary flag and the aliases as they were declared. -/
def allFlags (option : OptionDescriptor) : List String :=
  option.primaryFlag :: option.aliases

end OptionDescriptor

/-- A command: a type with a command annotation. -/
structure CommandDescriptor where
  typeName : String
  name : String
  description : Option String
  options : List OptionDescriptor
  location : Location
deriving DecidableEq, Repr

namespace CommandDescriptor

/-- The first option of the given member. -/
def findOption? (command : CommandDescriptor) (member : String) : Option OptionDescriptor :=
  command.options.find? fun option => option.member = member

end CommandDescriptor

end OptionCompiler
