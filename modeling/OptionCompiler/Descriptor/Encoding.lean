import OptionCompiler.Declaration.Encoding
import OptionCompiler.Descriptor
/-!
# Descriptors as documents

Descriptors are written with all their fields, a lacking text as null. A backing type is written
as its kind with the shape beside it, a constraint as its target with the mode beside it; kinds
that have no shape leave it out.
-/

namespace OptionCompiler

namespace BackingType

def kindName : BackingType → String
  | .boolean => "boolean"
  | .scalar _ => "scalar"
  | .nullableScalar _ => "nullable_scalar"
  | .filePath => "file_path"
  | .directoryPath => "directory_path"
  | .sequence _ => "sequence"
  | .nullableSequence _ => "nullable_sequence"

/-- The document value of a backing type. -/
def toJson (backing : BackingType) : Json :=
  match backing with
  | .boolean | .filePath | .directoryPath => .object [("kind", .string backing.kindName)]
  | .scalar shape | .nullableScalar shape | .sequence shape | .nullableSequence shape =>
      .object [("kind", .string backing.kindName), ("shape", .string shape.name)]

end BackingType

/-- The document value of an arity. -/
def Arity.toJson (arity : Arity) : Json :=
  .object
    [("min", .integer arity.min.toNat),
      ("max", match arity.max with
        | some max => .integer max.toNat
        | none => .null)]

def DirectoryMode.name : DirectoryMode → String
  | .existingOnly => "ExistingOnly"
  | .createIfMissing => "CreateIfMissing"

def FileMode.name : FileMode → String
  | .existingOnly => "ExistingOnly"

namespace PathConstraint

def modeName : PathConstraint → String
  | .directory mode => mode.name
  | .file mode => mode.name

/-- The document value of a constraint. -/
def toJson (constraint : PathConstraint) : Json :=
  .object
    [("target", .string constraint.pathKind.annotationName),
      ("mode", .string constraint.modeName)]

end PathConstraint

/-- The document value of an option. -/
def OptionDescriptor.toJson (option : OptionDescriptor) : Json :=
  .object
    [("member", .string option.member), ("primary_flag", .string option.primaryFlag),
      ("aliases", .array (option.aliases.map .string)),
      ("description", Json.ofText? option.description),
      ("help_name", Json.ofText? option.helpName), ("required", .bool option.required),
      ("hidden", .bool option.hidden), ("arity", option.arity.toJson),
      ("backing_type", option.backingType.toJson), ("element_type", .string option.elementType),
      ("constraints", .array (option.constraints.map PathConstraint.toJson)),
      ("location", option.location.toJson)]

/-- The document value of a command. -/
def CommandDescriptor.toJson (command : CommandDescriptor) : Json :=
  .object
    [("type_name", .string command.typeName), ("name", .string command.name),
      ("description", Json.ofText? command.description),
      ("options", .array (command.options.map OptionDescriptor.toJson)),
      ("location", command.location.toJson)]

section Decoders

/-- The count of values that a document value is. -/
def Arity.count? : Json → Option UInt32
  | .integer value => if 0 ≤ value ∧ value < 2 ^ 32 then some (UInt32.ofNat value.toNat) else none
  | _ => none

/-- The arity that a document value describes. -/
def Arity.decode? (node : Json) : Option Arity := do
  let record ← Record.of? ["min", "max"] false node
  return {
    min := ← record.required? "min" Arity.count?
    max := ← record.optional? "max" Arity.count? }

/-- A name with the contents that belong to it, and whether the record of both has named fields. -/
structure Tagged where
  tag : String
  contents : Option Json
  named : Bool
deriving Repr

/-- A record of a tag and the contents that belong to it. As a list it has both, and the tag is a
text there; beside its field name the tag may be any form of a variant. -/
def Record.tagged? (tag content : String) (node : Json) : Option Tagged := do
  let record ← Record.of? [tag, content] false node
  let name ← record.required? tag
    (if record.positional then Document.text? else Document.variant?)
  let contents := record.fields.lookup content
  if record.positional && contents.isNone then none
  else some ⟨name, contents, !record.positional⟩

/-- The shape beside a kind that needs one. -/
def ValueShape.beside? (contents : Option Json) : Option ValueShape :=
  contents.bind ValueShape.decode?

/-- A kind that takes no shape accepts none and null. -/
def BackingType.alone? (backing : BackingType) (contents : Option Json) : Option BackingType :=
  match contents with
  | none => some backing
  | some .null => some backing
  | some _ => none

/-- The backing type that a document value describes. -/
def BackingType.decode? (node : Json) : Option BackingType := do
  let ⟨kind, contents, _⟩ ← Record.tagged? "kind" "shape" node
  if kind = "boolean" then alone? .boolean contents
  else if kind = "file_path" then alone? .filePath contents
  else if kind = "directory_path" then alone? .directoryPath contents
  else if kind = "scalar" then (ValueShape.beside? contents).map .scalar
  else if kind = "nullable_scalar" then (ValueShape.beside? contents).map .nullableScalar
  else if kind = "sequence" then (ValueShape.beside? contents).map .sequence
  else if kind = "nullable_sequence" then (ValueShape.beside? contents).map .nullableSequence
  else none

/-- The name of a mode. Beside a named target, the name may also have an empty object for its
contents. -/
def PathConstraint.modeName? (named : Bool) (node : Json) : Option String :=
  match node with
  | .object [(name, .object [])] => if named then some name else none
  | other => Document.variant? other

def DirectoryMode.ofName? (name : String) : Option DirectoryMode :=
  [DirectoryMode.existingOnly, .createIfMissing].find? fun mode => mode.name = name

def FileMode.ofName? (name : String) : Option FileMode :=
  [FileMode.existingOnly].find? fun mode => mode.name = name

/-- The constraint that a document value describes. -/
def PathConstraint.decode? (node : Json) : Option PathConstraint := do
  let ⟨target, contents, named⟩ ← Record.tagged? "target" "mode" node
  let mode ← contents.bind (modeName? named)
  if target = "directory" then (DirectoryMode.ofName? mode).map .directory
  else if target = "file" then (FileMode.ofName? mode).map .file
  else none

/-- The option that a document value describes. -/
def OptionDescriptor.decode? (node : Json) : Option OptionDescriptor := do
  let record ← Record.of?
    ["member", "primary_flag", "aliases", "description", "help_name", "required", "hidden",
      "arity", "backing_type", "element_type", "constraints", "location"] false node
  return {
    member := ← record.required? "member" Document.text?
    primaryFlag := ← record.required? "primary_flag" Document.text?
    aliases := ← record.required? "aliases" (Document.list? Document.text?)
    description := ← record.optional? "description" Document.text?
    helpName := ← record.optional? "help_name" Document.text?
    required := ← record.required? "required" Document.bool?
    hidden := ← record.required? "hidden" Document.bool?
    arity := ← record.required? "arity" Arity.decode?
    backingType := ← record.required? "backing_type" BackingType.decode?
    elementType := ← record.required? "element_type" Document.text?
    constraints := ← record.required? "constraints" (Document.list? PathConstraint.decode?)
    location := ← record.required? "location" Location.decode? }

/-- The command that a document value describes. -/
def CommandDescriptor.decode? (node : Json) : Option CommandDescriptor := do
  let record ← Record.of? ["type_name", "name", "description", "options", "location"] false node
  return {
    typeName := ← record.required? "type_name" Document.text?
    name := ← record.required? "name" Document.text?
    description := ← record.optional? "description" Document.text?
    options := ← record.required? "options" (Document.list? OptionDescriptor.decode?)
    location := ← record.required? "location" Location.decode? }

end Decoders

end OptionCompiler
