import OptionCompiler.Declaration
import OptionCompiler.Document
/-!
# Declarations as documents

Declarations are written with the fields of each record in a fixed order. Empty lists of
annotations and arguments are left out, and so are the names and element types that are lacking.
Reading accepts any document format, and looks only at the parts that the outlines name.
-/

namespace OptionCompiler

section Outlines

/-- The parts of an argument that are read. -/
def Argument.outline : Outline :=
  .record [("name", .scalar), ("value", .literal)]

/-- The parts of an annotation that are read. -/
def Annotation.outline : Outline :=
  .record [("name", .scalar), ("args", .list Argument.outline)]

/-- The parts of a declared type that are read. -/
def DeclaredType.outline : Outline :=
  .record
    [("shape", .scalar), ("nullable", .scalar), ("sequence", .scalar), ("element", .scalar)]

/-- The parts of a member that are read. -/
def Member.outline : Outline :=
  .record
    [("name", .scalar), ("ty", DeclaredType.outline), ("annotations", .list Annotation.outline)]

/-- The parts of a type declaration that are read. -/
def TypeDeclaration.outline : Outline :=
  .record
    [("name", .scalar), ("annotations", .list Annotation.outline),
      ("members", .list Member.outline)]

/-- The parts of a declaration set that are read. -/
def DeclarationSet.outline : Outline :=
  .record [("declarations", .list TypeDeclaration.outline)]

end Outlines

section Encoders

/-- The document value of an argument. -/
def Argument.toJson (argument : Argument) : Json :=
  .ofFields [Json.presentField "name" argument.name, some ("value", argument.value.toJson)]

/-- The document value of an annotation. -/
def Annotation.toJson (mark : Annotation) : Json :=
  .ofFields
    [some ("name", .string mark.name),
      Json.nonemptyField "args" (mark.args.map Argument.toJson)]

/-- The document value of a declared type. -/
def DeclaredType.toJson (type : DeclaredType) : Json :=
  .ofFields
    [some ("shape", .string type.shape.name), some ("nullable", .bool type.nullable),
      some ("sequence", .bool type.sequence), Json.presentField "element" type.element]

/-- The document value of a member. -/
def Member.toJson (member : Member) : Json :=
  .ofFields
    [some ("name", .string member.name), some ("ty", member.type.toJson),
      Json.nonemptyField "annotations" (member.annotations.map Annotation.toJson)]

/-- The document value of a type declaration. -/
def TypeDeclaration.toJson (declaration : TypeDeclaration) : Json :=
  .ofFields
    [some ("name", .string declaration.name),
      Json.nonemptyField "annotations" (declaration.annotations.map Annotation.toJson),
      some ("members", .array (declaration.members.map Member.toJson))]

/-- The document value of a declaration set. -/
def DeclarationSet.toJson (set : DeclarationSet) : Json :=
  .object [("declarations", .array (set.declarations.map TypeDeclaration.toJson))]

end Encoders

section Decoders

variable {ν : Type} [Document ν]

/-- The shape that a document names. -/
def ValueShape.decode? (node : ν) : Option ValueShape :=
  (Document.variant? node).bind ValueShape.ofName?

/-- The argument that a document describes. -/
def Argument.decode? (node : ν) : Option Argument := do
  let record ← Record.of? ["name", "value"] false node
  return {
    name := ← record.optionalDefaulted? "name" Document.text?
    value := ← record.required? "value" Document.literal? }

/-- The annotation that a document describes. -/
def Annotation.decode? (node : ν) : Option Annotation := do
  let record ← Record.of? ["name", "args"] false node
  return {
    name := ← record.required? "name" Document.text?
    args := ← record.defaulted? "args" [] (Document.list? Argument.decode?) }

/-- The declared type that a document describes. -/
def DeclaredType.decode? (node : ν) : Option DeclaredType := do
  let record ← Record.of? ["shape", "nullable", "sequence", "element"] false node
  return {
    shape := ← record.required? "shape" ValueShape.decode?
    nullable := ← record.defaulted? "nullable" false Document.bool?
    sequence := ← record.defaulted? "sequence" false Document.bool?
    element := ← record.optionalDefaulted? "element" Document.text? }

/-- The member that a document describes. -/
def Member.decode? (node : ν) : Option Member := do
  let record ← Record.of? ["name", "ty", "annotations"] false node
  return {
    name := ← record.required? "name" Document.text?
    type := ← record.required? "ty" DeclaredType.decode?
    annotations := ← record.defaulted? "annotations" [] (Document.list? Annotation.decode?) }

/-- The type declaration that a document describes. -/
def TypeDeclaration.decode? (node : ν) : Option TypeDeclaration := do
  let record ← Record.of? ["name", "annotations", "members"] false node
  return {
    name := ← record.required? "name" Document.text?
    annotations := ← record.defaulted? "annotations" [] (Document.list? Annotation.decode?)
    members := ← record.defaulted? "members" [] (Document.list? Member.decode?) }

/-- The declaration set that a document describes. -/
def DeclarationSet.decode? (node : ν) : Option DeclarationSet := do
  let record ← Record.of? ["declarations"] false node
  return {
    declarations := ← record.required? "declarations" (Document.list? TypeDeclaration.decode?) }

end Decoders

end OptionCompiler
