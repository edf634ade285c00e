import OptionCompiler.Json.Syntax
import OptionCompiler.Literal
/-!
# Documents

What a typed decoder asks of a document tree, whatever format it was written in, and the records
that decoders read their fields from.

A record is written with the names of its fields, or, where the format has that form, as the list
of the fields in their order. The list may stop early only before fields that have a default.
Fields that nobody knows are ignored in an open record and refused in a closed one; a known field
must not stand twice.

`Nested` adds a limit on how many containers may stand inside each other. It is checked on the
way to whatever is decoded, so the parts of a document that nobody asks for may nest freely.

An `Outline` names the parts of a document that a decoder reads. In a record it reads the fields
that it knows, and it never looks into the others. So a field that nobody knows may hold what could
not be read.
-/

namespace OptionCompiler

/-- A document tree as the decoders of records see it. -/
class Document (ν : Type) where
  /-- The text of a scalar. -/
  text? : ν → Option String
  /-- The truth value of a scalar. -/
  bool? : ν → Option Bool
  /-- The items of a list. -/
  items? : ν → Option (List ν)
  /-- The named entries of a map or a record, in their order. -/
  entries? : ν → Option (List (String × ν))
  /-- The entries of a map whose keys name variants. -/
  variantEntries? : ν → Option (List (String × ν)) := entries?
  /-- The fields of a record that is written as a list. -/
  positional? : ν → Option (List ν)
  /-- The name of a variant without contents. -/
  variant? : ν → Option String
  /-- What stands where a value may be lacking: nothing, or the node itself. -/
  present? : ν → Option (Option ν)
  /-- The literal that the node stands for. -/
  literal? : ν → Option Literal
  /-- Whether no more than that many containers stand inside each other. -/
  fits : Nat → ν → Bool

instance : Document Json where
  text?
    | .string text => some text
    | _ => none
  bool?
    | .bool value => some value
    | _ => none
  items?
    | .array items => some items
    | _ => none
  entries?
    | .object fields => some fields
    | _ => none
  positional?
    | .array items => some items
    | _ => none
  variant?
    | .string text => some text
    | .object [(key, .null)] => some key
    | _ => none
  present?
    | .null => some none
    | node => some (some node)
  literal? value := some (Literal.ofJson value)
  fits _ _ := true

namespace Json

/-- The text that a raw string means. -/
def rawText? (raw : List Char) : Option String :=
  (unescape? raw).map String.ofList

end Json

instance : Document Json.Syntax where
  text?
    | .string raw => Json.rawText? raw
    | _ => none
  bool?
    | .bool value => some value
    | _ => none
  items?
    | .array items => some items
    | _ => none
  entries?
    | .object fields => fields.mapM fun field => (Json.rawText? field.1).map (·, field.2)
    | _ => none
  positional?
    | .array items => some items
    | _ => none
  variant?
    | .string raw => Json.rawText? raw
    | .object [(key, .null)] => Json.rawText? key
    | _ => none
  present?
    | .null => some none
    | node => some (some node)
  literal? tree := tree.value?.map Literal.ofJson
  fits := Json.Syntax.fits

/-- A node below which at most `room` containers may stand inside each other. -/
structure Nested (ν : Type) where
  room : Nat
  node : ν

namespace Nested

variable {ν : Type} [Document ν]

/-- The contents of a container, each with less room, if there is room for the container. -/
def inside? (outer : Nested ν) (contents? : ν → Option (List ν)) : Option (List (Nested ν)) :=
  match outer.room with
  | 0 => none
  | room + 1 => (contents? outer.node).map fun contents => contents.map (Nested.mk room)

/-- The entries of a container, each with less room, if there is room for the container. -/
def entriesInside? (outer : Nested ν) (entries? : ν → Option (List (String × ν))) :
    Option (List (String × Nested ν)) :=
  match outer.room with
  | 0 => none
  | room + 1 =>
      (entries? outer.node).map fun entries =>
        entries.map fun entry => (entry.1, Nested.mk room entry.2)

end Nested

instance (ν : Type) [Document ν] : Document (Nested ν) where
  text? outer := Document.text? outer.node
  bool? outer := Document.bool? outer.node
  items? outer := outer.inside? Document.items?
  entries? outer := outer.entriesInside? Document.entries?
  variantEntries? outer := outer.entriesInside? Document.variantEntries?
  positional? outer := outer.inside? Document.positional?
  variant? outer := Document.variant? outer.node
  present? outer := (Document.present? outer.node).map fun node => node.map (Nested.mk outer.room)
  literal? outer :=
    if Document.fits outer.room outer.node then Document.literal? outer.node else none
  fits room outer := Document.fits room outer.node

namespace Document

variable {ν α : Type} [Document ν]

/-- A list of decoded items. -/
def list? (decode : ν → Option α) (node : ν) : Option (List α) :=
  (items? node).bind fun items => items.mapM decode

/-- A decoded value where one may be lacking. -/
def optional? (decode : ν → Option α) (node : ν) : Option (Option α) := do
  match ← present? node with
  | some node => (decode node).map some
  | none => return none

end Document

/-- The known fields of a record by their names. -/
structure Record (ν : Type) where
  fields : List (String × ν)
  positional : Bool

namespace Record

variable {ν α : Type} [Document ν]

/-- Whether no name stands twice among the entries with a known name. -/
def namedOnce (names : List String) (entries : List (String × ν)) : Bool :=
  names.all fun name => (entries.filter fun entry => entry.1 == name).length ≤ 1

/-- The record with the given field names that a node is, where a closed record has no field of
another name. -/
def of? (names : List String) (closed : Bool) (node : ν) : Option (Record ν) :=
  match Document.entries? node with
  | some entries =>
      if closed && !entries.all (fun entry => names.contains entry.1) then none
      else if namedOnce names entries then
        some ⟨entries.filter fun entry => names.contains entry.1, false⟩
      else none
  | none =>
      match Document.positional? node with
      | some items =>
          if items.length ≤ names.length then some ⟨names.zip items, true⟩ else none
      | none => none

/-- A field that must be there. -/
def required? (record : Record ν) (name : String) (decode : ν → Option α) : Option α :=
  (record.fields.lookup name).bind decode

/-- A field that stands for its default when it is missing. -/
def defaulted? (record : Record ν) (name : String) (default : α) (decode : ν → Option α) :
    Option α :=
  match record.fields.lookup name with
  | some node => decode node
  | none => some default

/-- A field whose value may be lacking. A record with named fields may leave it out. -/
def optional? (record : Record ν) (name : String) (decode : ν → Option α) : Option (Option α) :=
  match record.fields.lookup name with
  | some node => Document.optional? decode node
  | none => if record.positional then none else some none

/-- A field whose value may be lacking, and that any record may leave out. -/
def optionalDefaulted? (record : Record ν) (name : String) (decode : ν → Option α) :
    Option (Option α) :=
  match record.fields.lookup name with
  | some node => Document.optional? decode node
  | none => some none

end Record

section Outlines

/-- The parts of a document that are read. -/
inductive Outline where
  /-- A text, a truth value or the name of a variant. -/
  | scalar
  /-- A literal, which is read as a whole. -/
  | literal
  /-- A list with all its items. -/
  | list (item : Outline)
  /-- A map with all its keys and values. -/
  | map (value : Outline)
  /-- A record with the values of the named fields. -/
  | record (fields : List (String × Outline))
deriving Repr

namespace Outline

/-- How the items of a sequence are read, if they are. -/
def item? : Outline → Option Outline
  | .literal => some .literal
  | .list item => some item
  | _ => none

/-- How the keys of a mapping are read, if they are. -/
def key? : Outline → Option Outline
  | .literal => some .literal
  | .map _ | .record _ => some .scalar
  | _ => none

/-- How the value beside a key is read, if it is. A key without a text is given as nothing. -/
def value? (outline : Outline) (key : Option String) : Option Outline :=
  match outline with
  | .literal => some .literal
  | .map value => some value
  | .record fields => key.bind fun name => fields.lookup name
  | _ => none

end Outline

end Outlines

end OptionCompiler
