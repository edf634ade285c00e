import Mathlib
import OptionCompiler.Proofs.Encoding.Literal
import OptionCompiler.Proofs.Encoding.Record
import OptionCompiler.Proofs.Validation.Blocked
/-!
# Decoding undoes encoding

Every record of the data model is read back from its document, part by part. The fields that are
left out come back as their defaults, a name that stands for a variant is the name of no other,
and a table of severities is collected again in the order in which it was written.

Two types hold maps: literals and tables of severities. Both carry the order of their keys, so
their entries are written in this order and are the same when they are collected again.
-/

namespace OptionCompiler

section Results

theorem Location.decode?_toJson (location : Location) :
    Location.decode? location.toJson = some location := by
  rcases location with ⟨typeName, _ | member⟩
  all_goals
    rw [decode?, toJson, Record.read_ofFields (by simp) (by decide)]
    simp [Json.presentField]

theorem DiagnosticCode.ofName?_name (code : DiagnosticCode) : ofName? code.name = some code := by
  cases code <;> rfl

theorem Severity.ofName?_name (severity : Severity) : ofName? severity.name = some severity := by
  cases severity <;> rfl

theorem Diagnostic.decode?_toJson (diagnostic : Diagnostic) :
    Diagnostic.decode? diagnostic.toJson = some diagnostic := by
  rw [decode?, toJson, Record.read_object (by simp) (by decide)]
  simp [DiagnosticCode.decode?, DiagnosticCode.ofName?_name,
    Severity.decode?, Severity.ofName?_name, Location.decode?_toJson]

theorem Diagnostic.list?_toJson (diagnostics : List Diagnostic) :
    Document.list? Diagnostic.decode? (Json.array (diagnostics.map Diagnostic.toJson)) =
      some diagnostics :=
  Document.list?_map fun diagnostic _ => diagnostic.decode?_toJson

theorem ValueShape.decode?_name (shape : ValueShape) :
    ValueShape.decode? (Json.string shape.name) = some shape := by
  cases shape <;> rfl

theorem Arity.count?_toNat (count : UInt32) :
    Arity.count? (.integer count.toNat) = some count := by
  have inside : (0 : ℤ) ≤ count.toNat ∧ (count.toNat : ℤ) < 2 ^ 32 :=
    ⟨Int.natCast_nonneg _, by exact_mod_cast count.toNat_lt⟩
  rw [count?, if_pos inside, Int.toNat_natCast, UInt32.ofNat_toNat]

theorem Arity.decode?_toJson (arity : Arity) : Arity.decode? arity.toJson = some arity := by
  rw [decode?, toJson, Record.read_object (by simp) (by decide)]
  rcases arity with ⟨min, _ | max⟩
  · simp only [Record.required?_cons, Record.optional?_cons, String.reduceEq, if_true, if_false,
      count?_toNat, Document.optional?_null]
    rfl
  · have greatest : Document.optional? count? (.integer max.toNat) = some (some max) := by
      rw [Document.optional?_of_present rfl, count?_toNat, Option.map_some]
    simp only [Record.required?_cons, Record.optional?_cons, String.reduceEq, if_true, if_false,
      count?_toNat, greatest]
    rfl

theorem BackingType.decode?_toJson (backing : BackingType) :
    BackingType.decode? backing.toJson = some backing := by
  cases backing with
  | boolean | filePath | directoryPath => rfl
  | scalar shape | nullableScalar shape | sequence shape | nullableSequence shape =>
      cases shape <;> rfl

theorem PathConstraint.decode?_toJson (constraint : PathConstraint) :
    PathConstraint.decode? constraint.toJson = some constraint := by
  rcases constraint with (_ | _) | _ <;> rfl

theorem OptionDescriptor.decode?_toJson (option : OptionDescriptor) :
    OptionDescriptor.decode? option.toJson = some option := by
  have aliases : Document.list? Document.text? (Json.array (option.aliases.map .string)) =
      some option.aliases :=
    Document.list?_map fun _ _ => rfl
  have constraints : Document.list? PathConstraint.decode?
      (Json.array (option.constraints.map PathConstraint.toJson)) = some option.constraints :=
    Document.list?_map fun constraint _ => constraint.decode?_toJson
  rw [decode?, toJson, Record.read_object (by simp) (by decide)]
  simp [aliases, constraints, Arity.decode?_toJson, BackingType.decode?_toJson,
    Location.decode?_toJson]

theorem CommandDescriptor.decode?_toJson (command : CommandDescriptor) :
    CommandDescriptor.decode? command.toJson = some command := by
  have options : Document.list? OptionDescriptor.decode?
      (Json.array (command.options.map OptionDescriptor.toJson)) = some command.options :=
    Document.list?_map fun option _ => option.decode?_toJson
  rw [decode?, toJson, Record.read_object (by simp) (by decide)]
  simp [options, Location.decode?_toJson]

theorem Extraction.decode?_toJson (extraction : Extraction) :
    Extraction.decode? extraction.toJson = some extraction := by
  have commands : Document.list? CommandDescriptor.decode?
      (Json.array (extraction.commands.map CommandDescriptor.toJson)) = some extraction.commands :=
    Document.list?_map fun command _ => command.decode?_toJson
  rw [decode?, toJson, Record.read_object (by simp) (by decide)]
  simp [commands, Diagnostic.list?_toJson]

theorem Validation.decode?_toJson (validation : Validation) :
    Validation.decode? validation.toJson = some validation := by
  rw [decode?, toJson, Record.read_object (by simp) (by decide)]
  simp [Diagnostic.list?_toJson]

end Results

section Declarations

theorem Argument.decode?_toJson (argument : Argument) (finite : argument.value.isFinite = true) :
    Argument.decode? argument.toJson = some argument := by
  have value : Document.literal? argument.value.toJson = some argument.value :=
    congrArg some (argument.value.ofJson_toJson finite)
  rw [decode?, toJson, Record.read_ofFields (by simp) (by decide)]
  rcases argument with ⟨_ | name, literal⟩ <;> simp [Json.presentField, value]

theorem Annotation.decode?_toJson (mark : Annotation) (finite : mark.isFinite = true) :
    Annotation.decode? mark.toJson = some mark := by
  have args : Document.list? Argument.decode? (Json.array (mark.args.map Argument.toJson)) =
      some mark.args :=
    Document.list?_map_of_all Argument.decode?_toJson finite
  rw [decode?, toJson, Record.read_ofFields (by simp) (by decide)]
  rcases mark with ⟨name, _ | ⟨argument, rest⟩⟩
  · simp [Json.nonemptyField]
  · rw [List.map_cons] at args
    simp [Json.nonemptyField, args]

theorem Annotation.list?_toJson {marks : List Annotation}
    (finite : marks.all Annotation.isFinite = true) :
    Document.list? Annotation.decode? (Json.array (marks.map Annotation.toJson)) = some marks :=
  Document.list?_map_of_all Annotation.decode?_toJson finite

theorem DeclaredType.decode?_toJson (type : DeclaredType) :
    DeclaredType.decode? type.toJson = some type := by
  rw [decode?, toJson, Record.read_ofFields (by simp) (by decide)]
  rcases type with ⟨shape, nullable, sequence, _ | element⟩ <;>
    simp [Json.presentField, ValueShape.decode?_name]

theorem Member.decode?_toJson (member : Member) (finite : member.isFinite = true) :
    Member.decode? member.toJson = some member := by
  have annotations := Annotation.list?_toJson finite
  rw [decode?, toJson, Record.read_ofFields (by simp) (by decide)]
  rcases member with ⟨name, type, _ | ⟨mark, marks⟩⟩
  · simp [Json.nonemptyField, DeclaredType.decode?_toJson]
  · rw [List.map_cons] at annotations
    simp [Json.nonemptyField, DeclaredType.decode?_toJson, annotations]

theorem TypeDeclaration.decode?_toJson (declaration : TypeDeclaration)
    (finite : declaration.isFinite = true) :
    TypeDeclaration.decode? declaration.toJson = some declaration := by
  rcases Bool.and_eq_true_iff.mp finite with ⟨marksFinite, membersFinite⟩
  have annotations := Annotation.list?_toJson marksFinite
  have members : Document.list? Member.decode?
      (Json.array (declaration.members.map Member.toJson)) = some declaration.members :=
    Document.list?_map_of_all Member.decode?_toJson membersFinite
  rw [decode?, toJson, Record.read_ofFields (by simp) (by decide)]
  rcases declaration with ⟨name, _ | ⟨mark, marks⟩, members⟩
  · simp [Json.nonemptyField, members]
  · rw [List.map_cons] at annotations
    simp [Json.nonemptyField, annotations, members]

theorem DeclarationSet.decode?_toJson (set : DeclarationSet) (finite : set.isFinite = true) :
    DeclarationSet.decode? set.toJson = some set := by
  have declarations : Document.list? TypeDeclaration.decode?
      (Json.array (set.declarations.map TypeDeclaration.toJson)) = some set.declarations :=
    Document.list?_map_of_all TypeDeclaration.decode?_toJson finite
  rw [decode?, toJson, Record.read_object (by simp) (by decide)]
  simp [declarations]

end Declarations

section Settings

theorem EmitOptions.decode?_toJson (options : EmitOptions) :
    EmitOptions.decode? options.toJson = some options := by
  rw [decode?, toJson, Record.read_object (by simp) (by decide)]
  simp

theorem SeverityTable.decode?_toJson (table : SeverityTable) :
    SeverityTable.decode? table.toJson = some table := by
  have entries : (table.entries.map fun entry =>
      (entry.1.name, Json.string entry.2.name)).mapM entry? = some table.entries := by
    refine Document.mapM_map_some ?_
    rintro ⟨code, severity⟩ _
    simp [ entry?, DiagnosticCode.ofName?_name, Severity.decode?, Severity.ofName?_name]
  have shown : Document.variantEntries? table.toJson =
      some (table.entries.map fun entry => (entry.1.name, Json.string entry.2.name)) :=
    rfl
  rw [decode?, shown, Option.bind_eq_bind, Option.bind_some, entries, Option.bind_eq_bind,
    Option.bind_some, SeverityTable.entries, Sorted.Entries.ofList_toList]
  rfl

theorem Configuration.decode?_toJson (configuration : Configuration) :
    Configuration.decode? configuration.toJson = some configuration := by
  rw [decode?, toJson, Record.read_object (by simp) (by decide)]
  simp [EmitOptions.decode?_toJson, SeverityTable.decode?_toJson]

end Settings

section Order

/-- The entries of every map are in the order of their keys. -/
structure MapsOrdered : Prop where
  literals : ∀ entries : Sorted.Entries String Literal none,
    Sorted.Increasing (entries.toList.map Prod.fst)
  severities : ∀ table : SeverityTable, Sorted.Increasing (table.entries.map Prod.fst)

theorem mapsOrdered : MapsOrdered where
  literals entries := entries.increasing_toList
  severities table := table.sorted.increasing_toList

end Order

section Omission

def Json.fieldNames : Json → List String
  | .object fields => fields.map Prod.fst
  | _ => []

/-- Which fields are written: lists of annotations and arguments unless they are empty, names,
element types and members of locations unless they are lacking, and all others. -/
structure OmitsAbsent : Prop where
  argument : ∀ argument : Argument, argument.toJson.fieldNames =
    (if argument.name.isSome then ["name"] else []) ++ ["value"]
  annotation : ∀ mark : Annotation, mark.toJson.fieldNames =
    ["name"] ++ (if mark.args = [] then [] else ["args"])
  type : ∀ type : DeclaredType, type.toJson.fieldNames =
    ["shape", "nullable", "sequence"] ++ (if type.element.isSome then ["element"] else [])
  member : ∀ member : Member, member.toJson.fieldNames =
    ["name", "ty"] ++ (if member.annotations = [] then [] else ["annotations"])
  declaration : ∀ declaration : TypeDeclaration, declaration.toJson.fieldNames =
    ["name"] ++ (if declaration.annotations = [] then [] else ["annotations"]) ++ ["members"]
  location : ∀ location : Location, location.toJson.fieldNames =
    ["type_name"] ++ (if location.member.isSome then ["member"] else [])

theorem omitsAbsent : OmitsAbsent where
  argument
    | ⟨none, _⟩ | ⟨some _, _⟩ => rfl
  annotation
    | ⟨_, []⟩ | ⟨_, _ :: _⟩ => rfl
  type
    | ⟨_, _, _, none⟩ | ⟨_, _, _, some _⟩ => rfl
  member
    | ⟨_, _, []⟩ | ⟨_, _, _ :: _⟩ => rfl
  declaration
    | ⟨_, [], _⟩ | ⟨_, _ :: _, _⟩ => rfl
  location
    | ⟨_, none⟩ | ⟨_, some _⟩ => rfl

end Omission

section WholeModel

/-- Decoding undoes encoding on the whole data model, although some fields are left out, and every
document value is some literal: the one of the first variant that accepts it, at every level. -/
theorem decoding_undoes_encoding {set : DeclarationSet} (finite : set.isFinite = true)
    (extraction : Extraction) (validation : Validation) (configuration : Configuration)
    (value : Json) :
    DeclarationSet.decode? set.toJson = some set ∧
    Extraction.decode? extraction.toJson = some extraction ∧
    Validation.decode? validation.toJson = some validation ∧
    Configuration.decode? configuration.toJson = some configuration ∧
    MapsOrdered ∧ OmitsAbsent ∧
    (∃ literal, Document.literal? value = some literal ∧ Literal.Keeps value literal) ∧
    Document.literal? value =
      (Literal.variants Document.literal?).findSome? fun variant => variant value := by
  refine ⟨set.decode?_toJson finite, extraction.decode?_toJson, validation.decode?_toJson,
    configuration.decode?_toJson, mapsOrdered, omitsAbsent, ?_,
    Literal.literal?_eq_findSome? value⟩
  exact ⟨Literal.ofJson value, rfl, Literal.keeps_ofJson value⟩

/-- A set with a nested map, a fraction and fields that are left out. -/
def levelSet : DeclarationSet :=
  ⟨[⟨"Options", [⟨"command", []⟩],
    [⟨"level", ⟨.float, true, false, none⟩,
      [⟨"option", [⟨none, .string "--level"⟩, ⟨some "limits",
        .map (.ofList [("some", .list [.integer 3, .null]),
          ("most", .float ⟨0x3FF8000000000000⟩)])⟩]⟩]⟩]⟩]⟩

/-- A configuration in which one severity is set. -/
def lenientConfiguration : Configuration :=
  ⟨SeverityTable.empty.set .duplicateFlag .warning, .standard⟩

theorem decoding_undoes_encoding_levelSet :
    levelSet.isFinite = true ∧
    DeclarationSet.decode? levelSet.toJson = some levelSet ∧
    Configuration.decode? lenientConfiguration.toJson = some lenientConfiguration := by
  have finite : levelSet.isFinite = true := by decide
  rcases decoding_undoes_encoding finite ⟨[], []⟩ ⟨[]⟩ lenientConfiguration .null with
    ⟨declarations, _, _, settings, _⟩
  exact ⟨finite, declarations, settings⟩

end WholeModel

end OptionCompiler
