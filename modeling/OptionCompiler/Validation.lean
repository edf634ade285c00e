import OptionCompiler.Configuration
import OptionCompiler.Extraction
import OptionCompiler.Flag
/-!
# Validation

The rules about annotated declarations. Every rule looks at the declarations and at the commands
extracted from them, and gives its findings in declaration order; all rules always run. The rules
on where annotations may stand read the declarations, since misplaced annotations leave no trace
in the commands; the rules on the meaning of options read the commands.

The diagnostics of a run are those of the extraction followed by those of the rules, each with
the severity that the configuration gives to its code. A member with a diagnostic of the severity
of errors is blocked.

A validation is written as a document of its diagnostics. Blocked members are written as a list of
pairs, since a location cannot be the key of an object.
-/

namespace OptionCompiler

/-- What a rule finds, before a severity is attached. -/
structure Finding where
  location : Location
  message : String
deriving DecidableEq, Repr

/-- What a rule looks at. -/
structure RuleInput where
  declarations : DeclarationSet
  commands : List CommandDescriptor
deriving DecidableEq, Repr

namespace RuleInput

/-- Every type with each of its members. -/
def members (input : RuleInput) : List (TypeDeclaration × Member) :=
  input.declarations.declarations.flatMap fun declaration =>
    declaration.members.map (declaration, ·)

def options (input : RuleInput) : List OptionDescriptor :=
  input.commands.flatMap CommandDescriptor.options

end RuleInput

/-- A rule of the catalogue. -/
structure Rule where
  code : DiagnosticCode
  title : String
  defaultSeverity : Severity
  findings : RuleInput → List Finding

namespace Rule

/-- An option annotation in a type that is no command container. -/
def misplacedOption (input : RuleInput) : List Finding :=
  (input.members.filter fun (declaration, member) =>
    !declaration.isCommandContainer && member.hasOption).map fun (declaration, member) =>
      { location := .ofMember declaration.name member.name
        message := "`option` annotation has no effect: `" ++ declaration.name ++
          "` is not marked as a command container" }

/-- Constraint annotations on a member without an option annotation. -/
def orphanedConstraint (input : RuleInput) : List Finding :=
  (input.members.filter fun (_, member) =>
    !member.hasOption && !member.constraintAnnotations.isEmpty).map fun (declaration, member) =>
      let names := member.constraintAnnotations.map fun (kind, _) => kind.annotationName
      { location := .ofMember declaration.name member.name
        message := "`" ++ "`, `".intercalate names ++
          "` constraint has no effect without an `option` annotation" }

/-- A constraint annotation on a member whose values are no paths of its kind. -/
def constraintTypeMismatch (input : RuleInput) : List Finding :=
  input.members.flatMap fun (declaration, member) =>
    (member.constraintAnnotations.filter fun (kind, _) =>
      member.type.shape.pathKind? != some kind).map fun (kind, _) =>
        { location := .ofMember declaration.name member.name
          message := "`" ++ kind.annotationName ++ "` constraint requires a " ++ kind.label ++
            " member, found " ++ member.type.label }

/-- A required option whose value may be lacking. -/
def requiredNullable (input : RuleInput) : List Finding :=
  (input.options.filter fun option => option.required && option.backingType.isNullable).map
    fun option =>
      { location := option.location
        message := "option `" ++ option.primaryFlag ++ "` is required but backed by a " ++
          option.backingType.label ++ "; required and nullable together are undefined" }

/-- Why an arity does not fit into the natural one. -/
def arityReason (arity natural : Arity) : String :=
  if arity.isOrdered then "natural arity is " ++ natural.label else "minimum exceeds maximum"

/-- An arity that the backing type cannot hold. -/
def arityTypeMismatch (input : RuleInput) : List Finding :=
  (input.options.filter fun option =>
    !option.arity.fitsWithin option.backingType.naturalArity).map fun option =>
      { location := option.location
        message := "arity " ++ option.arity.label ++ " is incompatible with " ++
          option.backingType.label ++ ": " ++
          arityReason option.arity option.backingType.naturalArity }

/-- Everything that a command registers, with the options that register it. -/
def registrations (command : CommandDescriptor) : List (FlagSpelling × OptionDescriptor) :=
  command.options.flatMap fun option => option.registered.map (·, option)

/-- The findings about spellings that an earlier registration owns. -/
def repeatedSpellings (owners : List (FlagSpelling × String)) :
    List (FlagSpelling × OptionDescriptor) → List Finding
  | [] => []
  | (spelling, option) :: rest =>
      match owners.lookup spelling with
      | some owner =>
          { location := option.location
            message := "flag `" ++ spelling.label ++ "` is already registered by `" ++ owner ++
              "`" } :: repeatedSpellings owners rest
      | none => repeatedSpellings (owners ++ [(spelling, option.member)]) rest

/-- A spelling that a command registers twice. -/
def duplicateFlag (input : RuleInput) : List Finding :=
  input.commands.flatMap fun command => repeatedSpellings [] (registrations command)

/-- A flag or alias that is not written as flags are, the empty text aside. -/
def invalidFlagSyntax (input : RuleInput) : List Finding :=
  input.options.flatMap fun option =>
    (option.allFlags.filter fun flag => !flag.isEmpty && !Flag.isWellFormed flag).map fun flag =>
      { location := option.location
        message := "flag `" ++ flag ++ "` must look like `-x` or `--name`" }

/-- Every rule, in the order of their reports. -/
def all : List Rule :=
  [⟨.misplacedOption, "option annotation outside a command container", .warning,
      misplacedOption⟩,
    ⟨.orphanedConstraint, "constraint annotation without an option annotation", .warning,
      orphanedConstraint⟩,
    ⟨.constraintTypeMismatch, "constraint annotation on a member of the wrong type", .warning,
      constraintTypeMismatch⟩,
    ⟨.requiredNullable, "required option backed by a nullable member", .warning,
      requiredNullable⟩,
    ⟨.arityTypeMismatch, "arity outside the backing type's cardinality", .warning,
      arityTypeMismatch⟩,
    ⟨.duplicateFlag, "flag or alias registered twice in one command", .warning,
      duplicateFlag⟩,
    ⟨.invalidFlagSyntax, "flag or alias is neither -x nor --name", .warning,
      invalidFlagSyntax⟩]

def diagnostics (rule : Rule) (input : RuleInput) (severities : SeverityTable) :
    List Diagnostic :=
  (rule.findings input).map fun finding =>
    ⟨rule.code, severities.resolve rule.code rule.defaultSeverity, finding.message,
      finding.location⟩

end Rule

namespace DiagnosticCode

/-- What a code is about, and its severity by default. Problems with arguments are found by the
extraction and have no rule. -/
def describe (code : DiagnosticCode) : String × Severity :=
  match Rule.all.find? fun rule => rule.code = code with
  | some rule => (rule.title, rule.defaultSeverity)
  | none => ("malformed annotation arguments", .error)

end DiagnosticCode

/-- The blocked members with the codes that block them, both in increasing order. -/
structure BlockedMembers where
  entries : List (Location × List DiagnosticCode)
deriving DecidableEq, Repr

namespace BlockedMembers

def empty : BlockedMembers := ⟨[]⟩

def codes? (blocked : BlockedMembers) (location : Location) : Option (List DiagnosticCode) :=
  Sorted.find? location blocked.entries

def add (blocked : BlockedMembers) (location : Location) (code : DiagnosticCode) :
    BlockedMembers :=
  ⟨Sorted.insert location (Sorted.insertKey code ((blocked.codes? location).getD []))
    blocked.entries⟩

def ofType (blocked : BlockedMembers) (typeName : String) : BlockedMembers :=
  ⟨blocked.entries.filter fun entry => entry.1.typeName = typeName⟩

end BlockedMembers

/-- The diagnostics of a run. -/
structure Validation where
  diagnostics : List Diagnostic
deriving DecidableEq, Repr

namespace Validation

/-- Whether some diagnostic has the severity of errors. -/
def hasErrors (validation : Validation) : Bool :=
  validation.diagnostics.any Diagnostic.isError

def blocks (diagnostic : Diagnostic) : Bool :=
  diagnostic.isError && diagnostic.location.member.isSome

def blockedMembers (validation : Validation) : BlockedMembers :=
  (validation.diagnostics.filter blocks).foldl
    (fun blocked diagnostic => blocked.add diagnostic.location diagnostic.code) .empty

/-- A diagnostic of the extraction under a severity table. -/
def resolved (severities : SeverityTable) (diagnostic : Diagnostic) : Diagnostic :=
  { diagnostic with severity := severities.resolve diagnostic.code diagnostic.severity }

/-- The validation of an extracted declaration set without interruption. -/
def ofExtraction (set : DeclarationSet) (extraction : Extraction) (severities : SeverityTable) :
    Validation :=
  ⟨extraction.diagnostics.map (resolved severities) ++
    Rule.all.flatMap fun rule => rule.diagnostics ⟨set, extraction.commands⟩ severities⟩

end Validation

/-- Validates an extracted declaration set. The token is asked before each rule. -/
def validate (set : DeclarationSet) (extraction : Extraction) (severities : SeverityTable)
    (token : Token) : Except RunError Validation :=
  token.check.map fun _ => Validation.ofExtraction set extraction severities

section Documents

/-- The document value of a validation. -/
def Validation.toJson (validation : Validation) : Json :=
  .object [("diagnostics", .array (validation.diagnostics.map Diagnostic.toJson))]

/-- The validation that a document value describes. -/
def Validation.decode? (node : Json) : Option Validation := do
  let record ← Record.of? ["diagnostics"] false node
  return {
    diagnostics := ← record.required? "diagnostics" (Document.list? Diagnostic.decode?) }

/-- The document value of a list of codes. -/
def DiagnosticCode.listToJson (codes : List DiagnosticCode) : Json :=
  .array (codes.map fun code => .string code.name)

/-- The document value of blocked members: a list of locations with their codes. -/
def BlockedMembers.toJson (blocked : BlockedMembers) : Json :=
  .array (blocked.entries.map fun (location, codes) =>
    .array [location.toJson, DiagnosticCode.listToJson codes])

end Documents

end OptionCompiler
