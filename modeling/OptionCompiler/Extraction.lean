import OptionCompiler.Annotation.Vocabulary
import OptionCompiler.Descriptor.Encoding
import OptionCompiler.RunError
/-!
# Extraction

From declarations to descriptors. A type with a command annotation gives a command, and each of
its members with an option annotation gives an option. Problems with the arguments are reported,
and the descriptor is made all the same, with defaults for what could not be read.

The names of commands and options become identifiers of generated code. A name that has no such
spelling is reported, and its declaration gives no descriptor.

An extraction is written as a document of its commands and its diagnostics.
-/

namespace OptionCompiler

/-- The commands of a declaration set, and the diagnostics about their annotations. -/
structure Extraction where
  commands : List CommandDescriptor
  diagnostics : List Diagnostic
deriving DecidableEq, Repr

namespace Extraction

/-- The diagnostics of a list of problems at one place. -/
def report (location : Location) (problems : List String) : List Diagnostic :=
  problems.map fun problem => ⟨.malformedArguments, .error, problem, location⟩

/-- The problem of an annotation that is repeated. -/
def repetition (name : String) : String :=
  "malformed `" ++ name ++ "` annotation: annotation repeated; only the first is used"

/-- The range that the annotation gives, with the bounds of the default where it gives none. -/
def arity (arguments : OptionArguments) (default : Arity) : Arity :=
  ⟨arguments.arityMin.getD default.min, arguments.arityMax.or default.max⟩

/-- The aliases in order, without the primary flag and without repetitions. -/
def distinctAliases (primaryFlag : String) (aliases : List String) : List String :=
  aliases.foldl
    (fun kept flag => if flag = primaryFlag ∨ flag ∈ kept then kept else kept ++ [flag]) []

/-- The constraints read so far, the kinds they were read for, and the problems. -/
structure ConstraintReading where
  constraints : List PathConstraint
  seen : List PathKind
  problems : List String
deriving DecidableEq, Repr

namespace ConstraintReading

/-- Reads one more constraint annotation. Only the first one of a kind counts, and it is attached
only if the values of the option are paths of that kind. -/
def add (backing : BackingType) (reading : ConstraintReading)
    (constraint : PathKind × Annotation) : ConstraintReading :=
  let (kind, mark) := constraint
  if kind ∈ reading.seen then
    { reading with problems := reading.problems ++ [repetition kind.annotationName] }
  else
    let read := mark.readConstraint kind
    let attached := if backing.pathKind? = some kind then read.value.toList else []
    { constraints := reading.constraints ++ attached
      seen := reading.seen ++ [kind]
      problems := reading.problems ++ read.messages mark.name }

def ofMember (backing : BackingType) (member : Member) : ConstraintReading :=
  member.constraintAnnotations.foldl (add backing) ⟨[], [], []⟩

end ConstraintReading

/-- The problem of a member whose name has no spelling as an identifier. -/
def fieldProblem (member : Member) : List String :=
  match Source.identifier member.name with
  | .ok _ => []
  | .error error =>
      ["member `" ++ member.name ++ "` cannot be bound to a field: " ++ error.message]

/-- The problem of a member with several option annotations. -/
def optionRepetition (member : Member) : List String :=
  if 1 < (member.annotationsNamed Annotation.optionName).length then
    [repetition Annotation.optionName]
  else []

/-- The option that a member with the given option annotation describes, whatever its name. -/
def optionOf (typeName : String) (member : Member) (mark : Annotation) : OptionDescriptor :=
  let arguments := mark.readOption.value
  let backing := BackingType.classify member.type
  let primaryFlag := arguments.primaryFlag.getD ""
  { member := member.name
    primaryFlag := primaryFlag
    aliases := distinctAliases primaryFlag arguments.aliases
    description := arguments.description
    helpName := arguments.helpName
    required := arguments.required
    hidden := arguments.hidden
    arity := arity arguments backing.defaultArity
    backingType := backing
    elementType := member.type.elementType
    constraints := (ConstraintReading.ofMember backing member).constraints
    location := .ofMember typeName member.name }

/-- Everything that is wrong with a member with the given option annotation. -/
def optionProblems (member : Member) (mark : Annotation) : List String :=
  let backing := BackingType.classify member.type
  optionRepetition member ++ mark.readOption.messages mark.name ++
    fieldProblem member ++ (ConstraintReading.ofMember backing member).problems

/-- The option of a member, if it is one and its name has a spelling. -/
def memberOption? (typeName : String) (member : Member) : Option OptionDescriptor :=
  match (member.annotationsNamed Annotation.optionName).head? with
  | some mark =>
      if (fieldProblem member).isEmpty then some (optionOf typeName member mark) else none
  | none => none

/-- The diagnostics about a member, if it is an option. -/
def memberDiagnostics (typeName : String) (member : Member) : List Diagnostic :=
  match (member.annotationsNamed Annotation.optionName).head? with
  | some mark =>
      report (.ofMember typeName member.name) (optionProblems member mark)
  | none => []

/-- The problem of a type with several command annotations. -/
def commandRepetition (declaration : TypeDeclaration) : List String :=
  if 1 < (declaration.annotationsNamed Annotation.commandName).length then
    [repetition Annotation.commandName]
  else []

/-- The command that a type with the given command annotation describes, whatever its name. -/
def commandOf (declaration : TypeDeclaration) (mark : Annotation) : CommandDescriptor :=
  let arguments := mark.readCommand.value
  { typeName := declaration.name
    name := arguments.name.getD declaration.name
    description := arguments.description
    options := declaration.members.filterMap (memberOption? declaration.name)
    location := .ofType declaration.name }

/-- The diagnostics about a type with the given command annotation, and about its members. -/
def commandDiagnostics (declaration : TypeDeclaration) (mark : Annotation) :
    List Diagnostic :=
  report (.ofType declaration.name)
      (mark.readCommand.messages mark.name ++ commandRepetition declaration) ++
    declaration.members.flatMap (memberDiagnostics declaration.name)

/-- The diagnostic about a type whose name has no spelling as an identifier. -/
def typeNameDiagnostics (declaration : TypeDeclaration) (error : Source.SpellingError) :
    List Diagnostic :=
  report (.ofType declaration.name)
    ["type `" ++ declaration.name ++ "` cannot name the generated impl: " ++ error.message]

def ofDeclaration (declaration : TypeDeclaration) : Extraction :=
  match declaration.commandAnnotation? with
  | none => ⟨[], []⟩
  | some mark =>
      match Source.identifier declaration.name with
      | .error error => ⟨[], typeNameDiagnostics declaration error⟩
      | .ok _ =>
          ⟨[commandOf declaration mark], commandDiagnostics declaration mark⟩

/-- One extraction after another. -/
def append (first second : Extraction) : Extraction :=
  ⟨first.commands ++ second.commands, first.diagnostics ++ second.diagnostics⟩

/-- Whether a type has members to work through, before each of which the token is asked. -/
def asksToken (declaration : TypeDeclaration) : Bool :=
  declaration.isCommandContainer && (Source.identifier declaration.name).isOk &&
    !declaration.members.isEmpty

/-- The extraction of a declaration set without interruption. -/
def ofSet (set : DeclarationSet) : Extraction :=
  (set.declarations.map ofDeclaration).foldr append ⟨[], []⟩

end Extraction

/-- Extracts a declaration set. The token is asked before each member of a command. -/
def extract (set : DeclarationSet) (token : Token) : Except RunError Extraction :=
  if set.declarations.any Extraction.asksToken then
    token.check.map fun _ => Extraction.ofSet set
  else .ok (Extraction.ofSet set)

section Documents

/-- The document value of an extraction. -/
def Extraction.toJson (extraction : Extraction) : Json :=
  .object
    [("commands", .array (extraction.commands.map CommandDescriptor.toJson)),
      ("diagnostics", .array (extraction.diagnostics.map Diagnostic.toJson))]

/-- The extraction that a document value describes. -/
def Extraction.decode? (node : Json) : Option Extraction := do
  let record ← Record.of? ["commands", "diagnostics"] false node
  return {
    commands := ← record.required? "commands" (Document.list? CommandDescriptor.decode?)
    diagnostics := ← record.required? "diagnostics" (Document.list? Diagnostic.decode?) }

end Documents

end OptionCompiler
