import OptionCompiler.Document
import OptionCompiler.Text
/-!
# Diagnostics

Findings about declarations. A diagnostic has one of eight stable codes, a severity, a message
and a location, which is a type or one of its members. Diagnostics are values: having some never
makes a run fail.

Locations are ordered by the type name, then by the member, a type before its members. Codes are
in the order of their numbers, and severities in the order of their weight.

As a document a diagnostic has all its fields, but the location of a type leaves the member out.
-/

namespace OptionCompiler

/-- A type, or one of its members. -/
structure Location where
  typeName : String
  member : Option String
deriving DecidableEq, Repr

namespace Location

def ofType (typeName : String) : Location :=
  ⟨typeName, none⟩

def ofMember (typeName member : String) : Location :=
  ⟨typeName, some member⟩

/-- The location as messages show it. -/
def label (location : Location) : String :=
  match location.member with
  | some member => location.typeName ++ "." ++ member
  | none => location.typeName

/-- The order of member parts: none before every member. -/
def compareMembers : Option String → Option String → Ordering
  | none, none => .eq
  | none, some _ => .lt
  | some _, none => .gt
  | some left, some right => compare left right

instance : Ord Location where
  compare left right :=
    (compare left.typeName right.typeName).then (compareMembers left.member right.member)

end Location

/-- The stable code of a kind of finding. -/
inductive DiagnosticCode where
  | misplacedOption
  | orphanedConstraint
  | constraintTypeMismatch
  | requiredNullable
  | arityTypeMismatch
  | malformedArguments
  | duplicateFlag
  | invalidFlagSyntax
deriving DecidableEq, Repr

namespace DiagnosticCode

def number : DiagnosticCode → Nat
  | .misplacedOption => 1
  | .orphanedConstraint => 2
  | .constraintTypeMismatch => 3
  | .requiredNullable => 4
  | .arityTypeMismatch => 5
  | .malformedArguments => 6
  | .duplicateFlag => 7
  | .invalidFlagSyntax => 8

instance : Ord DiagnosticCode where
  compare left right := compare left.number right.number

instance : Std.TransOrd DiagnosticCode :=
  inferInstanceAs (Std.TransCmp (compareOn DiagnosticCode.number))

/-- Every code, in order. -/
def all : List DiagnosticCode :=
  [.misplacedOption, .orphanedConstraint, .constraintTypeMismatch, .requiredNullable,
    .arityTypeMismatch, .malformedArguments, .duplicateFlag, .invalidFlagSyntax]

/-- The code as it is written. -/
def name : DiagnosticCode → String
  | .misplacedOption => "UNC001"
  | .orphanedConstraint => "UNC002"
  | .constraintTypeMismatch => "UNC003"
  | .requiredNullable => "UNC004"
  | .arityTypeMismatch => "UNC005"
  | .malformedArguments => "UNC006"
  | .duplicateFlag => "UNC007"
  | .invalidFlagSyntax => "UNC008"

/-- The code that is written exactly so. -/
def ofName? (name : String) : Option DiagnosticCode :=
  all.find? fun code => code.name = name

/-- The code that a person means, whatever the case of its letters and the blanks around it. -/
def parse (text : String) : Except String DiagnosticCode :=
  let wanted := (Text.trim text).toList.map Char.toUpper
  match all.find? fun code => code.name.toList = wanted with
  | some code => .ok code
  | none => .error ("unknown diagnostic code: " ++ text)

end DiagnosticCode

/-- How serious a finding is. -/
inductive Severity where
  | info
  | warning
  | error
deriving DecidableEq, Repr

namespace Severity

/-- The weight of a severity. -/
def rank : Severity → Nat
  | .info => 0
  | .warning => 1
  | .error => 2

instance : Ord Severity where
  compare left right := compare left.rank right.rank

/-- The severity as it is written. -/
def name : Severity → String
  | .info => "info"
  | .warning => "warning"
  | .error => "error"

/-- The severity that is written so. -/
def ofName? (name : String) : Option Severity :=
  [info, warning, error].find? fun severity => severity.name = name

end Severity

/-- One finding. -/
structure Diagnostic where
  code : DiagnosticCode
  severity : Severity
  message : String
  location : Location
deriving DecidableEq, Repr

namespace Diagnostic

def isError (diagnostic : Diagnostic) : Bool :=
  diagnostic.severity = .error

def label (diagnostic : Diagnostic) : String :=
  diagnostic.severity.name ++ "[" ++ diagnostic.code.name ++ "]: " ++
    diagnostic.location.label ++ ": " ++ diagnostic.message

end Diagnostic

section Documents

/-- The document value of a location. -/
def Location.toJson (location : Location) : Json :=
  .ofFields
    [some ("type_name", .string location.typeName), Json.presentField "member" location.member]

/-- The document value of a diagnostic. -/
def Diagnostic.toJson (diagnostic : Diagnostic) : Json :=
  .object
    [("code", .string diagnostic.code.name), ("severity", .string diagnostic.severity.name),
      ("message", .string diagnostic.message), ("location", diagnostic.location.toJson)]

variable {ν : Type} [Document ν]

/-- The location that a document describes. -/
def Location.decode? (node : ν) : Option Location := do
  let record ← Record.of? ["type_name", "member"] false node
  return {
    typeName := ← record.required? "type_name" Document.text?
    member := ← record.optionalDefaulted? "member" Document.text? }

/-- The code that a document names. -/
def DiagnosticCode.decode? (node : ν) : Option DiagnosticCode :=
  (Document.variant? node).bind DiagnosticCode.ofName?

/-- The severity that a document names. -/
def Severity.decode? (node : ν) : Option Severity :=
  (Document.variant? node).bind Severity.ofName?

/-- The diagnostic that a document describes. -/
def Diagnostic.decode? (node : ν) : Option Diagnostic := do
  let record ← Record.of? ["code", "severity", "message", "location"] false node
  return {
    code := ← record.required? "code" DiagnosticCode.decode?
    severity := ← record.required? "severity" Severity.decode?
    message := ← record.required? "message" Document.text?
    location := ← record.required? "location" Location.decode? }

end Documents

end OptionCompiler
