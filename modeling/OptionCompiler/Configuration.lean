import OptionCompiler.Diagnostic
import OptionCompiler.Document
import OptionCompiler.Sorted
import OptionCompiler.Source.Spelling
/-!
# Configuration

What a user may set: the severity of each kind of diagnostic, and the shape of generated source.
The runtime path names the library that generated code calls. It is a path of identifiers, in
which no keyword may stand, and blanks around it are tolerated.

A severity table is written as an object from codes to severities. Every part of a configuration
may be left out, and none that is not known may be there.
-/

namespace OptionCompiler

/-- The severities that are set, in the order of their codes. -/
structure SeverityTable where
  sorted : Sorted.Entries DiagnosticCode Severity none
deriving DecidableEq, Repr

namespace SeverityTable

def entries (table : SeverityTable) : List (DiagnosticCode × Severity) :=
  table.sorted.toList

def empty : SeverityTable := ⟨.nil⟩

def set (table : SeverityTable) (code : DiagnosticCode) (severity : Severity) : SeverityTable :=
  ⟨table.sorted.insert code severity (Sorted.isAfter_none code)⟩

def get? (table : SeverityTable) (code : DiagnosticCode) : Option Severity :=
  Sorted.find? code table.entries

def resolve (table : SeverityTable) (code : DiagnosticCode) (default : Severity) : Severity :=
  (table.get? code).getD default

end SeverityTable

/-- What generated source looks like. -/
structure EmitOptions where
  runtimePath : String
  header : Bool
  deriveRun : Bool
deriving DecidableEq, Repr

/-- A header, an entry point for every command, and the usual runtime. -/
def EmitOptions.standard : EmitOptions := ⟨"::clap", true, true⟩

/-- Everything that a user may set. -/
structure Configuration where
  severity : SeverityTable
  emit : EmitOptions
deriving DecidableEq, Repr

namespace Configuration

/-- Nothing is set. -/
def standard : Configuration := ⟨.empty, .standard⟩

end Configuration

namespace RuntimePath

/-- The segments of a path, which two colons separate, where `reversed` holds the first segment
so far, back to front. -/
def segmentsFrom (reversed : List Char) : List Char → List (List Char)
  | [] => [reversed.reverse]
  | ':' :: ':' :: rest => reversed.reverse :: segmentsFrom [] rest
  | c :: rest => segmentsFrom (c :: reversed) rest

/-- The text after two colons, or all of it if it does not begin with them. -/
def withoutRoot : List Char → List Char
  | ':' :: ':' :: rest => rest
  | other => other

/-- Whether a segment is an identifier and spelled as it is. -/
def isPlainSegment (segment : List Char) : Bool :=
  match Source.identifier (String.ofList segment) with
  | .ok spelled => spelled == String.ofList segment
  | .error _ => false

def isAccepted (text : String) : Bool :=
  let relative := withoutRoot (Text.trim text).toList
  !relative.isEmpty && (segmentsFrom [] relative).all isPlainSegment

end RuntimePath

section Documents

/-- The document value of a severity table. -/
def SeverityTable.toJson (table : SeverityTable) : Json :=
  .object (table.entries.map fun (code, severity) => (code.name, .string severity.name))

/-- The document value of emit options. -/
def EmitOptions.toJson (options : EmitOptions) : Json :=
  .object
    [("runtime_path", .string options.runtimePath), ("header", .bool options.header),
      ("derive_run", .bool options.deriveRun)]

/-- The document value of a configuration. -/
def Configuration.toJson (configuration : Configuration) : Json :=
  .object
    [("severity", configuration.severity.toJson), ("emit", configuration.emit.toJson)]

/-- The parts of a configuration that are read. -/
def Configuration.outline : Outline :=
  .record
    [("severity", .map .scalar),
      ("emit", .record [("runtime_path", .scalar), ("header", .scalar), ("derive_run", .scalar)])]

variable {ν : Type} [Document ν]

def SeverityTable.entry? (entry : String × ν) : Option (DiagnosticCode × Severity) := do
  let code ← DiagnosticCode.ofName? entry.1
  return (code, ← Severity.decode? entry.2)

/-- The severity table that a document describes. -/
def SeverityTable.decode? (node : ν) : Option SeverityTable := do
  let entries ← (← Document.variantEntries? node).mapM entry?
  return ⟨Sorted.Entries.ofList entries⟩

/-- The emit options that a document describes. -/
def EmitOptions.decode? (node : ν) : Option EmitOptions := do
  let record ← Record.of? ["runtime_path", "header", "derive_run"] true node
  return {
    runtimePath := ← record.defaulted? "runtime_path" standard.runtimePath Document.text?
    header := ← record.defaulted? "header" standard.header Document.bool?
    deriveRun := ← record.defaulted? "derive_run" standard.deriveRun Document.bool? }

/-- The configuration that a document describes. -/
def Configuration.decode? (node : ν) : Option Configuration := do
  let record ← Record.of? ["severity", "emit"] true node
  return {
    severity := ← record.defaulted? "severity" .empty SeverityTable.decode?
    emit := ← record.defaulted? "emit" .standard EmitOptions.decode? }

end Documents

end OptionCompiler
