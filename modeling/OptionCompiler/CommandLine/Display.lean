import OptionCompiler.Report
import OptionCompiler.Validation
/-!
# What the program prints

The diagnostics of several inputs, each with the path of its output if one was written, where the
form for people leaves out the inputs without diagnostics. And the list of all codes, each with its
severity by default and its title.
-/

namespace OptionCompiler

namespace CommandLine

/-- The diagnostics of one input. -/
structure FileReport where
  input : String
  output : Option String
  diagnostics : List Diagnostic
deriving DecidableEq, Repr

namespace FileReport

/-- The document value of a report. -/
def toJson (report : FileReport) : Json :=
  .ofFields
    [some ("input", .string report.input), Json.presentField "output" report.output,
      some ("diagnostics", .array (report.diagnostics.map Diagnostic.toJson))]

/-- The lines of a report: the input, and its diagnostics indented below it. -/
def lines (report : FileReport) : List String :=
  if report.diagnostics.isEmpty then []
  else
    (report.input ++ ":") ::
      (Text.lines (Report.render .human report.diagnostics)).map ("  " ++ ·)

/-- Several reports in a form. -/
def render (format : ReportFormat) (reports : List FileReport) : String :=
  match format with
  | .human => Report.text (reports.flatMap lines)
  | .json => (Json.array (reports.map toJson)).pretty ++ "\n"
  | .yaml => Yaml.layout (.array (reports.map toJson))

end FileReport

namespace RuleListing

/-- The document value of a code. -/
def entry (code : DiagnosticCode) : Json :=
  .object
    [("code", .string code.name), ("default_severity", .string code.describe.2.name),
      ("title", .string code.describe.1)]

/-- A text with spaces after it, up to the given width. -/
def padded (width : Nat) (text : String) : String :=
  text ++ String.ofList (List.replicate (width - text.length) ' ')

/-- The line of a code, in columns. -/
def line (code : DiagnosticCode) : String :=
  code.name ++ "  " ++ padded 8 code.describe.2.name ++ " " ++ code.describe.1

def render (format : ReportFormat) : String :=
  match format with
  | .human => Report.text (DiagnosticCode.all.map line)
  | .json => (Json.array (DiagnosticCode.all.map entry)).pretty ++ "\n"
  | .yaml => Yaml.layout (.array (DiagnosticCode.all.map entry))

end RuleListing

end CommandLine

end OptionCompiler
