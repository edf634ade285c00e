import OptionCompiler.Diagnostic
import OptionCompiler.Yaml.Layout
/-!
# Reports

Diagnostics as text. The form for people has one diagnostic a line and ends with a summary, which
counts errors, warnings and notes and leaves out what does not occur. The other forms are the
data formats.
-/

namespace OptionCompiler

/-- The form of a report. -/
inductive ReportFormat where
  | human
  | json
  | yaml
deriving DecidableEq, Repr

namespace ReportFormat

def name : ReportFormat → String
  | .human => "human"
  | .json => "json"
  | .yaml => "yaml"

def ofName? (name : String) : Option ReportFormat :=
  [human, json, yaml].find? fun format => format.name = name

end ReportFormat

namespace Report

/-- How many diagnostics have a severity. -/
def count (severity : Severity) (diagnostics : List Diagnostic) : Nat :=
  (diagnostics.filter fun diagnostic => diagnostic.severity = severity).length

/-- A count with its noun, if there is something to count. -/
def counted? (count : Nat) (noun : String) : Option String :=
  if count = 0 then none
  else if count = 1 then some ("1 " ++ noun)
  else some (toString count ++ " " ++ noun ++ "s")

def summary (diagnostics : List Diagnostic) : String :=
  let parts :=
    [counted? (count .error diagnostics) "error", counted? (count .warning diagnostics) "warning",
      counted? (count .info diagnostics) "note"].filterMap id
  if parts.isEmpty then "no diagnostics" else ", ".intercalate parts

/-- The diagnostics one a line, with a summary if there are any. -/
def lines (diagnostics : List Diagnostic) : List String :=
  if diagnostics.isEmpty then []
  else diagnostics.map Diagnostic.label ++ [summary diagnostics]

def text (lines : List String) : String :=
  String.join (lines.map (· ++ "\n"))

def render (format : ReportFormat) (diagnostics : List Diagnostic) : String :=
  match format with
  | .human => text (lines diagnostics)
  | .json => (Json.array (diagnostics.map Diagnostic.toJson)).pretty
  | .yaml => Yaml.layout (.array (diagnostics.map Diagnostic.toJson))

end Report

end OptionCompiler
