import OptionCompiler.CommandLine.Arguments
import OptionCompiler.CommandLine.Display
import OptionCompiler.CommandLine.OutputName
import OptionCompiler.FileTree
import OptionCompiler.Input
import OptionCompiler.Pipeline
/-!
# Plans

What the program is going to do, worked out before it changes anything. The names of the outputs
are checked first, then the configuration is read, then the inputs in order, and the first
problem ends the program. Only when all inputs have gone through the pipeline is there a plan to
write the outputs, so a problem with any input leaves no file behind.

The program ends with zero when all went well, with one after a problem, and with two when the
arguments make no request or some diagnostic has the severity of errors.
-/

namespace OptionCompiler

namespace CommandLine

/-- A problem that ends the program. -/
inductive Problem where
  /-- The arguments make no request. -/
  | usage
  /-- Two inputs have one output. -/
  | sameOutput (name : String)
  /-- The configuration cannot be read. -/
  | configurationFile (path : String) (error : FileError)
  /-- The configuration is not accepted. -/
  | configuration (path : String) (error : ConfigurationError)
  /-- An input cannot be read. -/
  | inputFile (path : String) (error : FileError)
  /-- An input is not a declaration set. -/
  | inputText (path : String)
  /-- The pipeline gives up on an input. -/
  | run (path : String) (error : RunError)
  /-- The output directory cannot be made. -/
  | outputDirectory (path : String) (error : FileError)
  /-- An output cannot be written. -/
  | outputFile (path : String) (error : FileError)
deriving DecidableEq, Repr

namespace Problem

/-- How the program is used. -/
def usageText : String :=
  "Usage: optforge [-v] generate --out-dir DIR [--config FILE] [--jobs N] [--format FORMAT] " ++
    "INPUT...\n" ++
    "       optforge [-v] check [--config FILE] [--jobs N] [--format FORMAT] INPUT...\n" ++
    "       optforge [-v] rules [--format FORMAT]\n" ++
    "       optforge --version\n"

/-- What was tried with a path, and what came of it. -/
def failed (attempt path reason : String) : String :=
  "Failed to " ++ attempt ++ " '" ++ path ++ "': " ++ reason

def message : Problem → String
  | .usage => "the arguments make no request"
  | .sameOutput name =>
      "Two inputs would both generate '" ++ name ++ ".rs'; rename one of them"
  | .configurationFile path error => failed "load config" path ("I/O error: " ++ error.message)
  | .configuration path error => failed "load config" path error.message
  | .inputFile path error => failed "read" path error.message
  | .inputText path => failed "parse" path "the text is not a declaration set"
  | .run path error => path ++ ": " ++ error.message
  | .outputDirectory path error => failed "create output directory" path error.message
  | .outputFile path error => failed "write" path error.message

/-- What the program prints about a problem. -/
def report (problem : Problem) : String :=
  match problem with
  | .usage => usageText
  | problem => "error: " ++ problem.message ++ "\n"

/-- The code that the program ends with after a problem. -/
def exitCode : Problem → Nat
  | .usage => 2
  | _ => 1

end Problem

/-- How the program ends when there is no problem. -/
structure Ending where
  exitCode : Nat
  output : String
deriving DecidableEq, Repr

/-- An input that has gone through the pipeline. -/
structure Processed where
  path : String
  output : RunOutput
deriving DecidableEq, Repr

/-- The files that are to be written into a directory, and how the program ends after that. -/
structure Generation where
  directory : String
  files : List (String × String)
  ending : Ending
deriving DecidableEq, Repr

/-- What the program is going to do. -/
inductive Plan where
  | finish (ending : Ending)
  | generate (generation : Generation)
deriving DecidableEq, Repr

namespace Plan

/-- Whether some input has an error among its diagnostics. -/
def hasErrors (processed : List Processed) : Bool :=
  processed.any fun input => input.output.validation.hasErrors

/-- The code that the program ends with when all inputs are processed. -/
def exitCode (processed : List Processed) : Nat :=
  if hasErrors processed then 2 else 0

/-- The text after the reports for people, and nothing after the others. -/
def closing (format : ReportFormat) (text : String) : String :=
  match format with
  | .human => text ++ "\n"
  | _ => ""

/-- The configuration of a request. -/
def configuration (read : String → Except FileError String) (path : Option String) :
    Except Problem Configuration :=
  match path with
  | none => .ok .standard
  | some path => do
      let text ← (read path).mapError (.configurationFile path)
      (Configuration.ofText text).mapError (.configuration path)

/-- The format of the text of an input, by the extension of its path. -/
def inputFormat (path : String) : DocumentFormat :=
  if (Path.extension? path).any fun extension => extension = "yaml" ∨ extension = "yml" then .yaml
  else .json

/-- The declaration set of an input. -/
def declarations (read : String → Except FileError String) (path : String) :
    Except Problem DeclarationSet := do
  let text ← (read path).mapError (.inputFile path)
  match DeclarationSet.ofText? (inputFormat path) text with
  | some set => .ok set
  | none => .error (.inputText path)

/-- Runs the inputs through a pipeline one after the other. -/
def processAll (read : String → Except FileError String) (pipeline : Pipeline) :
    List String → Except Problem (List Processed)
  | [] => .ok []
  | path :: paths => do
      let set ← declarations read path
      match pipeline.run set .live with
      | (.error error, _) => .error (.run path error)
      | (.ok output, pipeline) => return ⟨path, output⟩ :: (← processAll read pipeline paths)

/-- Runs the inputs of a request through a fresh pipeline. -/
def process (read : String → Except FileError String) (request : InputRequest) :
    Except Problem (List Processed) := do
  let configuration ← configuration read request.configuration
  processAll read (.ofConfiguration configuration) request.inputs

/-- The report on an input, with its output if one is written. -/
def report (input : Processed) (output : Option String) : FileReport :=
  ⟨input.path, output, input.output.validation.diagnostics⟩

def checkSummary (processed : List Processed) : String :=
  "Checked " ++ toString processed.length ++ " file(s): " ++
    Report.summary (processed.flatMap fun input => input.output.validation.diagnostics) ++ "."

def check (processed : List Processed) (format : ReportFormat) : Ending :=
  ⟨exitCode processed,
    FileReport.render format (processed.map fun input => report input none) ++
      closing format (checkSummary processed)⟩

def generationSummary (count : Nat) (directory : String) : String :=
  "Generated " ++ toString count ++ " file(s) into '" ++ directory ++ "'."

/-- The generation of processed inputs whose outputs have the given names. -/
def generation (processed : List Processed) (names : List String) (directory : String)
    (format : ReportFormat) : Generation :=
  let paths := names.map fun name => Path.join directory (name ++ ".rs")
  { directory := directory
    files := paths.zip (processed.map fun input => input.output.source)
    ending :=
      ⟨exitCode processed,
        FileReport.render format
            ((processed.zip paths).map fun (input, path) => report input (some path)) ++
          closing format (generationSummary paths.length directory)⟩ }

/-- What the program prints about its version. -/
def versionText : String := "optforge 0.1.0\n"

def ofRequest (read : String → Except FileError String) : Request → Except Problem Plan
  | .version => .ok (.finish ⟨0, versionText⟩)
  | .help => .ok (.finish ⟨0, Problem.usageText⟩)
  | .rules format => .ok (.finish ⟨0, RuleListing.render format⟩)
  | .check request => do
      let processed ← process read request
      return .finish (check processed request.format)
  | .generate request directory => do
      let names ← (OutputName.names request.inputs).mapError Problem.sameOutput
      let processed ← process read request
      return .generate (generation processed names directory request.format)

/-- The plan for the arguments of the program. -/
def ofArguments (read : String → Except FileError String) (arguments : List String) :
    Except Problem Plan :=
  match request? arguments with
  | some request => ofRequest read request
  | none => .error .usage

/-- The files that the program reads when it is asked for something. -/
def filesRead : Request → List String
  | .generate request _ | .check request => request.configuration.toList ++ request.inputs
  | _ => []

end Plan

end CommandLine

end OptionCompiler
