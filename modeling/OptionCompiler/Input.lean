import OptionCompiler.Configuration
import OptionCompiler.Declaration.Encoding
import OptionCompiler.Yaml.Assembly
import OptionCompiler.Yaml.Tree
/-!
# Inputs

Declaration sets and configurations that are read from texts.

A declaration set is read from a text in one of two data formats. Each format has its own limit
on how many containers may stand inside each other in the parts of a text that are read.

A configuration is read from a text in the YAML data format. A text without any content, or with
null for its content, sets nothing. The runtime path is checked here, since it is copied into
generated code.
-/

namespace OptionCompiler

section Declarations

/-- A data format. -/
inductive DocumentFormat where
  | json
  | yaml
deriving DecidableEq, Repr

namespace DocumentFormat

/-- How many containers of a text may stand inside each other. -/
def nesting : DocumentFormat → Nat
  | .json => 127
  | .yaml => 128

end DocumentFormat

namespace DeclarationSet

def ofJson? (text : String) : Option DeclarationSet := do
  decode? (Nested.mk DocumentFormat.json.nesting (← Json.Syntax.parse? text))

def ofYaml? (text : String) : Option DeclarationSet := do
  let room := DocumentFormat.yaml.nesting
  let node ← (← Yaml.Anchored.ofText? text).node? room outline
  decode? (Nested.mk room node)

def ofText? (format : DocumentFormat) (text : String) : Option DeclarationSet :=
  match format with
  | .json => ofJson? text
  | .yaml => ofYaml? text

end DeclarationSet

end Declarations

section Configurations

/-- Why a text gives no configuration. -/
inductive ConfigurationError where
  /-- The text is not a configuration in the data format. -/
  | unreadable
  /-- The text that is set for the runtime path is no path. -/
  | runtimePath (text : String)
deriving DecidableEq, Repr

def ConfigurationError.message : ConfigurationError → String
  | .unreadable => "YAML error: the text is not a configuration"
  | .runtimePath text => "invalid runtime path: " ++ Text.quoted text

namespace Configuration

/-- The configuration of a text in the data format, which may lack one. -/
def ofYaml? (text : String) : Option Configuration := do
  let room := DocumentFormat.yaml.nesting
  let node ← (← Yaml.Anchored.ofText? text).node? room outline
  return (← Document.optional? decode? (Nested.mk room node)).getD standard

/-- A configuration whose runtime path is accepted. -/
def checked (configuration : Configuration) : Except ConfigurationError Configuration :=
  if RuntimePath.isAccepted configuration.emit.runtimePath then .ok configuration
  else .error (.runtimePath configuration.emit.runtimePath)

def ofText (text : String) : Except ConfigurationError Configuration :=
  if (Text.trim text).isEmpty then .ok standard
  else
    match ofYaml? text with
    | some configuration => checked configuration
    | none => .error .unreadable

end Configuration

end Configurations

end OptionCompiler
