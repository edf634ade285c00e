import OptionCompiler.Report
import OptionCompiler.Text
/-!
# Arguments of the program

The program has three commands. `generate` writes one source file for each input, `check` only
reports on the inputs, and `rules` lists the diagnostics. An option takes its value from the same
argument after an equals sign or from the next argument, which must not look like an option.
Options and inputs may stand in any order, and after two dashes there are only inputs.

An option that takes a value stands at most once. The switch for more log lines may be repeated
and has no effect on the results. Arguments are read in order, each checked as it is read, up to a
request for help, which makes the rest of them irrelevant.
-/

namespace OptionCompiler

namespace CommandLine

/-- An option that takes a value. -/
inductive Setting where
  | configuration
  | jobs
  | format
  | directory
deriving DecidableEq, Repr

namespace Setting

/-- The name of a setting, without dashes. -/
def name : Setting → String
  | .configuration => "config"
  | .jobs => "jobs"
  | .format => "format"
  | .directory => "out-dir"

def ofName? (name : String) : Option Setting :=
  [configuration, jobs, format, directory].find? fun setting => setting.name = name

end Setting

/-- What the arguments of a command say: its inputs in order, and its settings. -/
structure Given where
  inputs : List String
  configuration : Option String
  jobs : Option Nat
  format : Option ReportFormat
  directory : Option String
deriving DecidableEq, Repr

namespace Given

def nothing : Given := ⟨[], none, none, none, none⟩

/-- A path that is not empty. -/
def path? (text : String) : Option String :=
  if text.isEmpty then none else some text

/-- A number of jobs, which fits into 64 bits. -/
def jobCount? (text : String) : Option Nat :=
  (Text.unsignedNumber? text.toList).filter (· < 2 ^ 64)

/-- The value of a setting that has none yet. -/
def once? {α : Type} (earlier value : Option α) : Option (Option α) :=
  if earlier.isSome then none else value.map some

def addInput? (given : Given) (text : String) : Option Given :=
  (path? text).map fun path => { given with inputs := given.inputs ++ [path] }

/-- Gives a setting the value that a text spells. -/
def set? (given : Given) (setting : Setting) (text : String) : Option Given :=
  match setting with
  | .configuration =>
      (once? given.configuration (path? text)).map ({ given with configuration := · })
  | .jobs => (once? given.jobs (jobCount? text)).map ({ given with jobs := · })
  | .format => (once? given.format (ReportFormat.ofName? text)).map ({ given with format := · })
  | .directory => (once? given.directory (path? text)).map ({ given with directory := · })

end Given

/-- What a command is asked to do with its inputs. -/
structure InputRequest where
  inputs : List String
  configuration : Option String
  jobs : Option Nat
  format : ReportFormat
deriving DecidableEq, Repr

/-- What the program is asked to do. -/
inductive Request where
  | generate (request : InputRequest) (directory : String)
  | check (request : InputRequest)
  | rules (format : ReportFormat)
  | version
  | help
deriving DecidableEq, Repr

/-- Whether an argument looks like an option. A single dash does not. -/
def looksLikeOption (argument : String) : Bool :=
  match argument.toList with
  | '-' :: _ :: _ => true
  | _ => false

/-- The name and the value of an argument that begins with two dashes. -/
def longOption (chars : List Char) : String × Option String :=
  let name := String.ofList (chars.takeWhile (· ≠ '='))
  match chars.dropWhile (· ≠ '=') with
  | [] => (name, none)
  | _ :: value => (name, some (String.ofList value))

/-- An argument that is one of the options of a command. -/
inductive OptionArgument where
  /-- A switch that has no effect. -/
  | verbose
  /-- The request for help. -/
  | help
  /-- A setting, and its value if the argument holds it. -/
  | setting (setting : Setting) (value : Option String)
deriving DecidableEq, Repr

/-- A command that takes arguments. -/
inductive Command where
  | generate
  | check
  | rules
deriving DecidableEq, Repr

namespace Command

def name : Command → String
  | .generate => "generate"
  | .check => "check"
  | .rules => "rules"

def ofName? (name : String) : Option Command :=
  [generate, check, rules].find? fun command => command.name = name

def settings : Command → List Setting
  | .generate => [.directory, .configuration, .jobs, .format]
  | .check => [.configuration, .jobs, .format]
  | .rules => [.format]

/-- Whether a command works on inputs. -/
def takesInputs : Command → Bool
  | .generate | .check => true
  | .rules => false

/-- The option of a command that an argument is. -/
def option? (command : Command) (argument : String) : Option OptionArgument :=
  match argument.toList with
  | '-' :: '-' :: chars =>
      let (name, value) := longOption chars
      if name = "verbose" ∧ value.isNone then some .verbose
      else if name = "help" ∧ value.isNone then some .help
      else
        match Setting.ofName? name with
        | some setting =>
            if setting ∈ command.settings then some (.setting setting value) else none
        | none => none
  | '-' :: letters =>
      match letters.dropWhile (· = 'v') with
      | [] => some .verbose
      | 'h' :: _ => some .help
      | _ => none
  | _ => none

/-- Adds an input of a command that works on inputs. -/
def addInput? (command : Command) (given : Given) (text : String) : Option Given :=
  if command.takesInputs then given.addInput? text else none

/-- Reads the arguments of a command, up to a request for help. -/
def given? (command : Command) (given : Given) : List String → Option (Option Given)
  | [] => some (some given)
  | argument :: rest =>
      if argument = "--" then (rest.foldlM command.addInput? given).map some
      else if !looksLikeOption argument then do
        command.given? (← command.addInput? given argument) rest
      else
        match command.option? argument with
        | none => none
        | some .verbose => command.given? given rest
        | some .help => some none
        | some (.setting setting (some value)) => do
            command.given? (← given.set? setting value) rest
        | some (.setting setting none) =>
            match rest with
            | [] => none
            | value :: later =>
                if looksLikeOption value then none
                else do command.given? (← given.set? setting value) later

/-- The request for inputs. There must be one. -/
def inputRequest? (given : Given) : Option InputRequest :=
  if given.inputs.isEmpty then none
  else some ⟨given.inputs, given.configuration, given.jobs, given.format.getD .human⟩

/-- The request that a command makes when no help is asked for. -/
def requestGiven? (command : Command) (given : Given) : Option Request :=
  match command with
  | .generate => do return .generate (← inputRequest? given) (← given.directory)
  | .check => (inputRequest? given).map .check
  | .rules => some (.rules (given.format.getD .human))

def request? (command : Command) (arguments : List String) : Option Request :=
  match command.given? .nothing arguments with
  | some (some given) => command.requestGiven? given
  | some none => some .help
  | none => none

end Command

/-- The request for help, on one command or on the program. -/
def helpRequest? (arguments : List String) : Option Request :=
  match arguments with
  | [] => some .help
  | [name] => if (Command.ofName? name).isSome || name = "help" then some .help else none
  | _ => none

def commandRequest? (name : String) (arguments : List String) : Option Request :=
  if name = "help" then helpRequest? arguments
  else (Command.ofName? name).bind fun command => command.request? arguments

/-- The request that the letters after a dash make before a command, if they make one. -/
def lettersRequest? (letters : List Char) : Option (Option Request) :=
  match letters.dropWhile (· = 'v') with
  | [] => some none
  | 'V' :: _ => some (some .version)
  | 'h' :: _ => some (some .help)
  | _ => none

/-- The request that the arguments of the program make, if they make one. -/
def request? : List String → Option Request
  | [] => none
  | argument :: rest =>
      match argument.toList with
      | '-' :: '-' :: _ =>
          if argument = "--verbose" then request? rest
          else if argument = "--version" then some .version
          else if argument = "--help" then some .help
          else none
      | '-' :: letter :: letters =>
          match lettersRequest? (letter :: letters) with
          | none => none
          | some none => request? rest
          | some request => request
      | _ => commandRequest? argument rest

end CommandLine

end OptionCompiler
