import OptionCompiler.Source.Spelling
import OptionCompiler.Source.Writer
import OptionCompiler.Validation
/-!
# Emission

From commands to source. Each command becomes one block of functions: `command`, which registers
its options, `from_matches`, which binds the values given to them, and `run` unless it is turned
off. Options keep their order. In the place of a blocked option stands a comment that names the
codes that block it.

A file is the header, if it is wanted, and the blocks of its commands with an empty line between
any two.

The code that checks one path against a constraint is written from a template, in which one mark
stands for the path of the runtime and another for the flag of the option as a string literal. The
path is in scope under the name `path`.
-/

namespace OptionCompiler

namespace Emission

section PathChecks

def runtimeMark : String := "\x7brt\x7d"

def flagMark : String := "\x7bflag\x7d"

def checkTemplate : PathConstraint → List String
  | .directory .existingOnly =>
      ["if !path.is_dir() \x7b",
        "    return ::std::result::Result::Err(\x7brt\x7d::Error::raw(",
        "        \x7brt\x7d::error::ErrorKind::ValueValidation,",
        "        ::std::format!(\"\x7b\x7d: directory does not exist: \x7b\x7d\\n\", \x7bflag\x7d, path.display()),",
        "    ));",
        "\x7d"]
  | .directory .createIfMissing =>
      ["if !path.is_dir() \x7b",
        "    ::std::fs::create_dir_all(path).map_err(|err| \x7b",
        "        \x7brt\x7d::Error::raw(",
        "            \x7brt\x7d::error::ErrorKind::Io,",
        "            ::std::format!(\"\x7b\x7d: cannot create directory \x7b\x7d: \x7b\x7d\\n\", \x7bflag\x7d, path.display(), err),",
        "        )",
        "    \x7d)?;",
        "\x7d"]
  | .file .existingOnly =>
      ["if !path.is_file() \x7b",
        "    return ::std::result::Result::Err(\x7brt\x7d::Error::raw(",
        "        \x7brt\x7d::error::ErrorKind::ValueValidation,",
        "        ::std::format!(\"\x7b\x7d: file does not exist: \x7b\x7d\\n\", \x7bflag\x7d, path.display()),",
        "    ));",
        "\x7d"]

/-- A line of a template with both marks filled in, the runtime path first. -/
def filled (runtime flag line : String) : String :=
  Text.replace (Text.replace line runtimeMark runtime) flagMark flag

/-- The lines that check a path against one constraint. -/
def checkLines (runtime flag : String) (constraint : PathConstraint) : List String :=
  (checkTemplate constraint).map (filled runtime flag)

end PathChecks

/-- What stands in the place of an option. -/
inductive Slot where
  /-- The option is registered and bound. -/
  | emitted (option : OptionDescriptor)
  /-- A comment takes the place of a blocked option. -/
  | omitted (comment : String)
deriving DecidableEq, Repr

namespace Slot

def option? : Slot → Option OptionDescriptor
  | .emitted option => some option
  | .omitted _ => none

end Slot

/-- Gives up on an option that extraction does not make. -/
def fail (option : OptionDescriptor) (message : String) : Except RunError Unit :=
  .error (.invariant option.location.label message)

/-- Whether a shape belongs to no plain scalar. -/
def isScalarShape : ValueShape → Bool
  | .text => true
  | .integer => true
  | .float => true
  | _ => false

/-- Checks what extraction guarantees of the backing type of an option. -/
def checkBacking (option : OptionDescriptor) : Except RunError Unit :=
  match option.backingType with
  | .scalar shape =>
      if isScalarShape shape then .ok ()
      else fail option ("scalar backing type carries the " ++ shape.label ++ " shape")
  | _ => .ok ()

/-- Checks that the element type is not blank. -/
def checkElement (option : OptionDescriptor) : Except RunError Unit :=
  if (Text.trim option.elementType).isEmpty then fail option "element type is empty" else .ok ()

/-- Checks that a constraint suits the values of an option. -/
def checkConstraint (option : OptionDescriptor) (constraint : PathConstraint) :
    Except RunError Unit :=
  if option.backingType.pathKind? = some constraint.pathKind then .ok ()
  else
    fail option
      (constraint.pathKind.annotationName ++ " constraint attached to a " ++
        option.backingType.label)

/-- Checks what extraction guarantees of an option. -/
def checkOption (option : OptionDescriptor) : Except RunError Unit := do
  checkBacking option
  checkElement option
  option.constraints.forM (checkConstraint option)

/-- The text of the comment in the place of a blocked option. -/
def omission (member : String) (codes : List DiagnosticCode) : String :=
  "`" ++ member ++ "` omitted: blocked by " ++
    ", ".intercalate (codes.map DiagnosticCode.name)

def slot (blocked : BlockedMembers) (option : OptionDescriptor) : Except RunError Slot :=
  match blocked.codes? option.location with
  | some codes => (Source.orFail (Source.lineComment (omission option.member codes))).map .omitted
  | none => (checkOption option).map fun _ => .emitted option

def primarySetting : FlagSpelling → String
  | .long name => ".long(" ++ Source.stringLiteral name ++ ")"
  | .short letter => ".short(" ++ Source.charLiteral letter ++ ")"

def aliasSetting : FlagSpelling → String
  | .long name => ".visible_alias(" ++ Source.stringLiteral name ++ ")"
  | .short letter => ".visible_short_alias(" ++ Source.charLiteral letter ++ ")"

/-- A setting with a text, if there is one. -/
def textSetting (name : String) (text : Option String) : List String :=
  text.toList.map fun text => "." ++ name ++ "(" ++ Source.stringLiteral text ++ ")"

/-- A setting that is there only when it is true. -/
def trueSetting (name : String) (value : Bool) : List String :=
  if value then ["." ++ name ++ "(" ++ Source.boolLiteral true ++ ")"] else []

/-- The name of the action that stores the values of an option. -/
def actionName (backing : BackingType) : String :=
  if backing.isSequence then "Append" else "Set"

/-- The settings of an option, in order. -/
def settings (runtime : String) (option : OptionDescriptor) : List String :=
  [primarySetting option.primarySpelling] ++ option.aliasSpellings.map aliasSetting ++
    textSetting "help" option.description ++ textSetting "value_name" option.helpName ++
    trueSetting "required" option.required ++ trueSetting "hide" option.hidden ++
    [".num_args(" ++ Source.countRange option.arity.min option.arity.max ++ ")"] ++
    textSetting "default_missing_value"
      (if option.backingType.isBoolean then some "true" else none) ++
    [".value_parser(" ++ runtime ++ "::value_parser!(" ++ option.elementType ++ "))",
      ".action(" ++ runtime ++ "::ArgAction::" ++ actionName option.backingType ++ "),"]

/-- The steps that register what stands in a slot. -/
def slotSteps (runtime : String) : Slot → List Source.Step
  | .omitted comment => [.line comment]
  | .emitted option =>
      [.block ".arg(" ")"
        (.line (runtime ++ "::Arg::new(" ++ Source.stringLiteral option.member ++ ")") ::
          Source.indented [.lines (settings runtime option)])]

/-- The function that registers the options of a command. -/
def commandFunction (runtime : String) (command : CommandDescriptor) (slots : List Slot) :
    List Source.Step :=
  command.description.toList.map (fun text => .lines (Source.documentation text)) ++
    [.block ("pub fn command() -> " ++ runtime ++ "::Command \x7b") "\x7d"
      (.line (runtime ++ "::Command::new(" ++ Source.stringLiteral command.name ++ ")") ::
        Source.indented
          (.lines (textSetting "about" command.description) ::
            slots.flatMap (slotSteps runtime)))]

/-- The lines that check a path against all constraints of an option. -/
def constraintChecks (runtime : String) (option : OptionDescriptor) : List String :=
  option.constraints.flatMap
    (checkLines runtime (Source.stringLiteral option.primarySpelling.label))

/-- The steps that check the path `value`, if an option has constraints. -/
def pathSteps (checks : List String) : List Source.Step :=
  if checks.isEmpty then []
  else [.line "let path: &::std::path::Path = value.as_ref();", .lines checks]

/-- The steps that check every path of `values`, if an option has constraints. -/
def pathLoop (checks : List String) : List Source.Step :=
  if checks.isEmpty then []
  else [.block "for value in values.clone() \x7b" "\x7d" (pathSteps checks)]

/-- The line that stores a value in the field of an option. -/
def assignment (option : OptionDescriptor) (field value : String) : String :=
  if option.backingType.isNullable then
    "options." ++ field ++ " = ::std::option::Option::Some(" ++ value ++ ");"
  else "options." ++ field ++ " = " ++ value ++ ";"

/-- The steps that bind the values of an option to the given field. -/
def fieldSteps (runtime : String) (option : OptionDescriptor) (field : String) :
    List Source.Step :=
  let id := Source.stringLiteral option.member
  let checks := constraintChecks runtime option
  if option.backingType.isSequence then
    [.block
      ("if let ::std::option::Option::Some(values) = matches.get_many::<" ++
        option.elementType ++ ">(" ++ id ++ ") \x7b") "\x7d"
      (pathLoop checks ++ [.line (assignment option field "values.cloned().collect()")])]
  else
    [.block
      ("if let ::std::option::Option::Some(value) = matches.get_one::<" ++
        option.elementType ++ ">(" ++ id ++ ") \x7b") "\x7d"
      (pathSteps checks ++ [.line (assignment option field "value.clone()")])]

def bindingSteps (runtime : String) (option : OptionDescriptor) :
    Except RunError (List Source.Step) :=
  (Source.orFail (Source.identifier option.member)).map (fieldSteps runtime option)

/-- The function that binds the values given to the options. -/
def matchesFunction (runtime : String) (options : List OptionDescriptor) :
    Except RunError (List Source.Step) := do
  let bindings ← options.mapM (bindingSteps runtime)
  return [.block
    ("pub fn from_matches(matches: &" ++ runtime ++
      "::ArgMatches) -> ::std::result::Result<Self, " ++ runtime ++ "::Error> \x7b") "\x7d"
    (.line "let mut options = <Self as ::std::default::Default>::default();" ::
      (bindings.flatten ++ [.line "::std::result::Result::Ok(options)"]))]

/-- The function that runs a command on the arguments of a program. -/
def runFunction : List Source.Step :=
  [.line
      "pub fn run<I, T, F>(args: I, cancel: &::std::sync::atomic::AtomicBool, handler: F) -> i32",
    .line "where"] ++
    Source.indented
      [.lines
        ["I: ::std::iter::IntoIterator<Item = T>,",
          "T: ::std::convert::Into<::std::ffi::OsString> + ::std::clone::Clone,",
          "F: ::std::ops::FnOnce(Self, &::std::sync::atomic::AtomicBool) -> i32,"]] ++
    [.block "\x7b" "\x7d"
      (.line "let bound = Self::command()" ::
        (Source.indented
            [.line ".try_get_matches_from(args)",
              .line ".and_then(|matches| Self::from_matches(&matches));"] ++
          [.block "match bound \x7b" "\x7d"
            [.line "::std::result::Result::Ok(options) => handler(options, cancel),",
              .block "::std::result::Result::Err(err) => \x7b" "\x7d"
                [.line "let _ = err.print();", .line "err.exit_code()"]]]))]

/-- The function `run` after an empty line, if it is wanted. -/
def runPart (options : EmitOptions) : List Source.Step :=
  if options.deriveRun then .blank :: runFunction else []

/-- The lints that generated code may trip. -/
def allowances : String :=
  Source.attributeLine "allow" (some "unused_mut, unused_variables, clippy::clone_on_copy")

/-- The source of a command whose parts are ready. -/
def commandSource (typeName : String) (command : CommandDescriptor) (slots : List Slot)
    (matchesPart : List Source.Step) (options : EmitOptions) : String :=
  Source.written
    [.line allowances,
      .block ("impl " ++ typeName ++ " \x7b") "\x7d"
        (commandFunction options.runtimePath command slots ++ .blank ::
          (matchesPart ++ runPart options))]

def renderCommand (command : CommandDescriptor) (blocked : BlockedMembers)
    (options : EmitOptions) : Except RunError String := do
  let typeName ← Source.orFail (Source.identifier command.typeName)
  let slots ← command.options.mapM (slot blocked)
  let matchesPart ← matchesFunction options.runtimePath (slots.filterMap Slot.option?)
  return commandSource typeName command slots matchesPart options

/-- The name and version in the header of generated files. -/
def generator : String := "optforge-codegen 0.1.0"

/-- The header of generated files. -/
def header : String :=
  "// @generated by " ++ generator ++
    "\n// Option parsers for annotated command types. Do not edit.\n"

/-- Appends a fragment after an empty line, or without it to an empty text. -/
def appendFragment (text fragment : String) : String :=
  if text.isEmpty then fragment else text ++ "\n" ++ fragment

/-- A file of the given fragments. -/
def assemble (fragments : List String) (options : EmitOptions) : String :=
  fragments.foldl appendFragment (if options.header then header else "")

end Emission

/-- The source of a list of commands. The token is asked before each command. -/
def emit (commands : List CommandDescriptor) (blocked : BlockedMembers) (options : EmitOptions)
    (token : Token) : Except RunError String := do
  let fragments ← commands.mapM fun command => do
    token.check
    Emission.renderCommand command blocked options
  return Emission.assemble fragments options

end OptionCompiler
