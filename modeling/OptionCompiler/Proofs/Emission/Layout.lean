import Mathlib
import OptionCompiler.Emission
import OptionCompiler.Proofs.Emission.Fragments
import OptionCompiler.Proofs.Source.Lines
/-!
# The layout of a rendered command

The source of a command as data, and the lines that it stands for. A command is laid out as the
entries of the function `command`, one for each option in its slot, and the bindings of the
function `from_matches`, one for each option that is not blocked. An entry is a registration, or a
comment of one line. Rendering succeeds exactly when the names are usable and the options in the
slots pass their checks, and then writes the lines of the layout.
-/

namespace OptionCompiler

namespace Emission

open Source (lineAt unlines Writes)

/-- A setting of an option: the method and its argument. -/
structure Setting where
  name : String
  argument : String
deriving DecidableEq

/-- What the lines that register an option say. The element type and the action come after all
other settings. -/
structure Registration where
  id : String
  settings : List Setting
  element : String
  action : String
deriving DecidableEq

/-- What stands in a slot of the function `command`. -/
inductive Entry where
  | registered (registration : Registration)
  | omitted (comment : String)
deriving DecidableEq

/-- What the lines that bind an option say: how its values are fetched, the blocks of lines that
check them, and the assignment. -/
structure FieldBinding where
  id : String
  element : String
  fetchesMany : Bool
  checksEach : Bool
  checks : List (List String)
  field : String
  wrapsValue : Bool
deriving DecidableEq

/-- What the lines of a command say. -/
structure Layout where
  typeName : String
  documentation : List String
  name : String
  about : Option String
  entries : List Entry
  bindings : List FieldBinding
  runs : Bool
deriving DecidableEq

namespace Setting

def line (setting : Setting) : String :=
  "." ++ setting.name ++ "(" ++ setting.argument ++ ")"

end Setting

namespace Registration

/-- The setting of the element type. -/
def parserLine (runtime : String) (registration : Registration) : String :=
  ".value_parser(" ++ runtime ++ "::value_parser!(" ++ registration.element ++ "))"

/-- The setting of the action. -/
def actionLine (runtime : String) (registration : Registration) : String :=
  ".action(" ++ runtime ++ "::ArgAction::" ++ registration.action ++ "),"

def lines (runtime : String) (registration : Registration) : List String :=
  lineAt 3 ".arg(" ::
    (lineAt 4 (runtime ++ "::Arg::new(" ++ registration.id ++ ")") ::
      (registration.settings.map Setting.line ++
        [registration.parserLine runtime, registration.actionLine runtime]).map (lineAt 5) ++
      [lineAt 3 ")"])

end Registration

namespace Entry

def registration? : Entry → Option Registration
  | .registered registration => some registration
  | .omitted _ => none

def lines (runtime : String) : Entry → List String
  | .registered registration => registration.lines runtime
  | .omitted comment => [lineAt 3 comment]

end Entry

namespace FieldBinding

/-- The line that fetches the values. -/
def opening (binding : FieldBinding) : String :=
  if binding.fetchesMany then
    "if let ::std::option::Option::Some(values) = matches.get_many::<" ++ binding.element ++
      ">(" ++ binding.id ++ ") \x7b"
  else
    "if let ::std::option::Option::Some(value) = matches.get_one::<" ++ binding.element ++
      ">(" ++ binding.id ++ ") \x7b"

/-- The lines that check one path. -/
def pathLines (binding : FieldBinding) : List String :=
  "let path: &::std::path::Path = value.as_ref();" :: binding.checks.flatten

/-- The lines that check the values. -/
def checkLines (binding : FieldBinding) : List String :=
  if binding.checks.isEmpty then []
  else if binding.checksEach then
    lineAt 3 "for value in values.clone() \x7b" ::
      (binding.pathLines.map (lineAt 4) ++ [lineAt 3 "\x7d"])
  else binding.pathLines.map (lineAt 3)

/-- The value that is assigned. -/
def value (binding : FieldBinding) : String :=
  if binding.fetchesMany then "values.cloned().collect()" else "value.clone()"

/-- The line that assigns the value. -/
def assignment (binding : FieldBinding) : String :=
  if binding.wrapsValue then
    "options." ++ binding.field ++ " = ::std::option::Option::Some(" ++ binding.value ++ ");"
  else "options." ++ binding.field ++ " = " ++ binding.value ++ ";"

def lines (binding : FieldBinding) : List String :=
  lineAt 2 binding.opening ::
    (binding.checkLines ++ [lineAt 3 binding.assignment] ++ [lineAt 2 "\x7d"])

end FieldBinding

/-- The lines of the function `run`. -/
def runLines : List String :=
  ["pub fn run<I, T, F>(args: I, cancel: &::std::sync::atomic::AtomicBool, handler: F) -> i32",
    "where",
    "    I: ::std::iter::IntoIterator<Item = T>,",
    "    T: ::std::convert::Into<::std::ffi::OsString> + ::std::clone::Clone,",
    "    F: ::std::ops::FnOnce(Self, &::std::sync::atomic::AtomicBool) -> i32,",
    "\x7b",
    "    let bound = Self::command()",
    "        .try_get_matches_from(args)",
    "        .and_then(|matches| Self::from_matches(&matches));",
    "    match bound \x7b",
    "        ::std::result::Result::Ok(options) => handler(options, cancel),",
    "        ::std::result::Result::Err(err) => \x7b",
    "            let _ = err.print();",
    "            err.exit_code()",
    "        \x7d",
    "    \x7d",
    "\x7d"]

namespace Layout

/-- The lines before the entries. -/
def opening (runtime : String) (layout : Layout) : List String :=
  [lineAt 0 "#[allow(unused_mut, unused_variables, clippy::clone_on_copy)]",
    lineAt 0 ("impl " ++ layout.typeName ++ " \x7b")] ++
    layout.documentation.map (lineAt 1) ++
    [lineAt 1 ("pub fn command() -> " ++ runtime ++ "::Command \x7b"),
      lineAt 2 (runtime ++ "::Command::new(" ++ layout.name ++ ")")] ++
    layout.about.toList.map fun text => lineAt 3 (".about(" ++ text ++ ")")

/-- The lines after the entries. -/
def closing (runtime : String) (layout : Layout) : List String :=
  [lineAt 1 "\x7d", "",
    lineAt 1 ("pub fn from_matches(matches: &" ++ runtime ++
      "::ArgMatches) -> ::std::result::Result<Self, " ++ runtime ++ "::Error> \x7b"),
    lineAt 2 "let mut options = <Self as ::std::default::Default>::default();"] ++
    layout.bindings.flatMap FieldBinding.lines ++
    [lineAt 2 "::std::result::Result::Ok(options)", lineAt 1 "\x7d"] ++
    (if layout.runs then "" :: runLines.map (lineAt 1) else []) ++
    [lineAt 0 "\x7d"]

def lines (runtime : String) (layout : Layout) : List String :=
  layout.opening runtime ++ layout.entries.flatMap (Entry.lines runtime) ++ layout.closing runtime

def text (runtime : String) (layout : Layout) : String :=
  unlines (layout.lines runtime)

end Layout

section Views

def Setting.ofPrimary : FlagSpelling → Setting
  | .long name => ⟨"long", Source.stringLiteral name⟩
  | .short letter => ⟨"short", Source.charLiteral letter⟩

def Setting.ofAlias : FlagSpelling → Setting
  | .long name => ⟨"visible_alias", Source.stringLiteral name⟩
  | .short letter => ⟨"visible_short_alias", Source.charLiteral letter⟩

/-- A setting with a text, if there is one. -/
def Setting.ofText (name : String) (text : Option String) : List Setting :=
  text.toList.map fun text => ⟨name, Source.stringLiteral text⟩

/-- A setting that is there only when it is true. -/
def Setting.ofTrue (name : String) (value : Bool) : List Setting :=
  if value then [⟨name, "true"⟩] else []

/-- The settings of an option, the element type and the action aside. -/
def Setting.ofOption (option : OptionDescriptor) : List Setting :=
  [Setting.ofPrimary option.primarySpelling] ++ option.aliasSpellings.map Setting.ofAlias ++
    Setting.ofText "help" option.description ++ Setting.ofText "value_name" option.helpName ++
    Setting.ofTrue "required" option.required ++ Setting.ofTrue "hide" option.hidden ++
    [⟨"num_args", Source.countRange option.arity.min option.arity.max⟩] ++
    Setting.ofText "default_missing_value"
      (if option.backingType.isBoolean then some "true" else none)

def Registration.ofOption (option : OptionDescriptor) : Registration :=
  ⟨Source.stringLiteral option.member, Setting.ofOption option, option.elementType,
    actionName option.backingType⟩

def Entry.ofSlot : Slot → Entry
  | .emitted option => .registered (.ofOption option)
  | .omitted comment => .omitted comment

def FieldBinding.ofOption (runtime : String) (option : OptionDescriptor) (field : String) :
    FieldBinding :=
  { id := Source.stringLiteral option.member
    element := option.elementType
    fetchesMany := option.backingType.isSequence
    checksEach := option.backingType.isSequence
    checks := option.constraints.map
      (Emission.checkLines runtime (Source.stringLiteral option.primarySpelling.label))
    field := field
    wrapsValue := option.backingType.isNullable }

/-- The layout of a command whose names are spelled. -/
def Layout.ofCommand (command : CommandDescriptor) (options : EmitOptions) (typeName : String)
    (slots : List Slot) (fields : List String) : Layout :=
  { typeName := typeName
    documentation := (command.description.toList.map Source.documentation).flatten
    name := Source.stringLiteral command.name
    about := command.description.map Source.stringLiteral
    entries := slots.map Entry.ofSlot
    bindings :=
      List.zipWith (FieldBinding.ofOption options.runtimePath) (slots.filterMap Slot.option?) fields
    runs := options.deriveRun }

end Views

section Writing

variable (runtime : String)

theorem line_ofPrimary (spelling : FlagSpelling) :
    (Setting.ofPrimary spelling).line = primarySetting spelling := by
  cases spelling <;> rfl

theorem line_ofAlias (spelling : FlagSpelling) :
    (Setting.ofAlias spelling).line = aliasSetting spelling := by
  cases spelling <;> rfl

theorem lines_ofText (name : String) (text : Option String) :
    (Setting.ofText name text).map Setting.line = textSetting name text := by
  cases text <;> rfl

theorem lines_ofTrue (name : String) (value : Bool) :
    (Setting.ofTrue name value).map Setting.line = trueSetting name value := by
  cases value <;> rfl

theorem settings_eq (option : OptionDescriptor) :
    settings runtime option =
      (Setting.ofOption option).map Setting.line ++
        [(Registration.ofOption option).parserLine runtime,
          (Registration.ofOption option).actionLine runtime] := by
  have aliases : (option.aliasSpellings.map Setting.ofAlias).map Setting.line =
      option.aliasSpellings.map aliasSetting := by
    rw [List.map_map]
    exact List.map_congr_left fun spelling _ => line_ofAlias spelling
  simp only [settings, Setting.ofOption, List.map_append, List.map_cons, List.map_nil,
    line_ofPrimary, aliases, lines_ofText, lines_ofTrue]
  rfl

theorem writes_slotSteps (slot : Slot) :
    Writes 3 (slotSteps runtime slot) ((Entry.ofSlot slot).lines runtime) := by
  cases slot with
  | omitted comment => exact Writes.line comment
  | emitted option =>
      apply Writes.block _ _
      apply Writes.cons (Writes.line _)
      apply Writes.indented
      rw [settings_eq]
      exact Writes.lines _

theorem checkLines_ne_nil (flag : String) (constraint : PathConstraint) :
    Emission.checkLines runtime flag constraint ≠ [] := by
  unfold Emission.checkLines
  rcases constraint with ⟨_ | _⟩ | ⟨_⟩ <;> simp [checkTemplate]

/-- There are lines to check exactly when there are constraints. -/
theorem isEmpty_constraintChecks (option : OptionDescriptor) (field : String) :
    (constraintChecks runtime option).isEmpty =
      (FieldBinding.ofOption runtime option field).checks.isEmpty := by
  unfold constraintChecks FieldBinding.ofOption
  cases option.constraints with
  | nil => rfl
  | cons constraint constraints =>
      have visible := checkLines_ne_nil runtime
        (Source.stringLiteral option.primarySpelling.label) constraint
      simp [visible]

theorem pathLines_ofOption (option : OptionDescriptor) (field : String) :
    (FieldBinding.ofOption runtime option field).pathLines =
      "let path: &::std::path::Path = value.as_ref();" :: constraintChecks runtime option := by
  unfold FieldBinding.pathLines constraintChecks FieldBinding.ofOption
  rw [List.flatMap_def]

theorem writes_pathSteps {depth : Nat} {checks : List String} (present : checks.isEmpty = false) :
    Writes depth (pathSteps checks)
      (("let path: &::std::path::Path = value.as_ref();" :: checks).map (lineAt depth)) := by
  rw [pathSteps, if_neg (by simp [present])]
  exact Writes.cons (Writes.line _) (Writes.lines checks)

theorem writes_pathLoop {depth : Nat} {checks : List String} (present : checks.isEmpty = false) :
    Writes depth (pathLoop checks)
      (lineAt depth "for value in values.clone() \x7b" ::
        (("let path: &::std::path::Path = value.as_ref();" :: checks).map (lineAt (depth + 1)) ++
          [lineAt depth "\x7d"])) := by
  rw [pathLoop, if_neg (by simp [present])]
  exact Writes.block _ _ (writes_pathSteps present)

/-- The steps that check the values write the lines that check them. -/
theorem writes_checkLines (option : OptionDescriptor) (field : String) :
    Writes 3
      (if option.backingType.isSequence then pathLoop (constraintChecks runtime option)
        else pathSteps (constraintChecks runtime option))
      (FieldBinding.ofOption runtime option field).checkLines := by
  unfold FieldBinding.checkLines
  rw [← isEmpty_constraintChecks, pathLines_ofOption]
  cases lacking : (constraintChecks runtime option).isEmpty with
  | true =>
      simp only [pathLoop, pathSteps, lacking, if_true, ite_self]
      exact Writes.nil
  | false =>
      cases sequence : option.backingType.isSequence with
      | true =>
          simp only [FieldBinding.ofOption, sequence, if_true, Bool.false_eq_true, if_false]
          exact writes_pathLoop lacking
      | false =>
          simp only [FieldBinding.ofOption, sequence, Bool.false_eq_true, if_false]
          exact writes_pathSteps lacking

/-- The steps that bind an option are one block, whatever its backing type. -/
theorem fieldSteps_eq (option : OptionDescriptor) (field : String) :
    fieldSteps runtime option field =
      [.block (FieldBinding.ofOption runtime option field).opening "\x7d"
        ((if option.backingType.isSequence then pathLoop (constraintChecks runtime option)
            else pathSteps (constraintChecks runtime option)) ++
          [.line (FieldBinding.ofOption runtime option field).assignment])] := by
  unfold fieldSteps FieldBinding.opening FieldBinding.assignment FieldBinding.value
    FieldBinding.ofOption
  by_cases sequence : option.backingType.isSequence = true
  · simp only [if_pos sequence, assignment]
  · simp only [if_neg sequence, assignment]

theorem writes_fieldSteps (option : OptionDescriptor) (field : String) :
    Writes 2 (fieldSteps runtime option field)
      (FieldBinding.ofOption runtime option field).lines := by
  rw [fieldSteps_eq]
  exact Writes.block _ _ (Writes.append (writes_checkLines runtime option field) (Writes.line _))

theorem writes_runFunction : Writes 1 runFunction (runLines.map (lineAt 1)) := by
  have bounds : Writes 1 _ _ := Writes.indented (Writes.lines
    ["I: ::std::iter::IntoIterator<Item = T>,",
      "T: ::std::convert::Into<::std::ffi::OsString> + ::std::clone::Clone,",
      "F: ::std::ops::FnOnce(Self, &::std::sync::atomic::AtomicBool) -> i32,"])
  have chain : Writes 2 _ _ := Writes.indented (Writes.cons
    (Writes.line ".try_get_matches_from(args)")
    (Writes.line ".and_then(|matches| Self::from_matches(&matches));"))
  have failure : Writes 3 _ _ := Writes.block "::std::result::Result::Err(err) => \x7b" "\x7d"
    (Writes.cons (Writes.line "let _ = err.print();") (Writes.line "err.exit_code()"))
  have outcome : Writes 2 _ _ := Writes.block "match bound \x7b" "\x7d" (Writes.cons
    (Writes.line "::std::result::Result::Ok(options) => handler(options, cancel),") failure)
  have body : Writes 2 _ _ :=
    Writes.cons (Writes.line "let bound = Self::command()") (Writes.append chain outcome)
  have whole : Writes 1 runFunction _ :=
    Writes.append (Writes.append (Writes.cons (Writes.line _) (Writes.line _)) bounds)
      (Writes.block "\x7b" "\x7d" body)
  convert whole using 1
  decide +kernel

theorem writes_runPart (options : EmitOptions) :
    Writes 1 (runPart options)
      (if options.deriveRun then "" :: runLines.map (lineAt 1) else []) := by
  unfold runPart
  cases options.deriveRun with
  | true => exact Writes.cons Writes.blank writes_runFunction
  | false => exact Writes.nil

theorem writes_commandFunction (command : CommandDescriptor) (slots : List Slot) :
    Writes 1 (commandFunction runtime command slots)
      ((command.description.toList.map Source.documentation).flatten.map (lineAt 1) ++
        lineAt 1 ("pub fn command() -> " ++ runtime ++ "::Command \x7b") ::
          (lineAt 2 (runtime ++ "::Command::new(" ++ Source.stringLiteral command.name ++ ")") ::
            ((textSetting "about" command.description).map (lineAt 3) ++
              (slots.map Entry.ofSlot).flatMap (Entry.lines runtime)) ++
            [lineAt 1 "\x7d"])) := by
  have documentation : Writes 1
      (command.description.toList.map fun text => .lines (Source.documentation text))
      ((command.description.toList.map Source.documentation).flatten.map (lineAt 1)) := by
    cases command.description with
    | none => exact Writes.nil
    | some text =>
        rw [Option.toList_some, List.map_singleton, List.map_singleton, List.flatten_singleton]
        exact Writes.lines _
  have entries : Writes 3 (slots.flatMap (slotSteps runtime))
      ((slots.map Entry.ofSlot).flatMap (Entry.lines runtime)) := by
    rw [List.flatMap_map]
    exact Writes.flatMap fun slot _ => writes_slotSteps runtime slot
  exact Writes.append documentation (Writes.block _ _ (Writes.cons (Writes.line _)
    (Writes.indented (Writes.cons (Writes.lines _) entries))))

theorem writes_fields (options : List OptionDescriptor) (fields : List String) :
    Writes 2 (List.zipWith (fieldSteps runtime) options fields).flatten
      ((List.zipWith (FieldBinding.ofOption runtime) options fields).flatMap
        FieldBinding.lines) := by
  induction options generalizing fields with
  | nil => exact Writes.nil
  | cons option options ih =>
      cases fields with
      | nil => exact Writes.nil
      | cons field fields =>
          exact Writes.append (writes_fieldSteps runtime option field) (ih fields)

/-- The steps of the function `from_matches` that binds options to fields. -/
def boundSteps (options : List OptionDescriptor) (fields : List String) : List Source.Step :=
  [.block
    ("pub fn from_matches(matches: &" ++ runtime ++
      "::ArgMatches) -> ::std::result::Result<Self, " ++ runtime ++ "::Error> \x7b") "\x7d"
    (.line "let mut options = <Self as ::std::default::Default>::default();" ::
      ((List.zipWith (fieldSteps runtime) options fields).flatten ++
        [.line "::std::result::Result::Ok(options)"]))]

theorem writes_boundSteps (options : List OptionDescriptor) (fields : List String) :
    Writes 1 (boundSteps runtime options fields)
      (lineAt 1 ("pub fn from_matches(matches: &" ++ runtime ++
          "::ArgMatches) -> ::std::result::Result<Self, " ++ runtime ++ "::Error> \x7b") ::
        (lineAt 2 "let mut options = <Self as ::std::default::Default>::default();" ::
          ((List.zipWith (FieldBinding.ofOption runtime) options fields).flatMap
              FieldBinding.lines ++
            [lineAt 2 "::std::result::Result::Ok(options)"]) ++
          [lineAt 1 "\x7d"])) :=
  Writes.block _ _ (Writes.cons (Writes.line _)
    (Writes.append (writes_fields runtime options fields) (Writes.line _)))

theorem commandSource_eq_text (typeName : String) (command : CommandDescriptor)
    (slots : List Slot) (fields : List String) (options : EmitOptions) :
    commandSource typeName command slots
        (boundSteps options.runtimePath (slots.filterMap Slot.option?) fields) options =
      (Layout.ofCommand command options typeName slots fields).text options.runtimePath := by
  have parts := Writes.append (writes_commandFunction options.runtimePath command slots)
    (Writes.cons Writes.blank (Writes.append
      (writes_boundSteps options.runtimePath (slots.filterMap Slot.option?) fields)
      (writes_runPart options)))
  have whole := Writes.cons (Writes.line allowances)
    (Writes.block ("impl " ++ typeName ++ " \x7b") "\x7d" parts)
  have allowed : allowances = "#[allow(unused_mut, unused_variables, clippy::clone_on_copy)]" := by
    decide
  have about : (textSetting "about" command.description).map (lineAt 3) =
      (command.description.map Source.stringLiteral).toList.map
        fun text => lineAt 3 (".about(" ++ text ++ ")") := by
    cases command.description <;> rfl
  refine (Source.written_of_writes whole).trans (congrArg unlines ?_)
  simp only [Layout.ofCommand, Layout.lines, Layout.opening, Layout.closing, allowed, about,
    List.append_assoc, List.cons_append, List.nil_append]
  rfl

end Writing

section Rendering

theorem orFail_eq_ok_iff {α : Type} {spelled : Except Source.SpellingError α} {value : α} :
    Source.orFail spelled = .ok value ↔ spelled = .ok value := by
  cases spelled <;> simp [Source.orFail, Except.mapError]

theorem bindingSteps_eq_ok_iff {runtime : String} {option : OptionDescriptor}
    {steps : List Source.Step} :
    bindingSteps runtime option = .ok steps ↔
      ∃ field, Source.identifier option.member = .ok field ∧
        steps = fieldSteps runtime option field := by
  unfold bindingSteps
  cases spelled : Source.identifier option.member with
  | error error => simp [Source.orFail, Except.mapError, Except.map]
  | ok field => simp [Source.orFail, Except.mapError, Except.map, eq_comm]

/-- The steps of several options, each bound to its field. -/
theorem forall₂_bindingSteps_iff {runtime : String} {options : List OptionDescriptor}
    {bindings : List (List Source.Step)} :
    List.Forall₂ (fun option steps => bindingSteps runtime option = .ok steps) options bindings ↔
      ∃ fields, List.Forall₂ (fun option field => Source.identifier option.member = .ok field)
          options fields ∧
        bindings = List.zipWith (fieldSteps runtime) options fields := by
  constructor
  · intro each
    induction each with
    | nil => exact ⟨[], .nil, rfl⟩
    | cons head _ ih =>
        rcases bindingSteps_eq_ok_iff.mp head with ⟨field, spelled, rfl⟩
        rcases ih with ⟨fields, each, rfl⟩
        exact ⟨field :: fields, .cons spelled each, rfl⟩
  · rintro ⟨fields, each, rfl⟩
    induction each with
    | nil => exact .nil
    | cons head _ ih => exact .cons (bindingSteps_eq_ok_iff.mpr ⟨_, head, rfl⟩) ih

theorem matchesFunction_eq_ok_iff {runtime : String} {options : List OptionDescriptor}
    {steps : List Source.Step} :
    matchesFunction runtime options = .ok steps ↔
      ∃ fields, List.Forall₂ (fun option field => Source.identifier option.member = .ok field)
          options fields ∧
        steps = boundSteps runtime options fields := by
  constructor
  · intro made
    rcases bind_eq_ok_iff.mp made with ⟨bindings, read, done⟩
    rcases forall₂_bindingSteps_iff.mp (mapM_eq_ok_iff.mp read) with ⟨fields, each, rfl⟩
    exact ⟨fields, each, (Except.ok.inj done).symm⟩
  · rintro ⟨fields, each, rfl⟩
    have read : options.mapM (bindingSteps runtime) = .ok _ :=
      mapM_eq_ok_iff.mpr (forall₂_bindingSteps_iff.mpr ⟨fields, each, rfl⟩)
    unfold matchesFunction
    rw [read]
    rfl

/-- Rendering succeeds exactly when the name of the type, each slot and each field are made, and
the source is the text of their layout. -/
theorem renderCommand_eq_ok_iff {command : CommandDescriptor} {blocked : BlockedMembers}
    {options : EmitOptions} {source : String} :
    renderCommand command blocked options = .ok source ↔
      ∃ typeName slots fields, Source.identifier command.typeName = .ok typeName ∧
        List.Forall₂ (fun option made => slot blocked option = .ok made) command.options slots ∧
        List.Forall₂ (fun option field => Source.identifier option.member = .ok field)
          (slots.filterMap Slot.option?) fields ∧
        source =
          (Layout.ofCommand command options typeName slots fields).text options.runtimePath := by
  unfold renderCommand
  constructor
  · intro rendered
    rcases bind_eq_ok_iff.mp rendered with ⟨typeName, named, rendered⟩
    rcases bind_eq_ok_iff.mp rendered with ⟨slots, read, rendered⟩
    rcases bind_eq_ok_iff.mp rendered with ⟨steps, made, rendered⟩
    rcases matchesFunction_eq_ok_iff.mp made with ⟨fields, spelled, rfl⟩
    refine ⟨typeName, slots, fields, orFail_eq_ok_iff.mp named, mapM_eq_ok_iff.mp read, spelled, ?_⟩
    rw [← commandSource_eq_text]
    exact (Except.ok.inj rendered).symm
  · rintro ⟨typeName, slots, fields, named, read, spelled, rfl⟩
    rw [orFail_eq_ok_iff.mpr named, mapM_eq_ok_iff.mpr read, ← commandSource_eq_text]
    have made : matchesFunction options.runtimePath (slots.filterMap Slot.option?) = .ok _ :=
      matchesFunction_eq_ok_iff.mpr ⟨fields, spelled, rfl⟩
    simp only [bind, Except.bind, made]
    rfl

end Rendering

section Slots

/-- The options that no code blocks. -/
def unblocked (blocked : BlockedMembers) (options : List OptionDescriptor) :
    List OptionDescriptor :=
  options.filter fun option => (blocked.codes? option.location).isNone

theorem options_emitted (options : List OptionDescriptor) :
    (options.map Slot.emitted).filterMap Slot.option? = options := by
  induction options with
  | nil => rfl
  | cons option options ih => exact congrArg (List.cons option) ih

/-- An option that is not blocked stands in its slot itself. -/
theorem slot_of_codes_none {blocked : BlockedMembers} {option : OptionDescriptor} {made : Slot}
    (free : blocked.codes? option.location = none) (read : slot blocked option = .ok made) :
    made = .emitted option := by
  unfold slot at read
  rw [free] at read
  simp only [Except.map] at read
  split at read
  · cases read
  · exact (Except.ok.inj read).symm

/-- In the slot of a blocked option stands the comment that names it and its codes. -/
theorem slot_of_codes_some {blocked : BlockedMembers} {option : OptionDescriptor} {made : Slot}
    {codes : List DiagnosticCode} (found : blocked.codes? option.location = some codes)
    (read : slot blocked option = .ok made) :
    ∃ comment, Source.lineComment (omission option.member codes) = .ok comment ∧
      made = .omitted comment := by
  unfold slot at read
  simp only [found] at read
  cases spelled : Source.lineComment (omission option.member codes) with
  | error error =>
      rw [spelled] at read
      cases read
  | ok comment =>
      rw [spelled] at read
      exact ⟨comment, rfl, (Except.ok.inj read).symm⟩

theorem options_of_slots {blocked : BlockedMembers} {options : List OptionDescriptor}
    {slots : List Slot}
    (reads : List.Forall₂ (fun option made => slot blocked option = .ok made) options slots) :
    slots.filterMap Slot.option? = unblocked blocked options := by
  induction reads with
  | nil => rfl
  | @cons option made options slots head _ ih =>
      unfold unblocked at ih ⊢
      rw [List.filterMap_cons, List.filter_cons, ih]
      cases found : blocked.codes? option.location with
      | none => simp [slot_of_codes_none found head, Slot.option?]
      | some codes =>
          rcases slot_of_codes_some found head with ⟨comment, _, rfl⟩
          simp [Slot.option?]

end Slots

end Emission

end OptionCompiler
