import Mathlib
import OptionCompiler.Proofs.Emission.Blocks
/-!
# Nothing that the generated code needs is lost

Two commands with the same source agree on everything that the generated code does: on the names
and the description of the command, and option by option on the flags, the texts, the arity, the
element type, the constraints, and on how the values are stored. The texts that the user chooses
are escaped, so every line of a source can be told apart, and with it every block.

The element types and the path of the runtime are copied as they are, so they may not hold line
feeds.
-/

namespace OptionCompiler

namespace Emission

open Source (lineAt IsLine AreLines IsDeeper)

section Lines

variable {runtime : String}

theorem areLines_registration (runtimeLine : IsLine runtime) {option : OptionDescriptor}
    (elementLine : IsLine option.elementType) :
    AreLines ((Registration.ofOption option).lines runtime) := by
  have idLine : IsLine (Registration.ofOption option).id := Source.isLine_stringLiteral _
  have actionLine : IsLine (Registration.ofOption option).action := by
    change IsLine (actionName option.backingType)
    unfold actionName
    split
    · exact Source.isLine_ofList (by decide)
    · exact Source.isLine_ofList (by decide)
  have settings : AreLines ((Registration.ofOption option).settings.map Setting.line) :=
    Source.areLines_map.mpr fun setting member => Setting.isLine_of_mem_ofOption member
  have parser : IsLine ((Registration.ofOption option).parserLine runtime) :=
    ((runtimeLine.between (by decide) (by decide)).append elementLine).followed (by decide)
  have action : IsLine ((Registration.ofOption option).actionLine runtime) :=
    ((runtimeLine.between (by decide) (by decide)).append actionLine).followed (by decide)
  have own : AreLines [(Registration.ofOption option).parserLine runtime,
      (Registration.ofOption option).actionLine runtime] :=
    Source.areLines_cons.mpr ⟨parser, Source.areLines_cons.mpr ⟨action, Source.areLines_nil⟩⟩
  have name : IsLine (runtime ++ "::Arg::new(" ++ (Registration.ofOption option).id ++ ")") :=
    ((runtimeLine.followed (by decide)).append idLine).followed (by decide)
  unfold Registration.lines
  simp only [Source.areLines_cons, Source.areLines_append]
  exact ⟨by decide, ⟨Source.isLine_lineAt name 4,
    Source.areLines_lineAt (Source.areLines_append.mpr ⟨settings, own⟩) 5⟩, by decide, by decide⟩

theorem isLine_filled (runtimeLine : IsLine runtime) {flag line : String} (flagLine : IsLine flag)
    (isLine : IsLine line) : IsLine (filled runtime flag line) :=
  Source.isLine_replace (Source.isLine_replace isLine runtimeLine) flagLine

theorem areLines_checkTemplate (constraint : PathConstraint) :
    AreLines (checkTemplate constraint) := by
  rcases constraint with ⟨_ | _⟩ | ⟨⟨⟩⟩ <;>
    (repeat' refine Source.areLines_cons.mpr ⟨Source.isLine_ofList (by decide), ?_⟩
     exact Source.areLines_nil)

theorem areLines_pathLines (runtimeLine : IsLine runtime) (option : OptionDescriptor)
    (field : String) : AreLines (FieldBinding.ofOption runtime option field).pathLines := by
  refine Source.areLines_cons.mpr ⟨Source.isLine_ofList (by decide), ?_⟩
  intro line member
  rcases List.mem_flatten.mp member with ⟨lines, linesMember, lineMember⟩
  rcases List.mem_map.mp linesMember with ⟨constraint, _, rfl⟩
  rcases List.mem_map.mp lineMember with ⟨text, textMember, rfl⟩
  exact isLine_filled runtimeLine (Source.isLine_stringLiteral _)
    (areLines_checkTemplate constraint text textMember)

theorem areLines_binding (runtimeLine : IsLine runtime) {option : OptionDescriptor} {field : String}
    (elementLine : IsLine option.elementType)
    (spelled : Source.identifier option.member = .ok field) :
    AreLines (FieldBinding.ofOption runtime option field).lines := by
  have paths (depth : Nat) := Source.areLines_lineAt (areLines_pathLines runtimeLine option field)
    depth
  have checks : AreLines (FieldBinding.ofOption runtime option field).checkLines := by
    unfold FieldBinding.checkLines
    split_ifs
    · exact Source.areLines_nil
    · exact Source.areLines_cons.mpr
        ⟨Source.isLine_lineAt (Source.isLine_ofList (by decide)) 3,
          Source.areLines_append.mpr ⟨paths 4, by decide⟩⟩
    · exact paths 3
  have fieldLine : IsLine (FieldBinding.ofOption runtime option field).field :=
    Source.isLine_identifier spelled
  have idLine : IsLine (FieldBinding.ofOption runtime option field).id :=
    Source.isLine_stringLiteral _
  have element : IsLine (FieldBinding.ofOption runtime option field).element := elementLine
  have value : IsLine (FieldBinding.ofOption runtime option field).value := by
    unfold FieldBinding.value
    split
    · exact Source.isLine_ofList (by decide)
    · exact Source.isLine_ofList (by decide)
  have opening : IsLine (FieldBinding.ofOption runtime option field).opening := by
    unfold FieldBinding.opening
    split
    · exact ((element.between (by decide) (by decide)).append idLine).followed (by decide)
    · exact ((element.between (by decide) (by decide)).append idLine).followed (by decide)
  have assignment : IsLine (FieldBinding.ofOption runtime option field).assignment := by
    unfold FieldBinding.assignment
    split
    · exact ((fieldLine.between (by decide) (by decide)).append value).followed (by decide)
    · exact ((fieldLine.between (by decide) (by decide)).append value).followed (by decide)
  unfold FieldBinding.lines
  simp only [Source.areLines_cons, Source.areLines_append]
  exact ⟨Source.isLine_lineAt opening 2, ⟨checks, Source.isLine_lineAt assignment 3, by decide⟩,
    by decide, by decide⟩

end Lines

section Layouts

variable {runtime : String}

/-- The layout of a command of which nothing is blocked. -/
def Layout.ofUnblocked (command : CommandDescriptor) (options : EmitOptions) (typeName : String)
    (fields : List String) : Layout :=
  Layout.ofCommand command options typeName (command.options.map .emitted) fields

/-- The source of a command of which nothing is blocked. -/
theorem exists_ofUnblocked {command : CommandDescriptor} {options : EmitOptions} {source : String}
    (rendered : renderCommand command .empty options = .ok source) :
    ∃ typeName fields, Source.identifier command.typeName = .ok typeName ∧
      List.Forall₂ (fun option field => Source.identifier option.member = .ok field)
        command.options fields ∧
      source = (Layout.ofUnblocked command options typeName fields).text options.runtimePath := by
  rcases renderCommand_eq_ok_iff.mp rendered with
    ⟨typeName, slots, fields, named, reads, spelled, text⟩
  have emitted : slots = command.options.map .emitted := by
    generalize command.options = members at reads
    clear text spelled
    induction reads with
    | nil => rfl
    | cons head _ ih => rw [List.map_cons, slot_of_codes_none rfl head, ih]
  have same := options_of_slots reads
  have all : unblocked .empty command.options = command.options :=
    List.filter_eq_self.mpr fun _ _ => rfl
  rw [same, all] at spelled
  rw [emitted] at text
  exact ⟨typeName, fields, named, spelled, text⟩

def registrationLines (runtime : String) (options : List OptionDescriptor) : List String :=
  options.flatMap fun option => (Registration.ofOption option).lines runtime

theorem lines_ofUnblocked (command : CommandDescriptor) (options : EmitOptions) (typeName : String)
    (fields : List String) :
    (Layout.ofUnblocked command options typeName fields).lines runtime =
      lineAt 0 "#[allow(unused_mut, unused_variables, clippy::clone_on_copy)]" ::
        lineAt 0 ("impl " ++ typeName ++ " \x7b") ::
          ((command.description.toList.map Source.documentation).flatten.map (lineAt 1) ++
            lineAt 1 ("pub fn command() -> " ++ runtime ++ "::Command \x7b") ::
              lineAt 2 (runtime ++ "::Command::new(" ++ Source.stringLiteral command.name ++ ")") ::
                ((command.description.toList.map fun text =>
                    lineAt 3 (".about(" ++ Source.stringLiteral text ++ ")")) ++
                  (registrationLines runtime command.options ++
                    (Layout.ofUnblocked command options typeName fields).closing runtime))) := by
  have about : (command.description.map Source.stringLiteral).toList.map
      (fun text => lineAt 3 (".about(" ++ text ++ ")")) = command.description.toList.map fun text =>
        lineAt 3 (".about(" ++ Source.stringLiteral text ++ ")") := by
    cases command.description <;> simp
  have entries : ((command.options.map Slot.emitted).map Entry.ofSlot).flatMap
      (Entry.lines runtime) = registrationLines runtime command.options := by
    rw [List.map_map, List.flatMap_map]
    rfl
  simp only [Layout.lines, Layout.ofUnblocked, Layout.ofCommand, Layout.opening, about, entries,
    List.append_assoc, List.cons_append, List.nil_append]

def bindingLines (runtime : String) (options : List OptionDescriptor) (fields : List String) :
    List String :=
  (List.zipWith (FieldBinding.ofOption runtime) options fields).flatMap FieldBinding.lines

/-- The lines after all bindings. -/
def endingLines (runs : Bool) : List String :=
  lineAt 2 "::std::result::Result::Ok(options)" :: lineAt 1 "\x7d" ::
    ((if runs then "" :: runLines.map (lineAt 1) else []) ++ [lineAt 0 "\x7d"])

theorem closing_ofUnblocked (command : CommandDescriptor) (options : EmitOptions)
    (typeName : String) (fields : List String) :
    (Layout.ofUnblocked command options typeName fields).closing runtime =
      lineAt 1 "\x7d" :: "" ::
        lineAt 1 ("pub fn from_matches(matches: &" ++ runtime ++
          "::ArgMatches) -> ::std::result::Result<Self, " ++ runtime ++ "::Error> \x7b") ::
        lineAt 2 "let mut options = <Self as ::std::default::Default>::default();" ::
          (bindingLines options.runtimePath command.options fields ++
            endingLines options.deriveRun) := by
  simp only [Layout.closing, Layout.ofUnblocked, Layout.ofCommand, options_emitted, bindingLines,
    endingLines, List.append_assoc, List.cons_append, List.nil_append]

/-- A line of documentation at the depth of functions. -/
def IsDocumentation (line : String) : Prop :=
  ∃ rest, line = lineAt 1 (Source.documentationMarker ++ rest)

theorem isDocumentation_of_mem {command : CommandDescriptor} {line : String}
    (member : line ∈ (command.description.toList.map Source.documentation).flatten.map (lineAt 1)) :
    IsDocumentation line := by
  rcases List.mem_map.mp member with ⟨text, textMember, rfl⟩
  rcases List.mem_flatten.mp textMember with ⟨lines, linesMember, lineMember⟩
  rcases List.mem_map.mp linesMember with ⟨description, _, rfl⟩
  rcases (Source.documentation_line lineMember).2 with ⟨rest, rfl⟩
  exact ⟨rest, rfl⟩

theorem not_isDocumentation_function :
    ¬IsDocumentation (lineAt 1 ("pub fn command() -> " ++ runtime ++ "::Command \x7b")) := by
  rintro ⟨rest, equal⟩
  have chars := congrArg String.toList (Source.lineAt_injective 1 equal)
  simp [Source.documentationMarker] at chars

/-- The text about a command comes before the registrations, if there is one. -/
theorem registrationLines_ne_about (options : List OptionDescriptor) (text : String)
    (after later : List String) :
    registrationLines runtime options ++ lineAt 1 "\x7d" :: after ≠
      lineAt 3 (".about(" ++ text ++ ")") :: later := by
  intro equal
  cases options with
  | nil =>
      have deeper : IsDeeper 1 (lineAt 3 (".about(" ++ text ++ ")")) :=
        Source.isDeeper_lineAt (by decide) (by simp)
      rw [← (List.cons.inj equal).1] at deeper
      exact absurd deeper (by decide)
  | cons option options =>
      have head := Source.lineAt_injective 3 (List.cons.inj equal).1
      have chars := congrArg String.toList head
      simp at chars

/-- The lines of a command tell its names and its description, and the lines of its options. -/
theorem command_of_lines {first second : CommandDescriptor} {options : EmitOptions}
    {typeName typeName' : String} {fields fields' : List String}
    (same : (Layout.ofUnblocked first options typeName fields).lines runtime =
      (Layout.ofUnblocked second options typeName' fields').lines runtime) :
    typeName = typeName' ∧ first.name = second.name ∧ first.description = second.description ∧
      registrationLines runtime first.options ++
          (Layout.ofUnblocked first options typeName fields).closing runtime =
        registrationLines runtime second.options ++
          (Layout.ofUnblocked second options typeName' fields').closing runtime := by
  rw [lines_ofUnblocked, lines_ofUnblocked, List.cons.injEq, List.cons.injEq] at same
  rcases same with ⟨_, implLine, documented⟩
  rcases Text.append_cons_injective IsDocumentation (fun _ => isDocumentation_of_mem)
      (fun _ => isDocumentation_of_mem) not_isDocumentation_function not_isDocumentation_function
      documented with ⟨_, _, named⟩
  rcases List.cons.inj named with ⟨nameLine, described⟩
  have typeNames := Source.lineAt_injective 0 implLine
  have names := Source.lineAt_injective 2 nameLine
  simp only [String.append_left_inj, String.append_right_inj] at typeNames names
  refine ⟨typeNames, Source.stringLiteral_injective names, ?_⟩
  rw [closing_ofUnblocked, closing_ofUnblocked] at described ⊢
  cases about : first.description with
  | none =>
      cases about' : second.description with
      | none =>
          rw [about, about'] at described
          exact ⟨rfl, described⟩
      | some text =>
          rw [about, about'] at described
          exact absurd described (registrationLines_ne_about _ _ _ _)
  | some text =>
      cases about' : second.description with
      | none =>
          rw [about, about'] at described
          exact absurd described.symm (registrationLines_ne_about _ _ _ _)
      | some text' =>
          rw [about, about'] at described
          rcases List.cons.inj described with ⟨aboutLine, rest⟩
          have texts := Source.lineAt_injective 3 aboutLine
          simp only [String.append_left_inj, String.append_right_inj] at texts
          exact ⟨congrArg some (Source.stringLiteral_injective texts), rest⟩

/-- The lines of registrations before the end of the function tell the registrations. -/
theorem registrations_of_lines {options others : List OptionDescriptor} {after later : List String}
    (same : registrationLines runtime options ++ lineAt 1 "\x7d" :: after =
      registrationLines runtime others ++ lineAt 1 "\x7d" :: later) :
    List.Forall₂
        (fun option other => Registration.ofOption option = Registration.ofOption other)
        options others ∧
      after = later := by
  have apart (option : OptionDescriptor) (rest ending : List String) :
      (Registration.ofOption option).lines runtime ++ rest ≠ lineAt 1 "\x7d" :: ending := by
    intro equal
    exact absurd (List.cons.inj equal).1 (by decide)
  rcases Text.forall₂_of_flatMap_append (fun _ _ _ _ _ _ => registration_of_lines)
      (fun option _ rest => apart option rest _) (fun option _ rest => apart option rest _)
      same with ⟨each, rest⟩
  exact ⟨each, (List.cons.inj rest).2⟩

/-- The checks and the assignments of two bindings are the same. -/
def FieldBinding.StoresAlike (binding other : FieldBinding) : Prop :=
  binding.checkLines = other.checkLines ∧ binding.assignment = other.assignment

/-- The lines of bindings before the end of the function tell the checks and assignments. -/
theorem bindings_of_lines {options others : List OptionDescriptor} {fields fields' : List String}
    {runs : Bool}
    (same : bindingLines runtime options fields ++ endingLines runs =
      bindingLines runtime others fields' ++ endingLines runs) :
    List.Forall₂ FieldBinding.StoresAlike
      (List.zipWith (FieldBinding.ofOption runtime) options fields)
      (List.zipWith (FieldBinding.ofOption runtime) others fields') := by
  have visible {options : List OptionDescriptor} {fields : List String} {binding : FieldBinding}
      (member : binding ∈ List.zipWith (FieldBinding.ofOption runtime) options fields) :
      binding.HasVisibleChecks := by
    rw [← List.map_uncurry_zip_eq_zipWith] at member
    rcases List.mem_map.mp member with ⟨pair, _, rfl⟩
    exact hasVisibleChecks_ofOption pair.1 pair.2
  have apart (binding : FieldBinding) (rest : List String) :
      binding.lines ++ rest ≠ endingLines runs := by
    intro equal
    have opening := Source.lineAt_injective 2 (List.cons.inj equal).1
    have chars := congrArg String.toList opening
    unfold FieldBinding.opening at chars
    split_ifs at chars <;> simp at chars
  exact (Text.forall₂_of_flatMap_append
    (fun _ member _ member' _ _ => binding_of_lines (visible member) (visible member'))
    (fun binding _ => apart binding) (fun binding _ => apart binding) same).1

end Layouts

/-- Two options do the same in generated code. -/
structure SameAtRuntime (option other : OptionDescriptor) : Prop where
  member : option.member = other.member
  primarySpelling : option.primarySpelling = other.primarySpelling
  aliasSpellings : option.aliasSpellings = other.aliasSpellings
  description : option.description = other.description
  helpName : option.helpName = other.helpName
  required : option.required = other.required
  hidden : option.hidden = other.hidden
  arityMin : option.arity.min = other.arity.min
  arityMax : option.arity.max = other.arity.max
  elementType : option.elementType = other.elementType
  constraints : option.constraints = other.constraints
  isBoolean : option.backingType.isBoolean = other.backingType.isBoolean
  isNullable : option.backingType.isNullable = other.backingType.isNullable
  isSequence : option.backingType.isSequence = other.backingType.isSequence

section Options

variable {runtime : String}

theorem isSequence_of_actionName {backing other : BackingType}
    (same : actionName backing = actionName other) : backing.isSequence = other.isSequence := by
  unfold actionName at same
  cases many : backing.isSequence <;> cases many' : other.isSequence <;>
    simp [many, many'] at same ⊢

theorem constraints_of_flatten {flag : String} {constraints others : List PathConstraint}
    (same : (constraints.map (checkLines runtime flag)).flatten =
      (others.map (checkLines runtime flag)).flatten) : constraints = others := by
  rw [← List.flatMap_def, ← List.flatMap_def] at same
  have nonempty (constraint : PathConstraint) (rest : List String) :
      checkLines runtime flag constraint ++ rest ≠ [] := by
    simp [checkLines_ne_nil]
  exact ((isPrefixCode_checkLines runtime flag).flatMap_append_injective nonempty nonempty
    (congrArg (· ++ []) same)).1

theorem sameAtRuntime_of_lines {option other : OptionDescriptor} {field field' : String}
    (spelled : Source.identifier option.member = .ok field)
    (spelled' : Source.identifier other.member = .ok field')
    (registered : Registration.ofOption option = Registration.ofOption other)
    (stored : (FieldBinding.ofOption runtime option field).StoresAlike
      (FieldBinding.ofOption runtime other field')) : SameAtRuntime option other := by
  rw [Registration.ofOption, Registration.ofOption, Registration.mk.injEq] at registered
  rcases registered with ⟨ids, settings, elements, actions⟩
  have tells := Setting.tells_of_ofOption_eq settings
  have member := Source.stringLiteral_injective ids
  have many := isSequence_of_actionName actions
  have fields : field = field' := by
    rw [member, spelled'] at spelled
    exact (Except.ok.inj spelled).symm
  have checks := checks_of_checkLines many stored.1
  simp only [FieldBinding.ofOption, tells.primarySpelling] at checks
  exact {
    member := member
    primarySpelling := tells.primarySpelling
    aliasSpellings := tells.aliasSpellings
    description := tells.description
    helpName := tells.helpName
    required := tells.required
    hidden := tells.hidden
    arityMin := congrArg Arity.min tells.arity
    arityMax := congrArg Arity.max tells.arity
    elementType := elements
    constraints := constraints_of_flatten checks
    isBoolean := tells.isBoolean
    isNullable := wrapsValue_of_assignment fields many stored.2
    isSequence := many }

theorem forall₂_sameAtRuntime {options others : List OptionDescriptor}
    {fields fields' : List String}
    (registered : List.Forall₂
      (fun option other => Registration.ofOption option = Registration.ofOption other)
      options others)
    (spelled : List.Forall₂ (fun option field => Source.identifier option.member = .ok field)
      options fields)
    (spelled' : List.Forall₂ (fun option field => Source.identifier option.member = .ok field)
      others fields')
    (stored : List.Forall₂ FieldBinding.StoresAlike
      (List.zipWith (FieldBinding.ofOption runtime) options fields)
      (List.zipWith (FieldBinding.ofOption runtime) others fields')) :
    List.Forall₂ SameAtRuntime options others := by
  induction registered generalizing fields fields' with
  | nil => exact .nil
  | cons head _ ih =>
      cases spelled with
      | cons spells spelled =>
          cases spelled' with
          | cons spells' spelled' =>
              rcases List.forall₂_cons.mp stored with ⟨storesAlike, stored⟩
              exact .cons (sameAtRuntime_of_lines spells spells' head storesAlike)
                (ih spelled spelled' stored)

end Options

section Injectivity

theorem areLines_bindingLines {runtime : String} {options : List OptionDescriptor}
    {fields : List String} (runtimeLine : IsLine runtime)
    (elementLines : ∀ option ∈ options, IsLine option.elementType)
    (spelled : List.Forall₂ (fun option field => Source.identifier option.member = .ok field)
      options fields) : AreLines (bindingLines runtime options fields) := by
  induction spelled with
  | nil => exact Source.areLines_nil
  | @cons option field options fields head _ ih =>
      rcases List.forall_mem_cons.mp elementLines with ⟨elementLine, elementLines⟩
      exact Source.areLines_append.mpr
        ⟨areLines_binding runtimeLine elementLine head, ih elementLines⟩

theorem areLines_endingLines (runs : Bool) : AreLines (endingLines runs) := by
  have runLinesAre : AreLines runLines := by
    repeat' refine Source.areLines_cons.mpr ⟨Source.isLine_ofList (by decide), ?_⟩
    exact Source.areLines_nil
  refine Source.areLines_cons.mpr ⟨Source.isLine_lineAt (Source.isLine_ofList (by decide)) 2,
    Source.areLines_cons.mpr ⟨by decide, Source.areLines_append.mpr ⟨?_, by decide⟩⟩⟩
  cases runs with
  | true => exact Source.areLines_cons.mpr ⟨by decide, Source.areLines_lineAt runLinesAre 1⟩
  | false => exact Source.areLines_nil

theorem areLines_ofUnblocked {command : CommandDescriptor} {options : EmitOptions}
    {typeName : String} {fields : List String} (runtimeLine : IsLine options.runtimePath)
    (elementLines : ∀ option ∈ command.options, IsLine option.elementType)
    (named : Source.identifier command.typeName = .ok typeName)
    (spelled : List.Forall₂ (fun option field => Source.identifier option.member = .ok field)
      command.options fields) :
    AreLines ((Layout.ofUnblocked command options typeName fields).lines options.runtimePath) := by
  have typeLine := Source.isLine_identifier named
  have implLine : IsLine ("impl " ++ typeName ++ " \x7b") :=
    typeLine.between (by decide) (by decide)
  have nameLine : IsLine (options.runtimePath ++ "::Command::new(" ++
      Source.stringLiteral command.name ++ ")") :=
    ((runtimeLine.followed (by decide)).append (Source.isLine_stringLiteral _)).followed (by decide)
  have documentation :
      AreLines (command.description.toList.map Source.documentation).flatten := by
    intro line member
    rcases List.mem_flatten.mp member with ⟨lines, linesMember, lineMember⟩
    rcases List.mem_map.mp linesMember with ⟨description, _, rfl⟩
    exact (Source.documentation_line lineMember).1
  have about : AreLines (command.description.toList.map fun text =>
      lineAt 3 (".about(" ++ Source.stringLiteral text ++ ")")) := by
    refine Source.areLines_map.mpr fun text _ => Source.isLine_lineAt ?_ 3
    exact (Source.isLine_stringLiteral text).between (by decide) (by decide)
  have registrations : AreLines (registrationLines options.runtimePath command.options) :=
    Source.areLines_flatMap.mpr fun option member =>
      areLines_registration runtimeLine (elementLines option member)
  have commandLine :
      IsLine ("pub fn command() -> " ++ options.runtimePath ++ "::Command \x7b") :=
    runtimeLine.between (by decide) (by decide)
  have matchesLine : IsLine ("pub fn from_matches(matches: &" ++ options.runtimePath ++
      "::ArgMatches) -> ::std::result::Result<Self, " ++ options.runtimePath ++ "::Error> \x7b") :=
    ((runtimeLine.between (by decide) (by decide)).append runtimeLine).followed (by decide)
  rw [lines_ofUnblocked, closing_ofUnblocked]
  simp only [Source.areLines_cons, Source.areLines_append]
  exact ⟨Source.isLine_lineAt (Source.isLine_ofList (by decide)) 0,
    Source.isLine_lineAt implLine 0, Source.areLines_lineAt documentation 1,
    Source.isLine_lineAt commandLine 1, Source.isLine_lineAt nameLine 2, about, registrations,
    by decide, by decide, Source.isLine_lineAt matchesLine 1,
    Source.isLine_lineAt (Source.isLine_ofList (by decide)) 2,
    areLines_bindingLines runtimeLine elementLines spelled, areLines_endingLines _⟩

/-- Nothing that generated code does is lost: commands with the same source have the same names
and description, and their options do the same one by one. -/
theorem renderCommand_injective {first second : CommandDescriptor} {options : EmitOptions}
    {source : String} (runtimeLine : IsLine options.runtimePath)
    (elementLines : ∀ option ∈ first.options, IsLine option.elementType)
    (elementLines' : ∀ option ∈ second.options, IsLine option.elementType)
    (rendered : renderCommand first .empty options = .ok source)
    (rendered' : renderCommand second .empty options = .ok source) :
    first.typeName = second.typeName ∧ first.name = second.name ∧
      first.description = second.description ∧
      List.Forall₂ SameAtRuntime first.options second.options := by
  rcases exists_ofUnblocked rendered with ⟨typeName, fields, named, spelled, text⟩
  rcases exists_ofUnblocked rendered' with ⟨typeName', fields', named', spelled', text'⟩
  have same := Source.eq_of_unlines_eq (areLines_ofUnblocked runtimeLine elementLines named spelled)
    (areLines_ofUnblocked runtimeLine elementLines' named' spelled') (text.symm.trans text')
  rcases command_of_lines same with ⟨typeNames, names, descriptions, functions⟩
  rw [closing_ofUnblocked, closing_ofUnblocked] at functions
  rcases registrations_of_lines functions with ⟨registered, bound⟩
  have stored := bindings_of_lines (List.cons.inj (List.cons.inj (List.cons.inj bound).2).2).2
  rw [← typeNames] at named'
  exact ⟨Source.identifier_injective named named', names, descriptions,
    forall₂_sameAtRuntime registered spelled spelled' stored⟩

/-- A command with one option, whose flag is declared as the given text. -/
def levelCommand (flag : String) : CommandDescriptor :=
  { typeName := "Levels"
    name := "levels"
    description := none
    options :=
      [{ member := "level", primaryFlag := flag, aliases := [], description := none,
          helpName := none, required := false, hidden := false, arity := .exactlyOne,
          backingType := .scalar .integer, elementType := "i64", constraints := [],
          location := .ofMember "Levels" "level" }]
    location := .ofType "Levels" }

/-- The dashes before the name of a long flag are lost, but not what the flag registers. -/
theorem renderCommand_injective_levelCommand :
    levelCommand "level" ≠ levelCommand "--level" ∧
      ∃ source, renderCommand (levelCommand "level") .empty ⟨"::clap", false, false⟩ = .ok source ∧
        renderCommand (levelCommand "--level") .empty ⟨"::clap", false, false⟩ = .ok source ∧
        List.Forall₂ SameAtRuntime (levelCommand "level").options
          (levelCommand "--level").options := by
  have different : levelCommand "level" ≠ levelCommand "--level" := by simp [levelCommand]
  have succeeds :
      (renderCommand (levelCommand "level") .empty ⟨"::clap", false, false⟩).isOk = true := by
    decide +kernel
  have same : renderCommand (levelCommand "--level") .empty ⟨"::clap", false, false⟩ =
      renderCommand (levelCommand "level") .empty ⟨"::clap", false, false⟩ := by
    decide +kernel
  rcases exists_ok_of_isOk succeeds with ⟨source, rendered⟩
  rw [rendered] at same
  exact ⟨different, source, rendered, same, (renderCommand_injective (by decide) (by decide)
    (by decide) rendered same).2.2.2⟩

end Injectivity

end Emission

end OptionCompiler
