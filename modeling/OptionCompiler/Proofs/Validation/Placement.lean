import Mathlib
import OptionCompiler.Proofs.Extraction.Constraints
import OptionCompiler.Proofs.Extraction.Tree
import OptionCompiler.Validation
/-!
# Where annotations end up

No annotation that the compiler understands is lost in silence. Extraction drops annotations in
several places: in a type that is no command container, in one whose name is not usable, on a
member whose name is not usable, and a constraint also where it does not suit its member, is
repeated, or states no mode of its kind. Each time a problem of the extraction or a rule that
reads the declarations reports the annotation where it stands.
-/

namespace OptionCompiler

namespace Validation

/-- Some diagnostic has the given code and location. -/
def Reports (validation : Validation) (code : DiagnosticCode) (location : Location) : Prop :=
  ∃ diagnostic ∈ validation.diagnostics, diagnostic.code = code ∧ diagnostic.location = location

variable {set : DeclarationSet} {extraction : Extraction} {severities : SeverityTable}

theorem resolved_mem {diagnostic : Diagnostic} (member : diagnostic ∈ extraction.diagnostics) :
    resolved severities diagnostic ∈ (ofExtraction set extraction severities).diagnostics := by
  apply List.mem_append_left
  exact List.mem_map_of_mem member

theorem reports_of_extraction {diagnostic : Diagnostic}
    (member : diagnostic ∈ extraction.diagnostics) :
    (ofExtraction set extraction severities).Reports diagnostic.code diagnostic.location :=
  ⟨resolved severities diagnostic, resolved_mem member, rfl, rfl⟩

theorem reports_of_rule {rule : Rule} {location : Location} (position : Nat)
    (known : Rule.all[position]? = some rule)
    (found : ∃ finding ∈ rule.findings ⟨set, extraction.commands⟩, finding.location = location) :
    (ofExtraction set extraction severities).Reports rule.code location := by
  rcases found with ⟨finding, member, rfl⟩
  refine ⟨⟨rule.code, severities.resolve rule.code rule.defaultSeverity, finding.message,
    finding.location⟩, ?_, rfl, rfl⟩
  apply List.mem_append_right
  apply List.mem_flatMap_of_mem (List.mem_of_getElem? known)
  exact List.mem_map_of_mem member

end Validation

theorem BackingType.pathKind?_classify (type : DeclaredType) :
    (classify type).pathKind? = type.shape.pathKind? := by
  rcases type with ⟨shape, nullable, sequence, element⟩
  cases sequence <;> cases nullable <;> cases shape <;> rfl

section Counting

variable {α β : Type} {give : α → Option β} {gives : α → Bool}

theorem length_filterMap_of_gives (agree : ∀ element, (give element).isSome = gives element)
    (elements : List α) : (elements.filterMap give).length = (elements.filter gives).length := by
  rw [List.length_filterMap_eq_countP, List.countP_eq_length_filter]
  congr 2
  exact funext agree

/-- An element that gives something stands behind what is given before it. -/
theorem getElem?_filterMap_of_gives (agree : ∀ element, (give element).isSome = gives element)
    {element : α} {given : β} (gift : give element = some given) (before after : List α) :
    ((before ++ element :: after).filterMap give)[(before.filter gives).length]? =
      some given := by
  rw [← length_filterMap_of_gives agree, List.filterMap_append, List.filterMap_cons_some gift,
    List.getElem?_append_right (Nat.le_refl _), Nat.sub_self]
  rfl

end Counting

/-- A member of a set at its place among the types and the members of its type. -/
structure MemberPlace (set : DeclarationSet) where
  before : List TypeDeclaration
  declaration : TypeDeclaration
  after : List TypeDeclaration
  earlier : List Member
  member : Member
  later : List Member
  declarations_eq : set.declarations = before ++ declaration :: after
  members_eq : declaration.members = earlier ++ member :: later

/-- What may become of a member with an option annotation. -/
inductive OptionFate where
  /-- Its type is no command container. -/
  | misplaced
  /-- Its type is a command container without a usable name. -/
  | unusableType
  /-- Its own name is not usable. -/
  | unusableMember
  /-- It is described by an option. -/
  | described
deriving DecidableEq, Repr

namespace MemberPlace

variable {set : DeclarationSet}

def location (place : MemberPlace set) : Location :=
  .ofMember place.declaration.name place.member.name

def withoutType (place : MemberPlace set) : DeclarationSet :=
  ⟨place.before ++ place.after⟩

/-- The type of the member without the member. -/
def trimmed (place : MemberPlace set) : TypeDeclaration :=
  { place.declaration with members := place.earlier ++ place.later }

def withoutMember (place : MemberPlace set) : DeclarationSet :=
  ⟨place.before ++ place.trimmed :: place.after⟩

/-- The member is described by an option of a command. Commands are counted by the types that give
one, and options by the members that give one, so each has exactly one descriptor. -/
structure Describes (place : MemberPlace set) (extraction : Extraction)
    (command : CommandDescriptor) (option : OptionDescriptor) : Prop where
  commands_length : extraction.commands.length =
    (set.declarations.filter TypeDeclaration.givesCommand).length
  command_at : extraction.commands[(place.before.filter TypeDeclaration.givesCommand).length]? =
    some command
  typeName_eq : command.typeName = place.declaration.name
  options_length : command.options.length =
    (place.declaration.members.filter Member.givesOption).length
  option_at : command.options[(place.earlier.filter Member.givesOption).length]? = some option
  location_eq : option.location = place.location

/-- What each fate of the member says about the results. -/
def HasFate (place : MemberPlace set) (extraction : Extraction) (validation : Validation) :
    OptionFate → Prop
  | .misplaced =>
      place.declaration.isCommandContainer = false ∧
        extraction.commands = (Extraction.ofSet place.withoutType).commands ∧
        validation.Reports .misplacedOption place.location
  | .unusableType =>
      place.declaration.isCommandContainer = true ∧
        Source.isUsable place.declaration.name = false ∧
        extraction.commands = (Extraction.ofSet place.withoutType).commands ∧
        validation.Reports .malformedArguments (.ofType place.declaration.name)
  | .unusableMember =>
      place.declaration.isCommandContainer = true ∧
        Source.isUsable place.declaration.name = true ∧
        Source.isUsable place.member.name = false ∧
        extraction.commands = (Extraction.ofSet place.withoutMember).commands ∧
        validation.Reports .malformedArguments place.location
  | .described =>
      place.declaration.isCommandContainer = true ∧
        Source.isUsable place.declaration.name = true ∧
        Source.isUsable place.member.name = true ∧
        ∃ command option, place.Describes extraction command option

/-- A constraint of the given kind and mode is attached to the descriptor of the member. -/
def Attaches (place : MemberPlace set) (extraction : Extraction) (kind : PathKind)
    (mode : String) : Prop :=
  ∃ command option, place.Describes extraction command option ∧
    ∃ constraint ∈ option.constraints, constraint.pathKind = kind ∧ constraint.modeName = mode

/-- The reports about a constraint annotation on the member that is not attached. -/
inductive ReportsLoss (place : MemberPlace set) (validation : Validation) (kind : PathKind)
    (mark : Annotation) : Prop where
  | orphaned (plain : place.member.hasOption = false)
      (reported : validation.Reports .orphanedConstraint place.location)
  | misplaced (plain : place.declaration.isCommandContainer = false)
      (reported : validation.Reports .misplacedOption place.location)
  | unusableType (unusable : Source.isUsable place.declaration.name = false)
      (reported : validation.Reports .malformedArguments (.ofType place.declaration.name))
  | unusableMember (unusable : Source.isUsable place.member.name = false)
      (reported : validation.Reports .malformedArguments place.location)
  | mismatched (unsuited : place.member.type.shape.pathKind? ≠ some kind)
      (reported : validation.Reports .constraintTypeMismatch place.location)
  | malformed (diagnostic : Diagnostic) (member : diagnostic ∈ validation.diagnostics)
      (code_eq : diagnostic.code = .malformedArguments)
      (location_eq : diagnostic.location = place.location)
      (wording : mark.IsMalformedBy diagnostic.message)

theorem mem_declarations (place : MemberPlace set) : place.declaration ∈ set.declarations := by
  simp [place.declarations_eq]

theorem mem_members (place : MemberPlace set) : place.member ∈ place.declaration.members := by
  simp [place.members_eq]

theorem mem_input (place : MemberPlace set) (commands : List CommandDescriptor) :
    (place.declaration, place.member) ∈ RuleInput.members ⟨set, commands⟩ := by
  apply List.mem_flatMap_of_mem place.mem_declarations
  exact List.mem_map_of_mem place.mem_members

section Commands

variable (place : MemberPlace set)

theorem commands_withoutType (gives : place.declaration.givesCommand = false) :
    (Extraction.ofSet set).commands = (Extraction.ofSet place.withoutType).commands := by
  have absent : Extraction.command? place.declaration = none := by
    rw [← Option.isNone_iff_eq_none, ← Option.not_isSome, Extraction.isSome_command?, gives]
    rfl
  simp only [Extraction.commands_ofSet_eq_filterMap, place.declarations_eq, withoutType,
    List.filterMap_append, List.filterMap_cons_none absent]

theorem commandOf_trimmed (gives : place.member.givesOption = false) (mark : Annotation) :
    Extraction.commandOf place.declaration mark = Extraction.commandOf place.trimmed mark := by
  have absent : Extraction.memberOption? place.declaration.name place.member = none := by
    rw [← Option.isNone_iff_eq_none, ← Option.not_isSome, Extraction.isSome_memberOption?, gives]
    rfl
  simp only [Extraction.commandOf, place.members_eq, trimmed, List.filterMap_append,
    List.filterMap_cons_none absent]

theorem commands_withoutMember (gives : place.member.givesOption = false) :
    (Extraction.ofSet set).commands = (Extraction.ofSet place.withoutMember).commands := by
  have same : Extraction.command? place.declaration = Extraction.command? place.trimmed := by
    unfold Extraction.command?
    rw [funext (place.commandOf_trimmed gives)]
    rfl
  simp only [Extraction.commands_ofSet_eq_filterMap, place.declarations_eq, withoutMember,
    List.filterMap_append, List.filterMap_cons, same]

end Commands

section Descriptors

variable (place : MemberPlace set)

theorem describes {command option : Annotation}
    (container : place.declaration.commandAnnotation? = some command)
    (usable : Source.isUsable place.declaration.name = true)
    (carries : place.member.optionAnnotation? = some option)
    (bindable : Source.isUsable place.member.name = true) :
    place.Describes (Extraction.ofSet set) (Extraction.commandOf place.declaration command)
      (Extraction.optionOf place.declaration.name place.member option) := by
  have commandGiven : Extraction.command? place.declaration =
      some (Extraction.commandOf place.declaration command) :=
    Extraction.command?_eq_some.mpr ⟨command, container, usable, rfl⟩
  have optionGiven : Extraction.memberOption? place.declaration.name place.member =
      some (Extraction.optionOf place.declaration.name place.member option) :=
    Extraction.memberOption?_eq_some.mpr ⟨option, carries, bindable, rfl⟩
  refine ⟨?_, ?_, rfl, ?_, ?_, rfl⟩
  · rw [Extraction.commands_ofSet_eq_filterMap]
    exact length_filterMap_of_gives Extraction.isSome_command? _
  · rw [Extraction.commands_ofSet_eq_filterMap, place.declarations_eq]
    exact getElem?_filterMap_of_gives Extraction.isSome_command? commandGiven _ _
  · exact length_filterMap_of_gives (Extraction.isSome_memberOption? _) _
  · simp only [Extraction.commandOf, place.members_eq]
    exact getElem?_filterMap_of_gives (Extraction.isSome_memberOption? _) optionGiven _ _

end Descriptors

section Reports

variable (place : MemberPlace set) (severities : SeverityTable)

theorem reports_misplaced (plain : place.declaration.isCommandContainer = false)
    (carries : place.member.hasOption = true) :
    (Validation.ofExtraction set (Extraction.ofSet set) severities).Reports .misplacedOption
      place.location := by
  refine Validation.reports_of_rule 0 rfl
    ⟨_, List.mem_map.mpr ⟨(place.declaration, place.member), ?_, rfl⟩, rfl⟩
  apply List.mem_filter.mpr
  exact ⟨place.mem_input _, by simp [plain, carries]⟩

theorem reports_orphaned (plain : place.member.hasOption = false)
    (constrained : place.member.constraintAnnotations ≠ []) :
    (Validation.ofExtraction set (Extraction.ofSet set) severities).Reports .orphanedConstraint
      place.location := by
  refine Validation.reports_of_rule 1 rfl
    ⟨_, List.mem_map.mpr ⟨(place.declaration, place.member), ?_, rfl⟩, rfl⟩
  apply List.mem_filter.mpr
  exact ⟨place.mem_input _, by simp [plain, constrained]⟩

theorem reports_mismatched {kind : PathKind} {mark : Annotation}
    (constrained : (kind, mark) ∈ place.member.constraintAnnotations)
    (unsuited : place.member.type.shape.pathKind? ≠ some kind) :
    (Validation.ofExtraction set (Extraction.ofSet set) severities).Reports
      .constraintTypeMismatch place.location := by
  refine Validation.reports_of_rule 2 rfl
    ⟨_, List.mem_flatMap_of_mem (place.mem_input _)
      (List.mem_map.mpr ⟨(kind, mark), ?_, rfl⟩), rfl⟩
  apply List.mem_filter.mpr
  exact ⟨constrained, by simpa using unsuited⟩

theorem reports_unusableType (container : place.declaration.isCommandContainer = true)
    (unusable : Source.isUsable place.declaration.name = false) :
    (Validation.ofExtraction set (Extraction.ofSet set) severities).Reports .malformedArguments
      (.ofType place.declaration.name) := by
  rcases Source.identifier_of_not_isUsable unusable with ⟨error, failing⟩
  have found : Diagnostic.mk .malformedArguments .error
      ("type `" ++ place.declaration.name ++ "` cannot name the generated impl: " ++
        error.message) (.ofType place.declaration.name) ∈
      (Extraction.ofSet set).diagnostics := by
    rw [Extraction.diagnostics_ofSet]
    apply List.mem_flatMap_of_mem place.mem_declarations
    rw [Extraction.ofDeclaration_of_unusable container failing]
    exact List.mem_singleton_self _
  exact Validation.reports_of_extraction found

/-- A problem of a member with an option annotation, in a type that gives a command, is among the
diagnostics. -/
theorem mem_diagnostics_of_problem {mark : Annotation} {problem : String}
    (container : place.declaration.isCommandContainer = true)
    (usable : Source.isUsable place.declaration.name = true)
    (carries : place.member.optionAnnotation? = some mark)
    (problems : problem ∈ Extraction.optionProblems place.member mark) :
    ⟨.malformedArguments, .error, problem, place.location⟩ ∈
      (Extraction.ofSet set).diagnostics := by
  rcases Extraction.isCommandContainer_iff.mp container with ⟨command, present⟩
  rw [Extraction.diagnostics_ofSet]
  apply List.mem_flatMap_of_mem place.mem_declarations
  rw [Extraction.ofDeclaration_of_usable present usable]
  apply List.mem_append_right
  apply List.mem_flatMap_of_mem place.mem_members
  unfold Extraction.memberDiagnostics
  rw [show (place.member.annotationsNamed Annotation.optionName).head? = some mark from carries]
  exact List.mem_map_of_mem problems

theorem reports_unusableMember (container : place.declaration.isCommandContainer = true)
    (usable : Source.isUsable place.declaration.name = true)
    (carries : place.member.hasOption = true)
    (unusable : Source.isUsable place.member.name = false) :
    (Validation.ofExtraction set (Extraction.ofSet set) severities).Reports .malformedArguments
      place.location := by
  rw [← Member.isSome_optionAnnotation?] at carries
  rcases Option.isSome_iff_exists.mp carries with ⟨mark, present⟩
  have nonempty : Extraction.fieldProblem place.member ≠ [] := by
    intro empty
    have bindable := Extraction.isEmpty_fieldProblem place.member
    rw [empty, unusable] at bindable
    cases bindable
  rcases List.exists_mem_of_ne_nil _ nonempty with ⟨problem, member⟩
  have listed : problem ∈ Extraction.optionProblems place.member mark :=
    List.mem_append_left _ (List.mem_append_right _ member)
  exact Validation.reports_of_extraction
    (place.mem_diagnostics_of_problem container usable present listed)

end Reports

/-- The fate that the annotations and the names of the member decide. -/
def fate (place : MemberPlace set) : OptionFate :=
  if !place.declaration.isCommandContainer then .misplaced
  else if !Source.isUsable place.declaration.name then .unusableType
  else if !Source.isUsable place.member.name then .unusableMember
  else .described

theorem eq_fate_of_hasFate {place : MemberPlace set} {extraction : Extraction}
    {validation : Validation} {fate : OptionFate}
    (holds : place.HasFate extraction validation fate) : fate = place.fate := by
  cases fate with
  | misplaced => simp [MemberPlace.fate, holds.1]
  | unusableType => simp [MemberPlace.fate, holds.1, holds.2.1]
  | unusableMember => simp [MemberPlace.fate, holds.1, holds.2.1, holds.2.2.1]
  | described => simp [MemberPlace.fate, holds.1, holds.2.1, holds.2.2.1]

theorem hasFate_fate (place : MemberPlace set) (severities : SeverityTable)
    (carries : place.member.hasOption = true) :
    place.HasFate (Extraction.ofSet set)
      (Validation.ofExtraction set (Extraction.ofSet set) severities) place.fate := by
  unfold fate
  cases container : place.declaration.isCommandContainer with
  | false =>
      refine ⟨container, ?_, place.reports_misplaced severities container carries⟩
      apply commands_withoutType
      simp [TypeDeclaration.givesCommand, container]
  | true =>
      cases usable : Source.isUsable place.declaration.name with
      | false =>
          refine ⟨container, usable, ?_,
            place.reports_unusableType severities container usable⟩
          apply commands_withoutType
          simp [TypeDeclaration.givesCommand, usable]
      | true =>
          cases bindable : Source.isUsable place.member.name with
          | false =>
              refine ⟨container, usable, bindable, ?_,
                place.reports_unusableMember severities container usable carries bindable⟩
              apply commands_withoutMember
              simp [Member.givesOption, bindable]
          | true =>
              rcases Extraction.isCommandContainer_iff.mp container with ⟨command, present⟩
              rw [← Member.isSome_optionAnnotation?] at carries
              rcases Option.isSome_iff_exists.mp carries with ⟨option, carried⟩
              exact ⟨container, usable, bindable, _, _,
                place.describes present usable carried bindable⟩

section Constraints

variable (place : MemberPlace set) (severities : SeverityTable)

theorem constraintAnnotations_eq {before after : List Annotation} {mark : Annotation}
    {kind : PathKind} (annotations_eq : place.member.annotations = before ++ mark :: after)
    (named : PathKind.ofAnnotationName? mark.name = some kind) :
    place.member.constraintAnnotations =
      before.filterMap (fun mark => (PathKind.ofAnnotationName? mark.name).map (·, mark)) ++
        (kind, mark) ::
          after.filterMap fun mark => (PathKind.ofAnnotationName? mark.name).map (·, mark) := by
  unfold Member.constraintAnnotations
  rw [annotations_eq, List.filterMap_append, List.filterMap_cons_some]
  simp [named]

/-- A constraint that suits the values of a described member is attached or is malformed. -/
theorem attaches_or_malformed {before after : List Annotation} {mark option command : Annotation}
    {kind : PathKind} (annotations_eq : place.member.annotations = before ++ mark :: after)
    (named : PathKind.ofAnnotationName? mark.name = some kind)
    (container : place.declaration.commandAnnotation? = some command)
    (usable : Source.isUsable place.declaration.name = true)
    (carries : place.member.optionAnnotation? = some option)
    (bindable : Source.isUsable place.member.name = true)
    (suits : place.member.type.shape.pathKind? = some kind) :
    ((∀ other ∈ before, PathKind.ofAnnotationName? other.name ≠ some kind) ∧
        place.Attaches (Extraction.ofSet set) kind mark.statedMode) ∨
      place.ReportsLoss (Validation.ofExtraction set (Extraction.ofSet set) severities) kind
        mark := by
  have constraints := place.constraintAnnotations_eq annotations_eq named
  rw [← BackingType.pathKind?_classify] at suits
  rcases Extraction.ConstraintReading.attached_or_problem constraints named suits with
    ⟨first, constraint, attached, stated⟩ | ⟨problem, member, wording⟩
  · left
    refine ⟨?_, _, _, place.describes container usable carries bindable, constraint, attached,
      stated⟩
    intro other earlier same
    apply first
    simp only [List.mem_map, List.mem_filterMap]
    exact ⟨(kind, other), ⟨other, earlier, by simp [same]⟩, rfl⟩
  · right
    have listed : problem ∈ Extraction.optionProblems place.member option :=
      List.mem_append_right _ member
    have reported := place.mem_diagnostics_of_problem
      (Extraction.isCommandContainer_iff.mpr ⟨command, container⟩) usable carries listed
    exact .malformed _ (Validation.resolved_mem reported) rfl rfl wording

theorem attaches_or_reportsLoss {before after : List Annotation} {mark : Annotation}
    {kind : PathKind} (annotations_eq : place.member.annotations = before ++ mark :: after)
    (named : PathKind.ofAnnotationName? mark.name = some kind) :
    ((∀ other ∈ before, PathKind.ofAnnotationName? other.name ≠ some kind) ∧
        place.Attaches (Extraction.ofSet set) kind mark.statedMode) ∨
      place.ReportsLoss (Validation.ofExtraction set (Extraction.ofSet set) severities) kind
        mark := by
  have constrained : (kind, mark) ∈ place.member.constraintAnnotations := by
    rw [place.constraintAnnotations_eq annotations_eq named]
    simp
  cases carries : place.member.hasOption with
  | false =>
      right
      exact .orphaned carries
        (place.reports_orphaned severities carries (List.ne_nil_of_mem constrained))
  | true =>
      have holds := place.hasFate_fate severities carries
      generalize place.fate = fate at holds
      cases fate with
      | misplaced =>
          rcases holds with ⟨plain, _, reported⟩
          exact .inr (.misplaced plain reported)
      | unusableType =>
          rcases holds with ⟨_, unusable, _, reported⟩
          exact .inr (.unusableType unusable reported)
      | unusableMember =>
          rcases holds with ⟨_, _, unusable, _, reported⟩
          exact .inr (.unusableMember unusable reported)
      | described =>
          rcases holds with ⟨container, usable, bindable, _⟩
          by_cases suits : place.member.type.shape.pathKind? = some kind
          · rw [← Member.isSome_optionAnnotation?] at carries
            rcases Option.isSome_iff_exists.mp carries with ⟨option, carried⟩
            rcases Extraction.isCommandContainer_iff.mp container with ⟨command, present⟩
            exact place.attaches_or_malformed severities annotations_eq named present usable
              carried bindable suits
          · right
            exact .mismatched suits (place.reports_mismatched severities constrained suits)

end Constraints

end MemberPlace

/-- No annotation is lost without a report. A member with an option annotation has exactly one
fate, and a constraint annotation is attached with the mode that it states or is reported. -/
theorem annotations_accounted (set : DeclarationSet) (severities : SeverityTable) :
    ∃ extraction validation,
      extract set .live = .ok extraction ∧
        validate set extraction severities .live = .ok validation ∧
        ∀ place : MemberPlace set,
          (place.member.hasOption = true → ∃! fate, place.HasFate extraction validation fate) ∧
            ∀ before mark after kind, place.member.annotations = before ++ mark :: after →
              PathKind.ofAnnotationName? mark.name = some kind →
                ((∀ other ∈ before, PathKind.ofAnnotationName? other.name ≠ some kind) ∧
                    place.Attaches extraction kind mark.statedMode) ∨
                  place.ReportsLoss validation kind mark := by
  refine ⟨_, _, Extraction.extract_live set, rfl, ?_⟩
  intro place
  constructor
  · intro carries
    refine ⟨place.fate, place.hasFate_fate severities carries, ?_⟩
    intro fate holds
    exact MemberPlace.eq_fate_of_hasFate holds
  · intro before mark after kind annotations_eq named
    exact place.attaches_or_reportsLoss severities annotations_eq named

/-- A set whose only member carries a constraint that states a mode, and repeats it without one. -/
def repeatedSet : DeclarationSet :=
  ⟨[⟨"Options", [⟨"command", []⟩],
    [⟨"out", ⟨.directory, false, false, none⟩,
      [⟨"option", [⟨none, .string "--out"⟩]⟩,
        ⟨"directory", [⟨some "mode", .string "CreateIfMissing"⟩]⟩,
        ⟨"directory", []⟩]⟩]⟩]⟩

/-- The place of the only member. -/
def repeatedPlace : MemberPlace repeatedSet :=
  ⟨[], _, [], [], _, [], rfl, rfl⟩

/-- The repetition is reported, since the first constraint of its kind stands before it. -/
theorem annotations_accounted_repeatedSet :
    repeatedPlace.member.hasOption = true ∧
      ∃ extraction validation,
        extract repeatedSet .live = .ok extraction ∧
          validate repeatedSet extraction .empty .live = .ok validation ∧
          (∃! fate, repeatedPlace.HasFate extraction validation fate) ∧
          repeatedPlace.ReportsLoss validation .directory ⟨"directory", []⟩ := by
  rcases annotations_accounted repeatedSet .empty with
    ⟨extraction, validation, extracted, validated, accounted⟩
  have carries : repeatedPlace.member.hasOption = true := by decide
  refine ⟨carries, extraction, validation, extracted, validated,
    (accounted repeatedPlace).1 carries, ?_⟩
  rcases (accounted repeatedPlace).2 (repeatedPlace.member.annotations.take 2) ⟨"directory", []⟩
    [] .directory rfl rfl with ⟨first, _⟩ | lost
  · exact absurd rfl
      (first ⟨"directory", [⟨some "mode", .string "CreateIfMissing"⟩]⟩ (by decide))
  · exact lost

end OptionCompiler
