import Mathlib
import OptionCompiler.Emission
import OptionCompiler.Proofs.Emission.Fragments
import OptionCompiler.Proofs.Extraction.Descriptors
import OptionCompiler.Proofs.Validation.Blocked
/-!
# Types do not depend on each other

No stage carries anything from one type to the next. What extraction gives for two sets in a row
is what it gives for the first followed by what it gives for the second, and so is what each rule
finds. The diagnostics of a run are in the order of the rules, so that those of two sets are
interleaved, but for each code they are one after the other.

Every diagnostic stands at a type of its set or at a member of one. When the two sets share no
type name, the members that one set blocks are therefore no members of the other, and each
command is rendered as it is in its own set.
-/

namespace OptionCompiler

section Selection

variable {α β : Type} {give : α → List β} {wanted : β → Bool} {owns : α → Bool}

/-- Each element gives wanted values alone or none at all. -/
theorem filter_flatMap_of_owns
    (agree : ∀ element, (give element).filter wanted = if owns element then give element else [])
    (elements : List α) :
    (elements.flatMap give).filter wanted = (elements.filter owns).flatMap give := by
  induction elements with
  | nil => rfl
  | cons element elements ih =>
      rw [List.flatMap_cons, List.filter_append, ih, agree]
      cases owned : owns element <;> simp [owned]

end Selection

namespace DeclarationSet

/-- The types of one set after those of another. -/
def append (first second : DeclarationSet) : DeclarationSet :=
  ⟨first.declarations ++ second.declarations⟩

/-- No type name occurs in both sets. -/
def Separate (first second : DeclarationSet) : Prop :=
  ∀ declaration ∈ first.declarations, ∀ other ∈ second.declarations,
    declaration.name ≠ other.name

instance (first second : DeclarationSet) : Decidable (first.Separate second) :=
  inferInstanceAs (Decidable (∀ _ ∈ _, ∀ _ ∈ _, _))

theorem Separate.symm {first second : DeclarationSet} (separate : first.Separate second) :
    second.Separate first :=
  fun declaration declared other otherDeclared =>
    (separate other otherDeclared declaration declared).symm

end DeclarationSet

section Rules

theorem Extraction.ofSet_append (first second : DeclarationSet) :
    ofSet (first.append second) = (ofSet first).append (ofSet second) := by
  simp only [ofSet_eq, append, DeclarationSet.append, List.flatMap_append]

namespace RuleInput

/-- One input after another. -/
def append (first second : RuleInput) : RuleInput :=
  ⟨first.declarations.append second.declarations, first.commands ++ second.commands⟩

/-- A set with the commands that extraction gives for it. -/
def ofSet (set : DeclarationSet) : RuleInput :=
  ⟨set, (Extraction.ofSet set).commands⟩

theorem ofSet_append (first second : DeclarationSet) :
    ofSet (first.append second) = (ofSet first).append (ofSet second) := by
  unfold ofSet
  rw [Extraction.ofSet_append]
  rfl

variable (first second : RuleInput)

theorem members_append : (first.append second).members = first.members ++ second.members :=
  List.flatMap_append

theorem options_append : (first.append second).options = first.options ++ second.options :=
  List.flatMap_append

theorem commands_append : (first.append second).commands = first.commands ++ second.commands :=
  rfl

end RuleInput

namespace Rule

/-- No rule carries anything from one type to the next. -/
theorem findings_append {rule : Rule} (known : rule ∈ all) (first second : RuleInput) :
    rule.findings (first.append second) = rule.findings first ++ rule.findings second := by
  simp only [all, List.mem_cons, List.not_mem_nil, or_false] at known
  rcases known with rfl | rfl | rfl | rfl | rfl | rfl | rfl
  · simp [misplacedOption, RuleInput.members_append]
  · simp [orphanedConstraint, RuleInput.members_append]
  · simp [constraintTypeMismatch, RuleInput.members_append]
  · simp [requiredNullable, RuleInput.options_append]
  · simp [arityTypeMismatch, RuleInput.options_append]
  · simp [duplicateFlag, RuleInput.commands_append]
  · simp [invalidFlagSyntax, RuleInput.options_append]

theorem diagnostics_append {rule : Rule} (known : rule ∈ all) (first second : RuleInput)
    (severities : SeverityTable) :
    rule.diagnostics (first.append second) severities =
      rule.diagnostics first severities ++ rule.diagnostics second severities := by
  unfold diagnostics
  rw [findings_append known, List.map_append]

/-- The rules with a code: one, or none for the code of the extraction. -/
theorem filter_code_all (code : DiagnosticCode) :
    code = .malformedArguments ∧ (all.filter fun rule => rule.code = code) = [] ∨
      code ≠ .malformedArguments ∧
        ∃ rule ∈ all, (all.filter fun rule => rule.code = code) = [rule] := by
  cases code
  case malformedArguments => exact .inl ⟨rfl, rfl⟩
  all_goals exact .inr ⟨by decide, _, by simp [all], rfl⟩

end Rule

end Rules

section Places

/-- The location is a type of the set or a member of one. -/
def Location.IsIn (set : DeclarationSet) (location : Location) : Prop :=
  ∃ declaration ∈ set.declarations, location.typeName = declaration.name

variable {set : DeclarationSet}

theorem RuleInput.isIn_of_mem_members {declaration : TypeDeclaration} {member : Member}
    (listed : (declaration, member) ∈ (ofSet set).members) :
    (Location.ofMember declaration.name member.name).IsIn set := by
  rcases List.mem_flatMap.mp listed with ⟨other, declared, paired⟩
  rcases List.mem_map.mp paired with ⟨_, _, same⟩
  cases same
  exact ⟨declaration, declared, rfl⟩

theorem Extraction.isIn_of_mem_ofSet {command : CommandDescriptor}
    (extracted : command ∈ (ofSet set).commands) {option : OptionDescriptor}
    (listed : option ∈ command.options) : option.location.IsIn set := by
  have own := isLocal_of_mem_ofSet extracted option listed
  rcases mem_commands_ofSet.mp extracted with ⟨declaration, declared, _, _, _, rfl⟩
  exact ⟨declaration, declared, own⟩

theorem RuleInput.isIn_of_mem_options {option : OptionDescriptor}
    (listed : option ∈ (ofSet set).options) : option.location.IsIn set := by
  rcases List.mem_flatMap.mp listed with ⟨command, extracted, own⟩
  exact Extraction.isIn_of_mem_ofSet extracted own

namespace Rule

/-- A repeated spelling is found at an option that registers it. -/
theorem location_of_mem_repeatedSpellings {registrations : List (FlagSpelling × OptionDescriptor)}
    {owners : List (FlagSpelling × String)} {finding : Finding}
    (found : finding ∈ repeatedSpellings owners registrations) :
    ∃ registration ∈ registrations, finding.location = registration.2.location := by
  induction registrations generalizing owners with
  | nil => cases found
  | cons registration registrations ih =>
      rcases registration with ⟨spelling, option⟩
      have later {owners : List (FlagSpelling × String)}
          (found : finding ∈ repeatedSpellings owners registrations) :
          ∃ registration ∈ (spelling, option) :: registrations,
            finding.location = registration.2.location := by
        rcases ih found with ⟨registration, listed, here⟩
        exact ⟨registration, List.mem_cons_of_mem _ listed, here⟩
      unfold repeatedSpellings at found
      split at found
      · rcases List.mem_cons.mp found with rfl | found
        · exact ⟨_, List.mem_cons_self, rfl⟩
        · exact later found
      · exact later found

theorem isIn_of_mem_duplicateFlag {finding : Finding}
    (found : finding ∈ duplicateFlag (.ofSet set)) : finding.location.IsIn set := by
  rcases List.mem_flatMap.mp found with ⟨command, extracted, own⟩
  rcases location_of_mem_repeatedSpellings own with ⟨registration, registered, here⟩
  rcases List.mem_flatMap.mp registered with ⟨option, listed, spelled⟩
  rcases List.mem_map.mp spelled with ⟨_, _, rfl⟩
  rw [here]
  exact Extraction.isIn_of_mem_ofSet extracted listed

/-- Rules report at members of the types, or at options, which are members as well. -/
theorem isIn_of_mem_findings {rule : Rule} (known : rule ∈ all) {finding : Finding}
    (found : finding ∈ rule.findings (.ofSet set)) : finding.location.IsIn set := by
  simp only [all, List.mem_cons, List.not_mem_nil, or_false] at known
  rcases known with rfl | rfl | rfl | rfl | rfl | rfl | rfl
  · rcases List.mem_map.mp found with ⟨⟨declaration, member⟩, kept, rfl⟩
    exact RuleInput.isIn_of_mem_members (List.mem_of_mem_filter kept)
  · rcases List.mem_map.mp found with ⟨⟨declaration, member⟩, kept, rfl⟩
    exact RuleInput.isIn_of_mem_members (List.mem_of_mem_filter kept)
  · rcases List.mem_flatMap.mp found with ⟨⟨declaration, member⟩, listed, own⟩
    rcases List.mem_map.mp own with ⟨_, _, rfl⟩
    exact RuleInput.isIn_of_mem_members listed
  · rcases List.mem_map.mp found with ⟨option, kept, rfl⟩
    exact RuleInput.isIn_of_mem_options (List.mem_of_mem_filter kept)
  · rcases List.mem_map.mp found with ⟨option, kept, rfl⟩
    exact RuleInput.isIn_of_mem_options (List.mem_of_mem_filter kept)
  · exact isIn_of_mem_duplicateFlag found
  · rcases List.mem_flatMap.mp found with ⟨option, listed, own⟩
    rcases List.mem_map.mp own with ⟨_, _, rfl⟩
    exact RuleInput.isIn_of_mem_options listed

end Rule

/-- Extraction reports at types with a command annotation and at their members. -/
theorem Extraction.isIn_of_mem_diagnostics {diagnostic : Diagnostic}
    (listed : diagnostic ∈ (ofSet set).diagnostics) : diagnostic.location.IsIn set := by
  rcases concerns_of_mem_ofSet listed with ⟨declaration, declared, _, concerns⟩
  exact ⟨declaration, declared, concerns.typeName_eq⟩

theorem Location.not_isIn_of_separate {other : DeclarationSet} (separate : set.Separate other)
    {location : Location} (inside : location.IsIn set) : ¬location.IsIn other := by
  rintro ⟨declaration, declared, name⟩
  rcases inside with ⟨own, ownDeclared, ownName⟩
  exact separate own ownDeclared declaration declared (ownName.symm.trans name)

end Places

namespace Validation

def ofCode (validation : Validation) (code : DiagnosticCode) : List Diagnostic :=
  validation.diagnostics.filter fun diagnostic => diagnostic.code = code

/-- The validation of a set with the commands that extraction gives for it. -/
def ofSet (set : DeclarationSet) (severities : SeverityTable) : Validation :=
  ofExtraction set (.ofSet set) severities

theorem mem_iff_mem_ofCode {validation : Validation} {diagnostic : Diagnostic} :
    diagnostic ∈ validation.diagnostics ↔ diagnostic ∈ validation.ofCode diagnostic.code := by
  simp [ofCode]

section Codes

variable (set : DeclarationSet) (severities : SeverityTable)

/-- The diagnostics with a code come from the extraction, or from the rules with that code. -/
theorem ofCode_ofSet (code : DiagnosticCode) :
    (ofSet set severities).ofCode code =
      ((Extraction.ofSet set).diagnostics.filter fun diagnostic => diagnostic.code = code).map
          (resolved severities) ++
        (Rule.all.filter fun rule => rule.code = code).flatMap fun rule =>
          rule.diagnostics (.ofSet set) severities := by
  have single (rule : Rule) :
      (rule.diagnostics (.ofSet set) severities).filter
          (fun diagnostic => diagnostic.code = code) =
        if decide (rule.code = code) then rule.diagnostics (.ofSet set) severities else [] := by
    unfold Rule.diagnostics
    by_cases same : rule.code = code <;> simp [same]
  unfold ofCode ofSet ofExtraction
  rw [List.filter_append, List.filter_map]
  exact congrArg _ (filter_flatMap_of_owns single Rule.all)

end Codes

section Joining

variable {first second : DeclarationSet} {severities : SeverityTable}

/-- For each code, the diagnostics of two sets in a row are one after the other. A code belongs to
the extraction or to one rule, so that nothing else comes between them. -/
theorem ofCode_append (code : DiagnosticCode) :
    (ofSet (first.append second) severities).ofCode code =
      (ofSet first severities).ofCode code ++ (ofSet second severities).ofCode code := by
  simp only [ofCode_ofSet]
  rcases Rule.filter_code_all code with ⟨_, none⟩ | ⟨proper, rule, known, only⟩
  · -- No rule has the code of the extraction.
    simp only [none, Extraction.ofSet_append, Extraction.append, List.filter_append,
      List.map_append, List.flatMap_nil, List.append_nil]
  · -- One rule has the code, and the extraction reports nothing with it.
    have unextracted (set : DeclarationSet) :
        ((Extraction.ofSet set).diagnostics.filter fun diagnostic => diagnostic.code = code) =
          [] := by
      apply List.filter_eq_nil_iff.mpr
      intro diagnostic listed
      rcases Extraction.concerns_of_mem_ofSet listed with ⟨_, _, _, concerns⟩
      rw [concerns.code_eq, decide_eq_true_iff]
      exact proper.symm
    simp only [only, unextracted, RuleInput.ofSet_append, Rule.diagnostics_append known,
      List.flatMap_singleton, List.map_nil, List.nil_append]

theorem mem_diagnostics_append {diagnostic : Diagnostic} :
    diagnostic ∈ (ofSet (first.append second) severities).diagnostics ↔
      diagnostic ∈ (ofSet first severities).diagnostics ∨
        diagnostic ∈ (ofSet second severities).diagnostics := by
  simp only [mem_iff_mem_ofCode, ofCode_append, List.mem_append]

theorem isIn_of_mem_diagnostics {set : DeclarationSet} {diagnostic : Diagnostic}
    (listed : diagnostic ∈ (ofSet set severities).diagnostics) :
    diagnostic.location.IsIn set := by
  rcases List.mem_append.mp listed with extracted | found
  · rcases List.mem_map.mp extracted with ⟨original, own, rfl⟩
    exact (Extraction.isIn_of_mem_diagnostics own : original.location.IsIn set)
  · rcases List.mem_flatMap.mp found with ⟨rule, known, own⟩
    rcases List.mem_map.mp own with ⟨finding, reported, rfl⟩
    exact Rule.isIn_of_mem_findings known reported

/-- The diagnostics at the types of one set are all its own when the other shares no type name. -/
theorem mem_diagnostics_append_left (separate : first.Separate second) {diagnostic : Diagnostic}
    (inside : diagnostic.location.IsIn first) :
    diagnostic ∈ (ofSet (first.append second) severities).diagnostics ↔
      diagnostic ∈ (ofSet first severities).diagnostics := by
  rw [mem_diagnostics_append]
  apply or_iff_left
  intro listed
  exact Location.not_isIn_of_separate separate inside (isIn_of_mem_diagnostics listed)

theorem mem_diagnostics_append_right (separate : first.Separate second)
    {diagnostic : Diagnostic} (inside : diagnostic.location.IsIn second) :
    diagnostic ∈ (ofSet (first.append second) severities).diagnostics ↔
      diagnostic ∈ (ofSet second severities).diagnostics := by
  rw [mem_diagnostics_append]
  apply or_iff_right
  intro listed
  exact Location.not_isIn_of_separate separate.symm inside (isIn_of_mem_diagnostics listed)

end Joining

/-- Only the diagnostics at a member decide how it is blocked. -/
theorem codes?_blockedMembers_congr {validation other : Validation} {typeName member : String}
    (agree : ∀ diagnostic, diagnostic.location = .ofMember typeName member →
      (diagnostic ∈ validation.diagnostics ↔ diagnostic ∈ other.diagnostics)) :
    validation.blockedMembers.codes? (.ofMember typeName member) =
      other.blockedMembers.codes? (.ofMember typeName member) := by
  have same : validation.blockingCodes (.ofMember typeName member) =
      other.blockingCodes (.ofMember typeName member) := by
    apply List.filter_congr
    intro code _
    rw [decide_eq_decide]
    constructor
    · rintro ⟨diagnostic, listed, isError, here, coded⟩
      exact ⟨diagnostic, (agree diagnostic here).mp listed, isError, here, coded⟩
    · rintro ⟨diagnostic, listed, isError, here, coded⟩
      exact ⟨diagnostic, (agree diagnostic here).mpr listed, isError, here, coded⟩
  rw [codes?_blockedMembers, codes?_blockedMembers, same]

end Validation

namespace Emission

def fragments (commands : List CommandDescriptor) (blocked : BlockedMembers)
    (options : EmitOptions) : Except RunError (List String) :=
  commands.mapM fun command => renderCommand command blocked options

theorem emit_eq_fragments (commands : List CommandDescriptor) (blocked : BlockedMembers)
    (options : EmitOptions) :
    emit commands blocked options .live =
      (do
        let made ← fragments commands blocked options
        return assemble made options) :=
  rfl

/-- The commands of a set are rendered as they are in its own set when the diagnostics at its
types are its own. -/
theorem renderCommand_eq_of_own {set : DeclarationSet} {severities : SeverityTable}
    {whole : Validation}
    (own : ∀ diagnostic, diagnostic.location.IsIn set →
      (diagnostic ∈ whole.diagnostics ↔
        diagnostic ∈ (Validation.ofSet set severities).diagnostics))
    {command : CommandDescriptor} (extracted : command ∈ (Extraction.ofSet set).commands)
    (options : EmitOptions) :
    renderCommand command whole.blockedMembers options =
      renderCommand command (Validation.ofSet set severities).blockedMembers options := by
  apply renderCommand_congr
  intro option listed
  have inside := Extraction.isIn_of_mem_ofSet extracted listed
  rw [Extraction.located_of_mem_ofSet extracted option listed] at inside ⊢
  apply Validation.codes?_blockedMembers_congr
  intro diagnostic here
  exact own diagnostic (here ▸ inside)

/-- The commands of two extractions in a row are rendered as they are for each alone. -/
structure RendersApart (left right : Extraction) (leftValidation rightValidation whole : Validation)
    (options : EmitOptions) : Prop where
  left_eq : ∀ command ∈ left.commands,
    renderCommand command whole.blockedMembers options =
      renderCommand command leftValidation.blockedMembers options
  right_eq : ∀ command ∈ right.commands,
    renderCommand command whole.blockedMembers options =
      renderCommand command rightValidation.blockedMembers options
  emit_eq : emit (left.append right).commands whole.blockedMembers options .live =
    (do
      let leftFragments ← fragments left.commands leftValidation.blockedMembers options
      let rightFragments ← fragments right.commands rightValidation.blockedMembers options
      return assemble (leftFragments ++ rightFragments) options)

theorem RendersApart.of_commands {left right : Extraction}
    {leftValidation rightValidation whole : Validation} {options : EmitOptions}
    (left_eq : ∀ command ∈ left.commands,
      renderCommand command whole.blockedMembers options =
        renderCommand command leftValidation.blockedMembers options)
    (right_eq : ∀ command ∈ right.commands,
      renderCommand command whole.blockedMembers options =
        renderCommand command rightValidation.blockedMembers options) :
    RendersApart left right leftValidation rightValidation whole options := by
  refine ⟨left_eq, right_eq, ?_⟩
  have leftFragments : fragments left.commands whole.blockedMembers options =
      fragments left.commands leftValidation.blockedMembers options := mapM_congr left_eq
  have rightFragments : fragments right.commands whole.blockedMembers options =
      fragments right.commands rightValidation.blockedMembers options := mapM_congr right_eq
  have joined : fragments (left.append right).commands whole.blockedMembers options =
      (do
        let leftFragments ← fragments left.commands whole.blockedMembers options
        let rightFragments ← fragments right.commands whole.blockedMembers options
        return leftFragments ++ rightFragments) := List.mapM_append
  rw [emit_eq_fragments, joined, leftFragments, rightFragments]
  simp only [bind_assoc, pure_bind]

end Emission

/-- Types are independent: extraction, the findings with each code and, when no type name is
shared, the source of two sets in a row are made of those of each set alone. -/
theorem types_independent (first second : DeclarationSet) (severities : SeverityTable) :
    ∃ left right leftValidation rightValidation whole,
      extract first .live = .ok left ∧
      extract second .live = .ok right ∧
      extract (first.append second) .live = .ok (left.append right) ∧
      validate first left severities .live = .ok leftValidation ∧
      validate second right severities .live = .ok rightValidation ∧
      validate (first.append second) (left.append right) severities .live = .ok whole ∧
      (∀ code, whole.ofCode code = leftValidation.ofCode code ++ rightValidation.ofCode code) ∧
      (first.Separate second → ∀ options,
        Emission.RendersApart left right leftValidation rightValidation whole options) := by
  refine ⟨.ofSet first, .ofSet second, .ofSet first severities, .ofSet second severities,
    .ofSet (first.append second) severities, Extraction.extract_live first,
    Extraction.extract_live second, ?_, rfl, rfl, ?_, Validation.ofCode_append, ?_⟩
  · rw [Extraction.extract_live, Extraction.ofSet_append]
  · rw [← Extraction.ofSet_append]
    rfl
  · intro separate options
    apply Emission.RendersApart.of_commands
    · intro command extracted
      apply Emission.renderCommand_eq_of_own _ extracted
      intro diagnostic inside
      exact Validation.mem_diagnostics_append_left separate inside
    · intro command extracted
      apply Emission.renderCommand_eq_of_own _ extracted
      intro diagnostic inside
      exact Validation.mem_diagnostics_append_right separate inside

/-- A type with a member whose option annotation states no flag. -/
def sourceSet : DeclarationSet :=
  ⟨[⟨"Source", [⟨"command", []⟩],
    [⟨"path", ⟨.file, false, false, none⟩, [⟨"option", []⟩]⟩]⟩]⟩

/-- A type with a member of the same name whose option annotation is complete. -/
def targetSet : DeclarationSet :=
  ⟨[⟨"Target", [⟨"command", []⟩],
    [⟨"path", ⟨.file, false, false, none⟩, [⟨"option", [⟨none, .string "--path"⟩]⟩]⟩]⟩]⟩

/-- The member that is blocked in one type blocks no member of its name in the other. -/
theorem types_independent_sourceSet :
    sourceSet.Separate targetSet ∧
      ∃ left right leftValidation rightValidation whole,
        extract (sourceSet.append targetSet) .live = .ok (left.append right) ∧
        validate sourceSet left .empty .live = .ok leftValidation ∧
        validate targetSet right .empty .live = .ok rightValidation ∧
        validate (sourceSet.append targetSet) (left.append right) .empty .live = .ok whole ∧
        leftValidation.hasErrors = true ∧ rightValidation.hasErrors = false ∧
        Emission.RendersApart left right leftValidation rightValidation whole .standard := by
  have separate : sourceSet.Separate targetSet := by decide
  rcases types_independent sourceSet targetSet .empty with
    ⟨left, right, leftValidation, rightValidation, whole, leftExtracted, rightExtracted, extracted,
      leftValidated, rightValidated, validated, _, apart⟩
  refine ⟨separate, left, right, leftValidation, rightValidation, whole, extracted, leftValidated,
    rightValidated, validated, ?_, ?_, apart separate .standard⟩
  · cases leftExtracted
    cases leftValidated
    decide
  · cases rightExtracted
    cases rightValidated
    decide

end OptionCompiler
