import Mathlib
import OptionCompiler.Extraction
/-!
# The tree that extraction makes

The commands and the diagnostics of a set are those of its type declarations, one after the
other. A type gives a command when it is a container with a usable name, and a member gives an
option when it has an option annotation and a usable name. A name is usable when it has a
spelling as an identifier.

Interruption never changes a result: an extraction that ends is the whole one.
-/

namespace OptionCompiler

theorem exists_ok_of_isOk {ε α : Type} {result : Except ε α} (succeeds : result.isOk = true) :
    ∃ value, result = .ok value := by
  cases result with
  | ok value => exact ⟨value, rfl⟩
  | error error => cases succeeds

/-- Whether a name has a spelling as an identifier. -/
def Source.isUsable (name : String) : Bool :=
  (Source.identifier name).isOk

theorem Source.identifier_of_isUsable {name : String} (usable : Source.isUsable name = true) :
    ∃ spelled, Source.identifier name = .ok spelled :=
  exists_ok_of_isOk usable

theorem Source.identifier_of_not_isUsable {name : String}
    (unusable : Source.isUsable name = false) :
    ∃ error, Source.identifier name = .error error := by
  unfold Source.isUsable at unusable
  cases spelling : Source.identifier name with
  | ok spelled => simp [spelling, Except.isOk, Except.toBool] at unusable
  | error error => exact ⟨error, rfl⟩

namespace TypeDeclaration

def givesCommand (declaration : TypeDeclaration) : Bool :=
  declaration.isCommandContainer && Source.isUsable declaration.name

end TypeDeclaration

namespace Member

/-- The first option annotation of the member. -/
def optionAnnotation? (member : Member) : Option Annotation :=
  (member.annotationsNamed Annotation.optionName).head?

theorem isSome_optionAnnotation? (member : Member) :
    member.optionAnnotation?.isSome = member.hasOption := by
  unfold optionAnnotation? hasOption
  cases member.annotationsNamed Annotation.optionName <;> rfl

/-- Whether the member gives an option, in a type that gives a command. -/
def givesOption (member : Member) : Bool :=
  member.hasOption && Source.isUsable member.name

end Member

namespace CommandDescriptor

/-- Every option stands in the type of its command. -/
def IsLocal (command : CommandDescriptor) : Prop :=
  ∀ option ∈ command.options, option.location.typeName = command.typeName

end CommandDescriptor

namespace Extraction

section Sets

/-- What is extracted from a set is what its types give, one after another. -/
theorem ofSet_eq (set : DeclarationSet) :
    ofSet set =
      ⟨set.declarations.flatMap fun declaration => (ofDeclaration declaration).commands,
        set.declarations.flatMap fun declaration => (ofDeclaration declaration).diagnostics⟩ := by
  rcases set with ⟨declarations⟩
  unfold ofSet
  induction declarations with
  | nil => rfl
  | cons declaration declarations ih =>
      simp only [List.map_cons, List.foldr_cons, List.flatMap_cons] at ih ⊢
      rw [ih, append]

theorem commands_ofSet (set : DeclarationSet) :
    (ofSet set).commands =
      set.declarations.flatMap fun declaration => (ofDeclaration declaration).commands := by
  rw [ofSet_eq]

theorem diagnostics_ofSet (set : DeclarationSet) :
    (ofSet set).diagnostics =
      set.declarations.flatMap fun declaration => (ofDeclaration declaration).diagnostics := by
  rw [ofSet_eq]

@[simp]
theorem extract_live (set : DeclarationSet) : extract set .live = .ok (ofSet set) := by
  unfold extract
  split <;> rfl

theorem eq_ofSet_of_extract {set : DeclarationSet} {token : Token} {extraction : Extraction}
    (ends : extract set token = .ok extraction) : extraction = ofSet set := by
  unfold extract at ends
  cases token with
  | live => split at ends <;> (cases ends; rfl)
  | cancelled =>
      split at ends
      · cases ends
      · cases ends
        rfl

theorem cancelled_of_extract {set : DeclarationSet} {token : Token} {error : RunError}
    (fails : extract set token = .error error) : error = .cancelled ∧ token = .cancelled := by
  unfold extract at fails
  cases token with
  | live => split at fails <;> cases fails
  | cancelled =>
      split at fails
      · cases fails
        exact ⟨rfl, rfl⟩
      · cases fails

end Sets

section Declarations

variable {declaration : TypeDeclaration}

theorem isCommandContainer_iff :
    declaration.isCommandContainer = true ↔ ∃ mark, declaration.commandAnnotation? = some mark :=
  Option.isSome_iff_exists

theorem ofDeclaration_of_unusable {error : Source.SpellingError}
    (container : declaration.isCommandContainer = true)
    (unusable : Source.identifier declaration.name = .error error) :
    ofDeclaration declaration = ⟨[], typeNameDiagnostics declaration error⟩ := by
  rcases isCommandContainer_iff.mp container with ⟨mark, present⟩
  simp only [ofDeclaration, present, unusable]

theorem ofDeclaration_of_usable {mark : Annotation}
    (present : declaration.commandAnnotation? = some mark)
    (usable : Source.isUsable declaration.name = true) :
    ofDeclaration declaration =
      ⟨[commandOf declaration mark], commandDiagnostics declaration mark⟩ := by
  rcases Source.identifier_of_isUsable usable with ⟨spelled, spelling⟩
  simp only [ofDeclaration, present, spelling]

/-- The command of a type, if it gives one. -/
def command? (declaration : TypeDeclaration) : Option CommandDescriptor :=
  if Source.isUsable declaration.name then
    declaration.commandAnnotation?.map (commandOf declaration)
  else none

theorem isSome_command? (declaration : TypeDeclaration) :
    (command? declaration).isSome = declaration.givesCommand := by
  unfold command? TypeDeclaration.givesCommand TypeDeclaration.isCommandContainer
  cases Source.isUsable declaration.name <;> simp

theorem commands_ofDeclaration (declaration : TypeDeclaration) :
    (ofDeclaration declaration).commands = (command? declaration).toList := by
  unfold command?
  cases present : declaration.commandAnnotation? with
  | none => simp [ofDeclaration, present]
  | some mark =>
      cases usable : Source.isUsable declaration.name with
      | false =>
          rcases Source.identifier_of_not_isUsable usable with ⟨error, failing⟩
          simp [ofDeclaration, present, failing]
      | true => simp [ofDeclaration_of_usable present usable]

/-- The commands of a set are in the order of the types that give them. -/
theorem commands_ofSet_eq_filterMap (set : DeclarationSet) :
    (ofSet set).commands = set.declarations.filterMap command? := by
  rw [commands_ofSet, List.filterMap_eq_flatMap_toList]
  simp only [commands_ofDeclaration]

theorem command?_eq_some {command : CommandDescriptor} :
    command? declaration = some command ↔
      ∃ mark, declaration.commandAnnotation? = some mark ∧
        Source.isUsable declaration.name = true ∧ command = commandOf declaration mark := by
  unfold command?
  cases Source.isUsable declaration.name with
  | false => simp
  | true => simp [eq_comm]

theorem mem_commands_ofSet {set : DeclarationSet} {command : CommandDescriptor} :
    command ∈ (ofSet set).commands ↔
      ∃ declaration ∈ set.declarations, ∃ mark, declaration.commandAnnotation? = some mark ∧
        Source.isUsable declaration.name = true ∧ command = commandOf declaration mark := by
  simp only [commands_ofSet_eq_filterMap, List.mem_filterMap, command?_eq_some]

end Declarations

section Options

variable {typeName : String} {member : Member}

theorem isEmpty_fieldProblem (member : Member) :
    (fieldProblem member).isEmpty = Source.isUsable member.name := by
  unfold fieldProblem Source.isUsable
  cases Source.identifier member.name <;> rfl

theorem memberOption?_eq_some {option : OptionDescriptor} :
    memberOption? typeName member = some option ↔
      ∃ mark, member.optionAnnotation? = some mark ∧ Source.isUsable member.name = true ∧
        option = optionOf typeName member mark := by
  unfold memberOption? Member.optionAnnotation?
  rw [isEmpty_fieldProblem]
  cases (member.annotationsNamed Annotation.optionName).head? with
  | none => simp
  | some mark =>
      cases Source.isUsable member.name with
      | false => simp
      | true => simp [eq_comm]

theorem isSome_memberOption? (typeName : String) (member : Member) :
    (memberOption? typeName member).isSome = member.givesOption := by
  unfold Member.givesOption
  rw [← Member.isSome_optionAnnotation?, ← isEmpty_fieldProblem]
  unfold memberOption? Member.optionAnnotation?
  split
  · next mark present => cases (fieldProblem member).isEmpty <;> simp [present]
  · next absent => simp [absent]

theorem mem_options_commandOf {declaration : TypeDeclaration} {mark : Annotation}
    {option : OptionDescriptor} :
    option ∈ (commandOf declaration mark).options ↔
      ∃ member ∈ declaration.members, ∃ mark, member.optionAnnotation? = some mark ∧
        Source.isUsable member.name = true ∧ option = optionOf declaration.name member mark := by
  simp only [commandOf, List.mem_filterMap, memberOption?_eq_some]

/-- The options of an extracted command are located at their members. -/
theorem located_of_mem_ofSet {set : DeclarationSet} {command : CommandDescriptor}
    (member : command ∈ (ofSet set).commands) :
    ∀ option ∈ command.options, option.location = .ofMember command.typeName option.member := by
  rcases mem_commands_ofSet.mp member with ⟨declaration, _, mark, _, _, rfl⟩
  intro option optionMember
  rcases mem_options_commandOf.mp optionMember with ⟨member, _, mark, _, _, rfl⟩
  rfl

theorem isLocal_of_mem_ofSet {set : DeclarationSet} {command : CommandDescriptor}
    (member : command ∈ (ofSet set).commands) : command.IsLocal := by
  intro option optionMember
  rw [located_of_mem_ofSet member option optionMember]
  rfl

end Options

end Extraction

end OptionCompiler
