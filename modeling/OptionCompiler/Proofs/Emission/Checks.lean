import Mathlib
import OptionCompiler.Proofs.Emission.Fragments
import OptionCompiler.Proofs.Extraction.Constraints
import OptionCompiler.Proofs.Source.Spelling
/-!
# What emission checks

Emission checks each option that it renders, and spells names and comments. Extraction
establishes all of this but one thing: an element type that a declaration spells with blanks
alone gets through extraction and stops the emission.
-/

namespace OptionCompiler

section Lines

/-- Whether a text has no line terminator. -/
def Source.isOneLine (text : String) : Bool :=
  text.toList.all fun c => !Source.isLineTerminator c

theorem Source.isOneLine_append {text other : String} :
    Source.isOneLine (text ++ other) = (Source.isOneLine text && Source.isOneLine other) := by
  simp [Source.isOneLine]

theorem Source.isOneLine_intercalate {separator : String} {texts : List String}
    (separatorLine : Source.isOneLine separator = true)
    (textLines : ∀ text ∈ texts, Source.isOneLine text = true) :
    Source.isOneLine (separator.intercalate texts) = true := by
  induction texts with
  | nil => rfl
  | cons text texts ih =>
      have rest := ih fun later member => textLines later (by simp [member])
      cases texts with
      | nil => simpa using textLines text (by simp)
      | cons next texts =>
          rw [String.intercalate_cons_cons, Source.isOneLine_append, Source.isOneLine_append,
            textLines text (by simp), separatorLine, rest]
          rfl

theorem Source.lineComment_of_isOneLine {text : String} (line : Source.isOneLine text = true) :
    ∃ comment, Source.lineComment text = .ok comment := by
  refine ⟨_, if_neg ?_⟩
  simpa [Source.isOneLine] using line

theorem Source.not_isLineTerminator {c : Char} (part : Source.isIdentifierPart c = true) :
    Source.isLineTerminator c = false := by
  cases terminator : Source.isLineTerminator c with
  | false => rfl
  | true =>
      simp only [Source.isLineTerminator, Bool.or_eq_true, beq_iff_eq] at terminator
      rcases terminator with rfl | rfl
      · exact absurd part (by decide)
      · exact absurd part (by decide)

theorem Source.isIdentifier_of_isUsable {name : String} (usable : Source.isUsable name = true) :
    Source.isIdentifier name = true := by
  unfold Source.isUsable Source.identifier at usable
  split at usable
  · cases usable
  · cases shaped : Source.isIdentifier name with
    | true => rfl
    | false => simp [shaped, Except.isOk, Except.toBool] at usable

theorem Source.isOneLine_of_isUsable {name : String} (usable : Source.isUsable name = true) :
    Source.isOneLine name = true := by
  apply List.all_eq_true.mpr
  intro c member
  have part := Source.isIdentifierPart_of_mem (Source.isIdentifier_of_isUsable usable) c member
  rw [Source.not_isLineTerminator part]
  rfl

theorem DiagnosticCode.isOneLine_name (code : DiagnosticCode) :
    Source.isOneLine code.name = true := by
  cases code <;> decide

namespace Emission

theorem isOneLine_omission {member : String} (usable : Source.isUsable member = true)
    (codes : List DiagnosticCode) : Source.isOneLine (omission member codes) = true := by
  have names : Source.isOneLine (", ".intercalate (codes.map DiagnosticCode.name)) = true := by
    apply Source.isOneLine_intercalate (by decide)
    intro text member
    rcases List.mem_map.mp member with ⟨code, _, rfl⟩
    exact code.isOneLine_name
  have opening : Source.isOneLine "`" = true := by decide
  have middle : Source.isOneLine "` omitted: blocked by " = true := by decide
  rw [omission, Source.isOneLine_append, Source.isOneLine_append, Source.isOneLine_append, names,
    Source.isOneLine_of_isUsable usable, opening, middle]
  rfl

end Emission

end Lines

section WellFormed

/-- What extraction establishes of an option and emission relies on. -/
structure OptionDescriptor.WellFormed (option : OptionDescriptor) : Prop where
  usable : Source.isUsable option.member = true
  classified : ∃ type, option.backingType = .classify type
  suitable : ∀ constraint ∈ option.constraints,
    option.backingType.pathKind? = some constraint.pathKind

theorem Extraction.wellFormed_optionOf {member : Member}
    (usable : Source.isUsable member.name = true) (typeName : String) (mark : Annotation) :
    (Extraction.optionOf typeName member mark).WellFormed :=
  ⟨usable, ⟨member.type, rfl⟩, Extraction.ConstraintReading.pathKind_of_mem_ofMember _ member⟩

theorem Extraction.wellFormed_of_mem_ofSet {set : DeclarationSet} {command : CommandDescriptor}
    (member : command ∈ (Extraction.ofSet set).commands) :
    Source.isUsable command.typeName = true ∧ ∀ option ∈ command.options, option.WellFormed := by
  rcases Extraction.mem_commands_ofSet.mp member with ⟨declaration, _, mark, _, usable, rfl⟩
  refine ⟨usable, ?_⟩
  intro option optionMember
  rcases Extraction.mem_options_commandOf.mp optionMember with ⟨member, _, mark, _, usable, rfl⟩
  exact Extraction.wellFormed_optionOf usable _ mark

/-- Whether the element type is made of blanks alone. -/
def OptionDescriptor.hasBlankElement (option : OptionDescriptor) : Bool :=
  (Text.trim option.elementType).isEmpty

end WellFormed

namespace Emission

section Checks

variable {option : OptionDescriptor}

/-- The error about an element type that is made of blanks alone. -/
def blankElementError (option : OptionDescriptor) : RunError :=
  .invariant option.location.label "element type is empty"

/-- An option that is not blocked and whose element type is made of blanks alone. -/
def Rejects (blocked : BlockedMembers) (option : OptionDescriptor) : Prop :=
  blocked.codes? option.location = none ∧ option.hasBlankElement = true

instance (blocked : BlockedMembers) (option : OptionDescriptor) :
    Decidable (Rejects blocked option) :=
  inferInstanceAs (Decidable (_ ∧ _))

theorem checkBacking_of_classified (classified : ∃ type, option.backingType = .classify type) :
    checkBacking option = .ok () := by
  rcases classified with ⟨⟨shape, nullable, sequence, element⟩, backing⟩
  unfold checkBacking
  rw [backing]
  cases sequence <;> cases nullable <;> cases shape <;> rfl

theorem checkConstraints_of_suitable (constraints : List PathConstraint)
    (suitable : ∀ constraint ∈ constraints,
      option.backingType.pathKind? = some constraint.pathKind) :
    constraints.forM (checkConstraint option) = .ok () := by
  induction constraints with
  | nil => rfl
  | cons constraint constraints ih =>
      have head : checkConstraint option constraint = .ok () :=
        if_pos (suitable constraint (by simp))
      rw [List.forM, head]
      exact ih fun later member => suitable later (by simp [member])

/-- Of all checks, only the one of the element type can fail on an extracted option. -/
theorem checkOption_of_wellFormed (wellFormed : option.WellFormed) :
    checkOption option =
      if option.hasBlankElement then .error (blankElementError option) else .ok () := by
  rw [checkOption, checkBacking_of_classified wellFormed.classified,
    checkConstraints_of_suitable _ wellFormed.suitable]
  unfold checkElement fail OptionDescriptor.hasBlankElement blankElementError
  split <;> rfl

theorem slot_of_rejects {blocked : BlockedMembers} (wellFormed : option.WellFormed)
    (rejects : Rejects blocked option) :
    slot blocked option = .error (blankElementError option) := by
  simp only [slot, rejects.1, checkOption_of_wellFormed wellFormed, rejects.2]
  rfl

/-- A slot holds the option itself or a comment. -/
theorem slot_of_not_rejects {blocked : BlockedMembers} (wellFormed : option.WellFormed)
    (accepts : ¬Rejects blocked option) :
    ∃ made, slot blocked option = .ok made ∧ made.option?.all (· = option) = true := by
  unfold slot
  cases codes : blocked.codes? option.location with
  | some blocking =>
      rcases Source.lineComment_of_isOneLine (isOneLine_omission wellFormed.usable blocking) with
        ⟨comment, spelled⟩
      refine ⟨.omitted comment, ?_, rfl⟩
      simp only [spelled]
      rfl
  | none =>
      have visible : option.hasBlankElement = false := by
        cases blank : option.hasBlankElement with
        | false => rfl
        | true => exact absurd ⟨codes, blank⟩ accepts
      refine ⟨.emitted option, ?_, by simp [Slot.option?]⟩
      simp only [checkOption_of_wellFormed wellFormed, visible]
      rfl

end Checks

section Rendering

variable {command : CommandDescriptor} {blocked : BlockedMembers}

theorem matchesFunction_total (runtime : String) {options : List OptionDescriptor}
    (usable : ∀ option ∈ options, Source.isUsable option.member = true) :
    ∃ steps, matchesFunction runtime options = .ok steps := by
  have outcome := readAll_mapM (bindingSteps runtime) options
  unfold matchesFunction
  generalize options.mapM (bindingSteps runtime) = bindings at outcome ⊢
  cases outcome with
  | success _ values reads => exact ⟨_, rfl⟩
  | failure earlier option later error reads fails =>
      rcases Source.identifier_of_isUsable (usable option (by simp)) with ⟨spelled, spelling⟩
      simp [bindingSteps, spelling, Source.orFail, Except.mapError, Except.map] at fails

/-- The options of the slots that are read from well-formed options are well formed. -/
theorem wellFormed_of_slots {options : List OptionDescriptor} {slots : List Slot}
    (wellFormed : ∀ option ∈ options, option.WellFormed)
    (reads : List.Forall₂ (fun option made => slot blocked option = .ok made) options slots) :
    ∀ option ∈ slots.filterMap Slot.option?, option.WellFormed := by
  induction reads with
  | nil => simp
  | @cons option made options slots head tail ih =>
      have own := wellFormed option (by simp)
      have rest := ih fun later member => wellFormed later (by simp [member])
      have accepts : ¬Rejects blocked option := by
        intro rejects
        rw [slot_of_rejects own rejects] at head
        cases head
      rcases slot_of_not_rejects own accepts with ⟨same, slotIs, holds⟩
      rw [head] at slotIs
      cases slotIs
      intro emitted member
      rw [List.filterMap_cons] at member
      cases held : made.option? with
      | none =>
          rw [held] at member
          exact rest emitted member
      | some present =>
          rw [held] at member holds
          have equal : present = option := by simpa using holds
          rcases List.mem_cons.mp member with rfl | later
          · rw [equal]
            exact own
          · exact rest emitted later

/-- A command of well-formed options is rendered unless one of them is rejected, and then the
first of those is the error. -/
theorem renderCommand_of_wellFormed (usable : Source.isUsable command.typeName = true)
    (wellFormed : ∀ option ∈ command.options, option.WellFormed) (blocked : BlockedMembers)
    (options : EmitOptions) :
    match renderCommand command blocked options with
    | .ok _ => ∀ option ∈ command.options, ¬Rejects blocked option
    | .error error =>
        ∃ option ∈ command.options, Rejects blocked option ∧ error = blankElementError option := by
  rcases Source.identifier_of_isUsable usable with ⟨typeName, spelling⟩
  have named : Source.orFail (Source.identifier command.typeName) = .ok typeName := by
    rw [spelling]
    rfl
  have outcome := readAll_mapM (slot blocked) command.options
  unfold renderCommand
  rw [named]
  simp only [bind, Except.bind]
  generalize command.options.mapM (slot blocked) = slots at outcome ⊢
  generalize command.options = members at outcome wellFormed ⊢
  cases outcome with
  | success _ slots reads =>
      have usableSlots : ∀ option ∈ slots.filterMap Slot.option?,
          Source.isUsable option.member = true :=
        fun option member => (wellFormed_of_slots wellFormed reads option member).usable
      rcases matchesFunction_total options.runtimePath usableSlots with ⟨steps, made⟩
      simp only [made]
      intro option member rejects
      rcases exists_right_of_forall₂ reads member with ⟨made, _, read⟩
      rw [slot_of_rejects (wellFormed option member) rejects] at read
      cases read
  | failure earlier option later error reads fails =>
      refine ⟨option, by simp, ?_⟩
      by_cases rejects : Rejects blocked option
      · rw [slot_of_rejects (wellFormed option (by simp)) rejects] at fails
        cases fails
        exact ⟨rejects, rfl⟩
      · rcases slot_of_not_rejects (wellFormed option (by simp)) rejects with ⟨made, reads, _⟩
        rw [reads] at fails
        cases fails

end Rendering

end Emission

end OptionCompiler
