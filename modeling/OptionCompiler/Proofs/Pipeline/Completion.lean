import Mathlib
import OptionCompiler.Input
import OptionCompiler.Proofs.Emission.Checks
import OptionCompiler.Proofs.Pipeline.Course
import OptionCompiler.Proofs.Pipeline.Stages
/-!
# When a run completes

Findings about the input are diagnostics, and what extraction lets through is meant to be
rendered. It is, with one exception: nothing but emission looks at the element type that a member
declares, so an option with an element type made of blanks alone is extracted without a
diagnostic, and fails the whole run unless another finding happens to block it.
-/

namespace OptionCompiler

namespace Pipeline

/-- An option with an element type made of blanks alone that no diagnostic blocks. -/
structure RejectedMember (configuration : Configuration) (set : DeclarationSet)
    (declaration : TypeDeclaration) (member : Member) : Prop where
  declared : declaration ∈ set.declarations
  belongs : member ∈ declaration.members
  givesCommand : declaration.givesCommand = true
  givesOption : member.givesOption = true
  blank : ∃ element, member.type.element = some element ∧ (Text.trim element).isEmpty = true
  unblocked : (uncachedValidation configuration set).blockedMembers.codes?
    (.ofMember declaration.name member.name) = none

section Rejection

variable {configuration : Configuration} {set : DeclarationSet}

theorem hasBlankElement_optionOf (typeName : String) (member : Member) (mark : Annotation) :
    (Extraction.optionOf typeName member mark).hasBlankElement = true ↔
      ∃ element, member.type.element = some element ∧ (Text.trim element).isEmpty = true := by
  change (Text.trim member.type.elementType).isEmpty = true ↔ _
  unfold DeclaredType.elementType
  cases member.type.element with
  | some element => simp
  | none =>
      have visible : (Text.trim member.type.shape.defaultElement).isEmpty = false := by
        cases member.type.shape <;> decide
      simp [visible]

/-- The options that emission rejects are those of the rejected members. -/
theorem rejectedMember_of_rejects {command : CommandDescriptor} {option : OptionDescriptor}
    (commandMember : command ∈ (Extraction.ofSet set).commands)
    (optionMember : option ∈ command.options)
    (rejects : Emission.Rejects (uncachedValidation configuration set).blockedMembers option) :
    ∃ declaration member, RejectedMember configuration set declaration member ∧
      option.location = .ofMember declaration.name member.name := by
  rcases Extraction.mem_commands_ofSet.mp commandMember with
    ⟨declaration, declared, mark, present, usable, rfl⟩
  rcases Extraction.mem_options_commandOf.mp optionMember with
    ⟨member, belongs, optionMark, optionPresent, optionUsable, rfl⟩
  refine ⟨declaration, member, ⟨declared, belongs, ?_, ?_, ?_, rejects.1⟩, rfl⟩
  · simp [TypeDeclaration.givesCommand, TypeDeclaration.isCommandContainer, present, usable]
  · simp [Member.givesOption, ← Member.isSome_optionAnnotation?, optionPresent, optionUsable]
  · exact (hasBlankElement_optionOf _ _ _).mp rejects.2

theorem rejects_of_rejectedMember {declaration : TypeDeclaration} {member : Member}
    (rejected : RejectedMember configuration set declaration member) :
    ∃ command ∈ (Extraction.ofSet set).commands, ∃ option ∈ command.options,
      Emission.Rejects (uncachedValidation configuration set).blockedMembers option := by
  rcases Bool.and_eq_true_iff.mp rejected.givesCommand with ⟨container, usable⟩
  rcases Bool.and_eq_true_iff.mp rejected.givesOption with ⟨hasOption, optionUsable⟩
  rcases Extraction.isCommandContainer_iff.mp container with ⟨mark, present⟩
  rw [← Member.isSome_optionAnnotation?] at hasOption
  rcases Option.isSome_iff_exists.mp hasOption with ⟨optionMark, optionPresent⟩
  refine ⟨Extraction.commandOf declaration mark, ?_,
    Extraction.optionOf declaration.name member optionMark, ?_, rejected.unblocked, ?_⟩
  · exact Extraction.mem_commands_ofSet.mpr
      ⟨declaration, rejected.declared, mark, present, usable, rfl⟩
  · exact Extraction.mem_options_commandOf.mpr
      ⟨member, rejected.belongs, optionMark, optionPresent, optionUsable, rfl⟩
  · exact (hasBlankElement_optionOf _ _ _).mpr rejected.blank

end Rejection

section Outcome

variable (configuration : Configuration) (set : DeclarationSet)

/-- A live run on a pipeline that was never used comes down to its emission. -/
theorem run_fresh :
    ((ofConfiguration configuration).run set .live).1 =
      (emitAll (Extraction.ofSet set).commands
          (uncachedValidation configuration set).blockedMembers configuration.emit .live
          .empty).1.map fun source =>
        ⟨.ofSet set, uncachedValidation configuration set, source,
          ⟨.computed, .computed, .computed⟩⟩ := by
  have validated : validate set (.ofSet set) configuration.severity .live =
      .ok (uncachedValidation configuration set) := rfl
  simp only [run, runExtraction, runValidation, runEmission, StageCache.fetch,
    StageCache.fetchWith, ofConfiguration, StageCache.get?_empty, Extraction.extract_live,
    validated]
  generalize emitAll _ _ _ _ _ = emitted
  rcases emitted with ⟨error | source, fragments⟩
  · rfl
  · rfl

theorem renderMessages_fresh_subset :
    renderMessages (uncachedValidation configuration set).blockedMembers configuration.emit
        (Extraction.ofSet set).commands .live .empty ⊆
      runMessages (ofConfiguration configuration) set .live := by
  have validated : validate set (.ofSet set) configuration.severity .live =
      .ok (uncachedValidation configuration set) := rfl
  simp only [runMessages, emissionMessages, runExtraction, runValidation, StageCache.fetch,
    StageCache.fetchWith, ofConfiguration, StageCache.get?_empty, Extraction.extract_live,
    validated]
  intro message member
  simp [member]

variable {configuration set}

/-- Emission on a pipeline that was never used is the uncached emission. -/
theorem emitAll_fresh
    (free : Sha256.CollisionFree (runMessages (ofConfiguration configuration) set .live)) :
    (emitAll (Extraction.ofSet set).commands
        (uncachedValidation configuration set).blockedMembers configuration.emit .live .empty).1 =
      emit (Extraction.ofSet set).commands
        (uncachedValidation configuration set).blockedMembers configuration.emit .live :=
  (emitAll_spec free (fun _ member => Extraction.isLocal_of_mem_ofSet member) _ .live
    StageCache.faithful_empty (renderMessages_fresh_subset configuration set)).1.eq_of_live

/-- A live run that fails on a pipeline that was never used fails about a rejected member. -/
theorem rejectedMember_of_run_fresh {error : RunError}
    (fails : ((ofConfiguration configuration).run set .live).1 = .error error) :
    ∃ declaration member, RejectedMember configuration set declaration member ∧
      error = .invariant (Location.ofMember declaration.name member.name).label
        "element type is empty" := by
  rw [run_fresh] at fails
  have emissionFails := error_of_map_error fails
  rcases emitAll_fails (Prod.ext emissionFails rfl) with
    ⟨earlier, command, later, commands, asked | renders, _⟩
  · cases asked
  have commandMember : command ∈ (Extraction.ofSet set).commands := by simp [commands]
  rw [Emission.renderCommand_ofType (Extraction.isLocal_of_mem_ofSet commandMember)] at renders
  rcases Extraction.wellFormed_of_mem_ofSet commandMember with ⟨usable, wellFormed⟩
  have outcome := Emission.renderCommand_of_wellFormed usable wellFormed
    (uncachedValidation configuration set).blockedMembers configuration.emit
  rw [renders] at outcome
  rcases outcome with ⟨option, optionMember, rejects, rfl⟩
  rcases rejectedMember_of_rejects commandMember optionMember rejects with
    ⟨declaration, member, rejected, location⟩
  refine ⟨declaration, member, rejected, ?_⟩
  rw [Emission.blankElementError, location]

/-- A rejected member fails every live run on a pipeline that was never used. -/
theorem run_fresh_of_rejectedMember
    (free : Sha256.CollisionFree (runMessages (ofConfiguration configuration) set .live))
    {declaration : TypeDeclaration} {member : Member}
    (rejected : RejectedMember configuration set declaration member) :
    ∃ error, ((ofConfiguration configuration).run set .live).1 = .error error := by
  rw [run_fresh, emitAll_fresh free, Emission.emit_eq_mapM]
  rcases rejects_of_rejectedMember rejected with
    ⟨command, commandMember, option, optionMember, rejects⟩
  rcases Extraction.wellFormed_of_mem_ofSet commandMember with ⟨usable, wellFormed⟩
  cases rendered : (Extraction.ofSet set).commands.mapM fun command =>
      Emission.renderCommand command (uncachedValidation configuration set).blockedMembers
        configuration.emit with
  | error error => exact ⟨error, rfl⟩
  | ok texts =>
      rcases exists_right_of_forall₂ (mapM_eq_ok_iff.mp rendered) commandMember with
        ⟨text, _, renders⟩
      have accepts := Emission.renderCommand_of_wellFormed usable wellFormed
        (uncachedValidation configuration set).blockedMembers configuration.emit
      rw [renders] at accepts
      exact absurd rejects (accepts option optionMember)

/-- A live run on a pipeline that was never used completes exactly when no member is rejected;
when it fails, it fails about one of the rejected members. -/
theorem run_fresh_outcome (configuration : Configuration) (set : DeclarationSet) :
    ((¬∃ declaration member, RejectedMember configuration set declaration member) →
        ∃ output, ((ofConfiguration configuration).run set .live).1 = .ok output) ∧
      (∀ error, ((ofConfiguration configuration).run set .live).1 = .error error →
        ∃ declaration member, RejectedMember configuration set declaration member ∧
          error = .invariant (Location.ofMember declaration.name member.name).label
            "element type is empty") ∧
      (Sha256.CollisionFree (runMessages (ofConfiguration configuration) set .live) →
        (∃ declaration member, RejectedMember configuration set declaration member) →
          ∃ error, ((ofConfiguration configuration).run set .live).1 = .error error) := by
  refine ⟨?_, ?_, ?_⟩
  · intro none
    cases outcome : ((ofConfiguration configuration).run set .live).1 with
    | ok output => exact ⟨output, rfl⟩
    | error error =>
        rcases rejectedMember_of_run_fresh outcome with ⟨declaration, member, rejected, _⟩
        exact absurd ⟨declaration, member, rejected⟩ none
  · intro error fails
    exact rejectedMember_of_run_fresh fails
  · rintro free ⟨declaration, member, rejected⟩
    exact run_fresh_of_rejectedMember free rejected

/-- A command whose only option has a blank for its element type. -/
def blankElementSet : DeclarationSet :=
  ⟨[⟨"Options", [⟨"command", []⟩],
    [⟨"out", ⟨.text, false, false, some " "⟩, [⟨"option", [⟨none, .string "--out"⟩]⟩]⟩]⟩]⟩

/-- Under the configuration of an empty text, a blank element type fails the run. -/
theorem run_blankElementSet :
    Configuration.ofText "" = .ok .standard ∧
      ((ofConfiguration .standard).run blankElementSet .live).1 =
        .error (.invariant "Options.out" "element type is empty") := by
  refine ⟨?_, rfl⟩
  decide +kernel

theorem collisionFree_blankElementSet :
    Sha256.CollisionFree (runMessages (ofConfiguration .standard) blankElementSet .live) :=
  Sha256.collisionFree_of_nodup (by decide +kernel)

theorem run_fresh_outcome_blankElementSet :
    ((ofConfiguration .standard).run blankElementSet .live).1 =
        .error (.invariant "Options.out" "element type is empty") ∧
      (∃ declaration member, RejectedMember .standard blankElementSet declaration member) ∧
      Sha256.CollisionFree (runMessages (ofConfiguration .standard) blankElementSet .live) ∧
      ∃ error, ((ofConfiguration .standard).run blankElementSet .live).1 = .error error := by
  have fails : ((ofConfiguration .standard).run blankElementSet .live).1 =
      .error (.invariant "Options.out" "element type is empty") := rfl
  have free := collisionFree_blankElementSet
  rcases run_fresh_outcome .standard blankElementSet with ⟨_, rejects, refuses⟩
  rcases rejects _ fails with ⟨declaration, member, rejected, _⟩
  have refused := refuses free ⟨declaration, member, rejected⟩
  exact ⟨fails, ⟨declaration, member, rejected⟩, free, refused⟩

end Outcome

end Pipeline

end OptionCompiler
