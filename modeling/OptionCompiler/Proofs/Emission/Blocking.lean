import Mathlib
import OptionCompiler.Proofs.Emission.Checks
import OptionCompiler.Proofs.Emission.Layout
import OptionCompiler.Proofs.Pipeline.Completion
import OptionCompiler.Proofs.Text.LogicalLines
import OptionCompiler.Proofs.Validation.Blocked
/-!
# What blocking takes away

A blocked option gives up its slot to one comment line, which names the member and the codes that
block it. Nothing else of the source depends on it: without the comments the source is the one of
the command that lacks the blocked options.
-/

namespace OptionCompiler

section Comments

/-- Whether the last character of a text is visible. -/
def Text.endsVisibly (text : String) : Bool :=
  text.toList.getLast?.any fun c => !Text.isBlank c

theorem Text.endsVisibly_append {other : String} (ends : Text.endsVisibly other = true)
    (text : String) : Text.endsVisibly (text ++ other) = true := by
  unfold Text.endsVisibly at ends ⊢
  cases last : other.toList.getLast? with
  | none => simp [last] at ends
  | some c =>
      rw [last] at ends
      rw [String.toList_append, List.getLast?_append, last]
      exact ends

/-- Nothing is trimmed off a text that ends visibly. -/
theorem Text.trimEnd_eq_self {text : String} (ends : Text.endsVisibly text = true) :
    Text.trimEnd text = text := by
  apply Text.trimEnd_of_visible
  intro last member
  rw [Text.endsVisibly, Option.mem_def.mp member] at ends
  simpa using ends

theorem DiagnosticCode.endsVisibly_name (code : DiagnosticCode) :
    Text.endsVisibly code.name = true := by
  cases code <;> decide

theorem Text.endsVisibly_intercalate (separator : String) {texts : List String}
    (present : texts ≠ []) (each : ∀ text ∈ texts, Text.endsVisibly text = true) :
    Text.endsVisibly (separator.intercalate texts) = true := by
  induction texts with
  | nil => exact absurd rfl present
  | cons text texts ih =>
      cases texts with
      | nil => simpa using each text (by simp)
      | cons next texts =>
          rw [String.intercalate_cons_cons]
          exact Text.endsVisibly_append
            (ih (by simp) fun later member => each later (by simp [member])) _

end Comments

namespace Emission

/-- The comment in the place of a blocked option. -/
def omissionComment (member : String) (codes : List DiagnosticCode) : String :=
  "// `" ++ member ++ "` omitted: blocked by " ++ ", ".intercalate (codes.map DiagnosticCode.name)

theorem omissionComment_eq (member : String) (codes : List DiagnosticCode) :
    omissionComment member codes = "// " ++ omission member codes := by
  simp only [omission, omissionComment, ← String.append_assoc]
  rfl

theorem isLine_omissionComment {member : String} (usable : Source.isUsable member = true)
    (codes : List DiagnosticCode) : Source.IsLine (omissionComment member codes) := by
  have oneLine := isOneLine_omission usable codes
  rw [omissionComment_eq, Source.isLine_append]
  refine ⟨by decide, ?_⟩
  intro feed
  have terminator := List.all_eq_true.mp oneLine _ feed
  exact absurd terminator (by decide)

theorem lineComment_omission {member : String} (usable : Source.isUsable member = true)
    {codes : List DiagnosticCode} (present : codes ≠ []) :
    Source.lineComment (omission member codes) = .ok (omissionComment member codes) := by
  have names : Text.endsVisibly (", ".intercalate (codes.map DiagnosticCode.name)) = true := by
    apply Text.endsVisibly_intercalate _ (by simpa using present)
    intro text member
    rcases List.mem_map.mp member with ⟨code, _, rfl⟩
    exact code.endsVisibly_name
  have line : (omission member codes).toList.any Source.isLineTerminator = false := by
    simpa [Source.isOneLine] using isOneLine_omission usable codes
  have shown : (omission member codes).isEmpty = false := by
    rw [String.isEmpty_eq_false_iff]
    intro empty
    have chars := congrArg String.toList empty
    simp [omission, String.toList_append] at chars
  have ends : Text.endsVisibly (omission member codes) = true := Text.endsVisibly_append names _
  rw [Source.lineComment, line, Text.trimEnd_eq_self ends, omissionComment_eq]
  simp only [Source.commentLine, shown, Bool.false_eq_true, if_false]
  rfl

/-- What stands in the slot of an option, by the diagnostics at its location. -/
inductive Occupies (validation : Validation) (option : OptionDescriptor) : Entry → Prop
  | registered
      (clear : ∀ diagnostic ∈ validation.diagnostics, diagnostic.isError = true →
        diagnostic.location ≠ option.location) :
      Occupies validation option (.registered (.ofOption option))
  | omitted
      (blocked : ∃ diagnostic ∈ validation.diagnostics, diagnostic.isError = true ∧
        diagnostic.location = option.location)
      (isLine : Source.IsLine
        (omissionComment option.member (validation.blockingCodes option.location))) :
      Occupies validation option
        (.omitted (omissionComment option.member (validation.blockingCodes option.location)))

/-- The layout without the comments in the place of options. -/
def Layout.withoutOmissions (layout : Layout) : Layout :=
  { layout with entries := layout.entries.filter fun entry => entry.registration?.isSome }

def withoutBlocked (blocked : BlockedMembers) (command : CommandDescriptor) : CommandDescriptor :=
  { command with options := unblocked blocked command.options }

section Slots

variable {validation : Validation} {option : OptionDescriptor} {made : Slot}

theorem occupies_of_slot (usable : Source.isUsable option.member = true) {typeName : String}
    (located : option.location = .ofMember typeName option.member)
    (read : slot validation.blockedMembers option = .ok made) :
    Occupies validation option (Entry.ofSlot made) := by
  have found := validation.codes?_blockedMembers typeName option.member
  rw [← located] at found
  by_cases clear : validation.blockingCodes option.location = []
  · rw [if_pos clear] at found
    rw [slot_of_codes_none found read]
    apply Occupies.registered
    intro diagnostic member isError here
    have blocking := Validation.mem_blockingCodes.mpr ⟨diagnostic, member, isError, here, rfl⟩
    rw [clear] at blocking
    cases blocking
  · rw [if_neg clear] at found
    rcases slot_of_codes_some found read with ⟨comment, spelled, rfl⟩
    rw [lineComment_omission usable clear] at spelled
    cases spelled
    rcases List.exists_mem_of_ne_nil _ clear with ⟨code, member⟩
    rcases Validation.mem_blockingCodes.mp member with ⟨diagnostic, present, isError, here, _⟩
    exact .omitted ⟨diagnostic, present, isError, here⟩ (isLine_omissionComment usable _)

theorem checkOption_of_slot {blocked : BlockedMembers}
    (free : blocked.codes? option.location = none) (read : slot blocked option = .ok made) :
    checkOption option = .ok () := by
  unfold slot at read
  rw [free] at read
  cases checked : checkOption option with
  | ok _ => rfl
  | error error =>
      rw [checked] at read
      cases read

/-- An option that passes its checks stands in its slot when nothing is blocked. -/
theorem slot_empty (checked : checkOption option = .ok ()) :
    slot .empty option = .ok (.emitted option) := by
  unfold slot
  have free : BlockedMembers.empty.codes? option.location = none := rfl
  rw [free, checked]
  rfl

end Slots

section Rendering

variable {blocked : BlockedMembers}

/-- The slots of the options that are not blocked, read with nothing blocked. -/
theorem slots_unblocked {options : List OptionDescriptor} {slots : List Slot}
    (reads : List.Forall₂ (fun option made => slot blocked option = .ok made) options slots) :
    List.Forall₂ (fun option made => slot .empty option = .ok made) (unblocked blocked options)
      ((unblocked blocked options).map .emitted) := by
  induction reads with
  | nil => exact .nil
  | @cons option made options slots head _ ih =>
      unfold unblocked at ih ⊢
      rw [List.filter_cons]
      cases found : blocked.codes? option.location with
      | none => exact .cons (slot_empty (checkOption_of_slot found head)) ih
      | some codes => exact ih

/-- Without the comments, the entries are those of the options in the slots. -/
theorem entries_withoutOmissions (slots : List Slot) :
    (slots.map Entry.ofSlot).filter (fun entry => entry.registration?.isSome) =
      ((slots.filterMap Slot.option?).map Slot.emitted).map Entry.ofSlot := by
  induction slots with
  | nil => rfl
  | cons slot slots ih =>
      cases slot with
      | emitted option => exact congrArg (List.cons _) ih
      | omitted comment => exact ih

/-- A rendered command without its comments is the rendered command without its blocked options. -/
theorem renderCommand_withoutBlocked {command : CommandDescriptor} {options : EmitOptions}
    {typeName : String} {slots : List Slot} {fields : List String}
    (named : Source.identifier command.typeName = .ok typeName)
    (reads : List.Forall₂ (fun option made => slot blocked option = .ok made)
      command.options slots)
    (spelled : List.Forall₂ (fun option field => Source.identifier option.member = .ok field)
      (slots.filterMap Slot.option?) fields) :
    renderCommand (withoutBlocked blocked command) .empty options =
      .ok ((Layout.ofCommand command options typeName slots fields).withoutOmissions.text
        options.runtimePath) := by
  have same := options_of_slots reads
  refine renderCommand_eq_ok_iff.mpr
    ⟨typeName, _, fields, named, slots_unblocked reads, ?_, congrArg (Layout.text _) ?_⟩
  · rw [options_emitted, ← same]
    exact spelled
  · simp only [Layout.withoutOmissions, Layout.ofCommand, withoutBlocked,
      entries_withoutOmissions, options_emitted, same]

/-- An option is rendered unless a diagnostic with the severity of errors is at its location;
then a comment takes its slot, and nothing else of the source depends on it. -/
theorem renderCommand_occupied {command : CommandDescriptor} {validation : Validation}
    {options : EmitOptions} {source : String}
    (usable : ∀ option ∈ command.options, Source.isUsable option.member = true)
    (located : ∀ option ∈ command.options,
      option.location = .ofMember command.typeName option.member)
    (rendered : renderCommand command validation.blockedMembers options = .ok source) :
    ∃ layout : Layout, source = layout.text options.runtimePath ∧
      List.Forall₂ (Occupies validation) command.options layout.entries ∧
      renderCommand (withoutBlocked validation.blockedMembers command) .empty options =
        .ok (layout.withoutOmissions.text options.runtimePath) := by
  rcases renderCommand_eq_ok_iff.mp rendered with
    ⟨typeName, slots, fields, named, reads, spelled, text⟩
  refine ⟨_, text, ?_, renderCommand_withoutBlocked named reads spelled⟩
  have each := (List.forall₂_and_left _ _).mpr
    ⟨fun option member => And.intro (usable option member) (located option member), reads⟩
  apply List.forall₂_map_right_iff.mpr
  exact each.imp fun _ _ known => occupies_of_slot known.1.1 known.1.2 known.2

end Rendering

end Emission

section Runs

variable {configuration : Configuration} {set : DeclarationSet} {output : RunOutput}

namespace Pipeline

/-- A cancelled run on a pipeline that was never used fails. -/
theorem run_fresh_cancelled :
    ∃ error, ((ofConfiguration configuration).run set .cancelled).1 = .error error := by
  simp only [run, runExtraction, runValidation, StageCache.fetch, StageCache.fetchWith,
    ofConfiguration, StageCache.get?_empty]
  cases extract set .cancelled with
  | error error => exact ⟨error, rfl⟩
  | ok extraction => exact ⟨.cancelled, rfl⟩

/-- What a completed run on a pipeline that was never used gives. -/
theorem eq_of_run_fresh {token : Token}
    (completes : ((ofConfiguration configuration).run set token).1 = .ok output) :
    token = .live ∧ output.extraction = .ofSet set ∧
      output.validation = uncachedValidation configuration set ∧
      (emitAll (Extraction.ofSet set).commands
          (uncachedValidation configuration set).blockedMembers configuration.emit .live
          .empty).1 = .ok output.source := by
  cases token with
  | cancelled =>
      have fails : ∃ error, ((ofConfiguration configuration).run set .cancelled).1 = .error error :=
        run_fresh_cancelled
      rw [completes] at fails
      rcases fails with ⟨error, same⟩
      cases same
  | live =>
      rw [run_fresh] at completes
      generalize (emitAll _ _ _ _ _).1 = emitted at completes ⊢
      cases emitted with
      | error error => cases completes
      | ok source =>
          cases completes
          exact ⟨rfl, rfl, rfl, rfl⟩

/-- A completed run renders each extracted option unless a diagnostic with the severity of errors
is at its location. In the slot of each other option stands one comment, and without the comments
each command is rendered as it is without its blocked options. -/
theorem run_omits_blocked (configuration : Configuration) (set : DeclarationSet) (token : Token)
    (output : RunOutput)
    (completes : ((ofConfiguration configuration).run set token).1 = .ok output) :
    (∀ command ∈ output.extraction.commands, ∀ source,
        Emission.renderCommand command output.validation.blockedMembers configuration.emit =
            .ok source →
          ∃ layout : Emission.Layout, source = layout.text configuration.emit.runtimePath ∧
            List.Forall₂ (Emission.Occupies output.validation) command.options layout.entries ∧
            Emission.renderCommand
                (Emission.withoutBlocked output.validation.blockedMembers command) .empty
                configuration.emit =
              .ok (layout.withoutOmissions.text configuration.emit.runtimePath)) ∧
      (Sha256.CollisionFree (runMessages (ofConfiguration configuration) set token) →
        ∃ sources,
          List.Forall₂
              (fun command source =>
                Emission.renderCommand command output.validation.blockedMembers
                  configuration.emit = .ok source)
              output.extraction.commands sources ∧
            output.source = Emission.assemble sources configuration.emit) := by
  rcases eq_of_run_fresh completes with ⟨rfl, extraction, validation, emitted⟩
  rw [extraction, validation]
  constructor
  · intro command member source rendered
    exact Emission.renderCommand_occupied
      (fun option optionMember => ((Extraction.wellFormed_of_mem_ofSet member).2 option
        optionMember).usable)
      (Extraction.located_of_mem_ofSet member) rendered
  · intro free
    have isLocal : ∀ command ∈ (Extraction.ofSet set).commands, command.IsLocal :=
      fun command member => Extraction.isLocal_of_mem_ofSet member
    have direct := (emitAll_spec free isLocal
      (uncachedValidation configuration set).blockedMembers .live StageCache.faithful_empty
      (renderMessages_fresh_subset configuration set)).1.eq_of_live
    have unfolded : emit (Extraction.ofSet set).commands
        (uncachedValidation configuration set).blockedMembers configuration.emit .live =
        ((Extraction.ofSet set).commands.mapM fun command =>
          Emission.renderCommand command (uncachedValidation configuration set).blockedMembers
            configuration.emit).map fun sources =>
          Emission.assemble sources configuration.emit := rfl
    rw [direct, unfolded] at emitted
    cases rendered : (Extraction.ofSet set).commands.mapM fun command =>
        Emission.renderCommand command (uncachedValidation configuration set).blockedMembers
          configuration.emit with
    | error error =>
        rw [rendered] at emitted
        cases emitted
    | ok sources =>
        rw [rendered] at emitted
        exact ⟨sources, mapM_eq_ok_iff.mp rendered, (Except.ok.inj emitted).symm⟩

/-- A command with an option whose aliases are no list of texts, and one that is in order. -/
def malformedAliasesSet : DeclarationSet :=
  ⟨[⟨"Options", [⟨"command", []⟩],
    [⟨"level", ⟨.integer, false, false, none⟩,
        [⟨"option", [⟨none, .string "--level"⟩, ⟨some "aliases", .integer 5⟩]⟩]⟩,
      ⟨"out", ⟨.text, false, false, none⟩, [⟨"option", [⟨none, .string "--out"⟩]⟩]⟩]⟩]⟩

theorem collisionFree_malformedAliasesSet :
    Sha256.CollisionFree (runMessages (ofConfiguration .standard) malformedAliasesSet .live) :=
  Sha256.collisionFree_of_nodup (by decide +kernel)

theorem run_omits_blocked_malformedAliasesSet :
    Sha256.CollisionFree (runMessages (ofConfiguration .standard) malformedAliasesSet .live) ∧
      ∃ output, ((ofConfiguration .standard).run malformedAliasesSet .live).1 = .ok output ∧
        output.validation.blockedMembers.entries =
          [(.ofMember "Options" "level", [.malformedArguments])] ∧
        (∀ command ∈ output.extraction.commands, ∀ source,
          Emission.renderCommand command output.validation.blockedMembers .standard =
              .ok source →
            ∃ layout : Emission.Layout, source = layout.text EmitOptions.standard.runtimePath ∧
              List.Forall₂ (Emission.Occupies output.validation) command.options layout.entries ∧
              Emission.renderCommand
                  (Emission.withoutBlocked output.validation.blockedMembers command) .empty
                  .standard =
                .ok (layout.withoutOmissions.text EmitOptions.standard.runtimePath)) ∧
        ∃ sources,
          List.Forall₂
              (fun command source =>
                Emission.renderCommand command output.validation.blockedMembers .standard =
                  .ok source)
              output.extraction.commands sources ∧
            output.source = Emission.assemble sources .standard := by
  have free := collisionFree_malformedAliasesSet
  have succeeds : ((ofConfiguration .standard).run malformedAliasesSet .live).1.isOk = true := rfl
  rcases exists_ok_of_isOk succeeds with ⟨output, completes⟩
  rcases run_omits_blocked .standard _ .live output completes with ⟨omitted, assembled⟩
  refine ⟨free, output, completes, ?_, omitted, assembled free⟩
  rw [(eq_of_run_fresh completes).2.2.1]
  decide +kernel

end Pipeline

end Runs

end OptionCompiler
