import Mathlib
import OptionCompiler.Proofs.Emission.Settings
/-!
# Registration and binding agree

The function `command` registers options and the function `from_matches` binds them. The two are
written apart from each other, but they speak of the same options in the same order: each
registration has its binding, with the same identifier and the same element type, and the way the
values are fetched suits the action that stores them.
-/

namespace OptionCompiler

namespace Emission

/-- What a layout has around its registrations and bindings. Besides registrations, there are only
comments of one line among its entries. -/
structure Layout.Frames (layout : Layout) (command : CommandDescriptor) (options : EmitOptions) :
    Prop where
  typeName : Source.identifier command.typeName = .ok layout.typeName
  documentation :
    layout.documentation = (command.description.toList.map Source.documentation).flatten
  name : layout.name = Source.stringLiteral command.name
  about : layout.about = command.description.map Source.stringLiteral
  comments : ∀ comment, .omitted comment ∈ layout.entries →
    Source.IsLine comment ∧ ∃ rest, comment = Source.plainMarker ++ rest
  runs : layout.runs = options.deriveRun

/-- An option, what registers it, and what binds it. -/
structure BoundOption where
  option : OptionDescriptor
  registration : Registration
  binding : FieldBinding

/-- The registration and the binding of an option agree with each other and with the option. -/
structure BoundOption.Agrees (runtime : String) (bound : BoundOption) : Prop where
  registeredId : bound.registration.id = Source.stringLiteral bound.option.member
  boundId : bound.binding.id = bound.registration.id
  registeredElement : bound.registration.element = bound.option.elementType
  boundElement : bound.binding.element = bound.registration.element
  /-- The other settings are about neither the element type nor the action. -/
  settings : bound.registration.settings = Setting.ofOption bound.option ∧
    ∀ setting ∈ bound.registration.settings, setting.name ∉ ["value_parser", "action"]
  action : bound.registration.action = "Append" ∨ bound.registration.action = "Set"
  fetchesMany : bound.binding.fetchesMany = true ↔ bound.registration.action = "Append"
  field : Source.identifier bound.option.member = .ok bound.binding.field
  wrapsValue : bound.binding.wrapsValue = bound.option.backingType.isNullable
  /-- There is one block of checks for each constraint, in the order of the constraints. -/
  checks : bound.binding.checks = bound.option.constraints.map
    (Emission.checkLines runtime (Source.stringLiteral bound.option.primarySpelling.label))
  checksEach : bound.binding.checksEach = bound.option.backingType.isSequence

section Views

variable (runtime : String)

theorem not_mem_reserved {name : String} (own : name ∈ Setting.ownNames) :
    name ∉ ["value_parser", "action"] := by
  revert name
  decide

theorem agrees_ofOption {option : OptionDescriptor} {field : String}
    (spelled : Source.identifier option.member = .ok field) :
    BoundOption.Agrees runtime
      ⟨option, Registration.ofOption option, FieldBinding.ofOption runtime option field⟩ where
  registeredId := rfl
  boundId := rfl
  registeredElement := rfl
  boundElement := rfl
  settings := ⟨rfl, fun _ member => not_mem_reserved (Setting.name_of_mem_ofOption member)⟩
  action := by
    cases sequence : option.backingType.isSequence <;>
      simp [Registration.ofOption, actionName, sequence]
  fetchesMany := by
    cases sequence : option.backingType.isSequence <;>
      simp [Registration.ofOption, FieldBinding.ofOption, actionName, sequence]
  field := spelled
  wrapsValue := rfl
  checks := rfl
  checksEach := rfl

theorem registrations_ofSlots (slots : List Slot) :
    (slots.map Entry.ofSlot).filterMap Entry.registration? =
      (slots.filterMap Slot.option?).map Registration.ofOption := by
  induction slots with
  | nil => rfl
  | cons slot slots ih =>
      cases slot with
      | emitted option => exact congrArg (List.cons _) ih
      | omitted comment => exact ih

theorem frames_ofCommand {command : CommandDescriptor} {blocked : BlockedMembers}
    {options : EmitOptions} {typeName : String} {slots : List Slot} (fields : List String)
    (named : Source.identifier command.typeName = .ok typeName)
    (reads : List.Forall₂ (fun option made => slot blocked option = .ok made)
      command.options slots) :
    (Layout.ofCommand command options typeName slots fields).Frames command options where
  typeName := named
  documentation := rfl
  name := rfl
  about := rfl
  comments := by
    intro comment member
    rcases List.mem_map.mp member with ⟨made, madeMember, isComment⟩
    rcases exists_left_of_forall₂ reads madeMember with ⟨option, _, read⟩
    cases found : blocked.codes? option.location with
    | none =>
        rw [slot_of_codes_none found read] at isComment
        cases isComment
    | some codes =>
        rcases slot_of_codes_some found read with ⟨spelled, spells, rfl⟩
        cases isComment
        exact Source.lineComment_line spells
  runs := rfl

/-- Options with spelled names are bound one by one. -/
theorem exists_boundOptions {options : List OptionDescriptor} {fields : List String}
    (spelled : List.Forall₂ (fun option field => Source.identifier option.member = .ok field)
      options fields) :
    ∃ bounds : List BoundOption, bounds.map BoundOption.option = options ∧
      bounds.map BoundOption.registration = options.map Registration.ofOption ∧
      bounds.map BoundOption.binding =
        List.zipWith (FieldBinding.ofOption runtime) options fields ∧
      ∀ bound ∈ bounds, bound.Agrees runtime := by
  induction spelled with
  | nil => exact ⟨[], rfl, rfl, rfl, by simp⟩
  | cons head _ ih =>
      rcases ih with ⟨bounds, rfl, registrations, bindings, agree⟩
      refine ⟨⟨_, _, _⟩ :: bounds, rfl, congrArg (List.cons _) registrations,
        congrArg (List.cons _) bindings, ?_⟩
      intro bound member
      rcases List.mem_cons.mp member with rfl | later
      · exact agrees_ofOption runtime head
      · exact agree bound later

end Views

/-- The options that a rendered command registers are those that it binds, in the same order. -/
theorem registrations_agree_bindings {command : CommandDescriptor} {blocked : BlockedMembers}
    {options : EmitOptions} {source : String}
    (rendered : renderCommand command blocked options = .ok source) :
    ∃ (layout : Layout) (bounds : List BoundOption),
      source = layout.text options.runtimePath ∧ layout.Frames command options ∧
      bounds.map BoundOption.option = unblocked blocked command.options ∧
      bounds.map BoundOption.registration = layout.entries.filterMap Entry.registration? ∧
      bounds.map BoundOption.binding = layout.bindings ∧
      ∀ bound ∈ bounds, bound.Agrees options.runtimePath := by
  rcases renderCommand_eq_ok_iff.mp rendered with
    ⟨typeName, slots, fields, named, reads, spelled, text⟩
  rcases exists_boundOptions options.runtimePath spelled with
    ⟨bounds, same, registrations, bindings, agree⟩
  refine ⟨_, bounds, text, frames_ofCommand fields named reads, ?_, ?_, bindings, agree⟩
  · rw [same, options_of_slots reads]
  · rw [registrations]
    exact (registrations_ofSlots slots).symm

/-- A command with an option for files that exist and one for a level. -/
def archiveCommand : CommandDescriptor :=
  { typeName := "Archive"
    name := "archive"
    description := none
    options :=
      [{ member := "input_files", primaryFlag := "--input", aliases := ["-i"], description := none,
          helpName := some "FILE", required := true, hidden := false, arity := .any,
          backingType := .sequence .file, elementType := "PathBuf",
          constraints := [.file .existingOnly], location := .ofMember "Archive" "input_files" },
        { member := "level", primaryFlag := "-l", aliases := [], description := none,
          helpName := none, required := false, hidden := false, arity := .exactlyOne,
          backingType := .nullableScalar .integer, elementType := "i64", constraints := [],
          location := .ofMember "Archive" "level" }]
    location := .ofType "Archive" }

theorem registrations_agree_bindings_archive :
    ∃ source, renderCommand archiveCommand .empty .standard = .ok source ∧
      ∃ (layout : Layout) (bounds : List BoundOption),
        source = layout.text EmitOptions.standard.runtimePath ∧
        layout.Frames archiveCommand .standard ∧
        bounds.map BoundOption.option = unblocked .empty archiveCommand.options ∧
        bounds.map BoundOption.registration = layout.entries.filterMap Entry.registration? ∧
        bounds.map BoundOption.binding = layout.bindings ∧
        ∀ bound ∈ bounds, bound.Agrees EmitOptions.standard.runtimePath := by
  have succeeds : (renderCommand archiveCommand .empty .standard).isOk = true := by decide +kernel
  rcases exists_ok_of_isOk succeeds with ⟨source, rendered⟩
  exact ⟨source, rendered, registrations_agree_bindings rendered⟩

end Emission

end OptionCompiler
