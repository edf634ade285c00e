import Mathlib
import OptionCompiler.Proofs.Emission.Agreement
import OptionCompiler.Proofs.Validation.Duplicates
/-!
# Registered spellings

The spellings that a command registers are looked at twice: the rule about duplicate flags goes
through them, and the emission writes a setting for each. Of the settings that are written, those
for flags stand for the spellings of the options that are not blocked, in their order. So the rule
speaks about what a command without blocked options registers.
-/

namespace OptionCompiler

namespace CommandDescriptor

/-- What the options register: for each one the spelling of its primary flag, or else of its
member, and then those of the aliases that have one. -/
def spellings (command : CommandDescriptor) : List FlagSpelling :=
  command.options.flatMap OptionDescriptor.registered

theorem map_fst_registrations (command : CommandDescriptor) :
    (Rule.registrations command).map Prod.fst = command.spellings := by
  simp only [Rule.registrations, spellings, List.map_flatMap, List.map_map]
  refine List.flatMap_congr ?_
  intro option _
  exact List.map_id _

end CommandDescriptor

namespace Emission

namespace Setting

/-- The names of the settings that register flags. -/
def flagNames : List String :=
  "long" :: "short" :: aliasNames

def ofFlags (option : OptionDescriptor) : List Setting :=
  ofPrimary option.primarySpelling :: option.aliasSpellings.map ofAlias

theorem named_flagNames (option : OptionDescriptor) :
    named flagNames (ofOption option) = ofFlags option := by
  have flags : named flagNames ([ofPrimary option.primarySpelling] ++
      option.aliasSpellings.map ofAlias) = ofFlags option := by
    refine named_of_forall_mem ?_
    intro setting member
    rcases List.mem_cons.mp member with rfl | member
    · rcases name_ofPrimary option.primarySpelling with name | name <;> simp [flagNames, name]
    · rcases List.mem_map.mp member with ⟨spelling, _, rfl⟩
      exact List.mem_cons_of_mem _ (List.mem_cons_of_mem _ (name_ofAlias spelling))
  rw [ofOption, named_append, named_append, named_append, named_append, named_append,
    named_append, flags]
  simp [named_ofText, named_ofTrue, named_singleton, flagNames, aliasNames]

/-- The setting registers the spelling: a long name as it is, or a letter. -/
def Registers (setting : Setting) : FlagSpelling → Prop
  | .long name =>
      setting.name ∈ ["long", "visible_alias"] ∧ setting.argument = Source.stringLiteral name
  | .short letter =>
      setting.name ∈ ["short", "visible_short_alias"] ∧
        setting.argument = Source.charLiteral letter

theorem registers_ofPrimary (spelling : FlagSpelling) :
    (ofPrimary spelling).Registers spelling := by
  cases spelling <;> simp [Registers, ofPrimary]

theorem registers_ofAlias (spelling : FlagSpelling) : (ofAlias spelling).Registers spelling := by
  cases spelling <;> simp [Registers, ofAlias]

theorem Registers.unique {setting : Setting} {spelling other : FlagSpelling}
    (registers : setting.Registers spelling) (registers' : setting.Registers other) :
    spelling = other := by
  rcases setting with ⟨name, argument⟩
  cases spelling <;> cases other
  · exact congrArg _ (Source.stringLiteral_injective (registers.2.symm.trans registers'.2))
  · simp only [Registers, List.mem_cons, List.not_mem_nil, or_false] at registers registers'
    rcases registers.1 with rfl | rfl <;> simp at registers'
  · simp only [Registers, List.mem_cons, List.not_mem_nil, or_false] at registers registers'
    rcases registers.1 with rfl | rfl <;> simp at registers'
  · exact congrArg _ (Source.charLiteral_injective (registers.2.symm.trans registers'.2))

theorem registers_ofFlags (option : OptionDescriptor) :
    List.Forall₂ Registers (ofFlags option) option.registered := by
  refine .cons (registers_ofPrimary _) ?_
  rw [List.forall₂_map_left_iff, List.forall₂_same]
  intro spelling _
  exact registers_ofAlias spelling

theorem registers_flatMap (options : List OptionDescriptor) :
    List.Forall₂ Registers (options.flatMap ofFlags)
      (options.flatMap OptionDescriptor.registered) := by
  induction options with
  | nil => exact .nil
  | cons option options ih =>
      rw [List.flatMap_cons, List.flatMap_cons]
      exact List.rel_append (registers_ofFlags option) ih

/-- Settings that register some spellings register no others. -/
theorem forall₂_registers_iff {settings : List Setting} {spellings others : List FlagSpelling}
    (registers : List.Forall₂ Registers settings spellings) :
    List.Forall₂ Registers settings others ↔ others = spellings := by
  constructor
  · intro registers'
    induction registers generalizing others with
    | nil =>
        cases registers'
        rfl
    | cons head _ ih =>
        cases registers' with
        | cons head' tail' => rw [ih tail', head'.unique head]
  · rintro rfl
    exact registers

end Setting

namespace Layout

/-- The settings for flags that stand in a layout. -/
def flagSettings (layout : Layout) : List Setting :=
  (layout.entries.filterMap Entry.registration?).flatMap fun registration =>
    Setting.named Setting.flagNames registration.settings

/-- The settings for flags are those of the options that are registered. -/
theorem flagSettings_of_registrations {layout : Layout} {kept : List OptionDescriptor}
    (registered :
      layout.entries.filterMap Entry.registration? = kept.map Registration.ofOption) :
    layout.flagSettings = kept.flatMap Setting.ofFlags := by
  rw [flagSettings, registered, List.flatMap_map]
  refine List.flatMap_congr ?_
  intro option _
  exact Setting.named_flagNames option

end Layout

/-- What is written for a command has a layout that registers the options that are not blocked. -/
theorem exists_layout_of_renderCommand {command : CommandDescriptor} {blocked : BlockedMembers}
    {options : EmitOptions} {source : String}
    (rendered : renderCommand command blocked options = .ok source) :
    ∃ layout : Layout, source = layout.text options.runtimePath ∧ layout.Frames command options ∧
      layout.entries.filterMap Entry.registration? =
        (unblocked blocked command.options).map Registration.ofOption := by
  rcases renderCommand_eq_ok_iff.mp rendered with ⟨typeName, slots, fields, named, reads, _, text⟩
  refine ⟨_, text, frames_ofCommand fields named reads, ?_⟩
  rw [Layout.ofCommand, registrations_ofSlots, options_of_slots reads]

/-- In the order in which a command registers its spellings, one finding about a duplicate stands
for each place whose spelling has an earlier place. There is none exactly when the spellings
differ, and the settings for flags of a command without blocked options register exactly these
spellings in this order. -/
theorem duplicates_match_registrations (declarations : DeclarationSet)
    (commands : List CommandDescriptor) :
    Rule.findingsOf .duplicateFlag ⟨declarations, commands⟩ =
      commands.flatMap (fun command =>
        (List.range (Rule.registrations command).length).filterMap
          (Rule.repetitionAt? (Rule.registrations command))) ∧
    ∀ command : CommandDescriptor,
      (Rule.registrations command).map Prod.fst = command.spellings ∧
      (Rule.findingsOf .duplicateFlag ⟨declarations, [command]⟩ = [] ↔
        command.spellings.Nodup) ∧
      ∀ (blocked : BlockedMembers) (options : EmitOptions) (source : String),
        (∀ option ∈ command.options, blocked.codes? option.location = none) →
        renderCommand command blocked options = .ok source →
        ∃ layout : Layout, source = layout.text options.runtimePath ∧
          layout.Frames command options ∧
          ∀ spellings, List.Forall₂ Setting.Registers layout.flagSettings spellings ↔
            spellings = command.spellings := by
  refine ⟨Rule.findingsOf_duplicateFlag _, ?_⟩
  intro command
  refine ⟨command.map_fst_registrations, ?_, ?_⟩
  · rw [Rule.findingsOf_duplicateFlag, List.flatMap_singleton,
      Rule.filterMap_repetitionAt?_eq_nil_iff, command.map_fst_registrations]
  · intro blocked options source free rendered
    rcases exists_layout_of_renderCommand rendered with ⟨layout, text, frames, registered⟩
    refine ⟨layout, text, frames, ?_⟩
    intro spellings
    have whole : unblocked blocked command.options = command.options := by
      refine List.filter_eq_self.mpr ?_
      intro option member
      rw [free option member]
      rfl
    rw [Layout.flagSettings_of_registrations registered, whole]
    exact Setting.forall₂_registers_iff (Setting.registers_flatMap command.options)

/-- A command whose first option repeats the spelling of its member name with three dashes. -/
def repeatingCommand : CommandDescriptor :=
  { typeName := "Build"
    name := "build"
    description := none
    options :=
      [{ member := "dry_run", primaryFlag := "", aliases := ["---dry-run", "-d"],
          description := none, helpName := none, required := false, hidden := false,
          arity := .atMostOne, backingType := .boolean, elementType := "bool", constraints := [],
          location := .ofMember "Build" "dry_run" },
        { member := "depth", primaryFlag := "-d", aliases := ["--d"], description := none,
          helpName := none, required := false, hidden := false, arity := .exactlyOne,
          backingType := .scalar .integer, elementType := "i64", constraints := [],
          location := .ofMember "Build" "depth" }]
    location := .ofType "Build" }

theorem duplicates_match_registrations_repeatingCommand :
    Rule.findingsOf .duplicateFlag ⟨⟨[]⟩, [repeatingCommand]⟩ =
      [Rule.repetition (.long "dry-run") repeatingCommand.options[0] "dry_run",
        Rule.repetition (.short 'd') repeatingCommand.options[1] "dry_run"] ∧
    ∃ source, renderCommand repeatingCommand .empty .standard = .ok source ∧
      ∃ layout : Layout, source = layout.text EmitOptions.standard.runtimePath ∧
        List.Forall₂ Setting.Registers layout.flagSettings
          [.long "dry-run", .long "dry-run", .short 'd', .short 'd', .long "d"] := by
  rcases duplicates_match_registrations ⟨[]⟩ [repeatingCommand] with ⟨reported, each⟩
  refine ⟨reported.trans (by decide), ?_⟩
  have succeeds : (renderCommand repeatingCommand .empty .standard).isOk = true := by
    decide +kernel
  rcases exists_ok_of_isOk succeeds with ⟨source, rendered⟩
  rcases (each repeatingCommand).2.2 .empty .standard source (fun _ _ => rfl) rendered with
    ⟨layout, text, _, registered⟩
  exact ⟨source, rendered, layout, text, (registered _).mpr (by decide)⟩

end Emission

end OptionCompiler
