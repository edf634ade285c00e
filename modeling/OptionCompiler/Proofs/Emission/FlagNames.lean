import Mathlib
import OptionCompiler.Proofs.Emission.Checks
import OptionCompiler.Proofs.Emission.Spellings
import OptionCompiler.Proofs.Flag
/-!
# The names that registered flags have

Where the rule about the syntax of flags is silent, every declared flag is empty or well formed, so
each spelling that comes from one is sound. What remains is the spelling that stands in for an empty
primary flag. No rule looks at it, and it is sound exactly when the underscores of the member stand
one by one between its letters and digits.
-/

namespace OptionCompiler

namespace OptionDescriptor

def DeclaresFormed (option : OptionDescriptor) : Prop :=
  ∀ flag ∈ option.allFlags, flag = "" ∨ Flag.isWellFormed flag = true

variable {option : OptionDescriptor}

theorem isSound_of_parse? (formed : option.DeclaresFormed) {flag : String}
    (listed : flag ∈ option.allFlags) {spelling : FlagSpelling}
    (parsed : FlagSpelling.parse? flag = some spelling) : spelling.IsSound := by
  rcases formed flag listed with rfl | formed
  · cases parsed
  · exact FlagSpelling.isSound_of_isWellFormed formed parsed

/-- The primary spelling comes from the primary flag, or from the member when this is empty. -/
theorem primarySpelling_cases (formed : option.DeclaresFormed) :
    FlagSpelling.parse? option.primaryFlag = some option.primarySpelling ∨
      option.primaryFlag = "" ∧
        option.primarySpelling = .long (FlagSpelling.memberName option.member) := by
  unfold primarySpelling
  rcases formed option.primaryFlag List.mem_cons_self with empty | formed
  · rw [empty]
    exact .inr ⟨rfl, rfl⟩
  · rcases FlagSpelling.parse?_of_isWellFormed formed with ⟨spelling, parsed, _⟩
    rw [parsed]
    exact .inl rfl

theorem primarySpelling_of_empty (empty : option.primaryFlag = "") :
    option.primarySpelling = .long (FlagSpelling.memberName option.member) := by
  rw [primarySpelling, empty]
  rfl

theorem isSound_primarySpelling_iff (shaped : Source.isIdentifier option.member = true)
    (empty : option.primaryFlag = "") :
    option.primarySpelling.IsSound ↔ FlagSpelling.IsSeparated option.member.toList := by
  rw [primarySpelling_of_empty empty, FlagSpelling.IsSound,
    FlagSpelling.isWellFormed_memberName_iff shaped, FlagSpelling.parse?_memberName_iff shaped]
  exact and_iff_left_of_imp And.left

/-- Any spelling comes from a declared flag, or else it is the one that stands for the member. -/
theorem registered_cases (formed : option.DeclaresFormed) {spelling : FlagSpelling}
    (registered : spelling ∈ option.registered) :
    (∃ flag ∈ option.allFlags, FlagSpelling.parse? flag = some spelling) ∨
      option.primaryFlag = "" ∧
        spelling = .long (FlagSpelling.memberName option.member) := by
  rcases List.mem_cons.mp registered with rfl | later
  · rcases primarySpelling_cases formed with parsed | fallback
    · exact .inl ⟨_, List.mem_cons_self, parsed⟩
    · exact .inr fallback
  · rcases List.mem_filterMap.mp later with ⟨flag, listed, parsed⟩
    exact .inl ⟨flag, List.mem_cons_of_mem _ listed, parsed⟩

/-- All spellings of an option with flags in order are sound, unless the member stands in for the
primary flag and its underscores do not stand one by one between other characters. -/
theorem forall_isSound_iff (formed : option.DeclaresFormed)
    (shaped : Source.isIdentifier option.member = true) :
    (∀ spelling ∈ option.registered, spelling.IsSound) ↔
      (option.primaryFlag = "" → FlagSpelling.IsSeparated option.member.toList) := by
  constructor
  · intro sound empty
    exact (isSound_primarySpelling_iff shaped empty).mp (sound _ List.mem_cons_self)
  · intro separated spelling registered
    rcases registered_cases formed registered with ⟨flag, listed, parsed⟩ | ⟨empty, stands⟩
    · exact isSound_of_parse? formed listed parsed
    · rw [stands, ← primarySpelling_of_empty empty]
      exact (isSound_primarySpelling_iff shaped empty).mpr (separated empty)

/-- A long name of an option is not empty, and begins with a dash only if it stands for a member
that begins with an underscore. -/
theorem long_of_mem_registered (formed : option.DeclaresFormed)
    (shaped : Source.isIdentifier option.member = true) {name : String}
    (registered : .long name ∈ option.registered) :
    name ≠ "" ∧ (['-'] <+: name.toList →
      option.primaryFlag = "" ∧ name = FlagSpelling.memberName option.member ∧
        ['_'] <+: option.member.toList) := by
  rcases registered_cases formed registered with ⟨flag, _, parsed⟩ | ⟨empty, stands⟩
  · rcases FlagSpelling.long_of_parse? parsed with ⟨nonempty, plain⟩
    exact ⟨nonempty, fun begins => absurd begins plain⟩
  · cases stands
    refine ⟨FlagSpelling.memberName_ne_empty shaped, ?_⟩
    intro begins
    exact ⟨empty, rfl, (FlagSpelling.dash_prefix_memberName_iff shaped).mp begins⟩

end OptionDescriptor

namespace Rule

/-- An option at which nothing is reported has flags in order. -/
theorem declaresFormed_of_silent {input : RuleInput} {option : OptionDescriptor}
    (listed : option ∈ input.options)
    (silent : ∀ finding ∈ findingsOf .invalidFlagSyntax input,
      finding.location ≠ option.location) : option.DeclaresFormed := by
  intro flag declared
  by_contra malformed
  rw [not_or, Bool.not_eq_true] at malformed
  have found : (⟨option.location, "flag `" ++ flag ++ "` must look like `-x` or `--name`"⟩ :
      Finding) ∈ findingsOf .invalidFlagSyntax input := by
    refine List.mem_append_left _ (List.mem_flatMap.mpr ⟨option, listed, ?_⟩)
    refine List.mem_map_of_mem (List.mem_filter.mpr ⟨declared, ?_⟩)
    simp [malformed.1, malformed.2]
  exact silent _ found rfl

end Rule

namespace Emission

theorem Setting.exists_of_mem_ofFlags {option : OptionDescriptor} {setting : Setting}
    (member : setting ∈ Setting.ofFlags option) :
    ∃ spelling ∈ option.registered, setting.Registers spelling := by
  rcases List.mem_cons.mp member with rfl | member
  · exact ⟨_, List.mem_cons_self, Setting.registers_ofPrimary _⟩
  · rcases List.mem_map.mp member with ⟨spelling, listed, rfl⟩
    exact ⟨spelling, List.mem_cons_of_mem _ listed, Setting.registers_ofAlias spelling⟩

/-- Where the rule about the syntax of flags reports nothing, what an option of an extracted
command registers is displayed as a well-formed flag and read back from it, if the member does not
stand in for an empty primary flag, or its underscores stand one by one between other characters.
The long names that are written to the source are not empty, and one of them begins with a dash only
if it stands for a member that begins with an underscore. -/
theorem registered_spellings_sound {set : DeclarationSet} {extraction : Extraction}
    (extracts : extract set .live = .ok extraction) {command : CommandDescriptor}
    (extracted : command ∈ extraction.commands)
    (silent : ∀ option ∈ command.options,
      ∀ finding ∈ Rule.findingsOf .invalidFlagSyntax ⟨set, extraction.commands⟩,
        finding.location ≠ option.location) :
    (∀ option ∈ command.options,
      (∀ spelling ∈ option.registered, spelling.IsSound) ↔
        (option.primaryFlag = "" → FlagSpelling.IsSeparated option.member.toList)) ∧
    ∀ (blocked : BlockedMembers) (options : EmitOptions) (source : String),
      renderCommand command blocked options = .ok source →
      ∃ layout : Layout, source = layout.text options.runtimePath ∧
        layout.Frames command options ∧
        ∀ setting ∈ layout.flagSettings, ∀ name, setting.Registers (.long name) →
          name ≠ "" ∧ (['-'] <+: name.toList →
            ∃ option ∈ command.options, option.primaryFlag = "" ∧
              name = FlagSpelling.memberName option.member ∧ ['_'] <+: option.member.toList) := by
  cases Extraction.eq_ofSet_of_extract extracts
  have shaped : ∀ option ∈ command.options, Source.isIdentifier option.member = true := by
    intro option listed
    exact Source.isIdentifier_of_isUsable
      ((Extraction.wellFormed_of_mem_ofSet extracted).2 option listed).usable
  have formed : ∀ option ∈ command.options, option.DeclaresFormed := by
    intro option listed
    exact Rule.declaresFormed_of_silent (List.mem_flatMap.mpr ⟨command, extracted, listed⟩)
      (silent option listed)
  constructor
  · intro option listed
    exact OptionDescriptor.forall_isSound_iff (formed option listed) (shaped option listed)
  · intro blocked options source rendered
    rcases exists_layout_of_renderCommand rendered with ⟨layout, text, frames, kept⟩
    refine ⟨layout, text, frames, ?_⟩
    intro setting member name registers
    rw [Layout.flagSettings_of_registrations kept] at member
    rcases List.mem_flatMap.mp member with ⟨option, emitted, member⟩
    have listed : option ∈ command.options := List.mem_of_mem_filter emitted
    rcases Setting.exists_of_mem_ofFlags member with ⟨spelling, registered, registers'⟩
    cases registers.unique registers'
    rcases OptionDescriptor.long_of_mem_registered (formed option listed) (shaped option listed)
      registered with ⟨nonempty, begins⟩
    exact ⟨nonempty, fun dash => ⟨option, listed, begins dash⟩⟩

/-- A command with an option that takes its long name from the member. -/
def dryRunSet : DeclarationSet :=
  ⟨[⟨"Build", [⟨"command", []⟩],
    [⟨"dry_run", .ofShape .bool,
      [⟨"option", [⟨none, .string ""⟩,
        ⟨some "aliases", .list [.string "-d"]⟩]⟩]⟩]⟩]⟩

theorem registered_spellings_sound_dryRunSet :
    extract dryRunSet .live = .ok (.ofSet dryRunSet) ∧
    ∀ command ∈ (Extraction.ofSet dryRunSet).commands, ∀ option ∈ command.options,
      option.registered = [.long "dry-run", .short 'd'] ∧
      ∀ spelling ∈ option.registered, spelling.IsSound := by
  have extracts : extract dryRunSet .live = .ok (.ofSet dryRunSet) := rfl
  refine ⟨extracts, ?_⟩
  intro command extracted option listed
  have silent : Rule.findingsOf .invalidFlagSyntax
      ⟨dryRunSet, (Extraction.ofSet dryRunSet).commands⟩ = [] := by decide
  have known : option.registered = [.long "dry-run", .short 'd'] ∧ option.member = "dry_run" := by
    revert option command
    decide
  refine ⟨known.1, ?_⟩
  refine ((registered_spellings_sound extracts extracted ?_).1 option listed).mpr ?_
  · rw [silent]
    simp
  · intro _
    rw [known.2]
    decide

/-- A command with an option that takes its long name from a member with an underscore in front. -/
def underscoredSet : DeclarationSet :=
  ⟨[⟨"Options", [⟨"command", []⟩],
    [⟨"_verbose", .ofShape .bool, [⟨"option", [⟨none, .string ""⟩]⟩]⟩]⟩]⟩

/-- No rule reports anything, and yet a long name with a dash in front is registered, which is
displayed as no well-formed flag and read back as another name. -/
theorem unsound_spelling_underscoredSet :
    Validation.ofExtraction underscoredSet (.ofSet underscoredSet) .empty = ⟨[]⟩ ∧
    ∃ command ∈ (Extraction.ofSet underscoredSet).commands, ∃ option ∈ command.options,
      option.registered = [.long "-verbose"] ∧
      Flag.isWellFormed (FlagSpelling.long "-verbose").label = false ∧
      FlagSpelling.parse? (FlagSpelling.long "-verbose").label = some (.long "verbose") ∧
      primarySetting option.primarySpelling = ".long(\"-verbose\")" := by
  decide

end Emission

end OptionCompiler
