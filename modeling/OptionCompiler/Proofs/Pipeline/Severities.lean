import Mathlib
import OptionCompiler.Proofs.Emission.Blocking
import OptionCompiler.Proofs.Emission.Spellings
import OptionCompiler.Proofs.Validation.Severities
/-!
# Severities in a run

Two runs on one set that differ in their severity tables extract the same, and their validations
differ in severities only. If the second table raises every code, each command is emitted with some
of the options that the first run emits, in the same order.
-/

namespace OptionCompiler

namespace Emission

/-- If an option that is left by one map of blocked members is left by the other one as well, it is
registered in both layouts, in the same order. -/
theorem registrations_sublist {command : CommandDescriptor} {blocked other : BlockedMembers}
    {options : EmitOptions} {source shorter : String}
    (fewer : (unblocked other command.options).Sublist (unblocked blocked command.options))
    (rendered : renderCommand command blocked options = .ok source)
    (rendered' : renderCommand command other options = .ok shorter) :
    ∃ layout remaining : Layout,
      source = layout.text options.runtimePath ∧ layout.Frames command options ∧
      shorter = remaining.text options.runtimePath ∧ remaining.Frames command options ∧
      (remaining.entries.filterMap Entry.registration?).Sublist
        (layout.entries.filterMap Entry.registration?) := by
  rcases exists_layout_of_renderCommand rendered with ⟨layout, text, frames, registered⟩
  rcases exists_layout_of_renderCommand rendered' with ⟨remaining, text', frames', registered'⟩
  refine ⟨layout, remaining, text, frames, text', frames', ?_⟩
  rw [registered, registered']
  exact fewer.map Registration.ofOption

end Emission

namespace Pipeline

open Emission (unblocked renderCommand Layout Entry)

/-- A severity table decides severities and blocking only. Under two tables the extraction of a set
is the same and its validations agree up to severities, each of which is the one that is set for
its code, or else the one by default. If the second table raises every code, the members that the
first one blocks stay blocked by at least the same codes, and fewer options are emitted. -/
theorem severities_decide_blocking (set : DeclarationSet) (first second : SeverityTable) :
    ∃ extraction left right,
      extract set .live = .ok extraction ∧
      validate set extraction first .live = .ok left ∧
      validate set extraction second .live = .ok right ∧
      List.Forall₂ (Diagnostic.Reassessed first second) left.diagnostics right.diagnostics ∧
      (DiagnosticCode.malformedArguments.describe.2 = .error ∧
        ∀ rule ∈ Rule.all, rule.code.describe.2 = rule.defaultSeverity) ∧
      (∀ (emit : EmitOptions) (output : RunOutput),
        ((ofConfiguration ⟨first, emit⟩).run set .live).1 = .ok output →
          output.extraction = extraction ∧ output.validation = left) ∧
      (∀ (emit : EmitOptions) (output : RunOutput),
        ((ofConfiguration ⟨second, emit⟩).run set .live).1 = .ok output →
          output.extraction = extraction ∧ output.validation = right) ∧
      (first.Raises second →
        (∀ typeName member codes,
          left.blockedMembers.codes? (.ofMember typeName member) = some codes →
          ∃ more, right.blockedMembers.codes? (.ofMember typeName member) = some more ∧
            codes.Sublist more) ∧
        ∀ command ∈ extraction.commands,
          (unblocked right.blockedMembers command.options).Sublist
            (unblocked left.blockedMembers command.options) ∧
          ∀ (options : EmitOptions) (source shorter : String),
            renderCommand command left.blockedMembers options = .ok source →
            renderCommand command right.blockedMembers options = .ok shorter →
            ∃ layout remaining : Layout,
              source = layout.text options.runtimePath ∧ layout.Frames command options ∧
              shorter = remaining.text options.runtimePath ∧
              remaining.Frames command options ∧
              (remaining.entries.filterMap Entry.registration?).Sublist
                (layout.entries.filterMap Entry.registration?)) := by
  refine ⟨.ofSet set, .ofExtraction set (.ofSet set) first, .ofExtraction set (.ofSet set) second,
    Extraction.extract_live set, rfl, rfl, Validation.forall₂_reassessed set first second,
    Rule.describe_code, ?_, ?_, ?_⟩
  · intro emit output completes
    rcases eq_of_run_fresh completes with ⟨_, extraction, validation, _⟩
    exact ⟨extraction, validation⟩
  · intro emit output completes
    rcases eq_of_run_fresh completes with ⟨_, extraction, validation, _⟩
    exact ⟨extraction, validation⟩
  · intro raises
    have reassessed := Validation.forall₂_reassessed set first second
    constructor
    · intro typeName member codes found
      exact Validation.codes?_of_raises raises reassessed found
    · intro command extracted
      have fewer := Validation.unblocked_sublist raises reassessed
        (Extraction.located_of_mem_ofSet extracted)
      refine ⟨fewer, ?_⟩
      intro options source shorter rendered rendered'
      exact Emission.registrations_sublist fewer rendered rendered'

/-- A command in which two options claim one flag. -/
def sharedFlagSet : DeclarationSet :=
  ⟨[⟨"Options", [⟨"command", []⟩],
    [⟨"level", .ofShape .integer, [⟨"option", [⟨none, .string "--level"⟩]⟩]⟩,
      ⟨"depth", .ofShape .integer, [⟨"option", [⟨none, .string "level"⟩]⟩]⟩]⟩]⟩

/-- A table under which a flag that is claimed twice, and a flag that is not written as flags are,
are errors. -/
def strictTable : SeverityTable :=
  (SeverityTable.empty.set .duplicateFlag .error).set .invalidFlagSyntax .error

theorem severities_decide_blocking_sharedFlagSet :
    SeverityTable.empty.Raises strictTable ∧
    ∃ left right, validate sharedFlagSet (.ofSet sharedFlagSet) .empty .live = .ok left ∧
      validate sharedFlagSet (.ofSet sharedFlagSet) strictTable .live = .ok right ∧
      left.blockedMembers.codes? (.ofMember "Options" "depth") = none ∧
      right.blockedMembers.codes? (.ofMember "Options" "depth") =
        some [.duplicateFlag, .invalidFlagSyntax] ∧
      ∀ command ∈ (Extraction.ofSet sharedFlagSet).commands,
        (unblocked right.blockedMembers command.options).Sublist
          (unblocked left.blockedMembers command.options) := by
  have raises : SeverityTable.empty.Raises strictTable := by
    intro code
    cases code <;> decide
  rcases severities_decide_blocking sharedFlagSet .empty strictTable with
    ⟨extraction, left, right, extracts, validates, validates', _, _, _, _, raised⟩
  cases Extraction.eq_ofSet_of_extract extracts
  refine ⟨raises, left, right, validates, validates', ?_, ?_, fun command extracted =>
    ((raised raises).2 command extracted).1⟩
  · cases validates
    decide +kernel
  · cases validates'
    decide +kernel

end Pipeline

end OptionCompiler
