import Mathlib
import OptionCompiler.Proofs.Emission.Layout
import OptionCompiler.Proofs.Extraction.Descriptors
import OptionCompiler.Proofs.Validation.Blocked
/-!
# What severities decide

The diagnostics of a validation come from one list that knows nothing of a severity table: each
diagnostic has the severity that its code has by default, and the table is asked for every one of
them at the end. So two tables give the same diagnostics up to their severities. A table that
raises every code turns errors into errors, so it blocks what the other one blocks, by the same
codes or more, and leaves fewer options to be emitted.
-/

namespace OptionCompiler

/-- The severity of a code under a table: the one that is set, or else the one by default. -/
def SeverityTable.severityOf (table : SeverityTable) (code : DiagnosticCode) : Severity :=
  (table.get? code).getD code.describe.2

/-- Every code has at least the severity under the second table that it has under the first. -/
def SeverityTable.Raises (first second : SeverityTable) : Prop :=
  ∀ code, (first.severityOf code).rank ≤ (second.severityOf code).rank

theorem SeverityTable.Raises.error {first second : SeverityTable} (raises : first.Raises second)
    {code : DiagnosticCode} (isError : first.severityOf code = .error) :
    second.severityOf code = .error := by
  have rank := raises code
  rw [isError] at rank
  cases raised : second.severityOf code with
  | error => rfl
  | info | warning =>
      rw [raised] at rank
      exact absurd rank (by decide)

/-- The severity by default is an error for malformed arguments, and for any other code the one of
its rule. -/
theorem Rule.describe_code : DiagnosticCode.malformedArguments.describe.2 = .error ∧
    ∀ rule ∈ Rule.all, rule.code.describe.2 = rule.defaultSeverity := by
  refine ⟨rfl, ?_⟩
  intro rule known
  simp only [Rule.all, List.mem_cons, List.not_mem_nil, or_false] at known
  rcases known with rfl | rfl | rfl | rfl | rfl | rfl | rfl <;> rfl

/-- One finding under two tables: two diagnostics that differ in no more than their severities,
each of which is the one of the code under its table. -/
structure Diagnostic.Reassessed (first second : SeverityTable) (left right : Diagnostic) :
    Prop where
  code_eq : left.code = right.code
  message_eq : left.message = right.message
  location_eq : left.location = right.location
  left_severity : left.severity = first.severityOf left.code
  right_severity : right.severity = second.severityOf right.code

namespace Validation

variable {set : DeclarationSet} {first second : SeverityTable}

/-- The diagnostics of an extracted set before any table is asked. -/
def unresolved (set : DeclarationSet) (extraction : Extraction) : List Diagnostic :=
  extraction.diagnostics ++ Rule.all.flatMap fun rule =>
    (rule.findings ⟨set, extraction.commands⟩).map fun finding =>
      ⟨rule.code, rule.defaultSeverity, finding.message, finding.location⟩

theorem ofExtraction_eq_map (set : DeclarationSet) (extraction : Extraction)
    (table : SeverityTable) :
    ofExtraction set extraction table = ⟨(unresolved set extraction).map (resolved table)⟩ := by
  simp only [ofExtraction, unresolved, Rule.diagnostics, List.map_append, List.map_flatMap,
    List.map_map]
  rfl

/-- Before a table is asked, each diagnostic has the severity of its code by default. -/
theorem severity_of_mem_unresolved {diagnostic : Diagnostic}
    (listed : diagnostic ∈ unresolved set (.ofSet set)) :
    diagnostic.severity = diagnostic.code.describe.2 := by
  rcases List.mem_append.mp listed with extracted | found
  · rcases Extraction.concerns_of_mem_ofSet extracted with ⟨_, _, _, concerns⟩
    rw [concerns.severity_eq, concerns.code_eq, Rule.describe_code.1]
  · rcases List.mem_flatMap.mp found with ⟨rule, known, found⟩
    rcases List.mem_map.mp found with ⟨finding, _, rfl⟩
    exact (Rule.describe_code.2 rule known).symm

/-- Two tables give the same diagnostics up to their severities. -/
theorem forall₂_reassessed (set : DeclarationSet) (first second : SeverityTable) :
    List.Forall₂ (Diagnostic.Reassessed first second)
      (ofExtraction set (.ofSet set) first).diagnostics
      (ofExtraction set (.ofSet set) second).diagnostics := by
  rw [ofExtraction_eq_map, ofExtraction_eq_map, List.forall₂_map_left_iff,
    List.forall₂_map_right_iff, List.forall₂_same]
  intro diagnostic listed
  have default := severity_of_mem_unresolved listed
  exact ⟨rfl, rfl, rfl, congrArg (Option.getD _) default, congrArg (Option.getD _) default⟩

section Blocking

variable {left right : Validation} (raises : first.Raises second)
  (reassessed : List.Forall₂ (Diagnostic.Reassessed first second) left.diagnostics
    right.diagnostics)

include raises reassessed

/-- Raised severities block a location by at least the same codes. -/
theorem blockingCodes_sublist (location : Location) :
    (left.blockingCodes location).Sublist (right.blockingCodes location) := by
  refine List.monotone_filter_right _ ?_
  intro code blocking
  rcases of_decide_eq_true blocking with ⟨diagnostic, listed, isError, here, rfl⟩
  rcases exists_right_of_forall₂ reassessed listed with ⟨other, member, same⟩
  refine decide_eq_true ⟨other, member, ?_, same.location_eq ▸ here, same.code_eq.symm⟩
  have under : first.severityOf diagnostic.code = .error := by
    rw [← same.left_severity]
    exact of_decide_eq_true isError
  refine decide_eq_true ?_
  rw [same.right_severity, ← same.code_eq]
  exact raises.error under

/-- A member that is blocked stays blocked under raised severities, by at least the same codes. -/
theorem codes?_of_raises {typeName member : String} {codes : List DiagnosticCode}
    (found : left.blockedMembers.codes? (.ofMember typeName member) = some codes) :
    ∃ more, right.blockedMembers.codes? (.ofMember typeName member) = some more ∧
      codes.Sublist more := by
  have sublist := blockingCodes_sublist raises reassessed (.ofMember typeName member)
  rw [codes?_blockedMembers] at found ⊢
  split_ifs at found with clear
  cases found
  refine ⟨_, if_neg ?_, sublist⟩
  intro none
  rw [none, List.sublist_nil] at sublist
  exact clear sublist

/-- Raised severities leave some of the options that were left before. -/
theorem unblocked_sublist {command : CommandDescriptor}
    (located : ∀ option ∈ command.options,
      option.location = .ofMember command.typeName option.member) :
    (Emission.unblocked right.blockedMembers command.options).Sublist
      (Emission.unblocked left.blockedMembers command.options) := by
  -- what the right map leaves is left by the left one, so it can be filtered from that
  have again : Emission.unblocked right.blockedMembers command.options =
      Emission.unblocked right.blockedMembers
        (Emission.unblocked left.blockedMembers command.options) := by
    unfold Emission.unblocked
    rw [List.filter_filter]
    refine List.filter_congr ?_
    intro option listed
    cases found : left.blockedMembers.codes? option.location with
    | none => simp
    | some codes =>
        rw [located option listed] at found ⊢
        rcases codes?_of_raises raises reassessed found with ⟨more, blocked, _⟩
        simp [blocked]
  rw [again]
  exact List.filter_sublist

end Blocking

end Validation

end OptionCompiler
