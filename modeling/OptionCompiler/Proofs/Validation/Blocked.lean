import Mathlib
import OptionCompiler.Proofs.Sorted
import OptionCompiler.Validation
/-!
# Blocked members

The diagnostics with the severity of errors block the members that they are about. A member is
blocked exactly when there is such a diagnostic at its location, and the codes that block it are
the different codes of these diagnostics in the order of the codes.
-/

namespace OptionCompiler

section Orders

theorem DiagnosticCode.number_injective : Function.Injective DiagnosticCode.number := by
  intro code other
  cases code <;> cases other <;> decide

instance : Std.LawfulEqOrd DiagnosticCode where
  eq_of_compare equal := DiagnosticCode.number_injective (compare_eq_iff_eq.mp equal)

theorem DiagnosticCode.increasing_all : Sorted.Increasing DiagnosticCode.all := by
  decide

theorem DiagnosticCode.mem_all (code : DiagnosticCode) : code ∈ DiagnosticCode.all := by
  cases code <;> decide

theorem Location.compareMembers_eq_iff {member other : Option String} :
    Location.compareMembers member other = .eq ↔ member = other := by
  cases member <;> cases other <;> simp [Location.compareMembers]

instance : Std.LawfulEqOrd Location where
  compare_self := by
    intro location
    refine Ordering.then_eq_eq.mpr ⟨Std.ReflCmp.compare_self, ?_⟩
    exact Location.compareMembers_eq_iff.mpr rfl
  eq_of_compare := by
    rintro ⟨typeName, member⟩ ⟨typeName', member'⟩ equal
    rcases Ordering.then_eq_eq.mp equal with ⟨types, members⟩
    rw [Location.mk.injEq]
    exact ⟨Std.LawfulEqCmp.compare_eq_iff_eq.mp types, Location.compareMembers_eq_iff.mp members⟩

end Orders

namespace BlockedMembers

theorem codes?_add_self (blocked : BlockedMembers) (location : Location) (code : DiagnosticCode) :
    (blocked.add location code).codes? location =
      some (Sorted.insertKey code ((blocked.codes? location).getD [])) :=
  Sorted.find?_insert_self ..

theorem codes?_add_of_ne {location other : Location} (different : other ≠ location)
    (blocked : BlockedMembers) (code : DiagnosticCode) :
    (blocked.add location code).codes? other = blocked.codes? other :=
  Sorted.find?_insert_of_ne different ..

/-- The codes of some diagnostics at a location. -/
def codesAt (location : Location) (diagnostics : List Diagnostic) : List DiagnosticCode :=
  (diagnostics.filter fun diagnostic => diagnostic.location = location).map Diagnostic.code

/-- Blocking by several diagnostics collects the codes of those at the location. -/
theorem codes?_foldl_add (location : Location) (diagnostics : List Diagnostic)
    (blocked : BlockedMembers) :
    (diagnostics.foldl (fun blocked diagnostic => blocked.add diagnostic.location diagnostic.code)
        blocked).codes? location =
      if codesAt location diagnostics = [] then blocked.codes? location
      else some ((codesAt location diagnostics).foldl
        (fun codes code => Sorted.insertKey code codes)
        ((blocked.codes? location).getD [])) := by
  induction diagnostics generalizing blocked with
  | nil => rfl
  | cons diagnostic diagnostics ih =>
      rw [List.foldl_cons, ih]
      by_cases here : diagnostic.location = location
      · have collected : codesAt location (diagnostic :: diagnostics) =
            diagnostic.code :: codesAt location diagnostics := by
          simp [codesAt, here]
        rw [collected, ← here, codes?_add_self, if_neg (List.cons_ne_nil _ _)]
        split_ifs with none
        · rw [none]
          rfl
        · rfl
      · have collected : codesAt location (diagnostic :: diagnostics) =
            codesAt location diagnostics := by
          simp [codesAt, here]
        rw [collected, codes?_add_of_ne (Ne.symm here)]

end BlockedMembers

namespace Validation

/-- The codes of the diagnostics with the severity of errors at a location, in order. -/
def blockingCodes (validation : Validation) (location : Location) : List DiagnosticCode :=
  DiagnosticCode.all.filter fun code =>
    ∃ diagnostic ∈ validation.diagnostics,
      diagnostic.isError = true ∧ diagnostic.location = location ∧ diagnostic.code = code

theorem mem_blockingCodes {validation : Validation} {location : Location} {code : DiagnosticCode} :
    code ∈ validation.blockingCodes location ↔
      ∃ diagnostic ∈ validation.diagnostics,
        diagnostic.isError = true ∧ diagnostic.location = location ∧ diagnostic.code = code := by
  rw [blockingCodes, List.mem_filter, decide_eq_true_eq]
  exact and_iff_right code.mem_all

/-- A member is blocked exactly when a diagnostic at its location has the severity of errors, and
then by the codes of these diagnostics. -/
theorem codes?_blockedMembers (validation : Validation) (typeName member : String) :
    validation.blockedMembers.codes? (.ofMember typeName member) =
      if validation.blockingCodes (.ofMember typeName member) = [] then none
      else some (validation.blockingCodes (.ofMember typeName member)) := by
  have blocking (code : DiagnosticCode) :
      code ∈ BlockedMembers.codesAt (.ofMember typeName member)
          (validation.diagnostics.filter blocks) ↔
        code ∈ validation.blockingCodes (.ofMember typeName member) := by
    rw [mem_blockingCodes]
    simp only [BlockedMembers.codesAt, List.mem_map, List.mem_filter, decide_eq_true_eq, blocks,
      Bool.and_eq_true]
    constructor
    · rintro ⟨diagnostic, ⟨⟨member, isError, _⟩, here⟩, code⟩
      exact ⟨diagnostic, member, isError, here, code⟩
    · rintro ⟨diagnostic, member, isError, here, code⟩
      exact ⟨diagnostic, ⟨⟨member, isError, here ▸ rfl⟩, here⟩, code⟩
  have collected : Sorted.ofKeys (BlockedMembers.codesAt (.ofMember typeName member)
      (validation.diagnostics.filter blocks)) =
      validation.blockingCodes (.ofMember typeName member) := by
    rw [Sorted.ofKeys_eq_filter DiagnosticCode.increasing_all fun code _ => code.mem_all]
    apply List.filter_congr
    intro code _
    rw [decide_eq_decide, blocking, mem_blockingCodes]
  have nowhere : BlockedMembers.codesAt (.ofMember typeName member)
      (validation.diagnostics.filter blocks) = [] ↔
      validation.blockingCodes (.ofMember typeName member) = [] := by
    simp only [List.eq_nil_iff_forall_not_mem, blocking]
  have found : validation.blockedMembers.codes? (.ofMember typeName member) =
      if BlockedMembers.codesAt (.ofMember typeName member)
          (validation.diagnostics.filter blocks) = [] then none
      else some (Sorted.ofKeys (BlockedMembers.codesAt (.ofMember typeName member)
        (validation.diagnostics.filter blocks))) :=
    BlockedMembers.codes?_foldl_add ..
  rw [found, collected]
  simp only [nowhere]

end Validation

end OptionCompiler
