import Mathlib
import OptionCompiler.Proofs.Validation.Blocked
/-!
# The map of blocked members

The blocked members of a validation form a map: its keys are the members with errors, in the order
of locations, and under each stand the codes of its errors, in the order of codes. These
conditions leave no choice, since an increasing list is known by its members. So the map is the
only one that meets them, and it depends on nothing but which errors of members there are.
-/

namespace OptionCompiler

section Orders

/-- A location comes before another one by its type name, or else by its member. -/
def Location.Precedes (location later : Location) : Prop :=
  location.typeName < later.typeName ∨
    location.typeName = later.typeName ∧ location.member < later.member

/-- A code comes before another one by its number. -/
def DiagnosticCode.Precedes (code later : DiagnosticCode) : Prop :=
  code.number < later.number

instance : Std.TransOrd Location :=
  inferInstanceAs (Std.TransCmp
    (compareLex (compareOn Location.typeName) (compareOn Location.member)))

theorem Location.compareMembers_eq_lt_iff {member later : Option String} :
    Location.compareMembers member later = .lt ↔ member < later := by
  cases member <;> cases later <;> simp [Location.compareMembers, compare_lt_iff_lt]

theorem Location.compare_eq_lt_iff {location later : Location} :
    compare location later = .lt ↔ location.Precedes later := by
  refine Ordering.then_eq_lt.trans ?_
  rw [compare_lt_iff_lt, compare_eq_iff_eq, Location.compareMembers_eq_lt_iff]
  rfl

theorem DiagnosticCode.compare_eq_lt_iff {code later : DiagnosticCode} :
    compare code later = .lt ↔ code.Precedes later :=
  (compare_lt_iff_lt : compare code.number later.number = .lt ↔ code.number < later.number)

theorem Location.increasing_iff {locations : List Location} :
    Sorted.Increasing locations ↔ locations.Pairwise Location.Precedes := by
  simp only [Sorted.Increasing, Location.compare_eq_lt_iff]

theorem DiagnosticCode.increasing_iff {codes : List DiagnosticCode} :
    Sorted.Increasing codes ↔ codes.Pairwise DiagnosticCode.Precedes := by
  simp only [Sorted.Increasing, DiagnosticCode.compare_eq_lt_iff]

end Orders

namespace BlockedMembers

/-- Some diagnostic is an error with the code at the location. -/
def HasError (diagnostics : List Diagnostic) (location : Location) (code : DiagnosticCode) :
    Prop :=
  ∃ diagnostic ∈ diagnostics,
    diagnostic.isError = true ∧ diagnostic.location = location ∧ diagnostic.code = code

/-- A map from the members with errors among some diagnostics to the codes of these errors. -/
structure IsMapOf (diagnostics : List Diagnostic) (blocked : BlockedMembers) : Prop where
  ordered : (blocked.entries.map Prod.fst).Pairwise Location.Precedes
  located : ∀ location, location ∈ blocked.entries.map Prod.fst ↔
    location.member.isSome = true ∧ ∃ code, HasError diagnostics location code
  codesOrdered : ∀ entry ∈ blocked.entries, entry.2.Pairwise DiagnosticCode.Precedes
  coded : ∀ entry ∈ blocked.entries, ∀ code, code ∈ entry.2 ↔ HasError diagnostics entry.1 code

section Uniqueness

variable {diagnostics others : List Diagnostic} {blocked other : BlockedMembers}

theorem hasError_congr {location : Location} (isMember : location.member.isSome = true)
    (same : ∀ diagnostic, Validation.blocks diagnostic = true →
      (diagnostic ∈ diagnostics ↔ diagnostic ∈ others)) (code : DiagnosticCode) :
    HasError diagnostics location code ↔ HasError others location code := by
  apply exists_congr
  intro diagnostic
  apply and_congr_left
  rintro ⟨isError, rfl, _⟩
  apply same
  simp [Validation.blocks, isError, isMember]

/-- Only errors of members count. -/
theorem IsMapOf.congr (isMap : blocked.IsMapOf diagnostics)
    (same : ∀ diagnostic, Validation.blocks diagnostic = true →
      (diagnostic ∈ diagnostics ↔ diagnostic ∈ others)) :
    blocked.IsMapOf others := by
  refine ⟨isMap.ordered, ?_, isMap.codesOrdered, ?_⟩
  · intro location
    rw [isMap.located]
    apply and_congr_right
    intro isMember
    exact exists_congr (hasError_congr isMember same)
  · intro entry present code
    have isMember := ((isMap.located entry.1).mp (List.mem_map_of_mem present)).1
    rw [isMap.coded entry present]
    exact hasError_congr isMember same code

/-- The entries are known from their keys. -/
theorem IsMapOf.entries_eq (isMap : blocked.IsMapOf diagnostics) :
    blocked.entries = (blocked.entries.map Prod.fst).map fun location =>
      (location, Validation.blockingCodes ⟨diagnostics⟩ location) := by
  rw [List.map_map]
  refine (List.map_id _).symm.trans (List.map_congr_left ?_)
  intro entry present
  have codes : entry.2 = Validation.blockingCodes ⟨diagnostics⟩ entry.1 := by
    apply Sorted.Increasing.eq_of_mem_iff
    · exact DiagnosticCode.increasing_iff.mpr (isMap.codesOrdered entry present)
    · exact DiagnosticCode.increasing_all.filter _
    · intro code
      rw [isMap.coded entry present, Validation.mem_blockingCodes]
      rfl
  exact Prod.ext rfl codes

/-- There is only one such map. -/
theorem IsMapOf.eq (isMap : blocked.IsMapOf diagnostics) (isMap' : other.IsMapOf diagnostics) :
    blocked = other := by
  have keys : blocked.entries.map Prod.fst = other.entries.map Prod.fst := by
    apply Sorted.Increasing.eq_of_mem_iff
    · exact Location.increasing_iff.mpr isMap.ordered
    · exact Location.increasing_iff.mpr isMap'.ordered
    · intro location
      rw [isMap.located, isMap'.located]
  have entries : blocked.entries = other.entries := by
    rw [isMap.entries_eq, isMap'.entries_eq, keys]
  cases blocked
  cases other
  exact congrArg BlockedMembers.mk entries

end Uniqueness

theorem map_fst_foldl_add (diagnostics : List Diagnostic) (blocked : BlockedMembers) :
    (diagnostics.foldl (fun blocked diagnostic => blocked.add diagnostic.location diagnostic.code)
        blocked).entries.map Prod.fst =
      (diagnostics.map Diagnostic.location).foldl
        (fun sorted location => Sorted.insertKey location sorted)
        (blocked.entries.map Prod.fst) := by
  induction diagnostics generalizing blocked with
  | nil => rfl
  | cons diagnostic diagnostics ih =>
      rw [List.foldl_cons, ih, List.map_cons, List.foldl_cons, add, Sorted.map_fst_insert]

end BlockedMembers

namespace Validation

theorem map_fst_blockedMembers (validation : Validation) :
    validation.blockedMembers.entries.map Prod.fst =
      Sorted.ofKeys ((validation.diagnostics.filter blocks).map Diagnostic.location) :=
  BlockedMembers.map_fst_foldl_add _ .empty

theorem isMapOf_blockedMembers (validation : Validation) :
    validation.blockedMembers.IsMapOf validation.diagnostics := by
  have increasing : Sorted.Increasing (validation.blockedMembers.entries.map Prod.fst) := by
    rw [map_fst_blockedMembers]
    exact Sorted.increasing_ofKeys _
  have located (location : Location) :
      location ∈ validation.blockedMembers.entries.map Prod.fst ↔
        location.member.isSome = true ∧
          ∃ code, BlockedMembers.HasError validation.diagnostics location code := by
    simp only [map_fst_blockedMembers, Sorted.mem_ofKeys, List.mem_map, List.mem_filter, blocks,
      Bool.and_eq_true]
    constructor
    · rintro ⟨diagnostic, ⟨present, isError, isMember⟩, rfl⟩
      exact ⟨isMember, diagnostic.code, diagnostic, present, isError, rfl, rfl⟩
    · rintro ⟨isMember, code, diagnostic, present, isError, rfl, _⟩
      exact ⟨diagnostic, ⟨present, isError, isMember⟩, rfl⟩
  have codes : ∀ entry ∈ validation.blockedMembers.entries,
      entry.2 = validation.blockingCodes entry.1 := by
    rintro ⟨⟨typeName, member⟩, codes⟩ present
    have isMember := ((located _).mp (List.mem_map_of_mem present)).1
    rcases Option.isSome_iff_exists.mp isMember with ⟨name, rfl⟩
    have found : validation.blockedMembers.codes? (.ofMember typeName name) = some codes :=
      Sorted.find?_of_mem increasing present
    rw [codes?_blockedMembers] at found
    split_ifs at found
    exact (Option.some.inj found).symm
  refine ⟨Location.increasing_iff.mp increasing, located, ?_, ?_⟩
  · intro entry present
    rw [codes entry present]
    exact DiagnosticCode.increasing_iff.mp (DiagnosticCode.increasing_all.filter _)
  · intro entry present code
    rw [codes entry present, mem_blockingCodes]
    rfl

/-- The blocked members are the one map from the members with errors to the codes of these errors,
in the order of locations and of codes. Diagnostics that are no errors or not about a member do not
change it, nor does the order or the repetition of those that are. -/
theorem blockedMembers_canonical (validation : Validation) :
    validation.blockedMembers.IsMapOf validation.diagnostics ∧
    (∀ blocked : BlockedMembers, blocked.IsMapOf validation.diagnostics →
      blocked = validation.blockedMembers) ∧
    (∀ other : Validation,
      (∀ diagnostic, blocks diagnostic = true →
        (diagnostic ∈ other.diagnostics ↔ diagnostic ∈ validation.diagnostics)) →
      other.blockedMembers = validation.blockedMembers) := by
  have isMap := isMapOf_blockedMembers validation
  refine ⟨isMap, ?_, ?_⟩
  · intro blocked isMap'
    exact isMap'.eq isMap
  · intro other same
    exact ((isMapOf_blockedMembers other).congr same).eq isMap

/-- Two errors of one member, a warning about it and an error of its type. -/
def mixedDiagnostics : List Diagnostic :=
  [⟨.invalidFlagSyntax, .error, "malformed", .ofMember "Build" "level"⟩,
    ⟨.requiredNullable, .warning, "optional", .ofMember "Build" "level"⟩,
    ⟨.malformedArguments, .error, "duplicate", .ofType "Build"⟩,
    ⟨.misplacedOption, .error, "misplaced", .ofMember "Build" "level"⟩]

/-- The errors of the member alone, in both orders, give the same map as all diagnostics. -/
theorem blockedMembers_canonical_mixedDiagnostics :
    let errors := mixedDiagnostics.filter blocks
    (Validation.mk mixedDiagnostics).blockedMembers =
        ⟨[(.ofMember "Build" "level", [.misplacedOption, .invalidFlagSyntax])]⟩ ∧
      (Validation.mk (errors ++ errors.reverse)).blockedMembers =
        (Validation.mk mixedDiagnostics).blockedMembers := by
  intro errors
  refine ⟨by decide, (blockedMembers_canonical _).2.2 _ ?_⟩
  intro diagnostic blocking
  simp [errors, blocking]

end Validation

end OptionCompiler
