import Mathlib
import OptionCompiler.Configuration
import OptionCompiler.Extraction
import OptionCompiler.Validation
import OptionCompiler.Proofs.Json.Fields
/-!
# What the documents of results tell apart

Diagnostics, descriptors, blocked members and what a user may set are determined by their
documents, and none of these documents has a number that is not finite.
-/

namespace OptionCompiler

section Names

theorem ValueShape.name_injective : Function.Injective ValueShape.name := by
  intro left right equal
  cases left <;> cases right <;> first | rfl | exact absurd equal (by decide)

theorem DiagnosticCode.name_injective : Function.Injective DiagnosticCode.name := by
  intro left right equal
  cases left <;> cases right <;> first | rfl | exact absurd equal (by decide)

theorem Severity.name_injective : Function.Injective Severity.name := by
  intro left right equal
  cases left <;> cases right <;> first | rfl | exact absurd equal (by decide)

end Names

section Diagnostics

theorem Location.toJson_injective : Function.Injective Location.toJson := by
  intro left right equal
  have fields := Json.fields_eq_of_ofFields ["type_name", "member"] (by decide) (by simp)
    (by simp) equal
  cases left
  cases right
  simpa using fields

theorem Diagnostic.toJson_injective : Function.Injective Diagnostic.toJson := by
  rintro ⟨code, severity, message, location⟩ ⟨code', severity', message', location'⟩ equal
  simp only [toJson, Json.object.injEq, List.cons.injEq, Prod.mk.injEq, Json.string.injEq,
    true_and, and_true] at equal
  rcases equal with ⟨codes, severities, rfl, locations⟩
  rw [DiagnosticCode.name_injective codes, Severity.name_injective severities,
    Location.toJson_injective locations]

theorem BlockedMembers.toJson_injective : Function.Injective BlockedMembers.toJson := by
  rintro ⟨entries⟩ ⟨entries'⟩ equal
  simp only [toJson, Json.array.injEq] at equal
  refine congrArg BlockedMembers.mk (List.map_injective_iff.mpr ?_ equal)
  rintro ⟨location, codes⟩ ⟨location', codes'⟩ entryEqual
  simp only [DiagnosticCode.listToJson, Json.array.injEq, List.cons.injEq, and_true]
    at entryEqual
  rcases entryEqual with ⟨locations, names⟩
  have codesEqual : codes = codes' := by
    refine List.map_injective_iff.mpr ?_ names
    intro code code' nameEqual
    exact DiagnosticCode.name_injective (Json.string.inj nameEqual)
  rw [Location.toJson_injective locations, codesEqual]

@[simp]
theorem Location.isSettled_toJson (location : Location) : location.toJson.IsSettled := by
  simp [toJson]

@[simp]
theorem Diagnostic.isSettled_toJson (diagnostic : Diagnostic) : diagnostic.toJson.IsSettled := by
  simp [toJson]

@[simp]
theorem BlockedMembers.isSettled_toJson (blocked : BlockedMembers) :
    blocked.toJson.IsSettled := by
  simp only [toJson, Json.isSettled_array, List.mem_map]
  rintro _ ⟨⟨location, codes⟩, _, rfl⟩
  simp [DiagnosticCode.listToJson]

end Diagnostics

section Descriptors

theorem Arity.toJson_injective : Function.Injective Arity.toJson := by
  rintro ⟨min, max⟩ ⟨min', max'⟩ equal
  simp only [toJson, Json.object.injEq, List.cons.injEq, Prod.mk.injEq, Json.integer.injEq,
    Nat.cast_inj, UInt32.toNat_inj, true_and, and_true] at equal
  rcases equal with ⟨rfl, maxEqual⟩
  cases max <;> cases max' <;> simp_all [UInt32.toNat_inj]

theorem BackingType.toJson_injective : Function.Injective BackingType.toJson := by
  intro left right equal
  cases left <;> cases right <;>
    simp_all [toJson, kindName, ValueShape.name_injective.eq_iff]

theorem PathConstraint.toJson_injective : Function.Injective PathConstraint.toJson := by
  intro left right equal
  rcases left with (_ | _) | _ <;> rcases right with (_ | _) | _ <;>
    simp_all [toJson, pathKind, modeName, PathKind.annotationName, DirectoryMode.name,
      FileMode.name]

theorem OptionDescriptor.toJson_injective : Function.Injective OptionDescriptor.toJson := by
  intro left right equal
  simp only [toJson, Json.object.injEq, List.cons.injEq, Prod.mk.injEq, Json.string.injEq,
    Json.bool.injEq, Json.array.injEq, Json.ofText?_inj, true_and, and_true,
    Arity.toJson_injective.eq_iff, BackingType.toJson_injective.eq_iff,
    Location.toJson_injective.eq_iff,
    (List.map_injective_iff.mpr PathConstraint.toJson_injective).eq_iff,
    (List.map_injective_iff.mpr fun _ _ => Json.string.inj).eq_iff] at equal
  cases left
  cases right
  simp_all

theorem CommandDescriptor.toJson_injective : Function.Injective CommandDescriptor.toJson := by
  intro left right equal
  simp only [toJson, Json.object.injEq, List.cons.injEq, Prod.mk.injEq, Json.string.injEq,
    Json.array.injEq, Json.ofText?_inj, true_and, and_true, Location.toJson_injective.eq_iff,
    (List.map_injective_iff.mpr OptionDescriptor.toJson_injective).eq_iff] at equal
  cases left
  cases right
  simp_all

@[simp]
theorem Arity.isSettled_toJson (arity : Arity) : arity.toJson.IsSettled := by
  rcases arity with ⟨min, _ | max⟩ <;> simp [toJson]

@[simp]
theorem BackingType.isSettled_toJson (backing : BackingType) : backing.toJson.IsSettled := by
  cases backing <;> simp [toJson]

@[simp]
theorem PathConstraint.isSettled_toJson (constraint : PathConstraint) :
    constraint.toJson.IsSettled := by
  simp [toJson]

@[simp]
theorem OptionDescriptor.isSettled_toJson (option : OptionDescriptor) :
    option.toJson.IsSettled := by
  simp [toJson]

@[simp]
theorem CommandDescriptor.isSettled_toJson (command : CommandDescriptor) :
    command.toJson.IsSettled := by
  simp [toJson]

theorem Extraction.toJson_injective : Function.Injective Extraction.toJson := by
  rintro ⟨commands, diagnostics⟩ ⟨commands', diagnostics'⟩ equal
  simp only [toJson, Json.object.injEq, List.cons.injEq, Prod.mk.injEq, Json.array.injEq,
    true_and, and_true, (List.map_injective_iff.mpr CommandDescriptor.toJson_injective).eq_iff,
    (List.map_injective_iff.mpr Diagnostic.toJson_injective).eq_iff] at equal
  rw [equal.1, equal.2]

@[simp]
theorem Extraction.isSettled_toJson (extraction : Extraction) : extraction.toJson.IsSettled := by
  simp [toJson]

/-- The document of a list of commands. -/
theorem CommandDescriptor.listToJson_injective :
    Function.Injective fun commands : List CommandDescriptor =>
      Json.array (commands.map CommandDescriptor.toJson) := by
  intro lefts rights equal
  exact List.map_injective_iff.mpr CommandDescriptor.toJson_injective (Json.array.inj equal)

end Descriptors

section Settings

theorem SeverityTable.toJson_injective : Function.Injective SeverityTable.toJson := by
  rintro ⟨sorted⟩ ⟨sorted'⟩ equal
  simp only [toJson, Json.object.injEq] at equal
  refine congrArg SeverityTable.mk (Sorted.Entries.eq_of_toList_eq ?_)
  refine List.map_injective_iff.mpr ?_ equal
  rintro ⟨code, severity⟩ ⟨code', severity'⟩ entryEqual
  simp only [Prod.mk.injEq, Json.string.injEq] at entryEqual
  rw [DiagnosticCode.name_injective entryEqual.1, Severity.name_injective entryEqual.2]

theorem EmitOptions.toJson_injective : Function.Injective EmitOptions.toJson := by
  intro left right equal
  cases left
  cases right
  simpa [toJson] using equal

@[simp]
theorem SeverityTable.isSettled_toJson (table : SeverityTable) : table.toJson.IsSettled := by
  simp only [toJson, Json.isSettled_object, List.mem_map]
  rintro _ ⟨⟨code, severity⟩, _, rfl⟩
  exact Json.isSettled_string _

@[simp]
theorem EmitOptions.isSettled_toJson (options : EmitOptions) : options.toJson.IsSettled := by
  simp [toJson]

end Settings

end OptionCompiler
