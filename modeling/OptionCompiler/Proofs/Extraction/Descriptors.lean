import Mathlib
import OptionCompiler.Proofs.Annotation.Binding
import OptionCompiler.Proofs.Extraction.Constraints
import OptionCompiler.Proofs.Extraction.Tree
/-!
# What descriptors say

The types that give a command and the commands of an extraction are the same in number and order,
and so are the members of such a type that give an option and the options of its command. What
the rules and the emission rely on is established here once for all options: where an option
stands, what its values are, and that its aliases, its constraints and its arity are in order.

Every problem that extraction reports is an error about malformed arguments, at a command
container or at one of its members with an option annotation.
-/

namespace OptionCompiler

section Correspondence

variable {α β : Type} {give : α → Option β} {gives : α → Bool} {related : α → β → Prop}

/-- What the elements of a list give stands in the order of the elements that give something. -/
theorem forall₂_filterMap_of_gives (agree : ∀ element, (give element).isSome = gives element)
    (relates : ∀ element given, give element = some given → related element given)
    (elements : List α) :
    List.Forall₂ related (elements.filter gives) (elements.filterMap give) := by
  induction elements with
  | nil => exact .nil
  | cons element elements ih =>
      have own := agree element
      cases gift : give element with
      | none =>
          have lacks : gives element = false := by simpa [gift] using own.symm
          rw [List.filter_cons_of_neg (by simp [lacks]), List.filterMap_cons_none gift]
          exact ih
      | some given =>
          have has : gives element = true := by simpa [gift] using own.symm
          rw [List.filter_cons_of_pos has, List.filterMap_cons_some gift]
          exact .cons (relates element given gift) ih

end Correspondence

namespace Extraction

section Aliases

/-- The aliases kept so far with one more, unless it is known. -/
def keepAlias (primaryFlag : String) (kept : List String) (flag : String) : List String :=
  if flag = primaryFlag ∨ flag ∈ kept then kept else kept ++ [flag]

variable {primaryFlag : String}

theorem mem_keepAlias {kept : List String} {flag other : String} :
    other ∈ keepAlias primaryFlag kept flag ↔
      other ∈ kept ∨ other = flag ∧ other ≠ primaryFlag := by
  unfold keepAlias
  by_cases primary : flag = primaryFlag
  · subst primary
    simp
  · by_cases old : flag ∈ kept
    · simp only [old, or_true, if_true]
      constructor
      · exact .inl
      · rintro (member | ⟨rfl, _⟩)
        · exact member
        · exact old
    · simp only [primary, old, or_self, if_false, List.mem_append, List.mem_singleton]
      constructor
      · rintro (member | rfl)
        · exact .inl member
        · exact .inr ⟨rfl, primary⟩
      · rintro (member | ⟨same, _⟩)
        · exact .inl member
        · exact .inr same

theorem nodup_keepAlias {kept : List String} (nodup : kept.Nodup) (flag : String) :
    (keepAlias primaryFlag kept flag).Nodup := by
  unfold keepAlias
  split
  · exact nodup
  · next fresh =>
      apply nodup.append (List.nodup_singleton flag)
      simpa using fun known => fresh (.inr known)

/-- The aliases of an option are the stated ones without the primary flag. -/
theorem mem_distinctAliases {aliases : List String} {flag : String} :
    flag ∈ distinctAliases primaryFlag aliases ↔ flag ∈ aliases ∧ flag ≠ primaryFlag := by
  have folded (kept : List String) :
      flag ∈ aliases.foldl (keepAlias primaryFlag) kept ↔
        flag ∈ kept ∨ flag ∈ aliases ∧ flag ≠ primaryFlag := by
    induction aliases generalizing kept with
    | nil => simp
    | cons first aliases ih =>
        rw [List.foldl_cons, ih, mem_keepAlias, List.mem_cons]
        tauto
  exact (folded []).trans (by simp)

theorem nodup_distinctAliases (primaryFlag : String) (aliases : List String) :
    (distinctAliases primaryFlag aliases).Nodup := by
  have folded (kept : List String) (nodup : kept.Nodup) :
      (aliases.foldl (keepAlias primaryFlag) kept).Nodup := by
    induction aliases generalizing kept with
    | nil => exact nodup
    | cons first aliases ih => exact ih _ (nodup_keepAlias nodup first)
  exact folded [] List.nodup_nil

end Aliases

namespace ConstraintReading

variable {backing : BackingType}

/-- At most one constraint is attached, and then its kind, the only one that suits the values of
the option, has been seen. -/
def IsSingle (backing : BackingType) (reading : ConstraintReading) : Prop :=
  reading.constraints = [] ∨
    ∃ constraint kind, reading.constraints = [constraint] ∧ backing.pathKind? = some kind ∧
      kind ∈ reading.seen

theorem IsSingle.add {reading : ConstraintReading} (single : reading.IsSingle backing)
    (constraint : PathKind × Annotation) :
    (ConstraintReading.add backing reading constraint).IsSingle backing := by
  rcases constraint with ⟨kind, mark⟩
  simp only [ConstraintReading.add]
  split
  · exact single
  · next unseen =>
      rcases single with none | ⟨attached, suited, one, suits, seen⟩
      · by_cases suits : backing.pathKind? = some kind
        · cases (mark.readConstraint kind).value with
          | none => exact .inl (by simp [none])
          | some constraint =>
              exact .inr ⟨constraint, kind, by simp [none, suits], suits, by simp⟩
        · exact .inl (by simp [none, suits])
      · -- A second constraint would have to be of the kind that was seen.
        have other : backing.pathKind? ≠ some kind := by
          intro same
          rw [suits] at same
          exact unseen (Option.some.inj same ▸ seen)
        exact .inr ⟨attached, suited, by simp [one, other], suits, by simp [seen]⟩

theorem isSingle_ofMember (backing : BackingType) (member : Member) :
    (ofMember backing member).IsSingle backing := by
  have folded (annotations : List (PathKind × Annotation)) (reading : ConstraintReading)
      (single : reading.IsSingle backing) :
      (annotations.foldl (ConstraintReading.add backing) reading).IsSingle backing := by
    induction annotations generalizing reading with
    | nil => exact single
    | cons annotation annotations ih => exact ih _ (single.add annotation)
  exact folded _ _ (.inl rfl)

theorem length_constraints_ofMember (backing : BackingType) (member : Member) :
    (ofMember backing member).constraints.length ≤ 1 := by
  rcases isSingle_ofMember backing member with none | ⟨_, _, one, _, _⟩
  · simp [none]
  · simp [one]

end ConstraintReading

end Extraction

/-- No plain scalar is made of a shape with a backing type of its own. -/
theorem BackingType.shape_of_classify_eq_scalar {type : DeclaredType} {shape : ValueShape}
    (classified : BackingType.classify type = .scalar shape) :
    shape ≠ .bool ∧ shape ≠ .file ∧ shape ≠ .directory := by
  rcases type with ⟨declared, nullable, sequence, element⟩
  cases sequence <;> cases nullable <;> cases declared <;> cases classified <;> simp

section Descriptions

/-- The option describes the member. -/
structure OptionDescriptor.Describes (option : OptionDescriptor) (typeName : String)
    (member : Member) : Prop where
  member_eq : option.member = member.name
  location_eq : option.location = .ofMember typeName member.name
  backingType_eq : option.backingType = .classify member.type
  scalar_shape : ∀ shape, option.backingType = .scalar shape →
    shape ≠ .bool ∧ shape ≠ .file ∧ shape ≠ .directory
  aliases_nodup : option.aliases.Nodup
  primaryFlag_notMem : option.primaryFlag ∉ option.aliases
  constraints_length : option.constraints.length ≤ 1
  constraints_pathKind : ∀ constraint ∈ option.constraints,
    option.backingType.pathKind? = some constraint.pathKind
  arity_eq : ∃ mark ∈ member.optionAnnotation?,
    option.arity =
      ⟨(mark.statedCount? "arity_min").getD option.backingType.defaultArity.min,
        (mark.statedCount? "arity_max").or option.backingType.defaultArity.max⟩

/-- The command describes the type, and its options describe the members that give one. -/
structure CommandDescriptor.Describes (command : CommandDescriptor)
    (declaration : TypeDeclaration) : Prop where
  typeName_eq : command.typeName = declaration.name
  location_eq : command.location = .ofType declaration.name
  options : List.Forall₂ (fun member option => option.Describes declaration.name member)
    (declaration.members.filter Member.givesOption) command.options

/-- The diagnostic is an error about malformed arguments at the type, or at one of its members
with an option annotation. -/
structure Diagnostic.Concerns (diagnostic : Diagnostic) (declaration : TypeDeclaration) :
    Prop where
  code_eq : diagnostic.code = .malformedArguments
  severity_eq : diagnostic.severity = .error
  location_eq : diagnostic.location = .ofType declaration.name ∨
    ∃ member ∈ declaration.members, member.hasOption = true ∧
      diagnostic.location = .ofMember declaration.name member.name

theorem Diagnostic.Concerns.typeName_eq {diagnostic : Diagnostic}
    {declaration : TypeDeclaration} (concerns : diagnostic.Concerns declaration) :
    diagnostic.location.typeName = declaration.name := by
  rcases concerns.location_eq with type | ⟨member, _, _, here⟩
  · rw [type]
    rfl
  · rw [here]
    rfl

namespace Extraction

theorem describes_optionOf {member : Member} {mark : Annotation}
    (present : member.optionAnnotation? = some mark) (typeName : String) :
    (optionOf typeName member mark).Describes typeName member where
  member_eq := rfl
  location_eq := rfl
  backingType_eq := rfl
  scalar_shape := fun _ scalar => BackingType.shape_of_classify_eq_scalar scalar
  aliases_nodup := nodup_distinctAliases _ _
  primaryFlag_notMem := fun listed => (mem_distinctAliases.mp listed).2 rfl
  constraints_length := ConstraintReading.length_constraints_ofMember _ member
  constraints_pathKind := ConstraintReading.pathKind_of_mem_ofMember _ member
  arity_eq := by
    refine ⟨mark, present, ?_⟩
    rw [← mark.readOption_arityMin, ← mark.readOption_arityMax]
    rfl

theorem describes_commandOf (declaration : TypeDeclaration) (mark : Annotation) :
    (commandOf declaration mark).Describes declaration := by
  refine ⟨rfl, rfl, ?_⟩
  apply forall₂_filterMap_of_gives (isSome_memberOption? declaration.name)
  intro member option given
  rcases memberOption?_eq_some.mp given with ⟨mark, present, _, rfl⟩
  exact describes_optionOf present declaration.name

theorem concerns_of_mem_report {declaration : TypeDeclaration} {problems : List String}
    {diagnostic : Diagnostic} (listed : diagnostic ∈ report (.ofType declaration.name) problems) :
    diagnostic.Concerns declaration := by
  rcases List.mem_map.mp listed with ⟨problem, _, rfl⟩
  exact ⟨rfl, rfl, .inl rfl⟩

theorem concerns_of_mem_memberDiagnostics {declaration : TypeDeclaration} {member : Member}
    (belongs : member ∈ declaration.members) {diagnostic : Diagnostic}
    (listed : diagnostic ∈ memberDiagnostics declaration.name member) :
    diagnostic.Concerns declaration := by
  unfold memberDiagnostics at listed
  split at listed
  · next mark present =>
      rcases List.mem_map.mp listed with ⟨problem, _, rfl⟩
      have carries : member.hasOption = true := by
        rw [← Member.isSome_optionAnnotation?, Member.optionAnnotation?, present]
        rfl
      exact ⟨rfl, rfl, .inr ⟨member, belongs, carries, rfl⟩⟩
  · cases listed

/-- Only command containers have diagnostics. -/
theorem concerns_of_mem_ofDeclaration {declaration : TypeDeclaration} {diagnostic : Diagnostic}
    (listed : diagnostic ∈ (ofDeclaration declaration).diagnostics) :
    declaration.isCommandContainer = true ∧ diagnostic.Concerns declaration := by
  unfold ofDeclaration at listed
  cases present : declaration.commandAnnotation? with
  | none => simp [present] at listed
  | some mark =>
      refine ⟨isCommandContainer_iff.mpr ⟨mark, present⟩, ?_⟩
      cases spelled : Source.identifier declaration.name with
      | error error =>
          simp only [present, spelled] at listed
          exact concerns_of_mem_report listed
      | ok name =>
          simp only [present, spelled, commandDiagnostics, List.mem_append,
            List.mem_flatMap] at listed
          rcases listed with own | ⟨member, belongs, own⟩
          · exact concerns_of_mem_report own
          · exact concerns_of_mem_memberDiagnostics belongs own

theorem concerns_of_mem_ofSet {set : DeclarationSet} {diagnostic : Diagnostic}
    (listed : diagnostic ∈ (ofSet set).diagnostics) :
    ∃ declaration ∈ set.declarations,
      declaration.isCommandContainer = true ∧ diagnostic.Concerns declaration := by
  rw [diagnostics_ofSet, List.mem_flatMap] at listed
  rcases listed with ⟨declaration, declared, own⟩
  exact ⟨declaration, declared, concerns_of_mem_ofDeclaration own⟩

/-- Extraction describes exactly the types that give a command and their members that give an
option, in order, and every diagnostic concerns a command container. -/
theorem extract_describes (set : DeclarationSet) :
    ∃ extraction, extract set .live = .ok extraction ∧
      List.Forall₂ (fun declaration command => command.Describes declaration)
        (set.declarations.filter TypeDeclaration.givesCommand) extraction.commands ∧
      ∀ diagnostic ∈ extraction.diagnostics, ∃ declaration ∈ set.declarations,
        declaration.isCommandContainer = true ∧ diagnostic.Concerns declaration := by
  refine ⟨_, extract_live set, ?_, fun _ => concerns_of_mem_ofSet⟩
  rw [commands_ofSet_eq_filterMap]
  apply forall₂_filterMap_of_gives isSome_command?
  intro declaration command given
  rcases command?_eq_some.mp given with ⟨mark, _, _, rfl⟩
  exact describes_commandOf declaration mark

end Extraction

end Descriptions

end OptionCompiler
