import Mathlib
import OptionCompiler.Extraction
import OptionCompiler.Descriptor.Encoding
import OptionCompiler.Proofs.Annotation.Binding
/-!
# The constraints that extraction attaches

A constraint annotation states a mode: the first argument that is positional or named after the
field, when it is a text, and existing paths only when there is none. The annotation is attached
when it is the first of its kind on its member, the values of the member are paths of that kind,
and the mode is one of that kind. A constraint annotation on a member with paths of its kind that
is not attached is a problem.
-/

namespace OptionCompiler

theorem PathKind.annotationName_of_ofAnnotationName? {name : String} {kind : PathKind}
    (named : ofAnnotationName? name = some kind) : kind.annotationName = name := by
  unfold ofAnnotationName? at named
  split at named
  · next file => cases named; exact file.symm
  · split at named
    · next directory => cases named; exact directory.symm
    · cases named

namespace Annotation

/-- The message says that the annotation is malformed. -/
def IsMalformedBy (mark : Annotation) (message : String) : Prop :=
  ∃ reason, message = "malformed `" ++ mark.name ++ "` annotation: " ++ reason

theorem isMalformedBy_repetition (mark : Annotation) :
    mark.IsMalformedBy (Extraction.repetition mark.name) := by
  refine ⟨"annotation repeated; only the first is used", ?_⟩
  have wording : "` annotation: annotation repeated; only the first is used" =
      "` annotation: " ++ "annotation repeated; only the first is used" := rfl
  rw [Extraction.repetition, wording, ← String.append_assoc]

/-- The first argument that can only be the mode. -/
def modeArgument? (mark : Annotation) : Option Literal :=
  (mark.args.find? fun argument => argument.name.isNone || argument.name == some "mode").map
    Argument.value

/-- The mode that a constraint annotation states. -/
def statedMode (mark : Annotation) : String :=
  match mark.modeArgument? with
  | some (.string text) => text
  | _ => "ExistingOnly"

/-- The first argument that is positional or named after the mode gives the mode. -/
theorem given?_mode (arguments : List Argument) :
    Argument.given? constraintFields "mode" 0 arguments =
      (arguments.find? fun argument =>
        argument.name.isNone || argument.name == some "mode").map Argument.value := by
  induction arguments with
  | nil => rfl
  | cons argument arguments ih =>
      rcases argument with ⟨_ | name, value⟩
      · rfl
      · by_cases named : name = "mode"
        · subst named
          rfl
        · rw [List.find?_cons_of_neg (by simp [named]), ← ih]
          simp [Argument.given?, Argument.aim?, constraintFields, named]

theorem text?_mode (mark : Annotation) :
    ((Reading.text? (Binding.ofArguments constraintFields mark.args) "mode").value.getD
      "ExistingOnly") = mark.statedMode := by
  have bound : (Binding.ofArguments constraintFields mark.args).bound.lookup "mode" =
      mark.modeArgument? :=
    (Binding.lookup_addAll_eq .empty mark.args).trans (given?_mode mark.args)
  unfold Reading.text? Binding.get? statedMode
  rw [bound]
  cases mark.modeArgument? with
  | none => rfl
  | some value => cases value <;> rfl

/-- A constraint that is read has the kind and the mode of its annotation. -/
theorem readConstraint_value {kind : PathKind} {mark : Annotation} {constraint : PathConstraint}
    (read : (mark.readConstraint kind).value = some constraint) :
    constraint.pathKind = kind ∧ constraint.modeName = mark.statedMode := by
  have stated := mark.text?_mode
  simp only [readConstraint] at read
  unfold constraintOfMode at read
  rw [stated] at read
  split at read
  · next mode => cases read; exact ⟨rfl, mode.symm⟩
  · next mode => cases read; exact ⟨rfl, mode.symm⟩
  · next mode => cases read; exact ⟨rfl, mode.symm⟩
  · cases read

/-- A constraint that is not read is a problem. -/
theorem readConstraint_problems {kind : PathKind} {mark : Annotation}
    (unread : (mark.readConstraint kind).value = none) :
    (mark.readConstraint kind).problems ≠ [] := by
  simp only [readConstraint] at unread ⊢
  unfold constraintOfMode at unread ⊢
  split at unread <;> simp_all [Reading.clean]

end Annotation

namespace Extraction

namespace ConstraintReading

variable {backing : BackingType}

theorem constraints_add (reading : ConstraintReading) (constraint : PathKind × Annotation)
    (member : PathConstraint) :
    member ∈ (add backing reading constraint).constraints ↔
      member ∈ reading.constraints ∨
        constraint.1 ∉ reading.seen ∧ backing.pathKind? = some constraint.1 ∧
          (constraint.2.readConstraint constraint.1).value = some member := by
  rcases constraint with ⟨kind, mark⟩
  simp only [add]
  split
  · next seen => simp [seen]
  · next unseen =>
      split
      · next suits => simp [unseen, suits]
      · next unsuited => simp [unsuited]

theorem problems_add (reading : ConstraintReading) (constraint : PathKind × Annotation) :
    reading.problems ⊆ (add backing reading constraint).problems := by
  rcases constraint with ⟨kind, mark⟩
  simp only [add]
  split <;> exact List.subset_append_left _ _

theorem seen_add (reading : ConstraintReading) (constraint : PathKind × Annotation)
    (kind : PathKind) :
    kind ∈ (add backing reading constraint).seen ↔ kind ∈ reading.seen ∨ kind = constraint.1 := by
  rcases constraint with ⟨own, mark⟩
  simp only [add]
  split
  · next seen =>
      constructor
      · exact .inl
      · rintro (old | rfl)
        · exact old
        · exact seen
  · simp

theorem seen_addAll (annotations : List (PathKind × Annotation)) (reading : ConstraintReading)
    (kind : PathKind) :
    kind ∈ (annotations.foldl (add backing) reading).seen ↔
      kind ∈ reading.seen ∨ kind ∈ annotations.map Prod.fst := by
  induction annotations generalizing reading with
  | nil => simp
  | cons annotation annotations ih =>
      rw [List.foldl_cons, ih, seen_add]
      simp [or_assoc]

theorem constraints_addAll_subset (annotations : List (PathKind × Annotation))
    (reading : ConstraintReading) :
    reading.constraints ⊆ (annotations.foldl (add backing) reading).constraints := by
  induction annotations generalizing reading with
  | nil => exact List.Subset.refl _
  | cons annotation annotations ih =>
      intro constraint member
      apply ih
      exact (constraints_add reading annotation constraint).mpr (.inl member)

theorem problems_addAll_subset (annotations : List (PathKind × Annotation))
    (reading : ConstraintReading) :
    reading.problems ⊆ (annotations.foldl (add backing) reading).problems := by
  induction annotations generalizing reading with
  | nil => exact List.Subset.refl _
  | cons annotation annotations ih =>
      exact List.Subset.trans (problems_add reading annotation) (ih _)

/-- Every attached constraint suits the values of the option. -/
theorem pathKind_of_mem_addAll (annotations : List (PathKind × Annotation))
    (reading : ConstraintReading)
    (suits : ∀ constraint ∈ reading.constraints, backing.pathKind? = some constraint.pathKind) :
    ∀ constraint ∈ (annotations.foldl (add backing) reading).constraints,
      backing.pathKind? = some constraint.pathKind := by
  induction annotations generalizing reading with
  | nil => exact suits
  | cons annotation annotations ih =>
      apply ih
      intro constraint member
      rcases (constraints_add reading annotation constraint).mp member with old | ⟨_, kind, read⟩
      · exact suits constraint old
      · have stated := Annotation.readConstraint_value read
        rw [kind, stated.1]

theorem pathKind_of_mem_ofMember (backing : BackingType) (member : Member) :
    ∀ constraint ∈ (ofMember backing member).constraints,
      backing.pathKind? = some constraint.pathKind := by
  apply pathKind_of_mem_addAll
  simp

/-- The first constraint of a kind is attached, and every other one is a problem. -/
theorem attached_or_problem_of_add (reading : ConstraintReading) {kind : PathKind}
    {mark : Annotation} (named : PathKind.ofAnnotationName? mark.name = some kind)
    (suits : backing.pathKind? = some kind) :
    (kind ∉ reading.seen ∧ ∃ constraint ∈ (add backing reading (kind, mark)).constraints,
        constraint.pathKind = kind ∧ constraint.modeName = mark.statedMode) ∨
      ∃ problem ∈ (add backing reading (kind, mark)).problems, mark.IsMalformedBy problem := by
  by_cases seen : kind ∈ reading.seen
  · right
    refine ⟨repetition kind.annotationName, ?_, ?_⟩
    · simp [add, seen]
    · rw [PathKind.annotationName_of_ofAnnotationName? named]
      exact mark.isMalformedBy_repetition
  · cases read : (mark.readConstraint kind).value with
    | some constraint =>
        left
        refine ⟨seen, constraint, ?_, Annotation.readConstraint_value read⟩
        exact (constraints_add reading (kind, mark) constraint).mpr (.inr ⟨seen, suits, read⟩)
    | none =>
        right
        have problems := Annotation.readConstraint_problems read
        rcases List.exists_mem_of_ne_nil _ problems with ⟨problem, member⟩
        refine ⟨"malformed `" ++ mark.name ++ "` annotation: " ++ problem.message, ?_,
          problem.message, rfl⟩
        simp only [add, seen, ↓reduceIte]
        apply List.mem_append_right
        exact List.mem_map_of_mem member

/-- A constraint annotation that suits the values of its member is attached or is a problem. -/
theorem attached_or_problem {member : Member} {kind : PathKind} {mark : Annotation}
    {before after : List (PathKind × Annotation)}
    (place : member.constraintAnnotations = before ++ (kind, mark) :: after)
    (named : PathKind.ofAnnotationName? mark.name = some kind)
    (suits : backing.pathKind? = some kind) :
    (kind ∉ before.map Prod.fst ∧ ∃ constraint ∈ (ofMember backing member).constraints,
        constraint.pathKind = kind ∧ constraint.modeName = mark.statedMode) ∨
      ∃ problem ∈ (ofMember backing member).problems, mark.IsMalformedBy problem := by
  have whole : ofMember backing member =
      after.foldl (add backing)
        (add backing (before.foldl (add backing) ⟨[], [], []⟩) (kind, mark)) := by
    rw [ofMember, place, List.foldl_append, List.foldl_cons]
  rw [whole]
  rcases attached_or_problem_of_add (before.foldl (add backing) ⟨[], [], []⟩) named suits with
    ⟨unseen, constraint, attached, stated⟩ | ⟨problem, reported, wording⟩
  · left
    refine ⟨?_, constraint, constraints_addAll_subset _ _ attached, stated⟩
    intro repeated
    exact unseen ((seen_addAll before _ kind).mpr (.inr repeated))
  · right
    exact ⟨problem, problems_addAll_subset _ _ reported, wording⟩

end ConstraintReading

end Extraction

end OptionCompiler
