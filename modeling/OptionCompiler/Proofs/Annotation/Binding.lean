import Mathlib
import OptionCompiler.Annotation.Vocabulary
/-!
# Which argument a field takes

Every argument is aimed at a field, if at any: a named one at the field of its name, and the
positional ones at the fields in order. A field takes the first argument aimed at it, whatever
stands before and after. What an option annotation says is read from the literals taken so, where
null stands for none.
-/

namespace OptionCompiler

namespace Argument

/-- The field that an argument is aimed at after some number of positional arguments. -/
def aim? (fields : List String) (position : Nat) (argument : Argument) : Option String :=
  match argument.name with
  | some name => if name ∈ fields then some name else none
  | none => fields[position]?

/-- The value of the first argument that is aimed at a field. -/
def given? (fields : List String) (field : String) (position : Nat) :
    List Argument → Option Literal
  | [] => none
  | argument :: arguments =>
      if argument.aim? fields position = some field then some argument.value
      else
        given? fields field (if argument.name.isNone then position + 1 else position) arguments

variable {fields : List String} {field : String}

/-- Past the last field it does not matter how many positional arguments there were. -/
theorem given?_of_le {position other : Nat} (past : fields.length ≤ position)
    (otherPast : fields.length ≤ other) (arguments : List Argument) :
    given? fields field position arguments = given? fields field other arguments := by
  induction arguments generalizing position other with
  | nil => rfl
  | cons argument arguments ih =>
      rcases argument with ⟨_ | name, value⟩
      · have none := List.getElem?_eq_none past
        have otherNone := List.getElem?_eq_none otherPast
        simp only [given?, aim?, none, otherNone, reduceCtorEq, if_false, Option.isNone_none,
          if_true]
        exact ih (by omega) (by omega)
      · simp only [given?, aim?, Option.isNone_some, Bool.false_eq_true, if_false]
        rw [ih past otherPast]

end Argument

namespace Binding

variable {fields : List String} {field : String}

theorem isSome_lookup_of_any {binding : Binding}
    (bound : (binding.bound.any fun entry => entry.1 = field) = true) :
    (binding.bound.lookup field).isSome = true := by
  rcases List.any_eq_true.mp bound with ⟨⟨name, value⟩, member, same⟩
  have named : name = field := by simpa using same
  subst named
  rw [List.lookup_isSome_iff]
  exact ⟨(name, value), member, by simp⟩

/-- Binding a value gives it to its field, unless the field has one. -/
theorem lookup_bind_eq (binding : Binding) (other : String) (value : Literal) :
    (binding.bind other value).bound.lookup field =
      (binding.bound.lookup field).or (if other = field then some value else none) := by
  unfold bind
  split
  · next bound =>
      change binding.bound.lookup field = _
      split
      · next same =>
          subst same
          rcases Option.isSome_iff_exists.mp (isSome_lookup_of_any bound) with ⟨kept, present⟩
          simp [present]
      · simp
  · by_cases same : other = field
    · subst same
      simp [List.lookup_append]
    · have differs : (field == other) = false := by
        simpa using fun equal => same equal.symm
      simp [List.lookup_append, List.lookup_cons, differs, same]

/-- One more argument gives its value to the field that it is aimed at, unless the field has
one. -/
theorem lookup_add_eq (binding : Binding) (argument : Argument) :
    (binding.add fields argument).bound.lookup field =
      (binding.bound.lookup field).or
        (if argument.aim? fields binding.position = some field then some argument.value
        else none) := by
  rcases argument with ⟨_ | name, value⟩
  · cases aimed : fields[binding.position]? with
    | none => simp [add, aimed, Argument.aim?, problem]
    | some target => simp [add, aimed, Argument.aim?, lookup_bind_eq]
  · by_cases known : name ∈ fields
    · simp [add, known, Argument.aim?, lookup_bind_eq]
    · simp [add, known, Argument.aim?, problem]

theorem position_bind (binding : Binding) (other : String) (value : Literal) :
    (binding.bind other value).position = binding.position := by
  unfold bind
  split <;> rfl

/-- The fields that are left for positional arguments do not depend on the values. -/
theorem given?_position_add (binding : Binding) (argument : Argument)
    (arguments : List Argument) :
    Argument.given? fields field (binding.add fields argument).position arguments =
      Argument.given? fields field
        (if argument.name.isNone then binding.position + 1 else binding.position) arguments := by
  rcases argument with ⟨_ | name, value⟩
  · cases aimed : fields[binding.position]? with
    | none =>
        have past := List.getElem?_eq_none_iff.mp aimed
        simp only [add, aimed, problem, Option.isNone_none, if_true]
        exact Argument.given?_of_le past (by omega) arguments
    | some target => simp [add, aimed, position_bind]
  · by_cases known : name ∈ fields
    · simp [add, known, position_bind]
    · simp [add, known, problem]

theorem lookup_addAll_eq (binding : Binding) (arguments : List Argument) :
    (arguments.foldl (add fields) binding).bound.lookup field =
      (binding.bound.lookup field).or
        (Argument.given? fields field binding.position arguments) := by
  induction arguments generalizing binding with
  | nil => simp [Argument.given?]
  | cons argument arguments ih =>
      rw [List.foldl_cons, ih, lookup_add_eq, given?_position_add, Option.or_assoc,
        Argument.given?]
      congr 1
      split <;> rfl

end Binding

namespace Annotation

/-- The literal that an option annotation gives to a field, null aside. -/
def given? (mark : Annotation) (field : String) : Option Literal :=
  match Argument.given? optionFields field 0 mark.args with
  | some .null => none
  | other => other

theorem get?_ofArguments (mark : Annotation) (field : String) :
    (Binding.ofArguments optionFields mark.args).get? field = mark.given? field := by
  have taken : (Binding.ofArguments optionFields mark.args).bound.lookup field =
      Argument.given? optionFields field 0 mark.args :=
    Binding.lookup_addAll_eq .empty mark.args
  unfold Binding.get? given?
  exact congrArg
    (fun found : Option Literal => match found with | some .null => none | other => other) taken

/-- Whether the annotation gives the truth value true to a field, as a literal or as a text. -/
def statesTrue (mark : Annotation) (field : String) : Bool :=
  match mark.given? field with
  | some (.bool value) => value
  | some (.string text) => Text.trim text = "true"
  | _ => false

/-- The count that the annotation gives to a field, as a whole number of 32 bits or as a text. -/
def statedCount? (mark : Annotation) (field : String) : Option UInt32 :=
  match mark.given? field with
  | some (.integer value) =>
      if 0 ≤ value.toInt ∧ value.toInt < 2 ^ 32 then some (.ofNat value.toInt.toNat) else none
  | some (.string text) => Reading.countOfText? text
  | _ => none

theorem readOption_required (mark : Annotation) :
    mark.readOption.value.required = mark.statesTrue "required" := by
  have reads : mark.readOption.value.required =
      (Reading.bool? (Binding.ofArguments optionFields mark.args) "required").value.getD false :=
    rfl
  rw [reads, Reading.bool?, get?_ofArguments]
  unfold statesTrue
  generalize mark.given? "required" = given
  cases given with
  | none => rfl
  | some value =>
      cases value with
      | string text =>
          simp only [Reading.boolOfText?]
          by_cases states : Text.trim text = "true"
          · simp [states, Reading.clean]
          · by_cases denies : Text.trim text = "false" <;> simp [states, denies, Reading.clean]
      | _ => rfl

theorem value_count? (mark : Annotation) (field : String) :
    (Reading.count? (Binding.ofArguments optionFields mark.args) field).value =
      mark.statedCount? field := by
  rw [Reading.count?, get?_ofArguments]
  unfold statedCount?
  generalize mark.given? field = given
  cases given with
  | none => rfl
  | some value =>
      cases value with
      | integer value =>
          simp only [Reading.countOfInteger]
          by_cases negative : value.toInt < 0
          · have below : ¬(0 ≤ value.toInt ∧ value.toInt < 2 ^ 32) := by omega
            rw [if_pos negative, if_neg below]
          · rw [if_neg negative]
            by_cases fits : value.toInt < 2 ^ 32
            · rw [if_pos fits, if_pos ⟨by omega, fits⟩]
              rfl
            · have above : ¬(0 ≤ value.toInt ∧ value.toInt < 2 ^ 32) := fun both => fits both.2
              rw [if_neg fits, if_neg above]
      | string text =>
          cases counted : Reading.countOfText? text <;> simp [counted, Reading.clean]
      | _ => rfl

theorem readOption_arityMin (mark : Annotation) :
    mark.readOption.value.arityMin = mark.statedCount? "arity_min" :=
  mark.value_count? "arity_min"

theorem readOption_arityMax (mark : Annotation) :
    mark.readOption.value.arityMax = mark.statedCount? "arity_max" :=
  mark.value_count? "arity_max"

end Annotation

end OptionCompiler
