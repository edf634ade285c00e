import OptionCompiler.Proofs.Annotation.Binding
/-!
# Which arguments are problems

The arguments of an annotation are numbered from zero, and each is aimed at a field, if at any, by
its number alone: a named argument at the field of its name, and a positional one at the field in
whose place it stands among the positional arguments. The first argument aimed at a field is bound
to it. Every other argument is one problem, because it is aimed at no field or because its field is
bound already.

The arguments are followed from the last one back: what an argument is aimed at, and whether it is
a problem, does not depend on what stands behind it.
-/

namespace OptionCompiler

namespace Argument

/-- The number of positional arguments. -/
def positionalCount (arguments : List Argument) : Nat :=
  arguments.countP fun argument => argument.name.isNone

/-- The field that the argument at an index is aimed at. -/
def target? (fields : List String) (arguments : List Argument) (index : Nat) : Option String :=
  arguments[index]?.bind fun argument =>
    argument.aim? fields (positionalCount (arguments.take index))

/-- An argument before the index is aimed at the field. -/
def IsTaken (fields : List String) (arguments : List Argument) (field : String) (index : Nat) :
    Prop :=
  ∃ earlier < index, target? fields arguments earlier = some field

instance (fields : List String) (arguments : List Argument) (field : String) (index : Nat) :
    Decidable (IsTaken fields arguments field index) :=
  inferInstanceAs (Decidable (∃ earlier < index, target? fields arguments earlier = some field))

/-- The values of the arguments that are aimed at the field, in order. -/
def aimedAt (fields : List String) (arguments : List Argument) (field : String) : List Literal :=
  (List.range arguments.length).filterMap fun index =>
    if target? fields arguments index = some field then arguments[index]?.map Argument.value
    else none

/-- The value that is bound to the field. -/
def bound? (fields : List String) (arguments : List Argument) (field : String) :
    Option Literal :=
  (aimedAt fields arguments field).head?

/-- The problem of an argument that is aimed at no field. -/
def aimless (fields : List String) (argument : Argument) : ArgumentProblem :=
  match argument.name with
  | some name => .unknownName name
  | none => .tooManyPositional fields.length

/-- What keeps the argument at an index from being bound. -/
def problem? (fields : List String) (arguments : List Argument) (index : Nat) :
    Option ArgumentProblem :=
  match target? fields arguments index with
  | some field => if IsTaken fields arguments field index then some (.repeated field) else none
  | none => arguments[index]?.map (aimless fields)

/-- What keeps arguments from being bound, in the order of the arguments. -/
def problems (fields : List String) (arguments : List Argument) : List ArgumentProblem :=
  (List.range arguments.length).filterMap (problem? fields arguments)

/-- Every argument is aimed at a field, and no two are aimed at one field. -/
structure AllBound (fields : List String) (arguments : List Argument) : Prop where
  aimed : ∀ index < arguments.length, ∃ field, target? fields arguments index = some field
  apart : ∀ index < arguments.length, ∀ earlier < index, ∀ field,
    target? fields arguments earlier = some field → target? fields arguments index ≠ some field

section Append

variable {fields : List String} {arguments : List Argument} {argument : Argument}
  {field : String} {index : Nat}

theorem target?_append (inside : index < arguments.length) :
    target? fields (arguments ++ [argument]) index = target? fields arguments index := by
  simp only [target?]
  rw [List.getElem?_append_left inside, List.take_append_of_le_length (Nat.le_of_lt inside)]

theorem target?_last : target? fields (arguments ++ [argument]) arguments.length =
    argument.aim? fields (positionalCount arguments) := by
  simp [target?]

theorem isTaken_append (inside : index ≤ arguments.length) :
    IsTaken fields (arguments ++ [argument]) field index ↔
      IsTaken fields arguments field index := by
  apply exists_congr
  intro earlier
  apply and_congr_right
  intro before
  rw [target?_append (Nat.lt_of_lt_of_le before inside)]

theorem problem?_append (inside : index < arguments.length) :
    problem? fields (arguments ++ [argument]) index = problem? fields arguments index := by
  simp only [problem?, target?_append inside, isTaken_append (Nat.le_of_lt inside),
    List.getElem?_append_left inside]

theorem problem?_last :
    problem? fields (arguments ++ [argument]) arguments.length =
      match argument.aim? fields (positionalCount arguments) with
      | some field =>
          if IsTaken fields arguments field arguments.length then some (.repeated field) else none
      | none => some (argument.aimless fields) := by
  simp [problem?, target?_last, isTaken_append]

theorem problems_append :
    problems fields (arguments ++ [argument]) =
      problems fields arguments ++
        (problem? fields (arguments ++ [argument]) arguments.length).toList := by
  have earlier : (List.range arguments.length).filterMap
      (problem? fields (arguments ++ [argument])) = problems fields arguments := by
    apply List.filterMap_congr
    intro index member
    exact problem?_append (List.mem_range.mp member)
  rw [problems, List.length_append, List.length_singleton, List.range_succ,
    List.filterMap_append, earlier]
  cases last : problem? fields (arguments ++ [argument]) arguments.length <;> simp [last]

theorem aimedAt_append :
    aimedAt fields (arguments ++ [argument]) field =
      aimedAt fields arguments field ++
        if argument.aim? fields (positionalCount arguments) = some field then [argument.value]
        else [] := by
  have earlier : (List.range arguments.length).filterMap (fun index =>
      if target? fields (arguments ++ [argument]) index = some field then
        (arguments ++ [argument])[index]?.map Argument.value
      else none) = aimedAt fields arguments field := by
    apply List.filterMap_congr
    intro index member
    have inside := List.mem_range.mp member
    rw [target?_append inside, List.getElem?_append_left inside]
  rw [aimedAt, List.length_append, List.length_singleton, List.range_succ,
    List.filterMap_append, earlier]
  congr 1
  split_ifs with aimed <;> simp [target?_last, aimed]

theorem bound?_append :
    bound? fields (arguments ++ [argument]) field =
      (bound? fields arguments field).or
        (if argument.aim? fields (positionalCount arguments) = some field then some argument.value
        else none) := by
  rw [bound?, aimedAt_append, List.head?_append]
  split_ifs <;> rfl

end Append

theorem isSome_bound?_iff (fields : List String) (arguments : List Argument) (field : String) :
    (bound? fields arguments field).isSome = true ↔
      IsTaken fields arguments field arguments.length := by
  rw [bound?, List.isSome_head?, ← List.length_pos_iff, List.length_pos_iff_exists_mem]
  constructor
  · rintro ⟨value, member⟩
    rcases List.mem_filterMap.mp member with ⟨index, inside, given⟩
    refine ⟨index, List.mem_range.mp inside, ?_⟩
    by_contra elsewhere
    simp [elsewhere] at given
  · rintro ⟨index, inside, aimed⟩
    refine ⟨arguments[index].value, List.mem_filterMap.mpr ⟨index, List.mem_range.mpr inside, ?_⟩⟩
    simp [aimed, inside]

theorem problem?_eq_none_iff {fields : List String} {arguments : List Argument} {index : Nat}
    (inside : index < arguments.length) :
    problem? fields arguments index = none ↔
      ∃ field, target? fields arguments index = some field ∧
        ¬IsTaken fields arguments field index := by
  unfold problem?
  cases target? fields arguments index with
  | none => simp [inside]
  | some field => simp

theorem problems_eq_nil_iff (fields : List String) (arguments : List Argument) :
    problems fields arguments = [] ↔ AllBound fields arguments := by
  simp only [problems, List.filterMap_eq_nil_iff, List.mem_range]
  constructor
  · intro silent
    constructor
    · intro index inside
      rcases (problem?_eq_none_iff inside).mp (silent index inside) with ⟨field, aimed, _⟩
      exact ⟨field, aimed⟩
    · intro index inside earlier before field taken aimed
      rcases (problem?_eq_none_iff inside).mp (silent index inside) with ⟨other, aimed', free⟩
      rw [aimed, Option.some.injEq] at aimed'
      subst aimed'
      exact free ⟨earlier, before, taken⟩
  · rintro ⟨aimed, apart⟩ index inside
    rcases aimed index inside with ⟨field, target⟩
    refine (problem?_eq_none_iff inside).mpr ⟨field, target, ?_⟩
    rintro ⟨earlier, before, taken⟩
    exact apart index inside earlier before field taken target

end Argument

namespace Binding

variable (fields : List String)

theorem ofArguments_append (arguments : List Argument) (argument : Argument) :
    ofArguments fields (arguments ++ [argument]) =
      (ofArguments fields arguments).add fields argument :=
  List.foldl_append

/-- The positional arguments are counted up to the number of fields. -/
theorem position_ofArguments (arguments : List Argument) :
    (ofArguments fields arguments).position =
      min (Argument.positionalCount arguments) fields.length := by
  induction arguments using List.reverseRecOn with
  | nil => simp [ofArguments, empty, Argument.positionalCount]
  | append_singleton arguments argument ih =>
      rw [ofArguments_append, Argument.positionalCount, List.countP_append]
      rw [Argument.positionalCount] at ih
      rcases argument with ⟨_ | name, value⟩
      · cases aimed : fields[(ofArguments fields arguments).position]? with
        | none =>
            have past := List.getElem?_eq_none_iff.mp aimed
            simp [add, aimed, problem]
            omega
        | some field =>
            have inside := (List.getElem?_eq_some_iff.mp aimed).1
            simp [add, aimed, position_bind]
            omega
      · by_cases known : name ∈ fields
        · simp [add, known, position_bind, ih]
        · simp [add, known, problem, ih]

/-- What an argument is aimed at does not depend on whether surplus arguments are counted. -/
theorem aim?_position (arguments : List Argument) (argument : Argument) :
    argument.aim? fields (ofArguments fields arguments).position =
      argument.aim? fields (Argument.positionalCount arguments) := by
  rcases argument with ⟨_ | name, value⟩
  · simp only [Argument.aim?, position_ofArguments]
    by_cases inside : Argument.positionalCount arguments ≤ fields.length
    · rw [Nat.min_eq_left inside]
    · rw [Nat.min_eq_right (by omega), List.getElem?_eq_none (Nat.le_refl _),
        List.getElem?_eq_none (by omega)]
  · rfl

/-- A field is bound to the first value that is aimed at it. -/
theorem lookup_ofArguments (arguments : List Argument) (field : String) :
    (ofArguments fields arguments).bound.lookup field =
      Argument.bound? fields arguments field := by
  induction arguments using List.reverseRecOn with
  | nil => rfl
  | append_singleton arguments argument ih =>
      rw [ofArguments_append, lookup_add_eq, aim?_position, ih, Argument.bound?_append]

theorem any_bound_iff (binding : Binding) (field : String) :
    (binding.bound.any fun entry => entry.1 = field) = true ↔
      (binding.bound.lookup field).isSome = true := by
  constructor
  · exact isSome_lookup_of_any
  · intro bound
    rcases List.lookup_isSome_iff.mp bound with ⟨entry, member, named⟩
    have named : field = entry.1 := eq_of_beq named
    exact List.any_eq_true.mpr ⟨entry, member, decide_eq_true named.symm⟩

theorem problems_bind (binding : Binding) (field : String) (value : Literal) :
    (binding.bind field value).problems = binding.problems ++
      if (binding.bound.lookup field).isSome then [.repeated field] else [] := by
  simp only [bind, any_bound_iff]
  split_ifs
  · rfl
  · exact (List.append_nil _).symm

theorem problems_add (binding : Binding) (argument : Argument) :
    (binding.add fields argument).problems = binding.problems ++
      match argument.aim? fields binding.position with
      | some field =>
          if (binding.bound.lookup field).isSome then [.repeated field] else []
      | none => [argument.aimless fields] := by
  rcases argument with ⟨_ | name, value⟩
  · cases aimed : fields[binding.position]? with
    | none => simp [add, aimed, Argument.aim?, Argument.aimless, problem]
    | some field =>
        simp only [add, aimed, Argument.aim?]
        exact problems_bind { binding with position := binding.position + 1 } field value
  · by_cases known : name ∈ fields
    · simp [add, known, Argument.aim?, problems_bind]
    · simp [add, known, Argument.aim?, Argument.aimless, problem]

/-- The problems of a binding are those of the arguments, in order. -/
theorem problems_ofArguments (arguments : List Argument) :
    (ofArguments fields arguments).problems = Argument.problems fields arguments := by
  induction arguments using List.reverseRecOn with
  | nil => rfl
  | append_singleton arguments argument ih =>
      rw [ofArguments_append, problems_add, aim?_position, ih, Argument.problems_append,
        Argument.problem?_last]
      congr 1
      cases argument.aim? fields (Argument.positionalCount arguments) with
      | none => rfl
      | some field =>
          simp only [lookup_ofArguments, Argument.isSome_bound?_iff]
          split_ifs <;> rfl

end Binding

end OptionCompiler
