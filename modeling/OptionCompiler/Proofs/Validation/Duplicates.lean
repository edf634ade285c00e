import Mathlib
import OptionCompiler.Validation
/-!
# Repeated spellings

The rule about duplicate flags goes through what a command registers and keeps the owners of the
spellings met so far. What it reports can be told from the order of the registrations alone: at
each place whose spelling stands at an earlier place as well, one finding that names the member at
the first of these places. So nothing is reported exactly when the spellings differ.

The owners are looked up as the places passed so far are searched from the front. This is what the
induction carries.
-/

namespace OptionCompiler

namespace Rule

def findingsOf (code : DiagnosticCode) (input : RuleInput) : List Finding :=
  (all.filter fun rule => rule.code = code).flatMap fun rule => rule.findings input

/-- The first registration of a spelling. -/
def firstOf? (spelling : FlagSpelling) (places : List (FlagSpelling × OptionDescriptor)) :
    Option (FlagSpelling × OptionDescriptor) :=
  places.find? fun place => place.1 = spelling

/-- The finding at an option about a spelling that belongs to another member. -/
def repetition (spelling : FlagSpelling) (option : OptionDescriptor) (owner : String) : Finding :=
  { location := option.location
    message := "flag `" ++ spelling.label ++ "` is already registered by `" ++ owner ++ "`" }

/-- What is reported at a place of a list of registrations. If the spelling of the place stands at
an earlier place, it is a finding at the option of the later place, and names the member of the
option that registered the spelling first. -/
def repetitionAt? (registered : List (FlagSpelling × OptionDescriptor)) (place : ℕ) :
    Option Finding :=
  registered[place]?.bind fun later =>
    (firstOf? later.1 (registered.take place)).map fun first =>
      repetition later.1 later.2 first.2.member

section Owners

variable {owners : List (FlagSpelling × String)}
  {passed : List (FlagSpelling × OptionDescriptor)} {spelling : FlagSpelling}
  {option : OptionDescriptor}

/-- The owners are the members at the first places of the spellings passed so far. -/
def Owns (owners : List (FlagSpelling × String))
    (passed : List (FlagSpelling × OptionDescriptor)) : Prop :=
  ∀ spelling, owners.lookup spelling = (firstOf? spelling passed).map fun place => place.2.member

theorem firstOf?_append (places later : List (FlagSpelling × OptionDescriptor)) :
    firstOf? spelling (places ++ later) = (firstOf? spelling places).or (firstOf? spelling later) :=
  List.find?_append

theorem Owns.of_repeated (owns : Owns owners passed) {owner : String}
    (repeated : owners.lookup spelling = some owner) :
    Owns owners (passed ++ [(spelling, option)]) := by
  intro other
  rw [firstOf?_append, owns other]
  by_cases same : spelling = other
  · subst same
    have present := owns spelling
    rw [repeated] at present
    rcases Option.map_eq_some_iff.mp present.symm with ⟨first, found, _⟩
    rw [found, Option.some_or]
  · simp [firstOf?, same]

theorem Owns.of_fresh (owns : Owns owners passed) (fresh : owners.lookup spelling = none) :
    Owns (owners ++ [(spelling, option.member)]) (passed ++ [(spelling, option)]) := by
  intro other
  rw [firstOf?_append, List.lookup_append, owns other]
  by_cases same : spelling = other
  · subst same
    have absent := owns spelling
    rw [fresh] at absent
    rw [Option.map_eq_none_iff.mp absent.symm]
    simp [firstOf?]
  · have different : (other == spelling) = false := beq_eq_false_iff_ne.mpr (Ne.symm same)
    simp [firstOf?, same, List.lookup_cons, different]

end Owners

/-- The loop over the later registrations reports at their places. -/
theorem repeatedSpellings_eq_filterMap {owners : List (FlagSpelling × String)}
    {passed : List (FlagSpelling × OptionDescriptor)} (owns : Owns owners passed)
    (rest : List (FlagSpelling × OptionDescriptor)) :
    repeatedSpellings owners rest =
      (List.range rest.length).filterMap fun place =>
        repetitionAt? (passed ++ rest) (passed.length + place) := by
  induction rest generalizing owners passed with
  | nil => rfl
  | cons first rest ih =>
      rcases first with ⟨spelling, option⟩
      have split : passed ++ (spelling, option) :: rest =
          (passed ++ [(spelling, option)]) ++ rest := by
        simp
      have later (place : ℕ) : passed.length + (place + 1) =
          (passed ++ [(spelling, option)]).length + place := by
        simp
        omega
      -- the first of the rest is compared with the places passed so far, which the owners know
      have here : repetitionAt? (passed ++ (spelling, option) :: rest) (passed.length + 0) =
          (owners.lookup spelling).map (repetition spelling option) := by
        rw [owns spelling, Option.map_map]
        simp only [repetitionAt?, Nat.add_zero, List.getElem?_append_right (Nat.le_refl _),
          Nat.sub_self, List.getElem?_cons_zero, Option.bind_some, List.take_left]
        rfl
      rw [List.length_cons, List.range_succ_eq_map, List.filterMap_cons, List.filterMap_map, here]
      simp only [Function.comp_def, later, split]
      unfold repeatedSpellings
      cases found : owners.lookup spelling with
      | some owner =>
          rw [ih (owns.of_repeated found)]
          rfl
      | none =>
          rw [ih (owns.of_fresh found)]
          rfl

/-- What is reported about a command: one finding for each place with a repeated spelling. -/
theorem repeatedSpellings_registrations (command : CommandDescriptor) :
    repeatedSpellings [] (registrations command) =
      (List.range (registrations command).length).filterMap
        (repetitionAt? (registrations command)) := by
  have owns : Owns [] [] := fun _ => rfl
  rw [repeatedSpellings_eq_filterMap owns]
  simp only [List.nil_append, List.length_nil, Nat.zero_add]

theorem findingsOf_duplicateFlag (input : RuleInput) :
    findingsOf .duplicateFlag input =
      input.commands.flatMap fun command =>
        (List.range (registrations command).length).filterMap
          (repetitionAt? (registrations command)) := by
  have only : findingsOf .duplicateFlag input = duplicateFlag input := List.append_nil _
  rw [only, duplicateFlag]
  refine List.flatMap_congr ?_
  intro command _
  exact repeatedSpellings_registrations command

theorem repetitionAt?_eq_none_iff {registered : List (FlagSpelling × OptionDescriptor)}
    {place : ℕ} (inside : place < registered.length) :
    repetitionAt? registered place = none ↔
      ∀ earlier (before : earlier < place), registered[earlier].1 ≠ registered[place].1 := by
  simp only [repetitionAt?, List.getElem?_eq_getElem inside, Option.bind_some,
    Option.map_eq_none_iff, firstOf?, List.find?_eq_none, decide_eq_true_eq]
  constructor
  · intro absent earlier before
    apply absent
    exact List.mem_take_iff_getElem.mpr ⟨earlier, by omega, rfl⟩
  · intro different other member
    rcases List.mem_take_iff_getElem.mp member with ⟨earlier, before, rfl⟩
    exact different earlier (by omega)

/-- Nothing is reported exactly when no spelling stands at two places. -/
theorem filterMap_repetitionAt?_eq_nil_iff (registered : List (FlagSpelling × OptionDescriptor)) :
    (List.range registered.length).filterMap (repetitionAt? registered) = [] ↔
      (registered.map Prod.fst).Nodup := by
  rw [List.filterMap_eq_nil_iff, List.Nodup, List.pairwise_iff_getElem]
  simp only [List.mem_range, List.length_map, List.getElem_map]
  constructor
  · intro silent earlier place earlierInside inside before
    exact (repetitionAt?_eq_none_iff inside).mp (silent place inside) earlier before
  · intro different place inside
    refine (repetitionAt?_eq_none_iff inside).mpr ?_
    intro earlier before
    exact different earlier place (Nat.lt_trans before inside) inside before

end Rule

end OptionCompiler
