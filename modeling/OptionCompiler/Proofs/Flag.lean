import Mathlib
import OptionCompiler.Flag
import OptionCompiler.Proofs.Source.Spelling
/-!
# Flags that are well formed

A well-formed flag is read as a spelling that is displayed as the same flag. A long name that was
read from a flag is not empty and begins with no dash, and exactly the spellings of such names are
read back from how they are displayed.

The long name that stands for a member need not be of this form. It is well formed exactly when
the underscores of the member stand one by one between its letters and digits.
-/

namespace OptionCompiler

namespace FlagSpelling

theorem toList_label_long (name : String) :
    (long name).label.toList = '-' :: '-' :: name.toList := by
  simp [label]

theorem dropWhile_of_parse? {flag name : String} (parsed : parse? flag = some (.long name)) :
    flag.toList.dropWhile isDash = name.toList ∧ name ≠ "" := by
  unfold parse? at parsed
  rcases rest : flag.toList.dropWhile isDash with _ | ⟨first, _ | ⟨second, later⟩⟩
  · simp [rest] at parsed
  · simp only [rest] at parsed
    split_ifs at parsed
    · cases parsed
    · cases parsed
      exact ⟨by simp, fun empty => by simpa using congrArg String.toList empty⟩
  · simp only [rest] at parsed
    cases parsed
    exact ⟨String.toList_ofList.symm, fun empty => by simpa using congrArg String.toList empty⟩

theorem long_of_parse? {flag name : String} (parsed : parse? flag = some (.long name)) :
    name ≠ "" ∧ ¬['-'] <+: name.toList := by
  rcases dropWhile_of_parse? parsed with ⟨rest, nonempty⟩
  refine ⟨nonempty, ?_⟩
  rintro ⟨later, begins⟩
  have stopped := List.head?_dropWhile_not isDash flag.toList
  rw [rest, ← begins] at stopped
  cases stopped

theorem parse?_twoDashes {flag : String} {name : List Char}
    (chars : flag.toList = '-' :: '-' :: name) (nonempty : name ≠ []) (plain : ¬['-'] <+: name) :
    parse? flag = some (.long (String.ofList name)) := by
  have dashes : flag.toList.takeWhile isDash = '-' :: '-' :: name.takeWhile isDash := by
    rw [chars]
    rfl
  have rest : flag.toList.dropWhile isDash = name.dropWhile isDash := by
    rw [chars]
    rfl
  rcases name with _ | ⟨first, _ | ⟨second, later⟩⟩
  · exact absurd rfl nonempty
  all_goals
    have other : isDash first = false := by
      rw [List.cons_prefix_cons, not_and] at plain
      exact beq_eq_false_iff_ne.mpr fun same => plain same.symm List.nil_prefix
    simp only [List.takeWhile_cons, List.dropWhile_cons, other, Bool.false_eq_true, if_false]
      at dashes rest
    simp [parse?, dashes, rest]

/-- Exactly the long names that are not empty and begin with no dash are read back. -/
theorem parse?_label_long (name : String) :
    parse? (long name).label = some (.long name) ↔ name ≠ "" ∧ ¬['-'] <+: name.toList := by
  constructor
  · exact long_of_parse?
  · rintro ⟨nonempty, plain⟩
    rw [parse?_twoDashes (toList_label_long name) (by simpa using nonempty) plain,
      String.ofList_toList]

/-- A spelling that is displayed as a well-formed flag and read back from it. -/
def IsSound (spelling : FlagSpelling) : Prop :=
  Flag.isWellFormed spelling.label = true ∧ parse? spelling.label = some spelling

theorem isDash_of_isAlphanum {c : Char} (alphanumeric : c.isAlphanum = true) :
    isDash c = false := by
  refine beq_eq_false_iff_ne.mpr ?_
  rintro rfl
  cases alphanumeric

/-- A well-formed flag is read, and its spelling is displayed as it is. -/
theorem parse?_of_isWellFormed {flag : String} (formed : Flag.isWellFormed flag = true) :
    ∃ spelling, parse? flag = some spelling ∧ spelling.label = flag := by
  unfold Flag.isWellFormed at formed
  split at formed
  · next letter chars =>
      have other := isDash_of_isAlphanum formed
      have dash : isDash '-' = true := rfl
      refine ⟨.short letter, ?_, ?_⟩
      · simp [parse?, chars, dash, other]
      · refine String.toList_inj.mp ?_
        simp [label, chars]
  · next name _ chars =>
      have begins : name ≠ [] ∧ ¬['-'] <+: name := by
        cases name with
        | nil => cases formed
        | cons first rest =>
            refine ⟨List.cons_ne_nil _ _, ?_⟩
            rintro ⟨later, same⟩
            cases same
            cases formed
      refine ⟨_, parse?_twoDashes chars begins.1 begins.2, ?_⟩
      refine String.toList_inj.mp ?_
      rw [toList_label_long, String.toList_ofList, chars]
  · cases formed

theorem isSound_of_isWellFormed {flag : String} {spelling : FlagSpelling}
    (formed : Flag.isWellFormed flag = true) (parsed : parse? flag = some spelling) :
    spelling.IsSound := by
  rcases parse?_of_isWellFormed formed with ⟨other, parsed', shown⟩
  cases Option.some.inj (parsed.symm.trans parsed')
  rw [IsSound, shown]
  exact ⟨formed, parsed⟩

section Members

/-- The underscores of a name stand one by one between other characters. -/
def IsSeparated (name : List Char) : Prop :=
  ¬['_'] <+: name ∧ ¬['_'] <:+ name ∧ ¬['_', '_'] <:+: name

instance (name : List Char) : Decidable (IsSeparated name) :=
  inferInstanceAs (Decidable (_ ∧ _ ∧ _))

/-- The name with dashes in the place of underscores. -/
def dashed (name : List Char) : List Char :=
  name.map fun c => if c = '_' then '-' else c

/-- Whether a dashed name goes on in a well-formed way, inside a run or before one. -/
theorem isDashedName_dashed {name : List Char} (part : ∀ c ∈ name, Source.isIdentifierPart c = true)
    (inRun : Bool) :
    Flag.isDashedName inRun (dashed name) = true ↔
      (inRun = false → name ≠ [] ∧ ¬['_'] <+: name) ∧ ¬['_'] <:+ name ∧
        ¬['_', '_'] <:+: name := by
  induction name generalizing inRun with
  | nil => cases inRun <;> simp [dashed, Flag.isDashedName]
  | cons c name ih =>
      have rest := ih fun later member => part later (List.mem_cons_of_mem c member)
      by_cases mark : c = '_'
      · -- an underscore must follow a run, and another run must come after it
        subst mark
        have step : Flag.isDashedName inRun (dashed ('_' :: name)) =
            (inRun && Flag.isDashedName false (dashed name)) := by
          simp [dashed, Flag.isDashedName]
        rw [step, Bool.and_eq_true, rest]
        simp only [List.suffix_cons_iff, List.infix_cons_iff, List.cons_prefix_cons, true_and,
          List.cons.injEq, List.nil_prefix, not_true_eq_false, and_false, imp_false,
          Bool.not_eq_false, not_or, forall_true_left, eq_comm (a := ([] : List Char))]
        tauto
      · -- any other character begins a run or goes on with it
        have letter : c.isAlphanum = true := by
          have known := part c List.mem_cons_self
          simpa [Source.isIdentifierPart, mark] using known
        have step : Flag.isDashedName inRun (dashed (c :: name)) =
            Flag.isDashedName true (dashed name) := by
          simp [dashed, Flag.isDashedName, mark, letter]
        rw [step, rest]
        simp [List.suffix_cons_iff, List.infix_cons_iff, List.cons_prefix_cons, Ne.symm mark]

variable {member : String}

theorem toList_memberName (member : String) :
    (memberName member).toList = dashed member.toList :=
  String.toList_ofList

theorem memberName_ne_empty (shaped : Source.isIdentifier member = true) :
    memberName member ≠ "" := by
  intro empty
  have chars := congrArg String.toList empty
  rw [toList_memberName] at chars
  have none : member.toList = [] := List.map_eq_nil_iff.mp chars
  simp [Source.isIdentifier, none] at shaped

/-- The name of a member begins with a dash exactly when the member begins with an underscore. -/
theorem dash_prefix_memberName_iff (shaped : Source.isIdentifier member = true) :
    ['-'] <+: (memberName member).toList ↔ ['_'] <+: member.toList := by
  have part := Source.isIdentifierPart_of_mem shaped
  rw [toList_memberName]
  cases chars : member.toList with
  | nil => simp [dashed]
  | cons first rest =>
      have other : first ≠ '-' := by
        rintro rfl
        exact absurd (part '-' (chars ▸ List.mem_cons_self)) (by decide)
      by_cases mark : first = '_'
      · simp [dashed, mark]
      · simp [dashed, mark, Ne.symm mark, Ne.symm other]

/-- The name of a member is read back exactly when the member begins with no underscore. -/
theorem parse?_memberName_iff (shaped : Source.isIdentifier member = true) :
    parse? (long (memberName member)).label = some (.long (memberName member)) ↔
      ¬['_'] <+: member.toList := by
  rw [parse?_label_long, dash_prefix_memberName_iff shaped]
  exact and_iff_right (memberName_ne_empty shaped)

/-- The name of a member is displayed as a well-formed flag exactly when the underscores of the
member stand one by one between other characters. -/
theorem isWellFormed_memberName_iff (shaped : Source.isIdentifier member = true) :
    Flag.isWellFormed (long (memberName member)).label = true ↔ IsSeparated member.toList := by
  have nonempty : member.toList ≠ [] := by
    intro none
    simp [Source.isIdentifier, none] at shaped
  have shown : Flag.isWellFormed (long (memberName member)).label =
      Flag.isDashedName false (dashed member.toList) := by
    unfold Flag.isWellFormed
    rw [toList_label_long, toList_memberName]
    cases chars : dashed member.toList with
    | nil => exact absurd (List.map_eq_nil_iff.mp chars) nonempty
    | cons first rest => rfl
  rw [shown, isDashedName_dashed (Source.isIdentifierPart_of_mem shaped)]
  simp [IsSeparated, nonempty]

end Members

end FlagSpelling

end OptionCompiler
