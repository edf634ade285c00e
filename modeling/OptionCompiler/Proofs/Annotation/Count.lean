import OptionCompiler.Proofs.Annotation.Reading
import OptionCompiler.Proofs.Text.Numeral
/-!
# Counts as numbers and as texts

The bounds of an arity are counts of 32 bits. A bound is written as a whole number or as a text
with a numeral of it, behind any zeros, possibly after a plus sign and with white space around it.
Both are read alike: as the count if the number is one, and otherwise as one problem. So is every
literal that writes no number at all, null aside.

The reading of a bound is followed through the whole annotation. The other fields do not see the
literal, and what it adds to the problems stands at one place among those of the others.
-/

namespace OptionCompiler

namespace Literal

/-- The literals that write a whole number: the number itself, and the texts that spell it. -/
inductive Writes : Literal → ℤ → Prop where
  | integer (value : Int64) : Writes (.integer value) value.toInt
  | text {spelling : String} {number : ℤ} (spells : Text.Spells spelling number) :
      Writes (.string spelling) number

/-- The number is a count of 32 bits. -/
def IsCount (number : ℤ) : Prop :=
  0 ≤ number ∧ number < 2 ^ 32

instance (number : ℤ) : Decidable (IsCount number) :=
  inferInstanceAs (Decidable (_ ∧ _))

section Counts

variable {given : Literal} {number : ℤ}

/-- However a number is written, it is read as the count that it is, if it is one. -/
theorem Writes.count?_eq (writes : given.Writes number) :
    given.count? = if IsCount number then some (.ofNat number.toNat) else none := by
  cases writes with
  | integer value => rfl
  | text spells =>
      rw [count?, Reading.countOfText?, spells.unsignedNumber?_trim]
      by_cases nonnegative : 0 ≤ number
      · have fits : number.toNat < 2 ^ 32 ↔ IsCount number := by
          unfold IsCount
          omega
        simp only [if_pos nonnegative, fits]
      · have outside : ¬IsCount number := fun count => nonnegative count.1
        simp only [if_neg nonnegative, if_neg outside]

theorem Writes.ne_null (writes : given.Writes number) : given ≠ .null := by
  cases writes <;> simp

/-- What is read as a count writes a number. -/
theorem exists_writes_of_count? {value : UInt32} (counted : given.count? = some value) :
    ∃ number, given.Writes number := by
  cases given with
  | integer value => exact ⟨value.toInt, .integer value⟩
  | string spelling =>
      rw [count?, Reading.countOfText?] at counted
      split at counted
      · next read => exact ⟨_, .text (Text.spells_of_unsignedNumber?_trim read)⟩
      · cases counted
  | _ => cases counted

/-- A field for a count has no problem with a literal that is read as one. -/
theorem complaints_of_count? {value : UInt32} (field : String)
    (counted : given.count? = some value) : FieldKind.count.complaints field given = [] := by
  cases given with
  | integer number =>
      rw [count?] at counted
      split_ifs at counted with count
      rw [FieldKind.complaints, if_neg (by omega), if_neg (by omega)]
  | string spelling =>
      have read : Reading.countOfText? spelling = some value := counted
      rw [FieldKind.complaints, if_pos (Option.isSome_of_eq_some read)]
  | _ => cases counted

/-- It has one problem with every other literal but null. -/
theorem complaints_of_count?_eq_none (field : String) (present : given ≠ .null)
    (uncounted : given.count? = none) :
    ∃ problem, FieldKind.count.complaints field given = [problem] := by
  cases given with
  | null => exact absurd rfl present
  | integer value =>
      rw [count?] at uncounted
      split_ifs at uncounted with count
      rw [FieldKind.complaints]
      split_ifs with negative large
      · exact ⟨_, rfl⟩
      · exact ⟨_, rfl⟩
      · omega
  | string spelling =>
      have unread : Reading.countOfText? spelling = none := uncounted
      exact ⟨_, by rw [FieldKind.complaints, unread]; rfl⟩
  | _ => exact ⟨_, rfl⟩

end Counts

end Literal

namespace Argument

variable {fields : List String} {arguments : List Argument} {field : String} {index : Nat}

/-- The argument at the index is the first that is aimed at the field. -/
structure Takes (fields : List String) (arguments : List Argument) (index : Nat)
    (field : String) : Prop where
  aimed : target? fields arguments index = some field
  first : ¬IsTaken fields arguments field index

theorem lt_length_of_target? (aimed : target? fields arguments index = some field) :
    index < arguments.length := by
  by_contra past
  have none : arguments[index]? = none := List.getElem?_eq_none (by omega)
  simp [target?, none] at aimed

/-- The value of the first argument that is aimed at a field is bound to it. -/
theorem Takes.bound? (takes : Takes fields arguments index field) :
    bound? fields arguments field = arguments[index]?.map Argument.value := by
  have inside := lt_length_of_target? takes.aimed
  have present : arguments[index]? = some arguments[index] := List.getElem?_eq_getElem inside
  rw [Argument.bound?, aimedAt, List.head?_filterMap, present, Option.map_some,
    List.findSome?_eq_some_iff]
  refine ⟨List.range index, index,
    (List.range (arguments.length - (index + 1))).map (index + 1 + ·), ?_, ?_, ?_⟩
  · rw [List.append_cons, ← List.range_succ, ← List.range_add]
    congr 1
    omega
  · rw [if_pos takes.aimed, present]
    rfl
  · intro earlier before
    rw [if_neg fun aimed => takes.first ⟨earlier, List.mem_range.mp before, aimed⟩]

theorem Takes.replaceValue (takes : Takes fields arguments index field) (value : Literal) :
    Takes fields (replaceValue arguments index value) index field := by
  constructor
  · rw [target?_replaceValue, takes.aimed]
  · rw [isTaken_replaceValue]
    exact takes.first

/-- A replaced value is bound to the field. -/
theorem Takes.bound?_replaceValue (takes : Takes fields arguments index field) (value : Literal) :
    Argument.bound? fields (Argument.replaceValue arguments index value) field = some value := by
  have inside := lt_length_of_target? takes.aimed
  rw [(takes.replaceValue value).bound?, Argument.replaceValue, List.getElem?_modify_eq,
    List.getElem?_eq_getElem inside]
  rfl

end Argument

/-- The bounds of an arity. -/
inductive ArityBound where
  | least
  | greatest
deriving DecidableEq, Repr

namespace ArityBound

/-- The field of an option annotation that gives the bound. -/
def field : ArityBound → String
  | .least => "arity_min"
  | .greatest => "arity_max"

/-- What an option annotation says with another value of the bound. -/
def set (said : OptionArguments) (count : Option UInt32) : ArityBound → OptionArguments
  | .least => { said with arityMin := count }
  | .greatest => { said with arityMax := count }

end ArityBound

namespace Annotation

/-- What one field complains about in the literal bound to it. -/
def complaintsOf (mark : Annotation) (entry : String × FieldKind) : List ArgumentProblem :=
  ((mark.literal? entry.1).map (entry.2.complaints entry.1)).getD []

theorem complaints_eq_flatMap (mark : Annotation) :
    mark.complaints = optionKinds.flatMap mark.complaintsOf :=
  rfl

section Replacement

variable {mark : Annotation} {bound : ArityBound} {index : Nat}
  (takes : Argument.Takes optionFields mark.args index bound.field)

include takes

theorem literal?_taken (given : Literal) :
    (mark.replaceValue index given).literal? bound.field = some given :=
  takes.bound?_replaceValue given

theorem literal?_other (given : Literal) {field : String} (other : bound.field ≠ field) :
    (mark.replaceValue index given).literal? field = mark.literal? field :=
  literal?_replaceValue mark index given (by simpa [takes.aimed] using other)

/-- The literal decides the bound and nothing else. -/
theorem value_replaceValue (given : Literal) :
    (mark.replaceValue index given).readOption.value =
      bound.set mark.readOption.value given.count? := by
  have own := literal?_taken takes given
  have other := @literal?_other _ _ _ takes given
  rw [readOption_value, readOption_value]
  cases bound with
  | least =>
      simp only [ArityBound.field] at own
      simp (disch := decide) only [ArityBound.set, statedOption, own, other, Option.bind_some]
  | greatest =>
      simp only [ArityBound.field] at own
      simp (disch := decide) only [ArityBound.set, statedOption, own, other, Option.bind_some]

theorem lacksFlag_replaceValue (given : Literal) :
    (mark.replaceValue index given).LacksFlag ↔ mark.LacksFlag := by
  have other : bound.field ≠ "primary_flag" := by cases bound <;> decide
  rw [LacksFlag, LacksFlag, literal?_other takes given other]

theorem complaintsOf_taken (given : Literal) :
    (mark.replaceValue index given).complaintsOf (bound.field, .count) =
      FieldKind.count.complaints bound.field given := by
  rw [complaintsOf, literal?_taken takes given]
  rfl

theorem flatMap_complaintsOf_other (given : Literal) {entries : List (String × FieldKind)}
    (others : ∀ entry ∈ entries, bound.field ≠ entry.1) :
    entries.flatMap (mark.replaceValue index given).complaintsOf =
      entries.flatMap mark.complaintsOf := by
  apply List.flatMap_congr
  intro entry member
  rw [complaintsOf, complaintsOf, literal?_other takes given (others entry member)]

/-- The complaints about the literal stand at one place among the other problems. -/
theorem exists_problems_replaceValue : ∃ before after, ∀ given,
    (mark.replaceValue index given).readOption.problems =
      before ++ (FieldKind.count.complaints bound.field given ++ after) := by
  have split : ∃ earlier later, optionKinds = earlier ++ (bound.field, .count) :: later ∧
      (∀ entry ∈ earlier, bound.field ≠ entry.1) ∧ ∀ entry ∈ later, bound.field ≠ entry.1 := by
    cases bound with
    | least => exact ⟨optionKinds.take 6, optionKinds.drop 7, rfl, by decide, by decide⟩
    | greatest => exact ⟨optionKinds.take 7, [], rfl, by decide, by decide⟩
  rcases split with ⟨earlier, later, kinds, apart, apart'⟩
  refine ⟨Argument.problems optionFields mark.args ++
    (if mark.LacksFlag then [.missing "primary_flag"] else []) ++
    earlier.flatMap mark.complaintsOf, later.flatMap mark.complaintsOf, ?_⟩
  intro given
  have unbound : Argument.problems optionFields (mark.replaceValue index given).args =
      Argument.problems optionFields mark.args := Argument.problems_replaceValue _ _ _
  rw [readOption_problems, statedProblems, complaints_eq_flatMap, kinds, List.flatMap_append,
    List.flatMap_cons, flatMap_complaintsOf_other takes given apart,
    flatMap_complaintsOf_other takes given apart', complaintsOf_taken takes given, unbound]
  simp only [lacksFlag_replaceValue takes given, List.append_assoc]

end Replacement

/-- A bound of an arity is read alike from a whole number and from a text that spells it: as the
count if the number is one of 32 bits, and otherwise as no bound with one problem. Any literal that
writes no number gives no bound and one problem too, null aside. The problem stands at one place
among those of the annotation, and the other fields stay as they are. -/
theorem arityBound_read {mark : Annotation} {bound : ArityBound} {index : Nat}
    (takes : Argument.Takes optionFields mark.args index bound.field) :
    ∃ before after,
      (∀ given number, given.Writes number → Literal.IsCount number →
        (mark.replaceValue index given).readOption =
          ⟨bound.set mark.readOption.value (some (.ofNat number.toNat)), before ++ after⟩) ∧
      (∀ given number, given.Writes number → ¬Literal.IsCount number →
        ∃ problem, (mark.replaceValue index given).readOption =
          ⟨bound.set mark.readOption.value none, before ++ problem :: after⟩) ∧
      ∀ given, given ≠ .null → (∀ number, ¬given.Writes number) →
        ∃ problem, (mark.replaceValue index given).readOption =
          ⟨bound.set mark.readOption.value none, before ++ problem :: after⟩ := by
  rcases exists_problems_replaceValue takes with ⟨before, after, problems⟩
  have reads (given : Literal) : (mark.replaceValue index given).readOption =
      ⟨bound.set mark.readOption.value given.count?,
        before ++ (FieldKind.count.complaints bound.field given ++ after)⟩ := by
    rw [← value_replaceValue takes given, ← problems given]
  have refused (given : Literal) (present : given ≠ .null) (uncounted : given.count? = none) :
      ∃ problem, (mark.replaceValue index given).readOption =
        ⟨bound.set mark.readOption.value none, before ++ problem :: after⟩ := by
    rcases Literal.complaints_of_count?_eq_none bound.field present uncounted with ⟨problem, one⟩
    refine ⟨problem, ?_⟩
    rw [reads, uncounted, one]
    rfl
  refine ⟨before, after, ?_, ?_, ?_⟩
  · intro given number writes isCount
    have counted : given.count? = some (.ofNat number.toNat) := by
      rw [writes.count?_eq, if_pos isCount]
    rw [reads, counted, Literal.complaints_of_count? bound.field counted]
    rfl
  · intro given number writes outside
    apply refused given writes.ne_null
    rw [writes.count?_eq, if_neg outside]
  · intro given present wordless
    apply refused given present
    rw [Option.eq_none_iff_forall_ne_some]
    intro value counted
    rcases Literal.exists_writes_of_count? counted with ⟨number, writes⟩
    exact wordless number writes

/-- An option that states its least count twice, and a truth value that cannot be read. -/
def levelMark : Annotation :=
  ⟨"option", [⟨none, .string "--level"⟩, ⟨some "arity_min", .null⟩,
    ⟨some "hidden", .string "perhaps"⟩, ⟨some "arity_min", .integer 9⟩]⟩

/-- A numeral between white space is read as its number, and the first number that does not fit is
refused. -/
theorem arityBound_read_levelMark :
    Argument.Takes optionFields levelMark.args 1 ArityBound.least.field ∧
      Literal.Writes (.string "\u3000+0042\n") 42 ∧ Literal.IsCount 42 ∧
      ¬Literal.IsCount 4294967296 ∧
      (levelMark.replaceValue 1 (.string "\u3000+0042\n")).readOption =
        (levelMark.replaceValue 1 (.integer 42)).readOption ∧
      ∃ before after problem,
        (levelMark.replaceValue 1 (.integer 42)).readOption.problems = before ++ after ∧
        (levelMark.replaceValue 1 (.integer 4294967296)).readOption.problems =
          before ++ problem :: after := by
  have takes : Argument.Takes optionFields levelMark.args 1 ArityBound.least.field :=
    ⟨by decide, by decide⟩
  have writes : Literal.Writes (.string "\u3000+0042\n") 42 :=
    .text ⟨_, ⟨['\u3000'], ['\n'], by decide, List.forall_mem_singleton.mpr (by decide),
      List.forall_mem_singleton.mpr (by decide)⟩, .plus 2 42⟩
  rcases arityBound_read takes with ⟨before, after, counted, refused, _⟩
  have whole := counted _ 42 (.integer 42) (by decide)
  have spelled := counted _ 42 writes (by decide)
  rcases refused _ 4294967296 (.integer 4294967296) (by decide) with ⟨problem, large⟩
  refine ⟨takes, writes, by decide, by decide, ?_, before, after, problem, ?_, ?_⟩
  · rw [spelled, whole]
  · rw [whole]
  · rw [large]

end Annotation

end OptionCompiler
