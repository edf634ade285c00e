import Mathlib
import OptionCompiler.Proofs.Flag
/-!
# The grammar of flags

A well-formed flag is a dash and one letter or digit, or two dashes and runs of letters and digits
with one dash between any two. The recognizer goes through a name once and remembers only whether
it stands in a run, so what it accepts is described for names whose first run has begun before.

Reading a flag fails on dashes alone. What it gives is read back from how it is displayed: a short
letter is displayed as the flag that it was read from, and a long name begins with no dash.
-/

namespace OptionCompiler

namespace Flag

/-- Some ASCII letters and digits, at least one. -/
structure IsRun (run : List Char) : Prop where
  nonempty : run ≠ []
  alphanumeric : ∀ c ∈ run, c.isAlphanum = true

/-- The flags of the grammar. -/
inductive IsFlag : List Char → Prop where
  | short (letter : Char) (alphanumeric : letter.isAlphanum = true) : IsFlag ['-', letter]
  | long (runs : List (List Char)) (nonempty : runs ≠ []) (isRun : ∀ run ∈ runs, IsRun run) :
      IsFlag ('-' :: '-' :: ['-'].intercalate runs)

section Names

/-- A name that goes on with the rest of a run and then with further runs. Outside of a run it
begins with one. -/
structure Continues (inRun : Bool) (run : List Char) (runs : List (List Char))
    (name : List Char) : Prop where
  name_eq : name = ['-'].intercalate (run :: runs)
  begun : inRun = false → run ≠ []
  alphanumeric : ∀ c ∈ run, c.isAlphanum = true
  isRun : ∀ later ∈ runs, IsRun later

variable {inRun : Bool} {run rest name : List Char} {runs : List (List Char)}

theorem isDashedName_append (alphanumeric : ∀ c ∈ run, c.isAlphanum = true) :
    isDashedName inRun (run ++ rest) = isDashedName (inRun || !run.isEmpty) rest := by
  induction run generalizing inRun with
  | nil => simp
  | cons c run ih =>
      simp only [List.forall_mem_cons] at alphanumeric
      simp [isDashedName, alphanumeric.1, ih alphanumeric.2]

theorem isDashedName_of_continues (continues : Continues inRun run runs name) :
    isDashedName inRun name = true := by
  induction runs generalizing inRun run name with
  | nil =>
      rcases continues with ⟨rfl, begun, alphanumeric, _⟩
      have whole : isDashedName inRun (run ++ []) = isDashedName (inRun || !run.isEmpty) [] :=
        isDashedName_append alphanumeric
      cases inRun <;> simp_all [isDashedName]
  | cons second runs ih =>
      rcases continues with ⟨rfl, begun, alphanumeric, isRun⟩
      simp only [List.forall_mem_cons] at isRun
      have later : isDashedName false (['-'].intercalate (second :: runs)) = true := by
        apply ih
        exact ⟨rfl, fun _ => isRun.1.nonempty, isRun.1.alphanumeric, isRun.2⟩
      have inside : (inRun || !run.isEmpty) = true := by
        cases inRun <;> simp_all
      rw [List.intercalate_cons_cons, List.append_assoc, isDashedName_append alphanumeric, inside]
      simpa [isDashedName] using later

theorem continues_of_isDashedName (dashed : isDashedName inRun name = true) :
    ∃ run runs, Continues inRun run runs name := by
  induction name generalizing inRun with
  | nil =>
      have inside : inRun = true := dashed
      refine ⟨[], [], by simp, ?_, by simp, by simp⟩
      simp [inside]
  | cons c name ih =>
      by_cases letter : c.isAlphanum = true
      · simp only [isDashedName, letter, if_true] at dashed
        rcases ih dashed with ⟨run, runs, name_eq, _, alphanumeric, isRun⟩
        refine ⟨c :: run, runs, ?_, by simp, by simpa [letter] using alphanumeric, isRun⟩
        cases runs <;> simp [name_eq]
      · -- A dash ends a run, and the run after it is a whole one.
        simp only [isDashedName, letter, Bool.false_eq_true, if_false, Bool.and_eq_true,
          beq_iff_eq] at dashed
        rcases dashed with ⟨⟨rfl, inside⟩, later⟩
        rcases ih later with ⟨run, runs, name_eq, begun, alphanumeric, isRun⟩
        refine ⟨[], run :: runs, by simp [name_eq], by simp [inside], by simp, ?_⟩
        rw [List.forall_mem_cons]
        exact ⟨⟨begun rfl, alphanumeric⟩, isRun⟩

/-- Outside of a run a name is runs with one dash between any two. -/
theorem isDashedName_iff :
    isDashedName false name = true ↔
      ∃ runs, runs ≠ [] ∧ (∀ run ∈ runs, IsRun run) ∧ name = ['-'].intercalate runs := by
  constructor
  · intro dashed
    rcases continues_of_isDashedName dashed with ⟨run, runs, name_eq, begun, alphanumeric, isRun⟩
    refine ⟨run :: runs, List.cons_ne_nil _ _, ?_, name_eq⟩
    rw [List.forall_mem_cons]
    exact ⟨⟨begun rfl, alphanumeric⟩, isRun⟩
  · rintro ⟨runs, nonempty, isRun, rfl⟩
    cases runs with
    | nil => exact absurd rfl nonempty
    | cons run runs =>
        rw [List.forall_mem_cons] at isRun
        apply isDashedName_of_continues
        exact ⟨rfl, fun _ => isRun.1.nonempty, isRun.1.alphanumeric, isRun.2⟩

theorem isWellFormed_iff (flag : String) : isWellFormed flag = true ↔ IsFlag flag.toList := by
  constructor
  · intro formed
    unfold isWellFormed at formed
    split at formed
    · next letter chars =>
        rw [chars]
        exact .short letter formed
    · next name _ chars =>
        rcases isDashedName_iff.mp formed with ⟨runs, nonempty, isRun, rfl⟩
        rw [chars]
        exact .long runs nonempty isRun
    · cases formed
  · intro isFlag
    unfold isWellFormed
    generalize flag.toList = chars at isFlag
    cases isFlag with
    | short letter alphanumeric => exact alphanumeric
    | long runs nonempty isRun =>
        have dashed := isDashedName_iff.mpr ⟨runs, nonempty, isRun, rfl⟩
        -- Two dashes alone are no letter behind a dash.
        cases name : ['-'].intercalate runs with
        | nil =>
            rw [name] at dashed
            cases dashed
        | cons c rest => rwa [name] at dashed

end Names

end Flag

namespace FlagSpelling

section Reading

variable {flag : String} {spelling : FlagSpelling}

theorem parse?_eq_none_iff (flag : String) : parse? flag = none ↔ ∀ c ∈ flag.toList, c = '-' := by
  have dashes : flag.toList.dropWhile isDash = [] ↔ ∀ c ∈ flag.toList, c = '-' := by
    simp [List.dropWhile_eq_nil_iff, isDash]
  rw [← dashes]
  unfold parse?
  rcases flag.toList.dropWhile isDash with _ | ⟨first, _ | ⟨second, rest⟩⟩
  · simp
  · simp only [reduceCtorEq, iff_false]
    split_ifs <;> simp
  · simp

theorem label_of_parse?_short {letter : Char} (parsed : parse? flag = some (.short letter)) :
    (short letter).label = flag := by
  unfold parse? at parsed
  rcases name : flag.toList.dropWhile isDash with _ | ⟨first, _ | ⟨second, rest⟩⟩
  · simp [name] at parsed
  · simp only [name] at parsed
    split_ifs at parsed with single
    · cases parsed
      rcases List.length_eq_one_iff.mp single with ⟨dash, dashes⟩
      have isDash : isDash dash = true := by
        apply List.mem_takeWhile_imp (l := flag.toList)
        simp [dashes]
      have chars := List.takeWhile_append_dropWhile (p := FlagSpelling.isDash) (l := flag.toList)
      rw [dashes, name, beq_iff_eq.mp isDash] at chars
      apply String.toList_inj.mp
      simpa [label] using chars
    · cases parsed
  · simp [name] at parsed

/-- A spelling that was read is read back from how it is displayed. -/
theorem parse?_label (parsed : parse? flag = some spelling) :
    parse? spelling.label = some spelling := by
  cases spelling with
  | short letter => rwa [label_of_parse?_short parsed]
  | long name => exact (parse?_label_long name).mpr (long_of_parse? parsed)

/-- The well-formed flags are those of the grammar. A flag is not read only if it is made of
dashes, what is read is read back from its display, and the display of a well-formed flag is the
flag, so that no other well-formed flag has its spelling. -/
theorem flags_normalized (flag : String) :
    (Flag.isWellFormed flag = true ↔ Flag.IsFlag flag.toList) ∧
    (parse? flag = none ↔ ∀ c ∈ flag.toList, c = '-') ∧
    (∀ spelling, parse? flag = some spelling → parse? spelling.label = some spelling) ∧
    (Flag.isWellFormed flag = true →
      (∃ spelling, parse? flag = some spelling ∧ spelling.label = flag) ∧
      ∀ other, Flag.isWellFormed other = true → parse? other = parse? flag → other = flag) := by
  refine ⟨Flag.isWellFormed_iff flag, parse?_eq_none_iff flag, fun _ => parse?_label, ?_⟩
  intro formed
  rcases parse?_of_isWellFormed formed with ⟨spelling, parsed, shown⟩
  refine ⟨⟨spelling, parsed, shown⟩, ?_⟩
  intro other formed' same
  rcases parse?_of_isWellFormed formed' with ⟨spelling', parsed', shown'⟩
  rw [parsed, parsed'] at same
  rw [← shown, ← shown', Option.some.inj same]

/-- A letter behind one dash and the same letter behind two are different flags. -/
theorem flags_normalized_dryRun :
    Flag.isWellFormed "--dry-run" = true ∧
      (∃ spelling, parse? "--dry-run" = some spelling ∧ spelling.label = "--dry-run") ∧
      Flag.isWellFormed "-n" = true ∧ Flag.isWellFormed "--n" = true ∧
      parse? "-n" ≠ parse? "--n" := by
  have formed : Flag.isWellFormed "--dry-run" = true := by decide
  have short : Flag.isWellFormed "-n" = true := by decide
  have long : Flag.isWellFormed "--n" = true := by decide
  refine ⟨formed, ((flags_normalized "--dry-run").2.2.2 formed).1, short, long, ?_⟩
  intro same
  have equal := ((flags_normalized "--n").2.2.2 long).2 "-n" short same
  exact absurd equal (by decide)

end Reading

end FlagSpelling

end OptionCompiler
