import Mathlib
import OptionCompiler.CommandLine.OutputName
/-!
# Clean names

The name of an output is clean: lower-case letters and digits with single underscores between
them. Sanitizing makes every text clean and leaves a clean one as it is, since the runs of a clean
name are read back from it. So the clean names are the fixed points, and sanitizing twice is the
same as once.
-/

namespace OptionCompiler

namespace CommandLine

namespace OutputName

/-- Lower-case letters and digits with single underscores between them. -/
structure IsClean (name : List Char) : Prop where
  nonempty : name ≠ []
  plain : ∀ c ∈ name, c.isLower = true ∨ c.isDigit = true ∨ c = '_'
  begins : ¬['_'] <+: name
  ends : ¬['_'] <:+ name
  apart : ¬['_', '_'] <:+: name

section Characters

/-- A character of a run: a lower-case letter or a digit. -/
def isRunChar (c : Char) : Bool :=
  c.isLower || c.isDigit

/-- A character of a name: one of a run, or the underscore between two runs. -/
def isNameChar (c : Char) : Bool :=
  isRunChar c || c = '_'

theorem isNameChar_iff {c : Char} :
    isNameChar c = true ↔ c.isLower = true ∨ c.isDigit = true ∨ c = '_' := by
  simp [isNameChar, isRunChar, or_assoc]

theorem ne_underscore_of_isRunChar {c : Char} (plain : isRunChar c = true) : c ≠ '_' := by
  rintro rfl
  cases plain

theorem toLower_of_isNameChar {c : Char} (plain : isNameChar c = true) : c.toLower = c := by
  unfold Char.toLower
  split
  · next upper =>
      have first : 65 ≤ c.val.toNat := upper.1
      have last : c.val.toNat ≤ 90 := upper.2
      rcases isNameChar_iff.mp plain with lower | digit | rfl
      · simp only [Char.isLower, Bool.and_eq_true, decide_eq_true_eq, ge_iff_le,
          UInt32.le_iff_toNat_le] at lower
        have least : 97 ≤ c.val.toNat := lower.1
        omega
      · simp only [Char.isDigit, Bool.and_eq_true, decide_eq_true_eq, ge_iff_le,
          UInt32.le_iff_toNat_le] at digit
        have greatest : c.val.toNat ≤ 57 := digit.2
        omega
      · exact absurd last (by decide)
  · rfl

theorem isRunChar_toLower {c : Char} (alphanumeric : c.isAlphanum = true) :
    isRunChar c.toLower = true := by
  unfold Char.toLower
  simp only [isRunChar, Char.isAlphanum, Char.isAlpha, Char.isUpper, Char.isLower, Char.isDigit,
    Bool.or_eq_true, Bool.and_eq_true, decide_eq_true_eq, UInt32.le_iff_toNat_le, ge_iff_le]
    at alphanumeric ⊢
  split
  · next upper =>
      have first : 65 ≤ c.val.toNat := upper.1
      have last : c.val.toNat ≤ 90 := upper.2
      have shifted : (c.val + ('a'.val - 'A'.val)).toNat = c.val.toNat + 32 := by
        rw [UInt32.toNat_add, show ('a'.val - 'A'.val).toNat = 32 from rfl]
        omega
      left
      rw [shifted]
      change 97 ≤ c.val.toNat + 32 ∧ c.val.toNat + 32 ≤ 122
      omega
  · next other =>
      rcases alphanumeric with (upper | lower) | digit
      · exact absurd upper other
      · exact .inl lower
      · exact .inr digit

end Characters

section Runs

variable {run name : List Char} {runs : List (List Char)}

/-- Runs are not empty and are made of lower-case letters and digits. -/
theorem runsFrom_spec (reversed chars : List Char)
    (begun : ∀ c ∈ reversed, isRunChar c = true) :
    ∀ run ∈ runsFrom reversed chars, run ≠ [] ∧ ∀ c ∈ run, isRunChar c = true := by
  induction chars generalizing reversed with
  | nil =>
      intro run member
      rw [runsFrom] at member
      split at member
      · cases member
      · next some =>
          rw [List.mem_singleton.mp member]
          exact ⟨by simpa using some, fun c inside => begun c (List.mem_reverse.mp inside)⟩
  | cons c chars ih =>
      intro run member
      rw [runsFrom] at member
      split at member
      · next alphanumeric =>
          refine ih (c.toLower :: reversed) ?_ run member
          simpa [isRunChar_toLower alphanumeric] using begun
      split at member
      · exact ih [] (by simp) run member
      · next some =>
          rcases List.mem_cons.mp member with rfl | later
          · exact ⟨by simpa using some, fun c inside => begun c (List.mem_reverse.mp inside)⟩
          · exact ih [] (by simp) run later

theorem isClean_run (nonempty : run ≠ []) (plain : ∀ c ∈ run, isRunChar c = true) :
    IsClean run := by
  have absent : '_' ∉ run := by
    intro member
    exact ne_underscore_of_isRunChar (plain '_' member) rfl
  refine ⟨nonempty, ?_, ?_, ?_, ?_⟩
  · intro c member
    apply isNameChar_iff.mp
    simp [isNameChar, plain c member]
  · intro begins
    exact absent (begins.mem (by simp))
  · intro ends
    exact absent (ends.mem (by simp))
  · intro inside
    exact absent (inside.mem (by simp))

/-- A run, an underscore and a clean name are a clean name. -/
theorem IsClean.cons_run (clean : IsClean name) (nonempty : run ≠ [])
    (plain : ∀ c ∈ run, isRunChar c = true) : IsClean (run ++ '_' :: name) := by
  have own := isClean_run nonempty plain
  refine ⟨by simp, ?_, ?_, ?_, ?_⟩
  · rw [List.forall_mem_append, List.forall_mem_cons]
    exact ⟨own.plain, .inr (.inr rfl), clean.plain⟩
  · have begins := own.begins
    rw [List.singleton_prefix_iff_head?_eq_some] at begins ⊢
    rwa [List.head?_append_of_ne_nil _ nonempty]
  · have ends := clean.ends
    rw [List.singleton_suffix_iff_getLast?_eq_some] at ends ⊢
    rcases List.exists_cons_of_ne_nil clean.nonempty with ⟨first, rest, rfl⟩
    simpa using ends
  · -- Two underscores would both be outside of the run, which has none.
    have later : ¬['_', '_'] <:+: '_' :: name := by
      rw [List.infix_cons_iff, List.cons_prefix_cons]
      rintro (⟨_, begins⟩ | inside)
      · exact clean.begins begins
      · exact clean.apart inside
    rw [List.infix_append_iff]
    rintro (inside | inside | ⟨front, back, split, ends, begins⟩)
    · exact own.apart inside
    · exact later inside
    · cases front with
      | nil => exact later (split ▸ begins.isInfix)
      | cons c front =>
          have member : c ∈ run := ends.mem List.mem_cons_self
          have same : '_' = c := (List.cons.inj split).1
          exact ne_underscore_of_isRunChar (plain c member) same.symm

theorem isClean_intercalate (nonempty : runs ≠ [])
    (plain : ∀ run ∈ runs, run ≠ [] ∧ ∀ c ∈ run, isRunChar c = true) :
    IsClean (['_'].intercalate runs) := by
  induction runs with
  | nil => exact absurd rfl nonempty
  | cons run runs ih =>
      simp only [List.forall_mem_cons] at plain
      cases runs with
      | nil => simpa using isClean_run plain.1.1 plain.1.2
      | cons second runs =>
          rw [List.intercalate_cons_cons, List.append_assoc]
          exact (ih (List.cons_ne_nil _ _) plain.2).cons_run plain.1.1 plain.1.2

theorem intercalate_runsFrom {reversed : List Char} (plain : ∀ c ∈ name, isNameChar c = true)
    (begins : reversed = [] → ¬['_'] <+: name) (ends : ¬['_'] <:+ name)
    (apart : ¬['_', '_'] <:+: name) :
    ['_'].intercalate (runsFrom reversed name) = reversed.reverse ++ name := by
  induction name generalizing reversed with
  | nil => cases reversed <;> simp [runsFrom]
  | cons c name ih =>
      rw [List.forall_mem_cons] at plain
      rw [List.infix_cons_iff, not_or] at apart
      have ends' : ¬['_'] <:+ name := fun suffix => ends (suffix.trans (List.suffix_cons c name))
      by_cases letter : c.isAlphanum = true
      · rw [runsFrom, if_pos letter, toLower_of_isNameChar plain.1,
          ih plain.2 (by simp) ends' apart.2]
        simp
      · -- An underscore ends the run so far, and a clean rest goes on with another one.
        have mark : c = '_' := by
          rcases isNameChar_iff.mp plain.1 with lower | digit | mark
          · exact absurd (by simp [Char.isAlphanum, Char.isAlpha, lower]) letter
          · exact absurd (by simp [Char.isAlphanum, digit]) letter
          · exact mark
        subst mark
        have begun : reversed ≠ [] := fun empty => begins empty (by simp)
        have begins' : ¬['_'] <+: name := by
          simpa [List.cons_prefix_cons] using apart.1
        have rest : ['_'].intercalate (runsFrom [] name) = name :=
          ih plain.2 (fun _ => begins') ends' apart.2
        have filled : name ≠ [] := by
          rintro rfl
          exact ends (List.suffix_refl _)
        rw [runsFrom, if_neg letter, if_neg (by simpa using begun)]
        cases runs : runsFrom [] name with
        | nil =>
            rw [runs] at rest
            exact absurd rest.symm filled
        | cons first runs =>
            rw [runs] at rest
            rw [List.intercalate_cons_cons, rest]
            simp

end Runs

section Sanitize

theorem isClean_sanitize (text : String) : IsClean (sanitize text).toList := by
  have plain := runsFrom_spec [] text.toList (by simp)
  unfold sanitize
  split
  · apply isClean_run
    · decide
    · simp [fallback, isRunChar, Char.isLower]
  · next nonempty =>
      rw [String.toList_ofList]
      exact isClean_intercalate nonempty plain

/-- A clean text is sanitized already. -/
theorem sanitize_of_isClean {text : String} (clean : IsClean text.toList) :
    sanitize text = text := by
  have read : ['_'].intercalate (runsFrom [] text.toList) = text.toList := by
    apply intercalate_runsFrom
    · intro c member
      exact isNameChar_iff.mpr (clean.plain c member)
    · intro _
      exact clean.begins
    · exact clean.ends
    · exact clean.apart
  unfold sanitize
  split
  · next empty =>
      rw [empty] at read
      exact absurd read.symm clean.nonempty
  · rw [read, String.ofList_toList]

end Sanitize

end OutputName

end CommandLine

end OptionCompiler
