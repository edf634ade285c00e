import Mathlib
import OptionCompiler.Proofs.CommandLine.CleanName
import OptionCompiler.Proofs.FileTree.Path
/-!
# Names of output files

Inputs whose names are all different get these names in their order. Otherwise the first name that
an earlier input has already is reported.

Whatever an input is called, the name of its output is clean, so it is the name of one file in the
output directory and never leads out of it.
-/

namespace OptionCompiler

namespace CommandLine

namespace OutputName

section Names

variable {path name : String} {taken paths given : List String}

theorem namesFrom_cons_eq_ok_iff :
    namesFrom taken (path :: paths) = .ok given ↔
      ofInput path ∉ taken ∧ ∃ others, namesFrom (ofInput path :: taken) paths = .ok others ∧
        given = ofInput path :: others := by
  rw [namesFrom]
  split
  · next old => simp [old]
  · next fresh =>
      cases namesFrom (ofInput path :: taken) paths <;> simp [Except.map, fresh, eq_comm]

theorem namesFrom_cons_eq_error_iff :
    namesFrom taken (path :: paths) = .error name ↔
      ofInput path ∈ taken ∧ ofInput path = name ∨
        ofInput path ∉ taken ∧ namesFrom (ofInput path :: taken) paths = .error name := by
  rw [namesFrom]
  split
  · next old => simp [old]
  · next fresh =>
      cases namesFrom (ofInput path :: taken) paths <;> simp [Except.map, fresh]

/-- The names are given when they differ from each other and from the names that are taken. -/
theorem namesFrom_eq_ok_iff {names : List String} (taken paths : List String) :
    namesFrom taken paths = .ok names ↔
      names = paths.map ofInput ∧ names.Nodup ∧ ∀ name ∈ names, name ∉ taken := by
  induction paths generalizing taken names with
  | nil =>
      constructor
      · rintro ⟨⟩
        simp
      · rintro ⟨rfl, -, -⟩
        rfl
  | cons path paths ih =>
      rw [namesFrom_cons_eq_ok_iff]
      constructor
      · rintro ⟨fresh, others, later, rfl⟩
        rcases (ih _).mp later with ⟨rfl, distinct, free⟩
        refine ⟨rfl, List.nodup_cons.mpr ⟨?_, distinct⟩, ?_⟩
        · intro again
          exact free _ again (by simp)
        · intro name member
          rcases List.mem_cons.mp member with rfl | member
          · exact fresh
          · exact fun old => free name member (List.mem_cons_of_mem _ old)
      · rintro ⟨rfl, distinct, free⟩
        rw [List.map_cons, List.nodup_cons] at distinct
        refine ⟨free _ (by simp), paths.map ofInput, (ih _).mpr ⟨rfl, distinct.2, ?_⟩, rfl⟩
        intro name member old
        rcases List.mem_cons.mp old with rfl | old
        · exact distinct.1 member
        · exact free name (List.mem_cons_of_mem _ member) old

/-- The names are refused at the first input whose name is taken, be it by an earlier one. -/
theorem namesFrom_eq_error_iff :
    namesFrom taken paths = .error name ↔
      ∃ earlier path later given, paths = earlier ++ path :: later ∧ ofInput path = name ∧
        namesFrom taken earlier = .ok given ∧ (name ∈ given ∨ name ∈ taken) := by
  induction paths generalizing taken with
  | nil => simp [namesFrom]
  | cons path paths ih =>
      have moved (given : List String) : name ∈ ofInput path :: given ∨ name ∈ taken ↔
          name ∈ given ∨ name ∈ ofInput path :: taken := by
        simp only [List.mem_cons, or_assoc]
        exact or_left_comm
      rw [namesFrom_cons_eq_error_iff, ih]
      constructor
      · rintro (⟨old, rfl⟩ | ⟨fresh, earlier, other, later, given, rfl, same, passed, repeated⟩)
        · exact ⟨[], path, paths, [], rfl, rfl, rfl, .inr old⟩
        · refine ⟨path :: earlier, other, later, ofInput path :: given, rfl, same, ?_, ?_⟩
          · exact namesFrom_cons_eq_ok_iff.mpr ⟨fresh, given, passed, rfl⟩
          · exact (moved given).mpr repeated
      · rintro ⟨earlier, other, later, given, split, same, passed, repeated⟩
        cases earlier with
        | nil =>
            cases split
            cases passed
            exact .inl ⟨by simpa [same] using repeated, same⟩
        | cons first earlier =>
            cases split
            rcases namesFrom_cons_eq_ok_iff.mp passed with ⟨fresh, others, passed', rfl⟩
            right
            exact ⟨fresh, earlier, other, later, others, rfl, same, passed',
              (moved others).mp repeated⟩

/-- The names of inputs are given exactly when no two inputs have one name. -/
theorem names_eq_ok_iff {given : List String} (paths : List String) :
    names paths = .ok given ↔ given = paths.map ofInput ∧ (paths.map ofInput).Nodup := by
  rw [names, namesFrom_eq_ok_iff]
  constructor
  · rintro ⟨rfl, distinct, -⟩
    exact ⟨rfl, distinct⟩
  · rintro ⟨rfl, distinct⟩
    exact ⟨rfl, distinct, by simp⟩

/-- The name of every output is clean, and the clean names are those that sanitizing leaves as they
are. The outputs of some inputs get their names in order exactly when these are all different;
otherwise the first name is reported that an earlier input has already. -/
theorem names_clean (text : String) (paths : List String) :
    IsClean (sanitize text).toList ∧
    sanitize (sanitize text) = sanitize text ∧
    (sanitize text = text ↔ IsClean text.toList) ∧
    (∀ given, names paths = .ok given ↔
      (paths.map ofInput).Nodup ∧ given = paths.map ofInput) ∧
    (∀ name, names paths = .error name ↔
      ∃ earlier path later, paths = earlier ++ path :: later ∧ (earlier.map ofInput).Nodup ∧
        ofInput path = name ∧ name ∈ earlier.map ofInput) := by
  have clean := isClean_sanitize text
  refine ⟨clean, sanitize_of_isClean clean, ⟨?_, sanitize_of_isClean⟩, ?_, ?_⟩
  · intro same
    rwa [same] at clean
  · intro given
    rw [names_eq_ok_iff, and_comm]
  · intro name
    rw [names, namesFrom_eq_error_iff]
    constructor
    · rintro ⟨earlier, path, later, given, split, same, passed, repeated⟩
      rcases (names_eq_ok_iff earlier).mp passed with ⟨rfl, distinct⟩
      exact ⟨earlier, path, later, split, distinct, same, by simpa using repeated⟩
    · rintro ⟨earlier, path, later, split, distinct, same, repeated⟩
      have passed := (names_eq_ok_iff earlier).mpr ⟨rfl, distinct⟩
      exact ⟨earlier, path, later, _, split, same, passed, .inl repeated⟩

/-- The name of a text without letters and digits may be that of another input. -/
example : names ["in/__.json", "in/generated.yaml"] = .error "generated" :=
  rfl

end Names

section Files

/-- The name of an output with an extension of letters is the name of one file. -/
theorem isName_file (path : String) : Path.IsName (ofInput path ++ ".rs") where
  ne_nil := by simp
  not_mem := by
    rw [String.toList_append, List.mem_append, not_or]
    refine ⟨?_, by decide⟩
    intro slash
    have plain := (isClean_sanitize ((Path.stem? path).getD "")).plain '/' slash
    exact absurd plain (by decide)

/-- The name of a file ends with its extension, so it is not a name made of dots. -/
theorem file_ne_dots (path : String) :
    ofInput path ++ ".rs" ≠ "." ∧ ofInput path ++ ".rs" ≠ ".." := by
  have last : (ofInput path ++ ".rs").toList.getLast? = some 's' := by simp
  constructor
  · intro same
    rw [same] at last
    cases last
  · intro same
    rw [same] at last
    cases last

end Files

end OutputName

end CommandLine

end OptionCompiler
