import Mathlib
import OptionCompiler.FileTree
/-!
# Paths of files in a directory

A name that is joined to the path of a directory is the last name of the joined path, whether or
not the path of the directory ends with a slash, and the names before it are those of the
directory. The names of a path are read from the left with the name so far kept aside, so the
argument is that a slash, and only a slash, starts a new name.
-/

namespace OptionCompiler

namespace Path

/-- A slash divides the names. -/
theorem namesFrom_append (reversed before after : List Char) :
    namesFrom reversed (before ++ '/' :: after) =
      namesFrom reversed before ++ namesFrom [] after := by
  induction before generalizing reversed with
  | nil => simp [namesFrom]
  | cons c before ih =>
      rw [List.cons_append, namesFrom, namesFrom]
      split
      · rw [ih, List.cons_append]
      · exact ih (c :: reversed)

/-- Without a slash there is one name. -/
theorem namesFrom_of_not_mem (reversed : List Char) {chars : List Char} (slash : '/' ∉ chars) :
    namesFrom reversed chars = [reversed.reverse ++ chars] := by
  induction chars generalizing reversed with
  | nil => simp [namesFrom]
  | cons c chars ih =>
      rw [List.mem_cons, not_or] at slash
      rw [namesFrom, if_neg (Ne.symm slash.1), ih (c :: reversed) slash.2]
      simp

/-- A text that can be the name of a file: it is not empty and has no slash. -/
structure IsName (name : String) : Prop where
  ne_nil : name.toList ≠ []
  not_mem : '/' ∉ name.toList

section Join

variable {name : String}

/-- The characters of a joined path: the name stands alone, after the slash that the directory ends
with, or after a slash of its own. -/
theorem toList_join (directory name : String) :
    directory.toList = [] ∧ (join directory name).toList = name.toList ∨
      (∃ before, directory.toList = before ++ ['/'] ∧
        (join directory name).toList = before ++ '/' :: name.toList) ∨
      directory.toList ≠ [] ∧
        (join directory name).toList = directory.toList ++ '/' :: name.toList := by
  unfold join
  rcases List.eq_nil_or_concat directory.toList with none | ⟨before, last, some⟩
  · exact .inl ⟨none, by simp [none]⟩
  · right
    by_cases slash : last = '/'
    · subst slash
      exact .inl ⟨before, by simpa using some, by simp [some]⟩
    · exact .inr ⟨by simp [some], by simp [some, slash]⟩

/-- The last name of a joined path is the joined one. -/
theorem names_join (directory : String) (isName : IsName name) :
    names (join directory name) = names directory ++ [name] := by
  have single : ((namesFrom [] name.toList).filter fun chars => !chars.isEmpty).map
      String.ofList = [name] := by
    have nonempty : name.toList.isEmpty = false := by simpa using isName.ne_nil
    simp [namesFrom_of_not_mem [] isName.not_mem, nonempty]
  unfold names
  rcases toList_join directory name with ⟨none, chars⟩ | ⟨before, some, chars⟩ | ⟨-, chars⟩
  · rw [chars, none, single]
    rfl
  · -- The slash at the end of the directory is followed by an empty name, which does not count.
    rw [chars, some, namesFrom_append, namesFrom_append]
    simp only [List.filter_append, List.map_append, single]
    simp [namesFrom]
  · rw [chars, namesFrom_append, List.filter_append, List.map_append, single]

/-- A joined path ends with the name. -/
theorem toList_join_eq_append (directory name : String) :
    ∃ before, (join directory name).toList = before ++ name.toList := by
  rcases toList_join directory name with ⟨-, chars⟩ | ⟨before, -, chars⟩ | ⟨-, chars⟩
  · exact ⟨[], by simpa using chars⟩
  · exact ⟨before ++ ['/'], by simpa using chars⟩
  · exact ⟨directory.toList ++ ['/'], by simpa using chars⟩

/-- A joined path is absolute when the directory is. -/
theorem isAbsolute_join (directory : String) (isName : IsName name) :
    isAbsolute (join directory name) = isAbsolute directory := by
  unfold isAbsolute
  rcases toList_join directory name with ⟨none, chars⟩ | ⟨before, some, chars⟩ | ⟨some, chars⟩
  · rw [chars, none]
    cases first : name.toList.head? with
    | none => rfl
    | some c =>
        have slash : c ≠ '/' := by
          rintro rfl
          exact isName.not_mem (List.mem_of_mem_head? first)
        simpa using slash
  · rw [chars, some]
    cases before <;> rfl
  · rw [chars, List.head?_append_of_ne_nil _ some]

end Join

end Path

namespace FileTree

variable {name : String}

/-- A joined path starts where the directory starts. -/
theorem start_join (directory : String) (isName : Path.IsName name) :
    start (Path.join directory name) = start directory := by
  rw [start, Path.isAbsolute_join directory isName, start]

/-- A joined path does not end with a slash, so its names are followed as they are. -/
theorem lookupNames_join (directory : String) (isName : Path.IsName name) :
    lookupNames (Path.join directory name) = Path.names directory ++ [name] := by
  rcases Path.toList_join_eq_append directory name with ⟨before, chars⟩
  have last : (Path.join directory name).toList.getLast? ≠ some '/' := by
    rw [chars, List.getLast?_append_of_ne_nil _ isName.ne_nil]
    intro slash
    exact isName.not_mem (List.mem_of_getLast? slash)
  rw [lookupNames, if_neg (by simpa using last), Path.names_join directory isName]

end FileTree

end OptionCompiler
