import Mathlib
import OptionCompiler.Text
/-!
# Trimmed texts

A text is what a trim leaves of it with white space around it. The other way round, a trim takes
exactly the white space around characters that are visible themselves, such as those of ASCII
behind the space.
-/

namespace OptionCompiler

namespace Text

/-- The text is the given characters with white space around them. -/
def Surrounds (text : String) (inner : List Char) : Prop :=
  ∃ before after, text.toList = before ++ (inner ++ after) ∧
    (∀ c ∈ before, isBlank c = true) ∧ (∀ c ∈ after, isBlank c = true)

theorem isBlank_of_ascii {c : Char} (least : 0x20 < c.toNat) (greatest : c.toNat < 0x7F) :
    isBlank c = false := by
  simp only [isBlank, Bool.or_eq_false_iff, Bool.and_eq_false_iff, decide_eq_false_iff_not,
    beq_eq_false_iff_ne]
  omega

theorem toList_trim (text : String) :
    (trim text).toList = (text.toList.dropWhile isBlank).rdropWhile isBlank :=
  String.toList_ofList

theorem surrounds_trim (text : String) : Surrounds text (trim text).toList := by
  rw [toList_trim]
  refine ⟨text.toList.takeWhile isBlank, (text.toList.dropWhile isBlank).rtakeWhile isBlank,
    ?_, ?_, ?_⟩
  · rw [List.rdropWhile_append_rtakeWhile, List.takeWhile_append_dropWhile]
  · exact fun c => List.mem_takeWhile_imp
  · exact fun c => List.mem_rtakeWhile_imp

/-- White space around visible characters is trimmed. -/
theorem toList_trim_of_surrounds {text : String} {inner : List Char}
    (surrounds : Surrounds text inner) (visible : ∀ c ∈ inner, isBlank c = false) :
    (trim text).toList = inner := by
  rcases surrounds with ⟨before, after, shape, blank, blank'⟩
  have stays : ∀ {chars : List Char}, (∀ c ∈ chars, isBlank c = false) →
      chars.dropWhile isBlank = chars := by
    intro chars shown
    rw [List.dropWhile_eq_self_iff]
    intro present
    simpa using shown _ (List.getElem_mem present)
  rw [toList_trim, shape, List.dropWhile_append_of_pos blank, List.dropWhile_append,
    stays visible, List.rdropWhile]
  split_ifs with none
  · have all : after.dropWhile isBlank = [] := List.dropWhile_eq_nil_iff.mpr blank'
    rw [all, List.isEmpty_iff.mp none]
    rfl
  · rw [List.reverse_append, List.dropWhile_append_of_pos (by simpa using blank'),
      stays (by simpa using visible), List.reverse_reverse]

end Text

end OptionCompiler
