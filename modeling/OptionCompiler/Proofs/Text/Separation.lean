import Mathlib
/-!
# Sequences that can be taken apart

Three ways in which a sequence says what it was put together from. A run of elements of one kind
ends at the first element of another kind. Runs that a stop ends are told apart by splitting at the
stops. And a sequence of codes is read from its beginning, code by code, when no code begins like
another one.
-/

namespace OptionCompiler

namespace Text

variable {α β : Type}

/-- A run of elements of one kind is read back from a sequence that goes on with another kind, if
it goes on at all. -/
theorem append_injective_of_kind (ofKind : α → Prop) {run other rest left : List α}
    (uniform : ∀ element ∈ run, ofKind element) (uniform' : ∀ element ∈ other, ofKind element)
    (ends : ∀ element ∈ rest.head?, ¬ofKind element)
    (ends' : ∀ element ∈ left.head?, ¬ofKind element) (equal : run ++ rest = other ++ left) :
    run = other ∧ rest = left := by
  induction run generalizing other with
  | nil =>
      cases other with
      | nil => exact ⟨rfl, equal⟩
      | cons element other =>
          rw [List.nil_append, List.cons_append] at equal
          rw [equal] at ends
          exact absurd (uniform' element (by simp)) (ends element (by simp))
  | cons element run ih =>
      cases other with
      | nil =>
          rw [List.nil_append, List.cons_append] at equal
          rw [← equal] at ends'
          exact absurd (uniform element (by simp)) (ends' element (by simp))
      | cons element' other =>
          rw [List.cons_append, List.cons_append, List.cons.injEq] at equal
          rcases equal with ⟨rfl, tails⟩
          rcases ih (fun later member => uniform later (by simp [member]))
              (fun later member => uniform' later (by simp [member])) tails with ⟨rfl, rest⟩
          exact ⟨rfl, rest⟩

/-- A run of elements of one kind, the element that ends it and what comes after are read back
from the sequence. -/
theorem append_cons_injective (ofKind : α → Prop) {run other rest left : List α} {stop halt : α}
    (uniform : ∀ element ∈ run, ofKind element) (uniform' : ∀ element ∈ other, ofKind element)
    (stops : ¬ofKind stop) (halts : ¬ofKind halt)
    (equal : run ++ stop :: rest = other ++ halt :: left) :
    run = other ∧ stop = halt ∧ rest = left := by
  rcases append_injective_of_kind ofKind uniform uniform' (by simpa using stops)
      (by simpa using halts) equal with ⟨runs, tails⟩
  exact ⟨runs, List.cons.inj tails⟩

/-- Runs that a stop ends stand between the stops, with nothing behind the last one. -/
theorem flatMap_concat_eq_intercalate (stop : α) (runs : List (List α)) :
    (runs.flatMap fun run => run ++ [stop]) = [stop].intercalate (runs ++ [[]]) := by
  induction runs with
  | nil => rfl
  | cons run runs ih =>
      rw [List.flatMap_cons, ih, List.cons_append, List.intercalate_cons_of_ne_nil (by simp)]

/-- Runs that a stop ends are read back at the stops, if none of them holds one. -/
theorem splitOn_flatMap_concat [DecidableEq α] {stop : α} {runs : List (List α)}
    (apart : ∀ run ∈ runs, stop ∉ run) :
    (runs.flatMap fun run => run ++ [stop]).splitOn stop = runs ++ [[]] := by
  have free : ∀ run ∈ runs ++ [[]], stop ∉ run := by
    intro run member
    rcases List.mem_append.mp member with member | last
    · exact apart run member
    · simp [List.mem_singleton.mp last]
  rw [flatMap_concat_eq_intercalate, List.splitOn_intercalate stop free (by simp)]

/-- A sequence of codes is read code by code up to an end that no code begins with, if each code
tells where it ends and what it stands for. -/
theorem forall₂_of_flatMap_append {code : α → List β} {agree : α → α → Prop} {stop stop' : List β}
    {elements others : List α}
    (reads : ∀ element ∈ elements, ∀ other ∈ others, ∀ rest left,
      code element ++ rest = code other ++ left → agree element other ∧ rest = left)
    (stops : ∀ other ∈ others, ∀ rest, code other ++ rest ≠ stop)
    (stops' : ∀ element ∈ elements, ∀ rest, code element ++ rest ≠ stop')
    (equal : elements.flatMap code ++ stop = others.flatMap code ++ stop') :
    List.Forall₂ agree elements others ∧ stop = stop' := by
  induction elements generalizing others with
  | nil =>
      cases others with
      | nil => exact ⟨.nil, equal⟩
      | cons other others =>
          rw [List.flatMap_cons, List.append_assoc] at equal
          exact absurd equal.symm (stops other (by simp) _)
  | cons element elements ih =>
      cases others with
      | nil =>
          rw [List.flatMap_cons, List.append_assoc] at equal
          exact absurd equal (stops' element (by simp) _)
      | cons other others =>
          rw [List.flatMap_cons, List.flatMap_cons, List.append_assoc, List.append_assoc] at equal
          rcases reads element (by simp) other (by simp) _ _ equal with ⟨agreed, tails⟩
          rcases ih
              (fun element member other member' =>
                reads element (by simp [member]) other (by simp [member']))
              (fun other member => stops other (by simp [member]))
              (fun element member => stops' element (by simp [member])) tails with ⟨each, rest⟩
          exact ⟨.cons agreed each, rest⟩

/-- No code begins like another one. -/
def IsPrefixCode (code : α → List β) : Prop :=
  ∀ element other rest left, code element ++ rest = code other ++ left →
    element = other ∧ rest = left

/-- A sequence of codes before an end that no code begins with is read back. -/
theorem IsPrefixCode.flatMap_append_injective {code : α → List β} (isCode : IsPrefixCode code)
    {stop stop' : List β} (stops : ∀ element rest, code element ++ rest ≠ stop)
    (stops' : ∀ element rest, code element ++ rest ≠ stop') {elements others : List α}
    (equal : elements.flatMap code ++ stop = others.flatMap code ++ stop') :
    elements = others ∧ stop = stop' := by
  have read := forall₂_of_flatMap_append (fun element _ other _ => isCode element other)
    (fun other _ => stops other) (fun element _ => stops' element) equal
  rwa [List.forall₂_eq_eq_eq] at read

end Text

end OptionCompiler
