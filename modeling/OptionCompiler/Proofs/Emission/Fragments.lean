import Mathlib
import OptionCompiler.Emission
import OptionCompiler.Proofs.Extraction.Tree
/-!
# Fragments of single commands

A source is assembled from one fragment for each command, up to the first command that has none.
A command whose options all stand in its own type is rendered from the blocked members of that
type as it is from all of them.
-/

namespace OptionCompiler

section Ordering

theorem Location.typeName_eq_of_compare {location other : Location}
    (equal : compare location other = .eq) : location.typeName = other.typeName := by
  have names := (Ordering.then_eq_eq.mp equal).1
  exact compare_eq_iff_eq.mp names

end Ordering

namespace BlockedMembers

theorem codes?_ofType (blocked : BlockedMembers) (location : Location) :
    (blocked.ofType location.typeName).codes? location = blocked.codes? location := by
  unfold codes? ofType Sorted.find?
  rw [List.find?_filter]
  congr 2
  funext entry
  cases compared : compare location entry.1 == .eq with
  | false => simp
  | true =>
      have names := Location.typeName_eq_of_compare (beq_iff_eq.mp compared)
      simp [names]

end BlockedMembers

section Pairing

variable {α β : Type} {related : α → β → Prop} {lefts : List α} {rights : List β}

theorem exists_right_of_forall₂ (each : List.Forall₂ related lefts rights) {left : α}
    (listed : left ∈ lefts) : ∃ right ∈ rights, related left right := by
  induction each with
  | nil => cases listed
  | cons head _ ih =>
      rcases List.mem_cons.mp listed with rfl | later
      · exact ⟨_, List.mem_cons_self, head⟩
      · rcases ih later with ⟨right, member, holds⟩
        exact ⟨right, List.mem_cons_of_mem _ member, holds⟩

theorem exists_left_of_forall₂ (each : List.Forall₂ related lefts rights) {right : β}
    (listed : right ∈ rights) : ∃ left ∈ lefts, related left right :=
  exists_right_of_forall₂ each.flip listed

end Pairing

section Sequencing

variable {α β ε : Type} {items : List α} {read other : α → Except ε β}

theorem mapM_congr (agree : ∀ item ∈ items, read item = other item) :
    items.mapM read = items.mapM other := by
  induction items with
  | nil => rfl
  | cons item items ih =>
      rw [List.mapM_cons, List.mapM_cons, agree item (by simp),
        ih fun later member => agree later (by simp [member])]

/-- A list is read item by item, or up to the first item that fails. -/
inductive ReadAll (read : α → Except ε β) : List α → Except ε (List β) → Prop where
  | success (items : List α) (values : List β)
      (reads : List.Forall₂ (fun item value => read item = .ok value) items values) :
      ReadAll read items (.ok values)
  | failure (earlier : List α) (item : α) (later : List α) (error : ε)
      (reads : ∀ before ∈ earlier, ∃ value, read before = .ok value)
      (fails : read item = .error error) :
      ReadAll read (earlier ++ item :: later) (.error error)

theorem readAll_mapM (read : α → Except ε β) (items : List α) :
    ReadAll read items (items.mapM read) := by
  induction items with
  | nil => exact .success [] [] .nil
  | cons item items ih =>
      rw [List.mapM_cons]
      cases head : read item with
      | error error => exact .failure [] item items error (by simp) head
      | ok value =>
          generalize items.mapM read = rest at ih ⊢
          cases ih with
          | success _ values reads => exact .success _ _ (.cons head reads)
          | failure earlier failing later error reads fails =>
              refine .failure (item :: earlier) failing later error ?_ fails
              intro before member
              rcases List.mem_cons.mp member with rfl | old
              · exact ⟨value, head⟩
              · exact reads before old

theorem bind_eq_ok_iff {result : Except ε α} {next : α → Except ε β} {value : β} :
    result >>= next = .ok value ↔ ∃ between, result = .ok between ∧ next between = .ok value := by
  cases result <;> simp [bind, Except.bind]

theorem bind_eq_error_iff {result : Except ε α} {next : α → Except ε β} {error : ε} :
    result >>= next = .error error ↔
      result = .error error ∨ ∃ between, result = .ok between ∧ next between = .error error := by
  cases result <;> simp [bind, Except.bind]

theorem mapError_eq_ok_iff {δ : Type} {change : ε → δ} {result : Except ε α} {value : α} :
    result.mapError change = .ok value ↔ result = .ok value := by
  cases result <;> simp [Except.mapError]

theorem mapError_eq_error_iff {δ : Type} {change : ε → δ} {result : Except ε α} {error : δ} :
    result.mapError change = .error error ↔
      ∃ cause, result = .error cause ∧ change cause = error := by
  cases result <;> simp [Except.mapError]

/-- A list is read whole exactly when each item is read. -/
theorem mapM_eq_ok_iff {values : List β} :
    items.mapM read = .ok values ↔
      List.Forall₂ (fun item value => read item = .ok value) items values := by
  constructor
  · intro reads
    have outcome := readAll_mapM read items
    rw [reads] at outcome
    cases outcome with
    | success _ _ each => exact each
  · intro each
    induction each with
    | nil => rfl
    | cons head _ ih =>
        rw [List.mapM_cons, head, ih]
        rfl

theorem error_of_map_error {result : Except ε α} {change : α → β} {error : ε}
    (mapped : result.map change = .error error) : result = .error error := by
  cases result with
  | ok value => cases mapped
  | error other => exact congrArg Except.error (Except.error.inj mapped)

end Sequencing

namespace Emission

theorem slot_congr {blocked other : BlockedMembers} {option : OptionDescriptor}
    (agree : blocked.codes? option.location = other.codes? option.location) :
    slot blocked option = slot other option := by
  unfold slot
  rw [agree]

/-- Of the blocked members, rendering a command sees only those of its options. -/
theorem renderCommand_congr {command : CommandDescriptor} {blocked other : BlockedMembers}
    (agree : ∀ option ∈ command.options,
      blocked.codes? option.location = other.codes? option.location) (options : EmitOptions) :
    renderCommand command blocked options = renderCommand command other options := by
  have slots : command.options.mapM (slot blocked) = command.options.mapM (slot other) :=
    mapM_congr fun option member => slot_congr (agree option member)
  simp only [renderCommand, slots]

theorem renderCommand_ofType {command : CommandDescriptor} (isLocal : command.IsLocal)
    (blocked : BlockedMembers) (options : EmitOptions) :
    renderCommand command (blocked.ofType command.typeName) options =
      renderCommand command blocked options := by
  apply renderCommand_congr
  intro option member
  rw [← isLocal option member, blocked.codes?_ofType]

/-- The fragments of a list of commands, each rendered from the blocked members of its type. -/
def renderEach (commands : List CommandDescriptor) (blocked : BlockedMembers)
    (options : EmitOptions) : Except RunError (List String) :=
  commands.mapM fun command =>
    renderCommand command (blocked.ofType command.typeName) options

theorem emit_eq_mapM (commands : List CommandDescriptor) (blocked : BlockedMembers)
    (options : EmitOptions) :
    emit commands blocked options .live =
      (commands.mapM fun command => renderCommand command blocked options).map fun fragments =>
        assemble fragments options :=
  rfl

theorem emit_live {commands : List CommandDescriptor} (blocked : BlockedMembers)
    (options : EmitOptions) (isLocal : ∀ command ∈ commands, command.IsLocal) :
    emit commands blocked options .live =
      (renderEach commands blocked options).map fun fragments => assemble fragments options := by
  have each : renderEach commands blocked options =
      commands.mapM fun command => renderCommand command blocked options := by
    apply mapM_congr
    intro command member
    exact renderCommand_ofType (isLocal command member) blocked options
  rw [each, emit_eq_mapM]

end Emission

end OptionCompiler
