import Mathlib
import OptionCompiler.Declaration.Encoding
import OptionCompiler.Proofs.Encoding.Descriptor
/-!
# What the documents of declarations tell apart

The document of a declaration set determines the set, with one exception: a floating point
literal that is not finite is written as null. `written` puts the null literal in the place of
such literals, and two sets have one document exactly when their written forms are the same.
-/

namespace OptionCompiler

namespace Literal

mutual

/-- The literal with null in the place of every number that is not finite. -/
def written : Literal → Literal
  | .float value => if value.isFinite then .float value else .null
  | .list items => .list (writtenItems items)
  | .map entries => .map (writtenEntries entries)
  | other => other

/-- The items of a list as they are written. -/
def writtenItems : List Literal → List Literal
  | [] => []
  | item :: items => written item :: writtenItems items

/-- The entries of a map as they are written. -/
def writtenEntries {bound : Option String} :
    Sorted.Entries String Literal bound → Sorted.Entries String Literal bound
  | .nil => .nil
  | .cons key value after entries => .cons key (written value) after (writtenEntries entries)

end

mutual

/-- Whether every number inside a literal is finite. -/
def isFinite : Literal → Bool
  | .float value => value.isFinite
  | .list items => itemsFinite items
  | .map entries => entriesFinite entries
  | _ => true

/-- Whether every number inside the items of a list is finite. -/
def itemsFinite : List Literal → Bool
  | [] => true
  | item :: items => isFinite item && itemsFinite items

/-- Whether every number inside the entries of a map is finite. -/
def entriesFinite {bound : Option String} : Sorted.Entries String Literal bound → Bool
  | .nil => true
  | .cons _ value _ entries => isFinite value && entriesFinite entries

end

mutual

theorem written_of_isFinite (literal : Literal) (finite : literal.isFinite = true) :
    literal.written = literal := by
  cases literal with
  | float value => exact if_pos finite
  | list items => rw [written, writtenItems_of_itemsFinite items finite]
  | map entries => rw [written, writtenEntries_of_entriesFinite entries finite]
  | null | bool | integer | string => rfl

theorem writtenItems_of_itemsFinite (items : List Literal) (finite : itemsFinite items = true) :
    writtenItems items = items := by
  match items with
  | [] => rfl
  | item :: items =>
      simp only [itemsFinite, Bool.and_eq_true] at finite
      rw [writtenItems, written_of_isFinite item finite.1,
        writtenItems_of_itemsFinite items finite.2]

theorem writtenEntries_of_entriesFinite {bound : Option String}
    (entries : Sorted.Entries String Literal bound) (finite : entriesFinite entries = true) :
    writtenEntries entries = entries := by
  match entries with
  | .nil => rfl
  | .cons key value after entries =>
      simp only [entriesFinite, Bool.and_eq_true] at finite
      rw [writtenEntries, written_of_isFinite value finite.1,
        writtenEntries_of_entriesFinite entries finite.2]

end

mutual

theorem toJson_written (literal : Literal) : literal.written.toJson = literal.toJson := by
  cases literal with
  | float value =>
      simp only [written, toJson]
      split
      · next finite => exact if_pos finite
      · rfl
  | list items => rw [written, toJson, toJson, itemsToJson_writtenItems items]
  | map entries => rw [written, toJson, toJson, entriesToJson_writtenEntries entries]
  | null | bool | integer | string => rfl

theorem itemsToJson_writtenItems (items : List Literal) :
    itemsToJson (writtenItems items) = itemsToJson items := by
  match items with
  | [] => rfl
  | item :: items =>
      rw [writtenItems, itemsToJson, itemsToJson, toJson_written item,
        itemsToJson_writtenItems items]

theorem entriesToJson_writtenEntries {bound : Option String}
    (entries : Sorted.Entries String Literal bound) :
    entriesToJson (writtenEntries entries) = entriesToJson entries := by
  match entries with
  | .nil => rfl
  | .cons key value after entries =>
      rw [writtenEntries, entriesToJson, entriesToJson, toJson_written value,
        entriesToJson_writtenEntries entries]

end

mutual

theorem isSettled_toJson (literal : Literal) : literal.toJson.IsSettled := by
  cases literal with
  | float value =>
      simp only [toJson]
      split
      · next finite => exact if_pos finite
      · rfl
  | list items =>
      simp only [toJson, Json.isSettled_array]
      exact isSettled_itemsToJson items
  | map entries =>
      simp only [toJson, Json.isSettled_object]
      exact isSettled_entriesToJson entries
  | null | bool | integer | string => rfl

theorem isSettled_itemsToJson (items : List Literal) :
    ∀ item ∈ itemsToJson items, item.IsSettled := by
  match items with
  | [] => simp [itemsToJson]
  | item :: items =>
      simp only [itemsToJson, List.forall_mem_cons]
      exact ⟨isSettled_toJson item, isSettled_itemsToJson items⟩

theorem isSettled_entriesToJson {bound : Option String}
    (entries : Sorted.Entries String Literal bound) :
    ∀ field ∈ entriesToJson entries, field.2.IsSettled := by
  match entries with
  | .nil => simp [entriesToJson]
  | .cons key value after entries =>
      simp only [entriesToJson, List.forall_mem_cons]
      exact ⟨isSettled_toJson value, isSettled_entriesToJson entries⟩

end

mutual

/-- The document of a literal tells which literal is written. -/
theorem written_eq_of_toJson (left right : Literal) (equal : left.toJson = right.toJson) :
    left.written = right.written := by
  cases left with
  | list items =>
      cases right with
      | list others =>
          simp only [toJson, Json.array.injEq] at equal
          rw [written, written, writtenItems_eq_of_itemsToJson items others equal]
      | float value =>
          simp only [toJson] at equal
          split at equal <;> cases equal
      | _ => simp [toJson] at equal
  | map entries =>
      cases right with
      | map others =>
          simp only [toJson, Json.object.injEq] at equal
          rw [written, written, writtenEntries_eq_of_entriesToJson entries others equal]
      | float value =>
          simp only [toJson] at equal
          split at equal <;> cases equal
      | _ => simp [toJson] at equal
  | float value =>
      cases right <;> simp only [toJson, written] at equal ⊢ <;> split_ifs at equal ⊢ <;>
        simp_all
  | _ =>
      cases right <;> simp only [toJson, written] at equal ⊢ <;> try split_ifs at equal ⊢
      all_goals simp_all [Int64.toInt_inj]

theorem writtenItems_eq_of_itemsToJson (items others : List Literal)
    (equal : itemsToJson items = itemsToJson others) :
    writtenItems items = writtenItems others := by
  match items, others with
  | [], [] => rfl
  | [], other :: others => simp [itemsToJson] at equal
  | item :: items, [] => simp [itemsToJson] at equal
  | item :: items, other :: others =>
      simp only [itemsToJson, List.cons.injEq] at equal
      rw [writtenItems, writtenItems, written_eq_of_toJson item other equal.1,
        writtenItems_eq_of_itemsToJson items others equal.2]

theorem writtenEntries_eq_of_entriesToJson {bound : Option String}
    (entries others : Sorted.Entries String Literal bound)
    (equal : entriesToJson entries = entriesToJson others) :
    writtenEntries entries = writtenEntries others := by
  match entries, others with
  | .nil, .nil => rfl
  | .nil, .cons .. => simp [entriesToJson] at equal
  | .cons .., .nil => simp [entriesToJson] at equal
  | .cons key value after entries, .cons key' other after' others =>
      simp only [entriesToJson, List.cons.injEq, Prod.mk.injEq] at equal
      rcases equal with ⟨⟨rfl, values⟩, later⟩
      rw [writtenEntries, writtenEntries, written_eq_of_toJson value other values,
        writtenEntries_eq_of_entriesToJson entries others later]

end

end Literal

section Records

/-- The argument with its value as it is written. -/
def Argument.written (argument : Argument) : Argument :=
  { argument with value := argument.value.written }

/-- The annotation with its arguments as they are written. -/
def Annotation.written (mark : Annotation) : Annotation :=
  { mark with args := mark.args.map Argument.written }

/-- The member with its annotations as they are written. -/
def Member.written (member : Member) : Member :=
  { member with annotations := member.annotations.map Annotation.written }

/-- The type declaration with its annotations as they are written. -/
def TypeDeclaration.written (declaration : TypeDeclaration) : TypeDeclaration :=
  { declaration with
    annotations := declaration.annotations.map Annotation.written
    members := declaration.members.map Member.written }

/-- The declaration set with its annotations as they are written. -/
def DeclarationSet.written (set : DeclarationSet) : DeclarationSet :=
  ⟨set.declarations.map TypeDeclaration.written⟩

/-- Whether every number among the arguments of an annotation is finite. -/
def Annotation.isFinite (mark : Annotation) : Bool :=
  mark.args.all fun argument => argument.value.isFinite

/-- Whether every number among the annotations of a member is finite. -/
def Member.isFinite (member : Member) : Bool :=
  member.annotations.all Annotation.isFinite

/-- Whether every number in a type declaration is finite. -/
def TypeDeclaration.isFinite (declaration : TypeDeclaration) : Bool :=
  declaration.annotations.all Annotation.isFinite && declaration.members.all Member.isFinite

/-- Whether every number in a declaration set is finite. -/
def DeclarationSet.isFinite (set : DeclarationSet) : Bool :=
  set.declarations.all TypeDeclaration.isFinite

end Records

section Finite

theorem Annotation.written_of_isFinite (mark : Annotation) (finite : mark.isFinite = true) :
    mark.written = mark := by
  have args : mark.args.map Argument.written = mark.args := by
    rw [Json.map_eq_self_iff]
    intro argument member
    have value := Literal.written_of_isFinite argument.value
      (List.all_eq_true.mp finite argument member)
    rw [Argument.written, value]
  rw [written, args]

theorem Member.written_of_isFinite (member : Member) (finite : member.isFinite = true) :
    member.written = member := by
  have annotations : member.annotations.map Annotation.written = member.annotations := by
    rw [Json.map_eq_self_iff]
    intro mark present
    exact mark.written_of_isFinite (List.all_eq_true.mp finite mark present)
  rw [written, annotations]

theorem TypeDeclaration.written_of_isFinite (declaration : TypeDeclaration)
    (finite : declaration.isFinite = true) : declaration.written = declaration := by
  rcases Bool.and_eq_true_iff.mp finite with ⟨marksFinite, membersFinite⟩
  have annotations :
      declaration.annotations.map Annotation.written = declaration.annotations := by
    rw [Json.map_eq_self_iff]
    intro mark present
    exact mark.written_of_isFinite (List.all_eq_true.mp marksFinite mark present)
  have members : declaration.members.map Member.written = declaration.members := by
    rw [Json.map_eq_self_iff]
    intro member present
    exact member.written_of_isFinite (List.all_eq_true.mp membersFinite member present)
  rw [written, annotations, members]

theorem DeclarationSet.written_of_isFinite (set : DeclarationSet) (finite : set.isFinite = true) :
    set.written = set := by
  have declarations : set.declarations.map TypeDeclaration.written = set.declarations := by
    rw [Json.map_eq_self_iff]
    intro declaration present
    exact declaration.written_of_isFinite (List.all_eq_true.mp finite declaration present)
  rw [written, declarations]

end Finite

section Documents

theorem Argument.toJson_written (argument : Argument) :
    argument.written.toJson = argument.toJson := by
  rw [toJson, toJson, written, Literal.toJson_written]

theorem Annotation.toJson_written (mark : Annotation) : mark.written.toJson = mark.toJson := by
  have args : Argument.toJson ∘ Argument.written = Argument.toJson :=
    funext Argument.toJson_written
  rw [toJson, toJson, written, List.map_map, args]

theorem Member.toJson_written (member : Member) : member.written.toJson = member.toJson := by
  have marks : Annotation.toJson ∘ Annotation.written = Annotation.toJson :=
    funext Annotation.toJson_written
  rw [toJson, toJson, written, List.map_map, marks]

theorem TypeDeclaration.toJson_written (declaration : TypeDeclaration) :
    declaration.written.toJson = declaration.toJson := by
  have marks : Annotation.toJson ∘ Annotation.written = Annotation.toJson :=
    funext Annotation.toJson_written
  have members : Member.toJson ∘ Member.written = Member.toJson := funext Member.toJson_written
  rw [toJson, toJson, written, List.map_map, List.map_map, marks, members]

theorem DeclarationSet.toJson_written (set : DeclarationSet) :
    set.written.toJson = set.toJson := by
  have declarations : TypeDeclaration.toJson ∘ TypeDeclaration.written = TypeDeclaration.toJson :=
    funext TypeDeclaration.toJson_written
  rw [toJson, toJson, written, List.map_map, declarations]

@[simp]
theorem Argument.isSettled_toJson (argument : Argument) : argument.toJson.IsSettled := by
  simp [toJson, Literal.isSettled_toJson]

@[simp]
theorem Annotation.isSettled_toJson (mark : Annotation) : mark.toJson.IsSettled := by
  simp [toJson]

@[simp]
theorem DeclaredType.isSettled_toJson (type : DeclaredType) : type.toJson.IsSettled := by
  simp [toJson]

@[simp]
theorem Member.isSettled_toJson (member : Member) : member.toJson.IsSettled := by
  simp [toJson]

@[simp]
theorem TypeDeclaration.isSettled_toJson (declaration : TypeDeclaration) :
    declaration.toJson.IsSettled := by
  simp [toJson]

@[simp]
theorem DeclarationSet.isSettled_toJson (set : DeclarationSet) : set.toJson.IsSettled := by
  simp [toJson]

theorem Argument.written_eq_of_toJson (left right : Argument)
    (equal : left.toJson = right.toJson) : left.written = right.written := by
  have fields := Json.fields_eq_of_ofFields ["name", "value"] (by decide) (by simp) (by simp) equal
  simp only [List.cons.injEq, Json.presentField_inj, Option.some.injEq, Prod.mk.injEq, true_and,
    and_true] at fields
  rw [written, written, fields.1, Literal.written_eq_of_toJson _ _ fields.2]

theorem Annotation.written_eq_of_toJson (left right : Annotation)
    (equal : left.toJson = right.toJson) : left.written = right.written := by
  have fields := Json.fields_eq_of_ofFields ["name", "args"] (by decide) (by simp) (by simp) equal
  simp only [List.cons.injEq, Json.nonemptyField_inj, Option.some.injEq, Prod.mk.injEq,
    Json.string.injEq, true_and, and_true] at fields
  rw [written, written, fields.1, Json.map_eq_of_map_eq Argument.written_eq_of_toJson fields.2]

theorem DeclaredType.toJson_injective : Function.Injective DeclaredType.toJson := by
  intro left right equal
  have fields := Json.fields_eq_of_ofFields ["shape", "nullable", "sequence", "element"]
    (by decide) (by simp) (by simp) equal
  simp only [List.cons.injEq, Json.presentField_inj, Option.some.injEq, Prod.mk.injEq,
    Json.string.injEq, Json.bool.injEq, true_and, and_true] at fields
  rcases fields with ⟨shapes, nullables, sequences, elements⟩
  cases left
  cases right
  simp_all [ValueShape.name_injective.eq_iff]

theorem Member.written_eq_of_toJson (left right : Member)
    (equal : left.toJson = right.toJson) : left.written = right.written := by
  have fields := Json.fields_eq_of_ofFields ["name", "ty", "annotations"] (by decide) (by simp)
    (by simp) equal
  simp only [List.cons.injEq, Json.nonemptyField_inj, Option.some.injEq, Prod.mk.injEq,
    Json.string.injEq, true_and, and_true] at fields
  rcases fields with ⟨names, types, annotations⟩
  rw [written, written, names, DeclaredType.toJson_injective types,
    Json.map_eq_of_map_eq Annotation.written_eq_of_toJson annotations]

theorem TypeDeclaration.written_eq_of_toJson (left right : TypeDeclaration)
    (equal : left.toJson = right.toJson) : left.written = right.written := by
  have fields := Json.fields_eq_of_ofFields ["name", "annotations", "members"] (by decide)
    (by simp) (by simp) equal
  simp only [List.cons.injEq, Json.nonemptyField_inj, Option.some.injEq, Prod.mk.injEq,
    Json.string.injEq, Json.array.injEq, true_and, and_true] at fields
  rcases fields with ⟨names, annotations, members⟩
  rw [written, written, names,
    Json.map_eq_of_map_eq Annotation.written_eq_of_toJson annotations,
    Json.map_eq_of_map_eq Member.written_eq_of_toJson members]

namespace DeclarationSet

theorem written_eq_of_toJson (left right : DeclarationSet)
    (equal : left.toJson = right.toJson) : left.written = right.written := by
  simp only [toJson, Json.object.injEq, List.cons.injEq, Prod.mk.injEq, Json.array.injEq,
    true_and, and_true] at equal
  rw [written, written, Json.map_eq_of_map_eq TypeDeclaration.written_eq_of_toJson equal]

/-- Two sets have one compact text exactly when they are written alike. -/
theorem compact_eq_iff (left right : DeclarationSet) :
    left.toJson.compact = right.toJson.compact ↔ left.written = right.written := by
  rw [Json.compact_eq_iff, left.isSettled_toJson, right.isSettled_toJson]
  constructor
  · intro equal
    exact written_eq_of_toJson left right equal
  · intro equal
    rw [← left.toJson_written, equal, right.toJson_written]

/-- Among sets of finite numbers, the document tells every two apart. -/
theorem eq_of_toJson {left right : DeclarationSet} (finite : left.isFinite = true)
    (finite' : right.isFinite = true) (equal : left.toJson = right.toJson) : left = right := by
  have written := written_eq_of_toJson left right equal
  rwa [left.written_of_isFinite finite, right.written_of_isFinite finite'] at written

end DeclarationSet

end Documents

end OptionCompiler
