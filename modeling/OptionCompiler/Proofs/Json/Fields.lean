import Mathlib
import OptionCompiler.Proofs.Json.Compact
/-!
# Optional fields

An object whose fields may be left out still tells them apart, because each place in the list of
fields has a name of its own.
-/

namespace OptionCompiler

namespace Json

/-- Each field that is present has the name of its place. -/
def Named (names : List String) (fields : List (Option (String × Json))) : Prop :=
  List.Forall₂ (fun name field => ∀ present ∈ field, present.1 = name) names fields

theorem Named.name_mem {names : List String} {fields : List (Option (String × Json))}
    (named : Named names fields) {field : String × Json} (member : field ∈ fields.filterMap id) :
    field.1 ∈ names := by
  induction named with
  | nil => simp at member
  | cons head _ ih =>
      simp only [List.filterMap_cons, id] at member
      split at member
      · exact List.mem_cons_of_mem _ (ih member)
      · rcases List.mem_cons.mp member with rfl | later
        · simp [head _ rfl]
        · exact List.mem_cons_of_mem _ (ih later)

/-- A name that no place has is not the name of the first field. -/
theorem Named.filterMap_ne {names : List String} {fields : List (Option (String × Json))}
    (named : Named names fields) {field : String × Json} (fresh : field.1 ∉ names)
    (later : List (String × Json)) : fields.filterMap id ≠ field :: later := by
  intro equal
  have member : field ∈ fields.filterMap id := equal ▸ List.mem_cons_self
  exact fresh (named.name_mem member)

theorem Named.eq_of_filterMap {names : List String}
    {fields others : List (Option (String × Json))} (distinct : names.Nodup)
    (named : Named names fields) (named' : Named names others)
    (equal : fields.filterMap id = others.filterMap id) : fields = others := by
  induction named generalizing others with
  | nil =>
      cases named'
      rfl
  | @cons name field names fields head tail ih =>
      cases named' with
      | @cons _ other _ others head' tail' =>
          rcases List.nodup_cons.mp distinct with ⟨fresh, distinct⟩
          cases field with
          | none =>
              cases other with
              | none =>
                  simp only [List.filterMap_cons, id] at equal
                  rw [ih distinct tail' equal]
              | some present =>
                  rw [← head' present rfl] at fresh
                  simp only [List.filterMap_cons, id] at equal
                  exact absurd equal (Named.filterMap_ne tail fresh _)
          | some present =>
              cases other with
              | none =>
                  rw [← head present rfl] at fresh
                  simp only [List.filterMap_cons, id] at equal
                  exact absurd equal.symm (Named.filterMap_ne tail' fresh _)
              | some present' =>
                  simp only [List.filterMap_cons, id, List.cons.injEq] at equal
                  rcases equal with ⟨rfl, tails⟩
                  rw [ih distinct tail' tails]

/-- An object determines which of its fields are present, and their values. -/
theorem fields_eq_of_ofFields (names : List String) {fields others : List (Option (String × Json))}
    (distinct : names.Nodup) (named : Named names fields) (named' : Named names others)
    (equal : ofFields fields = ofFields others) : fields = others := by
  simp only [ofFields, object.injEq] at equal
  exact named.eq_of_filterMap distinct named' equal

@[simp]
theorem named_nil : Named [] [] :=
  .nil

@[simp]
theorem named_some {names : List String} {fields : List (Option (String × Json))}
    {name other : String} {value : Json} :
    Named (name :: names) (some (other, value) :: fields) ↔ other = name ∧ Named names fields := by
  simp [Named]

@[simp]
theorem named_presentField {names : List String} {fields : List (Option (String × Json))}
    {name : String} {text : Option String} :
    Named (name :: names) (presentField name text :: fields) ↔ Named names fields := by
  cases text <;> simp [Named, presentField]

@[simp]
theorem named_nonemptyField {names : List String} {fields : List (Option (String × Json))}
    {name : String} {items : List Json} :
    Named (name :: names) (nonemptyField name items :: fields) ↔ Named names fields := by
  cases items <;> simp [Named, nonemptyField]

@[simp]
theorem presentField_inj {name : String} {text other : Option String} :
    presentField name text = presentField name other ↔ text = other := by
  cases text <;> cases other <;> simp [presentField]

@[simp]
theorem nonemptyField_inj {name : String} {items others : List Json} :
    nonemptyField name items = nonemptyField name others ↔ items = others := by
  cases items <;> cases others <;> simp [nonemptyField]

@[simp]
theorem ofText?_inj {text other : Option String} :
    ofText? text = ofText? other ↔ text = other := by
  cases text <;> cases other <;> simp [ofText?]

theorem map_eq_of_map_eq {α β γ : Type} {read : α → β} {view : α → γ}
    (determined : ∀ left right, read left = read right → view left = view right)
    {lefts rights : List α} (equal : lefts.map read = rights.map read) :
    lefts.map view = rights.map view := by
  induction lefts generalizing rights with
  | nil =>
      cases rights with
      | nil => rfl
      | cons right rights => simp at equal
  | cons left lefts ih =>
      cases rights with
      | nil => simp at equal
      | cons right rights =>
          simp only [List.map_cons, List.cons.injEq] at equal ⊢
          exact ⟨determined left right equal.1, ih equal.2⟩

section Settled

/-- A value without any number that is not finite. -/
def IsSettled (value : Json) : Prop :=
  value.settled = value

theorem settledItems_eq_map (items : List Json) : settledItems items = items.map settled := by
  induction items with
  | nil => rfl
  | cons item items ih => rw [settledItems, ih, List.map_cons]

theorem settledFields_eq_map (fields : List (String × Json)) :
    settledFields fields = fields.map fun field => (field.1, settled field.2) := by
  induction fields with
  | nil => rfl
  | cons field fields ih => rw [settledFields, ih, List.map_cons]

theorem map_eq_self_iff {α : Type} {change : α → α} (items : List α) :
    items.map change = items ↔ ∀ item ∈ items, change item = item := by
  induction items with
  | nil => simp
  | cons item items ih => simp [ih]

@[simp]
theorem isSettled_null : IsSettled .null :=
  rfl

@[simp]
theorem isSettled_bool (value : Bool) : IsSettled (.bool value) :=
  rfl

@[simp]
theorem isSettled_integer (value : ℤ) : IsSettled (.integer value) :=
  rfl

@[simp]
theorem isSettled_string (text : String) : IsSettled (.string text) :=
  rfl

@[simp]
theorem isSettled_array (items : List Json) :
    IsSettled (.array items) ↔ ∀ item ∈ items, IsSettled item := by
  rw [IsSettled, settled, settledItems_eq_map, array.injEq, map_eq_self_iff]
  rfl

@[simp]
theorem isSettled_object (fields : List (String × Json)) :
    IsSettled (.object fields) ↔ ∀ field ∈ fields, IsSettled field.2 := by
  rw [IsSettled, settled, settledFields_eq_map, object.injEq, map_eq_self_iff]
  simp [IsSettled, Prod.ext_iff]

/-- A field whose value is settled, if it is present. -/
def SettledField (field : Option (String × Json)) : Prop :=
  ∀ present ∈ field, IsSettled present.2

@[simp]
theorem settledField_some (field : String × Json) :
    SettledField (some field) ↔ IsSettled field.2 := by
  simp [SettledField]

@[simp]
theorem settledField_presentField (name : String) (text : Option String) :
    SettledField (presentField name text) := by
  cases text <;> simp [presentField, SettledField]

@[simp]
theorem settledField_nonemptyField (name : String) (items : List Json) :
    SettledField (nonemptyField name items) ↔ ∀ item ∈ items, IsSettled item := by
  cases items <;> simp [nonemptyField, SettledField]

@[simp]
theorem isSettled_ofFields (fields : List (Option (String × Json))) :
    IsSettled (ofFields fields) ↔ ∀ field ∈ fields, SettledField field := by
  simp only [ofFields, isSettled_object, List.mem_filterMap, id]
  constructor
  · intro settled field member present is
    exact settled present ⟨field, member, is⟩
  · rintro settled present ⟨field, member, is⟩
    exact settled field member present is

@[simp]
theorem isSettled_ofText? (text : Option String) : IsSettled (ofText? text) := by
  cases text <;> simp [ofText?]

end Settled

end Json

end OptionCompiler
