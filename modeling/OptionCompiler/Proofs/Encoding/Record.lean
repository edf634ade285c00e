import Mathlib
import OptionCompiler.Document
import OptionCompiler.Proofs.Json.Fields
/-!
# Records are read back

An object whose keys are different known names is the record of its fields, in an open and in a
closed record alike. A field that was left out is not found, and so stands for its default. A list
is read back when each of its items is.
-/

namespace OptionCompiler

namespace Json

/-- The names of the fields that are present are some of the names, in their order. -/
theorem Named.sublist {names : List String} {fields : List (Option (String × Json))}
    (named : Named names fields) :
    ((fields.filterMap id).map Prod.fst).Sublist names := by
  induction named with
  | nil => exact .slnil
  | @cons name field names fields head tail ih =>
      cases field with
      | none => exact .cons name ih
      | some present =>
          simp only [List.filterMap_cons, id, List.map_cons, head present rfl]
          exact .cons_cons name ih

end Json

namespace Record

variable {names : List String}

/-- An object of different known fields is their record. -/
theorem of?_object {fields : List (String × Json)} (among : (fields.map Prod.fst).Sublist names)
    (distinct : names.Nodup) (closed : Bool) :
    Record.of? names closed (Json.object fields) = some ⟨fields, false⟩ := by
  have known : ∀ field ∈ fields, names.contains field.1 = true := by
    intro field member
    exact List.contains_iff_mem.mpr (among.subset (List.mem_map_of_mem member))
  have once : namedOnce names fields = true := by
    refine List.all_eq_true.mpr ?_
    intro name _
    have counted := (List.nodup_iff_count_le_one.mp (among.nodup distinct)) name
    rw [List.count_eq_countP, List.countP_map, List.countP_eq_length_filter] at counted
    exact decide_eq_true counted
  have all : fields.all (fun field => names.contains field.1) = true := List.all_eq_true.mpr known
  have same : fields.filter (fun field => names.contains field.1) = fields :=
    List.filter_eq_self.mpr known
  simp only [Record.of?, Document.entries?, all, once, same, Bool.not_true, Bool.and_false,
    Bool.false_eq_true, if_false, if_true]

variable {α : Type}

theorem read_object {fields : List (String × Json)} (among : (fields.map Prod.fst).Sublist names)
    (distinct : names.Nodup) (closed : Bool) (read : Record Json → Option α) :
    (Record.of? names closed (Json.object fields) >>= read) = read ⟨fields, false⟩ := by
  rw [of?_object among distinct, Option.bind_eq_bind, Option.bind_some]

/-- What is read from an object that leaves some fields out is read from the others. -/
theorem read_ofFields {fields : List (Option (String × Json))} (named : Json.Named names fields)
    (distinct : names.Nodup) (closed : Bool) (read : Record Json → Option α) :
    (Record.of? names closed (Json.ofFields fields) >>= read) =
      read ⟨fields.filterMap id, false⟩ :=
  read_object named.sublist distinct closed read

section Fields

variable {ν α : Type} {name other : String} {node : ν} {fields : List (String × ν)}
  {positional : Bool} {decode : ν → Option α}

theorem lookup_cons_eq_ite :
    ((other, node) :: fields).lookup name =
      if name = other then some node else fields.lookup name := by
  rw [List.lookup_cons]
  split_ifs with found
  · simp [found]
  · simp [beq_eq_false_iff_ne.mpr found]

@[simp]
theorem required?_cons :
    required? ⟨(other, node) :: fields, positional⟩ name decode =
      if name = other then decode node else required? ⟨fields, positional⟩ name decode := by
  simp only [required?, lookup_cons_eq_ite]
  split_ifs <;> rfl

@[simp]
theorem defaulted?_cons {default : α} :
    defaulted? ⟨(other, node) :: fields, positional⟩ name default decode =
      if name = other then decode node
      else defaulted? ⟨fields, positional⟩ name default decode := by
  simp only [defaulted?, lookup_cons_eq_ite]
  split_ifs <;> rfl

@[simp]
theorem defaulted?_nil {default : α} :
    defaulted? ⟨([] : List (String × ν)), positional⟩ name default decode = some default :=
  rfl

variable [Document ν]

@[simp]
theorem optional?_cons :
    optional? ⟨(other, node) :: fields, positional⟩ name decode =
      if name = other then Document.optional? decode node
      else optional? ⟨fields, positional⟩ name decode := by
  simp only [optional?, lookup_cons_eq_ite]
  split_ifs <;> rfl

@[simp]
theorem optionalDefaulted?_cons :
    optionalDefaulted? ⟨(other, node) :: fields, positional⟩ name decode =
      if name = other then Document.optional? decode node
      else optionalDefaulted? ⟨fields, positional⟩ name decode := by
  simp only [optionalDefaulted?, lookup_cons_eq_ite]
  split_ifs <;> rfl

@[simp]
theorem optionalDefaulted?_nil :
    optionalDefaulted? ⟨([] : List (String × ν)), positional⟩ name decode = some none :=
  rfl

end Fields

end Record

namespace Document

variable {α : Type}

theorem mapM_map_some {β : Type} {decode : β → Option α} {encode : α → β} {items : List α}
    (each : ∀ item ∈ items, decode (encode item) = some item) :
    (items.map encode).mapM decode = some items := by
  induction items with
  | nil => rfl
  | cons item items ih =>
      rw [List.map_cons, List.mapM_cons, each item List.mem_cons_self,
        ih fun later member => each later (List.mem_cons_of_mem item member)]
      rfl

/-- A list is read back when its items are. -/
theorem list?_map {decode : Json → Option α} {encode : α → Json} {items : List α}
    (each : ∀ item ∈ items, decode (encode item) = some item) :
    list? decode (Json.array (items.map encode)) = some items :=
  mapM_map_some each

/-- So is a list of items that are read back when they pass a check. -/
theorem list?_map_of_all {decode : Json → Option α} {encode : α → Json} {check : α → Bool}
    (each : ∀ item, check item = true → decode (encode item) = some item)
    {items : List α} (passed : items.all check = true) :
    list? decode (Json.array (items.map encode)) = some items := by
  refine list?_map ?_
  intro item member
  exact each item (List.all_eq_true.mp passed item member)

@[simp]
theorem text?_string (text : String) : text? (Json.string text) = some text :=
  rfl

@[simp]
theorem variant?_string (text : String) : variant? (Json.string text) = some text :=
  rfl

@[simp]
theorem bool?_bool (value : Bool) : bool? (Json.bool value) = some value :=
  rfl

theorem optional?_of_present {decode : Json → Option α} {node : Json}
    (present : present? node = some (some node)) :
    optional? decode node = (decode node).map some := by
  rw [optional?, present]
  rfl

@[simp]
theorem optional?_null (decode : Json → Option α) : optional? decode Json.null = some none :=
  rfl

@[simp]
theorem optional?_string (text : String) :
    optional? text? (Json.string text) = some (some text) :=
  rfl

@[simp]
theorem optional?_ofText? (text : Option String) :
    optional? text? (Json.ofText? text) = some text := by
  cases text <;> rfl

end Document

end OptionCompiler
