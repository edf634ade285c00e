import Mathlib
import OptionCompiler.Document
import OptionCompiler.Proofs.Encoding.Declaration
import OptionCompiler.Proofs.Sorted
/-!
# Literals are read back

A literal without infinite numbers is read back from its document: the entries of a map are written
in the order of their keys, and collected from their fields they are the same map again.

Every document value is read as some literal. The variants are tried one after the other at each
level of nesting, and `Keeps` says which of them keeps what: a whole number of 64 bits is tried
before a floating point number is, so every number has one variant.
-/

namespace OptionCompiler

namespace Literal

section Reading

theorem ofItems_eq_map (items : List Json) : ofItems items = items.map ofJson := by
  induction items with
  | nil => rfl
  | cons item items ih => rw [ofItems, ih, List.map_cons]

theorem ofFields_eq_foldl (sorted : Sorted.Entries String Literal none)
    (fields : List (String × Json)) :
    ofFields sorted fields =
      (fields.map fun field => (field.1, ofJson field.2)).foldl
        (fun sorted entry => sorted.insert entry.1 entry.2 (Sorted.isAfter_none _)) sorted := by
  induction fields generalizing sorted with
  | nil => rfl
  | cons field fields ih => rw [ofFields, ih, List.map_cons, List.foldl_cons]

/-- The fields of an object are read one by one and collected under their keys. -/
theorem ofJson_object (fields : List (String × Json)) :
    ofJson (.object fields) =
      .map (.ofList (fields.map fun field => (field.1, ofJson field.2))) := by
  rw [ofJson, ofFields_eq_foldl]
  rfl

theorem ofJson_array (items : List Json) : ofJson (.array items) = .list (items.map ofJson) := by
  rw [ofJson, ofItems_eq_map]

/-- The floating point number that is nearest to a whole number, infinite beyond all of them. -/
def nearestTo (value : ℤ) : Binary64 :=
  match Binary64.nearest? (value < 0) ⟨value.natAbs, 0⟩ with
  | some nearest => nearest
  | none => if value < 0 then Binary64.negativeInfinity else Binary64.infinity

theorem ofInteger_eq (value : ℤ) :
    ofInteger value =
      if -2 ^ 63 ≤ value ∧ value < 2 ^ 63 then .integer (Int64.ofInt value)
      else .float (nearestTo value) := by
  unfold ofInteger nearestTo
  cases Binary64.nearest? (value < 0) ⟨value.natAbs, 0⟩ <;> rfl

theorem ofInteger_toInt (value : Int64) : ofInteger value.toInt = .integer value := by
  rw [ofInteger_eq, if_pos ⟨value.le_toInt, value.toInt_lt⟩, Int64.ofInt_toInt]

end Reading

section ReadBack

mutual

/-- A literal without infinite numbers is read back from its document. -/
theorem ofJson_toJson (literal : Literal) (finite : literal.isFinite = true) :
    ofJson literal.toJson = literal := by
  cases literal with
  | integer value => exact ofInteger_toInt value
  | float value =>
      have known : value.isFinite = true := finite
      rw [toJson, if_pos known]
      rfl
  | list items =>
      rw [toJson, ofJson_array, map_ofJson_itemsToJson items finite]
  | map entries =>
      rw [toJson, ofJson_object, map_ofJson_entriesToJson entries finite,
        Sorted.Entries.ofList_toList]
  | null | bool | string => rfl

theorem map_ofJson_itemsToJson (items : List Literal) (finite : itemsFinite items = true) :
    (itemsToJson items).map ofJson = items := by
  match items with
  | [] => rfl
  | item :: items =>
      rw [itemsFinite, Bool.and_eq_true] at finite
      rw [itemsToJson, List.map_cons, ofJson_toJson item finite.1,
        map_ofJson_itemsToJson items finite.2]

theorem map_ofJson_entriesToJson {bound : Option String}
    (entries : Sorted.Entries String Literal bound) (finite : entriesFinite entries = true) :
    (entriesToJson entries).map (fun field => (field.1, ofJson field.2)) = entries.toList := by
  match entries with
  | .nil => rfl
  | .cons key value after entries =>
      rw [entriesFinite, Bool.and_eq_true] at finite
      rw [entriesToJson, List.map_cons, ofJson_toJson value finite.1,
        map_ofJson_entriesToJson entries finite.2, Sorted.Entries.toList]

end

end ReadBack

section Variants

/-- The variants of literals in the order in which they are tried, where `nested` reads what is
inside a list or a map. A floating point number is read from a whole number too. -/
def variants (nested : Json → Option Literal) : List (Json → Option Literal) :=
  [fun value => if let .null := value then some .null else none,
    fun value => if let .bool value := value then some (.bool value) else none,
    fun value =>
      if let .integer value := value then
        if -2 ^ 63 ≤ value ∧ value < 2 ^ 63 then some (.integer (Int64.ofInt value)) else none
      else none,
    fun value =>
      match value with
      | .float value => some (.float value)
      | .integer value => some (.float (nearestTo value))
      | _ => none,
    fun value => if let .string text := value then some (.string text) else none,
    fun value => if let .array items := value then (items.mapM nested).map .list else none,
    fun value =>
      if let .object fields := value then
        (fields.mapM fun field => (nested field.2).map (Prod.mk field.1)).map fun entries =>
          .map (.ofList entries)
      else none]

theorem mapM_some {α β : Type} (read : α → β) (items : List α) :
    items.mapM (fun item => some (read item)) = some (items.map read) :=
  List.mapM_pure

/-- A document value is read as the first variant that accepts it, at every level. -/
theorem literal?_eq_findSome? (value : Json) :
    Document.literal? value =
      (variants Document.literal?).findSome? fun variant => variant value := by
  change some (ofJson value) =
    (variants fun value => some (ofJson value)).findSome? fun variant => variant value
  cases value with
  | integer value =>
      -- two variants accept a whole number of 64 bits, and the one for integers comes first
      rw [ofJson, ofInteger_eq]
      by_cases inside : -2 ^ 63 ≤ value ∧ value < 2 ^ 63
      · simp only [variants, List.findSome?, if_pos inside]
      · simp only [variants, List.findSome?, if_neg inside]
  | array items =>
      rw [ofJson_array]
      simp only [variants, List.findSome?, mapM_some, Option.map_some]
  | object fields =>
      rw [ofJson_object]
      simp only [variants, List.findSome?, mapM_some, Option.map_some]
  | null | bool | float | string => rfl

/-- A literal keeps a document value in the variant for values of its kind. Of the fields of an
object with one key, the last one is kept. -/
inductive Keeps : Json → Literal → Prop where
  | null : Keeps .null .null
  | bool (value : Bool) : Keeps (.bool value) (.bool value)
  | integer (value : Int64) : Keeps (.integer value.toInt) (.integer value)
  | large {value : ℤ} (outside : value < -2 ^ 63 ∨ 2 ^ 63 ≤ value) :
      Keeps (.integer value) (.float (nearestTo value))
  | float (value : Binary64) : Keeps (.float value) (.float value)
  | string (text : String) : Keeps (.string text) (.string text)
  | array {items : List Json} {literals : List Literal}
      (each : List.Forall₂ Keeps items literals) : Keeps (.array items) (.list literals)
  | object {fields : List (String × Json)} {entries : List (String × Literal)}
      (keys : fields.map Prod.fst = entries.map Prod.fst)
      (each : List.Forall₂ Keeps (fields.map Prod.snd) (entries.map Prod.snd)) :
      Keeps (.object fields) (.map (.ofList entries))

mutual

theorem keeps_ofJson (value : Json) : Keeps value (ofJson value) := by
  cases value with
  | null => exact .null
  | bool value => exact .bool value
  | integer value =>
      rw [ofJson, ofInteger_eq]
      split_ifs with inside
      · have same : (Int64.ofInt value).toInt = value :=
          Int64.toInt_ofInt_of_le inside.1 inside.2
        have keeps := Keeps.integer (Int64.ofInt value)
        rwa [same] at keeps
      · exact .large (by omega)
  | float value => exact .float value
  | string text => exact .string text
  | array items =>
      rw [ofJson_array]
      exact .array (keeps_items items)
  | object fields =>
      rw [ofJson_object]
      refine .object ?_ ?_
      · rw [List.map_map]
        rfl
      · rw [List.map_map]
        exact keeps_fields fields

theorem keeps_items (items : List Json) : List.Forall₂ Keeps items (items.map ofJson) := by
  match items with
  | [] => exact .nil
  | item :: items => exact .cons (keeps_ofJson item) (keeps_items items)

theorem keeps_fields (fields : List (String × Json)) :
    List.Forall₂ Keeps (fields.map Prod.snd) (fields.map fun field => ofJson field.2) := by
  match fields with
  | [] => exact .nil
  | (_, value) :: fields => exact .cons (keeps_ofJson value) (keeps_fields fields)

end

end Variants

end Literal

end OptionCompiler
