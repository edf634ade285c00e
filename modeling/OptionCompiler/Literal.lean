import OptionCompiler.Json
import OptionCompiler.Sorted
/-!
# Literals

The values written as arguments of annotations. Every document value is some literal, so an
argument that nobody can use is still read, and is reported where it stands. Whole numbers of 64
bits keep their value; every other number becomes the nearest floating point number.

A map carries the order of its keys, and of several entries with one key the last one is kept.
Equality is decidable and compares floating point numbers by their bits.
-/

namespace OptionCompiler

/-- A value written as an argument of an annotation. -/
inductive Literal where
  | null
  | bool (value : Bool)
  | integer (value : Int64)
  | float (value : Binary64)
  | string (text : String)
  | list (items : List Literal)
  | map (entries : Sorted.Entries String Literal none)
deriving Repr

namespace Literal

/-- The word for the kind of a literal in messages. -/
def kind : Literal → String
  | .null => "null"
  | .bool _ => "bool"
  | .integer _ => "integer"
  | .float _ => "float"
  | .string _ => "string"
  | .list _ => "list"
  | .map _ => "map"

/-- A whole number as a literal: exact within 64 bits, rounded outside. -/
def ofInteger (value : Int) : Literal :=
  if -2 ^ 63 ≤ value ∧ value < 2 ^ 63 then .integer (Int64.ofInt value)
  else
    match Binary64.nearest? (value < 0) ⟨value.natAbs, 0⟩ with
    | some nearest => .float nearest
    | none => .float (if value < 0 then Binary64.negativeInfinity else Binary64.infinity)

mutual

/-- The literal that a document value stands for. -/
def ofJson : Json → Literal
  | .null => .null
  | .bool value => .bool value
  | .integer value => ofInteger value
  | .float value => .float value
  | .string text => .string text
  | .array items => .list (ofItems items)
  | .object fields => .map (ofFields .nil fields)

def ofItems : List Json → List Literal
  | [] => []
  | item :: items => ofJson item :: ofItems items

/-- The entries sorted so far, and those of the remaining fields of an object. -/
def ofFields (sorted : Sorted.Entries String Literal none) :
    List (String × Json) → Sorted.Entries String Literal none
  | [] => sorted
  | (key, value) :: fields =>
      ofFields (sorted.insert key (ofJson value) (Sorted.isAfter_none key)) fields

end

mutual

/-- The document value of a literal. A floating point number that is not finite has none and
becomes null. -/
def toJson : Literal → Json
  | .null => .null
  | .bool value => .bool value
  | .integer value => .integer value.toInt
  | .float value => if value.isFinite then .float value else .null
  | .string text => .string text
  | .list items => .array (itemsToJson items)
  | .map entries => .object (entriesToJson entries)

/-- The document values of the items of a list. -/
def itemsToJson : List Literal → List Json
  | [] => []
  | item :: items => toJson item :: itemsToJson items

/-- The fields of the entries of a map. -/
def entriesToJson {bound : Option String} :
    Sorted.Entries String Literal bound → List (String × Json)
  | .nil => []
  | .cons key value _ entries => (key, toJson value) :: entriesToJson entries

end

mutual

def same : Literal → Literal → Bool
  | .null, .null => true
  | .bool left, .bool right => left == right
  | .integer left, .integer right => left == right
  | .float left, .float right => left == right
  | .string left, .string right => left == right
  | .list left, .list right => sameItems left right
  | .map left, .map right => sameEntries left right
  | _, _ => false

def sameItems : List Literal → List Literal → Bool
  | [], [] => true
  | left :: lefts, right :: rights => same left right && sameItems lefts rights
  | _, _ => false

/-- Whether two maps have the same entries. -/
def sameEntries {bound bound' : Option String} :
    Sorted.Entries String Literal bound → Sorted.Entries String Literal bound' → Bool
  | .nil, .nil => true
  | .cons key left _ lefts, .cons other right _ rights =>
      key == other && same left right && sameEntries lefts rights
  | _, _ => false

end

mutual

theorem same_iff (left right : Literal) : same left right = true ↔ left = right := by
  cases left <;> cases right <;> simp [same, sameItems_iff, sameEntries_iff]

theorem sameItems_iff (lefts rights : List Literal) :
    sameItems lefts rights = true ↔ lefts = rights := by
  match lefts, rights with
  | [], [] => simp [sameItems]
  | [], _ :: _ => simp [sameItems]
  | _ :: _, [] => simp [sameItems]
  | left :: lefts, right :: rights =>
      simp [sameItems, same_iff left right, sameItems_iff lefts rights]

theorem sameEntries_iff {bound : Option String}
    (lefts rights : Sorted.Entries String Literal bound) :
    sameEntries lefts rights = true ↔ lefts = rights := by
  match lefts, rights with
  | .nil, .nil => simp [sameEntries]
  | .nil, .cons .. => simp [sameEntries]
  | .cons .., .nil => simp [sameEntries]
  | .cons key left _ lefts, .cons other right _ rights =>
      simp only [sameEntries, Bool.and_eq_true, beq_iff_eq, same_iff left right,
        Sorted.Entries.cons.injEq, and_assoc]
      -- the rest of the entries has the key for its bound, so the keys are equated first
      refine and_congr_right ?_
      rintro rfl
      simp [sameEntries_iff lefts rights]

end

instance : DecidableEq Literal := fun left right =>
  decidable_of_iff _ (same_iff left right)

end Literal

end OptionCompiler
