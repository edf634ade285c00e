import OptionCompiler.Binary64.Notation
/-!
# Document values

The values of the JSON data format. Whole numbers and floating point numbers are different
values, as they are written differently, and an object keeps the order of its fields.

`compact` writes a value without any space and `pretty` with one entry a line. Both escape in a
string the quote, the backslash and the characters below the space, and nothing else. A floating
point number that is not finite has no notation of its own and is written as null.
-/

namespace OptionCompiler

/-- A value of the data format. -/
inductive Json where
  | null
  | bool (value : Bool)
  | integer (value : Int)
  | float (value : Binary64)
  | string (text : String)
  | array (items : List Json)
  | object (fields : List (String × Json))
deriving Repr

namespace Json

/-- The text of a whole number. -/
def integerText (value : Int) : List Char :=
  if value < 0 then '-' :: Nat.toDigits 10 value.natAbs else Nat.toDigits 10 value.natAbs

/-- The text of a floating point number, null when it is not finite. -/
def floatText (value : Binary64) : List Char :=
  if value.isFinite then value.text else ['n', 'u', 'l', 'l']

def boolText (value : Bool) : List Char :=
  if value then ['t', 'r', 'u', 'e'] else ['f', 'a', 'l', 's', 'e']

/-- How a string shows one of its characters. -/
def escapedChar (c : Char) : List Char :=
  match c with
  | '"' => ['\\', '"']
  | '\\' => ['\\', '\\']
  | '\x08' => ['\\', 'b']
  | '\t' => ['\\', 't']
  | '\n' => ['\\', 'n']
  | '\x0c' => ['\\', 'f']
  | '\r' => ['\\', 'r']
  | _ =>
      if c.toNat < 0x20 then
        ['\\', 'u', '0', '0', Nat.digitChar (c.toNat / 16), Nat.digitChar (c.toNat % 16)]
      else [c]

/-- The text of a string: its characters between double quotes. -/
def stringText (text : String) : List Char :=
  '"' :: (text.toList.flatMap escapedChar ++ ['"'])

mutual

/-- The text of a value without any space. -/
def compactText : Json → List Char
  | .null => ['n', 'u', 'l', 'l']
  | .bool value => boolText value
  | .integer value => integerText value
  | .float value => floatText value
  | .string text => stringText text
  | .array [] => ['[', ']']
  | .array (item :: items) => '[' :: (compactText item ++ compactItems items)
  | .object [] => ['{', '}']
  | .object ((key, value) :: fields) =>
      '{' :: (stringText key ++ ':' :: (compactText value ++ compactFields fields))

/-- The items after the first one, each with its comma, and the closing bracket. -/
def compactItems : List Json → List Char
  | [] => [']']
  | item :: items => ',' :: (compactText item ++ compactItems items)

/-- The fields after the first one, each with its comma, and the closing brace. -/
def compactFields : List (String × Json) → List Char
  | [] => ['}']
  | (key, value) :: fields =>
      ',' :: (stringText key ++ ':' :: (compactText value ++ compactFields fields))

end

/-- A line feed and two spaces for each level. -/
def newLine (depth : Nat) : List Char :=
  '\n' :: List.replicate (2 * depth) ' '

mutual

/-- The text of a value at a level, one entry a line. -/
def prettyText (depth : Nat) : Json → List Char
  | .null => ['n', 'u', 'l', 'l']
  | .bool value => boolText value
  | .integer value => integerText value
  | .float value => floatText value
  | .string text => stringText text
  | .array [] => ['[', ']']
  | .array (item :: items) =>
      '[' :: (newLine (depth + 1) ++ prettyText (depth + 1) item ++ prettyItems depth items)
  | .object [] => ['{', '}']
  | .object ((key, value) :: fields) =>
      '{' :: (newLine (depth + 1) ++ stringText key ++ ':' :: ' ' ::
        (prettyText (depth + 1) value ++ prettyFields depth fields))

/-- The items after the first one and the closing bracket. -/
def prettyItems (depth : Nat) : List Json → List Char
  | [] => newLine depth ++ [']']
  | item :: items =>
      ',' :: (newLine (depth + 1) ++ prettyText (depth + 1) item ++ prettyItems depth items)

/-- The fields after the first one and the closing brace. -/
def prettyFields (depth : Nat) : List (String × Json) → List Char
  | [] => newLine depth ++ ['}']
  | (key, value) :: fields =>
      ',' :: (newLine (depth + 1) ++ stringText key ++ ':' :: ' ' ::
        (prettyText (depth + 1) value ++ prettyFields depth fields))

end

/-- A value as one line without any space. -/
def compact (value : Json) : String :=
  String.ofList value.compactText

/-- A value with one entry a line, without a line feed at the end. -/
def pretty (value : Json) : String :=
  String.ofList (value.prettyText 0)

/-- An object of the fields that are present. -/
def ofFields (fields : List (Option (String × Json))) : Json :=
  .object (fields.filterMap id)

/-- A string, or null when there is none. -/
def ofText? (text : Option String) : Json :=
  match text with
  | some present => .string present
  | none => .null

/-- A field that is left out when it has no value. -/
def presentField (name : String) (text : Option String) : Option (String × Json) :=
  text.map fun present => (name, .string present)

/-- A field that is left out when its list is empty. -/
def nonemptyField (name : String) (items : List Json) : Option (String × Json) :=
  if items.isEmpty then none else some (name, .array items)

end Json

end OptionCompiler
