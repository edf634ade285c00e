import OptionCompiler.Json.Numeral
/-!
# Document syntax

The tree that a text of the JSON data format spells, with strings and numbers as they are
written. `Json.Syntax.parse?` accepts exactly the strict grammar: no comments, no comma before a
closing bracket, no leading zeros, no sign but a minus, and no bare control character in a
string.

What a string or a number means is decided by `value?` only for the parts of the tree that
somebody asks for. So a part that nobody reads may hold a number past the finite ones or an
escape that names half a character.
-/

namespace OptionCompiler

namespace Json

/-- The tree of a text. -/
inductive Syntax where
  | null
  | bool (value : Bool)
  | number (numeral : Numeral)
  | string (raw : List Char)
  | array (items : List Syntax)
  | object (fields : List (List Char × Syntax))
deriving Repr

/-- The number that four hexadecimal digits spell. -/
def hexUnit? (a b c d : Char) : Option Nat :=
  Text.number? 16 [a, b, c, d]

/-- The character that two halves of a surrogate pair name together. -/
def pairChar? (high low : Nat) : Option Char :=
  if 0xD800 ≤ high ∧ high < 0xDC00 ∧ 0xDC00 ≤ low ∧ low < 0xE000 then
    Text.charOfCode? (0x10000 + (high - 0xD800) * 0x400 + (low - 0xDC00))
  else none

/-- The character after a backslash, for the escapes of one character. -/
def shortEscape? (c : Char) : Option Char :=
  match c with
  | '"' => some '"'
  | '\\' => some '\\'
  | '/' => some '/'
  | 'b' => some '\x08'
  | 'f' => some '\x0c'
  | 'n' => some '\n'
  | 'r' => some '\r'
  | 't' => some '\t'
  | _ => none

/-- Whether the escapes of a raw string have a form of the grammar, whatever they mean. -/
def escapesWellFormed : List Char → Bool
  | [] => true
  | '\\' :: 'u' :: a :: b :: c :: d :: rest => (hexUnit? a b c d).isSome && escapesWellFormed rest
  | '\\' :: c :: rest => (shortEscape? c).isSome && escapesWellFormed rest
  | c :: rest => c != '\\' && escapesWellFormed rest

/-- The characters that a raw string means. -/
def unescape? : List Char → Option (List Char)
  | [] => some []
  | '\\' :: 'u' :: a :: b :: c :: d :: '\\' :: 'u' :: e :: f :: g :: h :: rest => do
      let first ← hexUnit? a b c d
      let second ← hexUnit? e f g h
      match Text.charOfCode? first with
      | some char => return char :: (← unescape? ('\\' :: 'u' :: e :: f :: g :: h :: rest))
      | none => return (← pairChar? first second) :: (← unescape? rest)
  | '\\' :: 'u' :: a :: b :: c :: d :: rest => do
      let char ← Text.charOfCode? (← hexUnit? a b c d)
      return char :: (← unescape? rest)
  | '\\' :: c :: rest => do
      let char ← shortEscape? c
      return char :: (← unescape? rest)
  | c :: rest => if c = '\\' then none else (unescape? rest).map (c :: ·)

namespace Syntax

/-- A text between its brackets, commas, colons and leaves. -/
inductive Token where
  | openArray
  | closeArray
  | openObject
  | closeObject
  | comma
  | colon
  | leaf (tree : Syntax)
deriving Repr

/-- The leaf that a run of characters outside strings spells. -/
def leaf? (word : List Char) : Option Syntax :=
  if word = ['n', 'u', 'l', 'l'] then some .null
  else if word = ['t', 'r', 'u', 'e'] then some (.bool true)
  else if word = ['f', 'a', 'l', 's', 'e'] then some (.bool false)
  else (Numeral.parse? word).map .number

/-- The token that is one character. -/
def mark? (c : Char) : Option Token :=
  match c with
  | '[' => some .openArray
  | ']' => some .closeArray
  | '{' => some .openObject
  | '}' => some .closeObject
  | ',' => some .comma
  | ':' => some .colon
  | _ => none

/-- The four characters that separate tokens. -/
def isSpace (c : Char) : Bool :=
  c == ' ' || c == '\t' || c == '\n' || c == '\r'

/-- Where a reader stands between two characters: between tokens, in a word, or in a string,
there possibly right after a backslash. Runs read so far are kept back to front. -/
inductive Place where
  | between
  | word (reversed : List Char)
  | string (reversed : List Char) (escaped : Bool)
deriving Repr

/-- The tokens before a place, last one first, when the place is left for a token boundary. -/
def closeWord? (place : Place) (tokens : List Token) : Option (List Token) :=
  match place with
  | .between => some tokens
  | .word reversed => (leaf? reversed.reverse).map fun tree => .leaf tree :: tokens
  | .string _ _ => none

/-- One character outside a string. -/
def readOutside? (c : Char) (place : Place) (tokens : List Token) :
    Option (Place × List Token) :=
  if isSpace c then (closeWord? place tokens).map (Place.between, ·)
  else if c = '"' then (closeWord? place tokens).map (Place.string [] false, ·)
  else
    match mark? c with
    | some token => (closeWord? place tokens).map fun tokens => (Place.between, token :: tokens)
    | none =>
        match place with
        | .word reversed => some (.word (c :: reversed), tokens)
        | _ => some (.word [c], tokens)

/-- One character inside a string. -/
def readInside? (c : Char) (reversed : List Char) (escaped : Bool) (tokens : List Token) :
    Option (Place × List Token) :=
  if c.toNat < 0x20 then none
  else if escaped then some (.string (c :: reversed) false, tokens)
  else if c = '\\' then some (.string (c :: reversed) true, tokens)
  else if c = '"' then
    let raw := reversed.reverse
    if escapesWellFormed raw then some (.between, .leaf (.string raw) :: tokens) else none
  else some (.string (c :: reversed) false, tokens)

def read? (c : Char) (place : Place) (tokens : List Token) : Option (Place × List Token) :=
  match place with
  | .string reversed escaped => readInside? c reversed escaped tokens
  | other => readOutside? c other tokens

/-- The tokens of the remaining characters after those read so far, which are kept back to
front. -/
def tokensFrom? (place : Place) (tokens : List Token) : List Char → Option (List Token)
  | [] => (closeWord? place tokens).map List.reverse
  | c :: rest =>
      match read? c place tokens with
      | some (place, tokens) => tokensFrom? place tokens rest
      | none => none

def tokens? (text : String) : Option (List Token) :=
  tokensFrom? .between [] text.toList

/-- A container whose end is not read yet, with its contents back to front. -/
inductive Frame where
  | array (items : List Syntax)
  | object (fields : List (List Char × Syntax))
  | field (fields : List (List Char × Syntax)) (key : List Char)
deriving Repr

/-- What may come next, inside the containers that are open. -/
inductive Expectation where
  | value (frames : List Frame)
  | itemOrEnd (frames : List Frame)
  | key (fields : List (List Char × Syntax)) (frames : List Frame)
  | keyOrEnd (frames : List Frame)
  | colon (fields : List (List Char × Syntax)) (key : List Char) (frames : List Frame)
  | commaOrEnd (frame : Frame) (frames : List Frame)
  | nothing (tree : Syntax)
deriving Repr

/-- What comes after a whole tree. -/
def placed? (tree : Syntax) : List Frame → Option Expectation
  | [] => some (.nothing tree)
  | .array items :: frames => some (.commaOrEnd (.array (tree :: items)) frames)
  | .field fields key :: frames => some (.commaOrEnd (.object ((key, tree) :: fields)) frames)
  | .object _ :: _ => none

/-- A token where a value must stand. -/
def begin? (token : Token) (frames : List Frame) : Option Expectation :=
  match token with
  | .leaf tree => placed? tree frames
  | .openArray => some (.itemOrEnd frames)
  | .openObject => some (.keyOrEnd frames)
  | _ => none

def accept? (token : Token) : Expectation → Option Expectation
  | .value frames => begin? token frames
  | .itemOrEnd frames =>
      match token with
      | .closeArray => placed? (.array []) frames
      | other => begin? other (.array [] :: frames)
  | .key fields frames =>
      match token with
      | .leaf (.string key) => some (.colon fields key frames)
      | _ => none
  | .keyOrEnd frames =>
      match token with
      | .closeObject => placed? (.object []) frames
      | .leaf (.string key) => some (.colon [] key frames)
      | _ => none
  | .colon fields key frames =>
      match token with
      | .colon => some (.value (.field fields key :: frames))
      | _ => none
  | .commaOrEnd (.array items) frames =>
      match token with
      | .comma => some (.value (.array items :: frames))
      | .closeArray => placed? (.array items.reverse) frames
      | _ => none
  | .commaOrEnd (.object fields) frames =>
      match token with
      | .comma => some (.key fields frames)
      | .closeObject => placed? (.object fields.reverse) frames
      | _ => none
  | .commaOrEnd (.field _ _) _ => none
  | .nothing _ => none

def parse? (text : String) : Option Syntax := do
  match ← (← tokens? text).foldlM (fun expectation token => accept? token expectation)
      (Expectation.value []) with
  | .nothing tree => some tree
  | _ => none

mutual

/-- The value that a tree means. -/
def value? : Syntax → Option Json
  | .null => some .null
  | .bool value => some (.bool value)
  | .number numeral => numeral.value?
  | .string raw => (unescape? raw).map fun chars => .string (String.ofList chars)
  | .array items => (itemValues? items).map .array
  | .object fields => (fieldValues? fields).map .object

def itemValues? : List Syntax → Option (List Json)
  | [] => some []
  | item :: items => do
      let value ← value? item
      return value :: (← itemValues? items)

/-- The keys and values of the fields of an object. -/
def fieldValues? : List (List Char × Syntax) → Option (List (String × Json))
  | [] => some []
  | (raw, tree) :: fields => do
      let key ← unescape? raw
      let value ← value? tree
      return (String.ofList key, value) :: (← fieldValues? fields)

end

mutual

/-- Whether no more than `room` containers stand inside each other anywhere. -/
def fits (room : Nat) : Syntax → Bool
  | .array items =>
      match room with
      | 0 => false
      | inner + 1 => itemsFit inner items
  | .object fields =>
      match room with
      | 0 => false
      | inner + 1 => fieldsFit inner fields
  | _ => true

/-- Whether every item of an array fits. -/
def itemsFit (room : Nat) : List Syntax → Bool
  | [] => true
  | item :: items => fits room item && itemsFit room items

/-- Whether every field of an object fits. -/
def fieldsFit (room : Nat) : List (List Char × Syntax) → Bool
  | [] => true
  | (_, tree) :: fields => fits room tree && fieldsFit room fields

end

end Syntax

def parse? (text : String) : Option Json :=
  (Syntax.parse? text).bind Syntax.value?

end Json

end OptionCompiler
