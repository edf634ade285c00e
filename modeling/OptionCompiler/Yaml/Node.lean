import OptionCompiler.Document
import OptionCompiler.Yaml.Scalar
import OptionCompiler.Yaml.Tag
/-!
# Document trees

The tree of a text in the YAML data format: scalars, sequences and mappings. A key may be any
tree, but records and literals have texts as keys.

Where a list or a map is wanted, a plain scalar without any text stands for an empty one. A
literal takes the value of its plain scalars from their spelling, and a whole number that does
not fit into 64 bits makes it unreadable.

A tag may say which kind of value a scalar has in a literal, whatever the scalar looks like. A
local tag names a variant: in its place stands the tag with nothing after it, and anywhere else
in a literal there is no meaning for it. A text is a text under every tag.
-/

namespace OptionCompiler

namespace Yaml

/-- A document tree. -/
inductive Node where
  | scalar (form : ScalarForm) (tag : Option Tag) (text : String)
  | sequence (tag : Option Tag) (items : List Node)
  | mapping (tag : Option Tag) (entries : List (Node × Node))
deriving Repr

namespace Node

/-- The node of a place that is left empty. -/
def empty : Node := .scalar .plain none ""

def text? : Node → Option String
  | .scalar _ _ text => some text
  | _ => none

/-- The truth value of a plain scalar, or of a block whose tag asks for one. -/
def bool? : Node → Option Bool
  | .scalar .plain _ text => spelledBool? text
  | .scalar .literal (some .bool) text => spelledBool? text
  | _ => none

/-- Whether the node is a plain scalar without any text. -/
def isEmpty : Node → Bool
  | .scalar .plain _ text => text.isEmpty
  | _ => false

def items? : Node → Option (List Node)
  | .sequence _ items => some items
  | node => if node.isEmpty then some [] else none

/-- The entries of a mapping, whose keys have the names that `name?` finds. -/
def entriesBy? (name? : Node → Option String) : Node → Option (List (String × Node))
  | .mapping _ entries => entries.mapM fun entry => (name? entry.1).map (·, entry.2)
  | node => if node.isEmpty then some [] else none

/-- The name of a variant: a scalar, or a local tag before a plain scalar that spells null. -/
def variant? : Node → Option String
  | .scalar .plain (some (.variant name)) text => if spellsNull text then some name else none
  | .scalar _ (some (.variant _)) _ => none
  | .scalar _ _ text => some text
  | _ => none

/-- The node where a value may be lacking, or nothing where a plain scalar spells null. Under a tag
a value is there even when it is empty, but a plain scalar tagged as null must spell it in
letters. -/
def present? (node : Node) : Option (Option Node) :=
  match node with
  | .scalar .plain none text => some (if spellsNull text then none else some node)
  | .scalar .plain (some .null) text => if nullSpellings.contains text then some none else none
  | node => some (some node)

/-- The literal of a whole number, which must fit into 64 bits. -/
def integerLiteral? (value : Int) : Option Literal :=
  if -2 ^ 63 ≤ value ∧ value < 2 ^ 64 then some (Literal.ofInteger value) else none

def plainLiteral? (text : String) : Option Literal :=
  match PlainValue.ofText text with
  | .null => some .null
  | .bool value => some (.bool value)
  | .integer value => integerLiteral? value
  | .float value => some (.float value)
  | .text => some (.string text)

def taggedLiteral? (form : ScalarForm) (tag : Tag) (text : String) : Option Literal :=
  match tag with
  | .bool => (spelledBool? text).map .bool
  | .integer => (PlainValue.integer? text.toList).bind integerLiteral?
  | .float => (PlainValue.float? text).map .float
  | .null => if nullSpellings.contains text then some .null else none
  | .variant _ => none
  | .other => some (.string text)
  | .obscure => if form = .plain then plainLiteral? text else some (.string text)

/-- Whether a container may stand in a literal under its tag. -/
def allowsLiteral : Option Tag → Bool
  | some (.variant _) => false
  | _ => true

/-- The text of a literal that is one. -/
def literalText? : Literal → Option String
  | .string text => some text
  | _ => none

mutual

def literal? : Node → Option Literal
  | .scalar form (some tag) text => taggedLiteral? form tag text
  | .scalar .plain none text => plainLiteral? text
  | .scalar _ none text => some (.string text)
  | .sequence tag items => if allowsLiteral tag then (itemLiterals? items).map .list else none
  | .mapping tag entries =>
      if allowsLiteral tag then (entryLiterals? .nil entries).map .map else none

def itemLiterals? : List Node → Option (List Literal)
  | [] => some []
  | item :: items => do
      let literal ← literal? item
      return literal :: (← itemLiterals? items)

/-- The entries sorted so far, and those of the remaining entries of a mapping. -/
def entryLiterals? (sorted : Sorted.Entries String Literal none) :
    List (Node × Node) → Option (Sorted.Entries String Literal none)
  | [] => some sorted
  | (key, value) :: entries => do
      let text ← literalText? (← literal? key)
      let literal ← literal? value
      entryLiterals? (sorted.insert text literal (Sorted.isAfter_none text)) entries

end

mutual

/-- Whether no more than `room` containers stand inside each other anywhere. -/
def fits (room : Nat) : Node → Bool
  | .scalar _ _ _ => true
  | .sequence _ items =>
      match room with
      | 0 => false
      | inner + 1 => itemsFit inner items
  | .mapping _ entries =>
      match room with
      | 0 => false
      | inner + 1 => entriesFit inner entries

/-- Whether every item of a sequence fits. -/
def itemsFit (room : Nat) : List Node → Bool
  | [] => true
  | item :: items => fits room item && itemsFit room items

/-- Whether every key and every value of a mapping fits. -/
def entriesFit (room : Nat) : List (Node × Node) → Bool
  | [] => true
  | (key, value) :: entries => fits room key && fits room value && entriesFit room entries

end

end Node

end Yaml

instance : Document Yaml.Node where
  text? := Yaml.Node.text?
  bool? := Yaml.Node.bool?
  items? := Yaml.Node.items?
  entries? := Yaml.Node.entriesBy? Yaml.Node.text?
  variantEntries? := Yaml.Node.entriesBy? Yaml.Node.variant?
  positional? _ := none
  variant? := Yaml.Node.variant?
  present? := Yaml.Node.present?
  literal? := Yaml.Node.literal?
  fits := Yaml.Node.fits

end OptionCompiler
