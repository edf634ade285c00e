import OptionCompiler.Text
import OptionCompiler.Yaml.Glyph
/-!
# Tags

A tag stands before a node and says what kind of value the node is. It is written with a handle,
which stands for the first part of the tag, or in full between angle brackets. Octets of a tag may
be written by their codes after a percent sign, one UTF-8 sequence after the other, so a tag is a
list of octets until it is known to be a text.

Four tags name a kind of scalar. A tag that begins with an exclamation mark is local and names a
variant. All other tags say that a scalar is a text.
-/

namespace OptionCompiler

namespace Yaml

/-- What a tag says about its node. -/
inductive Tag where
  | bool
  | integer
  | float
  | null
  | variant (name : String)
  | other
  /-- A local tag that is no text, which says nothing about a plain scalar. -/
  | obscure
deriving DecidableEq, Repr

/-- A tag as it is written: its handle, unless it is written in full, and the rest. -/
structure TagName where
  handle : Option (List Char)
  suffix : List UInt8
deriving DecidableEq, Repr

/-- The octets of characters below U+0080. -/
def asciiOctets (chars : List Char) : List UInt8 :=
  chars.map fun c => UInt8.ofNat c.toNat

/-- What the tags of the common kinds begin with. -/
def commonStart : List UInt8 :=
  asciiOctets "tag:yaml.org,2002:".toList

namespace Tag

/-- The tags that name a kind of scalar, by what they end with. -/
def common : List (String × Tag) :=
  [("bool", .bool), ("int", .integer), ("float", .float), ("null", .null)]

/-- The tag of a text. The exclamation mark of a local tag is dropped unless it is all there is. -/
def ofText (text : String) : Tag :=
  match text.toList with
  | '!' :: c :: name => .variant (String.ofList (c :: name))
  | ['!'] => .variant text
  | _ => .other

def ofOctets (octets : List UInt8) : Tag :=
  match common.find? fun entry => octets == commonStart ++ asciiOctets entry.1.toList with
  | some (_, tag) => tag
  | none =>
      match String.fromUTF8? ⟨octets.toArray⟩ with
      | some text => ofText text
      | none => if octets.head? = some 0x21 then .obscure else .other

end Tag

/-- How many octets follow the first octet of a UTF-8 sequence. -/
def octetsDue? (octet : Nat) : Option Nat :=
  if octet < 0x80 then some 0
  else if 0xC0 ≤ octet ∧ octet < 0xE0 then some 1
  else if 0xE0 ≤ octet ∧ octet < 0xF0 then some 2
  else if 0xF0 ≤ octet ∧ octet < 0xF8 then some 3
  else none

/-- How many octets are due after one more octet, where some are due before it. -/
def octetsDueAfter? (due octet : Nat) : Option Nat :=
  match due with
  | 0 => octetsDue? octet
  | left + 1 => if 0x80 ≤ octet ∧ octet < 0xC0 then some left else none

namespace TagName

/-- The characters of a tag that stand for themselves. Between angle brackets there are three
more. -/
def isPart (inFull : Bool) (c : Char) : Bool :=
  isNameChar c || ";/?:@&=+$.!~*'()".toList.contains c || (inFull && ",[]".toList.contains c)

/-- The octets of the part of a tag in front, and the glyphs after it, where so many octets of a
sequence are due. -/
def octetsFrom? (inFull : Bool) (due : Nat) : List Glyph → Option (List UInt8 × List Glyph)
  | [] => if due = 0 then some ([], []) else none
  | glyph :: rest =>
      if glyph.char = '%' then
        match rest with
        | high :: low :: later => do
            let octet ← Text.number? 16 [high.char, low.char]
            let due ← octetsDueAfter? due octet
            let (octets, after) ← octetsFrom? inFull due later
            return (UInt8.ofNat octet :: octets, after)
        | _ => none
      else if due ≠ 0 then none
      else if isPart inFull glyph.char then do
        let (octets, after) ← octetsFrom? inFull 0 rest
        return (asciiOctets [glyph.char] ++ octets, after)
      else some ([], glyph :: rest)

/-- The octets of the part of a tag in front, up to a zero, and the glyphs after it. -/
def octets? (inFull : Bool) (glyphs : List Glyph) : Option (List UInt8 × List Glyph) :=
  (octetsFrom? inFull 0 glyphs).map fun (octets, rest) => (octets.takeWhile (· ≠ 0), rest)

/-- A part of a tag that must not be left out. -/
def part? (inFull : Bool) (glyphs : List Glyph) : Option (List UInt8 × List Glyph) :=
  match glyphs with
  | [] => none
  | glyph :: rest =>
      if glyph.char == '%' || isPart inFull glyph.char then octets? inFull (glyph :: rest)
      else none

/-- The rest of a tag that is written in full, after the opening bracket. -/
def inFull? (glyphs : List Glyph) : Option (TagName × List Glyph) := do
  match ← part? true glyphs with
  | (octets, glyph :: rest) => if glyph.char = '>' then some (⟨none, octets⟩, rest) else none
  | (_, []) => none

/-- The rest of a tag without a second exclamation mark, after its name. The first one is the
handle, but alone it is a tag in full. -/
def withoutName? (name : List Char) (glyphs : List Glyph) : Option (TagName × List Glyph) := do
  let (more, rest) ← octets? false glyphs
  match asciiOctets name ++ more with
  | [] => return (⟨none, asciiOctets ['!']⟩, rest)
  | suffix => return (⟨some ['!'], suffix⟩, rest)

/-- The rest of a tag with a handle, after the exclamation mark. -/
def withHandle? (glyphs : List Glyph) : Option (TagName × List Glyph) :=
  match spanName glyphs with
  | (name, glyph :: rest) =>
      if glyph.char = '!' then
        (part? false rest).map fun (suffix, rest) =>
          (⟨some ('!' :: (name ++ ['!'])), suffix⟩, rest)
      else withoutName? name (glyph :: rest)
  | (name, []) => withoutName? name []

/-- The rest of a tag, after the exclamation mark that begins it. White space follows a tag, and
in a flow collection a comma may follow it. -/
def read? (inFlow : Bool) (glyphs : List Glyph) : Option (TagName × List Glyph) := do
  let (name, rest) ←
    match glyphs with
    | glyph :: later => if glyph.char = '<' then inFull? later else withHandle? glyphs
    | [] => withHandle? []
  if endsWord rest || (inFlow && startsWith [','] (rest.take 1)) then some (name, rest) else none

end TagName

end Yaml

end OptionCompiler
