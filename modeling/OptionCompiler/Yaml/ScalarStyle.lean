import OptionCompiler.Yaml.Glyph
import OptionCompiler.Yaml.Scalar
/-!
# Styles of scalars

How a text is written so that it is read back as itself. A text of several lines is written as a
block, a text that would be read back as something else goes between single quotes, and every
other text is written as it is. Where the text does not allow its style, quotes take its place:
single quotes if they can hold the text, double quotes otherwise.
-/

namespace OptionCompiler

namespace Yaml

/-- A way to write a text. -/
inductive ScalarStyle where
  | plain
  | singleQuoted
  | doubleQuoted
  | block
deriving DecidableEq, Repr

namespace ScalarStyle

/-- Whether a character is written as it is. Control characters are not, nor are the mark of the
byte order and the two characters of the basic plane that mean nothing. -/
def isShown (c : Char) : Bool :=
  let code := c.toNat
  c == '\n' || (0x20 ≤ code && code ≤ 0x7E) ||
    (0xA0 ≤ code && code != 0xFEFF && code != 0xFFFE && code != 0xFFFF)

/-- Whether two neighbours satisfy a condition. -/
def hasNeighbours (condition : Char → Char → Bool) (chars : List Char) : Bool :=
  (chars.zip chars.tail).any fun (left, right) => condition left right

/-- Whether a text holds characters that need an escape. -/
def needsEscape (chars : List Char) : Bool :=
  chars.any fun c => !isShown c

/-- Whether a space stands right before a line break. -/
def hasSpaceBeforeBreak (chars : List Char) : Bool :=
  hasNeighbours (fun left right => left == ' ' && isBreak right) chars

/-- Whether a space stands right after a line break. -/
def hasSpaceAfterBreak (chars : List Char) : Bool :=
  hasNeighbours (fun left right => isBreak left && right == ' ') chars

/-- Whether a block can hold a text. -/
def blockAllowed (chars : List Char) : Bool :=
  !(needsEscape chars || hasSpaceBeforeBreak chars || chars.getLast? == some ' ')

/-- Whether single quotes can hold a text. -/
def singleAllowed (chars : List Char) : Bool :=
  !(needsEscape chars || hasSpaceBeforeBreak chars || hasSpaceAfterBreak chars)

/-- Whether a text that begins with the character is taken for something other than a plain
scalar. -/
def isLeadingIndicator (c : Char) : Bool :=
  "#,[]\x7b\x7d&*!|>'\"%@`".toList.contains c

/-- Whether the characters are empty or begin with white space. -/
def startsBlank (chars : List Char) : Bool :=
  chars.head?.all isSpace

/-- Whether the start of a text is taken for something other than a plain scalar. -/
def hasLeadingIndicator (chars : List Char) : Bool :=
  ['-', '-', '-'].isPrefixOf chars || ['.', '.', '.'].isPrefixOf chars ||
    match chars with
    | [] => false
    | first :: rest =>
        isLeadingIndicator first ||
          ((first == '?' || first == ':' || first == '-') && startsBlank rest)

/-- Whether the text after its first character holds the mark of a value or of a comment. -/
def hasInnerIndicator : List Char → Bool
  | [] => false
  | previous :: rest =>
      (match rest with
        | [] => false
        | c :: later => (c == ':' && startsBlank later) || (c == '#' && isSpace previous)) ||
        hasInnerIndicator rest

/-- Whether a text can be written as it is. -/
def plainAllowed (chars : List Char) : Bool :=
  singleAllowed chars && !chars.any isBreak && chars.head? != some ' ' &&
    chars.getLast? != some ' ' && !hasLeadingIndicator chars && !hasInnerIndicator chars

/-- Whether a text is read back as itself when it is written without quotes. -/
def readsAsText (text : String) : Bool :=
  PlainValue.ofText text == .text && !PlainValue.hasLeadingZero text.toList

/-- The quotes that hold a text. -/
def quotes (chars : List Char) : ScalarStyle :=
  if singleAllowed chars then .singleQuoted else .doubleQuoted

def of (text : String) : ScalarStyle :=
  let chars := text.toList
  if chars.contains '\n' then if blockAllowed chars then .block else .doubleQuoted
  else if readsAsText text && plainAllowed chars then .plain
  else quotes chars

/-- The style of a text that is a key, which stays on one line. -/
def ofKey (text : String) : ScalarStyle :=
  if text.toList.any isBreak then .doubleQuoted else of text

end ScalarStyle

end Yaml

end OptionCompiler
