/-!
# Placed characters

The characters of a text in the YAML data format, each with its line, its column and its distance
from the start of the text. Columns count characters, the distance counts the bytes of their UTF-8
form. The format decides by columns what belongs together, so everything that reads it works on
placed characters.

Five characters end a line. A carriage return with a line feed after it is one line break; all
breaks but the two separators of Unicode are read as line feeds.
-/

namespace OptionCompiler

namespace Yaml

/-- A character and its place. -/
structure Glyph where
  char : Char
  line : Nat
  column : Nat
  index : Nat
deriving DecidableEq, Repr

/-- Whether a text may hold the character at all. -/
def isAllowed (c : Char) : Bool :=
  let code := c.toNat
  c == '\t' || c == '\n' || c == '\r' || (0x20 ≤ code && code ≤ 0x7E) || code == 0x85 ||
    (0xA0 ≤ code && code ≤ 0xFFFD) || 0x10000 ≤ code

/-- The characters that end a line. -/
def isBreak (c : Char) : Bool :=
  c == '\n' || c == '\r' || c == '\u0085' || c == '\u2028' || c == '\u2029'

/-- The blanks inside a line. -/
def isBlank (c : Char) : Bool :=
  c == ' ' || c == '\t'

/-- Whether a character is white space of either kind. -/
def isSpace (c : Char) : Bool :=
  isBlank c || isBreak c

/-- The line break that a character is read as. -/
def readBreak (c : Char) : Char :=
  if c = '\r' ∨ c = '\u0085' then '\n' else c

namespace Glyph

/-- Places the remaining characters from the given place on. -/
def placeFrom (line column index : Nat) : List Char → List Glyph
  | [] => []
  | '\r' :: '\n' :: rest => ⟨'\n', line, column, index⟩ :: placeFrom (line + 1) 0 (index + 2) rest
  | c :: rest =>
      if isBreak c then
        ⟨readBreak c, line, column, index⟩ :: placeFrom (line + 1) 0 (index + c.utf8Size) rest
      else ⟨c, line, column, index⟩ :: placeFrom line (column + 1) (index + c.utf8Size) rest

/-- The placed characters of a text, unless a character is not allowed. -/
def ofText? (text : String) : Option (List Glyph) :=
  if text.toList.all isAllowed then some (placeFrom 0 0 0 text.toList) else none

end Glyph

/-- The characters of the names of anchors, of handles and of directives. -/
def isNameChar (c : Char) : Bool :=
  c.isAlphanum || c == '_' || c == '-'

/-- The longest name in front, possibly empty, and the glyphs after it. -/
def spanName (glyphs : List Glyph) : List Char × List Glyph :=
  ((glyphs.takeWhile fun glyph => isNameChar glyph.char).map Glyph.char,
    glyphs.dropWhile fun glyph => isNameChar glyph.char)

def afterBlanks (glyphs : List Glyph) : List Glyph :=
  glyphs.dropWhile fun glyph => isBlank glyph.char

/-- Whether white space or the end of the text comes first. -/
def endsWord : List Glyph → Bool
  | [] => true
  | glyph :: _ => isSpace glyph.char

/-- Whether the glyphs begin with the characters. -/
def startsWith (chars : List Char) (glyphs : List Glyph) : Bool :=
  chars.isPrefixOf (glyphs.map Glyph.char)

def lineEnd (glyphs : List Glyph) : List Glyph :=
  glyphs.dropWhile fun glyph => !isBreak glyph.char

/-- The end of a line is no longer than the line and what follows it. -/
theorem length_lineEnd_le (glyphs : List Glyph) : (lineEnd glyphs).length ≤ glyphs.length :=
  (List.dropWhile_suffix _).length_le

def afterComment (glyphs : List Glyph) : List Glyph :=
  match glyphs with
  | [] => []
  | glyph :: rest => if glyph.char = '#' then lineEnd rest else glyph :: rest

/-- The glyphs after the blanks, the comment and the line break that may end a line. -/
def afterLine? (glyphs : List Glyph) : Option (List Glyph) :=
  match afterComment (afterBlanks glyphs) with
  | [] => some []
  | glyph :: rest => if isBreak glyph.char then some rest else none

/-- Whether a mark of three characters stands alone at the start of a line. -/
def isLineMark (chars : List Char) (glyphs : List Glyph) : Bool :=
  match glyphs with
  | [] => false
  | glyph :: _ =>
      glyph.column == 0 && startsWith chars (glyphs.take 3) && endsWord (glyphs.drop 3)

/-- Whether the start of a document is marked here. -/
def startsDocument (glyphs : List Glyph) : Bool :=
  isLineMark ['-', '-', '-'] glyphs

/-- Whether the end of a document is marked here. -/
def endsDocument (glyphs : List Glyph) : Bool :=
  isLineMark ['.', '.', '.'] glyphs

end Yaml

end OptionCompiler
