import OptionCompiler.Json
import OptionCompiler.Yaml.ScalarStyle
/-!
# Layout

The block notation of document values: one entry a line, the entries of a mapping below each
other, and each item of a sequence after a dash. A sequence in a mapping starts at the column of
the mapping, everything else two columns further right. Empty containers are written with
brackets. Every text ends with a line break.
-/

namespace OptionCompiler

namespace Yaml

namespace Layout

/-- White space of the given width. -/
def indentation (width : Nat) : List Char :=
  List.replicate width ' '

/-- Characters with white space of the given width after every line break that another character
follows, where `atStart` tells whether a line begins here. -/
def indented (width : Nat) (atStart : Bool) : List Char → List Char
  | [] => []
  | c :: rest =>
      if isBreak c then c :: indented width true rest
      else if atStart then indentation width ++ c :: indented width false rest
      else c :: indented width false rest

/-- The digits of a code, capital letters included. -/
def codeDigits (length code : Nat) : List Char :=
  let digits := (Nat.toDigits 16 code).map Char.toUpper
  List.replicate (length - digits.length) '0' ++ digits

/-- How double quotes show a character that needs an escape. -/
def escape (c : Char) : List Char :=
  '\\' ::
    match c with
    | '\x00' => ['0']
    | '\x07' => ['a']
    | '\x08' => ['b']
    | '\t' => ['t']
    | '\n' => ['n']
    | '\x0b' => ['v']
    | '\x0c' => ['f']
    | '\r' => ['r']
    | '\x1b' => ['e']
    | '"' => ['"']
    | '\\' => ['\\']
    | '\u0085' => ['N']
    | '\u00a0' => ['_']
    | '\u2028' => ['L']
    | '\u2029' => ['P']
    | _ =>
        let code := c.toNat
        if code ≤ 0xFF then 'x' :: codeDigits 2 code
        else if code ≤ 0xFFFF then 'u' :: codeDigits 4 code
        else 'U' :: codeDigits 8 code

/-- How double quotes show a character. -/
def doubleQuotedChar (c : Char) : List Char :=
  if ScalarStyle.isShown c && !isBreak c && c != '"' && c != '\\' then [c] else escape c

/-- How single quotes show a character. -/
def singleQuotedChar (c : Char) : List Char :=
  if c = '\'' then ['\'', '\''] else [c]

/-- The header of a block: a bar, the width of its indentation if its first line does not show it,
and what becomes of the line breaks at its end. -/
def blockHeader (chars : List Char) : List Char :=
  let hint := if chars.head?.all isSpace then ['2'] else []
  let chomping :=
    match chars.reverse with
    | [] => ['-']
    | [last] => if isBreak last then ['+'] else ['-']
    | last :: previous :: _ =>
        if !isBreak last then ['-'] else if isBreak previous then ['+'] else []
  '|' :: (hint ++ chomping)

/-- A text in a style, its later lines indented to the given width. -/
def scalarText (width : Nat) (chars : List Char) : ScalarStyle → List Char
  | .plain => chars
  | .singleQuoted =>
      '\'' :: indented width false (chars.flatMap singleQuotedChar ++ ['\''])
  | .doubleQuoted => '"' :: (chars.flatMap doubleQuotedChar ++ ['"'])
  | .block => blockHeader chars ++ '\n' :: indented width true chars

/-- Characters that end with a line break: their own, or one more. -/
def ended (chars : List Char) : List Char :=
  if chars.getLast?.any isBreak then chars else chars ++ ['\n']

/-- The line of a text, or the lines of a block. -/
def textLines (width : Nat) (text : String) : List Char :=
  ended (scalarText width text.toList (ScalarStyle.of text))

/-- The key of an entry with its colon. -/
def keyText (key : String) : List Char :=
  scalarText 0 key.toList (ScalarStyle.ofKey key) ++ [':']

mutual

/-- The lines of a node whose first line begins at the given column. -/
def nodeLines (column : Nat) : Json → List Char
  | .null => ['n', 'u', 'l', 'l', '\n']
  | .bool value => Json.boolText value ++ ['\n']
  | .integer value => Json.integerText value ++ ['\n']
  | .float value => Json.floatText value ++ ['\n']
  | .string text => textLines column text
  | .array [] => ['[', ']', '\n']
  | .array (item :: items) => '-' :: ' ' :: (nodeLines (column + 2) item ++ itemLines column items)
  | .object [] => ['\x7b', '\x7d', '\n']
  | .object ((key, value) :: entries) =>
      keyText key ++ valueLines column value ++ entryLines column entries

/-- The lines of the items after the first one. -/
def itemLines (column : Nat) : List Json → List Char
  | [] => []
  | item :: items =>
      indentation column ++ '-' :: ' ' :: (nodeLines (column + 2) item ++ itemLines column items)

/-- The lines of the entries after the first one. -/
def entryLines (column : Nat) : List (String × Json) → List Char
  | [] => []
  | (key, value) :: entries =>
      indentation column ++ keyText key ++ valueLines column value ++ entryLines column entries

/-- What follows the colon of an entry. -/
def valueLines (column : Nat) : Json → List Char
  | .array (item :: items) =>
      '\n' :: (indentation column ++ '-' :: ' ' ::
        (nodeLines (column + 2) item ++ itemLines column items))
  | .object ((key, value) :: entries) =>
      '\n' :: (indentation (column + 2) ++ keyText key ++ valueLines (column + 2) value ++
        entryLines (column + 2) entries)
  | value => ' ' :: nodeLines (column + 2) value

end

end Layout

/-- The text of a document value in block notation. -/
def layout (value : Json) : String :=
  match value with
  | .string text => String.ofList (Layout.textLines 2 text)
  | other => String.ofList (Layout.nodeLines 0 other)

end Yaml

end OptionCompiler
