import OptionCompiler.Text.Quoted
/-!
# Spellings of source

Identifiers, literals, comments and attributes as fragments of generated source, and the causes
why a text cannot be spelled as one.

A name is spelled as an identifier when it is a letter or an underscore followed by letters,
digits and underscores, all of ASCII. Keywords carry a marker in front; the few words that the
marker does not help are refused.

A string or character literal stays on one line: the quote, the backslash and the control
characters are escaped, and nothing else is.

A line comment holds one line of text. A block of text becomes one comment line for each of its
logical lines, as a plain or as a documentation comment.
-/

namespace OptionCompiler

namespace Source

section Errors

/-- Why a text has no spelling in source. -/
inductive SpellingError where
  /-- A comment of one line was given text of several lines. -/
  | multilineComment (text : String)
  /-- The text is not made of the characters of identifiers. -/
  | malformedIdentifier (text : String)
  /-- The text is a reserved word that no marker makes an identifier. -/
  | reservedWord (text : String)
deriving DecidableEq, Repr

def SpellingError.message : SpellingError → String
  | .multilineComment text =>
      "single-line comment text contains a line terminator: " ++ Text.quoted text
  | .malformedIdentifier text => "invalid identifier: " ++ Text.quoted text
  | .reservedWord text => "keyword cannot be used as an identifier: " ++ text

end Errors

section Identifiers

/-- The keywords that the marker turns into identifiers. -/
def markedKeywords : List String :=
  ["abstract", "as", "async", "await", "become", "box", "break", "const", "continue", "do",
    "dyn", "else", "enum", "extern", "false", "final", "fn", "for", "gen", "if", "impl", "in",
    "let", "loop", "macro", "match", "mod", "move", "mut", "override", "priv", "pub", "ref",
    "return", "static", "struct", "trait", "true", "try", "type", "typeof", "unsafe", "unsized",
    "use", "virtual", "where", "while", "yield"]

/-- The words that are never identifiers. -/
def reservedWords : List String :=
  ["self", "Self", "super", "crate", "_"]

/-- What stands before a keyword that is used as an identifier. -/
def identifierMarker : String := "r#"

/-- A letter of ASCII or the underscore. -/
def isIdentifierStart (c : Char) : Bool :=
  c.isAlpha || c == '_'

/-- A letter or digit of ASCII or the underscore. -/
def isIdentifierPart (c : Char) : Bool :=
  c.isAlphanum || c == '_'

def isIdentifier (name : String) : Bool :=
  match name.toList with
  | [] => false
  | first :: rest => isIdentifierStart first && rest.all isIdentifierPart

/-- The identifier that stands for `name` in source. -/
def identifier (name : String) : Except SpellingError String :=
  if name ∈ reservedWords then .error (.reservedWord name)
  else if !isIdentifier name then .error (.malformedIdentifier name)
  else if name ∈ markedKeywords then .ok (identifierMarker ++ name)
  else .ok name

end Identifiers

section Literals

/-- How a literal between the given quotes shows one character. -/
def literalChar (quote c : Char) : List Char :=
  match c with
  | '\\' => ['\\', '\\']
  | '\n' => ['\\', 'n']
  | '\r' => ['\\', 'r']
  | '\t' => ['\\', 't']
  | '\x00' => ['\\', '0']
  | _ =>
      if c = quote then ['\\', c]
      else if Text.isControl c then Text.codeEscape c
      else [c]

def stringLiteral (text : String) : String :=
  String.ofList ('"' :: (text.toList.flatMap (literalChar '"') ++ ['"']))

/-- The character literal of a character. -/
def charLiteral (c : Char) : String :=
  String.ofList ('\'' :: (literalChar '\'' c ++ ['\'']))

def boolLiteral (value : Bool) : String :=
  if value then "true" else "false"

/-- The range of counts from `min` to `max` inclusive, without an end when there is no `max`. -/
def countRange (min : UInt32) (max : Option UInt32) : String :=
  match max with
  | some max => toString min.toNat ++ "..=" ++ toString max.toNat
  | none => toString min.toNat ++ ".."

end Literals

section Comments

/-- A comment line: the marker, and the text after a space if there is any. -/
def commentLine (marker line : String) : String :=
  if line.isEmpty then marker else marker ++ " " ++ line

def plainMarker : String := "//"

def documentationMarker : String := "///"

/-- Whether a character ends a line of source. -/
def isLineTerminator (c : Char) : Bool :=
  c == '\n' || c == '\r'

/-- The plain comment of one line of text, without the blanks at its end. -/
def lineComment (text : String) : Except SpellingError String :=
  if text.toList.any isLineTerminator then .error (.multilineComment text)
  else .ok (commentLine plainMarker (Text.trimEnd text))

/-- The plain comment of a block of text. -/
def blockComment (block : String) : List String :=
  (Text.logicalLines block).map (commentLine plainMarker)

def documentation (block : String) : List String :=
  (Text.logicalLines block).map (commentLine documentationMarker)

/-- The attribute with the given path and arguments. -/
def attributeLine (path : String) (args : Option String) : String :=
  match args with
  | some args => "#[" ++ path ++ "(" ++ args ++ ")]"
  | none => "#[" ++ path ++ "]"

end Comments

end Source

end OptionCompiler
