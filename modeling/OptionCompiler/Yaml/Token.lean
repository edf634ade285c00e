import OptionCompiler.Yaml.Directive
import OptionCompiler.Yaml.Scalar
import OptionCompiler.Yaml.ScalarText
/-!
# Tokens

The tokens of a text in the YAML data format. Columns become tokens of their own: a block starts
where an entry or a key stands further right than the block around it, and ends before the first
token that stands further left than its entries.

Whether a scalar or a collection is the key of a mapping shows only at the colon after it. So a
slot is left in the list of tokens wherever a key may begin, and the colon fills it. A slot can be
filled only on its own line and not too far away.
-/

namespace OptionCompiler

namespace Yaml

/-- A token. -/
inductive Token where
  | directive (directive : Directive)
  | documentStart
  | documentEnd
  | blockSequenceStart
  | blockMappingStart
  | blockEnd
  | flowSequenceStart
  | flowSequenceEnd
  | flowMappingStart
  | flowMappingEnd
  | blockEntry
  | flowEntry
  | key
  | value
  | anchor (name : List Char)
  | alias (name : List Char)
  | tag (name : TagName)
  | scalar (form : ScalarForm) (text : List Char)
deriving DecidableEq, Repr

/-- A token, or a slot that is filled when a key turns out to begin there. -/
inductive Piece where
  | token (token : Token)
  | slot (number : Nat)
deriving DecidableEq, Repr

/-- A place where a key may begin. A key is required where nothing else may stand. -/
structure Candidate where
  slot : Nat
  place : Glyph
  required : Bool
deriving DecidableEq, Repr

/-- What is read so far. The candidate for a key is that of the innermost flow collection, and
`outer` holds the candidates of the collections around it and of the block around them all. -/
structure Scanner where
  /-- The pieces read so far, last one first. -/
  pieces : List Piece
  /-- How many slots were left. -/
  slots : Nat
  /-- The columns of the open blocks, innermost first. -/
  columns : List Nat
  candidate : Option Candidate
  outer : List (Option Candidate)
  /-- Whether a key may begin here. -/
  keyAllowed : Bool
deriving Repr

namespace Scanner

def initial : Scanner :=
  { pieces := [], slots := 0, columns := [], candidate := none, outer := [], keyAllowed := true }

/-- Whether a flow collection is open. -/
def inFlow (scanner : Scanner) : Bool :=
  !scanner.outer.isEmpty

def emit (scanner : Scanner) (token : Token) : Scanner :=
  { scanner with pieces := .token token :: scanner.pieces }

/-- Says whether a key may begin at the next token. -/
def allowKey (scanner : Scanner) (allowed : Bool) : Scanner :=
  { scanner with keyAllowed := allowed }

/-- How far away from its start a key may be, in bytes. -/
def keyReach : Nat := 1024

/-- Whether a candidate can no longer be a key at the given place. -/
def isStale (place : Glyph) (candidate : Candidate) : Bool :=
  candidate.place.line < place.line || candidate.place.index + keyReach < place.index

/-- A candidate at a place: itself, or nothing if it is stale. A required key must not be. -/
def fresh? (place : Glyph) (candidate : Option Candidate) : Option (Option Candidate) :=
  match candidate with
  | none => some none
  | some found =>
      if isStale place found then if found.required then none else some none
      else some (some found)

/-- Gives up the candidates that are stale. -/
def expire? (scanner : Scanner) (place : Glyph) : Option Scanner := do
  return { scanner with
    candidate := ← fresh? place scanner.candidate
    outer := ← scanner.outer.mapM (fresh? place) }

/-- Gives up the innermost candidate, which must not be required. -/
def dropCandidate? (scanner : Scanner) : Option Scanner :=
  if scanner.candidate.any Candidate.required then none
  else some { scanner with candidate := none }

/-- Leaves a slot if a key may begin at the given place. -/
def leaveSlot? (scanner : Scanner) (place : Glyph) : Option Scanner :=
  if scanner.keyAllowed then do
    let scanner ← scanner.dropCandidate?
    let required := !scanner.inFlow && scanner.columns.head? == some place.column
    return { scanner with
      pieces := .slot scanner.slots :: scanner.pieces
      slots := scanner.slots + 1
      candidate := some ⟨scanner.slots, place, required⟩ }
  else some scanner

/-- Whether a block of entries at the given column starts there. -/
def startsBlock (scanner : Scanner) (column : Nat) : Bool :=
  !scanner.inFlow && scanner.columns.head?.all (· < column)

def openBlock (scanner : Scanner) (column : Nat) (start : Token) : Scanner :=
  if scanner.startsBlock column then
    { scanner.emit start with columns := column :: scanner.columns }
  else scanner

/-- Ends the blocks whose columns are in the first list, which are all further right. -/
def closeBlocks (scanner : Scanner) (closed : List Nat) : Scanner :=
  { scanner with
    pieces := closed.map (fun _ => .token .blockEnd) ++ scanner.pieces
    columns := scanner.columns.drop closed.length }

/-- Ends the blocks that lie further right than the given column. -/
def closeDeeper (scanner : Scanner) (column : Nat) : Scanner :=
  if scanner.inFlow then scanner
  else scanner.closeBlocks (scanner.columns.takeWhile (column < ·))

/-- Ends all blocks. -/
def closeAll (scanner : Scanner) : Scanner :=
  if scanner.inFlow then scanner else scanner.closeBlocks scanner.columns

/-- Reads the mark of the start or the end of a document. -/
def lineMark? (scanner : Scanner) (token : Token) : Option Scanner := do
  let scanner ← scanner.closeAll.dropCandidate?
  return (scanner.allowKey false).emit token

def openFlow? (scanner : Scanner) (place : Glyph) (token : Token) : Option Scanner := do
  let scanner ← scanner.leaveSlot? place
  return { scanner.emit token with
    candidate := none
    outer := scanner.candidate :: scanner.outer
    keyAllowed := true }

def closeFlow? (scanner : Scanner) (token : Token) : Option Scanner := do
  let scanner ← scanner.dropCandidate?
  let scanner := (scanner.allowKey false).emit token
  match scanner.outer with
  | [] => return scanner
  | candidate :: outer => return { scanner with candidate := candidate, outer := outer }

/-- Reads the comma of a flow collection. -/
def comma? (scanner : Scanner) : Option Scanner := do
  let scanner ← scanner.dropCandidate?
  return (scanner.allowKey true).emit .flowEntry

/-- Reads the dash of a block entry. -/
def dash? (scanner : Scanner) (place : Glyph) : Option Scanner :=
  if !scanner.inFlow && !scanner.keyAllowed then none
  else do
    let scanner ← (scanner.openBlock place.column .blockSequenceStart).dropCandidate?
    return (scanner.allowKey true).emit .blockEntry

/-- Reads the question mark before a key. -/
def questionMark? (scanner : Scanner) (place : Glyph) : Option Scanner :=
  if !scanner.inFlow && !scanner.keyAllowed then none
  else do
    let scanner ← (scanner.openBlock place.column .blockMappingStart).dropCandidate?
    return (scanner.allowKey !scanner.inFlow).emit .key

/-- What a slot becomes when a key begins there, last piece first. -/
def keyPieces (startsMapping : Bool) : List Piece :=
  if startsMapping then [.token .key, .token .blockMappingStart] else [.token .key]

def fill (number : Nat) (filling : List Piece) : List Piece → List Piece
  | [] => []
  | piece :: pieces =>
      if piece = .slot number then filling ++ pieces else piece :: fill number filling pieces

/-- Fills the slot of the key before a colon. -/
def fillSlot (scanner : Scanner) (candidate : Candidate) : Scanner :=
  let column := candidate.place.column
  let starts := scanner.startsBlock column
  { scanner with
    pieces := fill candidate.slot (keyPieces starts) scanner.pieces
    columns := if starts then column :: scanner.columns else scanner.columns
    candidate := none
    keyAllowed := false }

/-- Reads the colon before a value. -/
def colon? (scanner : Scanner) (place : Glyph) : Option Scanner :=
  match scanner.candidate with
  | some candidate => some ((scanner.fillSlot candidate).emit .value)
  | none =>
      if !scanner.inFlow && !scanner.keyAllowed then none
      else
        let scanner := scanner.openBlock place.column .blockMappingStart
        some ((scanner.allowKey !scanner.inFlow).emit .value)

/-- The characters that may stand right after the name of an anchor. -/
def mayFollowName (c : Char) : Bool :=
  isSpace c || c == '?' || c == ':' || c == ',' || c == ']' || c == '\x7d' || c == '%' ||
    c == '@' || c == '`'

/-- The name of an anchor, and the glyphs after it. -/
def name? (glyphs : List Glyph) : Option (List Char × List Glyph) :=
  let (name, rest) := spanName glyphs
  if name.isEmpty || !(rest.head?.all fun glyph => mayFollowName glyph.char) then none
  else some (name, rest)

/-- Reads the name after the mark of an anchor or of an alias. -/
def named? (scanner : Scanner) (place : Glyph) (token : List Char → Token) (glyphs : List Glyph) :
    Option (Scanner × List Glyph) := do
  let scanner ← scanner.leaveSlot? place
  let (name, rest) ← name? glyphs
  return ((scanner.allowKey false).emit (token name), rest)

/-- Reads a tag after its exclamation mark. -/
def tag? (scanner : Scanner) (place : Glyph) (glyphs : List Glyph) :
    Option (Scanner × List Glyph) := do
  let scanner ← scanner.leaveSlot? place
  let (name, rest) ← TagName.read? scanner.inFlow glyphs
  return ((scanner.allowKey false).emit (.tag name), rest)

/-- Reads a directive after its percent sign. -/
def directive? (scanner : Scanner) (glyphs : List Glyph) : Option (Scanner × List Glyph) := do
  let scanner ← scanner.closeAll.dropCandidate?
  let (directive, rest) ← Directive.read? glyphs
  return ((scanner.allowKey false).emit (.directive directive), rest)

/-- Reads a scalar after its opening quote. -/
def quoted? (scanner : Scanner) (place : Glyph)
    (scalar? : List Glyph → Option (List Char × List Glyph)) (glyphs : List Glyph) :
    Option (Scanner × List Glyph) := do
  let scanner ← scanner.leaveSlot? place
  let (text, rest) ← scalar? glyphs
  return ((scanner.allowKey false).emit (.scalar .quoted text), rest)

/-- One more than the column of the innermost block, zero outside of all blocks. -/
def innerColumn (scanner : Scanner) : Nat :=
  match scanner.columns with
  | [] => 0
  | column :: _ => column + 1

/-- Reads a block scalar after its first indicator. -/
def blockScalar? (scanner : Scanner) (folded : Bool) (glyphs : List Glyph) :
    Option (Scanner × List Glyph) := do
  let scanner ← scanner.dropCandidate?
  let (text, rest) ← block? folded scanner.innerColumn glyphs
  let form := if folded then .quoted else .literal
  return ((scanner.allowKey true).emit (.scalar form text), rest)

/-- Reads a plain scalar. A key may begin after it if a line ended. -/
def plainScalar? (scanner : Scanner) (place : Glyph) (glyphs : List Glyph) :
    Option (Scanner × List Glyph) := do
  let scanner ← scanner.leaveSlot? place
  let (text, gap, rest) ← plain? scanner.inFlow scanner.innerColumn [] .none glyphs
  return ((scanner.allowKey gap.hasBreak).emit (.scalar .plain text), rest)

/-- The characters that begin no plain scalar, or only before a character that is no white
space. -/
def isIndicator (c : Char) : Bool :=
  "-?:,[]\x7b\x7d#&*!|>'\"%@`".toList.contains c

def beginsPlain (scanner : Scanner) (glyph : Glyph) (rest : List Glyph) : Bool :=
  !(isSpace glyph.char || isIndicator glyph.char) || (glyph.char == '-' && !endsWord rest) ||
    (!scanner.inFlow && (glyph.char == '?' || glyph.char == ':') && !endsWord rest)

def read? (scanner : Scanner) (glyph : Glyph) (rest : List Glyph) :
    Option (Scanner × List Glyph) :=
  let alone (read : Option Scanner) : Option (Scanner × List Glyph) := read.map (·, rest)
  let isMark (c : Char) : Bool := glyph.char == c && (scanner.inFlow || endsWord rest)
  if glyph.column == 0 && glyph.char == '%' then scanner.directive? rest
  else if startsDocument (glyph :: rest) then
    (scanner.lineMark? .documentStart).map (·, rest.drop 2)
  else if endsDocument (glyph :: rest) then
    (scanner.lineMark? .documentEnd).map (·, rest.drop 2)
  else if glyph.char = '[' then alone (scanner.openFlow? glyph .flowSequenceStart)
  else if glyph.char = '\x7b' then alone (scanner.openFlow? glyph .flowMappingStart)
  else if glyph.char = ']' then alone (scanner.closeFlow? .flowSequenceEnd)
  else if glyph.char = '\x7d' then alone (scanner.closeFlow? .flowMappingEnd)
  else if glyph.char = ',' then alone scanner.comma?
  else if glyph.char == '-' && endsWord rest then alone (scanner.dash? glyph)
  else if isMark '?' then alone (scanner.questionMark? glyph)
  else if isMark ':' then alone (scanner.colon? glyph)
  else if glyph.char = '*' then scanner.named? glyph .alias rest
  else if glyph.char = '&' then scanner.named? glyph .anchor rest
  else if glyph.char = '!' then scanner.tag? glyph rest
  else if glyph.char == '|' && !scanner.inFlow then scanner.blockScalar? false rest
  else if glyph.char == '>' && !scanner.inFlow then scanner.blockScalar? true rest
  else if glyph.char = '\'' then scanner.quoted? glyph (singleQuoted? [] .none) rest
  else if glyph.char = '"' then scanner.quoted? glyph (doubleQuoted? [] .none) rest
  else if scanner.beginsPlain glyph rest then scanner.plainScalar? glyph (glyph :: rest)
  else none

/-- The mark of the byte order. It counts for nothing at the start of a line. -/
def isOrderMark (glyph : Glyph) : Bool :=
  glyph.char == '\ufeff' && glyph.column == 0

/-- Whether a key may begin at the next token, and the glyphs from that token on. Outside of flow
collections a key may begin after every line break, and a tab is no indentation where a key may
begin. -/
def skip (inFlow : Bool) (keyAllowed inComment : Bool) : List Glyph → Bool × List Glyph
  | [] => (keyAllowed, [])
  | glyph :: rest =>
      if isBreak glyph.char then skip inFlow (keyAllowed || !inFlow) false rest
      else if inComment then skip inFlow keyAllowed true rest
      else if glyph.char == '#' then skip inFlow keyAllowed true rest
      else if glyph.char == ' ' || (glyph.char == '\t' && (inFlow || !keyAllowed)) ||
          isOrderMark glyph then
        skip inFlow keyAllowed false rest
      else (keyAllowed, glyph :: rest)

/-- Ends the blocks that are open at the end of a text. -/
def finish? (scanner : Scanner) : Option Scanner :=
  scanner.closeAll.dropCandidate?

/-- Reads up to `fuel` tokens, which must be all that remain. -/
def readAll? (scanner : Scanner) (glyphs : List Glyph) (fuel : Nat) : Option Scanner :=
  match skip scanner.inFlow scanner.keyAllowed false glyphs with
  | (_, []) => scanner.finish?
  | (keyAllowed, glyph :: rest) =>
      match fuel with
      | 0 => none
      | fuel + 1 => do
          let scanner ← (scanner.allowKey keyAllowed).expire? glyph
          let (scanner, later) ← (scanner.closeDeeper glyph.column).read? glyph rest
          scanner.readAll? later fuel

/-- The token that a piece is. A slot that stayed empty is none. -/
def pieceToken? : Piece → Option Token
  | .token token => some token
  | .slot _ => none

/-- The tokens read, first one first. -/
def tokens (scanner : Scanner) : List Token :=
  scanner.pieces.reverse.filterMap pieceToken?

end Scanner

/-- The tokens of a text. Each of them is made of one glyph at least. -/
def Token.ofText? (text : String) : Option (List Token) := do
  let glyphs ← Glyph.ofText? text
  return (← Scanner.initial.readAll? glyphs glyphs.length).tokens

end Yaml

end OptionCompiler
