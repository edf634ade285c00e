import OptionCompiler.Text
import OptionCompiler.Yaml.Glyph
/-!
# The texts of scalars

A scalar is written plain, between single quotes, between double quotes, or as a block of lines.
Each reader below takes the glyphs from the start of a scalar on and gives its text and the glyphs
after it.

Outside blocks, the white space between two words is folded: blanks inside a line stay, a single
line break becomes a space, and of several line breaks the first is dropped. `Gap` is the white
space read since the last word.
-/

namespace OptionCompiler

namespace Yaml

/-- The white space after a word: blanks inside a line, or line breaks with the blanks around them
left out. Both are kept back to front. -/
inductive Gap where
  | blanks (reversed : List Char)
  | breaks (first : Option Char) (reversed : List Char)
deriving DecidableEq, Repr

namespace Gap

/-- No white space. -/
def none : Gap := .blanks []

/-- The gap with one more character of white space. -/
def add (gap : Gap) (c : Char) : Gap :=
  match gap with
  | .blanks reversed =>
      if isBreak c then .breaks (some c) [] else .blanks (c :: reversed)
  | .breaks first reversed =>
      if isBreak c then .breaks first (c :: reversed) else .breaks first reversed

/-- What the gap is read as, back to front. -/
def folded : Gap → List Char
  | .blanks reversed => reversed
  | .breaks (some '\n') [] => [' ']
  | .breaks (some '\n') reversed => reversed
  | .breaks first reversed => reversed ++ first.toList

def isEmpty (gap : Gap) : Bool :=
  gap == none

/-- Whether a line ends in the gap. -/
def hasBreak : Gap → Bool
  | .blanks _ => false
  | .breaks _ _ => true

end Gap

/-- The text of a scalar that starts after a single quote. Two quotes stand for one. -/
def singleQuoted? (reversed : List Char) (gap : Gap) :
    List Glyph → Option (List Char × List Glyph)
  | [] => none
  | glyph :: rest =>
      if startsDocument (glyph :: rest) || endsDocument (glyph :: rest) then none
      else if isSpace glyph.char then singleQuoted? reversed (gap.add glyph.char) rest
      else if glyph.char = '\'' then
        match rest with
        | next :: after =>
            if next.char = '\'' then singleQuoted? ('\'' :: (gap.folded ++ reversed)) .none after
            else some ((gap.folded ++ reversed).reverse, next :: after)
        | [] => some ((gap.folded ++ reversed).reverse, [])
      else singleQuoted? (glyph.char :: (gap.folded ++ reversed)) .none rest

/-- The character that a backslash and one more character stand for. -/
def shortEscape? (c : Char) : Option Char :=
  match c with
  | '0' => some '\x00'
  | 'a' => some '\x07'
  | 'b' => some '\x08'
  | 't' => some '\t'
  | '\t' => some '\t'
  | 'n' => some '\n'
  | 'v' => some '\x0b'
  | 'f' => some '\x0c'
  | 'r' => some '\r'
  | 'e' => some '\x1b'
  | ' ' => some ' '
  | '"' => some '"'
  | '/' => some '/'
  | '\\' => some '\\'
  | 'N' => some '\u0085'
  | '_' => some '\u00a0'
  | 'L' => some '\u2028'
  | 'P' => some '\u2029'
  | _ => none

/-- How many hexadecimal digits follow a character after a backslash. -/
def codeLength? (c : Char) : Option Nat :=
  match c with
  | 'x' => some 2
  | 'u' => some 4
  | 'U' => some 8
  | _ => none

/-- The character whose code the digits spell. -/
def codedChar? (digits : List Char) : Option Char := do
  Text.charOfCode? (← Text.number? 16 digits)

/-- The character that an escape stands for, and the glyphs after it, where the glyphs begin after
the backslash. -/
def escape? : List Glyph → Option (Char × List Glyph)
  | [] => none
  | glyph :: rest =>
      match codeLength? glyph.char with
      | some length =>
          if length ≤ rest.length then
            (codedChar? ((rest.take length).map Glyph.char)).map (·, rest.drop length)
          else none
      | none => (shortEscape? glyph.char).map (·, rest)

/-- An escape is followed by fewer glyphs. -/
theorem length_lt_of_escape? {glyphs rest : List Glyph} {c : Char}
    (found : escape? glyphs = some (c, rest)) : rest.length < glyphs.length := by
  unfold escape? at found
  split at found
  · simp at found
  · split at found
    · split at found
      · obtain ⟨_, _, equal⟩ := Option.map_eq_some_iff.1 found
        cases equal
        simp only [List.length_drop, List.length_cons]
        omega
      · simp at found
    · obtain ⟨_, _, equal⟩ := Option.map_eq_some_iff.1 found
      cases equal
      simp

/-- The text of a scalar that starts after a double quote. A backslash at the end of a line joins
the next line without a space. -/
def doubleQuoted? (reversed : List Char) (gap : Gap) (glyphs : List Glyph) :
    Option (List Char × List Glyph) :=
  match glyphs with
  | [] => none
  | glyph :: rest =>
      if startsDocument (glyph :: rest) || endsDocument (glyph :: rest) then none
      else if isSpace glyph.char then doubleQuoted? reversed (gap.add glyph.char) rest
      else if glyph.char = '"' then some ((gap.folded ++ reversed).reverse, rest)
      else if glyph.char = '\\' then
        match rest with
        | next :: after =>
            if isBreak next.char then
              doubleQuoted? (gap.folded ++ reversed) (.breaks none []) after
            else
              match found : escape? (next :: after) with
              | some (c, later) =>
                  have := length_lt_of_escape? found
                  doubleQuoted? (c :: (gap.folded ++ reversed)) .none later
              | none => none
        | [] => none
      else doubleQuoted? (glyph.char :: (gap.folded ++ reversed)) .none rest
termination_by glyphs.length
decreasing_by
  all_goals simp_all
  all_goals omega

/-- Whether a plain scalar of a flow collection ends at the character. -/
def endsInFlow (c : Char) : Bool :=
  c == ',' || c == '[' || c == ']' || c == '\x7b' || c == '\x7d'

/-- Whether a plain scalar ends right before the glyphs, of which the first is no white space. -/
def endsPlain (inFlow : Bool) (gap : Gap) (column : Nat) (glyph : Glyph) (rest : List Glyph) :
    Bool :=
  startsDocument (glyph :: rest) || endsDocument (glyph :: rest) ||
    (!gap.isEmpty && (glyph.char == '#' || (!inFlow && glyph.column < column))) ||
    (glyph.char == ':' && endsWord rest) || (inFlow && endsInFlow glyph.char)

/-- Whether a colon stands in a flow collection where it can be neither text nor an indicator. -/
def isStrayColon (inFlow : Bool) (glyph : Glyph) (rest : List Glyph) : Bool :=
  match rest with
  | [] => false
  | next :: _ => inFlow && glyph.char == ':' && (next.char == '?' || endsInFlow next.char)

/-- The text of a plain scalar, and the white space and the glyphs after it. In a block its lines
begin at the given column or further right. -/
def plain? (inFlow : Bool) (column : Nat) (reversed : List Char) (gap : Gap) :
    List Glyph → Option (List Char × Gap × List Glyph)
  | [] => some (reversed.reverse, gap, [])
  | glyph :: rest =>
      if isSpace glyph.char then
        if gap.hasBreak && glyph.char == '\t' && glyph.column < column then none
        else plain? inFlow column reversed (gap.add glyph.char) rest
      else if endsPlain inFlow gap column glyph rest then
        some (reversed.reverse, gap, glyph :: rest)
      else if isStrayColon inFlow glyph rest then none
      else plain? inFlow column (glyph.char :: (gap.folded ++ reversed)) .none rest

/-- What happens to the line breaks at the end of a block. -/
inductive Chomping where
  | strip
  | clip
  | keep
deriving DecidableEq, Repr

/-- The indicators of a block scalar. -/
structure BlockHeader where
  folded : Bool
  chomping : Chomping
  increment : Option Nat
deriving DecidableEq, Repr

namespace BlockHeader

/-- The header with one more indicator. Each kind of indicator stands at most once, and a digit
is not zero. -/
def add? (header : BlockHeader) (chomped : Bool) (c : Char) : Option BlockHeader :=
  if c = '+' ∨ c = '-' then
    if chomped then none
    else some { header with chomping := if c = '+' then .keep else .strip }
  else if c.isDigit ∧ c ≠ '0' ∧ header.increment.isNone then
    some { header with increment := some (c.toNat - '0'.toNat) }
  else none

def isIndicator (c : Char) : Bool :=
  c == '+' || c == '-' || c.isDigit

/-- The header of up to two indicators, and the glyphs after them. -/
def read? (folded : Bool) (glyphs : List Glyph) : Option (BlockHeader × List Glyph) :=
  let bare : BlockHeader := ⟨folded, .clip, none⟩
  match glyphs with
  | [] => some (bare, [])
  | first :: rest =>
      if !isIndicator first.char then some (bare, glyphs)
      else do
        let header ← bare.add? false first.char
        let chomped := !first.char.isDigit
        match rest with
        | [] => some (header, [])
        | second :: after =>
            if (chomped && second.char.isDigit) || (!chomped && !second.char.isDigit &&
                isIndicator second.char) then
              return (← header.add? chomped second.char, after)
            else some (header, rest)

end BlockHeader

/-- The indentation and the empty lines before a line of a block. -/
structure Leading where
  widest : Nat
  breaks : List Char
  rest : List Glyph
deriving DecidableEq, Repr

/-- Reads the empty lines before a line of a block, and its indentation up to the given column, or
all of it if no column is known. A tab may not stand in the indentation. -/
def leading? (column : Option Nat) (widest : Nat) (reversed : List Char) :
    List Glyph → Option Leading
  | [] => some ⟨widest, reversed.reverse, []⟩
  | glyph :: rest =>
      let inside := column.all fun column => glyph.column < column
      if inside && glyph.char == ' ' then leading? column widest reversed rest
      else if inside && glyph.char == '\t' then none
      else
        let widest := max widest glyph.column
        if isBreak glyph.char then leading? column widest (glyph.char :: reversed) rest
        else some ⟨widest, reversed.reverse, glyph :: rest⟩

/-- What follows the empty lines and the indentation is no longer than what they stand in. -/
theorem length_rest_le_of_leading? {column : Option Nat} {widest : Nat} {reversed : List Char}
    {glyphs : List Glyph} {found : Leading}
    (read : leading? column widest reversed glyphs = some found) :
    found.rest.length ≤ glyphs.length := by
  induction glyphs generalizing widest reversed with
  | nil =>
      simp only [leading?, Option.some.injEq] at read
      subst read
      simp
  | cons glyph rest ih =>
      simp only [leading?] at read
      split at read
      · exact Nat.le_succ_of_le (ih read)
      · split at read
        · simp at read
        · split at read
          · exact Nat.le_succ_of_le (ih read)
          · simp only [Option.some.injEq] at read
            subst read
            simp

/-- The lines of a block read so far, back to front, the break that ended the last line, the
empty lines after it, and whether that line began with a blank. -/
structure BlockText where
  reversed : List Char
  lastBreak : List Char
  breaks : List Char
  indented : Bool
deriving DecidableEq, Repr

namespace BlockText

/-- Nothing but empty lines. -/
def ofBreaks (breaks : List Char) : BlockText :=
  ⟨[], [], breaks, false⟩

/-- The text with one more line. Two lines of a folded block that do not begin with blanks are
joined. -/
def addLine (block : BlockText) (folded : Bool) (line : List Char) : BlockText :=
  let indented := line.head?.any isBlank
  let joint :=
    if folded && block.lastBreak == ['\n'] && !block.indented && !indented then
      if block.breaks.isEmpty then [' '] else []
    else block.lastBreak
  { reversed := line.reverse ++ (block.breaks.reverse ++ (joint ++ block.reversed))
    lastBreak := []
    breaks := []
    indented := indented }

/-- The text with its last line breaks kept or dropped. -/
def chomped (block : BlockText) : Chomping → List Char
  | .strip => block.reversed.reverse
  | .clip => block.reversed.reverse ++ block.lastBreak
  | .keep => block.reversed.reverse ++ (block.lastBreak ++ block.breaks)

end BlockText

/-- Reads the lines of a block that are indented to the given column. -/
def blockLines? (folded : Bool) (column : Nat) (block : BlockText) (glyphs : List Glyph) :
    Option (BlockText × List Glyph) :=
  match glyphs with
  | [] => some (block, [])
  | glyph :: rest =>
      if glyph.column ≠ column then some (block, glyph :: rest)
      else
        let line := (glyph :: rest).takeWhile fun glyph => !isBreak glyph.char
        let added := block.addLine folded (line.map Glyph.char)
        match found : lineEnd (glyph :: rest) with
        | [] => some (added, [])
        | ended :: after =>
            match read : leading? (some column) 0 [] after with
            | none => none
            | some leading =>
                let added := { added with lastBreak := [ended.char], breaks := leading.breaks }
                have fewer : leading.rest.length < (glyph :: rest).length := by
                  have shorter := length_lineEnd_le (glyph :: rest)
                  have noLonger := length_rest_le_of_leading? read
                  rw [found] at shorter
                  simp only [List.length_cons] at shorter ⊢
                  omega
                blockLines? folded column added leading.rest
termination_by glyphs.length
decreasing_by exact fewer

/-- The text of a block scalar that starts after its first indicator, inside a block whose
entries are further left than the given column. -/
def block? (folded : Bool) (inner : Nat) (glyphs : List Glyph) :
    Option (List Char × List Glyph) := do
  let (header, rest) ← BlockHeader.read? folded glyphs
  let rest ← afterLine? rest
  let known := header.increment.map fun increment => inner - 1 + increment
  let leading ← leading? known 0 [] rest
  let column := known.getD (max leading.widest (max inner 1))
  let (block, rest) ← blockLines? folded column (.ofBreaks leading.breaks) leading.rest
  return (block.chomped header.chomping, rest)

end Yaml

end OptionCompiler
