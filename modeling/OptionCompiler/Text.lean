/-!
# Texts

Blank characters and the trims that ignore them, the replacement of a part of a text, its lines,
and the numbers that digits spell.

White space is the property of that name in Unicode, so it takes in the no-break space and the
ideographic space, but neither the zero-width space nor the byte order mark.

A line ends at a line feed, and one carriage return right before that line feed belongs to the
ending. A carriage return anywhere else is an ordinary character. Text that follows the last
line feed is a line too, unless it is empty. `logicalLines` is the normal form of a block of
lines: no blanks at the end of a line, no two empty lines in a row, and none at either end.

A digit has a value, where the letters of either case stand for ten to fifteen. A run of digits
in a base spells one number. No number is spelled by the empty run, nor by a run with a digit
that the base does not have.
-/

namespace OptionCompiler

namespace Text

section Blanks

/-- White space as Unicode defines it. -/
def isBlank (c : Char) : Bool :=
  let code := c.toNat
  (0x09 ≤ code && code ≤ 0x0D) || code == 0x20 || code == 0x85 || code == 0xA0 ||
    code == 0x1680 || (0x2000 ≤ code && code ≤ 0x200A) || code == 0x2028 || code == 0x2029 ||
    code == 0x202F || code == 0x205F || code == 0x3000

/-- The control characters: the first two columns of ASCII, the delete sign, and U+0080 to
U+009F. -/
def isControl (c : Char) : Bool :=
  let code := c.toNat
  code < 0x20 || (0x7F ≤ code && code ≤ 0x9F)

/-- `chars` without the longest run of dropped characters at its end. -/
def dropTail (drops : Char → Bool) (chars : List Char) : List Char :=
  (chars.reverse.dropWhile drops).reverse

/-- `text` without the white space at its end. -/
def trimEnd (text : String) : String :=
  String.ofList (dropTail isBlank text.toList)

/-- `text` without the white space at either end. -/
def trim (text : String) : String :=
  String.ofList (dropTail isBlank (text.toList.dropWhile isBlank))

end Blanks

section Replacement

/-- Replaces the occurrences in the remaining characters, the first `skipped` of which belong to
an occurrence replaced already. -/
def replaceFrom (pattern replacement : List Char) (skipped : Nat) : List Char → List Char
  | [] => []
  | c :: rest =>
      match skipped with
      | skipped + 1 => replaceFrom pattern replacement skipped rest
      | 0 =>
          if pattern.isPrefixOf (c :: rest) then
            replacement ++ replaceFrom pattern replacement (pattern.length - 1) rest
          else c :: replaceFrom pattern replacement 0 rest

/-- `text` with every occurrence of a nonempty pattern replaced. -/
def replace (text pattern replacement : String) : String :=
  String.ofList (replaceFrom pattern.toList replacement.toList 0 text.toList)

end Replacement

section Lines

/-- The line that was read back to front in `reversed`, less a carriage return at its end. -/
def endedLine (reversed : List Char) : List Char :=
  match reversed with
  | '\r' :: rest => rest.reverse
  | other => other.reverse

/-- The lines of the remaining characters, where `reversed` holds the current line so far, back
to front. -/
def linesFrom (reversed : List Char) : List Char → List (List Char)
  | [] => if reversed.isEmpty then [] else [reversed.reverse]
  | c :: rest =>
      if c = '\n' then endedLine reversed :: linesFrom [] rest
      else linesFrom (c :: reversed) rest

/-- The lines of `text`, without their endings. -/
def lines (text : String) : List String :=
  (linesFrom [] text.toList).map String.ofList

/-- Joins every run of empty lines into one, and drops the run at the end. -/
def squeeze : List String → List String
  | [] => []
  | line :: rest =>
      let squeezed := squeeze rest
      if line.isEmpty then
        match squeezed with
        | [] => []
        | next :: later => if next.isEmpty then squeezed else line :: next :: later
      else line :: squeezed

/-- The lines of a block with trailing blanks trimmed, each inner run of blank lines joined into
one empty line, and the blank lines at both ends dropped. -/
def logicalLines (block : String) : List String :=
  (squeeze ((lines block).map trimEnd)).dropWhile String.isEmpty

end Lines

section Digits

/-- The value of a digit of a base up to sixteen. -/
def digit? (c : Char) : Option Nat :=
  if c.isDigit then some (c.toNat - '0'.toNat)
  else if 'a' ≤ c ∧ c ≤ 'f' then some (c.toNat - 'a'.toNat + 10)
  else if 'A' ≤ c ∧ c ≤ 'F' then some (c.toNat - 'A'.toNat + 10)
  else none

/-- The number that a run of digits in a base spells. -/
def number? (base : Nat) (digits : List Char) : Option Nat :=
  if digits.isEmpty then none
  else
    digits.foldlM
      (fun value c => do
        let next ← digit? c
        if next < base then some (base * value + next) else none)
      0

/-- The number that a run of decimal digits spells, zero for the empty run. -/
def decimalNumber (digits : List Char) : Nat :=
  digits.foldl (fun value digit => 10 * value + (digit.toNat - '0'.toNat)) 0

/-- The longest run of decimal digits in front, and what follows it. -/
def spanDecimal (chars : List Char) : List Char × List Char :=
  (chars.takeWhile Char.isDigit, chars.dropWhile Char.isDigit)

/-- A sign in front, and what follows it. -/
def splitSign (chars : List Char) : Option Char × List Char :=
  match chars with
  | '+' :: rest => (some '+', rest)
  | '-' :: rest => (some '-', rest)
  | rest => (none, rest)

/-- The number that decimal digits spell, possibly after a sign. -/
def signedNumber? (chars : List Char) : Option Int :=
  let (sign, digits) := splitSign chars
  (number? 10 digits).map fun magnitude => if sign = some '-' then -(magnitude : Int) else magnitude

/-- The number that decimal digits spell, possibly after one plus sign. -/
def unsignedNumber? (chars : List Char) : Option Nat :=
  match chars with
  | '+' :: digits => number? 10 digits
  | digits => number? 10 digits

/-- The character with the given code, unless it is half of a surrogate pair. -/
def charOfCode? (code : Nat) : Option Char :=
  if code.isValidChar then some (Char.ofNat code) else none

end Digits

end Text

end OptionCompiler
