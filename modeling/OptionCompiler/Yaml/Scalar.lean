import OptionCompiler.Binary64
import OptionCompiler.Text
/-!
# What a plain scalar means

A scalar without quotes stands for null, a truth value, a number or a text, whichever its
spelling allows. Whole numbers have an optional sign and may be written in the bases two, eight
and sixteen. Digits with a zero in front are a text, so that no one takes them for octal. Numbers
with a point or an exponent are floating point numbers while they are finite, and the infinities
and the lack of a number have names of their own.
-/

namespace OptionCompiler

namespace Yaml

/-- How a scalar is written, as far as its meaning depends on it. -/
inductive ScalarForm where
  | plain
  /-- A block that keeps its line breaks. -/
  | literal
  /-- Between quotes, or a block whose lines are joined. -/
  | quoted
deriving DecidableEq, Repr

/-- What a plain scalar means. -/
inductive PlainValue where
  | null
  | bool (value : Bool)
  | integer (value : Int)
  | float (value : Binary64)
  | text
deriving DecidableEq, Repr

/-- The spellings of null, the empty one aside. -/
def nullSpellings : List String :=
  ["~", "null", "Null", "NULL"]

def spellsNull (text : String) : Bool :=
  text.isEmpty || nullSpellings.contains text

/-- The truth value that a scalar spells. -/
def spelledBool? (text : String) : Option Bool :=
  if ["true", "True", "TRUE"].contains text then some true
  else if ["false", "False", "FALSE"].contains text then some false
  else none

namespace PlainValue

/-- A magnitude with its base in front, where decimal digits have none. -/
def based? (chars : List Char) : Option Nat :=
  match chars with
  | '0' :: 'x' :: digits => Text.number? 16 digits
  | '0' :: 'o' :: digits => Text.number? 8 digits
  | '0' :: 'b' :: digits => Text.number? 2 digits
  | digits => Text.number? 10 digits

/-- Whether a scalar is decimal digits that begin with a zero and are more than one. -/
def hasLeadingZero (chars : List Char) : Bool :=
  match (Text.splitSign chars).2 with
  | '0' :: second :: rest => (second :: rest).all Char.isDigit
  | _ => false

/-- The whole number that a scalar spells, if it fits into 128 bits. -/
def integer? (chars : List Char) : Option Int :=
  if hasLeadingZero chars then none
  else
    let (sign, unsigned) := Text.splitSign chars
    match based? unsigned with
    | none => none
    | some magnitude =>
        if sign = some '-' then
          if magnitude ≤ 2 ^ 127 then some (-(magnitude : Int)) else none
        else if magnitude < 2 ^ 128 then some magnitude
        else none

/-- The exponent at the end of a decimal, zero if there is none. -/
def exponent? : List Char → Option Int
  | [] => some 0
  | mark :: rest => if mark = 'e' ∨ mark = 'E' then Text.signedNumber? rest else none

/-- The decimal that unsigned characters spell: digits on either side of the point, or on both. -/
def decimal? (chars : List Char) : Option Decimal :=
  let (whole, rest) := Text.spanDecimal chars
  let (fraction, rest) :=
    match rest with
    | '.' :: afterPoint => Text.spanDecimal afterPoint
    | other => ([], other)
  if whole.isEmpty && fraction.isEmpty then none
  else
    (exponent? rest).map fun exponent =>
      ⟨Text.decimalNumber (whole ++ fraction), exponent - fraction.length⟩

/-- The spellings of infinity without a sign. -/
def infinitySpellings : List String :=
  [".inf", ".Inf", ".INF"]

def notANumberSpellings : List String :=
  [".nan", ".NaN", ".NAN"]

/-- The floating point number that a scalar spells. -/
def float? (text : String) : Option Binary64 :=
  let (sign, unsigned) := Text.splitSign text.toList
  if infinitySpellings.contains (String.ofList unsigned) then
    some (if sign = some '-' then Binary64.negativeInfinity else Binary64.infinity)
  else if notANumberSpellings.contains text then some Binary64.notANumber
  else
    match decimal? unsigned with
    | some decimal => Binary64.nearest? (sign == some '-') decimal
    | none => none

/-- What a scalar means when it stands without quotes. -/
def ofText (text : String) : PlainValue :=
  if spellsNull text then .null
  else
    match spelledBool? text with
    | some value => .bool value
    | none =>
        match integer? text.toList with
        | some value => .integer value
        | none =>
            if hasLeadingZero text.toList then .text
            else
              match float? text with
              | some value => .float value
              | none => .text

end PlainValue

end Yaml

end OptionCompiler
