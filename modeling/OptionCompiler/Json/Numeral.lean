import OptionCompiler.Binary64
import OptionCompiler.Json
import OptionCompiler.Text
/-!
# Numerals

Numbers as they are written in the JSON data format, and their values. Digits alone are a whole
number while they fit into 64 bits; every other numeral is a floating point number.

The value of such a numeral is found in two roundings. Its leading digits, as many as fit into 64
bits, are a whole number that is rounded to a floating point number, and that one is scaled by the
power of ten that remains. So the value of a long numeral may lie next to the nearest number.
-/

namespace OptionCompiler

namespace Json

/-- A number as it is written: sign, whole digits, fraction digits and exponent. -/
structure Numeral where
  negative : Bool
  whole : List Char
  fraction : Option (List Char)
  exponent : Option Int
deriving DecidableEq, Repr

namespace Numeral

/-- What may follow the whole digits and the fraction: nothing or an exponent. -/
def finish? (negative : Bool) (whole : List Char) (fraction : Option (List Char)) :
    List Char → Option Numeral
  | [] => some ⟨negative, whole, fraction, none⟩
  | mark :: rest =>
      if mark = 'e' ∨ mark = 'E' then
        (Text.signedNumber? rest).map fun exponent => ⟨negative, whole, fraction, some exponent⟩
      else none

def parse? (word : List Char) : Option Numeral :=
  let (negative, unsigned) :=
    match word with
    | '-' :: rest => (true, rest)
    | other => (false, other)
  let (whole, rest) := Text.spanDecimal unsigned
  if whole.isEmpty || (whole.head? == some '0' && 1 < whole.length) then none
  else
    match rest with
    | '.' :: afterPoint =>
        let (fraction, rest) := Text.spanDecimal afterPoint
        if fraction.isEmpty then none else finish? negative whole (some fraction) rest
    | other => finish? negative whole none other

/-- The leading digits of a run, read after those that `number` holds, while the number fits into
64 bits, and how many digits are left over. -/
def leadingDigits (number : Nat) : List Char → Nat × Nat
  | [] => (number, 0)
  | c :: rest =>
      let longer := number * 10 + Text.decimalNumber [c]
      if longer < 2 ^ 64 then leadingDigits longer rest else (number, rest.length + 1)

/-- The leading digits of the numeral, and the power of ten that they count. Whole digits that are
left over raise the power, fraction digits that are left over have no effect. -/
def leading (numeral : Numeral) : Decimal :=
  let fraction := numeral.fraction.getD []
  let (whole, dropped) := leadingDigits 0 numeral.whole
  let (digits, ignored) := leadingDigits whole fraction
  ⟨digits, numeral.exponent.getD 0 + dropped - (fraction.length - ignored : Nat)⟩

/-- The floating point number that the numeral stands for, or nothing when that is past the finite
numbers. -/
def binary64? (numeral : Numeral) : Option Binary64 :=
  let leading := numeral.leading
  (Binary64.nearest? numeral.negative ⟨leading.digits, 0⟩).bind (·.scaled? leading.exponent)

/-- The whole number that the numeral stands for, if it is one. Negative zero is none. -/
def integer? (numeral : Numeral) : Option Int :=
  let magnitude : Int := Text.decimalNumber numeral.whole
  if numeral.fraction.isSome || numeral.exponent.isSome then none
  else if numeral.negative then
    if 0 < magnitude ∧ magnitude ≤ 2 ^ 63 then some (-magnitude) else none
  else if magnitude < 2 ^ 64 then some magnitude
  else none

def value? (numeral : Numeral) : Option Json :=
  match numeral.integer? with
  | some value => some (.integer value)
  | none => numeral.binary64?.map .float

end Numeral

end Json

end OptionCompiler
