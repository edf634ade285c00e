import OptionCompiler.Binary64
/-!
# Decimal notation of floating point numbers

The decimals that round to a finite number form an interval around it, whose ends belong to it
exactly when the significand is even. Among the grids of multiples of a power of ten, the
coarsest one with a point in the interval gives the fewest digits, and of two such points the
nearer one is chosen, on a tie the even one. Lengths are measured in quarters of the smallest
positive number, so that half the distance to a neighbour is always a whole count.

A finite number is written with its shortest digits. The positional form always has a fraction
digit; the scientific form has a signed exponent without padding and a point only between
digits. A small record says where one form ends and the other begins.
-/

namespace OptionCompiler

section Shortest

/-- The numbers that round to one floating point number, in quarters of the smallest unit. -/
structure RoundingInterval where
  low : Nat
  centre : Nat
  high : Nat
  closed : Bool
deriving DecidableEq, Repr

namespace RoundingInterval

/-- The interval of a finite number. Below a power of two the neighbours are closer. -/
def of (x : Binary64) : RoundingInterval :=
  let unit := 2 ^ x.scale
  let centre := 4 * x.significand * unit
  let below := if x.significand = 2 ^ 52 ∧ 0 < x.scale then unit else 2 * unit
  { low := centre - below
    centre := centre
    high := centre + 2 * unit
    closed := x.significand % 2 = 0 }

/-- Whether `numerator / denominator` quarter units lie in the interval. -/
def contains (interval : RoundingInterval) (numerator denominator : Nat) : Bool :=
  let low := interval.low * denominator
  let high := interval.high * denominator
  if interval.closed then low ≤ numerator && numerator ≤ high
  else low < numerator && numerator < high

end RoundingInterval

/-- The multiples of `10 ^ exponent`, where one step is `step / denominator` quarter units. -/
structure DecimalGrid where
  exponent : Int
  step : Nat
  denominator : Nat
deriving DecidableEq, Repr

namespace DecimalGrid

def ofExponent (exponent : Int) : DecimalGrid :=
  if 0 ≤ exponent then ⟨exponent, 10 ^ exponent.toNat * 2 ^ 1076, 1⟩
  else ⟨exponent, 2 ^ 1076, 10 ^ (-exponent).toNat⟩

/-- The multiple that the grid offers for an interval: of the two around the centre the one that
lies in the interval, or the nearer one if both do. -/
def pick? (grid : DecimalGrid) (interval : RoundingInterval) : Option Nat :=
  let centre := interval.centre * grid.denominator
  let lower := centre / grid.step
  let upper := lower + 1
  let lowerFits := interval.contains (lower * grid.step) grid.denominator
  let upperFits := interval.contains (upper * grid.step) grid.denominator
  if lowerFits && upperFits then
    let down := centre - lower * grid.step
    let up := upper * grid.step - centre
    if down < up ∨ (down = up ∧ lower % 2 = 0) then some lower else some upper
  else if lowerFits then some lower
  else if upperFits then some upper
  else none

/-- The first grid with a point in the interval, from `exponent` downwards over `count` grids. -/
def search? (interval : RoundingInterval) (exponent : Int) : Nat → Option Decimal
  | 0 => none
  | count + 1 =>
      match (ofExponent exponent).pick? interval with
      | some digits => some ⟨digits, exponent⟩
      | none => search? interval (exponent - 1) count

end DecimalGrid

namespace Binary64

/-- A power of ten above the magnitude of `x`: the logarithm to base two times `log10 2`. -/
def leadingExponent (x : Binary64) : Int :=
  ((RoundingInterval.of x).centre.log2 - 1075 : Int) * 30103 / 100000 + 1

/-- The decimal that equals the magnitude of `x`. -/
def exactDecimal (x : Binary64) : Decimal :=
  ⟨x.significand * 2 ^ x.scale * 5 ^ 1074, -1074⟩

/-- The shortest decimal that rounds to the magnitude of a finite `x`. Twenty-one grids reach
from the leading digit past the seventeenth, where every interval holds a point. -/
def shortest (x : Binary64) : Decimal :=
  if x.significand = 0 then ⟨0, 0⟩
  else
    ((DecimalGrid.search? (RoundingInterval.of x) x.leadingExponent 21).getD x.exactDecimal)

end Binary64

end Shortest

section Notation

/-- Which decimal exponents are written positionally. -/
structure PositionalRange where
  least : Int
  greatest : Int
deriving DecidableEq, Repr

/-- Written documents use the positional form from 0.00001 up to 16 whole digits. -/
def documentRange : PositionalRange := ⟨-5, 15⟩

namespace Decimal

/-- The exponent of the leading digit. -/
def leading (decimal : Decimal) : Int :=
  decimal.exponent + decimal.length - 1

/-- The digits with a point at their place, and at least one digit on each side of it. -/
def positional (decimal : Decimal) : List Char :=
  let digits := Nat.toDigits 10 decimal.digits
  if 0 ≤ decimal.exponent then
    digits ++ List.replicate decimal.exponent.toNat '0' ++ ['.', '0']
  else if 0 ≤ decimal.leading then
    digits.take (decimal.leading + 1).toNat ++ '.' :: digits.drop (decimal.leading + 1).toNat
  else
    ['0', '.'] ++ List.replicate (-decimal.leading - 1).toNat '0' ++ digits

/-- One digit, the others after a point, and the exponent of the leading digit. -/
def scientific (decimal : Decimal) : List Char :=
  let mantissa :=
    match Nat.toDigits 10 decimal.digits with
    | first :: second :: rest => first :: '.' :: second :: rest
    | single => single
  let sign := if decimal.leading < 0 then '-' else '+'
  mantissa ++ 'e' :: sign :: Nat.toDigits 10 decimal.leading.natAbs

/-- The positional form within the range, the scientific form outside it. -/
def notated (decimal : Decimal) (range : PositionalRange) : List Char :=
  if range.least ≤ decimal.leading ∧ decimal.leading ≤ range.greatest then decimal.positional
  else decimal.scientific

end Decimal

namespace Binary64

/-- The text of a finite number. -/
def text (x : Binary64) : List Char :=
  let magnitude := x.shortest.notated documentRange
  if x.isNegative then '-' :: magnitude else magnitude

end Binary64

end Notation

end OptionCompiler
