/-!
# Binary64 floating point numbers

A floating point number is its 64 bits, so two numbers are equal exactly when their bits are:
zero differs from negative zero, and a number that is not a number equals itself.

The magnitude of a finite number is a whole count of `2 ^ -1074`, the smallest positive number:
`significand * 2 ^ scale` of them. All arithmetic on magnitudes is arithmetic on such counts.

A decimal is rounded to the nearest floating point number, and a tie goes to the even
significand. A decimal that would round past the largest finite number has no nearest one. A
product or a quotient of two finite numbers is rounded once, from its exact value. Repeated
rounding is how a number is scaled by a power of ten: the power is rounded before the product is,
so the result is not always the number nearest to the exact one.
-/

namespace OptionCompiler

-- A power is the one of its own number type, however many monoids a module knows about.
attribute [instance (high), default_instance 20000] instPowNat

/-- A floating point number in the 64-bit binary format. -/
structure Binary64 where
  bits : UInt64
deriving DecidableEq, Repr

namespace Binary64

/-- Whether the sign bit is set. -/
def isNegative (x : Binary64) : Bool :=
  2 ^ 63 ≤ x.bits.toNat

/-- The eleven exponent bits. -/
def exponentField (x : Binary64) : Nat :=
  x.bits.toNat / 2 ^ 52 % 2 ^ 11

/-- The fifty-two fraction bits. -/
def fractionField (x : Binary64) : Nat :=
  x.bits.toNat % 2 ^ 52

/-- Neither an infinity nor a number that is not a number. -/
def isFinite (x : Binary64) : Bool :=
  x.exponentField ≠ 2047

/-- The fraction with the leading bit that a normal number leaves out. -/
def significand (x : Binary64) : Nat :=
  if x.exponentField = 0 then x.fractionField else 2 ^ 52 + x.fractionField

/-- The unit of the significand is `2 ^ scale` times the smallest positive number. -/
def scale (x : Binary64) : Nat :=
  x.exponentField - 1

/-- The number with the given sign whose magnitude is `significand * 2 ^ scale` smallest units,
where the significand has fifty-three bits unless the scale is zero. -/
def ofParts (negative : Bool) (significand scale : Nat) : Binary64 :=
  ⟨UInt64.ofNat ((if negative then 2 ^ 63 else 0) + scale * 2 ^ 52 + significand)⟩

def infinity : Binary64 := ⟨0x7FF0000000000000⟩

def negativeInfinity : Binary64 := ⟨0xFFF0000000000000⟩

/-- The quiet number that is not a number, with the sign bit clear. -/
def notANumber : Binary64 := ⟨0x7FF8000000000000⟩

end Binary64

section Rounding

/-- The number `digits * 10 ^ exponent`. -/
structure Decimal where
  digits : Nat
  exponent : Int
deriving DecidableEq, Repr

namespace Decimal

/-- How many decimal digits `digits` has. -/
def length (decimal : Decimal) : Nat :=
  (Nat.toDigits 10 decimal.digits).length

end Decimal

/-- The whole number nearest to `numerator / denominator`, a tie going to the even one. -/
def roundHalfEven (numerator denominator : Nat) : Nat :=
  let quotient := numerator / denominator
  let rest := 2 * (numerator % denominator)
  if rest < denominator then quotient
  else if denominator < rest then quotient + 1
  else quotient + quotient % 2

namespace Binary64

/-- The number nearest to `numerator / denominator` smallest units, or nothing when that is past
the finite numbers. -/
def nearestUnits? (negative : Bool) (numerator denominator : Nat) : Option Binary64 :=
  let scale := (numerator / denominator).log2 - 52
  let significand := roundHalfEven numerator (denominator * 2 ^ scale)
  if scale * 2 ^ 52 + significand < 2047 * 2 ^ 52 then
    some (ofParts negative significand scale)
  else none

/-- The number nearest to `decimal`, or nothing when that is past the finite numbers. The two
tests on the order of magnitude decide the extreme cases without their huge powers of ten. -/
def nearest? (negative : Bool) (decimal : Decimal) : Option Binary64 :=
  if decimal.digits = 0 then some (ofParts negative 0 0)
  else if 310 < decimal.length + decimal.exponent then none
  else if decimal.length + decimal.exponent < -330 then some (ofParts negative 0 0)
  else if 0 ≤ decimal.exponent then
    nearestUnits? negative (decimal.digits * 10 ^ decimal.exponent.toNat * 2 ^ 1074) 1
  else
    nearestUnits? negative (decimal.digits * 2 ^ 1074) (10 ^ (-decimal.exponent).toNat)

end Binary64

end Rounding

section Scaling

namespace Binary64

/-- The magnitude of a finite number in smallest units. -/
def units (x : Binary64) : Nat :=
  x.significand * 2 ^ x.scale

/-- The number nearest to the product of two finite numbers, or nothing when that is past the
finite numbers. -/
def times? (x y : Binary64) : Option Binary64 :=
  nearestUnits? (x.isNegative != y.isNegative) (x.units * y.units) (2 ^ 1074)

/-- The number nearest to the quotient of two finite numbers, or nothing when that is past the
finite numbers. -/
def over? (x y : Binary64) : Option Binary64 :=
  nearestUnits? (x.isNegative != y.isNegative) (x.units * 2 ^ 1074) y.units

/-- The greatest power of ten among the finite numbers. -/
def greatestPower : Nat := 308

/-- The number nearest to a power of ten. -/
def powerOfTen (exponent : Nat) : Binary64 :=
  (nearest? false ⟨1, exponent⟩).getD infinity

/-- A finite number divided by the greatest power of ten again and again, while it is not zero. -/
def shrunk? (x : Binary64) : Nat → Option Binary64
  | 0 => some x
  | steps + 1 =>
      if x.significand = 0 then some x
      else (x.over? (powerOfTen greatestPower)).bind fun smaller => smaller.shrunk? steps

/-- A finite number times a power of ten, each step rounded, or nothing when that is past the
finite numbers. A number is divided in several steps where one power of ten is not enough. -/
def scaled? (x : Binary64) (exponent : Int) : Option Binary64 :=
  let power := exponent.natAbs
  if exponent < 0 then
    let steps := (power - 1) / greatestPower
    (x.shrunk? steps).bind (·.over? (powerOfTen (power - steps * greatestPower)))
  else if power ≤ greatestPower then x.times? (powerOfTen power)
  else if x.significand = 0 then some x
  else none

end Binary64

end Scaling

end OptionCompiler
