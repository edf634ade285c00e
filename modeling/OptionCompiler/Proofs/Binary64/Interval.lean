import Mathlib
import OptionCompiler.Binary64.Notation
/-!
# Rounding intervals

The numbers that round to one floating point number form an interval, and the intervals of
different magnitudes do not meet. The magnitudes are counted by `index`, the bits without the
sign: the upper end of each interval is the lower end of the next one, and of two neighbours
exactly one has an even significand and takes the common end.

The shortest decimal of a number lies in the interval of the number. So it determines the
magnitude, however the decimal was searched for.
-/

namespace OptionCompiler

namespace Decimal

/-- The number that a decimal is. -/
def value (decimal : Decimal) : ℚ :=
  decimal.digits * 10 ^ decimal.exponent

end Decimal

namespace Binary64

/-- The place of a magnitude among all magnitudes: the bits without the sign. -/
def index (x : Binary64) : ℕ :=
  x.bits.toNat % 2 ^ 63

theorem index_eq (x : Binary64) : x.index = x.exponentField * 2 ^ 52 + x.fractionField := by
  simp only [index, exponentField, fractionField]
  omega

theorem fractionField_lt (x : Binary64) : x.fractionField < 2 ^ 52 :=
  Nat.mod_lt _ (by decide)

/-- A number is its sign and the index of its magnitude. -/
theorem ext_of_index {x y : Binary64} (signs : x.isNegative = y.isNegative)
    (indices : x.index = y.index) : x = y := by
  have bounded (z : Binary64) : z.bits.toNat < 2 ^ 64 := z.bits.toNat_lt
  have xBounded := bounded x
  have yBounded := bounded y
  have sameSide : 2 ^ 63 ≤ x.bits.toNat ↔ 2 ^ 63 ≤ y.bits.toNat := by
    simpa [isNegative] using signs
  have bits : x.bits.toNat = y.bits.toNat := by
    simp only [index] at indices
    omega
  cases x
  cases y
  simpa [UInt64.toNat_inj] using bits

end Binary64

namespace RoundingInterval

/-- The significand of the magnitude with the given index. -/
def significandAt (index : ℕ) : ℕ :=
  if index / 2 ^ 52 = 0 then index % 2 ^ 52 else 2 ^ 52 + index % 2 ^ 52

/-- The unit of the significand of the magnitude with the given index. -/
def unitAt (index : ℕ) : ℕ :=
  2 ^ (index / 2 ^ 52 - 1)

/-- The upper end of the interval of the magnitude with the given index. -/
def upperEnd (index : ℕ) : ℕ :=
  4 * significandAt index * unitAt index + 2 * unitAt index

theorem unitAt_pos (index : ℕ) : 0 < unitAt index :=
  Nat.pow_pos (by decide)

/-- The unit doubles with the exponent, but the least two exponents share their unit. -/
theorem unitAt_succ (index : ℕ) :
    unitAt (index + 1) =
      if (index + 1) % 2 ^ 52 = 0 ∧ 1 < (index + 1) / 2 ^ 52 then 2 * unitAt index
      else unitAt index := by
  unfold unitAt
  split
  · next doubled =>
      have exponent : (index + 1) / 2 ^ 52 - 1 = index / 2 ^ 52 - 1 + 1 := by omega
      rw [exponent, pow_succ, Nat.mul_comm]
  · next shared =>
      have exponent : (index + 1) / 2 ^ 52 - 1 = index / 2 ^ 52 - 1 := by omega
      rw [exponent]

/-- The next magnitude lies half a unit of its predecessor above the end between them. -/
theorem centre_succ (index : ℕ) :
    4 * significandAt (index + 1) * unitAt (index + 1) = upperEnd index + 2 * unitAt index := by
  have unit := unitAt_succ index
  by_cases doubled : (index + 1) % 2 ^ 52 = 0 ∧ 1 < (index + 1) / 2 ^ 52
  · have last : significandAt index = 2 ^ 53 - 1 := by unfold significandAt; split <;> omega
    have first : significandAt (index + 1) = 2 ^ 52 := by unfold significandAt; split <;> omega
    rw [if_pos doubled] at unit
    rw [upperEnd, unit, last, first]
    omega
  · have next : significandAt (index + 1) = significandAt index + 1 := by
      unfold significandAt
      split <;> split <;> omega
    rw [if_neg doubled] at unit
    rw [upperEnd, unit, next]
    ring

theorem upperEnd_strictMono : StrictMono upperEnd := by
  refine strictMono_nat_of_lt_succ fun index => ?_
  have centre := centre_succ index
  have unit := unitAt_pos (index + 1)
  simp only [upperEnd] at centre ⊢
  omega

theorem significandAt_index (x : Binary64) : significandAt x.index = x.significand := by
  have fraction := x.fractionField_lt
  have exponent : x.index / 2 ^ 52 = x.exponentField := by rw [x.index_eq]; omega
  have rest : x.index % 2 ^ 52 = x.fractionField := by rw [x.index_eq]; omega
  simp only [significandAt, exponent, rest, Binary64.significand]

theorem unitAt_index (x : Binary64) : unitAt x.index = 2 ^ x.scale := by
  have fraction := x.fractionField_lt
  have exponent : x.index / 2 ^ 52 = x.exponentField := by rw [x.index_eq]; omega
  simp only [unitAt, exponent, Binary64.scale]

theorem high_of (x : Binary64) : (of x).high = upperEnd x.index := by
  simp only [of, upperEnd, significandAt_index, unitAt_index]

theorem low_of_index_zero {x : Binary64} (zero : x.index = 0) : (of x).low = 0 := by
  have significand : x.significand = 0 := by rw [← significandAt_index, zero]; rfl
  simp [of, significand]

/-- The lower end of an interval is the upper end of the one before it. -/
theorem low_of_index_succ {x : Binary64} {index : ℕ} (next : x.index = index + 1) :
    (of x).low = upperEnd index := by
  have centre := centre_succ index
  have unit := unitAt_succ index
  have isPower : x.significand = 2 ^ 52 ∧ 0 < x.scale ↔
      (index + 1) % 2 ^ 52 = 0 ∧ 1 < (index + 1) / 2 ^ 52 := by
    have fraction := x.fractionField_lt
    rw [← next, x.index_eq, Binary64.significand, Binary64.scale]
    split <;> omega
  rw [← next, significandAt_index, unitAt_index] at centre
  rw [← next, unitAt_index, next] at unit
  simp only [of, isPower]
  by_cases power : (index + 1) % 2 ^ 52 = 0 ∧ 1 < (index + 1) / 2 ^ 52
  · rw [if_pos power] at unit ⊢
    omega
  · rw [if_neg power] at unit ⊢
    omega

/-- Exactly the even magnitudes take the ends of their intervals. -/
theorem closed_of_iff (x : Binary64) : (of x).closed = true ↔ x.index % 2 = 0 := by
  have index := x.index_eq
  change decide (x.significand % 2 = 0) = true ↔ x.index % 2 = 0
  rw [decide_eq_true_iff, Binary64.significand]
  split <;> omega

/-- Whether a length lies in an interval. -/
def Encloses (interval : RoundingInterval) (length : ℚ) : Prop :=
  if interval.closed then interval.low ≤ length ∧ length ≤ interval.high
  else interval.low < length ∧ length < interval.high

theorem encloses_of_contains {interval : RoundingInterval} {numerator denominator : ℕ}
    (positive : 0 < denominator) (inside : interval.contains numerator denominator = true) :
    interval.Encloses (numerator / denominator) := by
  have positive' : (0 : ℚ) < denominator := by exact_mod_cast positive
  unfold contains at inside
  unfold Encloses
  by_cases closed : interval.closed = true
  · rw [if_pos closed] at inside ⊢
    rw [le_div_iff₀ positive', div_le_iff₀ positive']
    simp only [Bool.and_eq_true, decide_eq_true_eq] at inside
    exact_mod_cast inside
  · rw [if_neg closed] at inside ⊢
    rw [lt_div_iff₀ positive', div_lt_iff₀ positive']
    simp only [Bool.and_eq_true, decide_eq_true_eq] at inside
    exact_mod_cast inside

theorem low_le_of_encloses {interval : RoundingInterval} {length : ℚ}
    (inside : interval.Encloses length) : interval.low ≤ length := by
  unfold Encloses at inside
  split at inside
  · exact inside.1
  · exact inside.1.le

theorem le_high_of_encloses {interval : RoundingInterval} {length : ℚ}
    (inside : interval.Encloses length) : length ≤ interval.high := by
  unfold Encloses at inside
  split at inside
  · exact inside.2
  · exact inside.2.le

theorem closed_of_encloses_low {interval : RoundingInterval}
    (inside : interval.Encloses interval.low) : interval.closed = true := by
  unfold Encloses at inside
  split at inside
  · assumption
  · exact absurd inside.1 (lt_irrefl _)

theorem closed_of_encloses_high {interval : RoundingInterval}
    (inside : interval.Encloses interval.high) : interval.closed = true := by
  unfold Encloses at inside
  split at inside
  · assumption
  · exact absurd inside.2 (lt_irrefl _)

theorem not_index_lt_of_encloses {x y : Binary64} {length : ℚ}
    (inX : (of x).Encloses length) (inY : (of y).Encloses length) : ¬x.index < y.index := by
  intro less
  rcases Nat.exists_eq_succ_of_ne_zero (Nat.ne_zero_of_lt less) with ⟨before, next⟩
  have lowY : (of y).low = upperEnd before := low_of_index_succ next
  have highX : (of x).high = upperEnd x.index := high_of x
  have ordered : upperEnd x.index ≤ upperEnd before :=
    upperEnd_strictMono.monotone (by omega)
  have fromX := le_high_of_encloses inX
  have fromY := low_le_of_encloses inY
  have ordered' : ((of x).high : ℚ) ≤ (of y).low := by
    rw [highX, lowY]
    exact_mod_cast ordered
  have atHigh : length = (of x).high := le_antisymm fromX (ordered'.trans fromY)
  have atLow : length = (of y).low := le_antisymm (fromX.trans ordered') fromY
  -- The ends meet, so the two magnitudes are neighbours and only one of them is even.
  have meet : upperEnd x.index = upperEnd before := by
    rw [← highX, ← lowY]
    exact_mod_cast atHigh.symm.trans atLow
  have neighbours : x.index = before := upperEnd_strictMono.injective meet
  have evenX := (closed_of_iff x).mp (closed_of_encloses_high (atHigh ▸ inX))
  have evenY := (closed_of_iff y).mp (closed_of_encloses_low (atLow ▸ inY))
  omega

/-- A length lies in the intervals of no two magnitudes. -/
theorem index_eq_of_encloses {x y : Binary64} {length : ℚ}
    (inX : (of x).Encloses length) (inY : (of y).Encloses length) : x.index = y.index :=
  Nat.le_antisymm (Nat.le_of_not_lt (not_index_lt_of_encloses inY inX))
    (Nat.le_of_not_lt (not_index_lt_of_encloses inX inY))

theorem encloses_centre {x : Binary64} (positive : 0 < x.significand) :
    (of x).Encloses (of x).centre := by
  have unit : 0 < 2 ^ x.scale := Nat.pow_pos (by decide)
  have centre : 4 * 2 ^ x.scale ≤ 4 * x.significand * 2 ^ x.scale :=
    Nat.mul_le_mul_right _ (by omega)
  have low : (of x).low < (of x).centre := by
    simp only [of]
    split <;> omega
  have high : (of x).centre < (of x).high := by
    simp only [of]
    omega
  unfold Encloses
  split
  · exact ⟨by exact_mod_cast low.le, by exact_mod_cast high.le⟩
  · exact ⟨by exact_mod_cast low, by exact_mod_cast high⟩

end RoundingInterval

namespace DecimalGrid

theorem ofExponent_denominator_pos (exponent : ℤ) : 0 < (ofExponent exponent).denominator := by
  unfold ofExponent
  split
  · exact Nat.one_pos
  · exact Nat.pow_pos (by decide)

/-- A multiple on a grid, in quarters of the smallest unit. -/
theorem value_mul_quarters (digits : ℕ) (exponent : ℤ) :
    (Decimal.mk digits exponent).value * 2 ^ 1076 =
      (digits * (ofExponent exponent).step : ℕ) / ((ofExponent exponent).denominator : ℕ) := by
  unfold ofExponent Decimal.value
  generalize 1076 = quarters
  by_cases whole : 0 ≤ exponent
  · rcases Int.eq_ofNat_of_zero_le whole with ⟨power, rfl⟩
    rw [if_pos whole]
    push_cast
    simp only [Int.toNat_natCast, zpow_natCast, div_one]
    ring
  · obtain ⟨power, rfl⟩ : ∃ power : ℕ, exponent = -power := ⟨(-exponent).toNat, by omega⟩
    rw [if_neg whole]
    push_cast
    simp only [neg_neg, Int.toNat_natCast, zpow_neg, zpow_natCast]
    ring

/-- What a grid offers for an interval lies in the interval. -/
theorem encloses_of_pick {interval : RoundingInterval} {exponent : ℤ} {digits : ℕ}
    (picked : (ofExponent exponent).pick? interval = some digits) :
    interval.Encloses ((Decimal.mk digits exponent).value * 2 ^ 1076) := by
  have inside : interval.contains (digits * (ofExponent exponent).step)
      (ofExponent exponent).denominator = true := by
    unfold pick? at picked
    grind
  rw [value_mul_quarters]
  exact RoundingInterval.encloses_of_contains (ofExponent_denominator_pos exponent) inside

theorem encloses_of_search {interval : RoundingInterval} {decimal : Decimal} {count : ℕ} :
    ∀ {exponent : ℤ}, search? interval exponent count = some decimal →
      interval.Encloses (decimal.value * 2 ^ 1076) := by
  induction count with
  | zero => intro exponent found; cases found
  | succ count ih =>
      intro exponent found
      unfold search? at found
      split at found
      · next digits picked =>
          cases found
          exact encloses_of_pick picked
      · exact ih found

end DecimalGrid

namespace Binary64

theorem exactDecimal_value_mul (x : Binary64) :
    x.exactDecimal.value * 2 ^ 1076 = (RoundingInterval.of x).centre := by
  have centre : ((RoundingInterval.of x).centre : ℚ) = 4 * x.significand * 2 ^ x.scale := by
    simp only [RoundingInterval.of]
    push_cast
    rfl
  have exponents : (-1074 : ℤ) = -((1074 : ℕ) : ℤ) ∧ 1076 = 1074 + 2 := ⟨rfl, rfl⟩
  rw [centre, exactDecimal, exponents.1, exponents.2]
  generalize 1074 = power
  have tens : (10 : ℚ) ^ power = 5 ^ power * 2 ^ power := by rw [← mul_pow]; norm_num
  unfold Decimal.value
  push_cast
  rw [zpow_neg, zpow_natCast, tens, pow_add]
  field_simp
  ring

theorem index_eq_zero_of_significand {x : Binary64} (zero : x.significand = 0) : x.index = 0 := by
  have index := x.index_eq
  unfold significand at zero
  split at zero
  · omega
  · omega

/-- The shortest decimal of a number lies in the interval of the number. -/
theorem encloses_shortest (x : Binary64) :
    (RoundingInterval.of x).Encloses (x.shortest.value * 2 ^ 1076) := by
  unfold shortest
  by_cases zero : x.significand = 0
  · have index := index_eq_zero_of_significand zero
    have closed : (RoundingInterval.of x).closed = true := by
      rw [RoundingInterval.closed_of_iff, index]
    have low := RoundingInterval.low_of_index_zero index
    rw [if_pos zero, RoundingInterval.Encloses, if_pos closed, low, Decimal.value]
    simp
  · rw [if_neg zero]
    cases found : DecimalGrid.search? (RoundingInterval.of x) x.leadingExponent 21 with
    | some decimal => exact DecimalGrid.encloses_of_search found
    | none =>
        rw [Option.getD_none, exactDecimal_value_mul]
        exact RoundingInterval.encloses_centre (Nat.pos_of_ne_zero zero)

/-- Numbers of different magnitudes have different shortest decimals. -/
theorem index_eq_of_shortest_value {x y : Binary64}
    (equal : x.shortest.value = y.shortest.value) : x.index = y.index := by
  have inY := y.encloses_shortest
  rw [← equal] at inY
  exact RoundingInterval.index_eq_of_encloses x.encloses_shortest inY

end Binary64

end OptionCompiler
