import Mathlib
import OptionCompiler.Binary64.Notation
import OptionCompiler.Proofs.Binary64.Interval
import OptionCompiler.Text
/-!
# Reading the notation of floating point numbers

The text of a decimal spells the decimal: `spelledNumber` reads the digits with their point and
the exponent back. The shortest decimal of a floating point number determines its magnitude, so
different numbers have different texts.

A text has a point or an exponent, so it is the text of no whole number.
-/

namespace OptionCompiler

namespace Decimal

/-- The number that digits with a point among them spell. -/
def mantissaNumber (mantissa : List Char) : ℚ :=
  let fraction := (mantissa.dropWhile (· ≠ '.')).tail
  Text.decimalNumber (mantissa.filter Char.isDigit) * 10 ^ (-fraction.length : ℤ)

/-- The number that digits after a sign spell, zero for nothing. -/
def exponentNumber : List Char → ℤ
  | '-' :: digits => -Text.decimalNumber digits
  | '+' :: digits => Text.decimalNumber digits
  | _ => 0

/-- The number that a mantissa, or a mantissa with an exponent, spells. -/
def spelledNumber (word : List Char) : ℚ :=
  mantissaNumber (word.takeWhile (· ≠ 'e')) *
    10 ^ exponentNumber (word.dropWhile (· ≠ 'e')).tail

/-- Whether all characters are decimal digits. -/
def AllDigits (word : List Char) : Prop :=
  ∀ c ∈ word, c.isDigit = true

theorem allDigits_toDigits (number : ℕ) : AllDigits (Nat.toDigits 10 number) :=
  fun _ member => Nat.isDigit_of_mem_toDigits (by decide) (by decide) member

theorem allDigits_zeros (count : ℕ) : AllDigits (List.replicate count '0') := by
  intro c member
  rw [List.eq_of_mem_replicate member]
  rfl

theorem AllDigits.append {first second : List Char} (left : AllDigits first)
    (right : AllDigits second) : AllDigits (first ++ second) := by
  intro c member
  rcases List.mem_append.mp member with member | member
  · exact left c member
  · exact right c member

theorem AllDigits.take {word : List Char} (digits : AllDigits word) (count : ℕ) :
    AllDigits (word.take count) :=
  fun c member => digits c (List.mem_of_mem_take member)

theorem AllDigits.drop {word : List Char} (digits : AllDigits word) (count : ℕ) :
    AllDigits (word.drop count) :=
  fun c member => digits c (List.mem_of_mem_drop member)

theorem AllDigits.filter_eq {word : List Char} (digits : AllDigits word) :
    word.filter Char.isDigit = word :=
  List.filter_eq_self.mpr digits

theorem decimalNumber_toDigits (number : ℕ) :
    Text.decimalNumber (Nat.toDigits 10 number) = number :=
  Nat.ofDigitChars_ten_toDigits

theorem decimalNumber_zeros_append (count : ℕ) (digits : List Char) :
    Text.decimalNumber (List.replicate count '0' ++ digits) = Text.decimalNumber digits := by
  change Nat.ofDigitChars 10 _ 0 = Nat.ofDigitChars 10 _ 0
  rw [Nat.ofDigitChars_append, Nat.ofDigitChars_replicate_zero, Nat.mul_zero]

theorem decimalNumber_append_zeros (digits : List Char) (count : ℕ) :
    Text.decimalNumber (digits ++ List.replicate count '0') =
      Text.decimalNumber digits * 10 ^ count := by
  change Nat.ofDigitChars 10 _ 0 = Nat.ofDigitChars 10 _ 0 * _
  rw [Nat.ofDigitChars_append, Nat.ofDigitChars_replicate_zero, Nat.mul_comm]

theorem mantissaNumber_digits {digits : List Char} (allDigits : AllDigits digits) :
    mantissaNumber digits = Text.decimalNumber digits := by
  have noPoint : digits.dropWhile (· ≠ '.') = [] := by
    rw [List.dropWhile_eq_nil_iff]
    intro c member
    have digit := allDigits c member
    simp only [decide_eq_true_eq]
    rintro rfl
    exact absurd digit (by decide)
  simp only [mantissaNumber, noPoint, allDigits.filter_eq]
  simp

theorem mantissaNumber_point {whole fraction : List Char} (wholeDigits : AllDigits whole)
    (fractionDigits : AllDigits fraction) :
    mantissaNumber (whole ++ '.' :: fraction) =
      Text.decimalNumber (whole ++ fraction) * 10 ^ (-fraction.length : ℤ) := by
  have afterWhole : (whole ++ '.' :: fraction).dropWhile (· ≠ '.') = '.' :: fraction := by
    rw [List.dropWhile_append_of_pos]
    · rfl
    · intro c member
      have digit := wholeDigits c member
      simp only [decide_eq_true_eq]
      rintro rfl
      exact absurd digit (by decide)
  have digits : (whole ++ '.' :: fraction).filter Char.isDigit = whole ++ fraction := by
    rw [List.filter_append, wholeDigits.filter_eq, List.filter_cons_of_neg (by decide),
      fractionDigits.filter_eq]
  simp only [mantissaNumber, afterWhole, digits, List.tail_cons]

/-- The characters of a mantissa: digits and the point. -/
def IsMantissa (word : List Char) : Prop :=
  ∀ c ∈ word, c.isDigit = true ∨ c = '.'

theorem IsMantissa.ne_exponent {word : List Char} (mantissa : IsMantissa word) :
    ∀ c ∈ word, decide (c ≠ 'e') = true := by
  intro c member
  rw [decide_eq_true_eq]
  rintro rfl
  rcases mantissa 'e' member with digit | point
  · exact absurd digit (by decide)
  · exact absurd point (by decide)

theorem AllDigits.isMantissa {digits : List Char} (allDigits : AllDigits digits) :
    IsMantissa digits :=
  fun c member => Or.inl (allDigits c member)

theorem isMantissa_point {whole fraction : List Char} (wholeDigits : AllDigits whole)
    (fractionDigits : AllDigits fraction) : IsMantissa (whole ++ '.' :: fraction) := by
  intro c member
  rcases List.mem_append.mp member with member | member
  · exact Or.inl (wholeDigits c member)
  · rcases List.mem_cons.mp member with point | member
    · exact Or.inr point
    · exact Or.inl (fractionDigits c member)

theorem spelledNumber_mantissa {word : List Char} (mantissa : IsMantissa word) :
    spelledNumber word = mantissaNumber word := by
  have all := mantissa.ne_exponent
  rw [spelledNumber, List.takeWhile_eq_self_iff.mpr all, List.dropWhile_eq_nil_iff.mpr all]
  simp [exponentNumber]

theorem spelledNumber_exponent {word : List Char} (mantissa : IsMantissa word)
    (exponent : List Char) :
    spelledNumber (word ++ 'e' :: exponent) =
      mantissaNumber word * 10 ^ exponentNumber exponent := by
  have all := mantissa.ne_exponent
  rw [spelledNumber, List.takeWhile_append_of_pos all, List.dropWhile_append_of_pos all]
  simp

/-- Digits, a point and more digits, which spell the given number together. -/
structure PointForm (word : List Char) (number : ℚ) where
  whole : List Char
  fraction : List Char
  wholeDigits : AllDigits whole
  fractionDigits : AllDigits fraction
  nonempty : whole ≠ []
  word_eq : word = whole ++ '.' :: fraction
  number_eq : Text.decimalNumber (whole ++ fraction) * 10 ^ (-fraction.length : ℤ) = number

/-- A decimal without a fraction is written with a zero after the point. -/
def pointFormOfWhole {decimal : Decimal} (whole : 0 ≤ decimal.exponent) :
    PointForm decimal.positional decimal.value where
  whole := Nat.toDigits 10 decimal.digits ++ List.replicate decimal.exponent.toNat '0'
  fraction := List.replicate 1 '0'
  wholeDigits := (allDigits_toDigits _).append (allDigits_zeros _)
  fractionDigits := allDigits_zeros _
  nonempty := by simp [Nat.toDigits_ne_nil]
  word_eq := by simp [positional, whole]
  number_eq := by
    rcases Int.eq_ofNat_of_zero_le whole with ⟨power, exponent⟩
    rw [decimalNumber_append_zeros, decimalNumber_append_zeros, decimalNumber_toDigits, value,
      exponent]
    simp

/-- A decimal with whole digits and a fraction has the point among its digits. -/
def pointFormOfInside {decimal : Decimal} (fraction : ¬0 ≤ decimal.exponent)
    (inside : 0 ≤ decimal.leading) : PointForm decimal.positional decimal.value where
  whole := (Nat.toDigits 10 decimal.digits).take (decimal.leading + 1).toNat
  fraction := (Nat.toDigits 10 decimal.digits).drop (decimal.leading + 1).toNat
  wholeDigits := (allDigits_toDigits _).take _
  fractionDigits := (allDigits_toDigits _).drop _
  nonempty := by
    have places : (decimal.leading + 1).toNat ≠ 0 := by omega
    simp [Nat.toDigits_ne_nil, places]
  word_eq := by simp [positional, fraction, inside]
  number_eq := by
    have length : decimal.length = (Nat.toDigits 10 decimal.digits).length := rfl
    have places : (-((Nat.toDigits 10 decimal.digits).drop (decimal.leading + 1).toNat).length
        : ℤ) = decimal.exponent := by
      rw [List.length_drop, ← length]
      unfold leading at inside ⊢
      omega
    rw [List.take_append_drop, decimalNumber_toDigits, places, value]

/-- A decimal below one is written with zeros around the point. -/
def pointFormOfBelow {decimal : Decimal} (fraction : ¬0 ≤ decimal.exponent)
    (below : ¬0 ≤ decimal.leading) : PointForm decimal.positional decimal.value where
  whole := List.replicate 1 '0'
  fraction := List.replicate (-decimal.leading - 1).toNat '0' ++ Nat.toDigits 10 decimal.digits
  wholeDigits := allDigits_zeros _
  fractionDigits := (allDigits_zeros _).append (allDigits_toDigits _)
  nonempty := by simp
  word_eq := by simp [positional, fraction, below]
  number_eq := by
    have length : decimal.length = (Nat.toDigits 10 decimal.digits).length := rfl
    have places : (-(List.replicate (-decimal.leading - 1).toNat '0' ++
        Nat.toDigits 10 decimal.digits).length : ℤ) = decimal.exponent := by
      rw [List.length_append, List.length_replicate, ← length]
      unfold leading at below ⊢
      omega
    rw [decimalNumber_zeros_append, decimalNumber_zeros_append, decimalNumber_toDigits, places,
      value]

/-- The positional form has a point, and spells the decimal. -/
theorem positional_pointForm (decimal : Decimal) :
    Nonempty (PointForm decimal.positional decimal.value) := by
  by_cases whole : 0 ≤ decimal.exponent
  · exact ⟨pointFormOfWhole whole⟩
  · by_cases inside : 0 ≤ decimal.leading
    · exact ⟨pointFormOfInside whole inside⟩
    · exact ⟨pointFormOfBelow whole inside⟩

theorem PointForm.isMantissa {word : List Char} {number : ℚ} (form : PointForm word number) :
    IsMantissa word := by
  rw [form.word_eq]
  exact isMantissa_point form.wholeDigits form.fractionDigits

theorem PointForm.spelledNumber_eq {word : List Char} {number : ℚ}
    (form : PointForm word number) : spelledNumber word = number := by
  rw [spelledNumber_mantissa form.isMantissa, form.word_eq,
    mantissaNumber_point form.wholeDigits form.fractionDigits, form.number_eq]

/-- The sign and the digits of an exponent spell it. -/
theorem exponentNumber_signed (exponent : ℤ) :
    exponentNumber ((if exponent < 0 then '-' else '+') :: Nat.toDigits 10 exponent.natAbs) =
      exponent := by
  split
  · rw [exponentNumber, decimalNumber_toDigits]
    omega
  · rw [exponentNumber, decimalNumber_toDigits]
    omega

/-- The mantissa of the scientific form. -/
def scientificMantissa (decimal : Decimal) : List Char :=
  match Nat.toDigits 10 decimal.digits with
  | first :: second :: rest => first :: '.' :: second :: rest
  | single => single

theorem scientific_eq (decimal : Decimal) :
    decimal.scientific =
      decimal.scientificMantissa ++ 'e' :: (if decimal.leading < 0 then '-' else '+') ::
        Nat.toDigits 10 decimal.leading.natAbs :=
  rfl

theorem isMantissa_scientificMantissa (decimal : Decimal) :
    IsMantissa decimal.scientificMantissa := by
  have digits := allDigits_toDigits decimal.digits
  unfold scientificMantissa
  split
  · next first second rest equal =>
      rw [equal] at digits
      exact isMantissa_point (digits.take 1 : AllDigits [first]) (digits.drop 1)
  · exact digits.isMantissa

theorem mantissaNumber_scientificMantissa (decimal : Decimal) :
    mantissaNumber decimal.scientificMantissa =
      decimal.digits * 10 ^ (1 - decimal.length : ℤ) := by
  have digits := allDigits_toDigits decimal.digits
  have number := decimalNumber_toDigits decimal.digits
  have nonempty : Nat.toDigits 10 decimal.digits ≠ [] := Nat.toDigits_ne_nil
  have length : decimal.length = (Nat.toDigits 10 decimal.digits).length := rfl
  unfold scientificMantissa
  rw [length]
  generalize Nat.toDigits 10 decimal.digits = word at digits number nonempty ⊢
  rcases word with _ | ⟨first, _ | ⟨second, rest⟩⟩
  · exact absurd rfl nonempty
  · simp [mantissaNumber_digits digits, number]
  · have single : AllDigits [first] := digits.take 1
    have point := mantissaNumber_point single (digits.drop 1)
    rw [List.drop_one, List.tail_cons, List.singleton_append, List.singleton_append, number]
      at point
    simp only [point, List.length_cons]
    congr 2

/-- The scientific form spells the decimal. -/
theorem spelledNumber_scientific (decimal : Decimal) :
    spelledNumber decimal.scientific = decimal.value := by
  rw [scientific_eq, spelledNumber_exponent decimal.isMantissa_scientificMantissa,
    exponentNumber_signed, mantissaNumber_scientificMantissa, mul_assoc,
    ← zpow_add₀ (by norm_num), value]
  congr 2
  unfold leading
  omega

theorem spelledNumber_notated (decimal : Decimal) (range : PositionalRange) :
    spelledNumber (decimal.notated range) = decimal.value := by
  unfold notated
  split
  · exact decimal.positional_pointForm.some.spelledNumber_eq
  · exact decimal.spelledNumber_scientific

/-- The characters of the notation of numbers. -/
def IsNumeralChar (c : Char) : Prop :=
  c.isDigit = true ∨ c ∈ ['.', 'e', '+', '-']

theorem IsMantissa.isNumeralChar {word : List Char} (mantissa : IsMantissa word) :
    ∀ c ∈ word, IsNumeralChar c := by
  intro c member
  rcases mantissa c member with digit | rfl
  · exact Or.inl digit
  · exact Or.inr (by decide)

theorem isNumeralChar_notated (decimal : Decimal) (range : PositionalRange) :
    ∀ c ∈ decimal.notated range, IsNumeralChar c := by
  unfold notated
  split
  · exact decimal.positional_pointForm.some.isMantissa.isNumeralChar
  · rw [scientific_eq]
    intro c member
    simp only [List.mem_append, List.mem_cons] at member
    rcases member with mantissa | rfl | sign | digit
    · exact decimal.isMantissa_scientificMantissa.isNumeralChar c mantissa
    · exact Or.inr (by decide)
    · subst sign
      split
      · exact Or.inr (by decide)
      · exact Or.inr (by decide)
    · exact Or.inl (allDigits_toDigits _ c digit)

/-- A notated decimal has a point or an exponent, so it is more than digits. -/
theorem not_allDigits_notated (decimal : Decimal) (range : PositionalRange) :
    ¬AllDigits (decimal.notated range) := by
  intro digits
  unfold notated at digits
  split at digits
  · rw [decimal.positional_pointForm.some.word_eq] at digits
    exact absurd (digits '.' (by simp)) (by decide)
  · rw [scientific_eq] at digits
    exact absurd (digits 'e' (by simp)) (by decide)

theorem scientificMantissa_head (decimal : Decimal) :
    ∃ digit rest, decimal.scientificMantissa = digit :: rest ∧ digit.isDigit = true := by
  have digits := allDigits_toDigits decimal.digits
  have nonempty : Nat.toDigits 10 decimal.digits ≠ [] := Nat.toDigits_ne_nil
  unfold scientificMantissa
  generalize Nat.toDigits 10 decimal.digits = word at digits nonempty ⊢
  rcases word with _ | ⟨first, _ | ⟨second, rest⟩⟩
  · exact absurd rfl nonempty
  · exact ⟨first, [], rfl, digits first (by simp)⟩
  · exact ⟨first, '.' :: second :: rest, rfl, digits first (by simp)⟩

/-- A notated decimal begins with a digit. -/
theorem notated_head (decimal : Decimal) (range : PositionalRange) :
    ∃ digit rest, decimal.notated range = digit :: rest ∧ digit.isDigit = true := by
  unfold notated
  split
  · have form := decimal.positional_pointForm.some
    rcases List.exists_cons_of_ne_nil form.nonempty with ⟨digit, rest, whole⟩
    refine ⟨digit, rest ++ '.' :: form.fraction, ?_, form.wholeDigits digit (by simp [whole])⟩
    exact form.word_eq.trans (by rw [whole, List.cons_append])
  · rcases decimal.scientificMantissa_head with ⟨digit, rest, mantissa, isDigit⟩
    rw [scientific_eq, mantissa]
    exact ⟨digit, _, rfl, isDigit⟩

end Decimal

namespace Binary64

/-- Different numbers have different texts. -/
theorem text_injective : Function.Injective text := by
  intro x y equal
  have magnitude (negativeX : x.isNegative = y.isNegative)
      (magnitudes : x.shortest.notated documentRange = y.shortest.notated documentRange) :
      x = y := by
    refine ext_of_index negativeX (index_eq_of_shortest_value ?_)
    rw [← Decimal.spelledNumber_notated _ documentRange, magnitudes,
      Decimal.spelledNumber_notated]
  rcases x.shortest.notated_head documentRange with ⟨digitX, restX, headX, isDigitX⟩
  rcases y.shortest.notated_head documentRange with ⟨digitY, restY, headY, isDigitY⟩
  cases signX : x.isNegative <;> cases signY : y.isNegative
  · simp only [text, signX, signY] at equal
    exact magnitude (signX.trans signY.symm) equal
  · simp only [text, signX, signY, headX] at equal
    cases equal
    exact absurd isDigitX (by decide)
  · simp only [text, signX, signY, headY] at equal
    cases equal
    exact absurd isDigitY (by decide)
  · simp only [text, signX, signY] at equal
    exact magnitude (signX.trans signY.symm) (List.cons.inj equal).2

end Binary64

end OptionCompiler
