import OptionCompiler.Proofs.Binary64.Notation
import OptionCompiler.Proofs.Text.Trim
/-!
# Decimal numerals

A numeral is the decimal digits of a number behind any zeros, with a minus sign for a number below
zero and possibly a plus sign for any other. The reader of counts goes through the characters once
and adds digit by digit; it accepts exactly the numerals without a minus sign, of any length.

That every run of digits is the digits of a number behind zeros (`exists_paddedDigits`) is shown
from the end: one more digit makes ten times the number and the digit, as long as the digits before
it are not all zero.
-/

namespace OptionCompiler

namespace Text

/-- The decimal digits of a number behind some zeros. -/
def paddedDigits (zeros number : ℕ) : List Char :=
  List.replicate zeros '0' ++ Nat.toDigits 10 number

/-- The numerals of the whole numbers. -/
inductive IsNumeral : List Char → ℤ → Prop where
  | plain (zeros number : ℕ) : IsNumeral (paddedDigits zeros number) number
  | plus (zeros number : ℕ) : IsNumeral ('+' :: paddedDigits zeros number) number
  | minus (zeros : ℕ) {number : ℕ} (positive : 0 < number) :
      IsNumeral ('-' :: paddedDigits zeros number) (-number)

/-- A numeral of the number, with white space around it. -/
def Spells (text : String) (number : ℤ) : Prop :=
  ∃ numeral, Surrounds text numeral ∧ IsNumeral numeral number

section Digits

theorem allDigits_paddedDigits (zeros number : ℕ) : Decimal.AllDigits (paddedDigits zeros number) :=
  (Decimal.allDigits_zeros zeros).append (Decimal.allDigits_toDigits number)

theorem paddedDigits_ne_nil (zeros number : ℕ) : paddedDigits zeros number ≠ [] := by
  intro empty
  exact Nat.toDigits_ne_nil (List.append_eq_nil_iff.mp empty).2

theorem decimalNumber_paddedDigits (zeros number : ℕ) :
    decimalNumber (paddedDigits zeros number) = number := by
  rw [paddedDigits, Decimal.decimalNumber_zeros_append, Decimal.decimalNumber_toDigits]

theorem digitChar_of_isDigit {c : Char} (digit : c.isDigit = true) :
    c.toNat - '0'.toNat < 10 ∧ Nat.digitChar (c.toNat - '0'.toNat) = c := by
  have code : 48 ≤ c.toNat ∧ c.toNat ≤ 57 := Char.isDigit_iff_toNat.mp digit
  have zero : '0'.toNat = 48 := rfl
  refine ⟨by omega, Char.toNat_inj.mp ?_⟩
  rw [Nat.toNat_digitChar_of_lt_ten (by omega)]
  omega

theorem decimalNumber_concat (word : List Char) (c : Char) :
    decimalNumber (word ++ [c]) = 10 * decimalNumber word + (c.toNat - '0'.toNat) := by
  rw [decimalNumber, List.foldl_append]
  rfl

/-- Digits are those of their number behind zeros. -/
theorem exists_paddedDigits {word : List Char} (nonempty : word ≠ [])
    (digits : Decimal.AllDigits word) :
    ∃ zeros, word = paddedDigits zeros (decimalNumber word) := by
  induction word using List.reverseRecOn with
  | nil => exact absurd rfl nonempty
  | append_singleton word c ih =>
      have isDigit : c.isDigit = true := digits c (by simp)
      rcases digitChar_of_isDigit isDigit with ⟨small, char⟩
      have last : Nat.toDigits 10 (c.toNat - '0'.toNat) = [c] := by
        rw [Nat.toDigits_of_lt_base small, char]
      rw [decimalNumber_concat]
      rcases List.eq_nil_or_concat word with rfl | ⟨_, _, shape⟩
      · have none : decimalNumber [] = 0 := rfl
        refine ⟨0, ?_⟩
        rw [none, Nat.mul_zero, Nat.zero_add, paddedDigits, last]
        rfl
      · have before : word ≠ [] := by simp [shape]
        rcases ih before (fun d member => digits d (by simp [member])) with ⟨zeros, padded⟩
        rcases Nat.eq_zero_or_pos (decimalNumber word) with zero | positive
        · -- The digits before are zeros alone, the last of them the digit of zero.
          refine ⟨zeros + 1, ?_⟩
          rw [zero] at padded ⊢
          rw [padded, Nat.mul_zero, Nat.zero_add, paddedDigits, paddedDigits, last,
            List.replicate_succ']
          rfl
        · refine ⟨zeros, ?_⟩
          have joined := Nat.toDigits_append_toDigits (b := 10) (by decide) positive small
          rw [last] at joined
          rw [paddedDigits, ← joined, ← List.append_assoc]
          exact congrArg (· ++ [c]) padded

end Digits

section Reading

/-- A character is taken as the next digit if it is one. -/
theorem digit?_ten (c : Char) (value : ℕ) :
    (do
      let next ← digit? c
      if next < 10 then some (10 * value + next) else none) =
      if c.isDigit then some (10 * value + (c.toNat - '0'.toNat)) else none := by
  unfold digit?
  split_ifs with digit lower upper
  · exact if_pos (digitChar_of_isDigit digit).1
  · simp
  · simp
  · rfl

theorem foldlM_digit? (word : List Char) (value : ℕ) :
    word.foldlM
      (fun value c => do
        let next ← digit? c
        if next < 10 then some (10 * value + next) else none) value =
      if word.all Char.isDigit then some (Nat.ofDigitChars 10 word value) else none := by
  simp only [digit?_ten]
  induction word generalizing value with
  | nil => rfl
  | cons c word ih =>
      rw [List.foldlM_cons, List.all_cons]
      cases digit : c.isDigit with
      | false => rfl
      | true => exact ih _

/-- The reader of digits accepts the digits of a number behind zeros and gives the number. -/
theorem number?_ten_eq_some_iff {word : List Char} {number : ℕ} :
    number? 10 word = some number ↔ ∃ zeros, word = paddedDigits zeros number := by
  constructor
  · intro read
    rw [number?, foldlM_digit?] at read
    split_ifs at read with empty digits
    rcases exists_paddedDigits (List.isEmpty_eq_false_iff.mp (by simpa using empty))
      (List.all_eq_true.mp digits) with ⟨zeros, padded⟩
    rw [← Option.some.inj read]
    exact ⟨zeros, padded⟩
  · rintro ⟨zeros, rfl⟩
    have digits := List.all_eq_true.mpr (allDigits_paddedDigits zeros number)
    rw [number?, if_neg (by simpa using paddedDigits_ne_nil zeros number), foldlM_digit?,
      if_pos digits]
    exact congrArg some (decimalNumber_paddedDigits zeros number)

/-- A numeral is read unless it has a minus sign. -/
theorem IsNumeral.unsignedNumber?_eq {word : List Char} {number : ℤ}
    (numeral : IsNumeral word number) :
    unsignedNumber? word = if 0 ≤ number then some number.toNat else none := by
  cases numeral with
  | plain zeros number =>
      have read : number? 10 (paddedDigits zeros number) = some number :=
        number?_ten_eq_some_iff.mpr ⟨zeros, rfl⟩
      rw [if_pos (Int.natCast_nonneg number), Int.toNat_natCast, unsignedNumber?.eq_def]
      split
      · next digits shape =>
          have sign := allDigits_paddedDigits zeros number '+' (by simp [shape])
          exact absurd sign (by decide)
      · exact read
  | plus zeros number =>
      rw [if_pos (Int.natCast_nonneg number), Int.toNat_natCast]
      exact number?_ten_eq_some_iff.mpr ⟨zeros, rfl⟩
  | @minus zeros number positive =>
      rw [if_neg (by omega)]
      change number? 10 ('-' :: paddedDigits zeros number) = none
      rw [Option.eq_none_iff_forall_ne_some]
      intro other read
      rcases number?_ten_eq_some_iff.mp read with ⟨others, shape⟩
      have sign := allDigits_paddedDigits others other '-' (by simp [← shape])
      exact absurd sign (by decide)

/-- What is read is a numeral. -/
theorem isNumeral_of_unsignedNumber? {word : List Char} {number : ℕ}
    (read : unsignedNumber? word = some number) : IsNumeral word number := by
  unfold unsignedNumber? at read
  split at read
  · rcases number?_ten_eq_some_iff.mp read with ⟨zeros, rfl⟩
    exact .plus zeros number
  · rcases number?_ten_eq_some_iff.mp read with ⟨zeros, rfl⟩
    exact .plain zeros number

theorem IsNumeral.visible {word : List Char} {number : ℤ} (numeral : IsNumeral word number) :
    ∀ c ∈ word, isBlank c = false := by
  have digits (zeros number : ℕ) : ∀ c ∈ paddedDigits zeros number, isBlank c = false := by
    intro c member
    have code : 48 ≤ c.toNat ∧ c.toNat ≤ 57 :=
      Char.isDigit_iff_toNat.mp (allDigits_paddedDigits zeros number c member)
    exact isBlank_of_ascii (by omega) (by omega)
  cases numeral with
  | plain zeros number => exact digits zeros number
  | plus zeros number => exact List.forall_mem_cons.mpr ⟨by decide, digits zeros number⟩
  | minus zeros positive => exact List.forall_mem_cons.mpr ⟨by decide, digits zeros _⟩

/-- A text that spells a number is read as the number unless it has a minus sign. -/
theorem Spells.unsignedNumber?_trim {text : String} {number : ℤ} (spells : Spells text number) :
    unsignedNumber? (trim text).toList = if 0 ≤ number then some number.toNat else none := by
  rcases spells with ⟨word, surrounds, numeral⟩
  rw [toList_trim_of_surrounds surrounds numeral.visible, numeral.unsignedNumber?_eq]

/-- A text that is read spells the number. -/
theorem spells_of_unsignedNumber?_trim {text : String} {number : ℕ}
    (read : unsignedNumber? (trim text).toList = some number) : Spells text number :=
  ⟨_, surrounds_trim text, isNumeral_of_unsignedNumber? read⟩

end Reading

end Text

end OptionCompiler
