import Mathlib
import OptionCompiler.Json.Syntax
import OptionCompiler.Proofs.Binary64.Notation
import OptionCompiler.Proofs.Text.Separation
/-!
# The compact text of a value

The compact text of a value determines the value, with one exception: a floating point number
that is not finite is written as null. `settled` puts null in the place of such numbers, and two
values have one compact text exactly when they are the same once settled.

A text is read from the left. Strings and containers say where they end, and every other value
is a word without any of the marks that may follow a value. So what comes after a value is
determined together with the value.
-/

namespace OptionCompiler

namespace Json

mutual

/-- The value with null in the place of every number that is not finite. -/
def settled : Json → Json
  | .float value => if value.isFinite then .float value else .null
  | .array items => .array (settledItems items)
  | .object fields => .object (settledFields fields)
  | other => other

/-- The items of an array, each settled. -/
def settledItems : List Json → List Json
  | [] => []
  | item :: items => settled item :: settledItems items

/-- The fields of an object, each settled. -/
def settledFields : List (String × Json) → List (String × Json)
  | [] => []
  | (key, value) :: fields => (key, settled value) :: settledFields fields

end

section Strings

/-- The first character that an escaped text means, and what follows it. -/
def firstEscaped : List Char → Option (Char × List Char)
  | '\\' :: 'u' :: _ :: _ :: high :: low :: rest => do
      let value := 16 * (← Text.digit? high) + (← Text.digit? low)
      return (Char.ofNat value, rest)
  | '\\' :: c :: rest => (shortEscape? c).map (·, rest)
  | c :: rest => some (c, rest)
  | [] => none

theorem digit?_digitChar : ∀ value < 16, Text.digit? (Nat.digitChar value) = some value := by
  decide

theorem firstEscaped_escapedChar (c : Char) (rest : List Char) :
    firstEscaped (escapedChar c ++ rest) = some (c, rest) := by
  unfold escapedChar
  split
  case h_8 =>
    split
    · next control =>
        have high := digit?_digitChar (c.toNat / 16) (by omega)
        have low := digit?_digitChar (c.toNat % 16) (by omega)
        simp only [firstEscaped, List.cons_append, List.nil_append, high, low]
        simp [Nat.div_add_mod]
    · rw [List.singleton_append, firstEscaped.eq_def]
      split <;> simp_all
  all_goals rfl

theorem isPrefixCode_escapedChar : Text.IsPrefixCode escapedChar := by
  intro c d rest others equal
  have first := firstEscaped_escapedChar c rest
  rw [equal, firstEscaped_escapedChar] at first
  simpa [eq_comm] using first

/-- An escaped character is no closing quote. -/
theorem escapedChar_ne_quote (c : Char) (rest others : List Char) :
    escapedChar c ++ rest ≠ '"' :: others := by
  unfold escapedChar
  split
  case h_8 =>
    split
    · simp
    · simp_all
  all_goals simp

/-- A string says where it ends. -/
theorem stringText_append_injective {text other : String} {rest left : List Char}
    (equal : stringText text ++ rest = stringText other ++ left) : text = other ∧ rest = left := by
  simp only [stringText, List.cons_append, List.append_assoc, List.nil_append, List.cons.injEq,
    true_and] at equal
  rcases isPrefixCode_escapedChar.flatMap_append_injective
      (fun c rest => escapedChar_ne_quote c rest _) (fun c rest => escapedChar_ne_quote c rest _)
      equal with ⟨chars, tails⟩
  exact ⟨String.toList_inj.mp chars, (List.cons.inj tails).2⟩

end Strings

section Words

/-- The characters that begin and end containers and strings, and the one between two values. -/
def IsMark (c : Char) : Prop :=
  c ∈ [',', '[', ']', '{', '}', '"']

/-- What may follow a value: nothing, or a mark and anything. -/
def Delimited (rest : List Char) : Prop :=
  ∀ c ∈ rest.head?, IsMark c

/-- Some characters, none of which is a mark. -/
def IsWord (word : List Char) : Prop :=
  ∀ c ∈ word, ¬IsMark c

theorem delimited_nil : Delimited [] := by
  simp [Delimited]

theorem delimited_cons {c : Char} (mark : IsMark c) (rest : List Char) :
    Delimited (c :: rest) := by
  simpa [Delimited] using mark

theorem word_append_injective {word other rest left : List Char} (isWord : IsWord word)
    (isWord' : IsWord other) (delimited : Delimited rest) (delimited' : Delimited left)
    (equal : word ++ rest = other ++ left) : word = other ∧ rest = left :=
  Text.append_injective_of_kind (fun c => ¬IsMark c) isWord isWord'
    (fun c first => not_not_intro (delimited c first))
    (fun c first => not_not_intro (delimited' c first)) equal

/-- The mark that a string or a container begins with. Every other value is written as a word. -/
def opening? : Json → Option Char
  | .string _ => some '"'
  | .array _ => some '['
  | .object _ => some '{'
  | _ => none

theorem not_isMark_of_isDigit {c : Char} (digit : c.isDigit = true) : ¬IsMark c := by
  intro mark
  unfold IsMark at mark
  fin_cases mark <;> exact absurd digit (by decide)

theorem not_isMark_of_isNumeralChar {c : Char} (numeral : Decimal.IsNumeralChar c) :
    ¬IsMark c := by
  rcases numeral with digit | mark
  · exact not_isMark_of_isDigit digit
  · fin_cases mark <;> simp [IsMark]

theorem isWord_integerText (value : ℤ) : IsWord (integerText value) := by
  intro c member
  unfold integerText at member
  split at member
  · rcases List.mem_cons.mp member with rfl | digit
    · simp [IsMark]
    · exact not_isMark_of_isDigit (Decimal.allDigits_toDigits _ c digit)
  · exact not_isMark_of_isDigit (Decimal.allDigits_toDigits _ c member)

theorem isWord_null : IsWord ['n', 'u', 'l', 'l'] := by
  intro c member
  fin_cases member <;> simp [IsMark]

theorem isWord_boolText (value : Bool) : IsWord (boolText value) := by
  intro c member
  cases value <;> fin_cases member <;> simp [IsMark]

theorem isWord_floatText (value : Binary64) : IsWord (floatText value) := by
  unfold floatText
  split
  · intro c member
    unfold Binary64.text at member
    split at member
    · rcases List.mem_cons.mp member with rfl | magnitude
      · simp [IsMark]
      · exact not_isMark_of_isNumeralChar (Decimal.isNumeralChar_notated _ _ c magnitude)
    · exact not_isMark_of_isNumeralChar (Decimal.isNumeralChar_notated _ _ c member)
  · exact isWord_null

theorem isWord_compactText {value : Json} (word : value.opening? = none) :
    IsWord value.compactText := by
  cases value with
  | null => simpa [compactText] using isWord_null
  | bool value => simpa [compactText] using isWord_boolText value
  | integer value => simpa [compactText] using isWord_integerText value
  | float value => simpa [compactText] using isWord_floatText value
  | _ => cases word

/-- Whether a word begins as numbers do, with a sign or a digit. -/
def beginsAsNumber (word : List Char) : Bool :=
  word.head?.any fun c => c == '-' || c.isDigit

/-- A word without the sign in front. -/
def unsigned : List Char → List Char
  | '-' :: rest => rest
  | other => other

theorem unsigned_of_digit {digit : Char} (isDigit : digit.isDigit = true) (rest : List Char) :
    unsigned (digit :: rest) = digit :: rest := by
  unfold unsigned
  split
  · next equal =>
      cases equal
      exact absurd isDigit (by decide)
  · rfl

theorem toDigits_head (number : ℕ) :
    ∃ digit rest, Nat.toDigits 10 number = digit :: rest ∧ digit.isDigit = true := by
  rcases List.exists_cons_of_ne_nil (Nat.toDigits_ne_nil (n := number) (b := 10)) with
    ⟨digit, rest, head⟩
  exact ⟨digit, rest, head, Decimal.allDigits_toDigits number digit (by simp [head])⟩

theorem beginsAsNumber_integerText (value : ℤ) : beginsAsNumber (integerText value) = true := by
  rcases toDigits_head value.natAbs with ⟨digit, rest, head, isDigit⟩
  unfold integerText
  split
  · rfl
  · simp [beginsAsNumber, head, isDigit]

theorem beginsAsNumber_text (value : Binary64) : beginsAsNumber value.text = true := by
  rcases value.shortest.notated_head documentRange with ⟨digit, rest, head, isDigit⟩
  simp only [Binary64.text]
  split
  · rfl
  · simp [beginsAsNumber, head, isDigit]

theorem unsigned_integerText (value : ℤ) :
    unsigned (integerText value) = Nat.toDigits 10 value.natAbs := by
  rcases toDigits_head value.natAbs with ⟨digit, rest, head, isDigit⟩
  unfold integerText
  split
  · rfl
  · rw [head, unsigned_of_digit isDigit]

theorem unsigned_text (value : Binary64) :
    unsigned value.text = value.shortest.notated documentRange := by
  rcases value.shortest.notated_head documentRange with ⟨digit, rest, head, isDigit⟩
  simp only [Binary64.text]
  split
  · rfl
  · rw [head, unsigned_of_digit isDigit]

/-- A whole number and a floating point number have different texts. -/
theorem integerText_ne_text (whole : ℤ) (value : Binary64) : integerText whole ≠ value.text := by
  intro equal
  have magnitudes := congrArg unsigned equal
  rw [unsigned_integerText, unsigned_text] at magnitudes
  have digits := Decimal.allDigits_toDigits whole.natAbs
  rw [magnitudes] at digits
  exact Decimal.not_allDigits_notated _ _ digits

theorem integerText_injective : Function.Injective integerText := by
  intro left right equal
  have magnitudes := congrArg (Nat.ofDigitChars 10 · 0) (congrArg unsigned equal)
  simp only [unsigned_integerText, Nat.ofDigitChars_ten_toDigits] at magnitudes
  have signs : left < 0 ↔ right < 0 := by
    rcases toDigits_head left.natAbs with ⟨digit, rest, head, isDigit⟩
    have head' := magnitudes ▸ head
    unfold integerText at equal
    constructor
    · intro negative
      by_contra positive
      rw [if_pos negative, if_neg positive, head'] at equal
      cases equal
      exact absurd isDigit (by decide)
    · intro negative
      by_contra positive
      rw [if_neg positive, if_pos negative, head] at equal
      cases equal
      exact absurd isDigit (by decide)
  omega

/-- The words that are left when a value is settled. -/
inductive SettledWord : Json → Prop
  | null : SettledWord .null
  | bool (value : Bool) : SettledWord (.bool value)
  | integer (value : ℤ) : SettledWord (.integer value)
  | float (value : Binary64) (finite : value.isFinite = true) : SettledWord (.float value)

theorem settledWord_settled {value : Json} (word : value.opening? = none) :
    SettledWord value.settled := by
  cases value with
  | null => exact .null
  | bool value => exact .bool value
  | integer value => exact .integer value
  | float value =>
      unfold settled
      split
      · next finite => exact .float value finite
      · exact .null
  | _ => cases word

theorem compactText_settled_of_word {value : Json} (word : value.opening? = none) :
    value.settled.compactText = value.compactText := by
  cases value with
  | float value =>
      unfold settled
      split
      · rfl
      · next infinite => simp [compactText, floatText, infinite]
  | null | bool | integer => rfl
  | _ => cases word

/-- Whether a value is written as a number once it is settled. -/
def isNumber : Json → Bool
  | .integer _ | .float _ => true
  | _ => false

theorem SettledWord.beginsAsNumber_eq {value : Json} (word : SettledWord value) :
    beginsAsNumber value.compactText = value.isNumber := by
  cases word with
  | null => rfl
  | bool value => cases value <;> rfl
  | integer value => rw [compactText, beginsAsNumber_integerText, isNumber]
  | float value finite =>
      rw [compactText, floatText, if_pos finite, beginsAsNumber_text, isNumber]

/-- Settled words are told apart by their texts. -/
theorem SettledWord.eq_of_compactText {value other : Json} (word : SettledWord value)
    (word' : SettledWord other) (equal : value.compactText = other.compactText) :
    value = other := by
  -- Numbers begin as no other word does, so they are compared with numbers alone.
  have numbers : value.isNumber = other.isNumber := by
    rw [← word.beginsAsNumber_eq, ← word'.beginsAsNumber_eq, equal]
  cases word with
  | null =>
      cases word' with
      | null => rfl
      | bool right => cases right <;> cases equal
      | _ => cases numbers
  | bool left =>
      cases word' with
      | null => cases left <;> cases equal
      | bool right => cases left <;> cases right <;> first | rfl | cases equal
      | _ => cases numbers
  | integer left =>
      cases word' with
      | integer right =>
          rw [compactText, compactText] at equal
          rw [integerText_injective equal]
      | float right finite =>
          rw [compactText, compactText, floatText, if_pos finite] at equal
          exact absurd equal (integerText_ne_text left right)
      | _ => cases numbers
  | float left finite =>
      cases word' with
      | integer right =>
          rw [compactText, compactText, floatText, if_pos finite] at equal
          exact absurd equal.symm (integerText_ne_text right left)
      | float right finite' =>
          rw [compactText, compactText, floatText, floatText, if_pos finite, if_pos finite']
            at equal
          rw [Binary64.text_injective equal]
      | _ => cases numbers

/-- A word begins with a character that is no mark. -/
theorem compactText_head_of_word {value : Json} (word : value.opening? = none) :
    ∃ c rest, value.compactText = c :: rest ∧ ¬IsMark c := by
  have isWord := isWord_compactText word
  have nonempty : value.compactText ≠ [] := by
    cases value with
    | null => simp [compactText]
    | bool value => cases value <;> simp [compactText, boolText]
    | integer value =>
        intro empty
        have number := beginsAsNumber_integerText value
        rw [compactText] at empty
        simp [empty, beginsAsNumber] at number
    | float value =>
        have number := beginsAsNumber_text value
        intro empty
        rw [compactText, floatText] at empty
        split at empty
        · simp [empty, beginsAsNumber] at number
        · cases empty
    | _ => cases word
  rcases List.exists_cons_of_ne_nil nonempty with ⟨c, rest, head⟩
  exact ⟨c, rest, head, isWord c (by simp [head])⟩

theorem compactText_of_opening {value : Json} {mark : Char} (opens : value.opening? = some mark) :
    IsMark mark ∧ ∃ rest, value.compactText = mark :: rest := by
  cases value with
  | string text =>
      cases opens
      exact ⟨by simp [IsMark], _, rfl⟩
  | array items =>
      cases opens
      cases items <;> exact ⟨by simp [IsMark], _, rfl⟩
  | object fields =>
      cases opens
      cases fields with
      | nil => exact ⟨by simp [IsMark], _, rfl⟩
      | cons field fields => exact ⟨by simp [IsMark], _, rfl⟩
  | _ => cases opens

/-- The first character tells strings, arrays, objects and words apart. -/
theorem opening?_eq_of_compactText {value other : Json} {rest left : List Char}
    (equal : value.compactText ++ rest = other.compactText ++ left) :
    value.opening? = other.opening? := by
  cases opens : value.opening? with
  | none =>
      cases opens' : other.opening? with
      | none => rfl
      | some mark =>
          rcases compactText_head_of_word opens with ⟨c, chars, head, plain⟩
          rcases compactText_of_opening opens' with ⟨isMark, others, head'⟩
          rw [head, head', List.cons_append, List.cons_append, List.cons.injEq] at equal
          exact absurd (equal.1 ▸ isMark) plain
  | some mark =>
      rcases compactText_of_opening opens with ⟨isMark, chars, head⟩
      cases opens' : other.opening? with
      | none =>
          rcases compactText_head_of_word opens' with ⟨c, others, head', plain⟩
          rw [head, head', List.cons_append, List.cons_append, List.cons.injEq] at equal
          exact absurd (equal.1 ▸ isMark) plain
      | some mark' =>
          rcases compactText_of_opening opens' with ⟨_, others, head'⟩
          rw [head, head', List.cons_append, List.cons_append, List.cons.injEq] at equal
          rw [equal.1]

theorem settled_eq_of_word {value other : Json} (word : value.opening? = none)
    (word' : other.opening? = none) {rest left : List Char} (delimited : Delimited rest)
    (delimited' : Delimited left)
    (equal : value.compactText ++ rest = other.compactText ++ left) :
    value.settled = other.settled ∧ rest = left := by
  rcases word_append_injective (isWord_compactText word)
      (isWord_compactText word') delimited delimited' equal with ⟨texts, rfl⟩
  refine ⟨(settledWord_settled word).eq_of_compactText (settledWord_settled word') ?_, rfl⟩
  rw [compactText_settled_of_word word, compactText_settled_of_word word', texts]

end Words

section Containers

theorem compactText_ne_closing (value : Json) (rest left : List Char) :
    value.compactText ++ rest ≠ ']' :: left := by
  intro equal
  cases opens : value.opening? with
  | none =>
      rcases compactText_head_of_word opens with ⟨c, chars, head, plain⟩
      rw [head, List.cons_append, List.cons.injEq] at equal
      exact plain (equal.1 ▸ by simp [IsMark])
  | some mark =>
      rcases compactText_of_opening opens with ⟨_, chars, head⟩
      rw [head, List.cons_append, List.cons.injEq] at equal
      rw [equal.1] at opens
      cases value <;> cases opens

theorem delimited_compactItems (items : List Json) (rest : List Char) :
    Delimited (compactItems items ++ rest) := by
  cases items with
  | nil => exact delimited_cons (by simp [IsMark]) _
  | cons item items => exact delimited_cons (by simp [IsMark]) _

theorem delimited_compactFields (fields : List (String × Json)) (rest : List Char) :
    Delimited (compactFields fields ++ rest) := by
  cases fields with
  | nil => exact delimited_cons (by simp [IsMark]) _
  | cons field fields => exact delimited_cons (by simp [IsMark]) _

mutual

/-- What follows a value is determined together with the value. -/
theorem settled_eq_of_compactText (value other : Json) {rest left : List Char}
    (delimited : Delimited rest) (delimited' : Delimited left)
    (equal : value.compactText ++ rest = other.compactText ++ left) :
    value.settled = other.settled ∧ rest = left := by
  have openings := opening?_eq_of_compactText equal
  cases value with
  | string text =>
      cases other with
      | string text' =>
          rw [compactText, compactText] at equal
          rcases stringText_append_injective equal with ⟨rfl, rfl⟩
          exact ⟨rfl, rfl⟩
      | _ => cases openings
  | array items =>
      cases other with
      | array others =>
          rcases settledItems_eq_of_arrayText items others equal with ⟨itemsEqual, rfl⟩
          exact ⟨by rw [settled, settled, itemsEqual], rfl⟩
      | _ => cases openings
  | object fields =>
      cases other with
      | object others =>
          rcases settledFields_eq_of_objectText fields others equal with ⟨fieldsEqual, rfl⟩
          exact ⟨by rw [settled, settled, fieldsEqual], rfl⟩
      | _ => cases openings
  | _ => exact settled_eq_of_word rfl openings.symm delimited delimited' equal

theorem settledItems_eq_of_arrayText (items others : List Json) {rest left : List Char}
    (equal : (Json.array items).compactText ++ rest = (Json.array others).compactText ++ left) :
    settledItems items = settledItems others ∧ rest = left := by
  match items, others with
  | [], [] => exact ⟨rfl, by simpa [compactText] using equal⟩
  | [], other :: others =>
      simp only [compactText, List.cons_append, List.cons.injEq, true_and, List.append_assoc]
        at equal
      exact absurd equal.symm (compactText_ne_closing _ _ _)
  | item :: items, [] =>
      simp only [compactText, List.cons_append, List.cons.injEq, true_and, List.append_assoc]
        at equal
      exact absurd equal (compactText_ne_closing _ _ _)
  | item :: items, other :: others =>
      simp only [compactText, List.cons_append, List.cons.injEq, true_and, List.append_assoc]
        at equal
      rcases settled_eq_of_compactText item other
          (delimited_compactItems _ _) (delimited_compactItems _ _) equal with ⟨itemEqual, tails⟩
      rcases settledItems_eq_of_compactItems items others tails with ⟨itemsEqual, rfl⟩
      exact ⟨by rw [settledItems, settledItems, itemEqual, itemsEqual], rfl⟩

theorem settledItems_eq_of_compactItems (items others : List Json) {rest left : List Char}
    (equal : compactItems items ++ rest = compactItems others ++ left) :
    settledItems items = settledItems others ∧ rest = left := by
  match items, others with
  | [], [] => exact ⟨rfl, by simpa [compactItems] using equal⟩
  | [], other :: others => simp [compactItems] at equal
  | item :: items, [] => simp [compactItems] at equal
  | item :: items, other :: others =>
      simp only [compactItems, List.cons_append, List.cons.injEq, true_and, List.append_assoc]
        at equal
      rcases settled_eq_of_compactText item other
          (delimited_compactItems _ _) (delimited_compactItems _ _) equal with ⟨itemEqual, tails⟩
      rcases settledItems_eq_of_compactItems items others tails with ⟨itemsEqual, rfl⟩
      exact ⟨by rw [settledItems, settledItems, itemEqual, itemsEqual], rfl⟩

theorem settledFields_eq_of_objectText (fields others : List (String × Json))
    {rest left : List Char}
    (equal : (Json.object fields).compactText ++ rest =
      (Json.object others).compactText ++ left) :
    settledFields fields = settledFields others ∧ rest = left := by
  match fields, others with
  | [], [] => exact ⟨rfl, by simpa [compactText] using equal⟩
  | [], (key, other) :: others => simp [compactText, stringText] at equal
  | (key, value) :: fields, [] => simp [compactText, stringText] at equal
  | (key, value) :: fields, (key', other) :: others =>
      simp only [compactText, List.cons_append, List.cons.injEq, true_and, List.append_assoc]
        at equal
      rcases stringText_append_injective equal with ⟨rfl, values⟩
      rcases settled_eq_of_compactText value other
          (delimited_compactFields _ _) (delimited_compactFields _ _) (List.cons.inj values).2 with
        ⟨valueEqual, tails⟩
      rcases settledFields_eq_of_compactFields fields others tails with ⟨fieldsEqual, rfl⟩
      exact ⟨by rw [settledFields, settledFields, valueEqual, fieldsEqual], rfl⟩

theorem settledFields_eq_of_compactFields (fields others : List (String × Json))
    {rest left : List Char}
    (equal : compactFields fields ++ rest = compactFields others ++ left) :
    settledFields fields = settledFields others ∧ rest = left := by
  match fields, others with
  | [], [] => exact ⟨rfl, by simpa [compactFields] using equal⟩
  | [], (key, other) :: others => simp [compactFields] at equal
  | (key, value) :: fields, [] => simp [compactFields] at equal
  | (key, value) :: fields, (key', other) :: others =>
      simp only [compactFields, List.cons_append, List.cons.injEq, true_and, List.append_assoc]
        at equal
      rcases stringText_append_injective equal with ⟨rfl, values⟩
      rcases settled_eq_of_compactText value other
          (delimited_compactFields _ _) (delimited_compactFields _ _) (List.cons.inj values).2 with
        ⟨valueEqual, tails⟩
      rcases settledFields_eq_of_compactFields fields others tails with ⟨fieldsEqual, rfl⟩
      exact ⟨by rw [settledFields, settledFields, valueEqual, fieldsEqual], rfl⟩

end

end Containers

mutual

/-- Settling a value does not change its text. -/
theorem compactText_settled (value : Json) : value.settled.compactText = value.compactText := by
  cases value with
  | array items =>
      cases items with
      | nil => rfl
      | cons item items =>
          rw [settled, settledItems, compactText, compactText, compactText_settled item,
            compactItems_settled items]
  | object fields =>
      match fields with
      | [] => rfl
      | (key, value) :: fields =>
          rw [settled, settledFields, compactText, compactText, compactText_settled value,
            compactFields_settled fields]
  | string text => rfl
  | _ => exact compactText_settled_of_word rfl

theorem compactItems_settled (items : List Json) :
    compactItems (settledItems items) = compactItems items := by
  match items with
  | [] => rfl
  | item :: items =>
      rw [settledItems, compactItems, compactItems, compactText_settled item,
        compactItems_settled items]

theorem compactFields_settled (fields : List (String × Json)) :
    compactFields (settledFields fields) = compactFields fields := by
  match fields with
  | [] => rfl
  | (key, value) :: fields =>
      rw [settledFields, compactFields, compactFields, compactText_settled value,
        compactFields_settled fields]

end

/-- Two values have one compact text exactly when they are the same once settled. -/
theorem compact_eq_iff (value other : Json) :
    value.compact = other.compact ↔ value.settled = other.settled := by
  constructor
  · intro equal
    have texts := congrArg (· ++ []) (String.ofList_injective equal)
    exact (settled_eq_of_compactText value other delimited_nil delimited_nil texts).1
  · intro equal
    rw [compact, compact, ← compactText_settled, equal, compactText_settled]

end Json

end OptionCompiler
