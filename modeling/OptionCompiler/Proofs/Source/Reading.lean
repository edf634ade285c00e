import OptionCompiler.Proofs.Source.Spelling
/-!
# Literals are read back

A reader of source takes a literal apart from its opening quote on. A backslash begins an escape,
the first quote without a backslash ends the literal, and every other character stands for itself,
except for the few that a literal cannot hold as they are.

What is written for a text or for a character is read as it was, and the reading stops right behind
the literal, whatever follows. The argument is about one character: its form in a literal is read
as that character, and never begins with the quote, so the induction over the text is not derailed
by what stands next to it.
-/

namespace OptionCompiler

namespace Source

/-- A form of literal. -/
inductive LiteralForm where
  | string
  | character
deriving DecidableEq, Repr

namespace LiteralForm

/-- The quote at both ends of a literal. -/
def quote : LiteralForm → Char
  | .string => '"'
  | .character => '\''

/-- The characters that a literal holds in escapes only. -/
def escapedOnly : LiteralForm → List Char
  | .string => ['\r']
  | .character => ['\n', '\r', '\t']

end LiteralForm

section Reader

/-- The character whose code stands before a closing brace, and what follows the brace. The code
has at most six hexadecimal digits. -/
def coded? (chars : List Char) : Option (Char × List Char) :=
  match chars.dropWhile (· ≠ '}') with
  | [] => none
  | _ :: rest =>
      let digits := chars.takeWhile (· ≠ '}')
      if 6 < digits.length then none
      else do
        let code ← Text.number? 16 digits
        let c ← Text.charOfCode? code
        return (c, rest)

/-- The character that an escape stands for, after its backslash, and what follows it. -/
def escaped? : List Char → Option (Char × List Char)
  | '\\' :: rest => some ('\\', rest)
  | '"' :: rest => some ('"', rest)
  | '\'' :: rest => some ('\'', rest)
  | 'n' :: rest => some ('\n', rest)
  | 'r' :: rest => some ('\r', rest)
  | 't' :: rest => some ('\t', rest)
  | '0' :: rest => some ('\x00', rest)
  | 'u' :: '{' :: rest => coded? rest
  | _ => none

/-- The first character inside a literal, and what follows it. -/
def inside? (form : LiteralForm) : List Char → Option (Char × List Char)
  | [] => none
  | c :: rest =>
      if c = '\\' then escaped? rest
      else if c = form.quote ∨ c ∈ form.escapedOnly then none
      else some (c, rest)

theorem length_lt_of_coded? {chars rest : List Char} {c : Char}
    (read : coded? chars = some (c, rest)) : rest.length < chars.length := by
  unfold coded? at read
  split at read
  · cases read
  · next dropped =>
      have shorter := (List.dropWhile_suffix (l := chars) (· ≠ '}')).length_le
      rw [dropped, List.length_cons] at shorter
      simp only [Option.bind_eq_bind, Option.ite_none_left_eq_some, Option.bind_eq_some_iff,
        Option.pure_def, Option.some.injEq, Prod.mk.injEq] at read
      rcases read with ⟨_, _, _, _, _, _, rfl⟩
      omega

theorem length_lt_of_escaped? {chars rest : List Char} {c : Char}
    (read : escaped? chars = some (c, rest)) : rest.length < chars.length := by
  unfold escaped? at read
  split at read
  case h_8 =>
    have shorter := length_lt_of_coded? read
    simp only [List.length_cons]
    omega
  case h_9 => cases read
  all_goals
    cases read
    exact Nat.lt_succ_self _

theorem length_lt_of_inside? {form : LiteralForm} {chars rest : List Char} {c : Char}
    (read : inside? form chars = some (c, rest)) : rest.length < chars.length := by
  cases chars with
  | nil => cases read
  | cons first chars =>
      simp only [inside?] at read
      split_ifs at read
      · exact Nat.lt_succ_of_lt (length_lt_of_escaped? read)
      · cases read
        exact Nat.lt_succ_self _

/-- The characters of a text up to its closing quote, and what follows the quote. -/
def textUpToQuote? (chars : List Char) : Option (List Char × List Char) :=
  if chars.head? = some '"' then some ([], chars.tail)
  else
    match _read : inside? .string chars with
    | none => none
    | some (c, rest) => (textUpToQuote? rest).map fun (text, left) => (c :: text, left)
termination_by chars.length
decreasing_by exact length_lt_of_inside? ‹inside? .string chars = some (c, rest)›

/-- The text of the string literal in front, and what follows the literal. -/
def readString? (source : String) : Option (String × String) :=
  match source.toList with
  | '"' :: rest =>
      (textUpToQuote? rest).map fun (text, left) => (String.ofList text, String.ofList left)
  | _ => none

/-- The character of the character literal in front, and what follows the literal. -/
def readCharacter? (source : String) : Option (Char × String) :=
  match source.toList with
  | '\'' :: rest =>
      match inside? .character rest with
      | some (c, '\'' :: left) => some (c, String.ofList left)
      | _ => none
  | _ => none

end Reader

section Characters

theorem length_toDigits_le : ∀ code < 160, (Nat.toDigits 16 code).length ≤ 6 := by
  decide +kernel

theorem charOfCode?_toNat (c : Char) : Text.charOfCode? c.toNat = some c := by
  have valid : c.toNat.isValidChar := c.valid
  rw [Text.charOfCode?, if_pos valid, Char.ofNat_toNat]

theorem coded?_toDigits {c : Char} (control : Text.isControl c = true) (rest : List Char) :
    coded? (Nat.toDigits 16 c.toNat ++ '}' :: rest) = some (c, rest) := by
  have small := toNat_lt_of_isControl control
  have digits : ∀ digit ∈ Nat.toDigits 16 c.toNat, decide (digit ≠ '}') = true :=
    fun digit member => decide_eq_true (ne_of_mem_of_not_mem member (not_mem_toDigits _ small).1)
  unfold coded?
  rw [List.takeWhile_append_of_pos digits, List.dropWhile_append_of_pos digits]
  simp [number?_toDigits _ small, charOfCode?_toNat, length_toDigits_le _ small]

/-- The form of a character in a literal is read as that character. -/
theorem inside?_literalChar (form : LiteralForm) (c : Char) (rest : List Char) :
    inside? form (literalChar form.quote c ++ rest) = some (c, rest) := by
  unfold literalChar
  split
  case h_6 notBackslash notFeed notReturn notTab _ =>
    split_ifs with isQuote control
    · subst isQuote
      cases form <;> rfl
    · have codes := coded?_toDigits control rest
      simpa [Text.codeEscape, inside?, escaped?] using codes
    · have plain : c ∉ form.escapedOnly := by
        cases form <;> simp_all [LiteralForm.escapedOnly]
      have notBackslash : c ≠ '\\' := notBackslash
      simp [inside?, notBackslash, isQuote, plain]
  all_goals rfl

theorem not_any_isControl_toDigits :
    ∀ code < 160, (Nat.toDigits 16 code).any Text.isControl = false := by
  decide +kernel

/-- No character is shown by a control character. -/
theorem not_any_isControl_literalChar (form : LiteralForm) (c : Char) :
    (literalChar form.quote c).any Text.isControl = false := by
  unfold literalChar
  split
  case h_6 =>
    split_ifs with isQuote control
    · subst isQuote
      cases form <;> rfl
    · have digits := not_any_isControl_toDigits _ (toNat_lt_of_isControl control)
      rw [Text.codeEscape, List.any_append, List.any_append, digits]
      rfl
    · simpa using control
  all_goals rfl

end Characters

section Texts

theorem textUpToQuote?_quote (rest : List Char) :
    textUpToQuote? ('"' :: rest) = some ([], rest) := by
  rw [textUpToQuote?]
  simp

theorem textUpToQuote?_of_inside? {chars rest : List Char} {c : Char}
    (notQuote : chars.head? ≠ some '"') (read : inside? .string chars = some (c, rest)) :
    textUpToQuote? chars = (textUpToQuote? rest).map fun (text, left) => (c :: text, left) := by
  rw [textUpToQuote?, if_neg notQuote]
  split
  · next unread => simp [read] at unread
  · next found =>
      rw [read] at found
      cases found
      rfl

/-- The characters of a text are read one after the other up to the closing quote. -/
theorem textUpToQuote?_literalChars (chars rest : List Char) :
    textUpToQuote? (chars.flatMap (literalChar '"') ++ '"' :: rest) = some (chars, rest) := by
  induction chars with
  | nil => exact textUpToQuote?_quote rest
  | cons c chars ih =>
      rw [List.flatMap_cons, List.append_assoc]
      have read := inside?_literalChar .string c (chars.flatMap (literalChar '"') ++ '"' :: rest)
      have notQuote :
          (literalChar '"' c ++ (chars.flatMap (literalChar '"') ++ '"' :: rest)).head? ≠
            some '"' := by
        intro opens
        rcases List.head?_eq_some_iff.mp opens with ⟨others, equal⟩
        exact literalChar_ne_quote (.inl rfl) c _ others equal
      rw [textUpToQuote?_of_inside? notQuote read, ih]
      rfl

theorem readString?_stringLiteral (text rest : String) :
    readString? (stringLiteral text ++ rest) = some (text, rest) := by
  have chars : (stringLiteral text ++ rest).toList =
      '"' :: (text.toList.flatMap (literalChar '"') ++ '"' :: rest.toList) := by
    simp [stringLiteral, String.toList_append]
  unfold readString?
  rw [chars]
  simp [textUpToQuote?_literalChars]

theorem readCharacter?_charLiteral (c : Char) (rest : String) :
    readCharacter? (charLiteral c ++ rest) = some (c, rest) := by
  have chars : (charLiteral c ++ rest).toList =
      '\'' :: (literalChar '\'' c ++ '\'' :: rest.toList) := by
    simp [charLiteral, String.toList_append]
  have read := inside?_literalChar .character c ('\'' :: rest.toList)
  unfold readCharacter?
  rw [chars]
  simp only [LiteralForm.quote] at read
  simp [read]

theorem not_any_isControl_stringLiteral (text : String) :
    (stringLiteral text).toList.any Text.isControl = false := by
  have shown (c : Char) : (literalChar '"' c).any Text.isControl = false :=
    not_any_isControl_literalChar .string c
  have quotes : Text.isControl '"' = false := rfl
  simp [stringLiteral, List.any_flatMap, shown, quotes]

theorem not_any_isControl_charLiteral (c : Char) :
    (charLiteral c).toList.any Text.isControl = false := by
  have shown : (literalChar '\'' c).any Text.isControl = false :=
    not_any_isControl_literalChar .character c
  have quotes : Text.isControl '\'' = false := rfl
  simp [charLiteral, shown, quotes]

theorem linesFrom_of_not_mem {reversed chars : List Char} (oneLine : '\n' ∉ chars)
    (nonempty : reversed ≠ [] ∨ chars ≠ []) :
    Text.linesFrom reversed chars = [reversed.reverse ++ chars] := by
  induction chars generalizing reversed with
  | nil =>
      have someRead : reversed ≠ [] := by simpa using nonempty
      simp [Text.linesFrom, someRead]
  | cons c chars ih =>
      simp only [List.mem_cons, not_or] at oneLine
      rw [Text.linesFrom, if_neg (Ne.symm oneLine.1), ih oneLine.2 (.inl (by simp))]
      simp

/-- A text without a line feed is one line. -/
theorem lines_of_isLine {text : String} (isLine : IsLine text) (nonempty : text ≠ "") :
    Text.lines text = [text] := by
  have some : text.toList ≠ [] := by simpa using nonempty
  rw [Text.lines, linesFrom_of_not_mem isLine (.inr some)]
  simp

end Texts

/-- Literals of texts and of characters are read back as they were, up to where they end, and hold
no control character, so each is one line. -/
theorem literals_read_back :
    (∀ text rest : String, readString? (stringLiteral text ++ rest) = some (text, rest)) ∧
    (∀ (c : Char) (rest : String), readCharacter? (charLiteral c ++ rest) = some (c, rest)) ∧
    (∀ text : String, (stringLiteral text).toList.any Text.isControl = false ∧
      Text.lines (stringLiteral text) = [stringLiteral text]) ∧
    (∀ c : Char, (charLiteral c).toList.any Text.isControl = false ∧
      Text.lines (charLiteral c) = [charLiteral c]) := by
  refine ⟨readString?_stringLiteral, readCharacter?_charLiteral, ?_, ?_⟩
  · intro text
    refine ⟨not_any_isControl_stringLiteral text, ?_⟩
    exact lines_of_isLine (isLine_stringLiteral text) (by simp [stringLiteral])
  · intro c
    refine ⟨not_any_isControl_charLiteral c, ?_⟩
    exact lines_of_isLine (isLine_charLiteral c) (by simp [charLiteral])

end Source

end OptionCompiler
