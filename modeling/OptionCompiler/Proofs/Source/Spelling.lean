import Mathlib
import OptionCompiler.Proofs.Source.Lines
import OptionCompiler.Source.Spelling
import OptionCompiler.Text
/-!
# Fragments are lines and can be read back

Literals, ranges of counts, identifiers and comments each stay on one line, whatever text they are
made of. Literals, ranges and identifiers moreover tell what they were made of: a literal shows its
characters by codes none of which begins like another one, the digits of a count end at the dots,
and a name has none of the marker of a keyword.
-/

namespace OptionCompiler

namespace Source

section Characters

/-- A quote around a literal. -/
def IsQuote (quote : Char) : Prop :=
  quote = '"' ∨ quote = '\''

/-- The first character that the inside of a literal means, and what follows it. -/
def firstLiteral : List Char → Option (Char × List Char)
  | '\\' :: 'u' :: '{' :: rest =>
      (Text.number? 16 (rest.takeWhile (· ≠ '}'))).map fun code =>
        (Char.ofNat code, (rest.dropWhile (· ≠ '}')).tail)
  | '\\' :: 'n' :: rest => some ('\n', rest)
  | '\\' :: 'r' :: rest => some ('\r', rest)
  | '\\' :: 't' :: rest => some ('\t', rest)
  | '\\' :: '0' :: rest => some ('\x00', rest)
  | '\\' :: c :: rest => some (c, rest)
  | c :: rest => some (c, rest)
  | [] => none

theorem number?_toDigits : ∀ code < 160, Text.number? 16 (Nat.toDigits 16 code) = some code := by
  decide +kernel

theorem not_mem_toDigits :
    ∀ code < 160, '}' ∉ Nat.toDigits 16 code ∧ '\n' ∉ Nat.toDigits 16 code := by
  decide +kernel

theorem toNat_lt_of_isControl {c : Char} (control : Text.isControl c = true) : c.toNat < 160 := by
  simp only [Text.isControl, Bool.or_eq_true, Bool.and_eq_true, decide_eq_true_eq] at control
  omega

theorem firstLiteral_codeEscape {c : Char} (control : Text.isControl c = true) (rest : List Char) :
    firstLiteral (Text.codeEscape c ++ rest) = some (c, rest) := by
  have small := toNat_lt_of_isControl control
  have digits : ∀ digit ∈ Nat.toDigits 16 c.toNat, decide (digit ≠ '}') = true :=
    fun digit member => decide_eq_true (ne_of_mem_of_not_mem member (not_mem_toDigits _ small).1)
  simp only [Text.codeEscape, List.cons_append, List.nil_append, List.append_assoc, firstLiteral]
  rw [List.takeWhile_append_of_pos digits, List.dropWhile_append_of_pos digits]
  simp [number?_toDigits _ small]

theorem firstLiteral_literalChar {quote : Char} (isQuote : IsQuote quote) (c : Char)
    (rest : List Char) : firstLiteral (literalChar quote c ++ rest) = some (c, rest) := by
  unfold literalChar
  split
  case h_6 =>
    split_ifs with isC control
    · subst isC
      rcases isQuote with rfl | rfl <;> rfl
    · exact firstLiteral_codeEscape control rest
    · rw [List.singleton_append, firstLiteral.eq_def]
      split <;> simp_all
  all_goals rfl

/-- The inside of a literal is read character by character. -/
theorem isPrefixCode_literalChar {quote : Char} (isQuote : IsQuote quote) :
    Text.IsPrefixCode (literalChar quote) := by
  intro c d rest left equal
  have first := firstLiteral_literalChar isQuote c rest
  rw [equal, firstLiteral_literalChar isQuote] at first
  simpa [eq_comm] using first

/-- A shown character is no closing quote. -/
theorem literalChar_ne_quote {quote : Char} (isQuote : IsQuote quote) (c : Char)
    (rest others : List Char) : literalChar quote c ++ rest ≠ quote :: others := by
  unfold literalChar
  split
  case h_6 =>
    split_ifs with isC control
    · rcases isQuote with rfl | rfl <;> simp
    · rcases isQuote with rfl | rfl <;> simp [Text.codeEscape]
    · simp [isC]
  all_goals rcases isQuote with rfl | rfl <;> simp

theorem not_mem_literalChar {quote : Char} (isQuote : IsQuote quote) (c : Char) :
    '\n' ∉ literalChar quote c := by
  unfold literalChar
  split
  case h_6 notFeed _ _ _ =>
    split_ifs with isC control
    · rcases isQuote with rfl | rfl <;> simp [isC]
    · have digits := (not_mem_toDigits _ (toNat_lt_of_isControl control)).2
      simp [Text.codeEscape, digits]
    · simpa [eq_comm] using notFeed
  all_goals decide

end Characters

section Literals

/-- A string literal says where it ends. -/
theorem stringLiteral_append_injective {text other : String} {rest left : List Char}
    (equal : (stringLiteral text).toList ++ rest = (stringLiteral other).toList ++ left) :
    text = other ∧ rest = left := by
  have isQuote : IsQuote '"' := .inl rfl
  simp only [stringLiteral, String.toList_ofList, List.cons_append, List.append_assoc,
    List.nil_append, List.cons.injEq, true_and] at equal
  rcases (isPrefixCode_literalChar isQuote).flatMap_append_injective
      (fun c others => literalChar_ne_quote isQuote c others rest)
      (fun c others => literalChar_ne_quote isQuote c others left) equal with ⟨chars, ends⟩
  exact ⟨String.toList_inj.mp chars, (List.cons.inj ends).2⟩

theorem stringLiteral_injective : Function.Injective stringLiteral := by
  intro text other equal
  have chars : (stringLiteral text).toList ++ [] = (stringLiteral other).toList ++ [] := by
    rw [equal]
  exact (stringLiteral_append_injective chars).1

theorem charLiteral_injective : Function.Injective charLiteral := by
  intro c d equal
  have chars : literalChar '\'' c ++ ['\''] = literalChar '\'' d ++ ['\''] :=
    (List.cons.inj (String.ofList_inj.mp equal)).2
  exact (isPrefixCode_literalChar (.inr rfl) c d _ _ chars).1

theorem isLine_stringLiteral (text : String) : IsLine (stringLiteral text) := by
  have shown (c : Char) : '\n' ∉ literalChar '"' c := not_mem_literalChar (.inl rfl) c
  simp [IsLine, stringLiteral, shown]

theorem isLine_charLiteral (c : Char) : IsLine (charLiteral c) := by
  have shown : '\n' ∉ literalChar '\'' c := not_mem_literalChar (.inr rfl) c
  simp [IsLine, charLiteral, shown]

end Literals

section Counts

theorem isDigit_of_mem_toString {number : Nat} {c : Char} (member : c ∈ (toString number).toList) :
    c.isDigit = true := by
  rw [show toString number = number.repr from rfl, Nat.toList_repr] at member
  exact Nat.isDigit_of_mem_toDigits (by decide) (by decide) member

theorem isLine_toString (number : Nat) : IsLine (toString number) := by
  intro member
  exact absurd (isDigit_of_mem_toString member) (by decide)

theorem isLine_countRange (min : UInt32) (max : Option UInt32) : IsLine (countRange min max) := by
  unfold countRange
  cases max with
  | none => exact isLine_append.mpr ⟨isLine_toString _, by decide⟩
  | some max =>
      exact isLine_append.mpr
        ⟨isLine_append.mpr ⟨isLine_toString _, by decide⟩, isLine_toString _⟩

/-- What stands after the dots of a range. -/
def rangeEnd : Option UInt32 → String
  | some max => "=" ++ toString max.toNat
  | none => ""

theorem countRange_eq (min : UInt32) (max : Option UInt32) :
    countRange min max = toString min.toNat ++ (".." ++ rangeEnd max) := by
  cases max with
  | none => rfl
  | some max =>
      rw [countRange, rangeEnd, String.append_assoc]
      congr 1

theorem rangeEnd_injective : Function.Injective rangeEnd := by
  intro max other equal
  cases max with
  | none =>
      cases other with
      | none => rfl
      | some other =>
          have chars := congrArg String.toList equal
          simp [rangeEnd, String.toList_append] at chars
  | some max =>
      cases other with
      | none =>
          have chars := congrArg String.toList equal
          simp [rangeEnd, String.toList_append] at chars
      | some other =>
          have numbers : toString max.toNat = toString other.toNat :=
            (String.append_right_inj _).mp equal
          rw [UInt32.toNat_inj.mp (Nat.repr_inj.mp numbers)]

/-- A range tells its least and its greatest count. -/
theorem countRange_injective {min least : UInt32} {max greatest : Option UInt32}
    (equal : countRange min max = countRange least greatest) : min = least ∧ max = greatest := by
  rw [countRange_eq, countRange_eq] at equal
  have chars := congrArg String.toList equal
  simp only [String.toList_append] at chars
  have dots : "..".toList = ['.', '.'] := rfl
  rw [dots, List.cons_append, List.cons_append] at chars
  rcases Text.append_cons_injective (fun c => c.isDigit = true)
      (fun c => isDigit_of_mem_toString) (fun c => isDigit_of_mem_toString) (by decide) (by decide)
      chars with ⟨digits, _, ends⟩
  have leasts := Nat.repr_inj.mp (String.toList_inj.mp digits)
  have ending := String.toList_inj.mp (List.cons.inj ends).2
  exact ⟨UInt32.toNat_inj.mp leasts, rangeEnd_injective ending⟩

end Counts

section Identifiers

theorem identifier_eq_ok_iff {name spelled : String} :
    identifier name = .ok spelled ↔
      name ∉ reservedWords ∧ isIdentifier name = true ∧
        spelled = if name ∈ markedKeywords then identifierMarker ++ name else name := by
  have outcome : identifier name = if name ∈ reservedWords then .error (.reservedWord name)
      else if !isIdentifier name then .error (.malformedIdentifier name)
      else .ok (if name ∈ markedKeywords then identifierMarker ++ name else name) := by
    unfold identifier
    split_ifs <;> rfl
  rw [outcome]
  by_cases reserved : name ∈ reservedWords
  · rw [if_pos reserved]
    exact ⟨by simp, fun spells => absurd reserved spells.1⟩
  · rw [if_neg reserved]
    cases shaped : isIdentifier name with
    | false => simp
    | true =>
        exact ⟨fun spells => ⟨reserved, rfl, (Except.ok.inj spells).symm⟩,
          fun spells => congrArg Except.ok spells.2.2.symm⟩

theorem isIdentifierPart_of_mem {name : String} (shaped : isIdentifier name = true) :
    ∀ c ∈ name.toList, isIdentifierPart c = true := by
  unfold isIdentifier at shaped
  intro c member
  cases chars : name.toList with
  | nil => simp [chars] at member
  | cons first rest =>
      rw [chars] at shaped member
      simp only [Bool.and_eq_true, List.all_eq_true] at shaped
      rcases List.mem_cons.mp member with rfl | later
      · have start := shaped.1
        simp only [isIdentifierStart, isIdentifierPart, Char.isAlphanum, Bool.or_eq_true] at start ⊢
        rcases start with letter | mark
        · exact .inl (.inl letter)
        · exact .inr mark
      · exact shaped.2 c later

theorem isLine_identifier {name spelled : String} (spells : identifier name = .ok spelled) :
    IsLine spelled := by
  rcases identifier_eq_ok_iff.mp spells with ⟨_, shaped, rfl⟩
  have line : IsLine name := by
    intro member
    exact absurd (isIdentifierPart_of_mem shaped _ member) (by decide)
  split_ifs
  · exact isLine_append.mpr ⟨by decide, line⟩
  · exact line

theorem not_mem_hash {name : String} (shaped : isIdentifier name = true) : '#' ∉ name.toList := by
  intro member
  exact absurd (isIdentifierPart_of_mem shaped _ member) (by decide)

/-- Names that are spelled alike are the same. -/
theorem identifier_injective {name other spelled : String} (spells : identifier name = .ok spelled)
    (spells' : identifier other = .ok spelled) : name = other := by
  rcases identifier_eq_ok_iff.mp spells with ⟨_, shaped, rfl⟩
  rcases identifier_eq_ok_iff.mp spells' with ⟨_, shaped', equal⟩
  have marked (text : String) : '#' ∈ (identifierMarker ++ text).toList := by
    simp [identifierMarker, String.toList_append]
  split_ifs at equal
  · exact (String.append_right_inj _).mp equal
  · exact absurd (equal ▸ marked name) (not_mem_hash shaped')
  · exact absurd (equal ▸ marked other) (not_mem_hash shaped)
  · exact equal

end Identifiers

section Comments

theorem mem_of_mem_endedLine {reversed : List Char} {c : Char}
    (member : c ∈ Text.endedLine reversed) : c ∈ reversed := by
  unfold Text.endedLine at member
  split at member <;> simp_all

theorem not_mem_linesFrom {reversed chars : List Char} (none : '\n' ∉ reversed) :
    ∀ line ∈ Text.linesFrom reversed chars, '\n' ∉ line := by
  induction chars generalizing reversed with
  | nil =>
      intro line member
      unfold Text.linesFrom at member
      split at member <;> simp_all
  | cons c chars ih =>
      unfold Text.linesFrom
      split_ifs with feed
      · intro line member
        rcases List.mem_cons.mp member with rfl | later
        · exact fun inside => none (mem_of_mem_endedLine inside)
        · exact ih (by simp) line later
      · exact ih (by simp [none, Ne.symm feed])

theorem mem_of_mem_trimEnd {text : String} {c : Char} (member : c ∈ (Text.trimEnd text).toList) :
    c ∈ text.toList := by
  simp only [Text.trimEnd, Text.dropTail, String.toList_ofList, List.mem_reverse] at member
  exact List.mem_reverse.mp ((List.dropWhile_sublist _).mem member)

theorem mem_of_mem_squeeze {lines : List String} {line : String}
    (member : line ∈ Text.squeeze lines) : line ∈ lines := by
  induction lines with
  | nil => exact member
  | cons first rest ih =>
      unfold Text.squeeze at member
      grind

theorem isLine_of_mem_logicalLines {block line : String} (member : line ∈ Text.logicalLines block) :
    IsLine line := by
  have inside := mem_of_mem_squeeze ((List.dropWhile_sublist _).mem member)
  rcases List.mem_map.mp inside with ⟨full, fullMember, rfl⟩
  rcases List.mem_map.mp fullMember with ⟨chars, charsMember, rfl⟩
  intro feed
  have original := mem_of_mem_trimEnd feed
  rw [String.toList_ofList] at original
  exact not_mem_linesFrom (by simp) chars charsMember original

theorem commentLine_line {marker line : String} (markerLine : IsLine marker)
    (isLine : IsLine line) :
    IsLine (commentLine marker line) ∧ ∃ rest, commentLine marker line = marker ++ rest := by
  unfold commentLine
  split_ifs
  · exact ⟨markerLine, "", String.append_empty.symm⟩
  · exact ⟨(markerLine.append (isLine_ofList (by decide))).append isLine, " " ++ line,
      String.append_assoc⟩

/-- A line of documentation stays on one line and begins with its marker. -/
theorem documentation_line {block line : String} (member : line ∈ documentation block) :
    IsLine line ∧ ∃ rest, line = documentationMarker ++ rest := by
  rcases List.mem_map.mp member with ⟨text, textMember, rfl⟩
  exact commentLine_line (isLine_ofList (by decide)) (isLine_of_mem_logicalLines textMember)

/-- A plain comment stays on one line and begins with its marker. -/
theorem lineComment_line {text comment : String} (spelled : lineComment text = .ok comment) :
    IsLine comment ∧ ∃ rest, comment = plainMarker ++ rest := by
  unfold lineComment at spelled
  split_ifs at spelled with terminated
  cases spelled
  apply commentLine_line (isLine_ofList (by decide))
  intro feed
  have terminates : text.toList.any isLineTerminator = true :=
    List.any_eq_true.mpr ⟨'\n', mem_of_mem_trimEnd feed, by decide⟩
  exact terminated terminates

end Comments

section Replacement

theorem mem_of_mem_replaceFrom {pattern replacement chars : List Char} {skipped : Nat} {c : Char}
    (member : c ∈ Text.replaceFrom pattern replacement skipped chars) :
    c ∈ replacement ∨ c ∈ chars := by
  induction chars generalizing skipped with
  | nil => exact .inr member
  | cons first rest ih =>
      unfold Text.replaceFrom at member
      grind

theorem isLine_replace {text pattern replacement : String} (textLine : IsLine text)
    (replacementLine : IsLine replacement) : IsLine (Text.replace text pattern replacement) := by
  intro member
  rw [Text.replace, String.toList_ofList] at member
  rcases mem_of_mem_replaceFrom member with inside | inside
  · exact replacementLine inside
  · exact textLine inside

end Replacement

end Source

end OptionCompiler
