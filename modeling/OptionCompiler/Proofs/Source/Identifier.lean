import OptionCompiler.Proofs.Source.Spelling
/-!
# Names and their identifiers

The words are the ASCII letters or underscores with letters, digits and underscores behind them. A
word is an identifier as it stands unless it is a keyword, and a keyword is one behind the marker,
but for the five that no marker helps. Spelling a name follows this exactly: it fails on these five
and on what is no word, and whatever it yields is read back as the name.

The hash of the marker stands in no word. So a spelled keyword is no keyword any more, and taking a
marker away gives the name in both cases.
-/

namespace OptionCompiler

namespace Source

section Words

/-- A letter of ASCII. -/
def IsLetter (c : Char) : Prop :=
  'a' ≤ c ∧ c ≤ 'z' ∨ 'A' ≤ c ∧ c ≤ 'Z'

/-- A letter or an underscore, with letters, digits and underscores behind it. -/
inductive IsWord : List Char → Prop where
  | intro {first : Char} {rest : List Char} (start : IsLetter first ∨ first = '_')
      (parts : ∀ c ∈ rest, IsLetter c ∨ '0' ≤ c ∧ c ≤ '9' ∨ c = '_') : IsWord (first :: rest)

theorem isAlpha_iff (c : Char) : c.isAlpha = true ↔ IsLetter c := by
  simp only [IsLetter, Char.isAlpha, Char.isUpper, Char.isLower, Bool.or_eq_true, Bool.and_eq_true,
    decide_eq_true_eq, ge_iff_le, Char.le_def]
  exact or_comm

theorem isIdentifierStart_iff (c : Char) :
    isIdentifierStart c = true ↔ IsLetter c ∨ c = '_' := by
  rw [isIdentifierStart, Bool.or_eq_true, isAlpha_iff, beq_iff_eq]

theorem isIdentifierPart_iff (c : Char) :
    isIdentifierPart c = true ↔ IsLetter c ∨ '0' ≤ c ∧ c ≤ '9' ∨ c = '_' := by
  have digit : c.isDigit = true ↔ '0' ≤ c ∧ c ≤ '9' := by
    simp only [Char.isDigit, Bool.and_eq_true, decide_eq_true_eq, ge_iff_le, Char.le_def]
  rw [isIdentifierPart, Bool.or_eq_true, Char.isAlphanum, Bool.or_eq_true, isAlpha_iff, digit,
    beq_iff_eq, or_assoc]

theorem isIdentifier_iff_isWord (name : String) :
    isIdentifier name = true ↔ IsWord name.toList := by
  unfold isIdentifier
  cases name.toList with
  | nil => exact iff_of_false Bool.false_ne_true nofun
  | cons first rest =>
      rw [Bool.and_eq_true, List.all_eq_true, isIdentifierStart_iff]
      simp only [isIdentifierPart_iff]
      constructor
      · rintro ⟨start, parts⟩
        exact .intro start parts
      · rintro ⟨start, parts⟩
        exact ⟨start, parts⟩

end Words

section Keywords

/-- The keywords that the language uses. -/
def strictKeywords : List String :=
  ["_", "as", "async", "await", "break", "const", "continue", "crate", "dyn", "else", "enum",
    "extern", "false", "fn", "for", "if", "impl", "in", "let", "loop", "match", "mod", "move",
    "mut", "pub", "ref", "return", "self", "Self", "static", "struct", "super", "trait", "true",
    "type", "unsafe", "use", "where", "while"]

/-- The keywords that the language keeps for later use. -/
def futureKeywords : List String :=
  ["abstract", "become", "box", "do", "final", "gen", "macro", "override", "priv", "try", "typeof",
    "unsized", "virtual", "yield"]

def IsKeyword (word : String) : Prop :=
  word ∈ strictKeywords ++ futureKeywords

/-- A keyword either takes the marker or is refused. -/
theorem isKeyword_iff (word : String) :
    IsKeyword word ↔ word ∈ markedKeywords ++ reservedWords := by
  have known : strictKeywords ++ futureKeywords ⊆ markedKeywords ++ reservedWords := by
    decide +kernel
  have known' : markedKeywords ++ reservedWords ⊆ strictKeywords ++ futureKeywords := by
    decide +kernel
  exact ⟨fun keyword => known keyword, fun member => known' member⟩

theorem IsKeyword.not_mem_hash {word : String} (keyword : IsKeyword word) : '#' ∉ word.toList := by
  have plain : ∀ word ∈ strictKeywords ++ futureKeywords, '#' ∉ word.toList := by decide +kernel
  exact plain word keyword

theorem isIdentifier_of_mem_reservedWords {name : String} (reserved : name ∈ reservedWords) :
    isIdentifier name = true := by
  have shaped : ∀ word ∈ reservedWords, isIdentifier word = true := by decide
  exact shaped name reserved

end Keywords

section Spelling

/-- What is left of a spelled name without a marker in front. -/
def withoutMarker (spelled : String) : String :=
  match spelled.toList with
  | 'r' :: '#' :: name => String.ofList name
  | _ => spelled

theorem withoutMarker_append (name : String) : withoutMarker (identifierMarker ++ name) = name := by
  have marker : identifierMarker.toList = ['r', '#'] := rfl
  simp [withoutMarker, String.toList_append, marker]

theorem withoutMarker_of_not_mem {name : String} (plain : '#' ∉ name.toList) :
    withoutMarker name = name := by
  unfold withoutMarker
  split
  · next rest marked => exact absurd (by simp [marked]) plain
  · rfl

variable {name spelled : String}

/-- A spelled name is the name, or the marker and the name if the name is a keyword. -/
theorem spelled_cases (spells : identifier name = .ok spelled) :
    spelled = identifierMarker ++ name ∧ name ∈ markedKeywords ∨
      spelled = name ∧ name ∉ markedKeywords := by
  rcases identifier_eq_ok_iff.mp spells with ⟨_, _, rfl⟩
  by_cases marked : name ∈ markedKeywords
  · exact .inl ⟨if_pos marked, marked⟩
  · exact .inr ⟨if_neg marked, marked⟩

theorem not_isKeyword_of_identifier (spells : identifier name = .ok spelled) :
    ¬IsKeyword spelled := by
  rcases spelled_cases spells with ⟨rfl, _⟩ | ⟨rfl, unmarked⟩
  · intro keyword
    apply keyword.not_mem_hash
    simp [identifierMarker, String.toList_append]
  · have reserved := (identifier_eq_ok_iff.mp spells).1
    rw [isKeyword_iff, List.mem_append, not_or]
    exact ⟨unmarked, reserved⟩

theorem withoutMarker_of_identifier (spells : identifier name = .ok spelled) :
    withoutMarker spelled = name := by
  rcases spelled_cases spells with ⟨rfl, _⟩ | ⟨rfl, _⟩
  · exact withoutMarker_append name
  · exact withoutMarker_of_not_mem (not_mem_hash (identifier_eq_ok_iff.mp spells).2.1)

theorem exists_identifier_iff (name : String) :
    (∃ spelled, identifier name = .ok spelled) ↔ IsWord name.toList ∧ name ∉ reservedWords := by
  rw [← isIdentifier_iff_isWord]
  constructor
  · rintro ⟨spelled, spells⟩
    rcases identifier_eq_ok_iff.mp spells with ⟨free, shaped, _⟩
    exact ⟨shaped, free⟩
  · rintro ⟨shaped, free⟩
    exact ⟨_, identifier_eq_ok_iff.mpr ⟨free, shaped, rfl⟩⟩

theorem identifier_eq_error_iff (name : String) (error : SpellingError) :
    identifier name = .error error ↔
      name ∈ reservedWords ∧ error = .reservedWord name ∨
        ¬IsWord name.toList ∧ error = .malformedIdentifier name := by
  rw [← isIdentifier_iff_isWord]
  unfold identifier
  by_cases reserved : name ∈ reservedWords
  · have shaped := isIdentifier_of_mem_reservedWords reserved
    simp [reserved, shaped, eq_comm]
  · cases shaped : isIdentifier name with
    | false => simp [reserved, eq_comm]
    | true =>
        by_cases marked : name ∈ markedKeywords <;> simp [reserved, marked]

/-- Exactly the words are spelled as identifiers, but for the five that stay keywords behind a
marker; the error says which of the two it was. A keyword is spelled with the marker and any other
name as it stands. What is spelled is no keyword, and without a marker in front it is the name, so
that no other name is spelled alike. -/
theorem identifier_exact (name : String) :
    ((∃ spelled, identifier name = .ok spelled) ↔
      IsWord name.toList ∧ name ∉ ["self", "Self", "super", "crate", "_"]) ∧
    (∀ error, identifier name = .error error ↔
      name ∈ ["self", "Self", "super", "crate", "_"] ∧ error = .reservedWord name ∨
        ¬IsWord name.toList ∧ error = .malformedIdentifier name) ∧
    ∀ spelled, identifier name = .ok spelled →
      (spelled = "r#" ++ name ∧ name ∈ markedKeywords ∨
        spelled = name ∧ name ∉ markedKeywords) ∧
      ¬IsKeyword spelled ∧ withoutMarker spelled = name ∧
      ∀ other, identifier other = .ok spelled → other = name := by
  refine ⟨exists_identifier_iff name, identifier_eq_error_iff name, ?_⟩
  intro spelled spells
  exact ⟨spelled_cases spells, not_isKeyword_of_identifier spells,
    withoutMarker_of_identifier spells, fun other spells' => identifier_injective spells' spells⟩

/-- A keyword and a name that begins like one. -/
theorem identifier_exact_type :
    identifier "type" = .ok "r#type" ∧ withoutMarker "r#type" = "type" ∧
      identifier "type_" = .ok "type_" ∧ withoutMarker "type_" = "type_" := by
  have keyword : identifier "type" = .ok "r#type" := by decide
  have plain : identifier "type_" = .ok "type_" := by decide
  exact ⟨keyword, ((identifier_exact "type").2.2 _ keyword).2.2.1, plain,
    ((identifier_exact "type_").2.2 _ plain).2.2.1⟩

end Spelling

end Source

end OptionCompiler
