import OptionCompiler.Input
import OptionCompiler.Proofs.Emission.Layout
import OptionCompiler.Proofs.Source.Spelling
import OptionCompiler.Proofs.Text.Trim
/-!
# Accepted runtime paths

A path is made of names that two colons separate, with two more colons in front of it if it is
rooted. The check of a configuration trims the text before it takes it apart, so it accepts a path
with white space around it, and nothing else. Generated code is written with the text as it
stands: what is written is a path exactly when the accepted text holds no white space.

Taking a text apart at its colons is right in both directions: what it yields can be put together
again (`isRelative_of_segmentsFrom`), and a name holds no colon, so a path is taken apart at the
colons that separate its names and nowhere else (`segmentsFrom_append`).
-/

namespace OptionCompiler

namespace RuntimePath

section Grammar

/-- The words that are no names. -/
def keywords : List String :=
  Source.markedKeywords ++ Source.reservedWords

/-- A letter or an underscore, and letters, digits and underscores after it, which are no keyword
together. -/
inductive IsName : List Char → Prop where
  | intro {first : Char} {rest : List Char} (start : Source.isIdentifierStart first = true)
      (parts : ∀ c ∈ rest, Source.isIdentifierPart c = true)
      (free : String.ofList (first :: rest) ∉ keywords) : IsName (first :: rest)

/-- Names that two colons separate. -/
inductive IsRelative : List Char → Prop where
  | name {name : List Char} (isName : IsName name) : IsRelative name
  | cons {name rest : List Char} (isName : IsName name) (more : IsRelative rest) :
      IsRelative (name ++ ':' :: ':' :: rest)

/-- A path, which may begin with two colons. -/
inductive IsPath : List Char → Prop where
  | relative {path : List Char} (names : IsRelative path) : IsPath path
  | rooted {path : List Char} (names : IsRelative path) : IsPath (':' :: ':' :: path)

/-- A path with white space around it. -/
def IsPadded (text : String) : Prop :=
  ∃ before path after, text.toList = before ++ (path ++ after) ∧
    (∀ c ∈ before, Text.isBlank c = true) ∧ (∀ c ∈ after, Text.isBlank c = true) ∧ IsPath path

end Grammar

section Characters

variable {name path : List Char}

theorem isIdentifier_iff :
    Source.isIdentifier (String.ofList name) = true ∧ String.ofList name ∉ keywords ↔
      IsName name := by
  unfold Source.isIdentifier
  rw [String.toList_ofList]
  constructor
  · rintro ⟨shaped, free⟩
    cases name with
    | nil => cases shaped
    | cons first rest =>
        rw [Bool.and_eq_true, List.all_eq_true] at shaped
        exact .intro shaped.1 shaped.2 free
  · rintro ⟨start, parts, free⟩
    exact ⟨by rw [Bool.and_eq_true, List.all_eq_true]; exact ⟨start, parts⟩, free⟩

theorem IsName.part (isName : IsName name) : ∀ c ∈ name, Source.isIdentifierPart c = true := by
  have parts := Source.isIdentifierPart_of_mem (isIdentifier_iff.mpr isName).1
  rwa [String.toList_ofList] at parts

theorem IsName.not_mem_colon (isName : IsName name) : ':' ∉ name := by
  intro member
  exact absurd (isName.part ':' member) (by decide)

theorem IsRelative.part (isRelative : IsRelative path) :
    ∀ c ∈ path, Source.isIdentifierPart c = true ∨ c = ':' := by
  induction isRelative with
  | name isName => exact fun c member => .inl (isName.part c member)
  | cons isName more ih =>
      intro c member
      simp only [List.mem_append, List.mem_cons] at member
      rcases member with inside | rfl | rfl | later
      · exact .inl (isName.part c inside)
      · exact .inr rfl
      · exact .inr rfl
      · exact ih c later

theorem toNat_of_isIdentifierPart {c : Char} (part : Source.isIdentifierPart c = true) :
    48 ≤ c.toNat ∧ c.toNat ≤ 122 := by
  have code : c.toNat = c.val.toNat := rfl
  simp only [Source.isIdentifierPart, Char.isAlphanum, Char.isAlpha, Char.isUpper, Char.isLower,
    Char.isDigit, Bool.or_eq_true, Bool.and_eq_true, decide_eq_true_eq, beq_iff_eq, ge_iff_le,
    UInt32.le_iff_toNat_le] at part
  rcases part with ((upper | lower) | digit) | rfl
  · have first : 65 ≤ c.val.toNat := upper.1
    have last : c.val.toNat ≤ 90 := upper.2
    omega
  · have first : 97 ≤ c.val.toNat := lower.1
    have last : c.val.toNat ≤ 122 := lower.2
    omega
  · have first : 48 ≤ c.val.toNat := digit.1
    have last : c.val.toNat ≤ 57 := digit.2
    omega
  · decide

theorem isBlank_of_isIdentifierPart {c : Char} (part : Source.isIdentifierPart c = true) :
    Text.isBlank c = false := by
  have code := toNat_of_isIdentifierPart part
  exact Text.isBlank_of_ascii (by omega) (by omega)

theorem IsPath.visible (isPath : IsPath path) : ∀ c ∈ path, Text.isBlank c = false := by
  have parts : ∀ c ∈ path, Source.isIdentifierPart c = true ∨ c = ':' := by
    cases isPath with
    | relative names => exact names.part
    | rooted names =>
        intro c member
        simp only [List.mem_cons] at member
        rcases member with rfl | rfl | later
        · exact .inr rfl
        · exact .inr rfl
        · exact names.part c later
  intro c member
  rcases parts c member with part | rfl
  · exact isBlank_of_isIdentifierPart part
  · decide

end Characters

section Segments

theorem isPlainSegment_iff {segment : List Char} :
    isPlainSegment segment = true ↔ IsName segment := by
  have spelled : isPlainSegment segment = true ↔
      Source.identifier (String.ofList segment) = .ok (String.ofList segment) := by
    unfold isPlainSegment
    cases Source.identifier (String.ofList segment) <;> simp
  rw [spelled, Source.identifier_eq_ok_iff, ← isIdentifier_iff, keywords, List.mem_append]
  by_cases marked : String.ofList segment ∈ Source.markedKeywords
  · have longer : String.ofList segment ≠ Source.identifierMarker ++ String.ofList segment := by
      intro same
      have lengths := congrArg String.length same
      simp [Source.identifierMarker] at lengths
    simp [marked, longer]
  · simp [marked, and_comm]

variable {reversed name rest : List Char}

theorem segmentsFrom_cons {c : Char} (plain : c ≠ ':') :
    segmentsFrom reversed (c :: rest) = segmentsFrom (c :: reversed) rest := by
  rw [segmentsFrom.eq_def]
  split <;> simp_all

theorem segmentsFrom_append (noColon : ':' ∉ name) :
    segmentsFrom reversed (name ++ rest) = segmentsFrom (name.reverse ++ reversed) rest := by
  induction name generalizing reversed with
  | nil => rfl
  | cons c name ih =>
      simp only [List.mem_cons, not_or] at noColon
      rw [List.cons_append, segmentsFrom_cons (Ne.symm noColon.1), ih noColon.2]
      simp

theorem isRelative_of_segmentsFrom {chars : List Char}
    (plain : ∀ segment ∈ segmentsFrom reversed chars, IsName segment) :
    IsRelative (reversed.reverse ++ chars) := by
  fun_induction segmentsFrom reversed chars with
  | case1 reversed =>
      rw [List.append_nil]
      exact .name (plain _ List.mem_cons_self)
  | case2 reversed rest ih =>
      refine .cons (plain _ List.mem_cons_self) (ih ?_)
      exact fun segment member => plain segment (List.mem_cons_of_mem _ member)
  | case3 reversed c rest notColons ih =>
      simpa using ih plain

theorem forall_isName_iff {chars : List Char} :
    (∀ segment ∈ segmentsFrom [] chars, IsName segment) ↔ IsRelative chars := by
  constructor
  · exact fun plain => @isRelative_of_segmentsFrom [] chars plain
  · intro isRelative
    induction isRelative with
    | @name name isName =>
        rw [← List.append_nil name, segmentsFrom_append isName.not_mem_colon]
        simpa [segmentsFrom] using isName
    | @cons name rest isName more ih =>
        rw [segmentsFrom_append isName.not_mem_colon, segmentsFrom]
        simpa [isName] using ih

end Segments

section Acceptance

variable {path : List Char}

theorem IsRelative.head_ne_colon (isRelative : IsRelative path) : path.head? ≠ some ':' := by
  have begins : ∀ {name : List Char} (rest : List Char), IsName name →
      (name ++ rest).head? ≠ some ':' := by
    rintro name rest ⟨start, _, _⟩ colon
    rw [List.cons_append, List.head?_cons, Option.some.injEq] at colon
    rw [colon] at start
    exact absurd start (by decide)
  cases isRelative with
  | name isName =>
      rw [← List.append_nil path]
      exact begins [] isName
  | cons isName more => exact begins _ isName

theorem isRelative_withoutRoot_iff : IsRelative (withoutRoot path) ↔ IsPath path := by
  constructor
  · unfold withoutRoot
    split
    · exact .rooted
    · exact .relative
  · intro isPath
    cases isPath with
    | relative names =>
        unfold withoutRoot
        split
        · exact absurd rfl names.head_ne_colon
        · exact names
    | rooted names => exact names

theorem isAccepted_iff_isPath (text : String) :
    isAccepted text = true ↔ IsPath (Text.trim text).toList := by
  have nonempty : IsRelative (withoutRoot (Text.trim text).toList) →
      withoutRoot (Text.trim text).toList ≠ [] := by
    intro isRelative empty
    rw [empty, ← forall_isName_iff] at isRelative
    cases isRelative [] List.mem_cons_self
  rw [isAccepted, Bool.and_eq_true, List.all_eq_true, ← isRelative_withoutRoot_iff]
  simp only [isPlainSegment_iff, forall_isName_iff, Bool.not_eq_true', List.isEmpty_eq_false_iff]
  exact ⟨And.right, fun isRelative => ⟨nonempty isRelative, isRelative⟩⟩

theorem isAccepted_iff (text : String) : isAccepted text = true ↔ IsPadded text := by
  rw [isAccepted_iff_isPath]
  constructor
  · intro isPath
    rcases Text.surrounds_trim text with ⟨before, after, shape, blank, blank'⟩
    exact ⟨before, _, after, shape, blank, blank', isPath⟩
  · rintro ⟨before, path, after, shape, blank, blank', isPath⟩
    rwa [Text.toList_trim_of_surrounds ⟨before, after, shape, blank, blank'⟩ isPath.visible]

/-- A padded path without white space is a path as it stands. -/
theorem isPath_iff (text : String) :
    IsPath text.toList ↔ IsPadded text ∧ ∀ c ∈ text.toList, Text.isBlank c = false := by
  constructor
  · intro isPath
    refine ⟨⟨[], text.toList, [], by simp, by simp, by simp, isPath⟩, isPath.visible⟩
  · rintro ⟨padded, visible⟩
    have whole : Text.Surrounds text text.toList := ⟨[], [], by simp, by simp, by simp⟩
    rwa [← isAccepted_iff, isAccepted_iff_isPath,
      Text.toList_trim_of_surrounds whole visible] at padded

end Acceptance

section Splicing

/-- The first line of the function that registers the options of a command. -/
def commandLine (runtime : String) : String :=
  "pub fn command() -> " ++ runtime ++ "::Command \x7b"

theorem commandLine_ne_empty (runtime : String) : commandLine runtime ≠ "" := by
  unfold commandLine
  rw [Ne, String.append_eq_empty_iff]
  rintro ⟨-, empty⟩
  exact absurd empty (by decide)

/-- The runtime path is written as it stands. -/
theorem commandLine_of_renderCommand {command : CommandDescriptor} {blocked : BlockedMembers}
    {options : EmitOptions} {source : String}
    (rendered : Emission.renderCommand command blocked options = .ok source) :
    ∃ before after,
      source = before ++ ("    " ++ commandLine options.runtimePath ++ "\n" ++ after) := by
  rcases Emission.renderCommand_eq_ok_iff.mp rendered with ⟨typeName, slots, fields, _, _, _, rfl⟩
  have line : Source.lineAt 1 (commandLine options.runtimePath) =
      "    " ++ commandLine options.runtimePath := by
    rw [Source.lineAt, if_neg]
    · rfl
    · rw [String.isEmpty_iff]
      exact commandLine_ne_empty _
  have member : Source.lineAt 1 (commandLine options.runtimePath) ∈
      (Emission.Layout.ofCommand command options typeName slots fields).lines
        options.runtimePath := by
    unfold commandLine
    simp [Emission.Layout.lines, Emission.Layout.opening]
  rcases List.append_of_mem member with ⟨earlier, later, lines⟩
  refine ⟨Source.unlines earlier, Source.unlines later, ?_⟩
  rw [Emission.Layout.text, lines, Source.unlines_append, Source.unlines, line]

end Splicing

section Checking

variable {configuration : Configuration}

theorem checked_eq_ok_iff :
    configuration.checked = .ok configuration ↔ IsPadded configuration.emit.runtimePath := by
  rw [← isAccepted_iff, Configuration.checked]
  split_ifs with accepted <;> simp [accepted]

theorem checked_eq_error_iff :
    configuration.checked = .error (.runtimePath configuration.emit.runtimePath) ↔
      ¬IsPadded configuration.emit.runtimePath := by
  rw [← isAccepted_iff, Configuration.checked]
  split_ifs with accepted <;> simp [accepted]

theorem isPadded_standard : IsPadded Configuration.standard.emit.runtimePath := by
  rw [← isAccepted_iff]
  decide

theorem isPadded_of_ofText {text : String} (read : Configuration.ofText text = .ok configuration) :
    IsPadded configuration.emit.runtimePath := by
  unfold Configuration.ofText at read
  split_ifs at read with none
  · cases read
    exact isPadded_standard
  · cases content : Configuration.ofYaml? text with
    | none => simp [content] at read
    | some given =>
        rw [content] at read
        simp only [Configuration.checked] at read
        split_ifs at read with accepted
        cases read
        exact (isAccepted_iff _).mp accepted

/-- The check of a configuration accepts exactly the paths with white space around them, and a
configuration that is read from a text has passed it. Sources are written with the text as it
stands, and that is a path exactly when it is accepted and holds no white space. -/
theorem accepted_runtime_paths (configuration : Configuration) :
    (configuration.checked = .ok configuration ↔ IsPadded configuration.emit.runtimePath) ∧
    (configuration.checked = .error (.runtimePath configuration.emit.runtimePath) ↔
      ¬IsPadded configuration.emit.runtimePath) ∧
    (∀ text, Configuration.ofText text = .ok configuration →
      IsPadded configuration.emit.runtimePath) ∧
    (∀ command blocked source,
      Emission.renderCommand command blocked configuration.emit = .ok source →
        ∃ before after, source =
          before ++ ("    " ++ commandLine configuration.emit.runtimePath ++ "\n" ++ after)) ∧
    (IsPath configuration.emit.runtimePath.toList ↔
      configuration.checked = .ok configuration ∧
        ∀ c ∈ configuration.emit.runtimePath.toList, Text.isBlank c = false) := by
  refine ⟨checked_eq_ok_iff, checked_eq_error_iff, fun _ => isPadded_of_ofText,
    fun _ _ _ => commandLine_of_renderCommand, ?_⟩
  rw [checked_eq_ok_iff]
  exact isPath_iff _

/-- A runtime path after a no-break space. -/
def paddedPath : Configuration :=
  ⟨.empty, "\u00a0clap", true, true⟩

/-- A command without options. -/
def bareCommand : CommandDescriptor :=
  ⟨"Options", "options", none, [], .ofType "Options"⟩

/-- The no-break space passes the check and is written into the source. -/
theorem checked_paddedPath :
    paddedPath.checked = .ok paddedPath ∧ ¬IsPath paddedPath.emit.runtimePath.toList ∧
      ∃ source before after,
        Emission.renderCommand bareCommand .empty paddedPath.emit = .ok source ∧
          source = before ++ ("    pub fn command() -> \u00a0clap::Command \x7b\n" ++ after) := by
  refine ⟨by decide, ?_, ?_⟩
  · intro isPath
    exact absurd (isPath.visible '\u00a0' (by decide)) (by decide)
  · cases rendered : Emission.renderCommand bareCommand .empty paddedPath.emit with
    | error error => cases rendered
    | ok source =>
        rcases commandLine_of_renderCommand rendered with ⟨before, after, shape⟩
        exact ⟨source, before, after, rfl, shape⟩

end Checking

end RuntimePath

end OptionCompiler
