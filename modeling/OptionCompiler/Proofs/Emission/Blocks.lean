import Mathlib
import OptionCompiler.Proofs.Emission.Settings
/-!
# Blocks are read back from the lines of a layout

The indentation shows where a registration or a binding ends: the lines inside are deeper than the
one that closes it. So the blocks of a layout can be told apart, and each tells its parts, because
the name of a setting ends at its bracket and the templates of the checks differ in their first
two lines.
-/

namespace OptionCompiler

namespace Emission

open Source (lineAt IsLine IsDeeper)

section Fragments

/-- Texts that begin with different words of one length differ. -/
theorem append_ne_of_length_eq {word other : String} (different : word ≠ other)
    (sameLength : word.length = other.length) (rest left : String) :
    word ++ rest ≠ other ++ left := by
  intro equal
  have chars := congrArg String.toList equal
  rw [String.toList_append, String.toList_append] at chars
  have words := (List.append_inj chars
    (by rw [String.length_toList, String.length_toList, sameLength])).1
  exact different (String.toList_inj.mp words)

theorem line_injective {setting other : Setting} (plain : '(' ∉ setting.name.toList)
    (plain' : '(' ∉ other.name.toList) (same : setting.line = other.line) : setting = other := by
  have chars := congrArg String.toList same
  simp only [Setting.line, String.toList_append, List.append_assoc] at chars
  have bracket : "(".toList = ['('] := rfl
  rw [bracket, List.singleton_append, List.singleton_append] at chars
  rcases Text.append_cons_injective (· ≠ '(') (fun c member => ne_of_mem_of_not_mem member plain)
      (fun c member => ne_of_mem_of_not_mem member plain') (by simp) (by simp)
      (List.append_cancel_left chars) with ⟨names, _, arguments⟩
  rw [Setting.mk.injEq]
  exact ⟨String.toList_inj.mp names, String.toList_inj.mp (List.append_cancel_right arguments)⟩

theorem plain_of_mem_ownNames {name : String} (own : name ∈ Setting.ownNames) :
    '(' ∉ name.toList := by
  revert name
  decide

/-- The lines of the settings of an option tell the settings. -/
theorem settings_of_lines {option other : OptionDescriptor}
    (same : (Setting.ofOption option).map Setting.line =
      (Setting.ofOption other).map Setting.line) :
    Setting.ofOption option = Setting.ofOption other := by
  have plain {option : OptionDescriptor} {setting : Setting}
      (member : setting ∈ Setting.ofOption option) : '(' ∉ setting.name.toList :=
    plain_of_mem_ownNames (Setting.name_of_mem_ofOption member)
  rw [List.map_eq_flatMap, List.map_eq_flatMap] at same
  have equal := congrArg (· ++ []) same
  have each : List.Forall₂ Eq (Setting.ofOption option) (Setting.ofOption other) ∧ _ :=
    Text.forall₂_of_flatMap_append
      (fun setting member other member' rest left lines =>
        ⟨line_injective (plain member) (plain member') (List.cons.inj lines).1,
          (List.cons.inj lines).2⟩)
      (by simp) (by simp) equal
  rw [List.forall₂_eq_eq_eq] at each
  exact each.1

end Fragments

section Registrations

variable {runtime : String}

/-- The lines between the brackets of a registration. -/
def Registration.inner (runtime : String) (registration : Registration) : List String :=
  lineAt 4 (runtime ++ "::Arg::new(" ++ registration.id ++ ")") ::
    (registration.settings.map Setting.line ++
      [registration.parserLine runtime, registration.actionLine runtime]).map (lineAt 5)

theorem isDeeper_of_mem_inner {registration : Registration} {line : String}
    (member : line ∈ registration.inner runtime) : IsDeeper 3 line := by
  unfold Registration.inner at member
  rcases List.mem_cons.mp member with rfl | member
  · apply Source.isDeeper_lineAt (by decide)
    simp
  · rcases List.mem_map.mp member with ⟨text, textMember, rfl⟩
    apply Source.isDeeper_lineAt (by decide)
    rcases List.mem_append.mp textMember with setting | own
    · rcases List.mem_map.mp setting with ⟨setting, _, rfl⟩
      simp [Setting.line]
    · rcases List.mem_pair.mp own with rfl | rfl
      · unfold Registration.parserLine
        simp
      · unfold Registration.actionLine
        simp

/-- The lines of the registration of an option tell the registration and where it ends. -/
theorem registration_of_lines {option other : OptionDescriptor} {rest left : List String}
    (same : (Registration.ofOption option).lines runtime ++ rest =
      (Registration.ofOption other).lines runtime ++ left) :
    Registration.ofOption option = Registration.ofOption other ∧ rest = left := by
  have shape (registration : Registration) (after : List String) :
      registration.lines runtime ++ after =
        lineAt 3 ".arg(" :: (registration.inner runtime ++ lineAt 3 ")" :: after) := by
    simp [Registration.lines, Registration.inner]
  rw [shape, shape] at same
  rcases Text.append_cons_injective (IsDeeper 3) (fun _ => isDeeper_of_mem_inner)
      (fun _ => isDeeper_of_mem_inner) (by decide) (by decide) (List.cons.inj same).2 with
    ⟨inner, _, rest⟩
  rcases List.cons.inj inner with ⟨idLine, texts⟩
  have texts := List.map_injective_iff.mpr (Source.lineAt_injective 5) texts
  rcases List.append_inj' texts rfl with ⟨settings, own⟩
  rcases List.cons.inj own with ⟨parser, own⟩
  have action := (List.cons.inj own).1
  have ids := Source.lineAt_injective 4 idLine
  unfold Registration.parserLine at parser
  unfold Registration.actionLine at action
  simp only [String.append_left_inj, String.append_right_inj] at parser action ids
  refine ⟨?_, rest⟩
  rw [Registration.mk.injEq]
  exact ⟨ids, settings_of_lines settings, parser, action⟩

end Registrations

section Checks

variable (runtime flag : String)

theorem replaceFrom_cons_of_ne {mark c : Char} (other : c ≠ mark)
    (pattern replacement rest : List Char) :
    Text.replaceFrom (mark :: pattern) replacement 0 (c :: rest) =
      c :: Text.replaceFrom (mark :: pattern) replacement 0 rest := by
  simp [Text.replaceFrom, Ne.symm other]

/-- A mark begins with a bracket, so a text up to the first bracket stays as it is. -/
theorem replace_append {front : String} (plain : '\x7b' ∉ front.toList) (back : String)
    {mark : String} {pattern : List Char} (shape : mark.toList = '\x7b' :: pattern)
    (replacement : String) :
    Text.replace (front ++ back) mark replacement =
      front ++ Text.replace back mark replacement := by
  apply String.toList_inj.mp
  simp only [Text.replace, String.toList_append, String.toList_ofList, shape]
  generalize front.toList = chars at plain
  induction chars with
  | nil => rfl
  | cons c chars ih =>
      simp only [List.mem_cons, not_or] at plain
      rw [List.cons_append, replaceFrom_cons_of_ne (Ne.symm plain.1), ih plain.2]
      rfl

theorem filled_append {front : String} (plain : '\x7b' ∉ front.toList) (back : String) :
    filled runtime flag (front ++ back) = front ++ filled runtime flag back := by
  unfold filled
  rw [replace_append plain back rfl, replace_append plain _ rfl]

/-- How the first two lines of a template begin. -/
def templateMarks : PathConstraint → String × String
  | .directory .existingOnly => ("if !path.is_d", "    return")
  | .directory .createIfMissing => ("if !path.is_d", "    ::std:")
  | .file .existingOnly => ("if !path.is_f", "    return")

theorem templateMarks_injective : Function.Injective templateMarks := by
  rintro (⟨_ | _⟩ | ⟨_⟩) (⟨_ | _⟩ | ⟨_⟩) <;> simp [templateMarks]

theorem length_templateMarks (constraint : PathConstraint) :
    (templateMarks constraint).1.length = 13 ∧ (templateMarks constraint).2.length = 10 := by
  rcases constraint with ⟨_ | _⟩ | ⟨⟨⟩⟩ <;> decide

/-- The lines that check a constraint begin as its template does. -/
theorem checkLines_shape (constraint : PathConstraint) :
    ∃ first second rest, checkLines runtime flag constraint =
      ((templateMarks constraint).1 ++ first) :: ((templateMarks constraint).2 ++ second) ::
        rest := by
  rcases constraint with ⟨_ | _⟩ | ⟨⟨⟩⟩
  · refine ⟨filled runtime flag "ir() \x7b",
      filled runtime flag " ::std::result::Result::Err(\x7brt\x7d::Error::raw(",
      ((checkTemplate (.directory .existingOnly)).drop 2).map (filled runtime flag), ?_⟩
    rw [← filled_append _ _ (by decide), ← filled_append _ _ (by decide)]
    rfl
  · refine ⟨filled runtime flag "ir() \x7b",
      filled runtime flag ":fs::create_dir_all(path).map_err(|err| \x7b",
      ((checkTemplate (.directory .createIfMissing)).drop 2).map (filled runtime flag), ?_⟩
    rw [← filled_append _ _ (by decide), ← filled_append _ _ (by decide)]
    rfl
  · refine ⟨filled runtime flag "ile() \x7b",
      filled runtime flag " ::std::result::Result::Err(\x7brt\x7d::Error::raw(",
      ((checkTemplate (.file .existingOnly)).drop 2).map (filled runtime flag), ?_⟩
    rw [← filled_append _ _ (by decide), ← filled_append _ _ (by decide)]
    rfl

/-- The lines of checks are read check by check. -/
theorem isPrefixCode_checkLines : Text.IsPrefixCode (checkLines runtime flag) := by
  intro constraint other rest left equal
  have marks : templateMarks constraint = templateMarks other := by
    rcases checkLines_shape runtime flag constraint with ⟨first, second, later, shape⟩
    rcases checkLines_shape runtime flag other with ⟨first', second', later', shape'⟩
    rw [shape, shape', List.cons_append, List.cons_append, List.cons_append, List.cons_append,
      List.cons.injEq, List.cons.injEq] at equal
    rcases length_templateMarks constraint with ⟨length, length₂⟩
    rcases length_templateMarks other with ⟨length', length₂'⟩
    rw [Prod.mk.injEq]
    constructor
    · by_contra different
      exact append_ne_of_length_eq different (length.trans length'.symm) _ _ equal.1
    · by_contra different
      exact append_ne_of_length_eq different (length₂.trans length₂'.symm) _ _ equal.2.1
  have same := templateMarks_injective marks
  subst same
  exact ⟨rfl, List.append_cancel_left equal⟩

end Checks

section Bindings

variable {runtime : String}

/-- No line of a check is empty. -/
def FieldBinding.HasVisibleChecks (binding : FieldBinding) : Prop :=
  ∀ lines ∈ binding.checks, ∀ line ∈ lines, line ≠ ""

/-- Every line of a template begins with a character of its own. -/
theorem checkTemplate_visible (constraint : PathConstraint) :
    ∀ line ∈ checkTemplate constraint,
      ∃ front back, line = front ++ back ∧ front ≠ "" ∧ '\x7b' ∉ front.toList := by
  have begins {c : Char} {chars : List Char} (plain : c ≠ '\x7b') :
      ∃ front back, String.ofList (c :: chars) = front ++ back ∧ front ≠ "" ∧
        '\x7b' ∉ front.toList := by
    refine ⟨String.ofList [c], String.ofList chars, ?_, ?_, ?_⟩
    · rw [← String.ofList_append]
      rfl
    · intro empty
      simpa using congrArg String.toList empty
    · simpa using Ne.symm plain
  rcases constraint with ⟨_ | _⟩ | ⟨⟨⟩⟩ <;>
    (repeat' refine List.forall_mem_cons.mpr ⟨begins (by decide), ?_⟩
     exact List.forall_mem_nil _)

theorem hasVisibleChecks_ofOption (option : OptionDescriptor) (field : String) :
    (FieldBinding.ofOption runtime option field).HasVisibleChecks := by
  intro lines member line lineMember
  rcases List.mem_map.mp member with ⟨constraint, _, rfl⟩
  rcases List.mem_map.mp lineMember with ⟨text, textMember, rfl⟩
  rcases checkTemplate_visible constraint text textMember with ⟨front, back, rfl, visible, plain⟩
  rw [filled_append _ _ plain]
  exact fun empty => visible (String.append_eq_empty_iff.mp empty).1

theorem visible_of_mem_pathLines {binding : FieldBinding} (visible : binding.HasVisibleChecks)
    {line : String} (member : line ∈ binding.pathLines) : line ≠ "" := by
  unfold FieldBinding.pathLines at member
  rcases List.mem_cons.mp member with rfl | member
  · decide
  · rcases List.mem_flatten.mp member with ⟨lines, linesMember, lineMember⟩
    exact visible lines linesMember line lineMember

theorem isDeeper_of_mem_body {binding : FieldBinding} (visible : binding.HasVisibleChecks)
    {line : String} (member : line ∈ binding.checkLines ++ [lineAt 3 binding.assignment]) :
    IsDeeper 2 line := by
  have path {depth : Nat} (inside : 2 < depth)
      (member : line ∈ binding.pathLines.map (lineAt depth)) : IsDeeper 2 line := by
    rcases List.mem_map.mp member with ⟨text, textMember, rfl⟩
    exact Source.isDeeper_lineAt inside (visible_of_mem_pathLines visible textMember)
  rcases List.mem_append.mp member with checked | assigned
  · unfold FieldBinding.checkLines at checked
    split_ifs at checked
    · cases checked
    · rcases List.mem_cons.mp checked with rfl | inner
      · decide
      · rcases List.mem_append.mp inner with inner | closing
        · exact path (by decide) inner
        · rw [List.mem_singleton.mp closing]
          decide
    · exact path (by decide) checked
  · rw [List.mem_singleton.mp assigned]
    apply Source.isDeeper_lineAt (by decide)
    unfold FieldBinding.assignment
    split_ifs <;> simp

/-- The lines of a binding tell its checks and its assignment, and where it ends. -/
theorem binding_of_lines {binding other : FieldBinding} (visible : binding.HasVisibleChecks)
    (visible' : other.HasVisibleChecks) {rest left : List String}
    (same : binding.lines ++ rest = other.lines ++ left) :
    (binding.checkLines = other.checkLines ∧ binding.assignment = other.assignment) ∧
      rest = left := by
  have shape (binding : FieldBinding) (after : List String) : binding.lines ++ after =
      lineAt 2 binding.opening ::
        ((binding.checkLines ++ [lineAt 3 binding.assignment]) ++ lineAt 2 "\x7d" :: after) := by
    simp [FieldBinding.lines]
  rw [shape, shape] at same
  rcases Text.append_cons_injective (IsDeeper 2) (fun _ => isDeeper_of_mem_body visible)
      (fun _ => isDeeper_of_mem_body visible') (by decide) (by decide) (List.cons.inj same).2 with
    ⟨body, _, rest⟩
  rcases List.append_inj' body rfl with ⟨checks, assigned⟩
  exact ⟨⟨checks, Source.lineAt_injective 3 (List.cons.inj assigned).1⟩, rest⟩

/-- The lines that check the values tell the checks, if it is known whether there are many. -/
theorem checks_of_checkLines {binding other : FieldBinding}
    (many : binding.checksEach = other.checksEach)
    (same : binding.checkLines = other.checkLines) :
    binding.checks.flatten = other.checks.flatten := by
  have flat {depth : Nat} (paths : binding.pathLines.map (lineAt depth) =
      other.pathLines.map (lineAt depth)) : binding.checks.flatten = other.checks.flatten :=
    (List.cons.inj (List.map_injective_iff.mpr (Source.lineAt_injective depth) paths)).2
  unfold FieldBinding.checkLines at same
  rw [many] at same
  by_cases each : other.checksEach = true
  · simp only [if_pos each] at same
    split_ifs at same with lacking lacking' lacking'
    · rw [List.isEmpty_iff.mp lacking, List.isEmpty_iff.mp lacking']
    · exact flat (List.append_inj' (List.cons.inj same).2 rfl).1
  · simp only [if_neg each] at same
    split_ifs at same with lacking lacking' lacking'
    · rw [List.isEmpty_iff.mp lacking, List.isEmpty_iff.mp lacking']
    · exact absurd same (by simp [FieldBinding.pathLines])
    · exact absurd same (by simp [FieldBinding.pathLines])
    · exact flat same

/-- The assignment tells whether the value is wrapped, if the field and the value are known. -/
theorem wrapsValue_of_assignment {binding other : FieldBinding}
    (field : binding.field = other.field) (many : binding.fetchesMany = other.fetchesMany)
    (same : binding.assignment = other.assignment) : binding.wrapsValue = other.wrapsValue := by
  have value : binding.value = other.value := by
    unfold FieldBinding.value
    rw [many]
  have wrapped : "options." ++ other.field ++ " = ::std::option::Option::Some(" ++ other.value ++
      ");" = "options." ++ other.field ++ " = " ++
        ("::std::option::Option::Some(" ++ (other.value ++ ");")) := by
    apply String.toList_inj.mp
    simp [String.toList_append]
  have plain : "options." ++ other.field ++ " = " ++ other.value ++ ";" =
      "options." ++ other.field ++ " = " ++ (other.value ++ ";") := String.append_assoc
  have bare : other.value ++ ";" ≠ "::std::option::Option::Some(" ++ (other.value ++ ");") := by
    intro equal
    have chars := congrArg String.toList equal
    unfold FieldBinding.value at chars
    split_ifs at chars <;> simp at chars
  unfold FieldBinding.assignment at same
  rw [field, value, wrapped, plain] at same
  cases wraps : binding.wrapsValue <;> cases wraps' : other.wrapsValue <;>
    simp only [wraps, wraps', if_true, Bool.false_eq_true, if_false,
      String.append_right_inj] at same
  · rfl
  · exact absurd same bare
  · exact absurd same.symm bare
  · rfl

end Bindings

end Emission

end OptionCompiler
