import OptionCompiler.Proofs.Annotation.Problems
/-!
# What an option annotation says

Reading an option annotation is settled by the literals that are bound to its fields. A field takes
literals of one kind. It has the value that its literal stands for, and otherwise the one that it
has by default; and whatever in the literal is of another kind is a problem. These problems come in
the order of the fields, behind those of the arguments that are not bound.

So there is no problem exactly when the annotation is well formed, and what is read for a field
depends on the arguments that are aimed at that field alone.
-/

namespace OptionCompiler

/-- A kind of values that fields take. -/
inductive FieldKind where
  | text
  | texts
  | truth
  | count
deriving DecidableEq, Repr

section Kinds

namespace Literal

/-- The text that a literal is. -/
def text? : Literal → Option String
  | .string text => some text
  | _ => none

/-- The texts of a literal, which is one text or a list with texts among its items. -/
def texts : Literal → List String
  | .string text => [text]
  | .list items => items.filterMap text?
  | _ => []

/-- The truth value that a literal is or spells. -/
def truth? : Literal → Option Bool
  | .bool value => some value
  | .string text => Reading.boolOfText? text
  | _ => none

/-- The count that a literal is or spells. -/
def count? : Literal → Option UInt32
  | .integer value =>
      if 0 ≤ value.toInt ∧ value.toInt < 2 ^ 32 then some (.ofNat value.toInt.toNat) else none
  | .string text => Reading.countOfText? text
  | _ => none

end Literal

namespace FieldKind

/-- The words for the kind in messages. -/
def expectation : FieldKind → String
  | .text => "a string"
  | .texts => "a list of strings"
  | .truth => "a boolean"
  | .count => "a non-negative integer"

/-- What a field of the kind cannot use in a literal. -/
def complaints (field : String) : FieldKind → Literal → List ArgumentProblem
  | _, .null => []
  | .text, .string _ => []
  | .texts, .string _ => []
  | .texts, .list items =>
      (items.filter fun item => item.text?.isNone).map fun item =>
        .mismatch field texts.expectation item.kind
  | .truth, .bool _ => []
  | .truth, .string spelling =>
      if (Reading.boolOfText? spelling).isSome then [] else [.unreadableBool field spelling]
  | .count, .integer value =>
      if value.toInt < 0 then [.negativeCount field value]
      else if 2 ^ 32 ≤ value.toInt then [.countOutOfRange field value]
      else []
  | .count, .string spelling =>
      if (Reading.countOfText? spelling).isSome then [] else [.unreadableCount field spelling]
  | kind, other => [.mismatch field kind.expectation other.kind]

/-- A field of the kind takes a literal. -/
inductive Accepts : FieldKind → Literal → Prop where
  | null {kind : FieldKind} : Accepts kind .null
  | text (value : String) : Accepts .text (.string value)
  | oneText (value : String) : Accepts .texts (.string value)
  | texts (values : List String) : Accepts .texts (.list (values.map .string))
  | truth (value : Bool) : Accepts .truth (.bool value)
  | spelledTruth {spelling : String}
      (spells : Text.trim spelling = "true" ∨ Text.trim spelling = "false") :
      Accepts .truth (.string spelling)
  | count {value : Int64} (nonnegative : 0 ≤ value.toInt) (fits : value.toInt < 2 ^ 32) :
      Accepts .count (.integer value)
  | spelledCount {spelling : String} {value : UInt32}
      (spells : Reading.countOfText? spelling = some value) : Accepts .count (.string spelling)

theorem isSome_boolOfText?_iff (text : String) :
    (Reading.boolOfText? text).isSome = true ↔
      Text.trim text = "true" ∨ Text.trim text = "false" := by
  simp only [Reading.boolOfText?]
  split_ifs with yes no <;> simp_all

theorem filter_text?_eq_nil_iff (items : List Literal) :
    (items.filter fun item => item.text?.isNone) = [] ↔
      ∃ values : List String, items = values.map .string := by
  induction items with
  | nil => exact ⟨fun _ => ⟨[], rfl⟩, fun _ => rfl⟩
  | cons item items ih =>
      cases item with
      | string value =>
          rw [List.filter_cons_of_neg (by simp [Literal.text?]), ih]
          constructor
          · rintro ⟨values, rfl⟩
            exact ⟨value :: values, rfl⟩
          · rintro ⟨_ | ⟨first, values⟩, equal⟩
            · cases equal
            · exact ⟨values, (List.cons.inj equal).2⟩
      | _ =>
          constructor
          · intro none
            simp [Literal.text?] at none
          · rintro ⟨_ | ⟨first, values⟩, equal⟩ <;> cases equal

theorem Accepts.complaints_eq_nil {kind : FieldKind} {value : Literal}
    (accepted : kind.Accepts value) (field : String) : kind.complaints field value = [] := by
  cases accepted with
  | null => cases kind <;> rfl
  | text value => rfl
  | oneText value => rfl
  | texts values =>
      exact List.map_eq_nil_iff.mpr ((filter_text?_eq_nil_iff _).mpr ⟨values, rfl⟩)
  | truth value => rfl
  | spelledTruth spells =>
      rw [complaints, if_pos ((isSome_boolOfText?_iff _).mpr spells)]
  | count nonnegative fits =>
      rw [complaints, if_neg (by omega), if_neg (by omega)]
  | spelledCount spells =>
      rw [complaints, if_pos (Option.isSome_of_eq_some spells)]

theorem accepts_of_complaints_eq_nil {field : String} {kind : FieldKind} {value : Literal}
    (silent : kind.complaints field value = []) : kind.Accepts value := by
  cases kind with
  | text =>
      cases value with
      | null => exact .null
      | string value => exact .text value
      | _ => cases silent
  | texts =>
      cases value with
      | null => exact .null
      | string value => exact .oneText value
      | list items =>
          have strings := (filter_text?_eq_nil_iff items).mp (List.map_eq_nil_iff.mp silent)
          rcases strings with ⟨values, rfl⟩
          exact .texts values
      | _ => cases silent
  | truth =>
      cases value with
      | null => exact .null
      | bool value => exact .truth value
      | string spelling =>
          simp only [complaints] at silent
          split_ifs at silent with spells
          exact .spelledTruth ((isSome_boolOfText?_iff spelling).mp spells)
      | _ => cases silent
  | count =>
      cases value with
      | null => exact .null
      | integer value =>
          simp only [complaints] at silent
          split_ifs at silent with negative large
          exact .count (by omega) (by omega)
      | string spelling =>
          simp only [complaints] at silent
          split_ifs at silent with spells
          rcases Option.isSome_iff_exists.mp spells with ⟨value, spelled⟩
          exact .spelledCount spelled
      | _ => cases silent

/-- A field complains about exactly the literals that it does not take. -/
theorem complaints_eq_nil_iff (field : String) (kind : FieldKind) (value : Literal) :
    kind.complaints field value = [] ↔ kind.Accepts value :=
  ⟨accepts_of_complaints_eq_nil, fun accepted => accepted.complaints_eq_nil field⟩

end FieldKind

end Kinds

section Readers

variable (binding : Binding) (field : String)

namespace Binding

/-- The problems in the literal that is bound to a field of the kind. -/
def complaints (kind : FieldKind) : List ArgumentProblem :=
  ((binding.bound.lookup field).map (kind.complaints field)).getD []

end Binding

namespace Reading

theorem text?_eq : text? binding field =
    ⟨(binding.bound.lookup field).bind Literal.text?, binding.complaints field .text⟩ := by
  unfold text? Binding.get? Binding.complaints
  cases binding.bound.lookup field with
  | none => rfl
  | some value => cases value <;> rfl

theorem textItems_eq (items : List Literal) : textItems field items =
    ⟨items.filterMap Literal.text?, FieldKind.texts.complaints field (.list items)⟩ := by
  induction items with
  | nil => rfl
  | cons item items ih =>
      cases item <;>
        simp [textItems, ih, FieldKind.complaints, FieldKind.expectation, Literal.text?,
          List.filterMap_cons]

theorem texts_eq : texts binding field =
    ⟨((binding.bound.lookup field).map Literal.texts).getD [],
      binding.complaints field .texts⟩ := by
  unfold texts Binding.get? Binding.complaints
  cases binding.bound.lookup field with
  | none => rfl
  | some value =>
      cases value with
      | list items => exact textItems_eq field items
      | _ => rfl

theorem bool?_eq : bool? binding field =
    ⟨(binding.bound.lookup field).bind Literal.truth?, binding.complaints field .truth⟩ := by
  unfold bool? Binding.get? Binding.complaints
  cases binding.bound.lookup field with
  | none => rfl
  | some value =>
      cases value with
      | string text =>
          cases spelled : boolOfText? text <;>
            simp [spelled, clean, Literal.truth?, FieldKind.complaints]
      | _ => rfl

theorem count?_eq : count? binding field =
    ⟨(binding.bound.lookup field).bind Literal.count?, binding.complaints field .count⟩ := by
  unfold count? Binding.get? Binding.complaints
  cases binding.bound.lookup field with
  | none => rfl
  | some value =>
      cases value with
      | integer value =>
          simp only [countOfInteger, clean, Option.bind_some, Option.map_some, Option.getD_some,
            Literal.count?, FieldKind.complaints]
          split_ifs <;> first | rfl | omega
      | string text =>
          cases spelled : countOfText? text <;>
            simp [spelled, clean, Literal.count?, FieldKind.complaints]
      | _ => rfl

end Reading

end Readers

/-- Two readings of an option annotation agree on every field but the target, if there is one. -/
structure OptionArguments.AgreeBut (target : Option String) (left right : OptionArguments) :
    Prop where
  primaryFlag : target ≠ some "primary_flag" → left.primaryFlag = right.primaryFlag
  aliases : target ≠ some "aliases" → left.aliases = right.aliases
  description : target ≠ some "description" → left.description = right.description
  helpName : target ≠ some "help_name" → left.helpName = right.helpName
  required : target ≠ some "required" → left.required = right.required
  hidden : target ≠ some "hidden" → left.hidden = right.hidden
  arityMin : target ≠ some "arity_min" → left.arityMin = right.arityMin
  arityMax : target ≠ some "arity_max" → left.arityMax = right.arityMax

namespace Argument

variable {fields : List String}

/-- The arguments with another value at an index. -/
def replaceValue (arguments : List Argument) (index : Nat) (value : Literal) : List Argument :=
  arguments.modify index fun argument => { argument with value := value }

section Replacement

variable (arguments : List Argument) (index : Nat) (value : Literal)

theorem map_name_replaceValue :
    (replaceValue arguments index value).map Argument.name = arguments.map Argument.name := by
  apply List.ext_getElem?
  intro place
  simp only [replaceValue, List.getElem?_map, List.getElem?_modify, Option.map_eq_map,
    Option.map_map]
  split_ifs <;> cases arguments[place]? <;> rfl

/-- What arguments are aimed at depends on their names alone. -/
theorem target?_congr {arguments others : List Argument}
    (names : others.map Argument.name = arguments.map Argument.name) (place : Nat) :
    target? fields others place = target? fields arguments place := by
  have counts : positionalCount (others.take place) = positionalCount (arguments.take place) := by
    have mapped (items : List Argument) : positionalCount items =
        (items.map Argument.name).countP Option.isNone := by
      rw [List.countP_map]
      rfl
    rw [mapped, mapped, List.map_take, List.map_take, names]
  have aims : others[place]?.map Argument.name = arguments[place]?.map Argument.name := by
    rw [← List.getElem?_map, ← List.getElem?_map, names]
  rw [target?, target?, counts]
  cases there : others[place]? with
  | none =>
      cases here : arguments[place]? with
      | none => rfl
      | some argument => simp [there, here] at aims
  | some other =>
      cases here : arguments[place]? with
      | none => simp [there, here] at aims
      | some argument =>
          have named : other.name = argument.name := by simpa [there, here] using aims
          simp [aim?, named]

theorem target?_replaceValue (place : Nat) :
    target? fields (replaceValue arguments index value) place = target? fields arguments place :=
  target?_congr (map_name_replaceValue arguments index value) place

theorem isTaken_replaceValue (field : String) (place : Nat) :
    IsTaken fields (replaceValue arguments index value) field place ↔
      IsTaken fields arguments field place := by
  simp only [IsTaken, target?_replaceValue]

/-- Which arguments are not bound depends on no value. -/
theorem problems_replaceValue :
    problems fields (replaceValue arguments index value) = problems fields arguments := by
  have length : (replaceValue arguments index value).length = arguments.length :=
    List.length_modify _ _ _
  rw [problems, problems, length]
  apply List.filterMap_congr
  intro place _
  have aimless_eq : (replaceValue arguments index value)[place]?.map (aimless fields) =
      arguments[place]?.map (aimless fields) := by
    rw [replaceValue, List.getElem?_modify]
    split_ifs <;> cases arguments[place]? <;> rfl
  simp only [problem?, isTaken_replaceValue, target?_replaceValue, aimless_eq]

theorem aimedAt_replaceValue {field : String}
    (elsewhere : target? fields arguments index ≠ some field) :
    aimedAt fields (replaceValue arguments index value) field =
      aimedAt fields arguments field := by
  have length : (replaceValue arguments index value).length = arguments.length :=
    List.length_modify _ _ _
  simp only [aimedAt, length, target?_replaceValue]
  apply List.filterMap_congr
  intro place _
  by_cases here : place = index
  · subst here
    rw [if_neg elsewhere, if_neg elsewhere]
  · rw [replaceValue, List.getElem?_modify_ne _ _ (Ne.symm here)]

end Replacement

end Argument

namespace Annotation

/-- The fields of an option annotation with the kinds of their values. -/
def optionKinds : List (String × FieldKind) :=
  [("primary_flag", .text), ("aliases", .texts), ("description", .text), ("help_name", .text),
    ("required", .truth), ("hidden", .truth), ("arity_min", .count), ("arity_max", .count)]

theorem map_fst_optionKinds : optionKinds.map Prod.fst = optionFields :=
  rfl

/-- The literal that is bound to a field of an option annotation. -/
def literal? (mark : Annotation) (field : String) : Option Literal :=
  Argument.bound? optionFields mark.args field

/-- What an option annotation says by the literals bound to its fields. -/
def statedOption (mark : Annotation) : OptionArguments where
  primaryFlag := (mark.literal? "primary_flag").bind Literal.text?
  aliases := ((mark.literal? "aliases").map Literal.texts).getD []
  description := (mark.literal? "description").bind Literal.text?
  helpName := (mark.literal? "help_name").bind Literal.text?
  required := ((mark.literal? "required").bind Literal.truth?).getD false
  hidden := ((mark.literal? "hidden").bind Literal.truth?).getD false
  arityMin := (mark.literal? "arity_min").bind Literal.count?
  arityMax := (mark.literal? "arity_max").bind Literal.count?

/-- No literal but null is bound to the primary flag. -/
def LacksFlag (mark : Annotation) : Prop :=
  mark.literal? "primary_flag" = none ∨ mark.literal? "primary_flag" = some .null

instance (mark : Annotation) : Decidable mark.LacksFlag :=
  inferInstanceAs (Decidable (_ ∨ _))

/-- What the fields complain about in the literals bound to them, in the order of the fields. -/
def complaints (mark : Annotation) : List ArgumentProblem :=
  optionKinds.flatMap fun (field, kind) =>
    ((mark.literal? field).map (kind.complaints field)).getD []

/-- The problems of an option annotation: those of the arguments that are not bound, then the
missing flag, then those of the fields. -/
def statedProblems (mark : Annotation) : List ArgumentProblem :=
  Argument.problems optionFields mark.args ++
    (if mark.LacksFlag then [.missing "primary_flag"] else []) ++ mark.complaints

/-- An option annotation whose arguments are all bound, to literals that its fields take, with a
text for the primary flag. -/
structure IsWellFormedOption (mark : Annotation) : Prop where
  bound : Argument.AllBound optionFields mark.args
  accepted : ∀ field kind, (field, kind) ∈ optionKinds → ∀ value,
    mark.literal? field = some value → kind.Accepts value
  flagged : ∃ flag, mark.literal? "primary_flag" = some (.string flag)

section Exactness

variable (mark : Annotation)

theorem lookup_bound (field : String) :
    (Binding.ofArguments optionFields mark.args).bound.lookup field = mark.literal? field :=
  Binding.lookup_ofArguments optionFields mark.args field

theorem readOption_value : mark.readOption.value = mark.statedOption := by
  simp only [readOption, statedOption, Reading.text?_eq, Reading.texts_eq, Reading.bool?_eq,
    Reading.count?_eq, lookup_bound]

theorem isNone_get?_primaryFlag_iff :
    ((Binding.ofArguments optionFields mark.args).get? "primary_flag").isNone = true ↔
      mark.LacksFlag := by
  rw [Binding.get?, lookup_bound, LacksFlag]
  cases mark.literal? "primary_flag" with
  | none => simp
  | some value => cases value <;> simp

theorem missingFlag_eq : missingFlag (Binding.ofArguments optionFields mark.args) =
    if mark.LacksFlag then [.missing "primary_flag"] else [] := by
  simp only [missingFlag, isNone_get?_primaryFlag_iff]

theorem complaints_primaryFlag_of_lacksFlag (lacks : mark.LacksFlag) :
    ((mark.literal? "primary_flag").map (FieldKind.text.complaints "primary_flag")).getD [] =
      [] := by
  rcases lacks with unbound | null
  · rw [unbound]
    rfl
  · rw [null]
    rfl

theorem readOption_problems : mark.readOption.problems = mark.statedProblems := by
  simp only [readOption, statedProblems, complaints, optionKinds, Reading.text?_eq,
    Reading.texts_eq, Reading.bool?_eq, Reading.count?_eq, Binding.complaints, lookup_bound,
    missingFlag_eq, Binding.problems_ofArguments, List.flatMap_cons, List.flatMap_nil,
    List.append_nil, List.append_assoc]
  -- The flag is missing or of a wrong kind, but never both, so the two may change places.
  by_cases lacks : mark.LacksFlag
  · simp [lacks, mark.complaints_primaryFlag_of_lacksFlag lacks]
  · simp [lacks]

theorem complaints_eq_nil_iff : mark.complaints = [] ↔
    ∀ field kind, (field, kind) ∈ optionKinds → ∀ value,
      mark.literal? field = some value → kind.Accepts value := by
  simp only [complaints, List.flatMap_eq_nil_iff, Prod.forall]
  apply forall_congr'
  intro field
  apply forall_congr'
  intro kind
  apply imp_congr_right
  intro _
  cases mark.literal? field with
  | none => simp
  | some value => simp [FieldKind.complaints_eq_nil_iff]

/-- There is no problem exactly when the annotation is well formed. -/
theorem readOption_problems_eq_nil_iff :
    mark.readOption.problems = [] ↔ mark.IsWellFormedOption := by
  rw [readOption_problems, statedProblems, List.append_eq_nil_iff, List.append_eq_nil_iff,
    Argument.problems_eq_nil_iff, complaints_eq_nil_iff]
  constructor
  · rintro ⟨⟨bound, flag⟩, accepted⟩
    refine ⟨bound, accepted, ?_⟩
    have present : ¬mark.LacksFlag := by
      intro lacks
      simp [lacks] at flag
    cases given : mark.literal? "primary_flag" with
    | none => exact absurd (.inl given) present
    | some value =>
        cases accepted "primary_flag" .text (by simp [optionKinds]) value given with
        | null => exact absurd (.inr given) present
        | text flag => exact ⟨flag, rfl⟩
  · rintro ⟨bound, accepted, ⟨flag, flagged⟩⟩
    refine ⟨⟨bound, ?_⟩, accepted⟩
    simp [LacksFlag, flagged]

end Exactness

section Replacement

variable (mark : Annotation) (index : Nat) (value : Literal)

/-- The annotation with another value of the argument at an index. -/
def replaceValue : Annotation :=
  { mark with args := Argument.replaceValue mark.args index value }

/-- A field that the argument is not aimed at does not see its value. -/
theorem literal?_replaceValue {field : String}
    (elsewhere : Argument.target? optionFields mark.args index ≠ some field) :
    (mark.replaceValue index value).literal? field = mark.literal? field := by
  simp only [literal?, Argument.bound?, replaceValue]
  rw [Argument.aimedAt_replaceValue mark.args index value elsewhere]

/-- What is read for a field depends on no value of an argument that is aimed elsewhere. -/
theorem agreeBut_replaceValue :
    mark.readOption.value.AgreeBut (Argument.target? optionFields mark.args index)
      (mark.replaceValue index value).readOption.value := by
  rw [readOption_value, readOption_value]
  constructor <;>
    (intro elsewhere
     simp only [statedOption, literal?_replaceValue mark index value elsewhere])

end Replacement

/-- An option annotation is read as its arguments say. Each field has the value of the first
argument aimed at it, if that is of its kind, and else the one by default. Every argument that is
not bound, a missing flag and every value that cannot be used is one problem, with one message.
There is none exactly when the annotation is well formed, and the value of an argument matters for
no field but the one that it is aimed at. -/
theorem readOption_exact (mark : Annotation) :
    mark.readOption.value = mark.statedOption ∧
    mark.readOption.problems = mark.statedProblems ∧
    mark.readOption.messages mark.name = mark.statedProblems.map (fun problem =>
      "malformed `" ++ mark.name ++ "` annotation: " ++ problem.message) ∧
    (mark.readOption.problems = [] ↔ mark.IsWellFormedOption) ∧
    (∀ index value, mark.readOption.value.AgreeBut
      (Argument.target? optionFields mark.args index)
      (mark.replaceValue index value).readOption.value) := by
  refine ⟨mark.readOption_value, mark.readOption_problems, ?_, mark.readOption_problems_eq_nil_iff,
    mark.agreeBut_replaceValue⟩
  rw [Reading.messages, mark.readOption_problems]

end Annotation

end OptionCompiler
