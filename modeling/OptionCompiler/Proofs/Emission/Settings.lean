import Mathlib
import OptionCompiler.Proofs.Emission.Layout
import OptionCompiler.Proofs.Source.Spelling
/-!
# What the settings of an option tell

Each setting of an option is about one matter, which its name tells: the names of the settings for
the primary flag, the aliases, the help text and so on differ from each other. So the settings of
an option are enough to recover its flags, its texts, its truth values and its arity.
-/

namespace OptionCompiler

namespace Emission

namespace Setting

/-- The names of the settings that register aliases. -/
def aliasNames : List String :=
  ["visible_alias", "visible_short_alias"]

/-- The settings by the given names. -/
def named (names : List String) (settings : List Setting) : List Setting :=
  settings.filter fun setting => setting.name ∈ names

section Names

variable {names : List String}

theorem name_ofPrimary (spelling : FlagSpelling) :
    (ofPrimary spelling).name = "long" ∨ (ofPrimary spelling).name = "short" := by
  cases spelling with
  | long name => exact .inl rfl
  | short letter => exact .inr rfl

theorem name_ofAlias (spelling : FlagSpelling) : (ofAlias spelling).name ∈ aliasNames := by
  cases spelling <;> simp [ofAlias, aliasNames]

theorem name_ofText {name : String} {text : Option String} {setting : Setting}
    (member : setting ∈ ofText name text) : setting.name = name := by
  rcases List.mem_map.mp member with ⟨text, _, rfl⟩
  rfl

theorem name_ofTrue {name : String} {value : Bool} {setting : Setting}
    (member : setting ∈ ofTrue name value) : setting.name = name := by
  cases value with
  | false => simp [ofTrue] at member
  | true => rw [List.mem_singleton.mp member]

/-- The names of all settings but the element type and the action. -/
def ownNames : List String :=
  "long" :: "short" :: aliasNames ++
    ["help", "value_name", "required", "hide", "num_args", "default_missing_value"]

theorem name_of_mem_ofOption {option : OptionDescriptor} {setting : Setting}
    (member : setting ∈ ofOption option) : setting.name ∈ ownNames := by
  simp only [ofOption, List.mem_append, List.mem_singleton, List.mem_map] at member
  rcases member with ((((((rfl | ⟨spelling, _, rfl⟩) | help) | valueName) | required) | hide) |
    rfl) | missing
  · rcases name_ofPrimary option.primarySpelling with name | name <;> rw [name] <;> decide
  · exact List.mem_cons_of_mem _ (List.mem_cons_of_mem _ (List.mem_append_left _
      (name_ofAlias spelling)))
  · rw [name_ofText help]
    decide
  · rw [name_ofText valueName]
    decide
  · rw [name_ofTrue required]
    decide
  · rw [name_ofTrue hide]
    decide
  · simp [ownNames]
  · rw [name_ofText missing]
    decide

section Lines

open Source (IsLine)

theorem isLine_ofPrimary (spelling : FlagSpelling) : IsLine (ofPrimary spelling).argument := by
  cases spelling with
  | long name => exact Source.isLine_stringLiteral name
  | short letter => exact Source.isLine_charLiteral letter

theorem isLine_ofAlias (spelling : FlagSpelling) : IsLine (ofAlias spelling).argument := by
  cases spelling with
  | long name => exact Source.isLine_stringLiteral name
  | short letter => exact Source.isLine_charLiteral letter

theorem isLine_ofText {name : String} {text : Option String} {setting : Setting}
    (member : setting ∈ ofText name text) : IsLine setting.argument := by
  rcases List.mem_map.mp member with ⟨text, _, rfl⟩
  exact Source.isLine_stringLiteral text

theorem isLine_ofTrue {name : String} {value : Bool} {setting : Setting}
    (member : setting ∈ ofTrue name value) : IsLine setting.argument := by
  cases value with
  | false => simp [ofTrue] at member
  | true =>
      rw [List.mem_singleton.mp member]
      exact (by decide : IsLine "true")

/-- Every setting of an option is one line. -/
theorem isLine_of_mem_ofOption {option : OptionDescriptor} {setting : Setting}
    (member : setting ∈ ofOption option) : IsLine setting.line := by
  have name : IsLine setting.name := by
    have own := name_of_mem_ofOption member
    generalize setting.name = name at own
    revert name
    decide
  have argument : IsLine setting.argument := by
    simp only [ofOption, List.mem_append, List.mem_singleton, List.mem_map] at member
    rcases member with ((((((rfl | ⟨spelling, _, rfl⟩) | help) | valueName) | required) | hide) |
      rfl) | missing
    · exact isLine_ofPrimary _
    · exact isLine_ofAlias spelling
    · exact isLine_ofText help
    · exact isLine_ofText valueName
    · exact isLine_ofTrue required
    · exact isLine_ofTrue hide
    · exact Source.isLine_countRange _ _
    · exact isLine_ofText missing
  simp only [Setting.line, Source.isLine_append]
  exact ⟨⟨⟨⟨by decide, name⟩, by decide⟩, argument⟩, by decide⟩

end Lines

theorem named_append (settings others : List Setting) :
    named names (settings ++ others) = named names settings ++ named names others :=
  List.filter_append ..

theorem named_of_forall_mem {settings : List Setting}
    (all : ∀ setting ∈ settings, setting.name ∈ names) : named names settings = settings := by
  apply List.filter_eq_self.mpr
  intro setting member
  exact decide_eq_true (all setting member)

theorem named_of_forall_not_mem {settings : List Setting}
    (none : ∀ setting ∈ settings, setting.name ∉ names) : named names settings = [] := by
  apply List.filter_eq_nil_iff.mpr
  intro setting member present
  exact none setting member (of_decide_eq_true present)

theorem named_primary (long : "long" ∉ names) (short : "short" ∉ names) (spelling : FlagSpelling) :
    named names [ofPrimary spelling] = [] := by
  apply named_of_forall_not_mem
  intro setting member
  rw [List.mem_singleton.mp member]
  rcases name_ofPrimary spelling with name | name <;> rw [name]
  · exact long
  · exact short

theorem named_aliases (other : ∀ name ∈ aliasNames, name ∉ names) (spellings : List FlagSpelling) :
    named names (spellings.map ofAlias) = [] := by
  apply named_of_forall_not_mem
  intro setting member
  rcases List.mem_map.mp member with ⟨spelling, _, rfl⟩
  exact other _ (name_ofAlias spelling)

theorem named_ofText (name : String) (text : Option String) :
    named names (ofText name text) = if name ∈ names then ofText name text else [] := by
  split_ifs with present
  · exact named_of_forall_mem fun setting member => name_ofText member ▸ present
  · exact named_of_forall_not_mem fun setting member => name_ofText member ▸ present

theorem named_ofTrue (name : String) (value : Bool) :
    named names (ofTrue name value) = if name ∈ names then ofTrue name value else [] := by
  split_ifs with present
  · exact named_of_forall_mem fun setting member => name_ofTrue member ▸ present
  · exact named_of_forall_not_mem fun setting member => name_ofTrue member ▸ present

theorem named_singleton (name argument : String) :
    named names [⟨name, argument⟩] = if name ∈ names then [⟨name, argument⟩] else [] := by
  split_ifs with present
  · exact named_of_forall_mem (by simpa using present)
  · exact named_of_forall_not_mem (by simpa using present)

end Names

section Recovery

theorem ofPrimary_injective : Function.Injective ofPrimary := by
  intro spelling other equal
  cases spelling <;> cases other <;> simp only [ofPrimary, mk.injEq] at equal
  · rw [Source.stringLiteral_injective equal.2]
  · exact absurd equal.1 (by decide)
  · exact absurd equal.1 (by decide)
  · rw [Source.charLiteral_injective equal.2]

theorem ofAlias_injective : Function.Injective ofAlias := by
  intro spelling other equal
  cases spelling <;> cases other <;> simp only [ofAlias, mk.injEq] at equal
  · rw [Source.stringLiteral_injective equal.2]
  · exact absurd equal.1 (by decide)
  · exact absurd equal.1 (by decide)
  · rw [Source.charLiteral_injective equal.2]

theorem ofText_injective (name : String) : Function.Injective (ofText name) := by
  intro text other equal
  cases text <;> cases other <;> simp [ofText] at equal
  · rfl
  · rw [Source.stringLiteral_injective equal]

theorem ofTrue_injective (name : String) : Function.Injective (ofTrue name) := by
  intro value other equal
  cases value <;> cases other <;> simp [ofTrue] at equal ⊢

theorem named_aliasNames (option : OptionDescriptor) :
    named aliasNames (ofOption option) = option.aliasSpellings.map ofAlias := by
  have aliases : named aliasNames (option.aliasSpellings.map ofAlias) =
      option.aliasSpellings.map ofAlias := by
    apply named_of_forall_mem
    intro setting member
    rcases List.mem_map.mp member with ⟨spelling, _, rfl⟩
    exact name_ofAlias spelling
  have primary : named aliasNames [ofPrimary option.primarySpelling] = [] :=
    named_primary (by decide) (by decide) _
  simp only [ofOption, named_append, primary, aliases, named_ofText, named_ofTrue, named_singleton]
  simp [aliasNames]

/-- The settings of an option by some names, none of which is for a flag. -/
theorem named_ofOption (names : List String)
    (other : ∀ name ∈ "long" :: "short" :: aliasNames, name ∉ names) (option : OptionDescriptor) :
    named names (ofOption option) =
      (if "help" ∈ names then ofText "help" option.description else []) ++
        (if "value_name" ∈ names then ofText "value_name" option.helpName else []) ++
        (if "required" ∈ names then ofTrue "required" option.required else []) ++
        (if "hide" ∈ names then ofTrue "hide" option.hidden else []) ++
        (if "num_args" ∈ names then
          [⟨"num_args", Source.countRange option.arity.min option.arity.max⟩] else []) ++
        (if "default_missing_value" ∈ names then
          ofText "default_missing_value"
            (if option.backingType.isBoolean then some "true" else none) else []) := by
  have primary := named_primary (other "long" (by simp)) (other "short" (by simp))
    option.primarySpelling
  have aliases := named_aliases (fun name member => other name (by simp [member]))
    option.aliasSpellings
  simp only [ofOption, named_append, primary, aliases, named_ofText, named_ofTrue,
    named_singleton, List.nil_append, List.append_assoc]

/-- What the settings of an option tell. -/
structure Tells (option other : OptionDescriptor) : Prop where
  primarySpelling : option.primarySpelling = other.primarySpelling
  aliasSpellings : option.aliasSpellings = other.aliasSpellings
  description : option.description = other.description
  helpName : option.helpName = other.helpName
  required : option.required = other.required
  hidden : option.hidden = other.hidden
  arity : option.arity = other.arity
  isBoolean : option.backingType.isBoolean = other.backingType.isBoolean

/-- Options with equal settings agree on all that settings are about. -/
theorem tells_of_ofOption_eq {option other : OptionDescriptor}
    (same : ofOption option = ofOption other) : Tells option other := by
  have byName (names : List String)
      (noFlag : ∀ name ∈ "long" :: "short" :: aliasNames, name ∉ names) :=
    (named_ofOption names noFlag option).symm.trans
      ((congrArg (named names) same).trans (named_ofOption names noFlag other))
  have registered := congrArg (named aliasNames) same
  rw [named_aliasNames, named_aliasNames] at registered
  have help : ofText "help" option.description = ofText "help" other.description := by
    simpa using byName ["help"] (by decide)
  have valueName : ofText "value_name" option.helpName = ofText "value_name" other.helpName := by
    simpa using byName ["value_name"] (by decide)
  have isRequired : ofTrue "required" option.required = ofTrue "required" other.required := by
    simpa using byName ["required"] (by decide)
  have hide : ofTrue "hide" option.hidden = ofTrue "hide" other.hidden := by
    simpa using byName ["hide"] (by decide)
  have counts : Source.countRange option.arity.min option.arity.max =
      Source.countRange other.arity.min other.arity.max := by
    simpa using byName ["num_args"] (by decide)
  have missing : ofText "default_missing_value"
        (if option.backingType.isBoolean then some "true" else none) =
      ofText "default_missing_value"
        (if other.backingType.isBoolean then some "true" else none) := by
    simpa using byName ["default_missing_value"] (by decide)
  rcases Source.countRange_injective counts with ⟨least, greatest⟩
  have defaults := ofText_injective _ missing
  exact {
    primarySpelling := by
      simp only [ofOption, List.append_assoc, List.cons_append, List.cons.injEq] at same
      exact ofPrimary_injective same.1
    aliasSpellings := List.map_injective_iff.mpr ofAlias_injective registered
    description := ofText_injective _ help
    helpName := ofText_injective _ valueName
    required := ofTrue_injective _ isRequired
    hidden := ofTrue_injective _ hide
    arity := by
      rw [Arity.mk.injEq]
      exact ⟨least, greatest⟩
    isBoolean := by
      cases boolean : option.backingType.isBoolean <;>
        cases boolean' : other.backingType.isBoolean <;> simp [boolean, boolean'] at defaults ⊢ }

end Recovery

end Setting

end Emission

end OptionCompiler
