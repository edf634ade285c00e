import Mathlib
import OptionCompiler.Proofs.Annotation.Binding
import OptionCompiler.Proofs.Extraction.Tree
import OptionCompiler.Validation
/-!
# What the rules find

Five rules are described by the declarations alone. Three of them say where annotations may stand
and look at the declarations themselves. The other two look at the extracted options, which come
from the members with an option annotation and a usable name, in the command containers with a
usable name; what these rules see of an option is what the declared type and the first option
annotation of its member say.

The range of an arity is a set of counts. It is empty when the bounds are in the wrong order, and
then it is wrong for every type.
-/

namespace OptionCompiler

namespace Arity

/-- The counts in the range. -/
def counts (arity : Arity) : Set ℕ :=
  {count | arity.min.toNat ≤ count ∧ ∀ max ∈ arity.max, count ≤ max.toNat}

theorem counts_nonempty_iff (arity : Arity) :
    arity.counts.Nonempty ↔ arity.isOrdered = true := by
  rcases arity with ⟨min, _ | max⟩
  · constructor
    · intro _
      rfl
    · intro _
      exact ⟨min.toNat, Nat.le_refl _, by simp⟩
  · simp only [isOrdered, decide_eq_true_eq]
    constructor
    · rintro ⟨count, above, below⟩
      have bound : count ≤ max.toNat := below max rfl
      exact UInt32.le_iff_toNat_le.mpr (Nat.le_trans above bound)
    · intro ordered
      refine ⟨min.toNat, Nat.le_refl _, ?_⟩
      intro limit same
      cases same
      exact UInt32.le_iff_toNat_le.mp ordered

/-- A range with a greatest count lies inside another one when its bounds do. -/
theorem counts_subset_of_max {min max : UInt32} (ordered : min ≤ max) (natural : Arity) :
    (Arity.mk min (some max)).counts ⊆ natural.counts ↔
      natural.min ≤ min ∧ ∀ limit ∈ natural.max, max ≤ limit := by
  rw [UInt32.le_iff_toNat_le] at ordered
  constructor
  · intro inside
    have least := inside (a := min.toNat) ⟨Nat.le_refl _, by simpa using ordered⟩
    have greatest := inside (a := max.toNat) ⟨ordered, by simp⟩
    refine ⟨UInt32.le_iff_toNat_le.mpr least.1, ?_⟩
    intro limit bound
    exact UInt32.le_iff_toNat_le.mpr (greatest.2 limit bound)
  · rintro ⟨least, greatest⟩ count ⟨above, below⟩
    have bound : count ≤ max.toNat := below max rfl
    refine ⟨Nat.le_trans (UInt32.le_iff_toNat_le.mp least) above, ?_⟩
    intro limit isLimit
    exact Nat.le_trans bound (UInt32.le_iff_toNat_le.mp (greatest limit isLimit))

/-- A range without a greatest count lies only inside ranges without one. -/
theorem counts_subset_of_unbounded (min : UInt32) (natural : Arity) :
    (Arity.mk min none).counts ⊆ natural.counts ↔ natural.min ≤ min ∧ natural.max = none := by
  constructor
  · intro inside
    have least := inside (a := min.toNat) ⟨Nat.le_refl _, by simp⟩
    refine ⟨UInt32.le_iff_toNat_le.mpr least.1, ?_⟩
    cases bound : natural.max with
    | none => rfl
    | some limit =>
        have beyond := inside (a := min.toNat + limit.toNat + 1) ⟨by simp only; omega, by simp⟩
        have exceeded := beyond.2 limit bound
        omega
  · rintro ⟨least, unbounded⟩ count ⟨above, _⟩
    refine ⟨Nat.le_trans (UInt32.le_iff_toNat_le.mp least) above, ?_⟩
    simp [unbounded]

/-- An arity fits when its range has counts, and all of them are natural. -/
theorem fitsWithin_iff (arity natural : Arity) :
    arity.fitsWithin natural = true ↔
      arity.counts.Nonempty ∧ arity.counts ⊆ natural.counts := by
  rw [counts_nonempty_iff]
  cases ordered : arity.isOrdered with
  | false => simp [fitsWithin, ordered]
  | true =>
      rcases arity with ⟨min, _ | max⟩
      · rw [counts_subset_of_unbounded]
        cases bound : natural.max <;> simp [fitsWithin, ordered, bound]
      · rw [counts_subset_of_max (by simpa [isOrdered] using ordered)]
        cases bound : natural.max <;> simp [fitsWithin, ordered, bound]

instance (arity natural : Arity) :
    Decidable (arity.counts.Nonempty ∧ arity.counts ⊆ natural.counts) :=
  decidable_of_iff _ (fitsWithin_iff arity natural)

end Arity

/-- A member with the type that it belongs to. -/
structure Site where
  declaration : TypeDeclaration
  member : Member

/-- The members of all types, in declaration order. -/
def DeclarationSet.sites (set : DeclarationSet) : List Site :=
  set.declarations.flatMap fun declaration => declaration.members.map (Site.mk declaration)

namespace Site

def location (site : Site) : Location :=
  .ofMember site.declaration.name site.member.name

/-- The type carries a command annotation. -/
def InContainer (site : Site) : Prop :=
  ∃ mark ∈ site.declaration.annotations, mark.name = "command"

/-- The member carries an option annotation. -/
def IsOption (site : Site) : Prop :=
  ∃ mark ∈ site.member.annotations, mark.name = "option"

/-- The member carries an annotation that constrains paths. -/
def IsConstrained (site : Site) : Prop :=
  ∃ mark ∈ site.member.annotations, mark.name = "directory" ∨ mark.name = "file"

/-- An annotation constrains paths of a kind that the values of the member are not. -/
def Mismatches (site : Site) (mark : Annotation) : Prop :=
  mark.name = "directory" ∧ site.member.type.shape ≠ .directory ∨
    mark.name = "file" ∧ site.member.type.shape ≠ .file

/-- The type is a command container, and its name and that of the member are usable. -/
def IsDescribable (site : Site) : Prop :=
  site.InContainer ∧ Source.isUsable site.declaration.name = true ∧
    Source.isUsable site.member.name = true

/-- The first option annotation of the member. -/
def firstOption? (site : Site) : Option Annotation :=
  site.member.annotations.find? fun mark => mark.name = "option"

/-- The widest range of counts for the declared type. -/
def naturalArity (site : Site) : Arity :=
  if site.member.type.sequence then ⟨0, none⟩ else ⟨0, some 1⟩

/-- The range of counts for the declared type when nothing is said about it. -/
def defaultArity (site : Site) : Arity :=
  if site.member.type.sequence then ⟨0, none⟩
  else if site.member.type.shape = .bool then ⟨0, some 1⟩
  else ⟨1, some 1⟩

/-- The range of counts that an option annotation states, with the default for each bound that it
does not state. -/
def statedArity (site : Site) (mark : Annotation) : Arity :=
  ⟨(mark.statedCount? "arity_min").getD site.defaultArity.min,
    (mark.statedCount? "arity_max").or site.defaultArity.max⟩

/-- An option annotation outside a command container. -/
def IsMisplaced (site : Site) : Prop :=
  site.IsOption ∧ ¬site.InContainer

/-- Constraint annotations without an option annotation. -/
def IsOrphaned (site : Site) : Prop :=
  site.IsConstrained ∧ ¬site.IsOption

/-- An option that is required and whose value may be lacking. -/
def IsRequiredNullable (site : Site) : Prop :=
  site.IsDescribable ∧ site.member.type.nullable = true ∧
    ∃ mark ∈ site.firstOption?, mark.statesTrue "required" = true

/-- An option whose range of counts is empty or has counts that its type cannot hold. -/
def HasUnnaturalArity (site : Site) : Prop :=
  site.IsDescribable ∧ ∃ mark ∈ site.firstOption?,
    ¬((site.statedArity mark).counts.Nonempty ∧
      (site.statedArity mark).counts ⊆ site.naturalArity.counts)

instance : DecidablePred InContainer := fun _ => inferInstanceAs (Decidable (∃ _ ∈ _, _))

instance : DecidablePred IsOption := fun _ => inferInstanceAs (Decidable (∃ _ ∈ _, _))

instance : DecidablePred IsConstrained := fun _ => inferInstanceAs (Decidable (∃ _ ∈ _, _))

instance (site : Site) : DecidablePred site.Mismatches :=
  fun _ => inferInstanceAs (Decidable (_ ∨ _))

instance : DecidablePred IsDescribable := fun _ => inferInstanceAs (Decidable (_ ∧ _))

instance : DecidablePred IsMisplaced := fun _ => inferInstanceAs (Decidable (_ ∧ _))

instance : DecidablePred IsOrphaned := fun _ => inferInstanceAs (Decidable (_ ∧ _))

instance : DecidablePred IsRequiredNullable :=
  fun _ => inferInstanceAs (Decidable (_ ∧ _ ∧ ∃ _ ∈ _, _))

instance : DecidablePred HasUnnaturalArity :=
  fun _ => inferInstanceAs (Decidable (_ ∧ ∃ _ ∈ _, _))

section Annotations

variable (site : Site)

theorem isCommandContainer_eq :
    site.declaration.isCommandContainer = decide site.InContainer := by
  rw [Bool.eq_iff_iff, decide_eq_true_iff]
  simp only [TypeDeclaration.isCommandContainer, TypeDeclaration.commandAnnotation?,
    TypeDeclaration.annotationsNamed, List.head?_filter, List.find?_isSome, decide_eq_true_iff]
  rfl

theorem optionAnnotation?_eq : site.member.optionAnnotation? = site.firstOption? :=
  List.head?_filter

theorem hasOption_eq : site.member.hasOption = decide site.IsOption := by
  rw [Bool.eq_iff_iff, decide_eq_true_iff, ← Member.isSome_optionAnnotation?,
    optionAnnotation?_eq, firstOption?]
  simp only [List.find?_isSome, decide_eq_true_iff]
  rfl

theorem ofAnnotationName?_eq_some {name : String} {kind : PathKind} :
    PathKind.ofAnnotationName? name = some kind ↔
      name = "directory" ∧ kind = .directory ∨ name = "file" ∧ kind = .file := by
  unfold PathKind.ofAnnotationName?
  by_cases file : name = "file"
  · simp [file, eq_comm]
  · by_cases directory : name = "directory" <;> simp [file, directory, eq_comm]

theorem mismatches_iff (mark : Annotation) :
    site.Mismatches mark ↔
      ∃ kind, PathKind.ofAnnotationName? mark.name = some kind ∧
        site.member.type.shape.pathKind? ≠ some kind := by
  have directory : site.member.type.shape.pathKind? = some .directory ↔
      site.member.type.shape = .directory := by
    cases site.member.type.shape <;> simp [ValueShape.pathKind?]
  have file : site.member.type.shape.pathKind? = some .file ↔
      site.member.type.shape = .file := by
    cases site.member.type.shape <;> simp [ValueShape.pathKind?]
  simp only [ofAnnotationName?_eq_some]
  constructor
  · rintro (⟨named, other⟩ | ⟨named, other⟩)
    · exact ⟨.directory, .inl ⟨named, rfl⟩, fun suits => other (directory.mp suits)⟩
    · exact ⟨.file, .inr ⟨named, rfl⟩, fun suits => other (file.mp suits)⟩
  · rintro ⟨_, ⟨named, rfl⟩ | ⟨named, rfl⟩, unsuited⟩
    · exact .inl ⟨named, fun shape => unsuited (directory.mpr shape)⟩
    · exact .inr ⟨named, fun shape => unsuited (file.mpr shape)⟩

theorem isEmpty_constraintAnnotations :
    site.member.constraintAnnotations.isEmpty = !decide site.IsConstrained := by
  have constrained : site.member.constraintAnnotations.isEmpty = false ↔ site.IsConstrained := by
    rw [List.isEmpty_eq_false_iff_exists_mem]
    simp only [Member.constraintAnnotations, List.mem_filterMap, Option.map_eq_some_iff]
    constructor
    · rintro ⟨_, mark, member, kind, named, rfl⟩
      refine ⟨mark, member, ?_⟩
      rcases ofAnnotationName?_eq_some.mp named with ⟨directory, _⟩ | ⟨file, _⟩
      · exact .inl directory
      · exact .inr file
    · rintro ⟨mark, member, directory | file⟩
      · exact ⟨_, mark, member, .directory,
          ofAnnotationName?_eq_some.mpr (.inl ⟨directory, rfl⟩), rfl⟩
      · exact ⟨_, mark, member, .file, ofAnnotationName?_eq_some.mpr (.inr ⟨file, rfl⟩), rfl⟩
  rw [Bool.eq_iff_iff, ← not_iff_not]
  simpa using constrained

end Annotations

section Extracted

variable (site : Site)

/-- The option that extraction makes of the member. -/
def option? : Option OptionDescriptor :=
  if site.IsDescribable then
    site.firstOption?.map (Extraction.optionOf site.declaration.name site.member)
  else none

theorem isDescribable_iff :
    site.IsDescribable ↔
      site.declaration.givesCommand = true ∧ Source.isUsable site.member.name = true := by
  rw [TypeDeclaration.givesCommand, isCommandContainer_eq, Bool.and_eq_true, decide_eq_true_iff,
    and_assoc]
  rfl

theorem memberOption?_eq (gives : site.declaration.givesCommand = true) :
    Extraction.memberOption? site.declaration.name site.member = site.option? := by
  apply Option.ext
  intro option
  rw [Extraction.memberOption?_eq_some, optionAnnotation?_eq, option?]
  by_cases usable : Source.isUsable site.member.name = true
  · have describable := site.isDescribable_iff.mpr ⟨gives, usable⟩
    simp [describable, usable, eq_comm]
  · have bare : ¬site.IsDescribable := fun holds => usable (site.isDescribable_iff.mp holds).2
    simp [bare, usable]

theorem option?_eq_none (gives : site.declaration.givesCommand = false) :
    site.option? = none := by
  have bare : ¬site.IsDescribable := by
    intro holds
    rw [(site.isDescribable_iff.mp holds).1] at gives
    cases gives
  exact if_neg bare

/-- What a rule finds about the option of the member, as a question to its declaration. -/
theorem map_filter_option? {keep : OptionDescriptor → Bool} {shown : OptionDescriptor → Location}
    {wanted : Prop} [Decidable wanted] (located : ∀ option, shown option = option.location)
    (asks : wanted ↔ site.IsDescribable ∧ ∃ mark ∈ site.firstOption?,
      keep (Extraction.optionOf site.declaration.name site.member mark) = true) :
    (site.option?.filter keep).map shown =
      if decide wanted then some site.location else none := by
  simp only [decide_eq_true_iff, asks]
  unfold option?
  by_cases describable : site.IsDescribable
  · cases first : site.firstOption? with
    | none => simp
    | some mark =>
        have place : (Extraction.optionOf site.declaration.name site.member mark).location =
            site.location := rfl
        cases kept : keep (Extraction.optionOf site.declaration.name site.member mark) with
        | false => simp [kept]
        | true => simp [describable, kept, located, place]
  · simp [describable]

theorem naturalArity_classify :
    (BackingType.classify site.member.type).naturalArity = site.naturalArity := by
  unfold naturalArity
  rcases site.member.type with ⟨shape, nullable, sequence, element⟩
  cases sequence <;> cases nullable <;> cases shape <;> rfl

theorem defaultArity_classify :
    (BackingType.classify site.member.type).defaultArity = site.defaultArity := by
  unfold defaultArity
  rcases site.member.type with ⟨shape, nullable, sequence, element⟩
  cases sequence <;> cases nullable <;> cases shape <;> rfl

theorem isNullable_classify :
    (BackingType.classify site.member.type).isNullable = site.member.type.nullable := by
  rcases site.member.type with ⟨shape, nullable, sequence, element⟩
  cases sequence <;> cases nullable <;> cases shape <;> rfl

theorem arity_optionOf (mark : Annotation) :
    (Extraction.optionOf site.declaration.name site.member mark).arity = site.statedArity mark := by
  simp only [Extraction.optionOf, Extraction.arity, statedArity, mark.readOption_arityMin,
    mark.readOption_arityMax, defaultArity_classify]

end Extracted

end Site

section Options

theorem filterMap_option?_members (declaration : TypeDeclaration) :
    (declaration.members.map (Site.mk declaration)).filterMap Site.option? =
      (Extraction.command? declaration).toList.flatMap CommandDescriptor.options := by
  rw [List.filterMap_map]
  cases gives : declaration.givesCommand with
  | false =>
      have absent : Extraction.command? declaration = none := by
        rw [← Option.isNone_iff_eq_none, ← Option.not_isSome, Extraction.isSome_command?, gives]
        rfl
      have nothing (member : Member) : Site.option? ⟨declaration, member⟩ = none :=
        Site.option?_eq_none ⟨declaration, member⟩ gives
      simp [absent, nothing]
  | true =>
      have present := gives
      rw [← Extraction.isSome_command?] at present
      rcases Option.isSome_iff_exists.mp present with ⟨command, made⟩
      rcases Extraction.command?_eq_some.mp made with ⟨mark, _, _, rfl⟩
      have same : Site.option? ∘ Site.mk declaration =
          Extraction.memberOption? declaration.name := by
        funext member
        exact (Site.memberOption?_eq ⟨declaration, member⟩ gives).symm
      rw [made, same]
      simp [Extraction.commandOf]

/-- The options that the rules look at are those of the members, in declaration order. -/
theorem options_ofSet (set : DeclarationSet) :
    RuleInput.options ⟨set, (Extraction.ofSet set).commands⟩ =
      set.sites.filterMap Site.option? := by
  rcases set with ⟨declarations⟩
  simp only [RuleInput.options, Extraction.commands_ofSet_eq_filterMap, DeclarationSet.sites]
  induction declarations with
  | nil => rfl
  | cons declaration declarations ih =>
      rw [List.flatMap_cons, List.filterMap_append, ← ih, filterMap_option?_members]
      cases made : Extraction.command? declaration <;> simp [made]

end Options

section Counting

variable {α β γ : Type} {give : α → Option β} {keep : β → Bool} {wanted : α → Bool}
  {shown : β → γ} {named : α → γ}

/-- What is kept of the elements that are given is shown once for each wanted element. -/
theorem map_filter_filterMap
    (agree : ∀ element, ((give element).filter keep).map shown =
      if wanted element then some (named element) else none) (elements : List α) :
    ((elements.filterMap give).filter keep).map shown =
      (elements.filter wanted).map named := by
  rw [List.filter_filterMap, List.map_filterMap, funext agree]
  induction elements with
  | nil => rfl
  | cons element elements ih =>
      cases choice : wanted element <;> simp [choice, ih]

end Counting

namespace Rule

/-- The locations of what the rules with a code find. -/
def locations (code : DiagnosticCode) (input : RuleInput) : List Location :=
  (all.filter fun rule => rule.code = code).flatMap fun rule =>
    (rule.findings input).map Finding.location

theorem locations_of_filter {code : DiagnosticCode} {rule : Rule}
    (only : (all.filter fun rule => rule.code = code) = [rule]) (input : RuleInput) :
    locations code input = (rule.findings input).map Finding.location := by
  rw [locations, only, List.flatMap_singleton]

variable (set : DeclarationSet) (commands : List CommandDescriptor)

theorem members_eq :
    RuleInput.members ⟨set, commands⟩ =
      set.sites.map fun site => (site.declaration, site.member) := by
  simp only [RuleInput.members, DeclarationSet.sites, List.map_flatMap, List.map_map]
  rfl

theorem locations_misplacedOption :
    locations .misplacedOption ⟨set, commands⟩ =
      (set.sites.filter fun site => site.IsMisplaced).map Site.location := by
  rw [locations_of_filter rfl]
  simp only [misplacedOption, members_eq, List.filter_map, List.map_map]
  congr 2
  funext site
  rw [Bool.eq_iff_iff, decide_eq_true_iff, Function.comp_apply, Site.isCommandContainer_eq,
    Site.hasOption_eq]
  simp only [Bool.and_eq_true, Bool.not_eq_true', decide_eq_true_iff, decide_eq_false_iff_not]
  exact and_comm

theorem locations_orphanedConstraint :
    locations .orphanedConstraint ⟨set, commands⟩ =
      (set.sites.filter fun site => site.IsOrphaned).map Site.location := by
  rw [locations_of_filter rfl]
  simp only [orphanedConstraint, members_eq, List.filter_map, List.map_map]
  congr 2
  funext site
  rw [Bool.eq_iff_iff, decide_eq_true_iff, Function.comp_apply,
    Site.isEmpty_constraintAnnotations, Site.hasOption_eq]
  simp only [Bool.and_eq_true, Bool.not_eq_true', Bool.not_not, decide_eq_true_iff,
    decide_eq_false_iff_not]
  exact and_comm

theorem locations_constraintTypeMismatch :
    locations .constraintTypeMismatch ⟨set, commands⟩ =
      set.sites.flatMap fun site =>
        (site.member.annotations.filter fun mark => site.Mismatches mark).map
          fun _ => site.location := by
  rw [locations_of_filter rfl]
  simp only [constraintTypeMismatch, members_eq, List.flatMap_map, List.map_flatMap, List.map_map]
  congr 1
  funext site
  apply map_filter_filterMap
  intro mark
  have known := site.mismatches_iff mark
  cases named : PathKind.ofAnnotationName? mark.name with
  | none => simp [known, named]
  | some kind =>
      simp only [named, Option.some.injEq, exists_eq_left'] at known
      by_cases suits : site.member.type.shape.pathKind? = some kind
      · simp [known, suits]
      · simp [known, suits, Site.location]

theorem locations_requiredNullable :
    locations .requiredNullable ⟨set, (Extraction.ofSet set).commands⟩ =
      (set.sites.filter fun site => site.IsRequiredNullable).map Site.location := by
  rw [locations_of_filter rfl]
  simp only [requiredNullable, List.map_map, options_ofSet]
  apply map_filter_filterMap
  intro site
  apply site.map_filter_option? fun _ => rfl
  have required (mark : Annotation) :
      (Extraction.optionOf site.declaration.name site.member mark).required =
        mark.statesTrue "required" := mark.readOption_required
  have nullable (mark : Annotation) :
      (Extraction.optionOf site.declaration.name site.member mark).backingType.isNullable =
        site.member.type.nullable := site.isNullable_classify
  simp only [required, nullable, Bool.and_eq_true, Site.IsRequiredNullable]
  constructor
  · rintro ⟨describable, lacking, mark, first, states⟩
    exact ⟨describable, mark, first, states, lacking⟩
  · rintro ⟨describable, mark, first, states, lacking⟩
    exact ⟨describable, lacking, mark, first, states⟩

theorem locations_arityTypeMismatch :
    locations .arityTypeMismatch ⟨set, (Extraction.ofSet set).commands⟩ =
      (set.sites.filter fun site => site.HasUnnaturalArity).map Site.location := by
  rw [locations_of_filter rfl]
  simp only [arityTypeMismatch, List.map_map, options_ofSet]
  apply map_filter_filterMap
  intro site
  apply site.map_filter_option? fun _ => rfl
  have natural (mark : Annotation) :
      (Extraction.optionOf site.declaration.name site.member mark).backingType.naturalArity =
        site.naturalArity := site.naturalArity_classify
  simp only [site.arity_optionOf, natural, Site.HasUnnaturalArity, ← Arity.fitsWithin_iff,
    Bool.not_eq_true', Bool.not_eq_true]

end Rule

/-- The rules find exactly what the declarations say, in declaration order: each misplaced or
orphaned annotation once for its member, each mismatched constraint once for its annotation, and
each option with contradictory settings once for its member. -/
theorem findings_exact (set : DeclarationSet) :
    ∃ extraction, extract set .live = .ok extraction ∧
      Rule.locations .misplacedOption ⟨set, extraction.commands⟩ =
        (set.sites.filter fun site => site.IsMisplaced).map Site.location ∧
      Rule.locations .orphanedConstraint ⟨set, extraction.commands⟩ =
        (set.sites.filter fun site => site.IsOrphaned).map Site.location ∧
      Rule.locations .constraintTypeMismatch ⟨set, extraction.commands⟩ =
        (set.sites.flatMap fun site =>
          (site.member.annotations.filter fun mark => site.Mismatches mark).map
            fun _ => site.location) ∧
      Rule.locations .requiredNullable ⟨set, extraction.commands⟩ =
        (set.sites.filter fun site => site.IsRequiredNullable).map Site.location ∧
      Rule.locations .arityTypeMismatch ⟨set, extraction.commands⟩ =
        (set.sites.filter fun site => site.HasUnnaturalArity).map Site.location := by
  refine ⟨_, Extraction.extract_live set, ?_, ?_, ?_, ?_, ?_⟩
  · exact Rule.locations_misplacedOption set _
  · exact Rule.locations_orphanedConstraint set _
  · exact Rule.locations_constraintTypeMismatch set _
  · exact Rule.locations_requiredNullable set
  · exact Rule.locations_arityTypeMismatch set

end OptionCompiler
