import OptionCompiler.Proofs.Annotation.Reading
/-!
# Positions and names are interchangeable

A positional value may as well be given under the name of the field in whose place it stands, and
then the order of the arguments does not matter. The condition is that no field is given twice and
no value goes without a field: the named arguments are for different fields behind those that the
positional values take.

Under this condition every argument is bound and nothing is a problem. What an argument brings is
an entry of its field, the entries of both annotations are the same up to their order, and with
one entry for each field at most the order is not seen.
-/

namespace OptionCompiler

namespace Argument

/-- The values of the positional arguments, in order. -/
def positionalValues (arguments : List Argument) : List Literal :=
  (arguments.filter fun argument => argument.name.isNone).map Argument.value

/-- The names of the named arguments, in order. -/
def names (arguments : List Argument) : List String :=
  arguments.filterMap Argument.name

/-- The arguments with every positional value under the name of the field in its place. -/
def withNames (fields : List String) (arguments : List Argument) : List Argument :=
  List.zipWith (fun field value => ⟨some field, value⟩) fields (positionalValues arguments) ++
    arguments.filter fun argument => argument.name.isSome

/-- Every value has a field, and every field at most one value. -/
structure GivesApart (fields : List String) (arguments : List Argument) : Prop where
  fits : positionalCount arguments ≤ fields.length
  known : ∀ name ∈ names arguments, name ∈ fields.drop (positionalCount arguments)
  distinct : (names arguments).Nodup

/-- The other arguments give the same values by names alone, in any order. -/
structure Renames (fields : List String) (arguments others : List Argument) : Prop where
  apart : GivesApart fields arguments
  reordered : others.Perm (withNames fields arguments)

section Entries

/-- The field and the value of a named argument. -/
def entry? (argument : Argument) : Option (String × Literal) :=
  argument.name.map fun name => (name, argument.value)

/-- The entries that arguments bring when the given fields are left for positional values. -/
def entries : List String → List Argument → List (String × Literal)
  | _, [] => []
  | left, ⟨some name, value⟩ :: arguments => (name, value) :: entries left arguments
  | field :: left, ⟨none, value⟩ :: arguments => (field, value) :: entries left arguments
  | [], ⟨none, _⟩ :: arguments => entries [] arguments

@[simp]
theorem positionalCount_named (name : String) (value : Literal) (arguments : List Argument) :
    positionalCount (⟨some name, value⟩ :: arguments) = positionalCount arguments := by
  simp [positionalCount]

@[simp]
theorem positionalCount_positional (value : Literal) (arguments : List Argument) :
    positionalCount (⟨none, value⟩ :: arguments) = positionalCount arguments + 1 := by
  simp [positionalCount]

@[simp]
theorem names_named (name : String) (value : Literal) (arguments : List Argument) :
    names (⟨some name, value⟩ :: arguments) = name :: names arguments :=
  rfl

@[simp]
theorem names_positional (value : Literal) (arguments : List Argument) :
    names (⟨none, value⟩ :: arguments) = names arguments :=
  rfl

/-- The entries are those of the arguments with names, in another order. -/
theorem entries_perm_withNames (left : List String) (arguments : List Argument) :
    (entries left arguments).Perm ((withNames left arguments).filterMap entry?) := by
  induction arguments generalizing left with
  | nil => simp [entries, withNames, positionalValues]
  | cons argument arguments ih =>
      rcases argument with ⟨_ | name, value⟩
      · cases left with
        | nil => simpa [entries, withNames] using ih []
        | cons field left =>
            simpa [entries, withNames, positionalValues, entry?] using ih left
      · have named : (withNames left (⟨some name, value⟩ :: arguments)).Perm
            (⟨some name, value⟩ :: withNames left arguments) := by
          simp only [withNames, positionalValues]
          simp
        have brought : ((withNames left (⟨some name, value⟩ :: arguments)).filterMap entry?).Perm
            ((name, value) :: (withNames left arguments).filterMap entry?) :=
          named.filterMap entry?
        exact ((ih left).cons _).trans brought.symm

theorem keys_entries_perm (left : List String) (arguments : List Argument) :
    ((entries left arguments).map Prod.fst).Perm
      (left.take (positionalCount arguments) ++ names arguments) := by
  induction arguments generalizing left with
  | nil => simp [entries, positionalCount, names]
  | cons argument arguments ih =>
      rcases argument with ⟨_ | name, value⟩
      · cases left with
        | nil => simpa [entries] using ih []
        | cons field left => simpa [entries] using ih left
      · have later := (ih left).cons name
        simp only [entries, List.map_cons, positionalCount_named, names_named]
        exact later.trans List.perm_middle.symm

theorem entries_of_named {arguments : List Argument}
    (named : ∀ argument ∈ arguments, argument.name.isSome = true) (left : List String) :
    entries left arguments = arguments.filterMap entry? := by
  induction arguments with
  | nil => cases left <;> rfl
  | cons argument arguments ih =>
      rcases argument with ⟨_ | name, value⟩
      · simpa using named ⟨none, value⟩ (by simp)
      · have later := ih fun argument member => named argument (by simp [member])
        simp [entries, later, entry?]

end Entries

section Apart

variable {fields : List String} {arguments others : List Argument}

theorem nodup_keys_entries (nodup : fields.Nodup) (apart : GivesApart fields arguments) :
    ((entries fields arguments).map Prod.fst).Nodup := by
  rw [(keys_entries_perm fields arguments).nodup_iff, List.nodup_append]
  refine ⟨nodup.sublist (List.take_sublist _ _), apart.distinct, ?_⟩
  intro taken inFront name given same
  subst same
  exact List.disjoint_take_drop nodup (Nat.le_refl _) inFront (apart.known taken given)

theorem isSome_name_of_mem_withNames :
    ∀ argument ∈ withNames fields arguments, argument.name.isSome = true := by
  intro argument member
  rcases List.mem_append.mp member with positional | named
  · rw [← List.map_uncurry_zip_eq_zipWith] at positional
    rcases List.mem_map.mp positional with ⟨pair, _, rfl⟩
    rfl
  · exact (List.mem_filter.mp named).2

theorem Renames.isSome_name (renames : Renames fields arguments others) :
    ∀ argument ∈ others, argument.name.isSome = true :=
  fun argument member => isSome_name_of_mem_withNames argument (renames.reordered.mem_iff.mp member)

/-- The entries of both are the same. -/
theorem Renames.entries_perm (renames : Renames fields arguments others) :
    (entries fields arguments).Perm (entries fields others) := by
  rw [entries_of_named renames.isSome_name]
  exact (entries_perm_withNames fields arguments).trans (renames.reordered.symm.filterMap entry?)

theorem positionalCount_eq_zero (named : ∀ argument ∈ arguments, argument.name.isSome = true) :
    positionalCount arguments = 0 := by
  rw [positionalCount, List.countP_eq_zero]
  intro argument member
  rcases Option.isSome_iff_exists.mp (named argument member) with ⟨name, given⟩
  simp [given]

theorem Renames.givesApart (nodup : fields.Nodup) (renames : Renames fields arguments others) :
    GivesApart fields others := by
  have none := positionalCount_eq_zero renames.isSome_name
  have keys := renames.entries_perm.map Prod.fst
  have named := keys_entries_perm fields others
  rw [none, List.take_zero, List.nil_append] at named
  have given := named.symm.trans keys.symm
  constructor
  · omega
  · intro name member
    have taken := (given.trans (keys_entries_perm fields arguments)).mem_iff.mp member
    rw [none, List.drop_zero]
    rcases List.mem_append.mp taken with inFront | behind
    · exact List.mem_of_mem_take inFront
    · exact List.mem_of_mem_drop (renames.apart.known name behind)
  · exact given.nodup_iff.mpr (nodup_keys_entries nodup renames.apart)

end Apart

end Argument

namespace Binding

variable {fields : List String}

theorem bind_of_fresh {binding : Binding} {field : String} (value : Literal)
    (fresh : field ∉ binding.bound.map Prod.fst) :
    binding.bind field value = { binding with bound := binding.bound ++ [(field, value)] } := by
  have unbound : ¬(binding.bound.any fun entry => entry.1 = field) = true := by
    intro bound
    rcases List.any_eq_true.mp bound with ⟨entry, member, named⟩
    exact fresh (List.mem_map.mpr ⟨entry, member, of_decide_eq_true named⟩)
  rw [bind, if_neg unbound]

theorem add_positional_of_fresh {binding : Binding} (inside : binding.position < fields.length)
    (value : Literal) (fresh : fields[binding.position] ∉ binding.bound.map Prod.fst) :
    binding.add fields ⟨none, value⟩ =
      ⟨binding.bound ++ [(fields[binding.position], value)], binding.position + 1,
        binding.problems⟩ := by
  simp only [add, List.getElem?_eq_getElem inside]
  exact bind_of_fresh value fresh

theorem add_named_of_fresh {binding : Binding} {name : String} (known : name ∈ fields)
    (value : Literal) (fresh : name ∉ binding.bound.map Prod.fst) :
    binding.add fields ⟨some name, value⟩ =
      { binding with bound := binding.bound ++ [(name, value)] } := by
  simp only [add, known, if_true]
  exact bind_of_fresh value fresh

theorem not_mem_of_nodup_append {bound later : List (String × Literal)} {entry : String × Literal}
    (nodup : ((bound ++ entry :: later).map Prod.fst).Nodup) :
    entry.1 ∉ bound.map Prod.fst := by
  rw [List.map_append, List.nodup_append] at nodup
  intro member
  exact nodup.2.2 _ member _ (by simp) rfl

/-- Arguments that give no field twice are all bound. -/
theorem foldl_add_of_fresh {arguments : List Argument} (binding : Binding)
    (fits : Argument.positionalCount arguments ≤ (fields.drop binding.position).length)
    (known : ∀ name ∈ Argument.names arguments, name ∈ fields)
    (fresh : ((binding.bound ++
      Argument.entries (fields.drop binding.position) arguments).map Prod.fst).Nodup) :
    arguments.foldl (add fields) binding =
      ⟨binding.bound ++ Argument.entries (fields.drop binding.position) arguments,
        binding.position + Argument.positionalCount arguments, binding.problems⟩ := by
  induction arguments generalizing binding with
  | nil => simp [Argument.entries, Argument.positionalCount]
  | cons argument arguments ih =>
      rcases argument with ⟨_ | name, value⟩
      · -- The field in the place of the value is the first of those that are left.
        rw [Argument.positionalCount_positional, List.length_drop] at fits
        have inside : binding.position < fields.length := by omega
        rw [List.drop_eq_getElem_cons inside] at fresh ⊢
        simp only [Argument.entries] at fresh ⊢
        rw [List.foldl_cons, add_positional_of_fresh inside value (not_mem_of_nodup_append fresh),
          ih _ (by simp; omega) known (by simpa using fresh)]
        simp [Nat.add_assoc, Nat.add_comm]
      · simp only [Argument.entries] at fresh ⊢
        rw [List.foldl_cons,
          add_named_of_fresh (known name (by simp)) value (not_mem_of_nodup_append fresh),
          ih _ (by simpa using fits) (fun other member => known other (by simp [member]))
            (by simpa using fresh)]
        simp

theorem ofArguments_of_givesApart {arguments : List Argument} (nodup : fields.Nodup)
    (apart : Argument.GivesApart fields arguments) :
    ofArguments fields arguments =
      ⟨Argument.entries fields arguments, Argument.positionalCount arguments, []⟩ := by
  have fresh : ((empty.bound ++ Argument.entries fields arguments).map Prod.fst).Nodup :=
    Argument.nodup_keys_entries nodup apart
  have bound := foldl_add_of_fresh empty apart.fits
    (fun name member => List.mem_of_mem_drop (apart.known name member)) fresh
  simp only [empty, List.drop_zero, List.nil_append, Nat.zero_add] at bound
  exact bound

/-- Two bindings have the same problems and give the same literals. -/
structure Alike (left right : Binding) : Prop where
  problems : left.problems = right.problems
  given : ∀ field, left.get? field = right.get? field

theorem lookup_eq_some_iff {entries : List (String × Literal)}
    (nodup : (entries.map Prod.fst).Nodup) (field : String) (value : Literal) :
    entries.lookup field = some value ↔ (field, value) ∈ entries := by
  induction entries with
  | nil => simp
  | cons entry entries ih =>
      rcases entry with ⟨name, given⟩
      rw [List.map_cons, List.nodup_cons] at nodup
      by_cases same : field = name
      · subst same
        have absent : (field, value) ∉ entries := fun member =>
          nodup.1 (List.mem_map.mpr ⟨_, member, rfl⟩)
        simp [absent, eq_comm]
      · simp [List.lookup_cons, beq_eq_false_iff_ne.mpr same, same, ih nodup.2]

theorem lookup_eq_of_perm {entries others : List (String × Literal)}
    (nodup : (entries.map Prod.fst).Nodup) (perm : entries.Perm others) (field : String) :
    entries.lookup field = others.lookup field := by
  have nodup' := (perm.map Prod.fst).nodup_iff.mp nodup
  apply Option.ext
  intro value
  rw [lookup_eq_some_iff nodup, lookup_eq_some_iff nodup', perm.mem_iff]

/-- Annotations that give the same values are bound alike. -/
theorem alike_of_renames {arguments others : List Argument} (nodup : fields.Nodup)
    (renames : Argument.Renames fields arguments others) :
    Alike (ofArguments fields arguments) (ofArguments fields others) := by
  rw [ofArguments_of_givesApart nodup renames.apart,
    ofArguments_of_givesApart nodup (renames.givesApart nodup)]
  refine ⟨rfl, ?_⟩
  intro field
  simp only [get?, lookup_eq_of_perm (Argument.nodup_keys_entries nodup renames.apart)
    renames.entries_perm field]

end Binding

namespace Annotation

open Argument (Renames)

/-- All that is read of an annotation, its values and its problems, stays the same when positional
values are given by name and the arguments are put into another order. -/
theorem read_of_renames (name : String) (arguments others : List Argument) :
    (Renames commandFields arguments others →
      readCommand ⟨name, arguments⟩ = readCommand ⟨name, others⟩) ∧
    (Renames optionFields arguments others →
      readOption ⟨name, arguments⟩ = readOption ⟨name, others⟩) ∧
    (∀ kind, Renames constraintFields arguments others →
      readConstraint kind ⟨name, arguments⟩ = readConstraint kind ⟨name, others⟩) := by
  refine ⟨?_, ?_, ?_⟩
  · intro renames
    rcases Binding.alike_of_renames (by decide) renames with ⟨problems, given⟩
    simp only [readCommand, Reading.text?, problems, given]
  · intro renames
    rcases Binding.alike_of_renames (by decide) renames with ⟨problems, given⟩
    simp only [readOption, missingFlag, Reading.text?, Reading.texts, Reading.bool?,
      Reading.count?, problems, given]
  · intro kind renames
    rcases Binding.alike_of_renames (by decide) renames with ⟨problems, given⟩
    simp only [readConstraint, Reading.text?, problems, given]

/-- Two positional values between named arguments, with a count and an alias that cannot be
used. -/
def mixedArguments : List Argument :=
  [⟨some "hidden", .bool true⟩, ⟨none, .string "--level"⟩, ⟨some "arity_max", .string "two"⟩,
    ⟨none, .list [.string "-l", .null]⟩]

/-- The same values by name, in another order. -/
def namedArguments : List Argument :=
  [⟨some "aliases", .list [.string "-l", .null]⟩, ⟨some "arity_max", .string "two"⟩,
    ⟨some "primary_flag", .string "--level"⟩, ⟨some "hidden", .bool true⟩]

theorem renames_mixedArguments : Renames optionFields mixedArguments namedArguments :=
  ⟨⟨by decide, by decide, by decide⟩, by decide⟩

theorem read_of_renames_mixedArguments :
    (Renames commandFields [⟨some "name", .null⟩, ⟨none, .string "Levels"⟩]
        [⟨some "name", .null⟩, ⟨some "description", .string "Levels"⟩] ∧
      readCommand ⟨"command", [⟨some "name", .null⟩, ⟨none, .string "Levels"⟩]⟩ =
        readCommand
          ⟨"command", [⟨some "name", .null⟩, ⟨some "description", .string "Levels"⟩]⟩) ∧
    (Renames optionFields mixedArguments namedArguments ∧
      readOption ⟨"option", mixedArguments⟩ = readOption ⟨"option", namedArguments⟩) ∧
    (Renames constraintFields [⟨none, .string "Never"⟩] [⟨some "mode", .string "Never"⟩] ∧
      readConstraint .file ⟨"file", [⟨none, .string "Never"⟩]⟩ =
        readConstraint .file ⟨"file", [⟨some "mode", .string "Never"⟩]⟩) := by
  have command : Renames commandFields [⟨some "name", .null⟩, ⟨none, .string "Levels"⟩]
      [⟨some "name", .null⟩, ⟨some "description", .string "Levels"⟩] :=
    ⟨⟨by decide, by decide, by decide⟩, by decide⟩
  have constraint : Renames constraintFields [⟨none, .string "Never"⟩]
      [⟨some "mode", .string "Never"⟩] :=
    ⟨⟨by decide, by decide, by decide⟩, by decide⟩
  exact ⟨⟨command, (read_of_renames "command" _ _).1 command⟩,
    ⟨renames_mixedArguments, (read_of_renames "option" _ _).2.1 renames_mixedArguments⟩,
    ⟨constraint, (read_of_renames "file" _ _).2.2 .file constraint⟩⟩

end Annotation

end OptionCompiler
