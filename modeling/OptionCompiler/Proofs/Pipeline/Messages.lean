import Mathlib
import OptionCompiler.Pipeline
import OptionCompiler.Proofs.Encoding.Declaration
import OptionCompiler.Proofs.Fingerprint
/-!
# What a run hashes

A key is made from one value or from several. `runMessages` lists the messages that a run hashes
for its keys, in order: those of the extraction, of the validation and of the emission, and, when
the source is not cached, those of the fragments up to the first that fails.

As long as no two messages of a list have one digest, keys whose messages are in the list are
equal only when they are made from equal values.
-/

namespace OptionCompiler

namespace Pipeline

section Keys

/-- The messages that are hashed for a key that is made from several values. -/
def keyMessages (values : List Json) : List (List UInt8) :=
  values.map Fingerprint.message ++ [Fingerprint.combinedBytes (values.map Fingerprint.of)]

/-- What the key of a validation is made from. -/
def validationParts (set : DeclarationSet) (extraction : Extraction)
    (severities : SeverityTable) : List Json :=
  [set.toJson, extraction.toJson, severities.toJson]

/-- What the key of a source is made from. -/
def emissionParts (commands : List CommandDescriptor) (blocked : BlockedMembers)
    (options : EmitOptions) : List Json :=
  [.array (commands.map CommandDescriptor.toJson), blocked.toJson, options.toJson]

/-- What the key of a fragment is made from. -/
def fragmentParts (command : CommandDescriptor) (blocked : BlockedMembers)
    (options : EmitOptions) : List Json :=
  [command.toJson, blocked.toJson, options.toJson]

theorem validationKey_eq (set : DeclarationSet) (extraction : Extraction)
    (severities : SeverityTable) :
    validationKey set extraction severities =
      .combine ((validationParts set extraction severities).map .of) :=
  rfl

theorem emissionKey_eq (commands : List CommandDescriptor) (blocked : BlockedMembers)
    (options : EmitOptions) :
    emissionKey commands blocked options =
      .combine ((emissionParts commands blocked options).map .of) :=
  rfl

theorem fragmentKey_eq (command : CommandDescriptor) (blocked : BlockedMembers)
    (options : EmitOptions) :
    fragmentKey command blocked options =
      .combine ((fragmentParts command blocked options).map .of) :=
  rfl

end Keys

section Messages

/-- The messages that are hashed while the fragments of a list of commands are rendered. -/
def renderMessages (blocked : BlockedMembers) (options : EmitOptions) :
    List CommandDescriptor → Token → StageCache String → List (List UInt8)
  | [], _, _ => []
  | _ :: _, .cancelled, _ => []
  | command :: commands, .live, cache =>
      keyMessages (fragmentParts command (blocked.ofType command.typeName) options) ++
        match fragment blocked options .live command cache with
        | (.error _, _) => []
        | (.ok _, cache) => renderMessages blocked options commands .live cache

/-- The messages that are hashed in the emission stage of a run. -/
def emissionMessages (pipeline : Pipeline) (extraction : Extraction) (validation : Validation)
    (token : Token) : List (List UInt8) :=
  let options := pipeline.configuration.emit
  let blocked := validation.blockedMembers
  keyMessages (emissionParts extraction.commands blocked options) ++
    match pipeline.emission.get? (emissionKey extraction.commands blocked options) with
    | some _ => []
    | none => renderMessages blocked options extraction.commands token pipeline.fragments

/-- The messages that are hashed in a run. -/
def runMessages (pipeline : Pipeline) (set : DeclarationSet) (token : Token) :
    List (List UInt8) :=
  Fingerprint.message set.toJson ::
    match pipeline.runExtraction set token with
    | (.error _, _) => []
    | (.ok (extraction, _), pipeline) =>
        keyMessages (validationParts set extraction pipeline.configuration.severity) ++
          match pipeline.runValidation set extraction token with
          | (.error _, _) => []
          | (.ok (validation, _), pipeline) =>
              emissionMessages pipeline extraction validation token

end Messages

section Separation

variable {messages : List (List UInt8)} (free : Sha256.CollisionFree messages)

include free

theorem values_eq_of_map_of {values others : List Json}
    (settled : ∀ value ∈ values, value.IsSettled) (settled' : ∀ value ∈ others, value.IsSettled)
    (subset : values.map Fingerprint.message ⊆ messages)
    (subset' : others.map Fingerprint.message ⊆ messages)
    (equal : values.map Fingerprint.of = others.map Fingerprint.of) : values = others := by
  induction values generalizing others with
  | nil =>
      cases others with
      | nil => rfl
      | cons other others => cases equal
  | cons value values ih =>
      cases others with
      | nil => cases equal
      | cons other others =>
          simp only [List.map_cons, List.cons.injEq, List.cons_subset] at equal subset subset'
          have heads := Fingerprint.settled_eq_of_of_eq free subset.1 subset'.1 equal.1
          rw [settled value (by simp), settled' other (by simp)] at heads
          have tails := ih (fun value member => settled value (by simp [member]))
            (fun value member => settled' value (by simp [member])) subset.2 subset'.2 equal.2
          rw [heads, tails]

/-- A key that is made from several values tells which. -/
theorem values_eq_of_combine {values others : List Json}
    (settled : ∀ value ∈ values, value.IsSettled) (settled' : ∀ value ∈ others, value.IsSettled)
    (subset : keyMessages values ⊆ messages) (subset' : keyMessages others ⊆ messages)
    (equal : Fingerprint.combine (values.map Fingerprint.of) =
      Fingerprint.combine (others.map Fingerprint.of)) : values = others := by
  simp only [keyMessages, List.append_subset, List.cons_subset, List.nil_subset, and_true]
    at subset subset'
  have parts := Fingerprint.parts_eq_of_combine_eq free
    (by simp [Fingerprint.zeroFree_of]) (by simp [Fingerprint.zeroFree_of]) subset.2 subset'.2
    equal
  exact values_eq_of_map_of free settled settled' subset.1 subset'.1 parts

theorem set_eq_of_extractionKey {set other : DeclarationSet} (finite : set.isFinite = true)
    (finite' : other.isFinite = true) (member : Fingerprint.message set.toJson ∈ messages)
    (member' : Fingerprint.message other.toJson ∈ messages)
    (equal : extractionKey set = extractionKey other) : set = other := by
  have documents := Fingerprint.settled_eq_of_of_eq free member member' equal
  rw [set.isSettled_toJson, other.isSettled_toJson] at documents
  exact DeclarationSet.eq_of_toJson finite finite' documents

theorem eq_of_validationKey {set other : DeclarationSet} {extraction extraction' : Extraction}
    {severities severities' : SeverityTable} (finite : set.isFinite = true)
    (finite' : other.isFinite = true)
    (subset : keyMessages (validationParts set extraction severities) ⊆ messages)
    (subset' : keyMessages (validationParts other extraction' severities') ⊆ messages)
    (equal : validationKey set extraction severities =
      validationKey other extraction' severities') :
    set = other ∧ extraction = extraction' ∧ severities = severities' := by
  rw [validationKey_eq, validationKey_eq] at equal
  have parts := values_eq_of_combine free (by simp [validationParts]) (by simp [validationParts])
    subset subset' equal
  simp only [validationParts, List.cons.injEq, and_true] at parts
  exact ⟨DeclarationSet.eq_of_toJson finite finite' parts.1,
    Extraction.toJson_injective parts.2.1, SeverityTable.toJson_injective parts.2.2⟩

theorem eq_of_emissionKey {commands commands' : List CommandDescriptor}
    {blocked blocked' : BlockedMembers} {options options' : EmitOptions}
    (subset : keyMessages (emissionParts commands blocked options) ⊆ messages)
    (subset' : keyMessages (emissionParts commands' blocked' options') ⊆ messages)
    (equal : emissionKey commands blocked options = emissionKey commands' blocked' options') :
    commands = commands' ∧ blocked = blocked' ∧ options = options' := by
  rw [emissionKey_eq, emissionKey_eq] at equal
  have parts := values_eq_of_combine free (by simp [emissionParts]) (by simp [emissionParts])
    subset subset' equal
  simp only [emissionParts, List.cons.injEq, and_true] at parts
  exact ⟨CommandDescriptor.listToJson_injective parts.1,
    BlockedMembers.toJson_injective parts.2.1, EmitOptions.toJson_injective parts.2.2⟩

theorem eq_of_fragmentKey {command command' : CommandDescriptor}
    {blocked blocked' : BlockedMembers} {options options' : EmitOptions}
    (subset : keyMessages (fragmentParts command blocked options) ⊆ messages)
    (subset' : keyMessages (fragmentParts command' blocked' options') ⊆ messages)
    (equal : fragmentKey command blocked options = fragmentKey command' blocked' options') :
    command = command' ∧ blocked = blocked' ∧ options = options' := by
  rw [fragmentKey_eq, fragmentKey_eq] at equal
  have parts := values_eq_of_combine free (by simp [fragmentParts]) (by simp [fragmentParts])
    subset subset' equal
  simp only [fragmentParts, List.cons.injEq, and_true] at parts
  exact ⟨CommandDescriptor.toJson_injective parts.1,
    BlockedMembers.toJson_injective parts.2.1, EmitOptions.toJson_injective parts.2.2⟩

end Separation

end Pipeline

end OptionCompiler
