import Mathlib
import OptionCompiler.Proofs.Emission.Fragments
import OptionCompiler.Proofs.Pipeline.Messages
import OptionCompiler.Proofs.StageCache
/-!
# The stages of a run

`Pipeline.Faithful` says that each entry of each cache is the uncached, uninterrupted result for
some input whose key it stands under. Which input that is can be told from the key as long as no
two of the hashed messages have one digest. So every stage of a run on a faithful pipeline serves
the uncached result, and leaves the pipeline faithful whether it succeeds or fails: a run that
fails leaves behind the results of the stages and fragments that it finished.
-/

namespace OptionCompiler

/-- The results of a run, without the report on how they were obtained. -/
def RunOutput.results (output : RunOutput) : Extraction × Validation × String :=
  (output.extraction, output.validation, output.source)

namespace Pipeline

section Uncached

/-- The validation of a set without any cache. -/
def uncachedValidation (configuration : Configuration) (set : DeclarationSet) : Validation :=
  .ofExtraction set (.ofSet set) configuration.severity

/-- The source of a set without any cache, or the error in its place. -/
def uncachedSource (configuration : Configuration) (set : DeclarationSet) :
    Except RunError String :=
  emit (Extraction.ofSet set).commands (uncachedValidation configuration set).blockedMembers
    configuration.emit .live

/-- Everything that a run on a set gives without any cache, or the error in its place. -/
def uncachedResults (configuration : Configuration) (set : DeclarationSet) :
    Except RunError (Extraction × Validation × String) :=
  (uncachedSource configuration set).map fun source =>
    (.ofSet set, uncachedValidation configuration set, source)

end Uncached

section Entries

variable (messages : List (List UInt8))

/-- An entry of the extraction cache: the extraction of a set under the key of the set. -/
def ExtractionEntry (key : Fingerprint) (value : Extraction) : Prop :=
  ∃ set : DeclarationSet, set.isFinite = true ∧ Fingerprint.message set.toJson ∈ messages ∧
    key = extractionKey set ∧ value = .ofSet set

def ValidationEntry (severities : SeverityTable) (key : Fingerprint) (value : Validation) : Prop :=
  ∃ (set : DeclarationSet) (extraction : Extraction), set.isFinite = true ∧
    keyMessages (validationParts set extraction severities) ⊆ messages ∧
    key = validationKey set extraction severities ∧
    value = .ofExtraction set extraction severities

def EmissionEntry (options : EmitOptions) (key : Fingerprint) (value : String) : Prop :=
  ∃ (commands : List CommandDescriptor) (blocked : BlockedMembers),
    keyMessages (emissionParts commands blocked options) ⊆ messages ∧
    key = emissionKey commands blocked options ∧ emit commands blocked options .live = .ok value

def FragmentEntry (options : EmitOptions) (key : Fingerprint) (value : String) : Prop :=
  ∃ (command : CommandDescriptor) (blocked : BlockedMembers),
    keyMessages (fragmentParts command blocked options) ⊆ messages ∧
    key = fragmentKey command blocked options ∧
    Emission.renderCommand command blocked options = .ok value

/-- Every entry of every cache is what the uncached stage gives for the input of its key. -/
structure Faithful (configuration : Configuration) (pipeline : Pipeline) : Prop where
  configuration_eq : pipeline.configuration = configuration
  extraction : pipeline.extraction.Faithful (ExtractionEntry messages)
  validation : pipeline.validation.Faithful (ValidationEntry messages configuration.severity)
  emission : pipeline.emission.Faithful (EmissionEntry messages configuration.emit)
  fragments : pipeline.fragments.Faithful (FragmentEntry messages configuration.emit)

theorem faithful_ofConfiguration (configuration : Configuration) :
    Faithful messages configuration (ofConfiguration configuration) :=
  ⟨rfl, StageCache.faithful_empty, StageCache.faithful_empty, StageCache.faithful_empty,
    StageCache.faithful_empty⟩

theorem Faithful.clear {messages : List (List UInt8)} {configuration : Configuration}
    {pipeline : Pipeline} (faithful : Faithful messages configuration pipeline) :
    Faithful messages configuration pipeline.clear :=
  ⟨faithful.configuration_eq, faithful.extraction.clear, faithful.validation.clear,
    faithful.emission.clear, faithful.fragments.clear⟩

end Entries

section Resolution

variable {messages : List (List UInt8)} (free : Sha256.CollisionFree messages)

include free

theorem extractionEntry_iff {set : DeclarationSet} (finite : set.isFinite = true)
    (hashed : Fingerprint.message set.toJson ∈ messages) (value : Extraction) :
    ExtractionEntry messages (extractionKey set) value ↔
      (.ok (.ofSet set) : Except RunError Extraction) = .ok value := by
  constructor
  · rintro ⟨other, finite', hashed', keys, rfl⟩
    rw [set_eq_of_extractionKey free finite finite' hashed hashed' keys]
  · intro same
    cases same
    exact ⟨set, finite, hashed, rfl, rfl⟩

theorem validationEntry_iff {set : DeclarationSet} {extraction : Extraction}
    {severities : SeverityTable} (finite : set.isFinite = true)
    (hashed : keyMessages (validationParts set extraction severities) ⊆ messages)
    (value : Validation) :
    ValidationEntry messages severities (validationKey set extraction severities) value ↔
      (.ok (.ofExtraction set extraction severities) : Except RunError Validation) =
        .ok value := by
  constructor
  · rintro ⟨other, extraction', finite', hashed', keys, rfl⟩
    rcases eq_of_validationKey free finite finite' hashed hashed' keys with ⟨rfl, rfl, _⟩
    rfl
  · intro same
    cases same
    exact ⟨set, extraction, finite, hashed, rfl, rfl⟩

theorem emissionEntry_iff {commands : List CommandDescriptor} {blocked : BlockedMembers}
    {options : EmitOptions}
    (hashed : keyMessages (emissionParts commands blocked options) ⊆ messages) (value : String) :
    EmissionEntry messages options (emissionKey commands blocked options) value ↔
      emit commands blocked options .live = .ok value := by
  constructor
  · rintro ⟨commands', blocked', hashed', keys, emits⟩
    rcases eq_of_emissionKey free hashed hashed' keys with ⟨rfl, rfl, _⟩
    exact emits
  · intro emits
    exact ⟨commands, blocked, hashed, rfl, emits⟩

theorem fragmentEntry_iff {command : CommandDescriptor} {blocked : BlockedMembers}
    {options : EmitOptions}
    (hashed : keyMessages (fragmentParts command blocked options) ⊆ messages) (value : String) :
    FragmentEntry messages options (fragmentKey command blocked options) value ↔
      Emission.renderCommand command blocked options = .ok value := by
  constructor
  · rintro ⟨command', blocked', hashed', keys, renders⟩
    rcases eq_of_fragmentKey free hashed hashed' keys with ⟨rfl, rfl, _⟩
    exact renders
  · intro renders
    exact ⟨command, blocked, hashed, rfl, renders⟩

end Resolution

section Fragments

variable {messages : List (List UInt8)} (free : Sha256.CollisionFree messages)
  {options : EmitOptions} (blocked : BlockedMembers)

include free

/-- From a faithful cache, a fragment is what rendering gives. -/
theorem fragment_spec {cache : StageCache String}
    (faithful : cache.Faithful (FragmentEntry messages options)) (command : CommandDescriptor)
    (hashed :
      keyMessages (fragmentParts command (blocked.ofType command.typeName) options) ⊆ messages) :
    (fragment blocked options .live command cache).1 =
        Emission.renderCommand command (blocked.ofType command.typeName) options ∧
      (fragment blocked options .live command cache).2.Faithful
        (FragmentEntry messages options) := by
  have served := Served.of_fetched (StageCache.fetched_fetch cache
    (fragmentKey command (blocked.ofType command.typeName) options)
    fun _ => Emission.renderCommand command (blocked.ofType command.typeName) options)
    faithful (fragmentEntry_iff free hashed) fun _ => .of_live _
  simp only [fragment, Token.check]
  generalize cache.fetch _ _ = outcome at served ⊢
  rcases outcome with ⟨error | ⟨text, status⟩, after⟩
  · exact ⟨served.1.eq_of_live, served.2⟩
  · exact ⟨served.1.eq_of_live, served.2⟩

omit free in
theorem renderMessages_cons_subset {command : CommandDescriptor}
    {commands : List CommandDescriptor} {cache : StageCache String}
    (hashed : renderMessages blocked options (command :: commands) .live cache ⊆ messages) :
    keyMessages (fragmentParts command (blocked.ofType command.typeName) options) ⊆ messages ∧
      ∀ text after, fragment blocked options .live command cache = (.ok text, after) →
        renderMessages blocked options commands .live after ⊆ messages := by
  rw [renderMessages, List.append_subset] at hashed
  refine ⟨hashed.1, ?_⟩
  intro text after rendered
  simpa [rendered] using hashed.2

/-- From a faithful cache, the fragments are what rendering each command gives. -/
theorem renderAll_spec (commands : List CommandDescriptor) {cache : StageCache String}
    (faithful : cache.Faithful (FragmentEntry messages options))
    (hashed : renderMessages blocked options commands .live cache ⊆ messages) :
    (renderAll blocked options .live commands cache).1 =
        Emission.renderEach commands blocked options ∧
      (renderAll blocked options .live commands cache).2.Faithful
        (FragmentEntry messages options) := by
  induction commands generalizing cache with
  | nil => exact ⟨rfl, faithful⟩
  | cons command commands ih =>
      rcases renderMessages_cons_subset blocked hashed with ⟨own, later⟩
      rcases fragment_spec free blocked faithful command own with ⟨rendered, keeps⟩
      rw [Emission.renderEach, List.mapM_cons, ← rendered]
      simp only [renderAll]
      generalize outcome : fragment blocked options .live command cache = pair
        at rendered keeps later ⊢
      rcases pair with ⟨error | text, after⟩
      · exact ⟨rfl, keeps⟩
      · rcases ih keeps (later text after rfl) with ⟨rest, restKeeps⟩
        rw [Emission.renderEach] at rest
        rw [← rest]
        dsimp only
        generalize renderAll blocked options .live commands after = last at restKeeps ⊢
        rcases last with ⟨error | texts, final⟩
        · exact ⟨rfl, restKeeps⟩
        · exact ⟨rfl, restKeeps⟩

/-- Which fragments are hashed does not depend on what a faithful cache holds. -/
theorem renderMessages_subset (commands : List CommandDescriptor)
    {cache other : StageCache String}
    (faithful : cache.Faithful (FragmentEntry messages options))
    (faithful' : other.Faithful (FragmentEntry messages options))
    (hashed : renderMessages blocked options commands .live cache ⊆ messages) :
    renderMessages blocked options commands .live other ⊆ messages := by
  induction commands generalizing cache other with
  | nil => exact List.nil_subset _
  | cons command commands ih =>
      rcases renderMessages_cons_subset blocked hashed with ⟨own, later⟩
      rcases fragment_spec free blocked faithful command own with ⟨rendered, keeps⟩
      rcases fragment_spec free blocked faithful' command own with ⟨rendered', keeps'⟩
      rw [renderMessages, List.append_subset]
      refine ⟨own, ?_⟩
      rw [← rendered] at rendered'
      generalize outcome : fragment blocked options .live command cache = pair
        at rendered rendered' keeps later
      generalize fragment blocked options .live command other = pair' at rendered' keeps' ⊢
      rcases pair with ⟨result, after⟩
      rcases pair' with ⟨result', after'⟩
      cases result' with
      | error error => exact List.nil_subset _
      | ok text =>
          have same : result = .ok text := rendered'.symm
          subst same
          exact ih keeps keeps' (later text after rfl)

omit free in
/-- A cancelled rendering fails before its first command. -/
theorem renderAll_cancelled (commands : List CommandDescriptor) (cache : StageCache String) :
    renderAll blocked options .cancelled commands cache =
      (if commands.isEmpty then .ok [] else .error .cancelled, cache) := by
  cases commands <;> rfl

end Fragments

section Stages

variable {messages : List (List UInt8)} {configuration : Configuration} {pipeline : Pipeline}

theorem served_extract (set : DeclarationSet) (token : Token) :
    Served token (.ok (.ofSet set)) (extract set token) := by
  cases outcome : extract set token with
  | ok extraction => exact .success _ (by rw [Extraction.eq_ofSet_of_extract outcome])
  | error error =>
      rcases Extraction.cancelled_of_extract outcome with ⟨rfl, asked⟩
      exact .cancelled asked

theorem served_validate (set : DeclarationSet) (extraction : Extraction)
    (severities : SeverityTable) (token : Token) :
    Served token (.ok (.ofExtraction set extraction severities))
      (validate set extraction severities token) := by
  cases token with
  | live => exact .success _ rfl
  | cancelled => exact .cancelled rfl

theorem runExtraction_spec (free : Sha256.CollisionFree messages)
    (faithful : Faithful messages configuration pipeline) {set : DeclarationSet}
    (finite : set.isFinite = true) (hashed : Fingerprint.message set.toJson ∈ messages)
    (token : Token) :
    Served token (.ok (.ofSet set)) ((pipeline.runExtraction set token).1.map Prod.fst) ∧
      Faithful messages configuration (pipeline.runExtraction set token).2 := by
  have served := Served.of_fetched
    (StageCache.fetched_fetch pipeline.extraction (extractionKey set) fun _ => extract set token)
    faithful.extraction (extractionEntry_iff free finite hashed)
    fun _ => served_extract set token
  exact ⟨served.1, { faithful with extraction := served.2 }⟩

theorem runValidation_spec (free : Sha256.CollisionFree messages)
    (faithful : Faithful messages configuration pipeline) {set : DeclarationSet}
    {extraction : Extraction} (finite : set.isFinite = true)
    (hashed : keyMessages (validationParts set extraction configuration.severity) ⊆ messages)
    (token : Token) :
    Served token (.ok (.ofExtraction set extraction configuration.severity))
        ((pipeline.runValidation set extraction token).1.map Prod.fst) ∧
      Faithful messages configuration (pipeline.runValidation set extraction token).2 := by
  have severities : pipeline.configuration.severity = configuration.severity := by
    rw [faithful.configuration_eq]
  have served := Served.of_fetched
    (StageCache.fetched_fetch pipeline.validation
      (validationKey set extraction configuration.severity)
      fun _ => validate set extraction configuration.severity token)
    faithful.validation (validationEntry_iff free finite hashed)
    fun _ => served_validate set extraction configuration.severity token
  simp only [runValidation, severities]
  exact ⟨served.1, { faithful with validation := served.2 }⟩

theorem emitAll_spec (free : Sha256.CollisionFree messages) {options : EmitOptions}
    {commands : List CommandDescriptor} (isLocal : ∀ command ∈ commands, command.IsLocal)
    (blocked : BlockedMembers) (token : Token) {cache : StageCache String}
    (faithful : cache.Faithful (FragmentEntry messages options))
    (hashed : renderMessages blocked options commands token cache ⊆ messages) :
    Served token (emit commands blocked options .live)
        (emitAll commands blocked options token cache).1 ∧
      (emitAll commands blocked options token cache).2.Faithful
        (FragmentEntry messages options) := by
  rw [Emission.emit_live blocked options isLocal]
  cases token with
  | live =>
      rcases renderAll_spec free blocked commands faithful hashed with ⟨rendered, keeps⟩
      rw [← rendered]
      simp only [emitAll]
      generalize renderAll blocked options .live commands cache = outcome at keeps ⊢
      rcases outcome with ⟨error | texts, after⟩
      · exact ⟨.failure error rfl rfl, keeps⟩
      · exact ⟨.success _ rfl, keeps⟩
  | cancelled =>
      simp only [emitAll, renderAll_cancelled]
      cases commands with
      | nil => exact ⟨.success _ rfl, faithful⟩
      | cons command commands => exact ⟨.cancelled rfl, faithful⟩

theorem runEmission_spec (free : Sha256.CollisionFree messages)
    (faithful : Faithful messages configuration pipeline) {extraction : Extraction}
    {validation : Validation} (isLocal : ∀ command ∈ extraction.commands, command.IsLocal)
    (token : Token)
    (hashed : emissionMessages pipeline extraction validation token ⊆ messages) :
    Served token
        (emit extraction.commands validation.blockedMembers configuration.emit .live)
        ((pipeline.runEmission extraction validation token).1.map Prod.fst) ∧
      Faithful messages configuration
        (pipeline.runEmission extraction validation token).2 := by
  have options : pipeline.configuration.emit = configuration.emit := by
    rw [faithful.configuration_eq]
  simp only [emissionMessages, List.append_subset, options] at hashed
  rcases hashed with ⟨keyHashed, fragmentsHashed⟩
  have computes (absent : pipeline.emission.get? (emissionKey extraction.commands
      validation.blockedMembers configuration.emit) = none) :=
    emitAll_spec free isLocal validation.blockedMembers token faithful.fragments
      (by simpa [absent] using fragmentsHashed)
  have served := Served.of_fetched
    (StageCache.fetched_fetchWith pipeline.emission
      (emissionKey extraction.commands validation.blockedMembers configuration.emit)
      (emitAll extraction.commands validation.blockedMembers configuration.emit token)
      pipeline.fragments)
    faithful.emission (emissionEntry_iff free keyHashed) fun absent => (computes absent).1
  have state := StageCache.fetchWith_state pipeline.emission
    (emissionKey extraction.commands validation.blockedMembers configuration.emit)
    (emitAll extraction.commands validation.blockedMembers configuration.emit token)
    pipeline.fragments
  simp only [runEmission, options]
  refine ⟨served.1, { faithful with emission := served.2, fragments := ?_ }⟩
  rw [state]
  split
  · exact faithful.fragments
  · next absent =>
      exact (computes (by simpa using absent)).2

end Stages

section Runs

variable {messages : List (List UInt8)} {configuration : Configuration} {pipeline : Pipeline}

/-- A run on a faithful pipeline serves the uncached results and leaves the pipeline faithful. -/
theorem run_spec (free : Sha256.CollisionFree messages)
    (faithful : Faithful messages configuration pipeline) {set : DeclarationSet}
    (finite : set.isFinite = true) (token : Token)
    (hashed : runMessages pipeline set token ⊆ messages) :
    Served token (uncachedResults configuration set)
        ((pipeline.run set token).1.map RunOutput.results) ∧
      Faithful messages configuration (pipeline.run set token).2 := by
  rw [runMessages, List.cons_subset] at hashed
  rcases hashed with ⟨setHashed, laterHashed⟩
  rcases runExtraction_spec free faithful finite setHashed token with ⟨served, keeps⟩
  simp only [run]
  generalize pipeline.runExtraction set token = outcome at served keeps laterHashed ⊢
  rcases outcome with ⟨result, pipeline⟩
  -- A stage that is not cancelled hands the uncached result to the next one.
  rcases served.fetched_or_cancelled with ⟨extracted, rfl⟩ | ⟨asked, rfl⟩
  case inr => exact ⟨.cancelled asked, keeps⟩
  dsimp only at keeps
  simp only [List.append_subset, keeps.configuration_eq] at laterHashed
  rcases laterHashed with ⟨partsHashed, laterHashed⟩
  rcases runValidation_spec free keeps finite partsHashed token with ⟨served, keeps⟩
  dsimp only
  generalize pipeline.runValidation set (.ofSet set) token = outcome
    at served keeps laterHashed ⊢
  rcases outcome with ⟨result, pipeline⟩
  rcases served.fetched_or_cancelled with ⟨validated, rfl⟩ | ⟨asked, rfl⟩
  case inr => exact ⟨.cancelled asked, keeps⟩
  have isLocal : ∀ command ∈ (Extraction.ofSet set).commands, command.IsLocal :=
    fun command member => Extraction.isLocal_of_mem_ofSet member
  rcases runEmission_spec free keeps isLocal token laterHashed with ⟨served, keeps⟩
  dsimp only
  generalize pipeline.runEmission (.ofSet set) _ token = outcome at served keeps ⊢
  rcases outcome with ⟨error | ⟨source, emitted⟩, pipeline⟩
  · exact ⟨served.map _, keeps⟩
  · exact ⟨served.map _, keeps⟩

end Runs

end Pipeline

end OptionCompiler
