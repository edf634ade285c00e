import Mathlib
import OptionCompiler.Proofs.Pipeline.Stages
/-!
# Histories of a pipeline

A pipeline lives through a history of runs and clears, the runs live or cancelled. Every step
keeps the pipeline faithful, so every run of a history serves the uncached results of its set: no
result of another set, of another configuration or of an interrupted run is ever served.

The one assumption is that no two of the messages hashed in the history have one digest.
-/

namespace OptionCompiler

namespace Pipeline

/-- One step of a history. -/
inductive Action where
  | run (set : DeclarationSet) (token : Token)
  | clear
deriving Repr

section Actions

/-- Whether every number in the input of a step is finite. -/
def Action.isFinite : Action → Bool
  | .run set _ => set.isFinite
  | .clear => true

/-- The pipeline after one step. -/
def perform (pipeline : Pipeline) : Action → Pipeline
  | .run set token => (pipeline.run set token).2
  | .clear => pipeline.clear

/-- The pipeline after a history. -/
def performAll (pipeline : Pipeline) (history : List Action) : Pipeline :=
  history.foldl perform pipeline

/-- The messages that are hashed in one step. -/
def actionMessages (pipeline : Pipeline) : Action → List (List UInt8)
  | .run set token => runMessages pipeline set token
  | .clear => []

/-- The messages that are hashed in a history. -/
def historyMessages (pipeline : Pipeline) : List Action → List (List UInt8)
  | [] => []
  | action :: history =>
      actionMessages pipeline action ++ historyMessages (pipeline.perform action) history

theorem historyMessages_append (pipeline : Pipeline) (earlier later : List Action) :
    historyMessages pipeline (earlier ++ later) =
      historyMessages pipeline earlier ++ historyMessages (pipeline.performAll earlier) later := by
  induction earlier generalizing pipeline with
  | nil => rfl
  | cons action earlier ih =>
      rw [List.cons_append, historyMessages, historyMessages, ih, List.append_assoc]
      rfl

theorem historyMessages_subset_append (pipeline : Pipeline) (earlier later : List Action) :
    historyMessages pipeline earlier ⊆ historyMessages pipeline (earlier ++ later) := by
  rw [historyMessages_append]
  exact List.subset_append_left _ _

end Actions

section Invariant

variable {messages : List (List UInt8)} {configuration : Configuration} {pipeline : Pipeline}

/-- A step keeps a pipeline faithful. -/
theorem Faithful.perform (free : Sha256.CollisionFree messages)
    (faithful : Faithful messages configuration pipeline) {action : Action}
    (finite : action.isFinite = true) (hashed : actionMessages pipeline action ⊆ messages) :
    Faithful messages configuration (pipeline.perform action) := by
  cases action with
  | run set token => exact (run_spec free faithful finite token hashed).2
  | clear => exact faithful.clear

/-- A history keeps a pipeline faithful. -/
theorem Faithful.performAll (free : Sha256.CollisionFree messages)
    (faithful : Faithful messages configuration pipeline) {history : List Action}
    (finite : ∀ action ∈ history, action.isFinite = true)
    (hashed : historyMessages pipeline history ⊆ messages) :
    Faithful messages configuration (pipeline.performAll history) := by
  induction history generalizing pipeline with
  | nil => exact faithful
  | cons action history ih =>
      rw [historyMessages, List.append_subset] at hashed
      apply ih (faithful.perform free (finite action (by simp)) hashed.1)
      · intro later member
        exact finite later (by simp [member])
      · exact hashed.2

end Invariant

section FreshRun

variable {messages : List (List UInt8)} {configuration : Configuration} {pipeline : Pipeline}
  {set : DeclarationSet}

/-- What a live run on a faithful pipeline hashes. -/
theorem runMessages_live (free : Sha256.CollisionFree messages)
    (faithful : Faithful messages configuration pipeline) (finite : set.isFinite = true)
    (setHashed : Fingerprint.message set.toJson ∈ messages)
    (partsHashed :
      keyMessages (validationParts set (.ofSet set) configuration.severity) ⊆ messages) :
    runMessages pipeline set .live =
      Fingerprint.message set.toJson ::
        (keyMessages (validationParts set (.ofSet set) configuration.severity) ++
          emissionMessages pipeline (.ofSet set) (uncachedValidation configuration set)
            .live) := by
  rcases runExtraction_spec free faithful finite setHashed .live with ⟨served, keeps⟩
  have emission : (pipeline.runExtraction set .live).2.emission = pipeline.emission := rfl
  have fragments : (pipeline.runExtraction set .live).2.fragments = pipeline.fragments := rfl
  rw [runMessages]
  generalize pipeline.runExtraction set .live = outcome at served keeps emission fragments ⊢
  rcases outcome with ⟨result, after⟩
  rcases served.fetched_of_live with ⟨extracted, rfl⟩
  dsimp only at keeps emission fragments
  rcases runValidation_spec free keeps finite partsHashed .live with ⟨served, keeps'⟩
  have emission' : (after.runValidation set (.ofSet set) .live).2.emission =
      pipeline.emission := emission
  have fragments' : (after.runValidation set (.ofSet set) .live).2.fragments =
      pipeline.fragments := fragments
  simp only [keeps.configuration_eq]
  generalize after.runValidation set (.ofSet set) .live = outcome
    at served keeps' emission' fragments' ⊢
  rcases outcome with ⟨result, last⟩
  rcases served.fetched_of_live with ⟨validated, rfl⟩
  dsimp only at keeps' emission' fragments'
  simp only [emissionMessages, emission', fragments', keeps'.configuration_eq,
    faithful.configuration_eq]
  rfl

/-- What a live run on a faithful pipeline hashes before its emission does not depend on what is
in the caches. -/
theorem partsHashed_of_run (free : Sha256.CollisionFree messages)
    (faithful : Faithful messages configuration pipeline) (finite : set.isFinite = true)
    (hashed : runMessages pipeline set .live ⊆ messages) :
    Fingerprint.message set.toJson ∈ messages ∧
      keyMessages (validationParts set (.ofSet set) configuration.severity) ⊆ messages := by
  rw [runMessages, List.cons_subset] at hashed
  rcases hashed with ⟨setHashed, hashed⟩
  refine ⟨setHashed, ?_⟩
  rcases runExtraction_spec free faithful finite setHashed .live with ⟨served, keeps⟩
  generalize pipeline.runExtraction set .live = outcome at served keeps hashed
  rcases outcome with ⟨result, after⟩
  rcases served.fetched_of_live with ⟨extracted, rfl⟩
  dsimp only at keeps
  simp only [List.append_subset, keeps.configuration_eq] at hashed
  exact hashed.1

theorem emissionMessages_fresh_subset (free : Sha256.CollisionFree messages)
    (faithful : Faithful messages configuration pipeline) {error : RunError}
    (fails : uncachedSource configuration set = .error error)
    (hashed : emissionMessages pipeline (.ofSet set) (uncachedValidation configuration set) .live ⊆
      messages) :
    emissionMessages (ofConfiguration configuration) (.ofSet set)
      (uncachedValidation configuration set) .live ⊆ messages := by
  simp only [emissionMessages, List.append_subset, faithful.configuration_eq] at hashed ⊢
  rcases hashed with ⟨keyHashed, fragmentsHashed⟩
  refine ⟨keyHashed, ?_⟩
  -- A source that cannot be rendered is not cached, so its fragments were hashed.
  cases found : pipeline.emission.get? (emissionKey (Extraction.ofSet set).commands
      (uncachedValidation configuration set).blockedMembers configuration.emit) with
  | some value =>
      have emits := (emissionEntry_iff free keyHashed value).mp (faithful.emission.get? found)
      rw [uncachedSource, emits] at fails
      cases fails
  | none =>
      rw [found] at fragmentsHashed
      exact renderMessages_subset free _ _ faithful.fragments StageCache.faithful_empty
        fragmentsHashed

/-- A live run that fails, fails as it does on a pipeline that was never used. -/
theorem run_fresh_of_error (free : Sha256.CollisionFree messages)
    (faithful : Faithful messages configuration pipeline) (finite : set.isFinite = true)
    (hashed : runMessages pipeline set .live ⊆ messages) {error : RunError}
    (fails : (pipeline.run set .live).1 = .error error) :
    ((ofConfiguration configuration).run set .live).1 = .error error := by
  have fresh := faithful_ofConfiguration messages configuration
  have uncached := (run_spec free faithful finite .live hashed).1.eq_of_live
  rw [fails] at uncached
  have sourceFails := error_of_map_error uncached.symm
  rcases partsHashed_of_run free faithful finite hashed with ⟨setHashed, partsHashed⟩
  rw [runMessages_live free faithful finite setHashed partsHashed, List.cons_subset,
    List.append_subset] at hashed
  have freshHashed : runMessages (ofConfiguration configuration) set .live ⊆ messages := by
    rw [runMessages_live free fresh finite setHashed partsHashed, List.cons_subset,
      List.append_subset]
    exact ⟨setHashed, partsHashed,
      emissionMessages_fresh_subset free faithful sourceFails hashed.2.2⟩
  have freshUncached := (run_spec free fresh finite .live freshHashed).1.eq_of_live
  rw [← uncached] at freshUncached
  exact error_of_map_error freshUncached

end FreshRun

section Transparency

theorem eq_of_uncachedResults {configuration : Configuration} {set : DeclarationSet}
    {output : RunOutput} (same : uncachedResults configuration set = .ok output.results) :
    output.extraction = .ofSet set ∧
      output.validation = uncachedValidation configuration set ∧
      uncachedSource configuration set = .ok output.source := by
  unfold uncachedResults at same
  cases emits : uncachedSource configuration set with
  | error error =>
      rw [emits] at same
      cases same
  | ok source =>
      rw [emits] at same
      have results := Except.ok.inj same
      simp only [RunOutput.results, Prod.mk.injEq] at results
      exact ⟨results.1.symm, results.2.1.symm, congrArg Except.ok results.2.2⟩

/-- Every run of a history answers as if there were no cache. -/
theorem run_transparent (configuration : Configuration) (history earlier later : List Action)
    (set : DeclarationSet) (token : Token) (place : history = earlier ++ .run set token :: later)
    (finite : ∀ action ∈ history, action.isFinite = true)
    (free : Sha256.CollisionFree (historyMessages (ofConfiguration configuration) history)) :
    let pipeline := (ofConfiguration configuration).performAll earlier
    (∀ output, (pipeline.run set token).1 = .ok output →
      extract set .live = .ok output.extraction ∧
        validate set output.extraction configuration.severity .live = .ok output.validation ∧
        emit output.extraction.commands output.validation.blockedMembers configuration.emit
          .live = .ok output.source) ∧
    (∀ error, token = .live → (pipeline.run set token).1 = .error error →
      ((ofConfiguration configuration).run set token).1 = .error error) ∧
    (token = .cancelled →
      (pipeline.run set token).1 = .error .cancelled ∨
        ∃ output, (pipeline.run set token).1 = .ok output) := by
  intro pipeline
  have hashed : historyMessages (ofConfiguration configuration) earlier ⊆
      historyMessages (ofConfiguration configuration) history := by
    rw [place, historyMessages_append]
    exact List.subset_append_left _ _
  have runHashed : runMessages pipeline set token ⊆
      historyMessages (ofConfiguration configuration) history := by
    rw [place, historyMessages_append, historyMessages]
    intro message member
    simp [actionMessages, pipeline, member]
  have earlierFinite : ∀ action ∈ earlier, action.isFinite = true :=
    fun action member => finite action (by simp [place, member])
  have faithful := (faithful_ofConfiguration _ configuration).performAll free earlierFinite hashed
  have setFinite : set.isFinite = true := finite (.run set token) (by simp [place])
  have served := (run_spec free faithful setFinite token runHashed).1
  refine ⟨?_, ?_, ?_⟩
  · intro output succeeds
    rw [succeeds] at served
    cases served with
    | success _ same =>
        rcases eq_of_uncachedResults same with ⟨extracted, validated, emits⟩
        rw [uncachedSource, ← validated, ← extracted] at emits
        refine ⟨?_, ?_, emits⟩
        · rw [Extraction.extract_live, extracted]
        · rw [validated, extracted]
          rfl
  · rintro error rfl fails
    exact run_fresh_of_error free faithful setFinite runHashed fails
  · rintro rfl
    cases outcome : (pipeline.run set .cancelled).1 with
    | ok output => exact .inr ⟨output, rfl⟩
    | error error =>
        rw [outcome] at served
        cases served with
        | failure _ live _ => cases live
        | cancelled _ => exact .inl rfl

/-- A type that is a command without options. -/
def plainSet : DeclarationSet :=
  ⟨[⟨"A", [⟨"command", []⟩], []⟩]⟩

/-- A cancelled run, a clear, and a live run on the same set. -/
def plainHistory : List Action :=
  [.run plainSet .cancelled, .clear, .run plainSet .live]

theorem historyMessages_plainHistory :
    historyMessages (ofConfiguration .standard) plainHistory ⊆
      runMessages (ofConfiguration .standard) plainSet .live := by
  have cancelled : runMessages (ofConfiguration .standard) plainSet .cancelled =
      (runMessages (ofConfiguration .standard) plainSet .live).take 5 := rfl
  have live : runMessages (((ofConfiguration .standard).perform (.run plainSet .cancelled)).perform
      .clear) plainSet .live = runMessages (ofConfiguration .standard) plainSet .live := rfl
  simp only [plainHistory, historyMessages, actionMessages, cancelled, live]
  simp [List.take_subset]

theorem collisionFree_plainSet :
    Sha256.CollisionFree (runMessages (ofConfiguration .standard) plainSet .live) :=
  Sha256.collisionFree_of_nodup (by decide +kernel)

theorem run_transparent_plainHistory :
    (∀ action ∈ plainHistory, action.isFinite = true) ∧
      Sha256.CollisionFree (historyMessages (ofConfiguration .standard) plainHistory) ∧
      ∃ output,
        (((ofConfiguration .standard).performAll (plainHistory.take 2)).run plainSet .live).1 =
            .ok output ∧
          extract plainSet .live = .ok output.extraction ∧
          validate plainSet output.extraction .empty .live = .ok output.validation ∧
          emit output.extraction.commands output.validation.blockedMembers .standard .live =
            .ok output.source := by
  have finite : ∀ action ∈ plainHistory, action.isFinite = true := by decide
  have free := collisionFree_plainSet.mono historyMessages_plainHistory
  have transparent := run_transparent .standard plainHistory (plainHistory.take 2) [] plainSet
    .live rfl finite free
  have succeeds : (((ofConfiguration .standard).performAll (plainHistory.take 2)).run plainSet
      .live).1.isOk = true := rfl
  rcases exists_ok_of_isOk succeeds with ⟨output, completes⟩
  exact ⟨finite, free, output, completes, transparent.1 output completes⟩

end Transparency

end Pipeline

end OptionCompiler
