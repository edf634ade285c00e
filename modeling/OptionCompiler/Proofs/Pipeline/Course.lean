import Mathlib
import OptionCompiler.Pipeline
import OptionCompiler.Proofs.StageCache
/-!
# The course of a run

A run goes through its stages in order, up to the first that fails. A stage fetches its result
from its own cache and leaves the other caches alone; only emission also fills the cache of the
fragments, while it computes. So however a run ends, it keeps every entry of every cache.
-/

namespace OptionCompiler

namespace Pipeline

section Stages

/-- The stages that a run goes through, up to the first that fails. -/
inductive Course (pipeline : Pipeline) (set : DeclarationSet) (token : Token) :
    Except RunError RunOutput → Pipeline → Prop where
  | extractionFails {error : RunError} {after : Pipeline}
      (extracts : pipeline.runExtraction set token = (.error error, after)) :
      Course pipeline set token (.error error) after
  | validationFails {extraction : Extraction} {extracted : CacheStatus} {middle after : Pipeline}
      {error : RunError}
      (extracts : pipeline.runExtraction set token = (.ok (extraction, extracted), middle))
      (validates : middle.runValidation set extraction token = (.error error, after)) :
      Course pipeline set token (.error error) after
  | emissionFails {extraction : Extraction} {validation : Validation}
      {extracted validated : CacheStatus} {middle last after : Pipeline} {error : RunError}
      (extracts : pipeline.runExtraction set token = (.ok (extraction, extracted), middle))
      (validates : middle.runValidation set extraction token =
        (.ok (validation, validated), last))
      (emits : last.runEmission extraction validation token = (.error error, after)) :
      Course pipeline set token (.error error) after
  | completes {extraction : Extraction} {validation : Validation} {source : String}
      {extracted validated emitted : CacheStatus} {middle last after : Pipeline}
      (extracts : pipeline.runExtraction set token = (.ok (extraction, extracted), middle))
      (validates : middle.runValidation set extraction token =
        (.ok (validation, validated), last))
      (emits : last.runEmission extraction validation token = (.ok (source, emitted), after)) :
      Course pipeline set token
        (.ok ⟨extraction, validation, source, ⟨extracted, validated, emitted⟩⟩) after

variable {pipeline after : Pipeline} {set : DeclarationSet} {token : Token}

theorem course_of_run {result : Except RunError RunOutput}
    (runs : pipeline.run set token = (result, after)) : Course pipeline set token result after := by
  unfold run at runs
  rcases extracts : pipeline.runExtraction set token with
    ⟨error | ⟨extraction, extracted⟩, middle⟩
  · rw [extracts] at runs
    cases runs
    exact .extractionFails extracts
  · simp only [extracts] at runs
    rcases validates : middle.runValidation set extraction token with
      ⟨error | ⟨validation, validated⟩, last⟩
    · rw [validates] at runs
      cases runs
      exact .validationFails extracts validates
    · simp only [validates] at runs
      rcases emits : last.runEmission extraction validation token with
        ⟨error | ⟨source, emitted⟩, final⟩
      · rw [emits] at runs
        cases runs
        exact .emissionFails extracts validates emits
      · rw [emits] at runs
        cases runs
        exact .completes extracts validates emits

theorem course_run (pipeline : Pipeline) (set : DeclarationSet) (token : Token) :
    Course pipeline set token (pipeline.run set token).1 (pipeline.run set token).2 :=
  course_of_run rfl

theorem fetched_runExtraction {result : Except RunError (Extraction × CacheStatus)}
    (extracts : pipeline.runExtraction set token = (result, after)) :
    ∃ cache, pipeline.extraction.Fetched (extractionKey set) (extract set token) result cache ∧
      after = { pipeline with extraction := cache } := by
  have fetched := StageCache.fetched_fetch pipeline.extraction (extractionKey set)
    fun _ => extract set token
  unfold runExtraction at extracts
  generalize pipeline.extraction.fetch _ _ = outcome at fetched extracts
  cases extracts
  exact ⟨_, fetched, rfl⟩

theorem fetched_runValidation {extraction : Extraction}
    {result : Except RunError (Validation × CacheStatus)}
    (validates : pipeline.runValidation set extraction token = (result, after)) :
    ∃ cache,
      pipeline.validation.Fetched (validationKey set extraction pipeline.configuration.severity)
          (validate set extraction pipeline.configuration.severity token) result cache ∧
        after = { pipeline with validation := cache } := by
  have fetched := StageCache.fetched_fetch pipeline.validation
    (validationKey set extraction pipeline.configuration.severity)
    fun _ => validate set extraction pipeline.configuration.severity token
  simp only [runValidation] at validates
  generalize pipeline.validation.fetch _ _ = outcome at fetched validates
  cases validates
  exact ⟨_, fetched, rfl⟩

/-- The fragments are rendered only if the source is not in the cache. -/
theorem fetched_runEmission {extraction : Extraction} {validation : Validation}
    {result : Except RunError (String × CacheStatus)}
    (emits : pipeline.runEmission extraction validation token = (result, after)) :
    ∃ cache,
      pipeline.emission.Fetched
          (emissionKey extraction.commands validation.blockedMembers pipeline.configuration.emit)
          (emitAll extraction.commands validation.blockedMembers pipeline.configuration.emit token
            pipeline.fragments).1 result cache ∧
        after =
          { pipeline with
            emission := cache
            fragments :=
              if (pipeline.emission.get? (emissionKey extraction.commands
                  validation.blockedMembers pipeline.configuration.emit)).isSome then
                pipeline.fragments
              else
                (emitAll extraction.commands validation.blockedMembers
                  pipeline.configuration.emit token pipeline.fragments).2 } := by
  have fetched := StageCache.fetched_fetchWith pipeline.emission
    (emissionKey extraction.commands validation.blockedMembers pipeline.configuration.emit)
    (emitAll extraction.commands validation.blockedMembers pipeline.configuration.emit token)
    pipeline.fragments
  have state := StageCache.fetchWith_state pipeline.emission
    (emissionKey extraction.commands validation.blockedMembers pipeline.configuration.emit)
    (emitAll extraction.commands validation.blockedMembers pipeline.configuration.emit token)
    pipeline.fragments
  simp only [runEmission] at emits
  rw [← state]
  generalize pipeline.emission.fetchWith _ _ _ = outcome at fetched emits ⊢
  cases emits
  exact ⟨_, fetched, rfl⟩

end Stages

section Fragments

variable {blocked : BlockedMembers} {options : EmitOptions} {token : Token}
  {command : CommandDescriptor} {commands : List CommandDescriptor}
  {cache after : StageCache String} {error : RunError}

/-- A text is the fragment of one of some commands, and the key is the one of that command. -/
def IsFragment (blocked : BlockedMembers) (options : EmitOptions)
    (commands : List CommandDescriptor) (key : Fingerprint) (text : String) : Prop :=
  ∃ command ∈ commands,
    key = fragmentKey command (blocked.ofType command.typeName) options ∧
      Emission.renderCommand command (blocked.ofType command.typeName) options = .ok text

/-- A command gets no fragment: the run is interrupted before it, or it cannot be rendered. -/
def FailsOn (blocked : BlockedMembers) (options : EmitOptions) (token : Token)
    (command : CommandDescriptor) (error : RunError) : Prop :=
  token.check = .error error ∨
    Emission.renderCommand command (blocked.ofType command.typeName) options = .error error

theorem IsFragment.mono {others : List CommandDescriptor} (subset : commands ⊆ others)
    (key : Fingerprint) (text : String) (holds : IsFragment blocked options commands key text) :
    IsFragment blocked options others key text := by
  rcases holds with ⟨command, member, rest⟩
  exact ⟨command, subset member, rest⟩

/-- A fragment is not asked for under a cancelled token, and fetched otherwise. -/
theorem fetched_fragment {result : Except RunError String}
    (renders : fragment blocked options token command cache = (result, after)) :
    (∃ failure, token.check = .error failure ∧ result = .error failure ∧ after = cache) ∨
      ∃ outcome, cache.Fetched (fragmentKey command (blocked.ofType command.typeName) options)
        (Emission.renderCommand command (blocked.ofType command.typeName) options) outcome after ∧
        result = outcome.map Prod.fst := by
  unfold fragment at renders
  cases token with
  | cancelled =>
      cases renders
      exact .inl ⟨_, rfl, rfl, rfl⟩
  | live =>
      have fetched := StageCache.fetched_fetch cache
        (fragmentKey command (blocked.ofType command.typeName) options)
        fun _ => Emission.renderCommand command (blocked.ofType command.typeName) options
      simp only [Token.check] at renders
      generalize cache.fetch _ _ = outcome at fetched renders
      right
      rcases outcome with ⟨failure | ⟨text, status⟩, final⟩
      · cases renders
        exact ⟨_, fetched, rfl⟩
      · cases renders
        exact ⟨_, fetched, rfl⟩

theorem fetched_of_fragment {text : String}
    (renders : fragment blocked options token command cache = (.ok text, after)) :
    ∃ status, cache.Fetched (fragmentKey command (blocked.ofType command.typeName) options)
      (Emission.renderCommand command (blocked.ofType command.typeName) options)
      (.ok (text, status)) after := by
  rcases fetched_fragment renders with
    ⟨_, _, failed, _⟩ | ⟨failure | ⟨text, status⟩, fetched, passed⟩
  · cases failed
  · cases passed
  · cases passed
    exact ⟨status, fetched⟩

theorem fragment_grown {text : String}
    (renders : fragment blocked options token command cache = (.ok text, after)) :
    cache.Extends (IsFragment blocked options [command]) after := by
  rcases fetched_of_fragment renders with ⟨status, fetched⟩
  apply fetched.grown.mono
  rintro key value ⟨rfl, made⟩
  exact ⟨command, by simp, rfl, made⟩

theorem fragment_fails
    (renders : fragment blocked options token command cache = (.error error, after)) :
    after.entries = cache.entries ∧ FailsOn blocked options token command error := by
  rcases fetched_fragment renders with
    ⟨_, asked, failed, rfl⟩ | ⟨failure | ⟨text, status⟩, fetched, passed⟩
  · cases failed
    exact ⟨rfl, .inl asked⟩
  · cases passed
    rcases fetched.eq_of_error with ⟨_, fails, rfl⟩
    exact ⟨rfl, .inr fails⟩
  · cases passed

theorem renderAll_cons_eq_ok {texts : List String}
    (renders : renderAll blocked options token (command :: commands) cache = (.ok texts, after)) :
    ∃ text middle others, fragment blocked options token command cache = (.ok text, middle) ∧
      renderAll blocked options token commands middle = (.ok others, after) := by
  simp only [renderAll] at renders
  rcases first : fragment blocked options token command cache with ⟨failure | text, middle⟩
  · simp [first] at renders
  · simp only [first] at renders
    rcases rest : renderAll blocked options token commands middle with ⟨failure | others, last⟩
    · simp [rest] at renders
    · simp only [rest] at renders
      cases renders
      exact ⟨text, middle, others, rfl, rest⟩

theorem renderAll_cons_snd {text : String}
    (renders : fragment blocked options token command cache = (.ok text, after))
    (commands : List CommandDescriptor) :
    (renderAll blocked options token (command :: commands) cache).2 =
      (renderAll blocked options token commands after).2 := by
  simp only [renderAll, renders]
  rcases renderAll blocked options token commands after with ⟨failure | texts, last⟩ <;> rfl

theorem renderAll_cons_eq_error
    (renders : renderAll blocked options token (command :: commands) cache =
      (.error error, after)) :
    fragment blocked options token command cache = (.error error, after) ∨
      ∃ text middle, fragment blocked options token command cache = (.ok text, middle) ∧
        renderAll blocked options token commands middle = (.error error, after) := by
  simp only [renderAll] at renders
  rcases first : fragment blocked options token command cache with ⟨failure | text, middle⟩
  · simp only [first] at renders
    cases renders
    exact .inl rfl
  · simp only [first] at renders
    rcases rest : renderAll blocked options token commands middle with ⟨failure | others, last⟩
    · simp only [rest] at renders
      cases renders
      exact .inr ⟨text, middle, rfl, rest⟩
    · simp [rest] at renders

theorem renderAll_grown {texts : List String}
    (renders : renderAll blocked options token commands cache = (.ok texts, after)) :
    cache.Extends (IsFragment blocked options commands) after := by
  induction commands generalizing cache texts with
  | nil =>
      cases renders
      exact StageCache.extends_of_entries_eq rfl
  | cons command commands ih =>
      rcases renderAll_cons_eq_ok renders with ⟨text, middle, others, first, rest⟩
      exact ((fragment_grown first).mono (IsFragment.mono (by simp))).trans
        ((ih rest).mono (IsFragment.mono (by simp)))

/-- A rendering that fails adds the fragments of the commands before the one that fails. -/
theorem renderAll_fails
    (renders : renderAll blocked options token commands cache = (.error error, after)) :
    ∃ earlier failing later, commands = earlier ++ failing :: later ∧
      FailsOn blocked options token failing error ∧
      cache.Extends (IsFragment blocked options earlier) after := by
  induction commands generalizing cache with
  | nil => cases renders
  | cons command commands ih =>
      rcases renderAll_cons_eq_error renders with first | ⟨text, middle, first, rest⟩
      · -- The first command fails, so nothing was rendered before it.
        rcases fragment_fails first with ⟨entries, fails⟩
        exact ⟨[], command, commands, rfl, fails, StageCache.extends_of_entries_eq entries⟩
      · rcases ih rest with ⟨earlier, failing, later, rfl, fails, grown⟩
        refine ⟨command :: earlier, failing, later, rfl, fails, ?_⟩
        exact ((fragment_grown first).mono (IsFragment.mono (by simp))).trans
          (grown.mono (IsFragment.mono (by simp)))

theorem renderAll_keeps (commands : List CommandDescriptor) (cache : StageCache String) :
    cache.Keeps (renderAll blocked options token commands cache).2 := by
  rcases renders : renderAll blocked options token commands cache with ⟨failure | texts, after⟩
  · rcases renderAll_fails renders with ⟨_, _, _, _, _, grown⟩
    exact grown.keeps
  · exact (renderAll_grown renders).keeps

theorem emitAll_snd (commands : List CommandDescriptor) (blocked : BlockedMembers)
    (options : EmitOptions) (token : Token) (cache : StageCache String) :
    (emitAll commands blocked options token cache).2 =
      (renderAll blocked options token commands cache).2 := by
  unfold emitAll
  rcases renderAll blocked options token commands cache with ⟨failure | texts, after⟩ <;> rfl

theorem emitAll_fails
    (emits : emitAll commands blocked options token cache = (.error error, after)) :
    ∃ earlier failing later, commands = earlier ++ failing :: later ∧
      FailsOn blocked options token failing error ∧
      cache.Extends (IsFragment blocked options earlier) after := by
  unfold emitAll at emits
  rcases renders : renderAll blocked options token commands cache with ⟨failure | texts, last⟩
  · rw [renders] at emits
    cases emits
    exact renderAll_fails renders
  · simp [renders] at emits

theorem emitAll_keeps (commands : List CommandDescriptor) (blocked : BlockedMembers)
    (options : EmitOptions) (token : Token) (cache : StageCache String) :
    cache.Keeps (emitAll commands blocked options token cache).2 := by
  rw [emitAll_snd]
  exact renderAll_keeps commands cache

end Fragments

section Retention

/-- Every entry of every cache of a pipeline is in the same cache of another one. -/
structure Keeps (pipeline after : Pipeline) : Prop where
  configuration_eq : after.configuration = pipeline.configuration
  extraction : pipeline.extraction.Keeps after.extraction
  validation : pipeline.validation.Keeps after.validation
  emission : pipeline.emission.Keeps after.emission
  fragments : pipeline.fragments.Keeps after.fragments

variable {pipeline middle after : Pipeline} {set : DeclarationSet} {token : Token}

theorem Keeps.refl (pipeline : Pipeline) : pipeline.Keeps pipeline :=
  ⟨rfl, .refl _, .refl _, .refl _, .refl _⟩

theorem Keeps.trans (first : pipeline.Keeps middle) (second : middle.Keeps after) :
    pipeline.Keeps after where
  configuration_eq := second.configuration_eq.trans first.configuration_eq
  extraction := first.extraction.trans second.extraction
  validation := first.validation.trans second.validation
  emission := first.emission.trans second.emission
  fragments := first.fragments.trans second.fragments

theorem keeps_runExtraction {result : Except RunError (Extraction × CacheStatus)}
    (extracts : pipeline.runExtraction set token = (result, after)) : pipeline.Keeps after := by
  rcases fetched_runExtraction extracts with ⟨cache, fetched, rfl⟩
  exact { Keeps.refl pipeline with extraction := fetched.grown.keeps }

theorem keeps_runValidation {extraction : Extraction}
    {result : Except RunError (Validation × CacheStatus)}
    (validates : pipeline.runValidation set extraction token = (result, after)) :
    pipeline.Keeps after := by
  rcases fetched_runValidation validates with ⟨cache, fetched, rfl⟩
  exact { Keeps.refl pipeline with validation := fetched.grown.keeps }

theorem keeps_runEmission {extraction : Extraction} {validation : Validation}
    {result : Except RunError (String × CacheStatus)}
    (emits : pipeline.runEmission extraction validation token = (result, after)) :
    pipeline.Keeps after := by
  rcases fetched_runEmission emits with ⟨cache, fetched, rfl⟩
  refine { Keeps.refl pipeline with emission := fetched.grown.keeps, fragments := ?_ }
  dsimp only
  split
  · exact .refl _
  · exact emitAll_keeps _ _ _ _ _

/-- A run keeps every entry, however it ends. -/
theorem Course.keeps {result : Except RunError RunOutput}
    (course : Course pipeline set token result after) : pipeline.Keeps after := by
  cases course with
  | extractionFails extracts => exact keeps_runExtraction extracts
  | validationFails extracts validates =>
      exact (keeps_runExtraction extracts).trans (keeps_runValidation validates)
  | emissionFails extracts validates emits =>
      exact ((keeps_runExtraction extracts).trans (keeps_runValidation validates)).trans
        (keeps_runEmission emits)
  | completes extracts validates emits =>
      exact ((keeps_runExtraction extracts).trans (keeps_runValidation validates)).trans
        (keeps_runEmission emits)

end Retention

end Pipeline

end OptionCompiler
