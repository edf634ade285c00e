import Mathlib
import OptionCompiler.Proofs.Pipeline.Completion
import OptionCompiler.Proofs.Pipeline.Course
/-!
# Runs that fail

A run fails in one of its stages: interrupted in any of them, or in the emission about a command
that cannot be rendered. It keeps what the caches held, and adds complete results alone: those of
the stages before the one that fails, and the fragments of the commands before the one that
fails. No interrupted or erroneous result is ever kept, whatever the caches hold.
-/

namespace OptionCompiler

namespace Pipeline

section Failures

/-- The extraction of a set is in the cache of a run, and is the whole one if the run added it. -/
structure Extracted (pipeline : Pipeline) (set : DeclarationSet) (extraction : Extraction)
    (after : Pipeline) : Prop where
  found : after.extraction.get? (extractionKey set) = some extraction
  grown : pipeline.extraction.Extends
    (fun key value => key = extractionKey set ∧ extract set .live = .ok value) after.extraction

/-- The validation of an extracted set is in the cache of a run, and is the whole one if the run
added it. -/
structure Validated (pipeline : Pipeline) (set : DeclarationSet) (extraction : Extraction)
    (validation : Validation) (after : Pipeline) : Prop where
  found : after.validation.get?
    (validationKey set extraction pipeline.configuration.severity) = some validation
  grown : pipeline.validation.Extends
    (fun key value => key = validationKey set extraction pipeline.configuration.severity ∧
      validate set extraction pipeline.configuration.severity .live = .ok value) after.validation

/-- How a run may fail, and what it leaves behind in each case. -/
inductive Failure (pipeline : Pipeline) (set : DeclarationSet) (token : Token) (error : RunError)
    (after : Pipeline) : Prop where
  /-- The extraction fails: its miss is all that is left. -/
  | extraction (fails : extract set token = .error error)
      (after_eq : after = { pipeline with extraction := pipeline.extraction.miss })
  /-- The validation fails: the extraction is there. -/
  | validation (extraction : Extraction) (extracted : pipeline.Extracted set extraction after)
      (fails : validate set extraction pipeline.configuration.severity token = .error error)
      (validation_eq : after.validation = pipeline.validation.miss)
      (emission_eq : after.emission = pipeline.emission)
      (fragments_eq : after.fragments = pipeline.fragments)
  /-- The emission fails: the extraction, the validation and the fragments of the commands before
  the failing one are there. -/
  | emission (extraction : Extraction) (validation : Validation)
      (earlier : List CommandDescriptor) (failing : CommandDescriptor)
      (later : List CommandDescriptor) (extracted : pipeline.Extracted set extraction after)
      (validated : pipeline.Validated set extraction validation after)
      (commands_eq : extraction.commands = earlier ++ failing :: later)
      (fails : FailsOn validation.blockedMembers pipeline.configuration.emit token failing error)
      (emission_eq : after.emission = pipeline.emission.miss)
      (fragments : pipeline.fragments.Extends
        (IsFragment validation.blockedMembers pipeline.configuration.emit earlier)
        after.fragments)

variable {pipeline middle after : Pipeline} {set : DeclarationSet} {token : Token}

theorem validate_live {extraction : Extraction} {severities : SeverityTable}
    {validation : Validation} (ends : validate set extraction severities token = .ok validation) :
    validate set extraction severities .live = .ok validation := by
  cases token with
  | live => exact ends
  | cancelled => cases ends

theorem extracted_runExtraction {extraction : Extraction} {status : CacheStatus}
    (extracts : pipeline.runExtraction set token = (.ok (extraction, status), after)) :
    pipeline.Extracted set extraction after := by
  rcases fetched_runExtraction extracts with ⟨cache, fetched, rfl⟩
  refine ⟨fetched.get?_of_ok, fetched.grown.mono ?_⟩
  rintro key value ⟨same, ends⟩
  rw [Extraction.eq_ofSet_of_extract ends]
  exact ⟨same, Extraction.extract_live set⟩

theorem validated_runValidation {extraction : Extraction} {validation : Validation}
    {status : CacheStatus}
    (validates : pipeline.runValidation set extraction token =
      (.ok (validation, status), after)) :
    pipeline.Validated set extraction validation after := by
  rcases fetched_runValidation validates with ⟨cache, fetched, rfl⟩
  refine ⟨fetched.get?_of_ok, fetched.grown.mono ?_⟩
  rintro key value ⟨same, ends⟩
  exact ⟨same, validate_live ends⟩

/-- A run that fails keeps every entry and adds complete results of earlier stages alone. The
stage that fails counts a miss, and neither it nor a later one gets an entry. -/
theorem run_failure (pipeline : Pipeline) (set : DeclarationSet) (token : Token)
    (error : RunError) (after : Pipeline)
    (fails : pipeline.run set token = (.error error, after)) :
    pipeline.Keeps after ∧ Failure pipeline set token error after := by
  have course := course_of_run fails
  refine ⟨course.keeps, ?_⟩
  cases course with
  | extractionFails extracts =>
      rcases fetched_runExtraction extracts with ⟨cache, fetched, rfl⟩
      rcases fetched.eq_of_error with ⟨_, stopped, rfl⟩
      exact .extraction stopped rfl
  | @validationFails extraction _ _ _ _ extracts validates =>
      have extracted := extracted_runExtraction extracts
      rcases fetched_runExtraction extracts with ⟨cache, _, rfl⟩
      rcases fetched_runValidation validates with ⟨cache', fetched, rfl⟩
      rcases fetched.eq_of_error with ⟨_, stopped, rfl⟩
      exact .validation extraction ⟨extracted.found, extracted.grown⟩ stopped rfl rfl rfl
  | @emissionFails extraction validation _ _ _ _ _ _ extracts validates emits =>
      have extracted := extracted_runExtraction extracts
      have validated := validated_runValidation validates
      rcases fetched_runExtraction extracts with ⟨cache, _, rfl⟩
      rcases fetched_runValidation validates with ⟨cache', _, rfl⟩
      rcases fetched_runEmission emits with ⟨cache'', fetched, rfl⟩
      rcases fetched.eq_of_error with ⟨absent, stopped, rfl⟩
      -- The fragments of the commands before the failing one stay, though there is no source.
      rcases emitAll_fails (Prod.ext stopped rfl) with
        ⟨earlier, failing, later, commands_eq, reason, grown⟩
      refine .emission extraction validation earlier failing later
        ⟨extracted.found, extracted.grown⟩ ⟨validated.found, validated.grown⟩ commands_eq reason
        rfl ?_
      simp only [absent]
      exact grown

/-- When the emission fails, the extraction and the validation stay. -/
theorem run_failure_blankElementSet :
    ∃ after,
      (ofConfiguration .standard).run blankElementSet .live =
          (.error (.invariant "Options.out" "element type is empty"), after) ∧
        after.stats = ⟨⟨0, 1, 1⟩, ⟨0, 1, 1⟩, ⟨0, 1, 0⟩, ⟨0, 1, 0⟩⟩ ∧
        (ofConfiguration .standard).Keeps after ∧
        Failure (ofConfiguration .standard) blankElementSet .live
          (.invariant "Options.out" "element type is empty") after := by
  have fails : ((ofConfiguration .standard).run blankElementSet .live).1 =
      .error (.invariant "Options.out" "element type is empty") := rfl
  rcases run_failure _ _ _ _ _ (Prod.ext fails rfl) with ⟨keeps, failure⟩
  exact ⟨_, Prod.ext fails rfl, rfl, keeps, failure⟩

end Failures

end Pipeline

end OptionCompiler
