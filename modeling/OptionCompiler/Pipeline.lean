import OptionCompiler.Configuration
import OptionCompiler.Emission
import OptionCompiler.Extraction
import OptionCompiler.StageCache
import OptionCompiler.Validation
/-!
# The pipeline

Extraction, validation and emission with a cache for each stage. The key of a stage is made from
everything that its result depends on: the declaration set for the extraction; the set, the
extraction and the severities for the validation; the commands, the blocked members and the emit
options for the emission. The emission has one more cache for the fragments of single commands,
so that a change to one command renders only that command again.

A run that fails keeps the results of the stages and fragments that it finished.
-/

namespace OptionCompiler

/-- How each stage of a run obtained its result. -/
structure RunReport where
  extraction : CacheStatus
  validation : CacheStatus
  emission : CacheStatus
deriving DecidableEq, Repr

namespace RunReport

/-- Whether no stage computed anything. -/
def fullyCached (report : RunReport) : Bool :=
  report.extraction = .cached && report.validation = .cached && report.emission = .cached

end RunReport

/-- The results of a run. -/
structure RunOutput where
  extraction : Extraction
  validation : Validation
  source : String
  report : RunReport
deriving DecidableEq, Repr

/-- The counts of all caches of a pipeline. -/
structure PipelineStats where
  extraction : CacheStats
  validation : CacheStats
  emission : CacheStats
  fragments : CacheStats
deriving DecidableEq, Repr

/-- A configuration and the caches of its runs. -/
structure Pipeline where
  configuration : Configuration
  extraction : StageCache Extraction
  validation : StageCache Validation
  emission : StageCache String
  fragments : StageCache String
deriving Repr

namespace Pipeline

/-- A pipeline without results. -/
def ofConfiguration (configuration : Configuration) : Pipeline :=
  ⟨configuration, .empty, .empty, .empty, .empty⟩

def extractionKey (set : DeclarationSet) : Fingerprint :=
  .of set.toJson

def validationKey (set : DeclarationSet) (extraction : Extraction) (severities : SeverityTable) :
    Fingerprint :=
  .combine [.of set.toJson, .of extraction.toJson, .of severities.toJson]

def emissionKey (commands : List CommandDescriptor) (blocked : BlockedMembers)
    (options : EmitOptions) : Fingerprint :=
  .combine
    [.of (.array (commands.map CommandDescriptor.toJson)), .of blocked.toJson, .of options.toJson]

/-- The key of the fragment of one command, given the blocked members of its type. -/
def fragmentKey (command : CommandDescriptor) (blocked : BlockedMembers) (options : EmitOptions) :
    Fingerprint :=
  .combine [.of command.toJson, .of blocked.toJson, .of options.toJson]

/-- The fragment of one command, from the cache if it is there. -/
def fragment (blocked : BlockedMembers) (options : EmitOptions) (token : Token)
    (command : CommandDescriptor) (cache : StageCache String) :
    Except RunError String × StageCache String :=
  match token.check with
  | .error error => (.error error, cache)
  | .ok () =>
      let own := blocked.ofType command.typeName
      match cache.fetch (fragmentKey command own options)
          (fun _ => Emission.renderCommand command own options) with
      | (.ok (text, _), cache) => (.ok text, cache)
      | (.error error, cache) => (.error error, cache)

/-- The fragments of a list of commands, up to the first that fails. -/
def renderAll (blocked : BlockedMembers) (options : EmitOptions) (token : Token) :
    List CommandDescriptor → StageCache String →
      Except RunError (List String) × StageCache String
  | [], cache => (.ok [], cache)
  | command :: commands, cache =>
      match fragment blocked options token command cache with
      | (.error error, cache) => (.error error, cache)
      | (.ok text, cache) =>
          match renderAll blocked options token commands cache with
          | (.error error, cache) => (.error error, cache)
          | (.ok texts, cache) => (.ok (text :: texts), cache)

/-- The source of a list of commands, by way of the fragment cache. -/
def emitAll (commands : List CommandDescriptor) (blocked : BlockedMembers) (options : EmitOptions)
    (token : Token) (cache : StageCache String) : Except RunError String × StageCache String :=
  match renderAll blocked options token commands cache with
  | (.error error, cache) => (.error error, cache)
  | (.ok texts, cache) => (.ok (Emission.assemble texts options), cache)

/-- The emission stage of a run, after the other two. -/
def runEmission (pipeline : Pipeline) (extraction : Extraction) (validation : Validation)
    (token : Token) : Except RunError (String × CacheStatus) × Pipeline :=
  let options := pipeline.configuration.emit
  let blocked := validation.blockedMembers
  match pipeline.emission.fetchWith (emissionKey extraction.commands blocked options)
      (emitAll extraction.commands blocked options token) pipeline.fragments with
  | (result, emission, fragments) =>
      (result, { pipeline with emission := emission, fragments := fragments })

/-- The validation stage of a run, after the extraction. -/
def runValidation (pipeline : Pipeline) (set : DeclarationSet) (extraction : Extraction)
    (token : Token) : Except RunError (Validation × CacheStatus) × Pipeline :=
  let severities := pipeline.configuration.severity
  match pipeline.validation.fetch (validationKey set extraction severities)
      (fun _ => validate set extraction severities token) with
  | (result, validation) => (result, { pipeline with validation := validation })

def runExtraction (pipeline : Pipeline) (set : DeclarationSet) (token : Token) :
    Except RunError (Extraction × CacheStatus) × Pipeline :=
  match pipeline.extraction.fetch (extractionKey set) (fun _ => extract set token) with
  | (result, extraction) => (result, { pipeline with extraction := extraction })

/-- Runs all stages on a declaration set, up to the first that fails. -/
def run (pipeline : Pipeline) (set : DeclarationSet) (token : Token) :
    Except RunError RunOutput × Pipeline :=
  match pipeline.runExtraction set token with
  | (.error error, pipeline) => (.error error, pipeline)
  | (.ok (extraction, extracted), pipeline) =>
      match pipeline.runValidation set extraction token with
      | (.error error, pipeline) => (.error error, pipeline)
      | (.ok (validation, validated), pipeline) =>
          match pipeline.runEmission extraction validation token with
          | (.error error, pipeline) => (.error error, pipeline)
          | (.ok (source, emitted), pipeline) =>
              (.ok ⟨extraction, validation, source, ⟨extracted, validated, emitted⟩⟩, pipeline)

/-- Drops the results of all stages and keeps the counts. -/
def clear (pipeline : Pipeline) : Pipeline :=
  { pipeline with
    extraction := pipeline.extraction.clear
    validation := pipeline.validation.clear
    emission := pipeline.emission.clear
    fragments := pipeline.fragments.clear }

/-- The counts of all caches. -/
def stats (pipeline : Pipeline) : PipelineStats :=
  ⟨pipeline.extraction.stats, pipeline.validation.stats, pipeline.emission.stats,
    pipeline.fragments.stats⟩

end Pipeline

end OptionCompiler
