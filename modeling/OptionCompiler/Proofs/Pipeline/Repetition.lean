import Mathlib
import OptionCompiler.Proofs.Pipeline.Course
import OptionCompiler.Proofs.Pipeline.History
/-!
# Repeated runs

Nothing but a clear drops an entry. So once a run has succeeded, its three results stay under
their keys until the next clear, and a run on the same set finds all of them: it computes nothing
and asks no token.

Conversely an entry is under a key only because a stage computed it since the last clear. As long
as no two of the hashed messages have one digest, the key tells the input of the stage, so what is
served from a cache was computed from an equal input.
-/

namespace OptionCompiler

namespace Pipeline

section Inputs

/-- The stages with a cache for their results. -/
inductive Stage where
  | extraction
  | validation
  | emission
deriving DecidableEq, Repr

/-- What the result of a stage depends on. -/
inductive StageInput where
  | extraction (set : DeclarationSet)
  | validation (set : DeclarationSet) (extraction : Extraction) (severities : SeverityTable)
  | emission (commands : List CommandDescriptor) (blocked : BlockedMembers)
      (options : EmitOptions)
deriving DecidableEq, Repr

namespace StageInput

def stage : StageInput → Stage
  | .extraction .. => .extraction
  | .validation .. => .validation
  | .emission .. => .emission

def key : StageInput → Fingerprint
  | .extraction set => extractionKey set
  | .validation set extracted severities => validationKey set extracted severities
  | .emission commands blocked options => emissionKey commands blocked options

/-- The messages that are hashed for the key. -/
def messages : StageInput → List (List UInt8)
  | .extraction set => [Fingerprint.message set.toJson]
  | .validation set extracted severities =>
      keyMessages (validationParts set extracted severities)
  | .emission commands blocked options => keyMessages (emissionParts commands blocked options)

def isFinite : StageInput → Bool
  | .extraction set => set.isFinite
  | .validation set _ _ => set.isFinite
  | .emission .. => true

/-- Under the key of a stage stands the result of one input only. -/
theorem eq_of_key {messages : List (List UInt8)} (free : Sha256.CollisionFree messages)
    {input other : StageInput} (stages : input.stage = other.stage)
    (finite : input.isFinite = true) (finite' : other.isFinite = true)
    (hashed : input.messages ⊆ messages) (hashed' : other.messages ⊆ messages)
    (keys : input.key = other.key) : input = other := by
  cases input with
  | extraction set =>
      cases other with
      | extraction set' =>
          rw [set_eq_of_extractionKey free finite finite' (hashed (by simp [StageInput.messages]))
            (hashed' (by simp [StageInput.messages])) keys]
      | validation | emission => cases stages
  | validation set extraction severities =>
      cases other with
      | validation set' extraction' severities' =>
          rcases eq_of_validationKey free finite finite' hashed hashed' keys with ⟨rfl, rfl, rfl⟩
          rfl
      | extraction | emission => cases stages
  | emission commands blocked options =>
      cases other with
      | emission commands' blocked' options' =>
          rcases eq_of_emissionKey free hashed hashed' keys with ⟨rfl, rfl, rfl⟩
          rfl
      | extraction | validation => cases stages

end StageInput

end Inputs

section Completions

/-- A run completes a stage on an input, which gets its result in the given way. -/
inductive Completes (pipeline : Pipeline) (set : DeclarationSet) (token : Token) :
    StageInput → CacheStatus → Prop where
  | extraction {extraction : Extraction} {status : CacheStatus} {after : Pipeline}
      (extracts : pipeline.runExtraction set token = (.ok (extraction, status), after)) :
      Completes pipeline set token (.extraction set) status
  | validation {extraction : Extraction} {validation : Validation}
      {extracted status : CacheStatus} {middle after : Pipeline}
      (extracts : pipeline.runExtraction set token = (.ok (extraction, extracted), middle))
      (validates : middle.runValidation set extraction token =
        (.ok (validation, status), after)) :
      Completes pipeline set token
        (.validation set extraction pipeline.configuration.severity) status
  | emission {extraction : Extraction} {validation : Validation} {source : String}
      {extracted validated status : CacheStatus} {middle last after : Pipeline}
      (extracts : pipeline.runExtraction set token = (.ok (extraction, extracted), middle))
      (validates : middle.runValidation set extraction token =
        (.ok (validation, validated), last))
      (emits : last.runEmission extraction validation token = (.ok (source, status), after)) :
      Completes pipeline set token
        (.emission extraction.commands validation.blockedMembers pipeline.configuration.emit)
        status

/-- Whether the cache of a stage has a result under a key. -/
def holds (pipeline : Pipeline) (key : Fingerprint) : Stage → Bool
  | .extraction => (pipeline.extraction.get? key).isSome
  | .validation => (pipeline.validation.get? key).isSome
  | .emission => (pipeline.emission.get? key).isSome

variable {pipeline after : Pipeline} {set : DeclarationSet} {token : Token} {key : Fingerprint}
  {stage : Stage}

/-- The report of a run says how its stages completed. -/
theorem completes_of_run {output : RunOutput}
    (runs : (pipeline.run set token).1 = .ok output) :
    pipeline.Completes set token (.extraction set) output.report.extraction ∧
      pipeline.Completes set token
        (.validation set output.extraction pipeline.configuration.severity)
        output.report.validation ∧
      pipeline.Completes set token
        (.emission output.extraction.commands output.validation.blockedMembers
          pipeline.configuration.emit) output.report.emission := by
  have course := course_run pipeline set token
  rw [runs] at course
  cases course with
  | completes extracts validates emits =>
      exact ⟨.extraction extracts, .validation extracts validates,
        .emission extracts validates emits⟩

/-- A cached result was in the cache of its stage before the run. -/
theorem Completes.holds {input : StageInput}
    (completes : pipeline.Completes set token input .cached) :
    pipeline.holds input.key input.stage = true := by
  cases completes with
  | extraction extracts =>
      rcases fetched_runExtraction extracts with ⟨_, fetched, rfl⟩
      exact fetched.isSome_of_cached
  | validation extracts validates =>
      rcases fetched_runExtraction extracts with ⟨_, _, rfl⟩
      rcases fetched_runValidation validates with ⟨_, fetched, rfl⟩
      exact fetched.isSome_of_cached
  | emission extracts validates emits =>
      rcases fetched_runExtraction extracts with ⟨_, _, rfl⟩
      rcases fetched_runValidation validates with ⟨_, _, rfl⟩
      rcases fetched_runEmission emits with ⟨_, fetched, rfl⟩
      exact fetched.isSome_of_cached

theorem Completes.messages_subset {input : StageInput} {status : CacheStatus}
    (completes : pipeline.Completes set token input status) :
    input.messages ⊆ runMessages pipeline set token := by
  intro message member
  cases completes with
  | extraction extracts =>
      rw [List.mem_singleton.mp member]
      exact List.mem_cons_self
  | validation extracts validates =>
      rw [← (keeps_runExtraction extracts).configuration_eq] at member
      simp only [runMessages, extracts]
      exact List.mem_cons_of_mem _ (List.mem_append_left _ member)
  | emission extracts validates emits =>
      rw [← ((keeps_runExtraction extracts).trans
        (keeps_runValidation validates)).configuration_eq] at member
      simp only [runMessages, extracts, validates, emissionMessages]
      exact List.mem_cons_of_mem _
        (List.mem_append_right _ (List.mem_append_left _ member))

theorem Completes.isFinite {input : StageInput} {status : CacheStatus}
    (completes : pipeline.Completes set token input status) (finite : set.isFinite = true) :
    input.isFinite = true := by
  cases completes with
  | extraction extracts => exact finite
  | validation extracts validates => exact finite
  | emission extracts validates emits => rfl

section Steps

/-- A run computes a stage on an input with the given key. -/
def Computes (pipeline : Pipeline) (set : DeclarationSet) (token : Token) (key : Fingerprint)
    (stage : Stage) : Prop :=
  ∃ input, pipeline.Completes set token input .computed ∧ input.stage = stage ∧ input.key = key

variable {extraction : Extraction} {validation : Validation}
  {extracted validated : CacheStatus} {middle last : Pipeline}

theorem holds_of_runExtraction {result : Except RunError (Extraction × CacheStatus)}
    (extracts : pipeline.runExtraction set token = (result, after))
    (present : after.holds key stage = true) :
    pipeline.holds key stage = true ∨ pipeline.Computes set token key stage := by
  rcases fetched_runExtraction extracts with ⟨_, fetched, rfl⟩
  cases stage with
  | extraction =>
      rcases fetched.isSome_get? present with old | ⟨same, extraction, rfl⟩
      · exact .inl old
      · exact .inr ⟨_, .extraction extracts, rfl, same⟩
  | validation => exact .inl present
  | emission => exact .inl present

theorem holds_of_runValidation {result : Except RunError (Validation × CacheStatus)}
    (extracts : pipeline.runExtraction set token = (.ok (extraction, extracted), middle))
    (validates : middle.runValidation set extraction token = (result, after))
    (present : after.holds key stage = true) :
    pipeline.holds key stage = true ∨ pipeline.Computes set token key stage := by
  rcases fetched_runValidation validates with ⟨_, fetched, rfl⟩
  rw [(keeps_runExtraction extracts).configuration_eq] at fetched
  cases stage with
  | validation =>
      rcases fetched.isSome_get? present with old | ⟨same, validation, rfl⟩
      · exact holds_of_runExtraction extracts old
      · exact .inr ⟨_, .validation extracts validates, rfl, same⟩
  | extraction => exact holds_of_runExtraction extracts present
  | emission => exact holds_of_runExtraction extracts present

theorem holds_of_runEmission {result : Except RunError (String × CacheStatus)}
    (extracts : pipeline.runExtraction set token = (.ok (extraction, extracted), middle))
    (validates : middle.runValidation set extraction token =
      (.ok (validation, validated), last))
    (emits : last.runEmission extraction validation token = (result, after))
    (present : after.holds key stage = true) :
    pipeline.holds key stage = true ∨ pipeline.Computes set token key stage := by
  rcases fetched_runEmission emits with ⟨_, fetched, rfl⟩
  rw [(keeps_runValidation validates).configuration_eq,
    (keeps_runExtraction extracts).configuration_eq] at fetched
  cases stage with
  | emission =>
      rcases fetched.isSome_get? present with old | ⟨same, source, rfl⟩
      · exact holds_of_runValidation extracts validates old
      · exact .inr ⟨_, .emission extracts validates emits, rfl, same⟩
  | extraction => exact holds_of_runValidation extracts validates present
  | validation => exact holds_of_runValidation extracts validates present

/-- What a stage holds after a run it held before, or the run computed it. -/
theorem holds_of_run (present : (pipeline.run set token).2.holds key stage = true) :
    pipeline.holds key stage = true ∨ pipeline.Computes set token key stage := by
  have course := course_run pipeline set token
  generalize pipeline.run set token = outcome at course present
  rcases outcome with ⟨result, after⟩
  cases course with
  | extractionFails extracts => exact holds_of_runExtraction extracts present
  | validationFails extracts validates =>
      exact holds_of_runValidation extracts validates present
  | emissionFails extracts validates emits =>
      exact holds_of_runEmission extracts validates emits present
  | completes extracts validates emits =>
      exact holds_of_runEmission extracts validates emits present

end Steps

end Completions

section Histories

/-- A run of a history that no clear follows. -/
structure RecentRun (history : List Action) where
  earlier : List Action
  set : DeclarationSet
  token : Token
  later : List Action
  history_eq : history = earlier ++ .run set token :: later
  kept : Action.clear ∉ later

namespace RecentRun

variable {history : List Action}

def outcome (recent : RecentRun history) (start : Pipeline) :
    Except RunError RunOutput × Pipeline :=
  (start.performAll recent.earlier).run recent.set recent.token

/-- The run completes a stage on an input, which gets its result in the given way. -/
def Completes (recent : RecentRun history) (start : Pipeline) :
    StageInput → CacheStatus → Prop :=
  (start.performAll recent.earlier).Completes recent.set recent.token

/-- The last run of a history. -/
def last (history : List Action) (set : DeclarationSet) (token : Token) :
    RecentRun (history ++ [.run set token]) :=
  ⟨history, set, token, [], rfl, by simp⟩

/-- The same run in a history that goes on with another one. -/
def extended (recent : RecentRun history) (set : DeclarationSet) (token : Token) :
    RecentRun (history ++ [.run set token]) where
  earlier := recent.earlier
  set := recent.set
  token := recent.token
  later := recent.later ++ [.run set token]
  history_eq := (congrArg (· ++ [Action.run set token]) recent.history_eq).trans (by simp)
  kept := by simp [recent.kept]

theorem messages_subset (recent : RecentRun history) (start : Pipeline) :
    runMessages (start.performAll recent.earlier) recent.set recent.token ⊆
      historyMessages start history := by
  intro message member
  have own : message ∈
      actionMessages (start.performAll recent.earlier) (.run recent.set recent.token) := member
  rw [recent.history_eq, historyMessages_append, historyMessages]
  simp [own]

theorem isFinite (recent : RecentRun history)
    (finite : ∀ action ∈ history, action.isFinite = true) : recent.set.isFinite = true :=
  finite (.run recent.set recent.token) (by simp [recent.history_eq])

end RecentRun

variable (configuration : Configuration)

theorem performAll_append (pipeline : Pipeline) (earlier later : List Action) :
    pipeline.performAll (earlier ++ later) = (pipeline.performAll earlier).performAll later :=
  List.foldl_append

theorem configuration_performAll (pipeline : Pipeline) (history : List Action) :
    (pipeline.performAll history).configuration = pipeline.configuration := by
  induction history generalizing pipeline with
  | nil => rfl
  | cons action history ih =>
      cases action with
      | clear => exact ih pipeline.clear
      | run set token =>
          exact (ih (pipeline.run set token).2).trans
            (course_run pipeline set token).keeps.configuration_eq

/-- A history without a clear keeps every entry. -/
theorem keeps_performAll (pipeline : Pipeline) {history : List Action}
    (kept : Action.clear ∉ history) : pipeline.Keeps (pipeline.performAll history) := by
  induction history generalizing pipeline with
  | nil => exact .refl pipeline
  | cons action history ih =>
      simp only [List.mem_cons, not_or] at kept
      cases action with
      | clear => exact absurd rfl kept.1
      | run set token =>
          exact (course_run pipeline set token).keeps.trans (ih (pipeline.run set token).2 kept.2)

/-- What the caches hold after a recent run is still there at the end of the history. -/
theorem RecentRun.keeps {history : List Action} (recent : RecentRun history) (start : Pipeline) :
    (recent.outcome start).2.Keeps (start.performAll history) := by
  rcases recent with ⟨earlier, set, token, later, rfl, kept⟩
  rw [performAll_append]
  exact keeps_performAll _ kept

/-- What no clear leaves and only some runs bring about was brought about since the last clear. -/
theorem RecentRun.exists_of_arises {start : Pipeline} {history : List Action}
    (held : Pipeline → Prop) (arises : Pipeline → DeclarationSet → Token → Prop)
    (absent : ¬held start) (cleared : ∀ pipeline : Pipeline, ¬held pipeline.clear)
    (step : ∀ pipeline set token,
      held (pipeline.run set token).2 → held pipeline ∨ arises pipeline set token)
    (present : held (start.performAll history)) :
    ∃ recent : RecentRun history,
      arises (start.performAll recent.earlier) recent.set recent.token := by
  -- From the end of the history: a clear leaves nothing, and a run adds only what it brings about.
  induction history using List.reverseRecOn with
  | nil => exact absurd present absent
  | append_singleton history action ih =>
      rw [performAll_append] at present
      cases action with
      | clear => exact absurd present (cleared _)
      | run set token =>
          rcases step _ set token present with old | new
          · rcases ih old with ⟨recent, earlier⟩
            exact ⟨recent.extended set token, earlier⟩
          · exact ⟨.last history set token, new⟩

/-- What a stage holds was computed since the last clear. -/
theorem computed_of_holds {history : List Action} {key : Fingerprint} {stage : Stage}
    (present : ((ofConfiguration configuration).performAll history).holds key stage = true) :
    ∃ (recent : RecentRun history) (input : StageInput),
      recent.Completes (ofConfiguration configuration) input .computed ∧ input.stage = stage ∧
        input.key = key := by
  apply RecentRun.exists_of_arises (fun pipeline => pipeline.holds key stage = true)
    (fun pipeline set token => pipeline.Computes set token key stage)
  · cases stage <;> exact Bool.false_ne_true
  · intro pipeline
    cases stage <;> exact Bool.false_ne_true
  · intro pipeline set token
    exact holds_of_run
  · exact present

/-- A stage that a run finds in its cache was computed on the same input since the last clear. -/
theorem computed_of_cached {history : List Action} {set : DeclarationSet} {token : Token}
    (finite : ∀ action ∈ history ++ [.run set token], action.isFinite = true)
    (free : Sha256.CollisionFree
      (historyMessages (ofConfiguration configuration) (history ++ [.run set token])))
    {input : StageInput}
    (cached : ((ofConfiguration configuration).performAll history).Completes set token input
      .cached) :
    ∃ recent : RecentRun history,
      recent.Completes (ofConfiguration configuration) input .computed := by
  rcases computed_of_holds configuration cached.holds with
    ⟨recent, other, completes, stages, keys⟩
  have earlierFinite : ∀ action ∈ history, action.isFinite = true :=
    fun action member => finite action (by simp [member])
  have earlierHashed := historyMessages_subset_append (ofConfiguration configuration) history
    [.run set token]
  -- The key is all that the two inputs are known to share; without collisions it tells them.
  have same : other = input := by
    apply StageInput.eq_of_key free stages
    · exact Completes.isFinite completes (recent.isFinite earlierFinite)
    · exact Completes.isFinite cached (RecentRun.isFinite (.last history set token) finite)
    · exact List.Subset.trans (Completes.messages_subset completes)
        (List.Subset.trans (recent.messages_subset _) earlierHashed)
    · exact List.Subset.trans (Completes.messages_subset cached)
        ((RecentRun.last history set token).messages_subset _)
    · exact keys
  exact ⟨recent, same ▸ completes⟩

end Histories

section Repetition

/-- The results of a run are in the caches of their stages. -/
structure Stores (pipeline : Pipeline) (set : DeclarationSet) (output : RunOutput) : Prop where
  extraction : pipeline.extraction.get? (extractionKey set) = some output.extraction
  validation : pipeline.validation.get?
    (validationKey set output.extraction pipeline.configuration.severity) =
      some output.validation
  source : pipeline.emission.get?
    (emissionKey output.extraction.commands output.validation.blockedMembers
      pipeline.configuration.emit) = some output.source

/-- Counts a hit of every stage. -/
def hit (pipeline : Pipeline) : Pipeline :=
  { pipeline with
    extraction := pipeline.extraction.hit
    validation := pipeline.validation.hit
    emission := pipeline.emission.hit }

variable {pipeline after : Pipeline} {set : DeclarationSet} {token : Token} {output : RunOutput}

theorem Stores.of_keeps (stores : pipeline.Stores set output) (keeps : pipeline.Keeps after) :
    after.Stores set output := by
  constructor
  · exact keeps.extraction _ _ stores.extraction
  · rw [keeps.configuration_eq]
    exact keeps.validation _ _ stores.validation
  · rw [keeps.configuration_eq]
    exact keeps.emission _ _ stores.source

/-- A run that succeeds leaves its results in the caches. -/
theorem stores_of_run (runs : pipeline.run set token = (.ok output, after)) :
    after.Stores set output := by
  cases course_of_run runs with
  | completes extracts validates emits =>
      rcases fetched_runExtraction extracts with ⟨_, extraction, rfl⟩
      rcases fetched_runValidation validates with ⟨_, validation, rfl⟩
      rcases fetched_runEmission emits with ⟨_, emission, rfl⟩
      exact ⟨extraction.get?_of_ok, validation.get?_of_ok, emission.get?_of_ok⟩

/-- A run on a set whose results are in the caches finds them there, whatever its token. -/
theorem run_of_stores (stores : pipeline.Stores set output) (token : Token) :
    pipeline.run set token =
      (.ok { output with report := ⟨.cached, .cached, .cached⟩ }, pipeline.hit) := by
  rcases stores with ⟨extraction, validation, source⟩
  simp only [run, runExtraction, runValidation, runEmission, StageCache.fetch,
    StageCache.fetchWith, extraction, validation, source, hit]

/-- A repeated run hashes nothing that the first one did not hash. -/
theorem runMessages_of_stores {other : Pipeline} {first : Token}
    (runs : other.run set first = (.ok output, after)) (keeps : after.Keeps pipeline)
    (token : Token) : runMessages pipeline set token ⊆ runMessages other set first := by
  have stores := (stores_of_run runs).of_keeps keeps
  have configured : pipeline.configuration = other.configuration :=
    keeps.configuration_eq.trans (course_of_run runs).keeps.configuration_eq
  rcases completes_of_run (congrArg Prod.fst runs) with ⟨extraction, validation, emission⟩
  rcases stores with ⟨found, foundValidation, foundSource⟩
  rw [configured] at foundValidation foundSource
  simp only [runMessages, emissionMessages, runExtraction, runValidation, StageCache.fetch,
    StageCache.fetchWith, found, foundValidation, foundSource, configured, List.append_nil]
  rw [← List.singleton_append, List.append_subset, List.append_subset]
  exact ⟨extraction.messages_subset, validation.messages_subset, emission.messages_subset⟩

/-- A run on a set on which a run has succeeded since the last clear computes nothing: it finds
the same results in the caches and counts a hit of each stage, and all else stays as it is.
Conversely a run finds in the caches only what was computed from the same input since the last
clear. -/
theorem run_repetition (configuration : Configuration) (history : List Action)
    (set : DeclarationSet) (token : Token) :
    let start := ofConfiguration configuration
    let pipeline := start.performAll history
    (∀ (recent : RecentRun history) (output : RunOutput), recent.set = set →
      (recent.outcome start).1 = .ok output →
        pipeline.run set token =
          (.ok { output with report := ⟨.cached, .cached, .cached⟩ }, pipeline.hit)) ∧
    ((∀ action ∈ history ++ [.run set token], action.isFinite = true) →
      Sha256.CollisionFree (historyMessages start (history ++ [.run set token])) →
        ∀ output, (pipeline.run set token).1 = .ok output →
          (output.report.extraction = .cached →
            ∃ recent : RecentRun history, recent.Completes start (.extraction set) .computed) ∧
          (output.report.validation = .cached →
            ∃ recent : RecentRun history, recent.Completes start
              (.validation set output.extraction configuration.severity) .computed) ∧
          (output.report.emission = .cached →
            ∃ recent : RecentRun history, recent.Completes start
              (.emission output.extraction.commands output.validation.blockedMembers
                configuration.emit) .computed)) := by
  intro start pipeline
  have configured : pipeline.configuration = configuration :=
    configuration_performAll start history
  constructor
  · rintro recent output rfl succeeds
    apply run_of_stores
    exact (stores_of_run (Prod.ext succeeds rfl)).of_keeps (recent.keeps start)
  · intro finite free output succeeds
    rcases completes_of_run succeeds with ⟨extraction, validation, emission⟩
    rw [configured] at validation emission
    refine ⟨?_, ?_, ?_⟩
    · intro cached
      rw [cached] at extraction
      exact computed_of_cached configuration finite free extraction
    · intro cached
      rw [cached] at validation
      exact computed_of_cached configuration finite free validation
    · intro cached
      rw [cached] at emission
      exact computed_of_cached configuration finite free emission

/-- A live run on the set of one command. -/
def firstRun : List Action :=
  [.run plainSet .live]

/-- A cancelled run finds the results of an earlier live one. -/
theorem run_repetition_plainSet :
    let start := ofConfiguration .standard
    let pipeline := start.performAll firstRun
    (∀ action ∈ firstRun ++ [.run plainSet .cancelled], action.isFinite = true) ∧
      Sha256.CollisionFree (historyMessages start (firstRun ++ [.run plainSet .cancelled])) ∧
      ∃ output, (start.run plainSet .live).1 = .ok output ∧
        pipeline.run plainSet .cancelled =
          (.ok { output with report := ⟨.cached, .cached, .cached⟩ }, pipeline.hit) ∧
        ∃ recent : RecentRun firstRun,
          recent.Completes start (.extraction plainSet) .computed := by
  intro start pipeline
  have finite : ∀ action ∈ firstRun ++ [.run plainSet .cancelled], action.isFinite = true := by
    decide
  have succeeds : ∃ output, (start.run plainSet .live).1 = .ok output := ⟨_, rfl⟩
  rcases succeeds with ⟨output, succeeds⟩
  have free : Sha256.CollisionFree
      (historyMessages start (firstRun ++ [.run plainSet .cancelled])) := by
    apply collisionFree_plainSet.mono
    rw [historyMessages_append, List.append_subset]
    simp only [firstRun, historyMessages, actionMessages, List.append_nil]
    exact ⟨List.Subset.refl _,
      runMessages_of_stores (Prod.ext succeeds rfl) (Keeps.refl _) .cancelled⟩
  have repetition := run_repetition .standard firstRun plainSet .cancelled
  have repeated := repetition.1 (.last [] plainSet .live) output rfl succeeds
  refine ⟨finite, free, output, succeeds, repeated, ?_⟩
  exact (repetition.2 finite free _ (congrArg Prod.fst repeated)).1 rfl

end Repetition

end Pipeline

end OptionCompiler
