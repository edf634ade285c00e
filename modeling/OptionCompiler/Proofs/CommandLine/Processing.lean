import OptionCompiler.CommandLine.Plan
import OptionCompiler.Proofs.CommandLine.OutputName
import OptionCompiler.Proofs.Pipeline.History
/-!
# What a request to generate comes to

The inputs go through one pipeline, each in its turn. All of them are processed exactly when each
is a declaration set whose run succeeds on the pipeline as the inputs before it left it; otherwise
the problem is the one of the first input that has one. So there is a plan for a request exactly
when none of the ways to refuse it applies, whichever of them is noticed first.
-/

namespace OptionCompiler

namespace CommandLine

namespace Plan

variable {read : String → Except FileError String} {pipeline : Pipeline} {problem : Problem}

section Files

/-- A configuration is not obtained when its file is not read or when the text is not accepted. -/
theorem configuration_eq_error_iff {path : Option String} :
    configuration read path = .error problem ↔
      ∃ file, path = some file ∧
        ((∃ error, read file = .error error ∧ problem = .configurationFile file error) ∨
          ∃ text error, read file = .ok text ∧ Configuration.ofText text = .error error ∧
            problem = .configuration file error) := by
  cases path with
  | none => simp [configuration]
  | some file =>
      simp only [configuration, bind_eq_error_iff, mapError_eq_error_iff, mapError_eq_ok_iff]
      simp [eq_comm]

/-- An input is a declaration set when its file is read and the text is one. -/
theorem declarations_eq_ok_iff {path : String} {set : DeclarationSet} :
    declarations read path = .ok set ↔
      ∃ text, read path = .ok text ∧
        DeclarationSet.ofText? (inputFormat path) text = some set := by
  simp only [declarations, bind_eq_ok_iff, mapError_eq_ok_iff]
  refine exists_congr fun text => and_congr_right fun _ => ?_
  split
  · next decodes => simp [decodes]
  · next none => simp [none]

/-- An input is no declaration set when its file is not read or when the text is none. -/
theorem declarations_eq_error_iff {path : String} :
    declarations read path = .error problem ↔
      (∃ error, read path = .error error ∧ problem = .inputFile path error) ∨
        ∃ text, read path = .ok text ∧ DeclarationSet.ofText? (inputFormat path) text = none ∧
          problem = .inputText path := by
  simp only [declarations, bind_eq_error_iff, mapError_eq_error_iff, mapError_eq_ok_iff]
  refine or_congr (by simp [eq_comm]) (exists_congr fun text => and_congr_right fun _ => ?_)
  split
  · next set decodes => simp [decodes]
  · next none => simp [none, eq_comm]

variable {read' : String → Except FileError String}

theorem processAll_congr {paths : List String} (same : ∀ path ∈ paths, read path = read' path) :
    processAll read pipeline paths = processAll read' pipeline paths := by
  induction paths generalizing pipeline with
  | nil => rfl
  | cons path paths ih =>
      rw [List.forall_mem_cons] at same
      simp only [processAll, declarations, same.1, ih same.2]

theorem process_congr {request : InputRequest}
    (same : ∀ path ∈ request.configuration.toList ++ request.inputs, read path = read' path) :
    process read request = process read' request := by
  rcases List.forall_mem_append.mp same with ⟨settings, inputs⟩
  have configured : configuration read request.configuration =
      configuration read' request.configuration := by
    cases path_eq : request.configuration with
    | none => rfl
    | some path =>
        rw [path_eq, Option.toList_some, List.forall_mem_singleton] at settings
        rw [configuration, configuration, settings]
  simp only [process, configured, processAll_congr inputs]

/-- A plan depends on no other files than those that it says it reads. -/
theorem ofRequest_congr {request : Request}
    (same : ∀ path ∈ filesRead request, read path = read' path) :
    ofRequest read request = ofRequest read' request := by
  cases request with
  | version | help | rules => rfl
  | check request => rw [ofRequest, ofRequest, process_congr same]
  | generate request directory => simp only [ofRequest, process_congr same]

end Files

section Turns

/-- The runs of those inputs that are declaration sets. -/
def runs (read : String → Except FileError String) (paths : List String) :
    List Pipeline.Action :=
  paths.filterMap fun path =>
    (declarations read path).toOption.map fun set => Pipeline.Action.run set .live

/-- What an input comes to in its turn, after the earlier inputs went through the pipeline. -/
def outcome (read : String → Except FileError String) (pipeline : Pipeline)
    (earlier : List String) (path : String) : Except Problem RunOutput := do
  let set ← declarations read path
  ((pipeline.performAll (runs read earlier)).run set .live).1.mapError (.run path)

theorem outcome_eq_ok_iff {earlier : List String} {path : String} {output : RunOutput} :
    outcome read pipeline earlier path = .ok output ↔
      ∃ set, declarations read path = .ok set ∧
        ((pipeline.performAll (runs read earlier)).run set .live).1 = .ok output := by
  simp only [outcome, bind_eq_ok_iff, mapError_eq_ok_iff]

theorem outcome_eq_error_iff {earlier : List String} {path : String} :
    outcome read pipeline earlier path = .error problem ↔
      declarations read path = .error problem ∨
        ∃ set, declarations read path = .ok set ∧
          ∃ error, ((pipeline.performAll (runs read earlier)).run set .live).1 = .error error ∧
            .run path error = problem := by
  simp only [outcome, bind_eq_error_iff, mapError_eq_error_iff]

theorem outcome_cons (path : String) (earlier : List String) (other : String) :
    outcome read pipeline (path :: earlier) other =
      outcome read (pipeline.performAll (runs read [path])) earlier other := by
  have split : pipeline.performAll (runs read (path :: earlier)) =
      (pipeline.performAll (runs read [path])).performAll (runs read earlier) := by
    rw [Pipeline.performAll, runs, ← List.singleton_append, List.filterMap_append,
      List.foldl_append]
    rfl
  rw [outcome, split, outcome]

/-- The first input comes first, and the others go through the pipeline that it leaves. -/
theorem processAll_cons (path : String) (paths : List String) :
    processAll read pipeline (path :: paths) =
      match outcome read pipeline [] path with
      | .error problem => .error problem
      | .ok output =>
          (processAll read (pipeline.performAll (runs read [path])) paths).map
            (⟨path, output⟩ :: ·) := by
  rw [processAll, outcome]
  cases declared : declarations read path with
  | error problem => rfl
  | ok set =>
      have after : pipeline.performAll (runs read [path]) = (pipeline.run set .live).2 := by
        simp [runs, declared, Except.toOption, Pipeline.performAll, Pipeline.perform]
      have first : pipeline.performAll (runs read []) = pipeline := rfl
      rw [after, first]
      simp only [bind, Except.bind]
      generalize pipeline.run set .live = result
      rcases result with ⟨error | output, next⟩
      · rfl
      · simp only [Except.mapError]
        cases processAll read next paths <;> rfl

theorem processAll_cons_eq_ok_iff {path : String} {paths : List String}
    {processed : List Processed} :
    processAll read pipeline (path :: paths) = .ok processed ↔
      ∃ output others, processed = ⟨path, output⟩ :: others ∧
        outcome read pipeline [] path = .ok output ∧
        processAll read (pipeline.performAll (runs read [path])) paths = .ok others := by
  rw [processAll_cons]
  cases outcome read pipeline [] path with
  | error problem => simp
  | ok output =>
      cases processAll read (pipeline.performAll (runs read [path])) paths <;>
        simp [Except.map, eq_comm]

theorem processAll_cons_eq_error_iff {path : String} {paths : List String} :
    processAll read pipeline (path :: paths) = .error problem ↔
      outcome read pipeline [] path = .error problem ∨
        (∃ output, outcome read pipeline [] path = .ok output) ∧
          processAll read (pipeline.performAll (runs read [path])) paths = .error problem := by
  rw [processAll_cons]
  cases outcome read pipeline [] path with
  | error problem => simp
  | ok output =>
      cases processAll read (pipeline.performAll (runs read [path])) paths <;> simp [Except.map]

/-- All inputs are processed exactly when each of them is in its turn. -/
theorem processAll_eq_ok_iff {processed : List Processed} (paths : List String) :
    processAll read pipeline paths = .ok processed ↔
      processed.map (·.path) = paths ∧
        ∀ earlier input later, processed = earlier ++ input :: later →
          outcome read pipeline (earlier.map (·.path)) input.path = .ok input.output := by
  induction paths generalizing pipeline processed with
  | nil =>
      constructor
      · rintro ⟨⟩
        simp
      · rintro ⟨none, -⟩
        rw [List.map_eq_nil_iff.mp none]
        rfl
  | cons path paths ih =>
      rw [processAll_cons_eq_ok_iff]
      constructor
      · rintro ⟨output, others, rfl, own, rest⟩
        rcases ih.mp rest with ⟨same, turns⟩
        refine ⟨by simp [same], ?_⟩
        -- Nothing comes before the first input, and the first input comes before all others.
        intro earlier input later place
        rcases List.cons_eq_append_iff.mp place with ⟨rfl, here⟩ | ⟨before, rfl, there⟩
        · rcases List.cons.inj here with ⟨rfl, -⟩
          exact own
        · rw [List.map_cons, outcome_cons]
          exact turns before input later there
      · rintro ⟨same, turns⟩
        rcases List.map_eq_cons_iff.mp same with ⟨input, others, rfl, rfl, others_eq⟩
        refine ⟨input.output, others, rfl, turns [] input others rfl, ih.mpr ⟨others_eq, ?_⟩⟩
        intro earlier other later place
        rw [← outcome_cons]
        exact turns (input :: earlier) other later (by rw [place]; rfl)

/-- The problem of a list of inputs is the one of the first input that has one. -/
theorem exists_of_processAll_eq_error {paths : List String}
    (fails : processAll read pipeline paths = .error problem) :
    ∃ earlier path later, paths = earlier ++ path :: later ∧
      outcome read pipeline earlier path = .error problem := by
  induction paths generalizing pipeline with
  | nil => cases fails
  | cons path paths ih =>
      rcases processAll_cons_eq_error_iff.mp fails with own | ⟨-, rest⟩
      · exact ⟨[], path, paths, rfl, own⟩
      · rcases ih rest with ⟨earlier, other, later, rfl, turn⟩
        exact ⟨path :: earlier, other, later, rfl, by rw [outcome_cons]; exact turn⟩

/-- When all inputs are processed, each of them came to something in its turn. -/
theorem outcome_of_processAll {paths earlier later : List String} {path : String}
    {processed : List Processed} (all : processAll read pipeline paths = .ok processed)
    (place : paths = earlier ++ path :: later) :
    ∃ output, outcome read pipeline earlier path = .ok output := by
  rcases (processAll_eq_ok_iff paths).mp all with ⟨same, turns⟩
  rw [place] at same
  rcases List.map_eq_append_iff.mp same with ⟨before, rest, rfl, rfl, rest_eq⟩
  rcases List.map_eq_cons_iff.mp rest_eq with ⟨input, others, rfl, rfl, -⟩
  exact ⟨input.output, turns before input others rfl⟩

end Turns

section Refusal

/-- The ways to refuse a request to generate. -/
inductive Refused (read : String → Except FileError String) (request : InputRequest) : Prop where
  /-- Two inputs have one name. -/
  | sameOutput (repeated : ¬ (request.inputs.map OutputName.ofInput).Nodup)
  /-- The configuration cannot be read or is not accepted. -/
  | configuration {problem : Problem}
      (rejected : configuration read request.configuration = .error problem)
  /-- An input cannot be read. -/
  | unreadable {path : String} {error : FileError} (member : path ∈ request.inputs)
      (fails : read path = .error error)
  /-- The text of an input is not a declaration set. -/
  | undecoded {path text : String} (member : path ∈ request.inputs) (reads : read path = .ok text)
      (fails : DeclarationSet.ofText? (inputFormat path) text = none)
  /-- The run of an input returns an error in its turn. -/
  | failing {settings : Configuration} {earlier later : List String} {path : String}
      {set : DeclarationSet} {error : RunError}
      (configured : configuration read request.configuration = .ok settings)
      (place : request.inputs = earlier ++ path :: later)
      (declared : declarations read path = .ok set)
      (fails : (((Pipeline.ofConfiguration settings).performAll (runs read earlier)).run set
        .live).1 = .error error)

variable {request : InputRequest} {directory : String}

/-- There is a plan to generate when the names differ, the configuration is accepted and all inputs
are processed. -/
theorem ofRequest_generate_eq_ok_iff {plan : Plan} :
    ofRequest read (.generate request directory) = .ok plan ↔
      (request.inputs.map OutputName.ofInput).Nodup ∧
        ∃ settings, configuration read request.configuration = .ok settings ∧
          ∃ processed,
            processAll read (.ofConfiguration settings) request.inputs = .ok processed ∧
              plan = .generate (generation processed (request.inputs.map OutputName.ofInput)
                directory request.format) := by
  simp only [ofRequest, process, bind_eq_ok_iff, mapError_eq_ok_iff,
    OutputName.names_eq_ok_iff, pure, Except.pure, Except.ok.injEq]
  constructor
  · rintro ⟨names, ⟨rfl, distinct⟩, processed, ⟨settings, configured, all⟩, rfl⟩
    exact ⟨distinct, settings, configured, processed, all, rfl⟩
  · rintro ⟨distinct, settings, configured, processed, all, rfl⟩
    exact ⟨_, ⟨rfl, distinct⟩, processed, ⟨settings, configured, all⟩, rfl⟩

/-- Otherwise the problem is a name that repeats, one of the configuration, or the one of the first
input that has one. -/
theorem ofRequest_generate_eq_error
    (fails : ofRequest read (.generate request directory) = .error problem) :
    (∃ name, ¬ (request.inputs.map OutputName.ofInput).Nodup ∧ problem = .sameOutput name) ∨
      configuration read request.configuration = .error problem ∨
      ∃ settings, configuration read request.configuration = .ok settings ∧
        ∃ earlier path later, request.inputs = earlier ++ path :: later ∧
          outcome read (.ofConfiguration settings) earlier path = .error problem := by
  simp only [ofRequest, process, bind_eq_error_iff, mapError_eq_error_iff, pure, Except.pure,
    reduceCtorEq, and_false, exists_false, or_false] at fails
  rcases fails with ⟨name, repeats, rfl⟩ | ⟨names, -, rejected | ⟨settings, configured, stops⟩⟩
  · left
    refine ⟨name, ?_, rfl⟩
    intro distinct
    rw [(OutputName.names_eq_ok_iff _).mpr ⟨rfl, distinct⟩] at repeats
    cases repeats
  · exact .inr (.inl rejected)
  · exact .inr (.inr ⟨settings, configured, exists_of_processAll_eq_error stops⟩)

/-- A request that is understood and has a problem ends with one. -/
theorem exitCode_of_ofRequest_generate
    (fails : ofRequest read (.generate request directory) = .error problem) :
    problem.exitCode = 1 := by
  rcases ofRequest_generate_eq_error fails with
    ⟨name, -, rfl⟩ | rejected | ⟨settings, -, earlier, path, later, -, turn⟩
  · rfl
  · rcases configuration_eq_error_iff.mp rejected with
      ⟨file, -, ⟨error, -, rfl⟩ | ⟨text, error, -, -, rfl⟩⟩ <;> rfl
  · rcases outcome_eq_error_iff.mp turn with fails | ⟨set, -, error, -, rfl⟩
    · rcases declarations_eq_error_iff.mp fails with ⟨error, -, rfl⟩ | ⟨text, -, -, rfl⟩ <;> rfl
    · rfl

/-- A request with a problem is refused in one of the ways. -/
theorem Refused.of_problem
    (fails : ofRequest read (.generate request directory) = .error problem) :
    Refused read request := by
  rcases ofRequest_generate_eq_error fails with
    ⟨name, repeated, -⟩ | rejected | ⟨settings, configured, earlier, path, later, place, turn⟩
  · exact .sameOutput repeated
  · exact .configuration rejected
  · have member : path ∈ request.inputs := by simp [place]
    rcases outcome_eq_error_iff.mp turn with fails | ⟨set, declared, error, fails, -⟩
    · rcases declarations_eq_error_iff.mp fails with ⟨error, fails, -⟩ | ⟨text, reads, none, -⟩
      · exact .unreadable member fails
      · exact .undecoded member reads none
    · exact .failing configured place declared fails

/-- There is no plan for a request that is refused. -/
theorem Refused.not_planned (refused : Refused read request) (plan : Plan) :
    ofRequest read (.generate request directory) ≠ .ok plan := by
  intro planned
  rcases ofRequest_generate_eq_ok_iff.mp planned with
    ⟨distinct, settings, configured, processed, all, -⟩
  have declared : ∀ path ∈ request.inputs, ∃ text set, read path = .ok text ∧
      DeclarationSet.ofText? (inputFormat path) text = some set := by
    intro path member
    rcases List.append_of_mem member with ⟨earlier, later, place⟩
    rcases outcome_of_processAll all place with ⟨output, turn⟩
    rcases outcome_eq_ok_iff.mp turn with ⟨set, declared, -⟩
    rcases declarations_eq_ok_iff.mp declared with ⟨text, reads, decodes⟩
    exact ⟨text, set, reads, decodes⟩
  cases refused with
  | sameOutput repeated => exact repeated distinct
  | configuration rejected =>
      rw [configured] at rejected
      cases rejected
  | unreadable member fails =>
      rcases declared _ member with ⟨text, set, reads, -⟩
      rw [fails] at reads
      cases reads
  | undecoded member reads fails =>
      rcases declared _ member with ⟨text, set, reads', decodes⟩
      rw [reads] at reads'
      cases reads'
      rw [fails] at decodes
      cases decodes
  | failing configured' place declared fails =>
      rw [configured] at configured'
      cases configured'
      rcases outcome_of_processAll all place with ⟨output, turn⟩
      rcases outcome_eq_ok_iff.mp turn with ⟨set, declared', succeeds⟩
      rw [declared] at declared'
      cases declared'
      rw [fails] at succeeds
      cases succeeds

end Refusal

end Plan

end CommandLine

end OptionCompiler
