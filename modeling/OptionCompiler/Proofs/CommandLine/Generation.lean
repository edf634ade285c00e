import OptionCompiler.CommandLine.Run
import OptionCompiler.Proofs.CommandLine.Processing
import OptionCompiler.Proofs.FileTree
/-!
# To generate is all or nothing

A request that is refused leaves the file tree as it was: every problem with a name, the
configuration or an input is noticed before anything is made or written. A request that is not
refused, on a tree that takes its outputs, leaves the source of every input in a file of its own.

The outputs stay apart because they are in one directory under different names, so they are at
different places and no write touches a file that another has written.
-/

namespace OptionCompiler

namespace CommandLine

section Actions

theorem run_bind {α β : Type} (act : StateM FileTree α) (next : α → StateM FileTree β)
    (tree : FileTree) :
    (act >>= next).run tree = (next (act.run tree).1).run (act.run tree).2 :=
  rfl

theorem run_read (path : String) (tree : FileTree) :
    (FileActions.read path : StateM FileTree _).run tree = (tree.read path, tree) :=
  rfl

/-- Reading files leaves a tree as it is. -/
theorem run_readAll (paths : List String) (tree : FileTree) :
    (readAll paths : StateM FileTree _).run tree =
      (paths.map fun path => (path, tree.read path), tree) := by
  induction paths with
  | nil => rfl
  | cons path paths ih =>
      simp only [readAll, run_bind, run_read, ih]
      rfl

theorem readFrom_map {paths : List String} {path : String}
    (read : String → Except FileError String) (member : path ∈ paths) :
    readFrom (paths.map fun path => (path, read path)) path = read path := by
  unfold readFrom
  induction paths with
  | nil => cases member
  | cons other paths ih =>
      rw [List.map_cons, List.lookup_cons]
      by_cases same : path = other
      · simp [same]
      · rw [beq_eq_false_iff_ne.mpr same]
        exact ih (List.mem_of_ne_of_mem same member)

theorem run_writeAll_cons (path text : String) (files : List (String × String))
    (tree : FileTree) :
    (writeAll ((path, text) :: files) : StateM FileTree _).run tree =
      match tree.write path text with
      | .ok after => (writeAll files : StateM FileTree _).run after
      | .error error => (.error (.outputFile path error), tree) := by
  rw [writeAll, run_bind]
  simp only [FileActions.write, FileTree.action, StateT.run]
  cases tree.write path text <;> rfl

theorem run_perform (generation : Generation) (tree : FileTree) :
    (generation.perform : StateM FileTree _).run tree =
      match tree.makeDirectories generation.directory with
      | .error error => (.error (.outputDirectory generation.directory error), tree)
      | .ok made =>
          let written := (writeAll generation.files : StateM FileTree _).run made
          (written.1.map fun () => generation.ending, written.2) := by
  rw [Generation.perform, run_bind]
  simp only [FileActions.makeDirectories, FileTree.action, StateT.run]
  cases tree.makeDirectories generation.directory <;> rfl

/-- On a tree the program carries out the plan for what the tree holds. -/
theorem run_eq (arguments : List String) (tree : FileTree) :
    run arguments tree =
      match Plan.ofArguments tree.read arguments with
      | .error problem => (.error problem, tree)
      | .ok plan => (plan.perform : StateM FileTree _).run tree := by
  have planned : Plan.ofArguments
      (readFrom ((((request? arguments).map Plan.filesRead).getD []).map fun path =>
        (path, tree.read path))) arguments = Plan.ofArguments tree.read arguments := by
    unfold Plan.ofArguments
    cases request? arguments with
    | none => rfl
    | some request => exact Plan.ofRequest_congr fun path member => readFrom_map tree.read member
  simp only [run, respond, run_bind, run_readAll, planned]
  cases Plan.ofArguments tree.read arguments <;> rfl

end Actions

section Writing

variable {tree after : FileTree} {files : List (String × String)}

/-- A tree in which files are written: they read back, and at all other places nothing changed. -/
structure Written (before : FileTree) (files : List (String × String)) (after : FileTree) :
    Prop where
  directories : before.SameDirectories after
  reads : ∀ file ∈ files, after.read file.1 = .ok file.2
  others : ∀ place, (∀ file ∈ files, before.locate file.1 ≠ .ok place) →
    after.node? place = before.node? place

/-- One file is written before the others, which are at other places. -/
theorem Written.cons {place : Place} {path text : String} (located : tree.locate path = .ok place)
    (free : tree.node? place ≠ some .directory)
    (writable : ∀ file ∈ files, tree.IsWritable file.1)
    (elsewhere : ∀ file ∈ files, tree.locate file.1 ≠ .ok place)
    (rest : Written (tree.put place (.file text)) files after) :
    Written tree ((path, text) :: files) after := by
  have inner := FileTree.ne_nil_of_node?_ne free
  have same := FileTree.sameDirectories_put free text
  -- A write keeps the directories, so the other files are where they would have been.
  have kept : ∀ file ∈ files,
      (tree.put place (.file text)).locate file.1 = tree.locate file.1 :=
    fun file member => (writable file member).locate_eq same
  have directories : tree.SameDirectories after :=
    fun there => (same there).trans (rest.directories there)
  have held : after.node? place = some (.file text) := by
    rw [rest.others place fun file member => kept file member ▸ elsewhere file member,
      FileTree.node?_put tree inner, if_pos rfl]
  refine ⟨directories, ?_, ?_⟩
  · intro file member
    rcases List.mem_cons.mp member with rfl | later
    · exact FileTree.read_eq_ok_iff.mpr ⟨place,
        (FileTree.locate_eq_ok_iff_of_sameDirectories directories path).mp located, held⟩
    · exact rest.reads file later
  · intro there apart
    have moved : there ≠ place := by
      rintro rfl
      exact apart (path, text) (by simp) located
    rw [rest.others there, FileTree.node?_put tree inner, if_neg moved]
    intro file member
    rw [kept file member]
    exact apart file (List.mem_cons_of_mem _ member)

/-- Files that can be written to different places are all written. -/
theorem writeAll_spec (writable : ∀ file ∈ files, tree.IsWritable file.1)
    (apart : (files.map fun file => tree.locate file.1).Nodup) :
    ∃ after, (writeAll files : StateM FileTree _).run tree = (.ok (), after) ∧
      Written tree files after := by
  induction files generalizing tree with
  | nil => exact ⟨tree, rfl, fun _ => Iff.rfl, by simp, fun _ _ => rfl⟩
  | cons file files ih =>
      rcases file with ⟨path, text⟩
      rcases FileTree.isWritable_iff.mp (writable (path, text) (by simp)) with
        ⟨place, located, free⟩
      have later : ∀ file ∈ files, tree.IsWritable file.1 :=
        fun file member => writable file (List.mem_cons_of_mem _ member)
      have same := FileTree.sameDirectories_put free text
      rw [List.map_cons, List.nodup_cons] at apart
      have elsewhere : ∀ file ∈ files, tree.locate file.1 ≠ .ok place := by
        intro file member same
        exact apart.1 (List.mem_map.mpr ⟨file, member, same.trans located.symm⟩)
      have writable' : ∀ file ∈ files, (tree.put place (.file text)).IsWritable file.1 :=
        fun file member => (later file member).of_sameDirectories same
      have apart' :
          (files.map fun file => (tree.put place (.file text)).locate file.1).Nodup := by
        rw [List.map_congr_left fun file member => (later file member).locate_eq same]
        exact apart.2
      rcases ih writable' apart' with ⟨after, writes, rest⟩
      refine ⟨after, ?_, .cons located free later elsewhere rest⟩
      rw [run_writeAll_cons, FileTree.write_eq_ok_iff.mpr ⟨place, located, free, rfl⟩]
      exact writes

end Writing

section Outputs

/-- The path of the output of an input. -/
def outputPath (directory path : String) : String :=
  Path.join directory (OutputName.ofInput path ++ ".rs")

/-- The files of a generation are the sources of its inputs, each with a path of its own. -/
theorem files_generation (processed : List Processed) (directory : String)
    (format : ReportFormat) :
    (Plan.generation processed (processed.map fun input => OutputName.ofInput input.path)
      directory format).files =
      processed.map fun input => (outputPath directory input.path, input.output.source) := by
  simp only [Plan.generation, List.map_map, List.zip_map']
  rfl

/-- Outputs with different names are at different places. -/
theorem locate_outputPath_ne {tree : FileTree} {directory path other : String} {place : Place}
    (different : OutputName.ofInput path ≠ OutputName.ofInput other)
    (located : tree.locate (outputPath directory path) = .ok place) :
    tree.locate (outputPath directory other) ≠ .ok place := by
  intro located'
  rcases FileTree.locate_join (OutputName.isName_file path) (OutputName.file_ne_dots path)
    located with ⟨around, leads, rfl⟩
  rcases FileTree.locate_join (OutputName.isName_file other) (OutputName.file_ne_dots other)
    located' with ⟨around', leads', same⟩
  exact different (String.append_left_inj ".rs" |>.mp (List.cons.inj same).1)

/-- The outputs of inputs with different names are at different places. -/
theorem nodup_locate_outputPath {tree : FileTree} {directory : String} {paths : List String}
    (distinct : (paths.map OutputName.ofInput).Nodup)
    (writable : ∀ path ∈ paths, tree.IsWritable (outputPath directory path)) :
    (paths.map fun path => tree.locate (outputPath directory path)).Nodup := by
  rw [List.Nodup, List.pairwise_map] at distinct ⊢
  refine distinct.imp_of_mem ?_
  intro path other member _ different same
  rcases FileTree.isWritable_iff.mp (writable path member) with ⟨place, located, -⟩
  exact locate_outputPath_ne different located (same.symm.trans located)

end Outputs

section Generation

variable {tree made : FileTree} {request : InputRequest} {directory : String}

/-- What is left of a request to generate when the output directory is made: the source that the run
of each input returned, in a file of its own, and no other change. -/
structure Generated (before made : FileTree) (request : InputRequest) (directory : String)
    (processed : List Processed) (ending : Ending) (after : FileTree) : Prop where
  paths_eq : processed.map (·.path) = request.inputs
  returned : ∃ settings, Plan.configuration before.read request.configuration = .ok settings ∧
    ∀ earlier input later, processed = earlier ++ input :: later →
      Plan.outcome before.read (.ofConfiguration settings) (earlier.map (·.path)) input.path =
        .ok input.output
  reads : ∀ input ∈ processed,
    after.read (outputPath directory input.path) = .ok input.output.source
  apart : (processed.map fun input => after.locate (outputPath directory input.path)).Nodup
  others : ∀ place,
    (∀ input ∈ processed, after.locate (outputPath directory input.path) ≠ .ok place) →
      ∀ text, after.node? place = some (.file text) ↔ before.node? place = some (.file text)
  directories : made.SameDirectories after
  exitCode_eq : ending.exitCode =
    if ∃ input ∈ processed, ∃ diagnostic ∈ input.output.validation.diagnostics,
      diagnostic.severity = .error then 2 else 0

/-- The program ends with two when a diagnostic of an input has the severity of errors, and with
zero when none has. -/
theorem exitCode_eq (processed : List Processed) :
    Plan.exitCode processed =
      if ∃ input ∈ processed, ∃ diagnostic ∈ input.output.validation.diagnostics,
        diagnostic.severity = .error then 2 else 0 := by
  unfold Plan.exitCode
  refine if_congr ?_ rfl rfl
  simp [Plan.hasErrors, Validation.hasErrors, Diagnostic.isError]

/-- A generation whose directory is made and whose files can be written there is carried out. -/
theorem perform_generation {processed : List Processed} {settings : Configuration}
    (distinct : (request.inputs.map OutputName.ofInput).Nodup)
    (configured : Plan.configuration tree.read request.configuration = .ok settings)
    (all : Plan.processAll tree.read (.ofConfiguration settings) request.inputs = .ok processed)
    (makes : tree.makeDirectories directory = .ok made)
    (writable : ∀ path ∈ request.inputs, made.IsWritable (outputPath directory path)) :
    ∃ ending after,
      ((Plan.generation processed (request.inputs.map OutputName.ofInput) directory
        request.format).perform : StateM FileTree _).run tree = (.ok ending, after) ∧
      Generated tree made request directory processed ending after := by
  rcases (Plan.processAll_eq_ok_iff _).mp all with ⟨paths_eq, turns⟩
  have names_eq : request.inputs.map OutputName.ofInput =
      processed.map fun input => OutputName.ofInput input.path := by
    rw [← paths_eq, List.map_map, Function.comp_def]
  have files_eq := files_generation processed directory request.format
  have each : ∀ input ∈ processed, made.IsWritable (outputPath directory input.path) := by
    intro input member
    apply writable
    rw [← paths_eq]
    exact List.mem_map_of_mem member
  have located : (processed.map fun input =>
      made.locate (outputPath directory input.path)).Nodup := by
    have nodup := nodup_locate_outputPath distinct writable
    rwa [← paths_eq, List.map_map] at nodup
  have taken : ∀ file ∈ processed.map fun input =>
      (outputPath directory input.path, input.output.source), made.IsWritable file.1 := by
    simpa using each
  rcases writeAll_spec taken (by rw [List.map_map]; exact located) with
    ⟨after, writes, written⟩
  have kept : ∀ input ∈ processed, after.locate (outputPath directory input.path) =
      made.locate (outputPath directory input.path) :=
    fun input member => (each input member).locate_eq written.directories
  rw [names_eq]
  refine ⟨(Plan.generation processed (processed.map fun input => OutputName.ofInput input.path)
    directory request.format).ending, after, ?_, paths_eq, ⟨settings, configured, turns⟩, ?_, ?_,
    ?_, written.directories, exitCode_eq processed⟩
  · rw [run_perform, files_eq]
    simp only [Plan.generation, makes, writes]
    rfl
  · intro input member
    exact written.reads (outputPath directory input.path, input.output.source)
      (List.mem_map.mpr ⟨input, member, rfl⟩)
  · rw [List.map_congr_left kept]
    exact located
  · intro place elsewhere text
    have same : after.node? place = made.node? place := by
      apply written.others
      intro file member
      rcases List.mem_map.mp member with ⟨input, inside, rfl⟩
      rw [← kept input inside]
      exact elsewhere input inside
    rw [same]
    exact (FileTree.addsDirectories_makeDirectories makes).file_iff place text

/-- A request to generate that is refused changes nothing and ends with one; any other writes the
source of every input, when the output directory is made and files can be written there. -/
theorem generate_all_or_nothing (tree : FileTree) (arguments : List String)
    (request : InputRequest) (directory : String)
    (asked : request? arguments = some (.generate request directory)) :
    (Plan.Refused tree.read request →
      ∃ problem, run arguments tree = (.error problem, tree) ∧ problem.exitCode = 1) ∧
    (¬ Plan.Refused tree.read request → ∀ made, tree.makeDirectories directory = .ok made →
      (∀ path ∈ request.inputs, made.IsWritable (outputPath directory path)) →
      ∃ processed ending after, run arguments tree = (.ok ending, after) ∧
        Generated tree made request directory processed ending after) := by
  have planned : Plan.ofArguments tree.read arguments =
      Plan.ofRequest tree.read (.generate request directory) := by
    rw [Plan.ofArguments, asked]
  constructor
  · intro refused
    cases made : Plan.ofRequest tree.read (.generate request directory) with
    | ok plan => exact absurd made (refused.not_planned plan)
    | error problem =>
        refine ⟨problem, ?_, Plan.exitCode_of_ofRequest_generate made⟩
        rw [run_eq, planned, made]
  · intro accepted made makes writable
    cases plan_eq : Plan.ofRequest tree.read (.generate request directory) with
    | error problem => exact absurd (Plan.Refused.of_problem plan_eq) accepted
    | ok plan =>
        rcases Plan.ofRequest_generate_eq_ok_iff.mp plan_eq with
          ⟨distinct, settings, configured, processed, all, rfl⟩
        rcases perform_generation distinct configured all makes writable with
          ⟨ending, after, performs, generated⟩
        refine ⟨processed, ending, after, ?_, generated⟩
        rw [run_eq, planned, plan_eq]
        exact performs

/-- The text of a set with one command, which has no options. -/
def plainText (name : String) : String :=
  "declarations:\n- name: " ++ name ++ "\n  annotations:\n  - name: command\n"

/-- Two declaration sets in the working directory. -/
def plainTree : FileTree :=
  (FileTree.empty.put ["A b.yaml", "."] (.file (plainText "First"))).put ["c.yml", "."]
    (.file (plainText "Second"))

/-- A request for the outputs of both. -/
def plainRequest : InputRequest :=
  ⟨["A b.yaml", "c.yml"], none, none, .human⟩

/-- One request is refused, as its inputs have one name. Another is carried out, and its outputs
are kept apart. -/
theorem generate_all_or_nothing_plainTree :
    (∃ problem, run ["generate", "--out-dir", "out", "A b.yaml", "b/a-B.yaml"] plainTree =
      (.error problem, plainTree) ∧ problem.exitCode = 1) ∧
    ∃ first second ending after,
      run ["generate", "--out-dir", "out", "A b.yaml", "c.yml"] plainTree = (.ok ending, after) ∧
        Generated plainTree (plainTree.put ["out", "."] .directory) plainRequest "out"
          [first, second] ending after ∧
        after.read "out/a_b.rs" = .ok first.output.source ∧
        after.read "out/c.rs" = .ok second.output.source ∧
        after.locate "out/a_b.rs" ≠ after.locate "out/c.rs" := by
  constructor
  · refine (generate_all_or_nothing plainTree _
      ⟨["A b.yaml", "b/a-B.yaml"], none, none, .human⟩ "out" (by decide +kernel)).1 ?_
    exact .sameOutput (by decide +kernel)
  · have accepted : ¬ Plan.Refused plainTree.read plainRequest := by
      intro refused
      have planned :
          (Plan.ofRequest plainTree.read (.generate plainRequest "out")).isOk = true := by
        decide +kernel
      rcases exists_ok_of_isOk planned with ⟨plan, made⟩
      exact refused.not_planned plan made
    have writable : ∀ path ∈ plainRequest.inputs,
        (plainTree.put ["out", "."] .directory).IsWritable (outputPath "out" path) := by
      simp only [plainRequest, List.forall_mem_cons, FileTree.isWritable_iff]
      exact ⟨⟨["a_b.rs", "out", "."], by decide +kernel, by decide +kernel⟩,
        ⟨["c.rs", "out", "."], by decide +kernel, by decide +kernel⟩, by simp⟩
    have outputs : outputPath "out" "A b.yaml" = "out/a_b.rs" ∧
        outputPath "out" "c.yml" = "out/c.rs" := by decide +kernel
    rcases (generate_all_or_nothing plainTree ["generate", "--out-dir", "out", "A b.yaml", "c.yml"]
        plainRequest "out" (by decide +kernel)).2 accepted _ (by decide +kernel) writable with
      ⟨processed, ending, after, runs, generated⟩
    rcases List.map_eq_cons_iff.mp generated.paths_eq with ⟨first, others, rfl, path, rest⟩
    rcases List.map_eq_singleton_iff.mp rest with ⟨second, rfl, path'⟩
    have read := generated.reads first (by simp)
    have read' := generated.reads second (by simp)
    have apart := generated.apart
    simp only [path, path', outputs, List.map_cons, List.map_nil, List.nodup_cons,
      List.mem_singleton] at read read' apart
    exact ⟨first, second, ending, after, runs, generated, read, read', apart.1⟩

end Generation

end CommandLine

end OptionCompiler
