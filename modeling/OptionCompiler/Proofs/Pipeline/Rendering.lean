import Mathlib
import OptionCompiler.Proofs.Pipeline.Repetition
/-!
# Commands that are rendered again

The fragment of a command is asked for under a key that is made from the command and the blocked
members of its type. While some commands are rendered, each of these keys without a fragment is
computed once and every other request is a hit, so the counts grow by the number of such keys.

A fragment is in the cache exactly if a run has put it there since the last clear, be it a run
whose emission failed at a later command. As long as no two of the hashed messages have one
digest, a key tells its command and blocked members, and so the keys without a fragment are as
many as the inputs that no such run has rendered.
-/

namespace OptionCompiler

namespace StageCache

section Counts

variable {α : Type}

/-- The counts after some fetches without a failure, of which some were computed. -/
structure Counts (cache after : StageCache α) (fetches computed : Nat) : Prop where
  misses_eq : after.misses = cache.misses + computed
  hits_eq : after.hits + computed = cache.hits + fetches
  size_eq : after.size = cache.size + computed

/-- The keys without a result. -/
def missing (cache : StageCache α) (keys : List Fingerprint) : Finset Fingerprint :=
  keys.toFinset.filter fun key => (cache.get? key).isNone

variable {cache middle after : StageCache α} {key : Fingerprint} {keys : List Fingerprint}
  {computed : Except RunError α} {value : α} {status : CacheStatus}

theorem Counts.trans {fetches fetches' count count' : Nat}
    (first : cache.Counts middle fetches count) (second : middle.Counts after fetches' count') :
    cache.Counts after (fetches + fetches') (count + count') := by
  rcases first with ⟨misses, hits, size⟩
  rcases second with ⟨misses', hits', size'⟩
  constructor <;> omega

theorem mem_missing : key ∈ cache.missing keys ↔ key ∈ keys ∧ cache.get? key = none := by
  simp [missing]

/-- Different items are missing under different keys. -/
theorem card_missing {ι : Type} [DecidableEq ι] {items : List ι} {keyOf : ι → Fingerprint}
    (separate : ∀ item ∈ items, ∀ other ∈ items, keyOf item = keyOf other → item = other) :
    (cache.missing (items.map keyOf)).card =
      (items.toFinset.filter fun item => (cache.get? (keyOf item)).isNone).card := by
  have image : cache.missing (items.map keyOf) =
      (items.toFinset.filter fun item => (cache.get? (keyOf item)).isNone).image keyOf := by
    ext key
    simp only [mem_missing, List.mem_map, Finset.mem_image, Finset.mem_filter, List.mem_toFinset,
      Option.isNone_iff_eq_none]
    constructor
    · rintro ⟨⟨item, member, rfl⟩, absent⟩
      exact ⟨item, ⟨member, absent⟩, rfl⟩
    · rintro ⟨item, ⟨member, absent⟩, rfl⟩
      exact ⟨⟨item, member, rfl⟩, absent⟩
  rw [image, Finset.card_image_of_injOn]
  intro item member other member'
  apply separate
  · simpa using (Finset.mem_filter.mp member).1
  · simpa using (Finset.mem_filter.mp member').1

theorem counts_hit (cache : StageCache α) : cache.Counts cache.hit 1 0 := by
  constructor <;> simp [hit, size]

theorem counts_store (cache : StageCache α) (key : Fingerprint) (value : α) :
    cache.Counts (cache.miss.store key value) 1 1 := by
  constructor <;> simp [miss, store, size]

/-- A fetch computes its key if it is missing, and then the key is missing no longer. -/
theorem Fetched.counts (fetched : cache.Fetched key computed (.ok (value, status)) middle)
    {fetches : Nat} (later : middle.Counts after fetches (middle.missing keys).card) :
    cache.Counts after (1 + fetches) (cache.missing (key :: keys)).card := by
  cases fetched with
  | hit _ found =>
      have same : cache.missing (key :: keys) = cache.hit.missing keys := by
        ext other
        simp only [mem_missing, List.mem_cons]
        change _ ↔ other ∈ keys ∧ cache.get? other = none
        constructor
        · rintro ⟨rfl | member, absent⟩
          · simp [found] at absent
          · exact ⟨member, absent⟩
        · rintro ⟨member, absent⟩
          exact ⟨.inr member, absent⟩
      rw [same, ← Nat.zero_add (Finset.card _)]
      exact cache.counts_hit.trans later
  | success _ absent _ =>
      have stored (other : Fingerprint) : (cache.miss.store key value).get? other = none ↔
          cache.get? other = none ∧ other ≠ key := by
        rw [get?_store, Option.or_eq_none_iff]
        change cache.get? other = none ∧ _ ↔ _
        by_cases same : other = key <;> simp [same]
      have fresh : key ∉ (cache.miss.store key value).missing keys := by
        simp [mem_missing, stored]
      have more : cache.missing (key :: keys) =
          insert key ((cache.miss.store key value).missing keys) := by
        ext other
        simp only [mem_missing, List.mem_cons, Finset.mem_insert, stored]
        by_cases same : other = key <;> simp [same, absent]
      rw [more, Finset.card_insert_of_notMem fresh, Nat.add_comm _ 1]
      exact (cache.counts_store key value).trans later

end Counts

end StageCache

namespace Pipeline

section Inputs

/-- What a fragment depends on besides the emit options. -/
structure FragmentInput where
  command : CommandDescriptor
  blocked : BlockedMembers
deriving DecidableEq, Repr

namespace FragmentInput

/-- A command with those of the blocked members that belong to its type. -/
def ofCommand (blocked : BlockedMembers) (command : CommandDescriptor) : FragmentInput :=
  ⟨command, blocked.ofType command.typeName⟩

def key (options : EmitOptions) (input : FragmentInput) : Fingerprint :=
  fragmentKey input.command input.blocked options

/-- The messages that are hashed for the key. -/
def messages (options : EmitOptions) (input : FragmentInput) : List (List UInt8) :=
  keyMessages (fragmentParts input.command input.blocked options)

/-- Under a key stands the fragment of one input only. -/
theorem eq_of_key {messages : List (List UInt8)} (free : Sha256.CollisionFree messages)
    {options : EmitOptions} {input other : FragmentInput}
    (hashed : input.messages options ⊆ messages) (hashed' : other.messages options ⊆ messages)
    (keys : input.key options = other.key options) : input = other := by
  cases input
  cases other
  rcases eq_of_fragmentKey free hashed hashed' keys with ⟨rfl, rfl, _⟩
  rfl

end FragmentInput

end Inputs

section Commands

variable {blocked : BlockedMembers} {options : EmitOptions} {token : Token}
  {command : CommandDescriptor} {commands : List CommandDescriptor}
  {cache after : StageCache String} {input : FragmentInput} {key : Fingerprint}

/-- Rendering computes each key without a fragment once and finds all others. -/
theorem counts_renderAll {texts : List String}
    (renders : renderAll blocked options token commands cache = (.ok texts, after)) :
    cache.Counts after commands.length (cache.missing
      ((commands.map (FragmentInput.ofCommand blocked)).map (FragmentInput.key options))).card := by
  induction commands generalizing cache texts with
  | nil =>
      cases renders
      constructor <;> simp [StageCache.missing]
  | cons command commands ih =>
      rcases renderAll_cons_eq_ok renders with ⟨text, middle, others, first, rest⟩
      rcases fetched_of_fragment first with ⟨status, fetched⟩
      rw [List.length_cons, Nat.add_comm, List.map_cons, List.map_cons]
      exact fetched.counts (ih rest)

/-- While some commands are rendered, the fragment of an input is computed and put into the
cache. -/
inductive Adds (blocked : BlockedMembers) (options : EmitOptions) (token : Token) :
    List CommandDescriptor → StageCache String → FragmentInput → Prop where
  | here {command : CommandDescriptor} {commands : List CommandDescriptor}
      {cache after : StageCache String} {text : String}
      (renders : fragment blocked options token command cache = (.ok text, after))
      (absent : cache.get? ((FragmentInput.ofCommand blocked command).key options) = none) :
      Adds blocked options token (command :: commands) cache (.ofCommand blocked command)
  | later {command : CommandDescriptor} {commands : List CommandDescriptor}
      {cache after : StageCache String} {text : String} {input : FragmentInput}
      (renders : fragment blocked options token command cache = (.ok text, after))
      (adds : Adds blocked options token commands after input) :
      Adds blocked options token (command :: commands) cache input

theorem Adds.found (adds : Adds blocked options token commands cache input) :
    ((renderAll blocked options token commands cache).2.get? (input.key options)).isSome := by
  induction adds with
  | @here command commands cache after text renders absent =>
      rcases fetched_of_fragment renders with ⟨status, fetched⟩
      rw [renderAll_cons_snd renders]
      apply Option.isSome_iff_exists.mpr
      exact ⟨text, renderAll_keeps commands after _ _ fetched.get?_of_ok⟩
  | later renders _ ih => rwa [renderAll_cons_snd renders]

/-- A fragment that is in the cache in the end was there before, or it was computed. -/
theorem adds_of_found
    (present : ((renderAll blocked options token commands cache).2.get? key).isSome) :
    (cache.get? key).isSome ∨
      ∃ input, Adds blocked options token commands cache input ∧ input.key options = key := by
  induction commands generalizing cache with
  | nil => exact .inl present
  | cons command commands ih =>
      rcases renders : fragment blocked options token command cache with ⟨failure | text, after⟩
      · -- A fragment that fails is not stored, and it is the last one.
        simp only [renderAll, renders] at present
        left
        rwa [StageCache.get?, (fragment_fails renders).1] at present
      · rw [renderAll_cons_snd renders] at present
        rcases ih present with old | ⟨input, adds, same⟩
        · rcases fetched_of_fragment renders with ⟨status, fetched⟩
          rcases fetched.isSome_get? old with older | ⟨rfl, _⟩
          · exact .inl older
          · cases older : cache.get? ((FragmentInput.ofCommand blocked command).key options) with
            | some text => exact .inl (Option.isSome_iff_exists.mpr ⟨text, older⟩)
            | none => exact .inr ⟨_, .here renders older, rfl⟩
        · exact .inr ⟨input, .later renders adds, same⟩

theorem renderMessages_of_fragment {text : String}
    (renders : fragment blocked options token command cache = (.ok text, after))
    (commands : List CommandDescriptor) :
    renderMessages blocked options (command :: commands) token cache =
      (FragmentInput.ofCommand blocked command).messages options ++
        renderMessages blocked options commands token after := by
  cases token with
  | cancelled => cases renders
  | live =>
      rw [renderMessages, renders]
      rfl

theorem Adds.messages_subset (adds : Adds blocked options token commands cache input) :
    input.messages options ⊆ renderMessages blocked options commands token cache := by
  induction adds with
  | here renders _ =>
      rw [renderMessages_of_fragment renders]
      exact List.subset_append_left _ _
  | later renders _ ih =>
      rw [renderMessages_of_fragment renders]
      exact List.subset_append_of_subset_right _ ih

theorem messages_subset_of_renderAll {texts : List String}
    (renders : renderAll blocked options token commands cache = (.ok texts, after)) :
    ∀ command ∈ commands, (FragmentInput.ofCommand blocked command).messages options ⊆
      renderMessages blocked options commands token cache := by
  induction commands generalizing cache texts with
  | nil => simp
  | cons command commands ih =>
      rcases renderAll_cons_eq_ok renders with ⟨text, middle, others, first, rest⟩
      rw [renderMessages_of_fragment first, List.forall_mem_cons]
      refine ⟨List.subset_append_left _ _, ?_⟩
      intro later member
      exact List.subset_append_of_subset_right _ (ih rest later member)

end Commands

section Runs

variable {pipeline middle last after : Pipeline} {set : DeclarationSet} {token : Token}
  {extraction : Extraction} {validation : Validation} {extracted validated : CacheStatus}
  {input : FragmentInput} {key : Fingerprint}

/-- A run computes the fragment of an input and puts it into the cache: it gets to the emission,
the source is not in the cache, and the fragment is not either. -/
inductive Renders (pipeline : Pipeline) (set : DeclarationSet) (token : Token)
    (input : FragmentInput) : Prop where
  | intro {extraction : Extraction} {validation : Validation} {extracted validated : CacheStatus}
      {middle last : Pipeline}
      (extracts : pipeline.runExtraction set token = (.ok (extraction, extracted), middle))
      (validates : middle.runValidation set extraction token =
        (.ok (validation, validated), last))
      (absent : last.emission.get? (emissionKey extraction.commands validation.blockedMembers
        pipeline.configuration.emit) = none)
      (adds : Adds validation.blockedMembers pipeline.configuration.emit token
        extraction.commands last.fragments input)

theorem renderAll_of_emitAll {commands : List CommandDescriptor} {blocked : BlockedMembers}
    {options : EmitOptions} {cache : StageCache String} {source : String}
    (succeeds : (emitAll commands blocked options token cache).1 = .ok source) :
    ∃ texts, renderAll blocked options token commands cache =
      (.ok texts, (emitAll commands blocked options token cache).2) := by
  unfold emitAll at succeeds ⊢
  generalize renderAll blocked options token commands cache = outcome at succeeds ⊢
  rcases outcome with ⟨failure | texts, after⟩
  · cases succeeds
  · exact ⟨texts, rfl⟩

/-- The emission leaves the fragments alone if it finds the source, and renders them otherwise. -/
theorem fragments_runEmission (extraction : Extraction) (validation : Validation)
    (token : Token) :
    (pipeline.runEmission extraction validation token).2.fragments =
      if (pipeline.emission.get? (emissionKey extraction.commands validation.blockedMembers
          pipeline.configuration.emit)).isSome then pipeline.fragments
      else (renderAll validation.blockedMembers pipeline.configuration.emit token
        extraction.commands pipeline.fragments).2 := by
  rcases emits : pipeline.runEmission extraction validation token with ⟨result, after⟩
  rcases fetched_runEmission emits with ⟨cache, _, rfl⟩
  rw [emitAll_snd]

/-- A run that gets to the emission ends with it. -/
theorem run_snd
    (extracts : pipeline.runExtraction set token = (.ok (extraction, extracted), middle))
    (validates : middle.runValidation set extraction token = (.ok (validation, validated), last)) :
    (pipeline.run set token).2 = (last.runEmission extraction validation token).2 := by
  simp only [run, extracts, validates]
  rcases last.runEmission extraction validation token with ⟨failure | ⟨source, emitted⟩, after⟩ <;>
    rfl

theorem configuration_of_runValidation {result : Except RunError (Validation × CacheStatus)}
    (extracts : pipeline.runExtraction set token = (.ok (extraction, extracted), middle))
    (validates : middle.runValidation set extraction token = (result, last)) :
    last.configuration = pipeline.configuration :=
  ((keeps_runExtraction extracts).trans (keeps_runValidation validates)).configuration_eq

theorem fragments_of_runValidation {result : Except RunError (Validation × CacheStatus)}
    (extracts : pipeline.runExtraction set token = (.ok (extraction, extracted), middle))
    (validates : middle.runValidation set extraction token = (result, last)) :
    last.fragments = pipeline.fragments := by
  rcases fetched_runExtraction extracts with ⟨_, _, rfl⟩
  rcases fetched_runValidation validates with ⟨_, _, rfl⟩
  rfl

theorem Renders.found (renders : pipeline.Renders set token input) :
    ((pipeline.run set token).2.fragments.get?
      (input.key pipeline.configuration.emit)).isSome := by
  rcases renders with ⟨extracts, validates, absent, adds⟩
  have configured := configuration_of_runValidation extracts validates
  rw [run_snd extracts validates, fragments_runEmission, configured, absent]
  exact adds.found

theorem renders_of_runEmission
    (extracts : pipeline.runExtraction set token = (.ok (extraction, extracted), middle))
    (validates : middle.runValidation set extraction token = (.ok (validation, validated), last))
    (present : ((last.runEmission extraction validation token).2.fragments.get? key).isSome) :
    (pipeline.fragments.get? key).isSome ∨
      ∃ input, pipeline.Renders set token input ∧
        input.key pipeline.configuration.emit = key := by
  have configured := configuration_of_runValidation extracts validates
  rw [fragments_runEmission, configured] at present
  split_ifs at present with found
  · rw [fragments_of_runValidation extracts validates] at present
    exact .inl present
  · rcases adds_of_found present with old | ⟨input, adds, same⟩
    · rw [fragments_of_runValidation extracts validates] at old
      exact .inl old
    · exact .inr ⟨input, .intro extracts validates (by simpa using found) adds, same⟩

/-- A fragment that is in the cache after a run was there before it, or the run rendered it. -/
theorem renders_of_found
    (present : ((pipeline.run set token).2.fragments.get? key).isSome) :
    (pipeline.fragments.get? key).isSome ∨
      ∃ input, pipeline.Renders set token input ∧
        input.key pipeline.configuration.emit = key := by
  rcases runs : pipeline.run set token with ⟨result, after⟩
  rw [runs] at present
  cases course_of_run runs with
  | extractionFails extracts =>
      rcases fetched_runExtraction extracts with ⟨_, _, rfl⟩
      exact .inl present
  | validationFails extracts validates =>
      rw [fragments_of_runValidation extracts validates] at present
      exact .inl present
  | emissionFails extracts validates emits =>
      apply renders_of_runEmission extracts validates
      rwa [emits]
  | completes extracts validates emits =>
      apply renders_of_runEmission extracts validates
      rwa [emits]

theorem renderMessages_subset_runMessages
    (extracts : pipeline.runExtraction set token = (.ok (extraction, extracted), middle))
    (validates : middle.runValidation set extraction token = (.ok (validation, validated), last))
    (absent : last.emission.get? (emissionKey extraction.commands validation.blockedMembers
      pipeline.configuration.emit) = none) :
    renderMessages validation.blockedMembers pipeline.configuration.emit extraction.commands
      token last.fragments ⊆ runMessages pipeline set token := by
  have configured := configuration_of_runValidation extracts validates
  intro message member
  simp only [runMessages, extracts, validates, emissionMessages, configured, absent]
  simp [member]

variable {output : RunOutput}

/-- A run that computes its source renders all commands. -/
theorem renderAll_of_run (runs : pipeline.run set token = (.ok output, after))
    (computed : output.report.emission = .computed) :
    (∃ texts, renderAll output.validation.blockedMembers pipeline.configuration.emit token
      output.extraction.commands pipeline.fragments = (.ok texts, after.fragments)) ∧
      renderMessages output.validation.blockedMembers pipeline.configuration.emit
        output.extraction.commands token pipeline.fragments ⊆ runMessages pipeline set token := by
  cases course_of_run runs with
  | completes extracts validates emits =>
      have fragments := fragments_of_runValidation extracts validates
      have configured := configuration_of_runValidation extracts validates
      rcases fetched_runEmission emits with ⟨cache, fetched, rfl⟩
      cases fetched with
      | hit _ _ => cases computed
      | success _ absent succeeds =>
          rw [configured] at absent succeeds
          have subset := renderMessages_subset_runMessages extracts validates absent
          rw [fragments] at subset
          refine ⟨?_, subset⟩
          simp only [configured, absent, fragments] at succeeds ⊢
          exact renderAll_of_emitAll succeeds

/-- A run that finds its source leaves the fragments alone. -/
theorem fragments_of_cached (runs : pipeline.run set token = (.ok output, after))
    (cached : output.report.emission = .cached) : after.fragments = pipeline.fragments := by
  cases course_of_run runs with
  | completes extracts validates emits =>
      rcases fetched_runEmission emits with ⟨cache, fetched, rfl⟩
      cases fetched with
      | hit _ found =>
          simp only [found]
          exact fragments_of_runValidation extracts validates
      | success _ _ _ => cases cached

theorem Renders.messages_subset (renders : pipeline.Renders set token input) :
    input.messages pipeline.configuration.emit ⊆ runMessages pipeline set token := by
  rcases renders with ⟨extracts, validates, absent, adds⟩
  exact List.Subset.trans adds.messages_subset
    (renderMessages_subset_runMessages extracts validates absent)

end Runs

section Histories

variable {history : List Action} {input : FragmentInput} {key : Fingerprint}

/-- A run since the last clear has put the fragment of the input into the cache. -/
def RenderedIn (start : Pipeline) (history : List Action) (input : FragmentInput) : Prop :=
  ∃ recent : RecentRun history,
    (start.performAll recent.earlier).Renders recent.set recent.token input

variable (configuration : Configuration)

theorem RenderedIn.found (rendered : RenderedIn (ofConfiguration configuration) history input) :
    (((ofConfiguration configuration).performAll history).fragments.get?
      (input.key configuration.emit)).isSome := by
  rcases rendered with ⟨recent, renders⟩
  have configured := configuration_performAll (ofConfiguration configuration) recent.earlier
  have found := renders.found
  rw [configured] at found
  rcases Option.isSome_iff_exists.mp found with ⟨text, stored⟩
  have kept := (recent.keeps (ofConfiguration configuration)).fragments _ _ stored
  exact Option.isSome_iff_exists.mpr ⟨text, kept⟩

/-- A fragment that is in the cache was rendered since the last clear. -/
theorem renderedIn_of_found
    (present : (((ofConfiguration configuration).performAll history).fragments.get? key).isSome) :
    ∃ input, RenderedIn (ofConfiguration configuration) history input ∧
      input.key configuration.emit = key := by
  have arisen : ∃ recent : RecentRun history, ∃ input,
      ((ofConfiguration configuration).performAll recent.earlier).Renders recent.set recent.token
        input ∧
      input.key ((ofConfiguration configuration).performAll recent.earlier).configuration.emit =
        key := by
    apply RecentRun.exists_of_arises (fun pipeline => (pipeline.fragments.get? key).isSome)
      (fun pipeline set token => ∃ input, pipeline.Renders set token input ∧
        input.key pipeline.configuration.emit = key)
    · exact Bool.false_ne_true
    · intro pipeline
      exact Bool.false_ne_true
    · intro pipeline set token
      exact renders_of_found
    · exact present
  rcases arisen with ⟨recent, input, renders, same⟩
  rw [configuration_performAll] at same
  exact ⟨input, ⟨recent, renders⟩, same⟩

theorem RenderedIn.messages_subset
    (rendered : RenderedIn (ofConfiguration configuration) history input) :
    input.messages configuration.emit ⊆
      historyMessages (ofConfiguration configuration) history := by
  rcases rendered with ⟨recent, renders⟩
  have hashed := renders.messages_subset
  rw [configuration_performAll] at hashed
  exact List.Subset.trans hashed (recent.messages_subset _)

/-- The fragment of a hashed input is in the cache exactly if it was rendered since the last
clear. -/
theorem found_iff_renderedIn {messages : List (List UInt8)} (free : Sha256.CollisionFree messages)
    (earlier : historyMessages (ofConfiguration configuration) history ⊆ messages)
    (hashed : input.messages configuration.emit ⊆ messages) :
    (((ofConfiguration configuration).performAll history).fragments.get?
      (input.key configuration.emit)).isSome ↔
      RenderedIn (ofConfiguration configuration) history input := by
  constructor
  · intro present
    rcases renderedIn_of_found configuration present with ⟨other, rendered, same⟩
    have hashed' := List.Subset.trans (rendered.messages_subset configuration) earlier
    rwa [← FragmentInput.eq_of_key free hashed' hashed same]
  · exact RenderedIn.found configuration

/-- A run that computes its source counts a miss for each different input of its commands that no
run has rendered since the last clear, and keeps as many new fragments; each other command is a
hit. A run that finds its source leaves the fragments and their counts as they are. -/
theorem only_changed_rendered (history : List Action) (set : DeclarationSet) (token : Token)
    (free : Sha256.CollisionFree
      (historyMessages (ofConfiguration configuration) (history ++ [.run set token])))
    (output : RunOutput)
    (runs : (((ofConfiguration configuration).performAll history).run set token).1 = .ok output) :
    let start := ofConfiguration configuration
    let before := (start.performAll history).fragments
    let after := ((start.performAll history).run set token).2.fragments
    (output.report.emission = .computed →
      ∃ fresh : Finset FragmentInput,
        (∀ input, input ∈ fresh ↔
          (∃ command ∈ output.extraction.commands,
            input = .ofCommand output.validation.blockedMembers command) ∧
          ¬RenderedIn start history input) ∧
        after.stats.misses = before.stats.misses + fresh.card ∧
        after.stats.hits + fresh.card = before.stats.hits + output.extraction.commands.length ∧
        after.stats.entries = before.stats.entries + fresh.card) ∧
    (output.report.emission = .cached → after = before) := by
  intro start before after
  have ran : (start.performAll history).run set token =
      (.ok output, ((start.performAll history).run set token).2) := Prod.ext runs rfl
  refine ⟨?_, fragments_of_cached ran⟩
  intro computed
  let inputs := output.extraction.commands.map
    (FragmentInput.ofCommand output.validation.blockedMembers)
  have configured : (start.performAll history).configuration = configuration :=
    configuration_performAll start history
  rcases renderAll_of_run ran computed with ⟨⟨texts, renders⟩, subset⟩
  rw [configured] at renders subset
  have earlier := historyMessages_subset_append start history [.run set token]
  have hashed : ∀ input ∈ inputs, input.messages configuration.emit ⊆
      historyMessages start (history ++ [.run set token]) := by
    intro input member
    rcases List.mem_map.mp member with ⟨command, present, rfl⟩
    exact List.Subset.trans (messages_subset_of_renderAll renders command present)
      (List.Subset.trans subset ((RecentRun.last history set token).messages_subset start))
  have counts := counts_renderAll renders
  rw [StageCache.card_missing] at counts
  · refine ⟨_, ?_, counts.misses_eq, counts.hits_eq, counts.size_eq⟩
    intro input
    have wanted : input ∈ inputs ↔ ∃ command ∈ output.extraction.commands,
        input = .ofCommand output.validation.blockedMembers command := by
      simp only [inputs, List.mem_map, eq_comm]
    rw [Finset.mem_filter, List.mem_toFinset, wanted]
    apply and_congr_right
    intro member
    have rendered := found_iff_renderedIn configuration free earlier
      (hashed input (wanted.mpr member))
    rw [← rendered, Option.not_isSome_iff_eq_none, Option.isNone_iff_eq_none]
  · intro input member other member'
    exact FragmentInput.eq_of_key free (hashed input member) (hashed other member')

/-- A live run, and a clear that drops its fragment. -/
def clearedHistory : List Action :=
  [.run plainSet .live, .clear]

/-- A command is rendered again after a clear. -/
theorem only_changed_rendered_plainSet :
    let start := ofConfiguration .standard
    let pipeline := start.performAll clearedHistory
    Sha256.CollisionFree (historyMessages start (clearedHistory ++ [.run plainSet .live])) ∧
      ∃ output, (pipeline.run plainSet .live).1 = .ok output ∧
        output.report.emission = .computed ∧
        ∃ fresh : Finset FragmentInput, fresh.card = 1 ∧
          (∀ input, input ∈ fresh ↔
            (∃ command ∈ output.extraction.commands,
              input = .ofCommand output.validation.blockedMembers command) ∧
            ¬RenderedIn start clearedHistory input) ∧
          pipeline.fragments.stats = ⟨0, 1, 0⟩ ∧
          (pipeline.run plainSet .live).2.fragments.stats = ⟨0, 2, 1⟩ := by
  intro start pipeline
  have again : runMessages ((start.perform (.run plainSet .live)).perform .clear) plainSet .live =
      runMessages start plainSet .live := rfl
  have free : Sha256.CollisionFree
      (historyMessages start (clearedHistory ++ [.run plainSet .live])) := by
    apply collisionFree_plainSet.mono
    simp [clearedHistory, historyMessages, actionMessages, again, start]
  have succeeds : ∃ output, (pipeline.run plainSet .live).1 = .ok output ∧
      output.report.emission = .computed := ⟨_, rfl, rfl⟩
  rcases succeeds with ⟨output, runs, computed⟩
  have rendered := only_changed_rendered .standard clearedHistory plainSet .live free output runs
  rcases rendered.1 computed with ⟨fresh, members, misses, _, _⟩
  have before : pipeline.fragments.stats = ⟨0, 1, 0⟩ := rfl
  have after : (pipeline.run plainSet .live).2.fragments.stats = ⟨0, 2, 1⟩ := rfl
  refine ⟨free, output, runs, computed, fresh, ?_, members, before, after⟩
  have grown : 2 = 1 + fresh.card := by
    rwa [after, before] at misses
  omega

end Histories

end Pipeline

end OptionCompiler
