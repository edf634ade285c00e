import Mathlib
import OptionCompiler.Proofs.StageCache
/-!
# Histories of a stage cache

A cache is asked to fetch, to look up and to clear, in any order. Beside the cache a session keeps
a record which the computations write themselves: whoever is consulted leaves its result there,
and a clear leaves a mark. So the record tells what was computed without asking the cache. What
the computations offer, consulted or not, is listed too.

The entries of the cache are the successes of the record behind its last mark, in their order and
under distinct keys (`Tracks`). One step keeps this, since a computation is consulted only under a
key that has no success yet. For the same reason a computation that is not consulted offers no
first success, and the record and the offers have the same ones.
-/

namespace OptionCompiler

namespace StageCache

variable {α σ : Type}

section Sessions

/-- What a cache is asked for. -/
inductive Request (α σ : Type) where
  | fetch (key : Fingerprint) (compute : σ → Except RunError α × σ)
  | get (key : Fingerprint)
  | clear

/-- A computation with its result, or a clear. -/
inductive Event (α : Type) where
  | computed (key : Fingerprint) (result : Except RunError α)
  | cleared
deriving Repr

/-- What a request is answered. -/
inductive Answer (α : Type) where
  | fetched (result : Except RunError (α × CacheStatus))
  | found (value? : Option α)
  | cleared
deriving Repr

def Request.isFetch : Request α σ → Bool
  | .fetch .. => true
  | .get _ | .clear => false

def Event.isComputation : Event α → Bool
  | .computed .. => true
  | .cleared => false

/-- The key and the value of a success. -/
def Event.success? : Event α → Option (Fingerprint × α)
  | .computed key (.ok value) => some (key, value)
  | .computed _ (.error _) | .cleared => none

/-- The successes since the last clear, in their order. -/
def successes (record : List (Event α)) : List (Fingerprint × α) :=
  (record.rtakeWhile Event.isComputation).filterMap Event.success?

/-- The first success under a key since the last clear. -/
def firstSuccess? (record : List (Event α)) (key : Fingerprint) : Option α :=
  (successes record).lookup key

def Answer.isCached : Answer α → Bool
  | .fetched (.ok (_, .cached)) => true
  | .fetched (.ok (_, .computed)) | .fetched (.error _) | .found _ | .cleared => false

/-- A cache in use, with the state of its computations, the record of those that were consulted,
the offers of all of them, and the answers given. -/
structure Session (α σ : Type) where
  cache : StageCache α
  state : σ
  record : List (Event α)
  offers : List (Event α)
  answers : List (Answer α)

/-- A computation that writes its result into the record. -/
def recorded (key : Fingerprint) (compute : σ → Except RunError α × σ)
    (state : σ × List (Event α)) : Except RunError α × (σ × List (Event α)) :=
  let (result, after) := compute state.1
  (result, after, state.2 ++ [Event.computed key result])

namespace Session

/-- A session with a cache that was never used. -/
def begun (start : σ) : Session α σ :=
  ⟨empty, start, [], [], []⟩

/-- The session after one request. -/
def perform (session : Session α σ) : Request α σ → Session α σ
  | .fetch key compute =>
      let (result, cache, state, record) :=
        session.cache.fetchWith key (recorded key compute) (session.state, session.record)
      ⟨cache, state, record, session.offers ++ [Event.computed key (compute session.state).1],
        session.answers ++ [Answer.fetched result]⟩
  | .get key =>
      { session with answers := session.answers ++ [Answer.found (session.cache.get? key)] }
  | .clear =>
      { session with
        cache := session.cache.clear
        record := session.record ++ [Event.cleared]
        offers := session.offers ++ [Event.cleared]
        answers := session.answers ++ [Answer.cleared] }

/-- The session after some requests. -/
def performAll (session : Session α σ) (requests : List (Request α σ)) : Session α σ :=
  requests.foldl perform session

end Session

end Sessions

section Fetching

variable {cache : StageCache α} {key : Fingerprint} {compute : σ → Except RunError α × σ}
  {state : σ}

theorem fetchWith_of_found {value : α} (found : cache.get? key = some value) :
    cache.fetchWith key compute state = (.ok (value, .cached), cache.hit, state) := by
  rw [fetchWith, found]

theorem fetchWith_of_success {value : α} {after : σ} (absent : cache.get? key = none)
    (succeeds : compute state = (.ok value, after)) :
    cache.fetchWith key compute state =
      (.ok (value, .computed), cache.miss.store key value, after) := by
  simp only [fetchWith, absent, succeeds]

theorem fetchWith_of_failure {error : RunError} {after : σ} (absent : cache.get? key = none)
    (fails : compute state = (.error error, after)) :
    cache.fetchWith key compute state = (.error error, cache.miss, after) := by
  simp only [fetchWith, absent, fails]

/-- Without a result under its key a fetch is its computation, and a failure leaves no entry. -/
theorem fetchWith_of_absent (absent : cache.get? key = none)
    (compute : σ → Except RunError α × σ) (state : σ) :
    (cache.fetchWith key compute state).1 =
        (compute state).1.map (fun value => (value, .computed)) ∧
      (cache.fetchWith key compute state).2.2 = (compute state).2 ∧
      ∀ error, (compute state).1 = .error error →
        (cache.fetchWith key compute state).2.1.entries = cache.entries := by
  rcases computed : compute state with ⟨error | value, after⟩
  · rw [fetchWith_of_failure absent computed]
    exact ⟨rfl, rfl, fun _ _ => rfl⟩
  · rw [fetchWith_of_success absent computed]
    refine ⟨rfl, rfl, ?_⟩
    rintro error ⟨⟩

/-- A computation without a state is one that leaves every state as it is. -/
theorem fetch_eq_fetchWith (cache : StageCache α) (key : Fingerprint)
    (compute : Unit → Except RunError α) (state : σ) :
    cache.fetch key compute =
      ((cache.fetchWith key (fun state => (compute (), state)) state).1,
        (cache.fetchWith key (fun state => (compute (), state)) state).2.1) := by
  unfold fetch fetchWith
  cases cache.get? key with
  | some value => rfl
  | none => cases compute () <;> rfl

end Fetching

section Steps

/-- What becomes of a session that is asked to fetch. -/
inductive FetchStep (session : Session α σ) (key : Fingerprint)
    (compute : σ → Except RunError α × σ) : Session α σ → Prop where
  | hit (value : α) (found : session.cache.get? key = some value) :
      FetchStep session key compute
        ⟨session.cache.hit, session.state, session.record,
          session.offers ++ [Event.computed key (compute session.state).1],
          session.answers ++ [Answer.fetched (.ok (value, .cached))]⟩
  | success (value : α) (after : σ) (absent : session.cache.get? key = none)
      (succeeds : compute session.state = (.ok value, after)) :
      FetchStep session key compute
        ⟨session.cache.miss.store key value, after,
          session.record ++ [Event.computed key (.ok value)],
          session.offers ++ [Event.computed key (.ok value)],
          session.answers ++ [Answer.fetched (.ok (value, .computed))]⟩
  | failure (error : RunError) (after : σ) (absent : session.cache.get? key = none)
      (fails : compute session.state = (.error error, after)) :
      FetchStep session key compute
        ⟨session.cache.miss, after, session.record ++ [Event.computed key (.error error)],
          session.offers ++ [Event.computed key (.error error)],
          session.answers ++ [Answer.fetched (.error error)]⟩

theorem fetchStep_perform (session : Session α σ) (key : Fingerprint)
    (compute : σ → Except RunError α × σ) :
    FetchStep session key compute (session.perform (.fetch key compute)) := by
  rw [Session.perform]
  cases found : session.cache.get? key with
  | some value =>
      rw [fetchWith_of_found found]
      exact .hit value found
  | none =>
      rcases computed : compute session.state with ⟨error | value, after⟩
      · have fails : recorded key compute (session.state, session.record) =
            (.error error, after, session.record ++ [Event.computed key (.error error)]) := by
          simp only [recorded, computed]
        rw [fetchWith_of_failure found fails]
        exact .failure error after found computed
      · have succeeds : recorded key compute (session.state, session.record) =
            (.ok value, after, session.record ++ [Event.computed key (.ok value)]) := by
          simp only [recorded, computed]
        rw [fetchWith_of_success found succeeds]
        exact .success value after found computed

end Steps

section Invariant

theorem successes_success (record : List (Event α)) (key : Fingerprint) (value : α) :
    successes (record ++ [Event.computed key (.ok value)]) =
      successes record ++ [(key, value)] := by
  simp [successes, List.rtakeWhile_concat, Event.isComputation, Event.success?]

theorem successes_failure (record : List (Event α)) (key : Fingerprint) (error : RunError) :
    successes (record ++ [Event.computed key (.error error)]) = successes record := by
  simp [successes, List.rtakeWhile_concat, Event.isComputation, Event.success?]

theorem successes_cleared (record : List (Event α)) :
    successes (record ++ [Event.cleared]) = [] := by
  simp [successes, Event.isComputation]

theorem firstSuccess?_computed (record : List (Event α)) (key : Fingerprint)
    (result : Except RunError α) (other : Fingerprint) :
    firstSuccess? (record ++ [Event.computed key result]) other =
      (firstSuccess? record other).or (if other = key then result.toOption else none) := by
  cases result with
  | ok value =>
      rw [firstSuccess?, successes_success]
      exact get?_store ⟨successes record, 0, 0⟩ key other value
  | error error => simp [firstSuccess?, successes_failure, Except.toOption]

/-- Behind a success under the same key a computation is no first one. -/
theorem firstSuccess?_repeated {record : List (Event α)} {key : Fingerprint} {value : α}
    (first : firstSuccess? record key = some value) (result : Except RunError α)
    (other : Fingerprint) :
    firstSuccess? (record ++ [Event.computed key result]) other = firstSuccess? record other := by
  rw [firstSuccess?_computed]
  split_ifs with same
  · rw [same, first, Option.some_or]
  · rw [Option.or_none]

/-- A result that is stored under an absent key comes under a new one. -/
theorem nodup_keys_store {cache : StageCache α} {key : Fingerprint}
    (distinct : (cache.entries.map Prod.fst).Nodup) (absent : cache.get? key = none) (value : α) :
    ((cache.store key value).entries.map Prod.fst).Nodup := by
  have fresh : ∀ other ∈ cache.entries.map Prod.fst, other ≠ key := by
    intro other member
    rcases List.mem_map.mp member with ⟨entry, present, rfl⟩
    have unequal := List.lookup_eq_none_iff.mp absent entry present
    exact fun same => by simp [same] at unequal
  rw [store, List.map_append, List.nodup_append]
  refine ⟨distinct, List.nodup_singleton key, ?_⟩
  intro other member new isNew
  rw [List.mem_singleton.mp isNew]
  exact fresh other member

/-- The cache of a session holds the successes of its record, which has the first successes of all
the offers, and counts the answers given to the requests. -/
structure Tracks (requests : List (Request α σ)) (session : Session α σ) : Prop where
  entries_eq : session.cache.entries = successes session.record
  distinct : (session.cache.entries.map Prod.fst).Nodup
  offers_eq : ∀ key, firstSuccess? session.record key = firstSuccess? session.offers key
  hits_eq : session.cache.hits = session.answers.countP Answer.isCached
  fetches_eq : session.cache.hits + session.cache.misses = requests.countP Request.isFetch

variable {requests : List (Request α σ)} {session after : Session α σ}

theorem tracks_begun (start : σ) : Tracks [] (Session.begun start : Session α σ) :=
  ⟨rfl, List.nodup_nil, fun _ => rfl, rfl, rfl⟩

theorem Tracks.get?_eq (tracks : Tracks requests session) (key : Fingerprint) :
    session.cache.get? key = firstSuccess? session.record key := by
  rw [get?, tracks.entries_eq, firstSuccess?]

theorem Tracks.fetched (tracks : Tracks requests session) {key : Fingerprint}
    {compute : σ → Except RunError α × σ} (step : FetchStep session key compute after) :
    Tracks (requests ++ [Request.fetch key compute]) after := by
  have fetches : (requests ++ [Request.fetch key compute]).countP Request.isFetch =
      session.cache.hits + session.cache.misses + 1 := by
    simp [tracks.fetches_eq, Request.isFetch]
  cases step with
  | hit value found =>
      refine ⟨tracks.entries_eq, tracks.distinct, ?_, ?_, ?_⟩
      · -- The offer that nobody takes up comes behind a success.
        rw [tracks.get?_eq, tracks.offers_eq] at found
        intro other
        rw [firstSuccess?_repeated found]
        exact tracks.offers_eq other
      · simp [hit, tracks.hits_eq, Answer.isCached]
      · simp only [hit, fetches]
        omega
  | success value after absent succeeds =>
      -- Only an absent key is computed for, so no key comes in twice.
      refine ⟨?_, nodup_keys_store tracks.distinct absent value, ?_, ?_, ?_⟩
      · rw [successes_success, ← tracks.entries_eq]
        rfl
      · intro other
        rw [firstSuccess?_computed, firstSuccess?_computed, tracks.offers_eq]
      · simp [store, miss, tracks.hits_eq, Answer.isCached]
      · simp only [store, miss, fetches]
        omega
  | failure error after absent fails =>
      refine ⟨?_, tracks.distinct, ?_, ?_, ?_⟩
      · rw [successes_failure]
        exact tracks.entries_eq
      · intro other
        rw [firstSuccess?_computed, firstSuccess?_computed, tracks.offers_eq]
      · simp [miss, tracks.hits_eq, Answer.isCached]
      · simp only [miss, fetches]
        omega

/-- One request keeps the cache in step with the record. -/
theorem Tracks.perform (tracks : Tracks requests session) (request : Request α σ) :
    Tracks (requests ++ [request]) (session.perform request) := by
  cases request with
  | fetch key compute => exact tracks.fetched (fetchStep_perform session key compute)
  | get key =>
      refine ⟨tracks.entries_eq, tracks.distinct, tracks.offers_eq, ?_, ?_⟩
      · simp [Session.perform, tracks.hits_eq, Answer.isCached]
      · simp [Session.perform, tracks.fetches_eq, Request.isFetch]
  | clear =>
      refine ⟨(successes_cleared session.record).symm, List.nodup_nil, ?_, ?_, ?_⟩
      · intro key
        simp only [Session.perform, firstSuccess?, successes_cleared]
      · simp [Session.perform, clear, tracks.hits_eq, Answer.isCached]
      · simp [Session.perform, clear, tracks.fetches_eq, Request.isFetch]

/-- A history keeps the cache in step with the record. -/
theorem tracks_performAll (requests : List (Request α σ)) (start : σ) :
    Tracks requests ((Session.begun start).performAll requests) := by
  induction requests using List.reverseRecOn with
  | nil => exact tracks_begun start
  | append_singleton earlier request ih =>
      rw [Session.performAll, List.foldl_append]
      exact ih.perform request

theorem Tracks.size_eq (tracks : Tracks requests session) :
    session.cache.size = ((successes session.record).map Prod.fst).toFinset.card := by
  rw [← tracks.entries_eq, List.toFinset_card_of_nodup tracks.distinct, List.length_map, size]

end Invariant

section Histories

/-- After every history of requests, a key has the value of the first computation that succeeded
under it since the last clear, and no computation that was passed over would have been the first.
A fetch gives this value and consults no computation; without such a value it gives the result of
its own computation, of which a failure leaves no entry. The hits are the answers that were
cached, hits and misses are the fetches, the entries are the keys with a success, and neither a
look-up nor a clear is counted. -/
theorem first_success_kept (requests : List (Request α σ)) (start : σ) :
    let session := (Session.begun start).performAll requests
    let cache := session.cache
    (∀ key, cache.get? key = firstSuccess? session.record key ∧
      firstSuccess? session.record key = firstSuccess? session.offers key) ∧
    (∀ key value, firstSuccess? session.record key = some value →
      ∀ compute (state : σ),
        cache.fetchWith key compute state = (.ok (value, .cached), cache.hit, state)) ∧
    (∀ key, firstSuccess? session.record key = none →
      ∀ compute (state : σ),
        (cache.fetchWith key compute state).1 =
          (compute state).1.map (fun value => (value, .computed)) ∧
        (cache.fetchWith key compute state).2.2 = (compute state).2 ∧
        ∀ error, (compute state).1 = .error error →
          (cache.fetchWith key compute state).2.1.entries = cache.entries) ∧
    (∀ key compute (state : σ), cache.fetch key compute =
      ((cache.fetchWith key (fun state => (compute (), state)) state).1,
        (cache.fetchWith key (fun state => (compute (), state)) state).2.1)) ∧
    cache.stats.hits = session.answers.countP Answer.isCached ∧
    cache.stats.hits + cache.stats.misses = requests.countP Request.isFetch ∧
    cache.stats.entries = ((successes session.record).map Prod.fst).toFinset.card ∧
    (∀ key, (session.perform (.get key)).cache = cache) ∧
    (session.perform .clear).cache.stats = ⟨cache.stats.hits, cache.stats.misses, 0⟩ := by
  intro session cache
  have tracks : Tracks requests session := tracks_performAll requests start
  refine ⟨fun key => ⟨tracks.get?_eq key, tracks.offers_eq key⟩, ?_, ?_,
    cache.fetch_eq_fetchWith, tracks.hits_eq, tracks.fetches_eq, tracks.size_eq,
    fun _ => rfl, rfl⟩
  · intro key value first compute state
    rw [← tracks.get?_eq] at first
    exact fetchWith_of_found first
  · intro key missing compute state
    rw [← tracks.get?_eq] at missing
    exact fetchWith_of_absent missing compute state

end Histories

end StageCache

end OptionCompiler
