import Mathlib
import OptionCompiler.StageCache
/-!
# What stage caches hold

A cache is faithful to a relation between keys and results when every entry is in the relation.
Looking a result up, computing it, and clearing keep a cache faithful as long as every success of
a computation is in the relation with its key, so a result from a faithful cache is either a
fresh success or in the relation already.

`Served` compares what a stage answers, out of its cache or not, with the uncached result.
-/

namespace OptionCompiler

namespace StageCache

variable {α σ : Type}

@[simp]
theorem get?_empty (key : Fingerprint) : (empty : StageCache α).get? key = none :=
  rfl

/-- Every entry is in the given relation with its key. -/
def Faithful (relation : Fingerprint → α → Prop) (cache : StageCache α) : Prop :=
  ∀ entry ∈ cache.entries, relation entry.1 entry.2

section Faithful

variable {relation : Fingerprint → α → Prop} {cache : StageCache α}

theorem faithful_empty : Faithful relation empty := by
  intro entry member
  cases member

theorem Faithful.clear (_faithful : Faithful relation cache) :
    Faithful relation cache.clear := by
  intro entry member
  cases member

theorem Faithful.hit (faithful : Faithful relation cache) : Faithful relation cache.hit :=
  faithful

theorem Faithful.miss (faithful : Faithful relation cache) : Faithful relation cache.miss :=
  faithful

theorem Faithful.store (faithful : Faithful relation cache) {key : Fingerprint} {value : α}
    (related : relation key value) : Faithful relation (cache.store key value) := by
  intro entry member
  simp only [StageCache.store, List.mem_append, List.mem_singleton] at member
  rcases member with old | rfl
  · exact faithful entry old
  · exact related

theorem Faithful.get? (faithful : Faithful relation cache) {key : Fingerprint} {value : α}
    (found : cache.get? key = some value) : relation key value := by
  rcases List.lookup_eq_some_iff.mp found with ⟨before, after, entries, _⟩
  apply faithful (key, value)
  simp [entries]

end Faithful

section Growth

/-- Every result of a cache is under its key in another one. -/
def Keeps (cache after : StageCache α) : Prop :=
  ∀ key value, cache.get? key = some value → after.get? key = some value

/-- The results of a cache with some more behind them, each in the given relation with its key. -/
def Extends (relation : Fingerprint → α → Prop) (cache after : StageCache α) : Prop :=
  ∃ added, after.entries = cache.entries ++ added ∧ ∀ entry ∈ added, relation entry.1 entry.2

variable {relation wider : Fingerprint → α → Prop} {cache middle after : StageCache α}

theorem Keeps.refl (cache : StageCache α) : cache.Keeps cache :=
  fun _ _ found => found

theorem Keeps.trans (first : cache.Keeps middle) (second : middle.Keeps after) :
    cache.Keeps after :=
  fun key value found => second key value (first key value found)

theorem extends_of_entries_eq (same : after.entries = cache.entries) :
    cache.Extends relation after :=
  ⟨[], by simp [same], by simp⟩

theorem Extends.trans (first : cache.Extends relation middle)
    (second : middle.Extends relation after) : cache.Extends relation after := by
  rcases first with ⟨added, entries, related⟩
  rcases second with ⟨later, laterEntries, laterRelated⟩
  refine ⟨added ++ later, ?_, ?_⟩
  · rw [laterEntries, entries, List.append_assoc]
  · intro entry member
    rcases List.mem_append.mp member with old | new
    · exact related entry old
    · exact laterRelated entry new

theorem Extends.mono (grown : cache.Extends relation after)
    (wide : ∀ key value, relation key value → wider key value) : cache.Extends wider after := by
  rcases grown with ⟨added, entries, related⟩
  exact ⟨added, entries, fun entry member => wide _ _ (related entry member)⟩

theorem Extends.keeps (grown : cache.Extends relation after) : cache.Keeps after := by
  rcases grown with ⟨added, entries, _⟩
  intro key value found
  have present : cache.entries.lookup key = some value := found
  rw [get?, entries, List.lookup_append, present]
  rfl

theorem get?_store (cache : StageCache α) (key other : Fingerprint) (value : α) :
    (cache.store key value).get? other =
      (cache.get? other).or (if other = key then some value else none) := by
  rw [get?, store, List.lookup_append, get?]
  congr 1
  by_cases same : other = key
  · simp [same]
  · simp [List.lookup_cons, beq_eq_false_iff_ne.mpr same, same]

end Growth

/-- A fetched result was in the cache, or it was computed. -/
inductive Fetched (cache : StageCache α) (key : Fingerprint) (computed : Except RunError α) :
    Except RunError (α × CacheStatus) → StageCache α → Prop where
  | hit (value : α) (found : cache.get? key = some value) :
      Fetched cache key computed (.ok (value, .cached)) cache.hit
  | success (value : α) (absent : cache.get? key = none) (succeeds : computed = .ok value) :
      Fetched cache key computed (.ok (value, .computed)) (cache.miss.store key value)
  | failure (error : RunError) (absent : cache.get? key = none) (fails : computed = .error error) :
      Fetched cache key computed (.error error) cache.miss

theorem fetched_fetchWith (cache : StageCache α) (key : Fingerprint)
    (compute : σ → Except RunError α × σ) (state : σ) :
    Fetched cache key (compute state).1 (cache.fetchWith key compute state).1
      (cache.fetchWith key compute state).2.1 := by
  unfold fetchWith
  cases found : cache.get? key with
  | some value => exact .hit value found
  | none =>
      rcases computed : compute state with ⟨value | error, state'⟩
      · exact .failure _ found rfl
      · exact .success _ found rfl

theorem fetched_fetch (cache : StageCache α) (key : Fingerprint)
    (compute : Unit → Except RunError α) :
    Fetched cache key (compute ()) (cache.fetch key compute).1 (cache.fetch key compute).2 :=
  cache.fetched_fetchWith key (fun _ => (compute (), ())) ()

section Fetching

variable {cache after : StageCache α} {key : Fingerprint} {computed : Except RunError α}
  {result : Except RunError (α × CacheStatus)}

/-- Fetching adds at most the success of the computation. -/
theorem Fetched.grown (fetched : cache.Fetched key computed result after) :
    cache.Extends (fun other value => other = key ∧ computed = .ok value) after := by
  cases fetched with
  | hit value found => exact extends_of_entries_eq rfl
  | success value absent succeeds =>
      refine ⟨[(key, value)], rfl, ?_⟩
      simpa using succeeds
  | failure error absent fails => exact extends_of_entries_eq rfl

theorem Fetched.get?_of_ok {value : α} {status : CacheStatus}
    (fetched : cache.Fetched key computed (.ok (value, status)) after) :
    after.get? key = some value := by
  cases fetched with
  | hit _ found => exact found
  | success _ absent _ =>
      have absent' : cache.miss.get? key = none := absent
      simp [get?_store, absent']

/-- A failed fetch counts a miss and does nothing else. -/
theorem Fetched.eq_of_error {error : RunError}
    (fetched : cache.Fetched key computed (.error error) after) :
    cache.get? key = none ∧ computed = .error error ∧ after = cache.miss := by
  cases fetched with
  | failure _ absent fails => exact ⟨absent, fails, rfl⟩

theorem Fetched.isSome_of_cached {value : α}
    (fetched : cache.Fetched key computed (.ok (value, .cached)) after) :
    (cache.get? key).isSome = true := by
  cases fetched with
  | hit _ found => simp [found]

/-- What is in the cache after a fetch was there before it, or is the computed result. -/
theorem Fetched.isSome_get? {other : Fingerprint}
    (fetched : cache.Fetched key computed result after)
    (present : (after.get? other).isSome = true) :
    (cache.get? other).isSome = true ∨
      key = other ∧ ∃ value, result = .ok (value, .computed) := by
  cases fetched with
  | hit _ _ => exact .inl present
  | success value absent succeeds =>
      rw [get?_store] at present
      by_cases same : other = key
      · exact .inr ⟨same.symm, value, rfl⟩
      · rw [if_neg same, Option.or_none] at present
        exact .inl present
  | failure _ _ _ => exact .inl present

end Fetching

theorem fetchWith_state (cache : StageCache α) (key : Fingerprint)
    (compute : σ → Except RunError α × σ) (state : σ) :
    (cache.fetchWith key compute state).2.2 =
      if (cache.get? key).isSome then state else (compute state).2 := by
  unfold fetchWith
  cases found : cache.get? key with
  | some value => rfl
  | none =>
      rcases computed : compute state with ⟨value | error, state'⟩ <;> rfl

end StageCache

/-- What a run may answer where the uncached result is known: the same result, unless the run is
cancelled, and then it may fail as cancelled in its place and never fails otherwise. -/
inductive Served {α : Type} (token : Token) (uncached : Except RunError α) :
    Except RunError α → Prop where
  | success (value : α) (same : uncached = .ok value) : Served token uncached (.ok value)
  | failure (error : RunError) (live : token = .live) (same : uncached = .error error) :
      Served token uncached (.error error)
  | cancelled (asked : token = .cancelled) : Served token uncached (.error .cancelled)

namespace Served

variable {α β : Type} {token : Token} {uncached result : Except RunError α}

theorem of_live (uncached : Except RunError α) : Served .live uncached uncached := by
  cases uncached with
  | ok value => exact .success value rfl
  | error error => exact .failure error rfl rfl

theorem eq_of_live (served : Served .live uncached result) : result = uncached := by
  cases served with
  | success value same => exact same.symm
  | failure error live same => exact same.symm
  | cancelled asked => cases asked

/-- What a stage serves in the place of a success is that success, or it is cancelled. -/
theorem fetched_or_cancelled {value : α} {outcome : Except RunError (α × CacheStatus)}
    (served : Served token (.ok value) (outcome.map Prod.fst)) :
    (∃ status, outcome = .ok (value, status)) ∨
      token = .cancelled ∧ outcome = .error .cancelled := by
  rcases outcome with error | ⟨given, status⟩
  · cases served with
    | failure _ _ same => cases same
    | cancelled asked => exact .inr ⟨asked, rfl⟩
  · cases served with
    | success _ same =>
        cases same
        exact .inl ⟨status, rfl⟩

theorem fetched_of_live {value : α} {outcome : Except RunError (α × CacheStatus)}
    (served : Served .live (.ok value) (outcome.map Prod.fst)) :
    ∃ status, outcome = .ok (value, status) := by
  rcases served.fetched_or_cancelled with fetched | ⟨asked, _⟩
  · exact fetched
  · cases asked

theorem map (served : Served token uncached result) (change : α → β) :
    Served token (uncached.map change) (result.map change) := by
  cases served with
  | success value same =>
      rw [same]
      exact .success _ rfl
  | failure error live same =>
      rw [same]
      exact .failure _ live rfl
  | cancelled asked => exact .cancelled asked

/-- A faithful cache serves the uncached result whenever its computation does. -/
theorem of_fetched {relation : Fingerprint → α → Prop} {cache after : StageCache α}
    {key : Fingerprint} {computed : Except RunError α}
    {fetchResult : Except RunError (α × CacheStatus)}
    (fetched : cache.Fetched key computed fetchResult after) (faithful : cache.Faithful relation)
    (entry : ∀ value, relation key value ↔ uncached = .ok value)
    (computes : cache.get? key = none → Served token uncached computed) :
    Served token uncached (fetchResult.map Prod.fst) ∧ after.Faithful relation := by
  cases fetched with
  | hit value found =>
      exact ⟨.success value ((entry value).mp (faithful.get? found)), faithful.hit⟩
  | success value absent succeeds =>
      have served := computes absent
      rw [succeeds] at served
      cases served with
      | success _ same =>
          exact ⟨.success value same, faithful.miss.store ((entry value).mpr same)⟩
  | failure error absent fails =>
      have served := computes absent
      rw [fails] at served
      exact ⟨served, faithful.miss⟩

end Served

end OptionCompiler
