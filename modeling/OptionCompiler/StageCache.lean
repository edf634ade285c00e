import OptionCompiler.Fingerprint
import OptionCompiler.RunError
/-!
# Stage caches

The results of one stage, under the fingerprints of what they were computed from. A result is
looked up before it is computed, and the first success under a key is kept. A failure leaves
nothing behind but the count of the miss. Clearing drops the results and keeps the counts.

A computation may change a state of its own, which is kept even if it fails.
-/

namespace OptionCompiler

/-- How a result was obtained. -/
inductive CacheStatus where
  | cached
  | computed
deriving DecidableEq, Repr

def CacheStatus.name : CacheStatus → String
  | .cached => "cached"
  | .computed => "computed"

/-- The counts of a cache. They are natural numbers, which do not wrap: no program asks often enough
to fill a word of the machine. -/
structure CacheStats where
  hits : Nat
  misses : Nat
  entries : Nat
deriving DecidableEq, Repr

/-- The results of a stage, and how often a request found one and how often it did not. The counts
are those of all requests ever made and do not wrap. -/
structure StageCache (α : Type) where
  entries : List (Fingerprint × α)
  hits : Nat
  misses : Nat
deriving Repr

namespace StageCache

variable {α σ : Type}

/-- A cache that was never used. -/
def empty : StageCache α := ⟨[], 0, 0⟩

def get? (cache : StageCache α) (key : Fingerprint) : Option α :=
  cache.entries.lookup key

def hit (cache : StageCache α) : StageCache α :=
  { cache with hits := cache.hits + 1 }

def miss (cache : StageCache α) : StageCache α :=
  { cache with misses := cache.misses + 1 }

/-- Keeps a result under a key that has none. -/
def store (cache : StageCache α) (key : Fingerprint) (value : α) : StageCache α :=
  { cache with entries := cache.entries ++ [(key, value)] }

/-- The result under a key, computed from a state and kept if there is none. -/
def fetchWith (cache : StageCache α) (key : Fingerprint)
    (compute : σ → Except RunError α × σ) (state : σ) :
    Except RunError (α × CacheStatus) × StageCache α × σ :=
  match cache.get? key with
  | some value => (.ok (value, .cached), cache.hit, state)
  | none =>
      match compute state with
      | (.ok value, state) => (.ok (value, .computed), cache.miss.store key value, state)
      | (.error error, state) => (.error error, cache.miss, state)

/-- `fetchWith` for a computation that has no state of its own. -/
def fetch (cache : StageCache α) (key : Fingerprint) (compute : Unit → Except RunError α) :
    Except RunError (α × CacheStatus) × StageCache α :=
  let (result, cache, _) := cache.fetchWith key (fun _ => (compute (), ())) ()
  (result, cache)

/-- How many results there are. -/
def size (cache : StageCache α) : Nat :=
  cache.entries.length

def stats (cache : StageCache α) : CacheStats :=
  ⟨cache.hits, cache.misses, cache.size⟩

/-- Drops the results and keeps the counts. -/
def clear (cache : StageCache α) : StageCache α :=
  { cache with entries := [] }

end StageCache

end OptionCompiler
