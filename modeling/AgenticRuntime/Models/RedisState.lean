/-
The counters of `ModelStats` that workers share through Redis, and how a worker
merges its own into the stored ones.

A stored value is the JSON text of a stats dict. The script compares texts, and
equal texts are equal dicts, so the value stands for its text here.
-/

import Mathlib.Logic.Function.Basic

namespace AgenticRuntime

/-- `_COUNTER_FIELDS` -/
inductive Counter where
  | success
  | failure
  | rateLimit
  | timeout
  deriving DecidableEq, Repr

abbrev Counters := Counter → Nat

instance : DecidableEq Counters := fun first second =>
  decidable_of_iff
    (first .success = second .success ∧ first .failure = second .failure ∧
      first .rateLimit = second .rateLimit ∧ first .timeout = second .timeout) <| by
    constructor
    · intro same
      funext field
      cases field with
      | success => exact same.1
      | failure => exact same.2.1
      | rateLimit => exact same.2.2.1
      | timeout => exact same.2.2.2
    · intro same
      subst same
      exact ⟨rfl, rfl, rfl, rfl⟩

/-- The calls of `SmartModelRouter` that record an outcome. -/
inductive RecordKind where
  | success
  | failure
  | rateLimit
  | timeout
  deriving DecidableEq, Repr

def RecordKind.counted : RecordKind → List Counter
  | .success => [.success]
  | .failure => [.failure]
  | .rateLimit => [.rateLimit, .failure]
  | .timeout => [.timeout, .failure]

def RecordKind.increments (kind : RecordKind) : Counters := fun field => kind.counted.count field

/-- `rest` stands for the fields that are not counters. -/
structure StoredStats (Rest : Type) where
  counters : Counters
  rest : Rest

instance {Rest : Type} [DecidableEq Rest] : DecidableEq (StoredStats Rest) := fun first second =>
  decidable_of_iff (first.counters = second.counters ∧ first.rest = second.rest) <| by
    cases first
    cases second
    simp

def storedCounters {Rest : Type} (current : Option (StoredStats Rest)) : Counters :=
  fun field => (current.map fun stats => stats.counters field).getD 0

/-- `_merge_stats_dicts`: truncated subtraction is `max(0, local - baseline)`. -/
def mergeStatsDicts {Rest : Type} (redisCurrent : Option (StoredStats Rest))
    (localStats : StoredStats Rest) (baseline : Counters) : StoredStats Rest :=
  { localStats with counters := fun field =>
      storedCounters redisCurrent field + (localStats.counters field - baseline field) }

def casMaxRetries : Nat := 8

end AgenticRuntime
