/-
The circuit breaker of `ModelStats`: three states, two clocks and the round trip
through `to_dict` and `from_dict`.

Times are seconds, as `time.monotonic()` and the timestamps of `datetime.now(UTC)`
give them. The latency figures and the window of recent results are left out:
nothing here reads them.
-/

import AgenticRuntime.Models.RedisState
import Mathlib.Data.Rat.Defs
import Mathlib.Algebra.Order.Ring.Rat

namespace AgenticRuntime

inductive CircuitState where
  | closed
  | isOpen
  | halfOpen
  deriving DecidableEq, Repr

structure Clock where
  wall : ℚ
  mono : ℚ
  deriving DecidableEq, Repr

structure ModelStats where
  counters : Counters := fun _ => 0
  circuitState : CircuitState := .closed
  failureThreshold : Nat := 5
  recoveryTimeoutSeconds : ℚ := 60
  lastFailureTime : Option ℚ := none
  lastFailureMono : Option ℚ := none
  consecutiveFailures : Nat := 0
  halfOpenSuccessRequired : Nat := 2
  halfOpenSuccesses : Nat := 0
  probeInProgress : Bool := false
  lastSuccess : Option ℚ := none
  lastFailure : Option ℚ := none
  cooldownUntil : Option ℚ := none
  cooldownUntilMono : Option ℚ := none

/-- The keys of `to_dict()` that `from_dict` reads. -/
structure StatsDict where
  counters : Counters
  circuitState : CircuitState
  lastSuccess : Option ℚ
  lastFailure : Option ℚ
  cooldownUntil : Option ℚ

namespace ModelStats

variable (stats : ModelStats)

def count (field : Counter) : ModelStats :=
  { stats with counters := Function.update stats.counters field (stats.counters field + 1) }

variable (now : Clock)

def recordSuccess : ModelStats :=
  let counted := { stats.count .success with
    lastSuccess := some now.wall
    consecutiveFailures := 0 }
  if counted.circuitState = .halfOpen then
    if counted.halfOpenSuccesses + 1 ≥ counted.halfOpenSuccessRequired then
      { counted with circuitState := .closed, halfOpenSuccesses := 0 }
    else { counted with halfOpenSuccesses := counted.halfOpenSuccesses + 1 }
  else counted

def recordFailure : ModelStats :=
  let counted := { stats.count .failure with
    lastFailure := some now.wall
    lastFailureTime := some now.wall
    lastFailureMono := some now.mono
    consecutiveFailures := stats.consecutiveFailures + 1 }
  if counted.circuitState = .halfOpen then
    { counted with circuitState := .isOpen, halfOpenSuccesses := 0 }
  else if counted.consecutiveFailures ≥ counted.failureThreshold then
    { counted with circuitState := .isOpen }
  else counted

def setCooldown (seconds : Int) : ModelStats :=
  { stats with
    cooldownUntilMono := some (now.mono + seconds)
    cooldownUntil := some (now.wall + seconds) }

def recordRateLimit (retryAfterSeconds : Option Int) :
    ModelStats :=
  ((stats.count .rateLimit).recordFailure now).setCooldown now (retryAfterSeconds.getD 120)

def recordTimeout : ModelStats :=
  (stats.count .timeout).recordFailure now

/-- `check_circuit`: the answer and what it leaves. -/
def checkCircuit : Bool × ModelStats :=
  match stats.circuitState with
  | .closed => (true, stats)
  | .isOpen =>
      match stats.lastFailureMono, stats.lastFailureTime with
      | some failed, _ =>
          if now.mono - failed ≥ stats.recoveryTimeoutSeconds then
            (true, { stats with circuitState := .halfOpen })
          else (false, stats)
      | none, some failed =>
          -- No monotonic reading survives persistence.
          if now.wall - failed ≥ stats.recoveryTimeoutSeconds then
            (true, { stats with circuitState := .halfOpen })
          else (false, stats)
      | none, none => (false, stats)
  | .halfOpen => (!stats.probeInProgress, stats)

def toDict : StatsDict :=
  { counters := stats.counters
    circuitState := stats.circuitState
    lastSuccess := stats.lastSuccess
    lastFailure := stats.lastFailure
    cooldownUntil := stats.cooldownUntil }

def fromDict (data : StatsDict) (now : Clock) : ModelStats :=
  { counters := data.counters
    circuitState := data.circuitState
    lastSuccess := data.lastSuccess
    lastFailure := data.lastFailure
    lastFailureTime := data.lastFailure
    cooldownUntil := data.cooldownUntil
    cooldownUntilMono := data.cooldownUntil.bind fun deadline =>
      if deadline - now.wall > 0 then some (now.mono + (deadline - now.wall)) else none }

end ModelStats

/-- What happens to the statistics of a model. A restore is a round trip through
`to_dict` and `from_dict`. -/
inductive StatsEvent where
  | success (now : Clock)
  | failure (now : Clock)
  | rateLimit (now : Clock) (retryAfterSeconds : Option Int)
  | timeout (now : Clock)
  | check (now : Clock)
  | restore (now : Clock)
  deriving DecidableEq, Repr

def StatsEvent.failedAt : StatsEvent → Option Clock
  | .failure now => some now
  | .rateLimit now _ => some now
  | .timeout now => some now
  | _ => none

def StatsEvent.isSuccess : StatsEvent → Bool
  | .success _ => true
  | _ => false

namespace ModelStats

def step (stats : ModelStats) : StatsEvent → ModelStats
  | .success now => stats.recordSuccess now
  | .failure now => stats.recordFailure now
  | .rateLimit now retryAfterSeconds => stats.recordRateLimit now retryAfterSeconds
  | .timeout now => stats.recordTimeout now
  | .check now => (stats.checkCircuit now).2
  | .restore now => fromDict stats.toDict now

def after (history : List StatsEvent) : ModelStats := history.foldl step {}

theorem after_snoc (history : List StatsEvent) (event : StatsEvent) :
    after (history ++ [event]) = (after history).step event := by
  rw [after, List.foldl_append]
  rfl

end ModelStats

end AgenticRuntime
