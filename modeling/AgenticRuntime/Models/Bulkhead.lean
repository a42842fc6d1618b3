/-
`execute_with_bulkhead`: the semaphore of a provider, its probe lock, and who is
inside the guarded body.

Callers are tasks on one event loop. They give up control where the code awaits:
for the semaphore, for the probe lock and in the body. The outcomes they and
others record are events of their own.
-/

import AgenticRuntime.Models.ModelStats
import AgenticRuntime.Transition

namespace AgenticRuntime

open Function

/-- Where a caller is. `inside` keeps the state that the circuit had when the caller
entered, and whether it entered as the probe. -/
inductive CallPhase where
  | waiting
  | acquiring
  | inside (entered : CircuitState) (probe : Bool)
  deriving DecidableEq, Repr

structure Entrance (Caller Model : Type) where
  caller : Caller
  model : Model
  circuitState : CircuitState
  deriving DecidableEq, Repr

/-- `taken` counts the slots of a provider's semaphore that are in use. `entrances`
lists who entered so far; no code reads it. -/
structure Bulkhead (Caller Model Provider : Type) where
  stats : Model → ModelStats
  callers : Caller → Option (Model × CallPhase) := fun _ => none
  taken : Provider → Nat := fun _ => 0
  probeLocks : Provider → Option Caller := fun _ => none
  entrances : List (Entrance Caller Model) := []

/-- `acquire` and `lock` are the ends of the two waits, `leave` is the end of the body
and `cancel` a cancellation during a wait. -/
inductive BulkheadEvent (Caller Model : Type) where
  | attempt (caller : Caller) (model : Model)
  | execute (caller : Caller) (model : Model)
  | acquire (caller : Caller)
  | lock (caller : Caller)
  | leave (caller : Caller)
  | cancel (caller : Caller)
  | record (model : Model) (event : StatsEvent)

namespace Bulkhead

variable {Caller Model Provider : Type} [DecidableEq Caller] [DecidableEq Model]
  [DecidableEq Provider]

section

variable (provider : Model → Provider) (limit : Provider → Nat)
  (router : Bulkhead Caller Model Provider)

variable (model : Model) (caller : Caller)

def isModelReadyForAttempt : Bool :=
  !((router.stats model).circuitState = .halfOpen &&
      (router.probeLocks (provider model)).isSome) &&
    router.taken (provider model) < limit (provider model)

def setPhase (model : Model) (phase : CallPhase) :
    Bulkhead Caller Model Provider :=
  { router with callers := update router.callers caller (some (model, phase)) }

def done :
    Bulkhead Caller Model Provider :=
  { router with callers := update router.callers caller none }

def takeSlot :
    Bulkhead Caller Model Provider :=
  { router with
    taken := update router.taken (provider model) (router.taken (provider model) + 1) }

def releaseSlot :
    Bulkhead Caller Model Provider :=
  { router with
    taken := update router.taken (provider model) (router.taken (provider model) - 1) }

def enter (model : Model) (probe : Bool) : Bulkhead Caller Model Provider :=
  let entered := (router.stats model).circuitState
  { router.setPhase caller model (.inside entered probe) with
    entrances := router.entrances ++ [⟨caller, model, entered⟩] }

def setProbe (probing : Bool) :
    Bulkhead Caller Model Provider :=
  { router with
    stats := update router.stats model
      { router.stats model with probeInProgress := probing } }

def holdLock (holder : Option Caller) :
    Bulkhead Caller Model Provider :=
  { router with probeLocks := update router.probeLocks (provider model) holder }

def pass (model : Model) :
    Bulkhead Caller Model Provider :=
  let holding := router.takeSlot provider model
  if (router.stats model).circuitState = .halfOpen then
    if (router.probeLocks (provider model)).isSome then
      -- CircuitResolvedError
      (holding.releaseSlot provider model).done caller
    else holding.setPhase caller model .acquiring
  else holding.enter caller model false

def locked (model : Model) :
    Bulkhead Caller Model Provider :=
  if (router.stats model).circuitState = .halfOpen then
    ((router.holdLock provider model (some caller)).setProbe model true).enter caller model true
  else
    -- CircuitResolvedError
    (router.releaseSlot provider model).done caller

/-- The `finally` blocks behind the body. -/
def leaveBody (model : Model) (probe : Bool) : Bulkhead Caller Model Provider :=
  let freed :=
    if probe then (router.setProbe model false).holdLock provider model none else router
  (freed.releaseSlot provider model).done caller

def next :
    BulkheadEvent Caller Model → Option (Bulkhead Caller Model Provider)
  | .attempt caller model =>
      if (router.callers caller).isSome then none
      else if router.isModelReadyForAttempt provider limit model then
        some (router.setPhase caller model .waiting)
      else some router
  | .execute caller model =>
      if (router.callers caller).isSome then none
      else some (router.setPhase caller model .waiting)
  | .acquire caller =>
      match router.callers caller with
      | some (model, .waiting) =>
          if router.taken (provider model) < limit (provider model) then
            some (router.pass provider caller model)
          else none
      | _ => none
  | .lock caller =>
      match router.callers caller with
      | some (model, .acquiring) =>
          if (router.probeLocks (provider model)).isSome then none
          else some (router.locked provider caller model)
      | _ => none
  | .leave caller =>
      match router.callers caller with
      | some (model, .inside _ probe) => some (router.leaveBody provider caller model probe)
      | _ => none
  | .cancel caller =>
      match router.callers caller with
      | some (_, .waiting) => some (router.done caller)
      | some (model, .acquiring) => some ((router.releaseSlot provider model).done caller)
      | _ => none
  | .record model event =>
      match event with
      | .restore _ => none
      | _ => some { router with
          stats := update router.stats model ((router.stats model).step event) }

end

end Bulkhead

end AgenticRuntime
