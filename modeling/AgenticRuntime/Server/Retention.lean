/-
The delayed clears of one run id: the `_delayed_clear` tasks and the entry of
`_pending_clears`.

Cancelling a task only asks for it; the task ends later, and its done-callback
runs later again. The callback does not look at whose entry it pops.
-/

import Mathlib.Logic.Function.Basic

namespace AgenticRuntime

inductive TimerPhase where
  | created
  | sleeping (due : Nat)
  | ended
  deriving DecidableEq, Repr

/-- `cancelled` says that `cancel` has been called. -/
structure Timer where
  phase : TimerPhase
  cancelled : Bool
  deriving DecidableEq, Repr

/-- `task.done()` -/
def Timer.done (timer : Timer) : Bool := timer.phase = .ended

def Timer.pending (timer : Timer) : Bool := !timer.done && !timer.cancelled

/-- `timers` are the tasks whose done-callback has not run, by the order of their
creation. `lastTerminal` is when the latest terminal event was broadcast, which
no code reads. -/
structure Retention where
  timers : Nat → Option Timer := fun _ => none
  scheduled : Nat := 0
  pendingClear : Option Nat := none
  lastTerminal : Option Nat := none

namespace Retention

variable (retention : Retention)

def setTimer (id : Nat) (timer : Option Timer) : Retention :=
  { retention with timers := Function.update retention.timers id timer }

/-- `existing is not None and not existing.done()`, and then `existing.cancel()`. -/
def cancelExisting : Retention :=
  match retention.pendingClear with
  | none => retention
  | some id =>
      match retention.timers id with
      | none => retention
      | some timer =>
          if timer.done then retention
          else retention.setTimer id (some { timer with cancelled := true })

def scheduleDelayedClear (now : Nat) : Retention :=
  let cancelled := retention.cancelExisting
  { timers := Function.update cancelled.timers cancelled.scheduled
      (some { phase := .created, cancelled := false })
    scheduled := cancelled.scheduled + 1
    pendingClear := some cancelled.scheduled
    lastTerminal := some now }

/-- `_delayed_clear` reaches its sleep. -/
def startTimer (delay now id : Nat) : Option Retention :=
  match retention.timers id with
  | some { phase := .created, cancelled := false } =>
      some (retention.setTimer id (some { phase := .sleeping (now + delay), cancelled := false }))
  | _ => none

/-- The sleep is over, and the task goes on to `clear_buffer` and its end. -/
def fireTimer (now id : Nat) : Option Retention :=
  match retention.timers id with
  | some { phase := .sleeping due, cancelled := false } =>
      if due ≤ now then
        some (retention.setTimer id (some { phase := .ended, cancelled := false }))
      else none
  | _ => none

/-- `CancelledError` is thrown into the task. -/
def cancelTimer (id : Nat) : Option Retention :=
  match retention.timers id with
  | some timer =>
      if timer.cancelled && !timer.done then
        some (retention.setTimer id (some { timer with phase := .ended }))
      else none
  | none => none

/-- The done-callback: `self._pending_clears.pop(run_id, None)`. -/
def timerDone (id : Nat) : Option Retention :=
  match retention.timers id with
  | some timer =>
      if timer.done then some { retention.setTimer id none with pendingClear := none } else none
  | none => none

end Retention

end AgenticRuntime
