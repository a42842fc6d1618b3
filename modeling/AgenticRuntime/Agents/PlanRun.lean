/-
`_execute_plan` as a transition system. Between two turns of its loop a batch of
subtasks is in flight; an event is one answer to one of them, in any order, or
the return of `gather` once all of them are done.
-/

import Mathlib.Data.Finset.Basic
import AgenticRuntime.Transition
import AgenticRuntime.Agents.Orchestrator

namespace AgenticRuntime

open Function

/-- How one call of an agent ends: with a result, with a `TaskOutput` that
reports no success, by raising an `Exception`, with an exception object as its
result, or by raising a `BaseException` that is no `Exception`. -/
inductive AgentReply where
  | output
  | unsuccessful (error : String)
  | raised (errorType message : String)
  | errorValue (message : String)
  | interrupted (message : String)
  deriving DecidableEq, Repr

/-- `route_handoff` swallows an `Exception` of the sink. -/
inductive SinkReply where
  | handled
  | interrupted (message : String)
  deriving DecidableEq, Repr

/-- What the agents and the escalation sink do with each subtask. -/
structure Behaviour where
  reply : StepName → AgentName → AgentReply
  sink : StepName → SinkReply := fun _ => .handled

/-- An entry of the `results` dict. -/
inductive SubtaskResult where
  | output (agent : AgentName)
  | handoff (summary : HandoffSummary)
  | error (message : String)
  | skipped (dependency : StepName)
  deriving DecidableEq, Repr

/-- An element of what `gather` returns. -/
inductive BatchItem where
  | returned (result : SubtaskResult)
  | errorValue (message : String)
  | raised (message : String)
  deriving DecidableEq, Repr

/-- Where `_execute_subtask_with_fallback` is for one subtask. -/
inductive Lane where
  | trying (attempted : List (AgentName × String)) (agent : AgentName)
      (fallbacks : List AgentName)
  | escalating (attempted : List (AgentName × String))
  | done (item : BatchItem)
  deriving DecidableEq, Repr

def Lane.isDone : Lane → Bool
  | .done _ => true
  | _ => false

def Lane.tryNext (attempted : List (AgentName × String)) : List AgentName → Lane
  | [] => .escalating attempted
  | agent :: fallbacks => .trying attempted agent fallbacks

def Lane.write : Lane → StepStatus → StepStatus
  | .escalating _, _ => .failed
  | .done (.returned (.output _)), _ => .success
  | .done (.errorValue _), _ => .success
  | _, status => status

/-- `started` lists the subtasks that were handed to `gather`, in order. -/
structure PlanRun where
  status : StepName → StepStatus
  executed : Finset StepName := ∅
  results : StepName → Option SubtaskResult := fun _ => none
  batch : List StepName := []
  lane : StepName → Lane := fun _ => .escalating []
  started : List StepName := []
  finished : Bool := false

namespace PlanRun

variable (run : PlanRun)

def setLane (id : StepName) (lane : Lane) : PlanRun :=
  { run with
    lane := update run.lane id lane
    status := update run.status id (lane.write (run.status id)) }

/-! ### Skipping -/

def blockedBy (subtask : SubTask) : Option StepName :=
  subtask.dependencies.find? fun dep => (run.status dep).Blocking

def skipSubtask (subtask : SubTask) : PlanRun :=
  if subtask.id ∈ run.executed then run
  else
    match run.blockedBy subtask with
    | none => run
    | some dep =>
        { run with
          status := update run.status subtask.id .skipped
          results := update run.results subtask.id (some (.skipped dep))
          executed := insert subtask.id run.executed }

/-- One pass of the `while changed` loop. -/
def skipPass (subtasks : List SubTask) (run : PlanRun) : PlanRun :=
  subtasks.foldl skipSubtask run

/-- `_skip_blocked_subtasks`; every pass but the last one skips a subtask. -/
def skipBlockedSubtasks (subtasks : List SubTask) : Nat → PlanRun → PlanRun
  | 0, run => run
  | fuel + 1, run =>
      if (skipPass subtasks run).executed = run.executed then skipPass subtasks run
      else skipBlockedSubtasks subtasks fuel (skipPass subtasks run)

/-! ### Recording -/

def recordItem (id : StepName) : PlanRun :=
  match run.lane id with
  | .done (.returned result) =>
      { run with
        results := update run.results id (some result)
        executed := insert id run.executed }
  | .done (.errorValue message) | .done (.raised message) =>
      { run with
        status := update run.status id .failed
        results := update run.results id (some (.error message))
        executed := insert id run.executed }
  | _ => run

def recordBatchResults : PlanRun :=
  { run.batch.foldl recordItem run with batch := [] }

end PlanRun

namespace Orchestrator

variable (orchestrator : Orchestrator) (maxParallel : Nat) (behaviour : Behaviour)

def findReadySubtasks (run : PlanRun) : List SubTask :=
  orchestrator.subtasks.filter fun subtask =>
    subtask.id ∉ run.executed ∧ ∀ dep ∈ subtask.dependencies, dep ∈ run.executed

/-- Hand a batch to `gather`: each of its coroutines runs to its first `await`. -/
def launch (run : PlanRun) (batch : List StepName) : PlanRun :=
  { run with
    batch := batch
    lane := fun id =>
      if id ∈ batch then .tryNext [] (orchestrator.candidates id) else run.lane id
    status := fun id =>
      if id ∈ batch then (Lane.tryNext [] (orchestrator.candidates id)).write (run.status id)
      else run.status id
    started := run.started ++ batch }

/-- What follows the loop: whatever was never scheduled is recorded as failed. -/
def closeOut (run : PlanRun) : PlanRun :=
  { run with
    status := fun id =>
      if id ∈ orchestrator.subtaskIds ∧ id ∉ run.executed then .failed else run.status id
    results := fun id =>
      if id ∈ orchestrator.subtaskIds ∧ id ∉ run.executed then
        some (.error "subtask was never scheduled")
      else run.results id
    finished := true }

/-- One turn of the loop, up to its `await`. -/
def takeTurn (run : PlanRun) : PlanRun :=
  if run.executed.card < orchestrator.subtasks.length then
    let skipped := run.skipBlockedSubtasks orchestrator.subtasks (orchestrator.subtasks.length + 1)
    match orchestrator.findReadySubtasks skipped with
    | [] => orchestrator.closeOut skipped
    | ready => orchestrator.launch skipped ((ready.take maxParallel).map SubTask.id)
  else orchestrator.closeOut run

/-- Execution of a plan that `_validate_plan` accepts. -/
def startPlan : PlanRun := orchestrator.takeTurn maxParallel { status := orchestrator.status }

end Orchestrator

def Lane.answer (behaviour : Behaviour) (id : StepName) : Lane → Option Lane
  | .trying attempted agent fallbacks =>
      match behaviour.reply id agent with
      | .output => some (.done (.returned (.output agent)))
      | .errorValue message => some (.done (.errorValue message))
      | .interrupted message => some (.done (.raised message))
      | .unsuccessful error =>
          some (.tryNext (attempted ++ [(agent, s!"unsuccessful result: {error}")]) fallbacks)
      | .raised errorType message =>
          some (.tryNext (attempted ++ [(agent, s!"{errorType}: {message}")]) fallbacks)
  | .escalating attempted =>
      match behaviour.sink id with
      | .handled =>
          some (.done (.returned (.handoff (HandoffSummary.fromExhaustedChain id attempted))))
      | .interrupted message => some (.done (.raised message))
  | .done _ => none

inductive PlanEvent where
  | answered (id : StepName)
  | gathered
  deriving DecidableEq, Repr

def Orchestrator.planNext (orchestrator : Orchestrator) (maxParallel : Nat)
    (behaviour : Behaviour) (run : PlanRun) : PlanEvent → Option PlanRun
  | .answered id =>
      if id ∈ run.batch then ((run.lane id).answer behaviour id).map (run.setLane id) else none
  | .gathered =>
      if run.batch ≠ [] ∧ ∀ id ∈ run.batch, (run.lane id).isDone then
        some (orchestrator.takeTurn maxParallel run.recordBatchResults)
      else none

end AgenticRuntime
