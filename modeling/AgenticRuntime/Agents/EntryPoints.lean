/-
The entry points of an `OrchestratorAgent` and what one call of them makes the agents
do: the agents that are invoked for each subtask, in order, and which of them succeed.

`execute_as_dag` and `execute_as_pipeline` get their subtasks from `run`, which has
executed the plan when it returns.
-/

import AgenticRuntime.Agents.OrchestratedDag
import AgenticRuntime.Agents.RunIndependence
import AgenticRuntime.Engine.StepExecutor

namespace AgenticRuntime

open Transition

/-- Whether an agent succeeds is recorded of the plan only: the engines that execute the
subtasks once more take what an agent returns as it is. -/
inductive Activity where
  | invoked (subtask : StepName) (agent : AgentName)
  | succeeded (subtask : StepName) (agent : AgentName)
  deriving DecidableEq, Repr

def Activity.subtask : Activity → StepName
  | .invoked subtask _ => subtask
  | .succeeded subtask _ => subtask

def Activity.Succeeds : Activity → Prop
  | .invoked _ _ => False
  | .succeeded _ _ => True

def AtMostOnce (log : List Activity) : Prop :=
  log.Pairwise fun earlier later => earlier.Succeeds → later.subtask ≠ earlier.subtask

/-! ### The plan -/

def Lane.activity (id : StepName) : Lane → List Activity
  | .trying _ agent _ => [.invoked id agent]
  | .done (.returned (.output agent)) => [.succeeded id agent]
  | _ => []

def PlanRun.batchActivity (run : PlanRun) : List Activity :=
  run.batch.flatMap fun id => (run.lane id).activity id

def PlanRun.activity (after : PlanRun) : PlanEvent → List Activity
  | .answered id => (after.lane id).activity id
  | .gathered => after.batchActivity

variable (orchestrator : Orchestrator)

def Orchestrator.planMoves (maxParallel : Nat) (behaviour : Behaviour) :
    PlanRun × List Activity → PlanEvent → Option (PlanRun × List Activity) :=
  logged (orchestrator.planNext maxParallel behaviour)
    fun _ event after => after.activity event

def Orchestrator.planBegins (maxParallel : Nat) :
    PlanRun × List Activity :=
  (orchestrator.startPlan maxParallel, (orchestrator.startPlan maxParallel).batchActivity)

/-! ### The DAG -/

open StepExecutor in
def bodiesEntered (agentOf : StepName → Option AgentName) (names : List StepName)
    (before after : Run Point) : List Activity :=
  names.flatMap fun step =>
    match after.state.task step with
    | some (.executing (.attempting .body _)) =>
        if after.state.task step = before.state.task step then []
        else (agentOf step).toList.map (.invoked step)
    | _ => []

/-! ### The pipeline -/

/-- An element of the pipeline: a subtask, the agent that runs it, and its step. -/
structure PipelineStep where
  subtask : StepName
  agent : AgentName
  definition : StepDefinition
  deriving DecidableEq, Repr

/-- `agent_to_step`; `configName` is `agent.config.name`. -/
def agentToStep (configName : AgentName → String) (timeoutSeconds : AgentName → Option String)
    (agent : AgentName) (view : SubTaskView) : PipelineStep :=
  { subtask := view.id
    agent := agent
    definition :=
      { name := if view.id = "" then configName agent else view.id
        timeoutSeconds := timeoutSeconds agent } }

/-- The pipeline `execute_as_pipeline` builds; without success there is none. -/
def Orchestrator.buildPipeline (configName : AgentName → String)
    (timeoutSeconds : AgentName → Option String) (output : OrchestratorOutput) :
    Option (List PipelineStep) :=
  if output.success then
    some (output.subtasks.filterMap fun view =>
      (orchestrator.stepAgent output view.id).map fun agent =>
        agentToStep configName timeoutSeconds agent view)
  else none

/-- `PipelineExecutor.execute` between two awaits: the elements to come, and the one that
is executing. -/
structure PipelineRun where
  ctx : Context
  left : List PipelineStep
  current : Option (PipelineStep × StepExecutor.Point) := none
  results : List StepResult := []
  overallStatus : StepStatus := .running

namespace PipelineRun

open StepExecutor

def recordStep (run : PipelineRun) (result : StepResult) : PipelineRun :=
  let recorded : PipelineRun := { run with current := none, results := run.results ++ [result] }
  if result.isFailed then { recorded with left := [], overallStatus := .failed } else recorded

def turn (run : PipelineRun) (element : PipelineStep) : Turn → PipelineRun
  | (.awaiting point, ctx) => { run with ctx := ctx, current := some (element, point) }
  | (.finished (.returned result), ctx) => { run with ctx := ctx }.recordStep result
  | (.finished (.raised _ _), ctx) =>
      { run with ctx := ctx, current := none, left := [], overallStatus := .failed }

def next (run : PipelineRun) (input : Input) : Option PipelineRun :=
  match run.current, run.left with
  | some (element, point), _ =>
      (resume element.definition point run.ctx input).map (run.turn element)
  | none, element :: rest =>
      some ({ run with left := rest }.turn element (enter element.definition run.ctx input))
  | none, [] =>
      if run.overallStatus = .running then some { run with overallStatus := .success } else none

/-- The step function asks the context for `task` before it calls the agent. -/
def activity (hasTask : Bool) (before after : PipelineRun) : List Activity :=
  match after.current with
  | some (element, .attempting .body _) =>
      if after.current = before.current ∨ hasTask = false then []
      else [.invoked element.subtask element.agent]
  | _ => []

end PipelineRun

/-! ### Calls -/

/-- The context of the caller is part of the two entry points that execute in it. -/
inductive EntryPoint where
  | run
  | runAdaptive
  | executeAsDag (ctx : Context) (workflowId : String)
  | executeAsPipeline (ctx : Context) (hasTask : Bool)

/-- One call, with the plan the model returns or the findings lead to, and what the agents
do with its subtasks. -/
structure OrchestratorCall where
  crew : Crew
  entry : EntryPoint
  plan : List SubTaskData
  maxParallel : Nat := 3
  behaviour : Behaviour
  name : String := "orchestrated:"
  timeoutSeconds : AgentName → Option String := fun _ => none
  configName : AgentName → String := id

namespace OrchestratorCall

variable (call : OrchestratorCall)

def registered : Orchestrator :=
  match call.entry with
  | .runAdaptive => (Orchestrator.recruit call.crew).registerSubtasks call.plan
  | _ => (Orchestrator.recruit call.crew).installPlan 0 call.plan

def assigned : Orchestrator := call.registered.assignAgents

/-- `run` returns this output, and the agents have done this much. -/
structure Decomposed (call : OrchestratorCall) (log : List Activity) (done : Orchestrator)
    (output : OrchestratorOutput) : Prop where
  ran : ∃ schedule, (Orchestrator.recruit call.crew).parseOutput call.maxParallel call.behaviour
      schedule call.plan = some (done, output) ∧
    (call.crew.agents = [] ∧ log = [] ∨ call.crew.agents ≠ [] ∧ ∃ run, replay
      (call.assigned.planMoves call.maxParallel call.behaviour)
      (call.assigned.planBegins call.maxParallel) schedule = some (run, log))

/-- The settings `execute_as_dag` passes to its engine. -/
def settings (dag : DAG) : Settings :=
  { dag := dag, maxConcurrency := call.maxParallel }

inductive Logs (call : OrchestratorCall) : List Activity → Prop where
  | idle : Logs call []
  | planning (staffed : call.crew.agents ≠ []) {schedule : List PlanEvent} {run : PlanRun}
      {log : List Activity}
      (replayed : replay (call.assigned.planMoves call.maxParallel call.behaviour)
        (call.assigned.planBegins call.maxParallel) schedule = some (run, log)) : Logs call log
  | dag {ctx : Context} {workflowId : String} (entry : call.entry = .executeAsDag ctx workflowId)
      {log more : List Activity} {done : Orchestrator} {output : OrchestratorOutput}
      (decomposed : call.Decomposed log done output) {dag : DAG}
      (built : done.buildDag call.timeoutSeconds call.name output = .ok (some dag))
      {first : Run StepExecutor.Point}
      (started : DAGExecutor.execute (call.settings dag) ctx workflowId = .ok first)
      {events : List (Event StepExecutor.Input)} {run : Run StepExecutor.Point}
      (replayed : replay
        (logged (DAGExecutor.next StepExecutor.executor (call.settings dag))
          fun before _ after => bodiesEntered (done.stepAgent output) dag.stepNames before after)
        (first, []) events = some (run, more)) : Logs call (log ++ more)
  | pipeline {ctx : Context} {hasTask : Bool}
      (entry : call.entry = .executeAsPipeline ctx hasTask)
      {log more : List Activity} {done : Orchestrator} {output : OrchestratorOutput}
      (decomposed : call.Decomposed log done output) {elements : List PipelineStep}
      (built : done.buildPipeline call.configName call.timeoutSeconds output = some elements)
      {inputs : List StepExecutor.Input} {run : PipelineRun}
      (replayed : replay
        (logged PipelineRun.next
          fun before _ after => PipelineRun.activity hasTask before after)
        ({ ctx := ctx, left := elements }, []) inputs = some (run, more)) : Logs call (log ++ more)

def RunsOnce : Prop := ∀ log, call.Logs log → AtMostOnce log

/-- The ids of the plan, in its order and as often as it has them, whose agent is
registered. -/
def staffedIds : List StepName :=
  ((Orchestrator.planned 0 call.plan).map SubTask.id).filter fun id =>
    (call.registered.assignments id).getD "" ∈ call.registered.agents

/-- The subtasks are executed once more: all of them succeed, some have an agent, and
the engine they are handed to comes to run one. -/
def Repeats : Prop :=
  (match call.entry with
    | .run | .runAdaptive => False
    | .executeAsDag _ _ => call.staffedIds.Nodup
    | .executeAsPipeline _ hasTask => hasTask = true) ∧
  (∀ id ∈ call.registered.subtaskIds, call.behaviour.Delivers call.assigned id) ∧
  call.staffedIds ≠ []

end OrchestratorCall

end AgenticRuntime
