/-
What an `OrchestratorAgent` does with one model response: `_parse_output` and
`run_adaptive`, which register a plan, assign agents and execute it, and
`execute_as_dag`, which runs the reported subtasks again as a DAG.

The execution trace and the confidence of an output are left out.
-/

import AgenticRuntime.Agents.PlanRun

namespace AgenticRuntime

/-- An entry of `OrchestratorOutput.subtasks`; `none` is a missing key. -/
structure SubTaskView where
  id : StepName
  description : String
  capabilities : List String
  dependencies : Option (List StepName) := none
  deriving DecidableEq, Repr

def SubTask.view (subtask : SubTask) : SubTaskView :=
  { id := subtask.id
    description := subtask.description
    capabilities := subtask.requiredCapabilities.map CapabilityType.value }

/-- `execution` is what `_execute_plan` did, its results the `final_result`. -/
structure OrchestratorOutput where
  success : Bool
  error : Option String := none
  unfinished : List StepName := []
  subtasks : List SubTaskView := []
  agentAssignments : StepName → Option AgentName := fun _ => none
  execution : Option PlanRun := none

namespace Orchestrator

variable (orchestrator : Orchestrator)

def report (subtasks : List SubTaskView) (execution : Option PlanRun) : OrchestratorOutput :=
  let unfinished := orchestrator.unfinishedSubtasks
  { success := unfinished = []
    error :=
      if unfinished = [] then none
      else some ("Subtasks did not complete: " ++ ", ".intercalate unfinished)
    unfinished := unfinished
    subtasks := subtasks
    agentAssignments := orchestrator.assignments
    execution := execution }

variable (maxParallel : Nat) (timeoutSeconds : AgentName → Option String)

variable (behaviour : Behaviour)

/-- A run of `_execute_plan` to its end. -/
def executePlan (schedule : List PlanEvent) :
    Option PlanRun :=
  match Transition.replay (orchestrator.planNext maxParallel behaviour)
      (orchestrator.startPlan maxParallel) schedule with
  | none => none
  | some run => if run.finished then some run else none

def carryOut (schedule : List PlanEvent) (subtasks : List SubTaskView) :
    Option (Orchestrator × OrchestratorOutput) :=
  let assigned := orchestrator.assignAgents
  if assigned.agents = [] then some (assigned, assigned.report subtasks none)
  else
    (assigned.executePlan maxParallel behaviour schedule).map fun run =>
      let done := { assigned with status := run.status }
      (done, done.report subtasks (some run))

/-- `_parse_output` for a response that holds a plan. -/
def parseOutput (schedule : List PlanEvent) (plan : List SubTaskData) :
    Option (Orchestrator × OrchestratorOutput) :=
  let registered := orchestrator.installPlan 0 plan
  let subtasks := (planned 0 plan).map SubTask.view
  match registered.validatePlan with
  | .error failure =>
      let message := failure.message
      some (registered, {
        success := false
        error := some s!"Invalid execution plan: {message}"
        subtasks := subtasks })
  | .ok _ => registered.carryOut maxParallel behaviour schedule subtasks

/-- `run_adaptive` on the subtasks derived from the findings. `none` is also the
exception of `_execute_plan` on an invalid plan. -/
def runAdaptive (schedule : List PlanEvent) (plan : List SubTaskData) :
    Option (Orchestrator × OrchestratorOutput) :=
  let registered := orchestrator.registerSubtasks plan
  let subtasks := registered.subtasks.map SubTask.view
  match registered.agents, registered.validatePlan with
  | _ :: _, .error _ => none
  | _, _ =>
      (registered.carryOut maxParallel behaviour schedule subtasks).map fun finish =>
        if subtasks = [] then
          (finish.1, { finish.2 with
            success := false
            error := some "adaptive decomposition produced no subtasks"
            unfinished := [] })
        else finish

/-! ### What assignment leaves alone -/

theorem assignAgent_frame (subtask : SubTask) :
    (orchestrator.assignAgent subtask).subtasks = orchestrator.subtasks ∧
      (orchestrator.assignAgent subtask).agents = orchestrator.agents ∧
      (orchestrator.assignAgent subtask).agentCapabilities = orchestrator.agentCapabilities ∧
      (orchestrator.assignAgent subtask).status = orchestrator.status := by
  unfold assignAgent
  split
  · exact ⟨rfl, rfl, rfl, rfl⟩
  · exact ⟨rfl, rfl, rfl, rfl⟩

private theorem assignEach_frame (subtasks : List SubTask) (orchestrator : Orchestrator) :
    (subtasks.foldl assignAgent orchestrator).subtasks = orchestrator.subtasks ∧
      (subtasks.foldl assignAgent orchestrator).agents = orchestrator.agents ∧
      (subtasks.foldl assignAgent orchestrator).agentCapabilities =
        orchestrator.agentCapabilities ∧
      (subtasks.foldl assignAgent orchestrator).status = orchestrator.status := by
  induction subtasks generalizing orchestrator with
  | nil => exact ⟨rfl, rfl, rfl, rfl⟩
  | cons subtask rest ih =>
      obtain ⟨subtasks, agents, capabilities, status⟩ := ih (orchestrator.assignAgent subtask)
      obtain ⟨first, second, third, fourth⟩ := orchestrator.assignAgent_frame subtask
      exact ⟨subtasks.trans first, agents.trans second, capabilities.trans third,
        status.trans fourth⟩

@[simp]
theorem assignAgents_subtasks :
    orchestrator.assignAgents.subtasks = orchestrator.subtasks :=
  (assignEach_frame _ _).1

@[simp]
theorem assignAgents_agents :
    orchestrator.assignAgents.agents = orchestrator.agents :=
  (assignEach_frame _ _).2.1

@[simp]
theorem assignAgents_capabilities :
    orchestrator.assignAgents.agentCapabilities = orchestrator.agentCapabilities :=
  (assignEach_frame _ _).2.2.1

@[simp]
theorem assignAgents_status :
    orchestrator.assignAgents.status = orchestrator.status :=
  (assignEach_frame _ _).2.2.2

theorem assignments_congr {left right : Orchestrator} (subtasks : left.subtasks = right.subtasks)
    (capabilities : left.agentCapabilities = right.agentCapabilities) :
    left.assignments = right.assignments := by
  funext id
  simp only [assignments, ranked, subtasks, capabilities]

theorem installPlan_agents (index : Nat) (plan : List SubTaskData) :
    (orchestrator.installPlan index plan).agents = orchestrator.agents ∧
      (orchestrator.installPlan index plan).agentCapabilities =
        orchestrator.agentCapabilities ∧
      (orchestrator.installPlan index plan).fallbackChains = orchestrator.fallbackChains := by
  induction plan generalizing orchestrator index with
  | nil => exact ⟨rfl, rfl, rfl⟩
  | cons data rest ih => exact ih _ _

/-! ### What a run reports -/

inductive CarriedOut (orchestrator : Orchestrator) (maxParallel : Nat) (behaviour : Behaviour)
    (schedule : List PlanEvent) (subtasks : List SubTaskView) :
    Orchestrator → OrchestratorOutput → Prop where
  | idle (unstaffed : orchestrator.agents = []) :
      CarriedOut orchestrator maxParallel behaviour schedule subtasks orchestrator.assignAgents
        (orchestrator.assignAgents.report subtasks none)
  | executed (staffed : orchestrator.agents ≠ []) {run : PlanRun}
      (ran : orchestrator.assignAgents.executePlan maxParallel behaviour schedule = some run) :
      CarriedOut orchestrator maxParallel behaviour schedule subtasks
        { orchestrator.assignAgents with status := run.status }
        (report { orchestrator.assignAgents with status := run.status } subtasks run)

theorem carryOut_some {orchestrator done : Orchestrator} {maxParallel : Nat}
    {behaviour : Behaviour} {schedule : List PlanEvent} {subtasks : List SubTaskView}
    {output : OrchestratorOutput}
    (carried : orchestrator.carryOut maxParallel behaviour schedule subtasks =
      some (done, output)) :
    orchestrator.CarriedOut maxParallel behaviour schedule subtasks done output := by
  unfold carryOut at carried
  have agents := orchestrator.assignAgents_agents
  by_cases unstaffed : orchestrator.agents = []
  · rw [if_pos (agents.trans unstaffed)] at carried
    cases carried
    exact .idle unstaffed
  · rw [if_neg (agents ▸ unstaffed)] at carried
    obtain ⟨run, ran, same⟩ := Option.map_eq_some_iff.mp carried
    cases same
    exact .executed unstaffed ran

/-- The two ways `_parse_output` ends. -/
theorem parseOutput_some {orchestrator done : Orchestrator} {maxParallel : Nat}
    {behaviour : Behaviour} {schedule : List PlanEvent} {plan : List SubTaskData}
    {output : OrchestratorOutput}
    (parsed : orchestrator.parseOutput maxParallel behaviour schedule plan =
      some (done, output)) :
    ((orchestrator.installPlan 0 plan).validatePlan ≠ .ok () ∧
      done = orchestrator.installPlan 0 plan ∧
      ∃ error, output = {
        success := false
        error := some error
        subtasks := (planned 0 plan).map SubTask.view }) ∨
    ((orchestrator.installPlan 0 plan).validatePlan = .ok () ∧
      (orchestrator.installPlan 0 plan).CarriedOut maxParallel behaviour schedule
        ((planned 0 plan).map SubTask.view) done output) := by
  simp only [parseOutput] at parsed
  cases validated : (orchestrator.installPlan 0 plan).validatePlan with
  | error failure =>
      rw [validated] at parsed
      cases parsed
      exact .inl ⟨nofun, rfl, _, rfl⟩
  | ok _ =>
      rw [validated] at parsed
      exact .inr ⟨rfl, carryOut_some parsed⟩

/-! ### execute_as_dag -/

/-- The agent that runs a subtask of the DAG; a missing assignment reads as `""`. -/
def stepAgent (output : OrchestratorOutput) (id : StepName) :
    Option AgentName :=
  let name := (output.agentAssignments id).getD ""
  if name ∈ orchestrator.agents then some name else none

def dagStep (agent : AgentName) (view : SubTaskView) :
    StepDefinition :=
  { name := view.id
    timeoutSeconds := timeoutSeconds agent
    dependsOn := view.dependencies.getD [] }

def addStep (output : OrchestratorOutput) (dag : DAG) (view : SubTaskView) : Except String DAG :=
  match orchestrator.stepAgent output view.id with
  | none => .ok dag
  | some agent => dag.add (dagStep timeoutSeconds agent view)

/-- The DAG `execute_as_dag` runs; without success there is none. -/
def buildDag (name : String) (output : OrchestratorOutput) : Except String (Option DAG) :=
  if output.success then
    (output.subtasks.foldlM (orchestrator.addStep timeoutSeconds output) (DAG.empty name)).map some
  else .ok none

end Orchestrator

end AgenticRuntime
