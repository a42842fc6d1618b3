/-
The dependencies of a plan in the DAG that `execute_as_dag` builds from it.

The reported subtasks carry no dependencies, so neither do the steps.
-/

import AgenticRuntime.Agents.OrchestratorRun
import AgenticRuntime.Engine.DagExecutor

namespace AgenticRuntime

open List DAGExecutor

def TaskPhase.HasStarted {Point : Type} : Option (TaskPhase Point) → Prop
  | some (.executing _) | some (.done _) => True
  | _ => False

namespace Orchestrator

section

variable {orchestrator : Orchestrator} {timeoutSeconds : AgentName → Option String}
  {output : OrchestratorOutput}

def stepsOf (orchestrator : Orchestrator) (timeoutSeconds : AgentName → Option String)
    (output : OrchestratorOutput) (subtasks : List SubTaskView) : List StepDefinition :=
  subtasks.filterMap fun view =>
    (orchestrator.stepAgent output view.id).map fun agent => dagStep timeoutSeconds agent view

theorem stepsOf_names (subtasks : List SubTaskView) :
    (orchestrator.stepsOf timeoutSeconds output subtasks).map StepDefinition.name =
      (subtasks.map SubTaskView.id).filter fun id =>
        (orchestrator.stepAgent output id).isSome := by
  unfold stepsOf
  induction subtasks with
  | nil => rfl
  | cons view rest ih =>
      cases agent : orchestrator.stepAgent output view.id with
      | none => simp only [filterMap_cons, map_cons, filter_cons, agent, ih, Option.map_none,
          Option.isSome_none, Bool.false_eq_true, if_false]
      | some name =>
          simp only [filterMap_cons, map_cons, filter_cons, agent, Option.map_some,
            Option.isSome_some, if_true]
          exact congrArg (List.cons view.id) ih

private theorem addSteps {subtasks : List SubTaskView} {dag whole : DAG}
    (folded : subtasks.foldlM (orchestrator.addStep timeoutSeconds output) dag = .ok whole) :
    whole.steps = dag.steps ++ orchestrator.stepsOf timeoutSeconds output subtasks := by
  induction subtasks generalizing dag with
  | nil =>
      cases folded
      exact (append_nil _).symm
  | cons view rest ih =>
      rw [foldlM_cons] at folded
      unfold stepsOf
      rw [filterMap_cons]
      cases agent : orchestrator.stepAgent output view.id with
      | none =>
          have passed : orchestrator.addStep timeoutSeconds output dag view = .ok dag := by
            simp only [addStep, agent]
          rw [passed] at folded
          exact ih folded
      | some name =>
          have added : orchestrator.addStep timeoutSeconds output dag view =
              dag.add (dagStep timeoutSeconds name view) := by
            simp only [addStep, agent]
          rw [added] at folded
          unfold DAG.add at folded
          split at folded
          · cases folded
          · rw [ih folded, append_assoc]
            rfl

private theorem addSteps_ok {subtasks : List SubTaskView} (dag : DAG)
    (distinct : ((dag.steps ++ orchestrator.stepsOf timeoutSeconds output subtasks).map
      StepDefinition.name).Nodup) :
    ∃ whole, subtasks.foldlM (orchestrator.addStep timeoutSeconds output) dag = .ok whole := by
  induction subtasks generalizing dag with
  | nil => exact ⟨dag, rfl⟩
  | cons view rest ih =>
      rw [foldlM_cons]
      unfold stepsOf at distinct
      rw [filterMap_cons] at distinct
      cases agent : orchestrator.stepAgent output view.id with
      | none =>
          rw [agent] at distinct
          have passed : orchestrator.addStep timeoutSeconds output dag view = .ok dag := by
            simp only [addStep, agent]
          rw [passed]
          exact ih dag distinct
      | some name =>
          rw [agent] at distinct
          have fresh : (dagStep timeoutSeconds name view).name ∉ dag.stepNames := by
            intro known
            rw [map_append, nodup_append] at distinct
            exact distinct.2.2 _ known _ mem_cons_self rfl
          have added : ∃ next, orchestrator.addStep timeoutSeconds output dag view = .ok next ∧
              next.steps = dag.steps ++ [dagStep timeoutSeconds name view] := by
            simp only [addStep, agent, DAG.add, dif_neg fresh]
            exact ⟨_, rfl, rfl⟩
          obtain ⟨next, taken, grown⟩ := added
          rw [taken]
          apply ih
          rw [grown, append_assoc]
          exact distinct

theorem buildDag_steps {name : String} {dag : DAG}
    (built : orchestrator.buildDag timeoutSeconds name output = .ok (some dag)) :
    output.success = true ∧
      dag.steps = orchestrator.stepsOf timeoutSeconds output output.subtasks := by
  unfold buildDag at built
  split at built
  · rename_i succeeded
    cases folded : output.subtasks.foldlM (orchestrator.addStep timeoutSeconds output)
        (DAG.empty name) with
    | error message =>
        rw [folded] at built
        cases built
    | ok whole =>
        rw [folded] at built
        cases built
        exact ⟨succeeded, addSteps folded⟩
  · cases built

theorem exists_buildDag (name : String) (succeeded : output.success = true)
    (distinct : ((output.subtasks.map SubTaskView.id).filter fun id =>
      (orchestrator.stepAgent output id).isSome).Nodup) :
    ∃ dag, orchestrator.buildDag timeoutSeconds name output = .ok (some dag) := by
  rw [← stepsOf_names] at distinct
  obtain ⟨whole, folded⟩ := addSteps_ok (DAG.empty name) distinct
  refine ⟨whole, ?_⟩
  rw [buildDag, if_pos succeeded, folded]
  rfl

end

/-! ### The plan and the DAG -/

/-- The plan declares that step `id` of the DAG waits for its step `dep`. -/
structure Declares (registered : Orchestrator) (dag : DAG) (id dep : StepName) : Prop where
  step : id ∈ dag.stepNames
  declared : dep ∈ registered.dependsOn id
  dependency : dep ∈ dag.stepNames

/-- The DAG carries what the plan declares, and no run of it starts a step whose
declared dependency has not finished. -/
structure Respects (registered : Orchestrator) (maxParallel : Nat) (dag : DAG) : Prop where
  carried : ∀ id dep, Declares registered dag id dep → dep ∈ dag.dependsOn id
  ordered : ∀ (Point Input : Type) (executor : Executor Point Input) (settings : Settings)
    (ctx : Context) (workflowId : String) (first run : Run Point),
    settings = { dag := dag, maxConcurrency := maxParallel } →
    execute settings ctx workflowId = .ok first →
    Transition.Reachable (next executor settings) first run →
    ∀ id dep, Declares registered dag id dep → TaskPhase.HasStarted (run.state.task id) →
      TaskPhase.isDone (run.state.task dep) = true

def Staffed (registered : Orchestrator) (plan : List SubTaskData) (id : StepName) : Prop :=
  id ∈ (planned 0 plan).map SubTask.id ∧ (registered.assignments id).getD "" ∈ registered.agents

instance (registered : Orchestrator) (plan : List SubTaskData) (id : StepName) :
    Decidable (registered.Staffed plan id) :=
  inferInstanceAs (Decidable (_ ∧ _))

theorem views_ids (subtasks : List SubTask) :
    (subtasks.map SubTask.view).map SubTaskView.id = subtasks.map SubTask.id := by
  rw [map_map]
  rfl

theorem built_from_plan {orchestrator done : Orchestrator} {maxParallel : Nat}
    {behaviour : Behaviour} {schedule : List PlanEvent} {plan : List SubTaskData}
    {timeoutSeconds : AgentName → Option String} {name : String}
    {output : OrchestratorOutput} {dag : DAG}
    (parsed : orchestrator.parseOutput maxParallel behaviour schedule plan = some (done, output))
    (built : done.buildDag timeoutSeconds name output = .ok (some dag)) :
    (∀ id, id ∈ dag.stepNames ↔ (orchestrator.installPlan 0 plan).Staffed plan id) ∧
      ∀ id, dag.dependsOn id = [] := by
  obtain ⟨_, steps⟩ := buildDag_steps built
  have reported : output.subtasks = (planned 0 plan).map SubTask.view ∧
      output.agentAssignments = (orchestrator.installPlan 0 plan).assignments ∧
      done.agents = (orchestrator.installPlan 0 plan).agents := by
    rcases parseOutput_some parsed with ⟨_, _, error, shape⟩ | ⟨_, carried⟩
    · rw [shape] at built
      cases built
    · cases carried with
      | idle _ =>
          have same := assignments_congr (orchestrator.installPlan 0 plan).assignAgents_subtasks
            (orchestrator.installPlan 0 plan).assignAgents_capabilities
          exact ⟨rfl, same, assignAgents_agents _⟩
      | @executed _ run _ =>
          have same : Orchestrator.assignments
              { (orchestrator.installPlan 0 plan).assignAgents with status := run.status } =
              (orchestrator.installPlan 0 plan).assignments :=
            assignments_congr (orchestrator.installPlan 0 plan).assignAgents_subtasks
              (orchestrator.installPlan 0 plan).assignAgents_capabilities
          exact ⟨rfl, same, assignAgents_agents _⟩
  obtain ⟨subtasks, assigned, agents⟩ := reported
  constructor
  · intro id
    rw [DAG.stepNames, steps, stepsOf_names, mem_filter, subtasks, views_ids]
    unfold Staffed stepAgent
    rw [assigned, agents]
    apply and_congr Iff.rfl
    by_cases registered : ((orchestrator.installPlan 0 plan).assignments id).getD "" ∈
        (orchestrator.installPlan 0 plan).agents
    · simp [registered]
    · simp [registered]
  · intro id
    by_cases known : id ∈ dag.stepNames
    · obtain ⟨step, member, same⟩ := mem_map.mp known
      have listed := member
      rw [steps, stepsOf, mem_filterMap] at listed
      obtain ⟨view, viewMember, built⟩ := listed
      obtain ⟨agent, _, shape⟩ := Option.map_eq_some_iff.mp built
      rw [subtasks] at viewMember
      obtain ⟨subtask, _, view_of⟩ := mem_map.mp viewMember
      rw [← same, dag.dependsOn_of_mem member, ← shape, ← view_of]
      rfl
    · exact dependenciesOf_absent known

def reportPlan : List SubTaskData :=
  [{ id := some "report", dependencies := some ["fetch"] }, { id := some "fetch" }]

def delivering : Behaviour := { reply := fun _ _ => .output }

def reportSchedule : List PlanEvent :=
  [.answered "fetch", .gathered, .answered "report", .gathered]

end Orchestrator

end AgenticRuntime
