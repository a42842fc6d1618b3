/-
The shapes a workflow can be given in: one step, a list of steps, a pipeline of
steps and a DAG, and how each of them comes to its overall status.

What executing a step returns is scripted with the step. Cancellation and the
global timeout are left out, and so are parallel groups and conditional branches:
the pipelines here are sequential.
-/

import AgenticRuntime.Engine.Confluence

namespace AgenticRuntime

open List WorkflowResult
open StepResult (isFailed)

/-- A step and the result of executing it, in whatever shape it is given. -/
structure ScriptedStep where
  definition : StepDefinition
  result : StepResult
  named : result.stepName = definition.name
  terminal : result.status.Terminal

structure Pipeline where
  name : String
  elements : List ScriptedStep := []
  failFast : Bool := true

def StepResult.isSuccess (result : StepResult) : Bool := result.status = .success

/-! ### engine/pipeline.py -/

namespace PipelineExecutor

def recordStepResults (pipeline : Pipeline) : List StepResult → WorkflowResult →
    WorkflowResult × Bool
  | [], result => (result, false)
  | stepResult :: rest, result =>
      let added := result.addStep stepResult
      if stepResult.isFailed && pipeline.failFast then
        ({ added with overallStatus := .failed }.markComplete false, true)
      else recordStepResults pipeline rest added

def executeElement (element : ScriptedStep) : List StepResult := [element.result]

/-- The loop of `execute` over what is left of the elements. -/
def walk (pipeline : Pipeline) : List ScriptedStep → WorkflowResult → WorkflowResult
  | [], result =>
      let ended :=
        if result.overallStatus = .running then { result with overallStatus := .success }
        else result
      ended.markComplete (ended.overallStatus = .success)
  | element :: rest, result =>
      let recorded := recordStepResults pipeline (executeElement element) result
      if recorded.2 then recorded.1 else walk pipeline rest recorded.1

def execute (pipeline : Pipeline) (workflowId : String) : WorkflowResult :=
  walk pipeline pipeline.elements
    { workflowId := workflowId, workflowName := pipeline.name, overallStatus := .running }

end PipelineExecutor

/-! ### engine/executor.py -/

inductive Workflow where
  | dag (dag : DAG)
  | step (step : ScriptedStep)
  | pipeline (pipeline : Pipeline)
  | list (steps : List ScriptedStep)

namespace WorkflowExecutor

def getWorkflowName : Workflow → String
  | .dag dag => s!"dag:{dag.name}"
  | .step step => s!"step:{step.definition.name}"
  | .pipeline pipeline => pipeline.name
  | .list steps => s!"sequence:{steps.length}_steps"

def validateWorkflowDefinition : Workflow → Except String Unit
  | .dag dag => dag.validate.mapError DAGError.message
  | .step _ => .ok ()
  | .pipeline pipeline =>
      if pipeline.elements = [] then .error s!"Pipeline '{pipeline.name}' has no elements"
      else .ok ()
  | .list _ => .ok ()

/-- The loop over a list of steps, its `else` branch included. -/
def executeSteps : List ScriptedStep → WorkflowResult → WorkflowResult
  | [], result => { result with overallStatus := .success }
  | step :: rest, result =>
      let added := result.addStep step.result
      if step.result.isFailed then { added with overallStatus := .failed }
      else executeSteps rest added

/-- `runDag` is what the DAG executor returns. -/
def executeWorkflow (runDag : DAG → WorkflowResult) (workflow : Workflow)
    (result : WorkflowResult) : WorkflowResult :=
  match workflow with
  | .dag dag =>
      { result with steps := (runDag dag).steps, overallStatus := (runDag dag).overallStatus }
  | .step step =>
      { result.addStep step.result with
        overallStatus := if step.result.isSuccess then .success else .failed }
  | .pipeline pipeline =>
      let ended := PipelineExecutor.execute pipeline result.workflowId
      { result with steps := ended.steps, overallStatus := ended.overallStatus }
  | .list steps => executeSteps steps result

def execute (runDag : DAG → WorkflowResult) (workflowId : String) (workflow : Workflow) :
    Except String WorkflowResult := do
  validateWorkflowDefinition workflow
  let result := executeWorkflow runDag workflow
    { workflowId := workflowId, workflowName := getWorkflowName workflow,
      overallStatus := .running }
  return result.markComplete (result.overallStatus = .success)

/-! ### The sequential shapes -/

def ran : List ScriptedStep → List ScriptedStep
  | [] => []
  | step :: rest => if step.result.isFailed then [step] else step :: ran rest

variable (steps : List ScriptedStep)

def overall : StepStatus :=
  if ∃ step ∈ steps, step.result.status = .failed then .failed else .success

theorem ran_steps : ran steps <+: steps := by
  induction steps with
  | nil => exact prefix_rfl
  | cons step rest ih =>
      rw [ran]
      split
      · exact ⟨rest, rfl⟩
      · exact (prefix_cons_inj step).mpr ih

@[simp]
private theorem addStep_steps (result : WorkflowResult) (step : StepResult) :
    (result.addStep step).steps = result.steps ++ [step] := rfl

private theorem overall_failed {step : ScriptedStep} (failed : step.result.status = .failed)
    (rest : List ScriptedStep) : overall (step :: rest) = .failed :=
  if_pos ⟨step, mem_cons_self, failed⟩

private theorem overall_cons {step : ScriptedStep} (passed : step.result.status ≠ .failed)
    (rest : List ScriptedStep) : overall (step :: rest) = overall rest := by
  simp [overall, passed]

theorem executeSteps_reports (result : WorkflowResult) :
    (executeSteps steps result).steps = result.steps ++ (ran steps).map ScriptedStep.result ∧
      (executeSteps steps result).overallStatus = overall steps := by
  induction steps generalizing result with
  | nil => simp [executeSteps, ran, overall]
  | cons step rest ih =>
      rw [executeSteps, ran]
      by_cases failed : step.result.status = .failed
      · simp [isFailed, failed, overall_failed failed]
      · obtain ⟨steps, status⟩ := ih (result.addStep step.result)
        simp [isFailed, failed, overall_cons failed, steps, status]

end WorkflowExecutor

namespace PipelineExecutor

open WorkflowExecutor

theorem walk_reports (pipeline : Pipeline) (steps : List ScriptedStep) (result : WorkflowResult)
    (ongoing : result.overallStatus = .running ∨ result.overallStatus = .failed) :
    (walk pipeline steps result).steps = result.steps ++
        (if pipeline.failFast then ran steps else steps).map ScriptedStep.result ∧
      (walk pipeline steps result).overallStatus =
        if result.overallStatus = .failed then .failed else overall steps := by
  induction steps generalizing result with
  | nil =>
      rcases ongoing with running | failed
      · simp [walk, running, markComplete, ran, overall]
      · simp [walk, failed, markComplete, ran]
  | cons step rest ih =>
      have status := result.addStep_overallStatus step.result
      have continued := ih (result.addStep step.result)
      rw [walk, executeElement]
      by_cases failed : step.result.status = .failed
      · rw [if_pos failed] at status
        cases fast : pipeline.failFast with
        | true =>
            simp [recordStepResults, isFailed, failed, fast, ran, overall_failed failed,
              markComplete]
        | false =>
            obtain ⟨steps, ended⟩ := continued (.inr status)
            simp [recordStepResults, fast, steps, ended, status, overall_failed failed]
      · rw [if_neg failed] at status
        obtain ⟨steps, ended⟩ := continued (status ▸ ongoing)
        have goesOn : (step.result.isFailed && pipeline.failFast) = false := by
          simp [isFailed, failed]
        simp only [recordStepResults, goesOn, Bool.false_eq_true, if_false, steps, ended, status,
          overall_cons failed, and_true]
        cases pipeline.failFast with
        | true => simp [ran, isFailed, failed]
        | false => simp

end PipelineExecutor

namespace WorkflowExecutor

/-- The second shape ends as the first one does, and records the same status for
every step the first one runs. -/
def Agree (listed other : Except String WorkflowResult) : Prop :=
  ∃ left right, listed = .ok left ∧ other = .ok right ∧
    right.overallStatus = left.overallStatus ∧
    left.steps.map StepResult.status <+: right.steps.map StepResult.status

section

variable {runDag : DAG → WorkflowResult} {workflowId : String} {steps : List ScriptedStep}

private theorem markComplete_overall {result : WorkflowResult} {status : StepStatus}
    (settled : status = .success ∨ status = .failed) (same : result.overallStatus = status) :
    (result.markComplete (result.overallStatus = .success)).overallStatus = status := by
  subst same
  rcases settled with success | failed
  · simp [markComplete, success]
  · simp [markComplete, failed]

theorem overall_settled (steps : List ScriptedStep) :
    overall steps = .success ∨ overall steps = .failed := by
  unfold overall
  split
  · exact .inr rfl
  · exact .inl rfl

theorem agree_list_iff {other : Except String WorkflowResult} :
    Agree (execute runDag workflowId (.list steps)) other ↔ ∃ right, other = .ok right ∧
      right.overallStatus = overall steps ∧
      (ran steps).map (fun step => step.result.status) <+:
        right.steps.map StepResult.status := by
  obtain ⟨recorded, status⟩ := executeSteps_reports steps
    { workflowId := workflowId, workflowName := getWorkflowName (.list steps),
      overallStatus := .running }
  have ended := markComplete_overall (overall_settled steps) status
  constructor
  · rintro ⟨left, right, listed, same, agrees, begins⟩
    cases listed
    refine ⟨right, same, agrees.trans ended, ?_⟩
    simpa [markComplete, executeWorkflow, recorded, Function.comp_def] using begins
  · rintro ⟨right, same, agrees, begins⟩
    refine ⟨_, right, rfl, same, agrees.trans ended.symm, ?_⟩
    simpa [markComplete, executeWorkflow, recorded, Function.comp_def] using begins

theorem agree_pipeline (nonempty : steps ≠ []) (name : String) (failFast : Bool) :
    Agree (execute runDag workflowId (.list steps))
      (execute runDag workflowId (.pipeline ⟨name, steps, failFast⟩)) := by
  obtain ⟨recorded, status⟩ := PipelineExecutor.walk_reports ⟨name, steps, failFast⟩ steps
    { workflowId := workflowId, workflowName := name, overallStatus := .running } (.inl rfl)
  rw [agree_list_iff, execute, validateWorkflowDefinition, if_neg nonempty]
  refine ⟨_, rfl, markComplete_overall (overall_settled steps) status, ?_⟩
  change _ <+: List.map _ (PipelineExecutor.walk _ _ _).steps
  rw [recorded, nil_append, map_map]
  cases failFast with
  | true => exact prefix_rfl
  | false => exact (ran_steps steps).map _

theorem agree_step_iff (step : ScriptedStep) :
    Agree (execute runDag workflowId (.list [step])) (execute runDag workflowId (.step step)) ↔
      step.result.status ≠ .skipped := by
  rw [agree_list_iff, execute, validateWorkflowDefinition]
  have terminal := step.terminal
  simp only [StepStatus.Terminal, terminalStatuses, List.mem_cons, not_mem_nil,
    or_false] at terminal
  rcases terminal with success | failed | skipped
  · simp [success, executeWorkflow, StepResult.isSuccess, markComplete, overall, ran,
      isFailed, bind, Except.bind, pure, Except.pure]
  · simp [failed, executeWorkflow, StepResult.isSuccess, markComplete, overall, ran,
      isFailed, bind, Except.bind, pure, Except.pure]
  · simp [skipped, executeWorkflow, StepResult.isSuccess, markComplete, overall, bind, Except.bind,
      pure, Except.pure]

end

/-! ### The chain of dependencies -/

/-- Each step depends on the one before it, the first one on `previous`. -/
def chain : List StepName → List ScriptedStep → List StepDefinition
  | _, [] => []
  | previous, step :: rest =>
      { step.definition with dependsOn := previous } :: chain [step.definition.name] rest

theorem chain_names (previous : List StepName) (steps : List ScriptedStep) :
    (chain previous steps).map StepDefinition.name =
      steps.map fun step => step.definition.name := by
  induction steps generalizing previous with
  | nil => rfl
  | cons step rest ih => rw [chain, map_cons, ih, map_cons]

variable {steps : List ScriptedStep}

private theorem chain_ordered {previous front : List StepName}
    (known : ∀ dep ∈ previous, dep ∈ front) {earlier later : List StepDefinition}
    {step : StepDefinition} (split : chain previous steps = earlier ++ step :: later) :
    ∀ dep ∈ step.dependsOn, dep ∈ front ++ earlier.map StepDefinition.name := by
  induction steps generalizing previous front earlier with
  | nil => exact absurd split (by simp [chain])
  | cons head rest ih =>
      rw [chain] at split
      cases earlier with
      | nil =>
          obtain ⟨same, _⟩ := List.cons.inj split
          subst same
          simpa using known
      | cons first others =>
          obtain ⟨same, tail⟩ := List.cons.inj split
          subst same
          have listed : ∀ dep ∈ [head.definition.name], dep ∈ front ++ [head.definition.name] :=
            fun dep member => mem_append_right _ member
          have found := ih listed tail
          simpa using found

theorem chain_valid {dag : DAG} (nonempty : steps ≠ []) (shape : dag.steps = chain [] steps) :
    dag.validate = .ok () := by
  have some : dag.steps ≠ [] := by
    rw [shape]
    cases steps with
    | nil => exact absurd rfl nonempty
    | cons step rest => exact cons_ne_nil _ _
  rw [dag.validate_ok_iff_order some]
  refine ⟨dag.dependencyPairs, List.Perm.refl _, ?_⟩
  intro earlier pair later split dep edge
  rw [DAG.dependencyPairs, shape] at split
  obtain ⟨front, back, whole, same, tail⟩ := map_eq_append_iff.mp split
  obtain ⟨step, rest, sameBack, sameStep, _⟩ := map_eq_cons_iff.mp tail
  subst same sameBack sameStep
  have unlisted : ∀ dep ∈ ([] : List StepName), dep ∈ ([] : List StepName) :=
    fun dep member => member
  have found := chain_ordered unlisted whole dep edge
  simpa [Function.comp_def] using found

section

open DAGExecutor

variable {outcome : StepName → TaskOutcome} {verdict : StepName → Verdict}

private def Follows (outcome : StepName → TaskOutcome) (verdict : StepName → Verdict)
    (definitions : List StepDefinition) : Prop :=
  ∀ definition ∈ definitions, verdict definition.name =
    if ∃ dep ∈ definition.dependsOn, (verdict dep).blocks then .cascadeSkipped
    else (outcome definition.name).verdict

private theorem verdict_returned (step : ScriptedStep) :
    (TaskOutcome.returned step.result).verdict.status = step.result.status := by
  have terminal := step.terminal
  simp only [StepStatus.Terminal, terminalStatuses, List.mem_cons, not_mem_nil,
    or_false] at terminal
  rcases terminal with status | status | status
  · simp [TaskOutcome.verdict, status, Verdict.status]
  · simp [TaskOutcome.verdict, status, Verdict.status]
  · simp [TaskOutcome.verdict, status, Verdict.status]

private theorem chain_free {previous : List StepName} {steps : List ScriptedStep}
    (follows : Follows outcome verdict (chain previous steps))
    (returns : ∀ step ∈ steps, outcome step.definition.name = .returned step.result)
    (free : ¬ ∃ dep ∈ previous, (verdict dep).blocks = true) :
    (ran steps).map (fun step => step.result.status) <+:
        steps.map (fun step => (verdict step.definition.name).status) ∧
      ((∃ step ∈ steps, verdict step.definition.name = .failed) ↔
        ∃ step ∈ steps, step.result.status = .failed) := by
  induction steps generalizing previous with
  | nil => simp [ran]
  | cons head rest ih =>
      have here : verdict head.definition.name = (TaskOutcome.returned head.result).verdict := by
        rw [← returns head mem_cons_self]
        exact (follows _ mem_cons_self).trans (if_neg free)
      have status : (verdict head.definition.name).status = head.result.status := by
        rw [here, verdict_returned]
      have blocks : (verdict head.definition.name).blocks = true ↔
          head.result.status = .failed := by
        rw [here, TaskOutcome.verdict_blocks, verdict_returned]
      have after : Follows outcome verdict (chain [head.definition.name] rest) :=
        fun definition member => follows definition (mem_cons_of_mem _ member)
      rw [ran]
      by_cases failed : head.result.status = .failed
      · have verdictFailed : verdict head.definition.name = .failed := by
          rw [here, TaskOutcome.verdict, failed]
        constructor
        · simp [isFailed, failed, status]
        · exact iff_of_true ⟨head, mem_cons_self, verdictFailed⟩
            ⟨head, mem_cons_self, failed⟩
      · have notFailed : verdict head.definition.name ≠ .failed := by
          intro same
          rw [same] at status
          exact failed status.symm
        obtain ⟨begins, failures⟩ := ih after
          (fun step member => returns step (mem_cons_of_mem _ member))
          (by simpa using fun blocking => failed (blocks.mp blocking))
        constructor
        · simpa [isFailed, failed, status] using begins
        · simpa [notFailed, failed] using failures

theorem chain_reports {dag : DAG} {steps : List ScriptedStep}
    (shape : dag.steps = chain [] steps)
    (returns : ∀ step ∈ steps, outcome step.definition.name = .returned step.result)
    (solves : DependencyRule.Solves (specification dag outcome) verdict) {result : WorkflowResult}
    (reports : DAGExecutor.Reports dag verdict result) :
    result.overallStatus = overall steps ∧
      (ran steps).map (fun step => step.result.status) <+:
        result.steps.map StepResult.status := by
  have names : dag.stepNames = steps.map fun step => step.definition.name := by
    rw [DAG.stepNames, shape, chain_names]
  have follows : Follows outcome verdict (chain [] steps) := by
    intro definition member
    have edges := dag.dependsOn_of_mem (shape ▸ member)
    have solved := solves definition.name
    rw [specification, edges] at solved
    exact solved
  obtain ⟨begins, failures⟩ := chain_free follows returns (by simp)
  obtain ⟨recorded, whole, status⟩ := reports.steps
  have statuses : result.steps.map StepResult.status =
      steps.map fun step => (verdict step.definition.name).status := by
    rw [whole, names, map_map, map_map]
    apply map_congr_left
    intro step member
    apply status
    rw [names]
    exact mem_map_of_mem member
  have failing : (∃ step ∈ dag.stepNames, verdict step = .failed) ↔
      ∃ step ∈ steps, step.result.status = .failed := by
    rw [← failures, names]
    simp only [mem_map, exists_exists_and_eq_and]
  constructor
  · rw [reports.overall]
    simp only [failing, overall]
  · rw [statuses]
    exact begins

end

/-! ### Equivalent shapes -/

/-- Whatever the pipeline does after a failure, and whatever the executor, the
schedule and the limit of the DAG, every shape of the steps agrees with the list. -/
structure SameVerdict (runDag : DAG → WorkflowResult) (workflowId : String)
    (steps : List ScriptedStep) : Prop where
  pipeline : ∀ name failFast, Agree (execute runDag workflowId (.list steps))
    (execute runDag workflowId (.pipeline ⟨name, steps, failFast⟩))
  step : ∀ step, steps = [step] →
    Agree (execute runDag workflowId (.list steps)) (execute runDag workflowId (.step step))
  dag : ∀ (dag : DAG) (outcome : StepName → TaskOutcome), dag.steps = chain [] steps →
    (∀ step ∈ steps, outcome step.definition.name = .returned step.result) →
    ∀ (Point Input : Type) (executor : Executor Point Input), executor.Determined outcome →
    executor.Terminating → ∀ (maxConcurrency : Int) (ctx : Context) (settings : Settings),
    1 ≤ maxConcurrency →
    settings = { dag := dag, maxConcurrency := maxConcurrency, timeout := none } →
    ∃ run : Run Point, DAGExecutor.execute settings ctx workflowId = .ok run ∧
      (∃ bound, ∀ events finish,
        Transition.replay (DAGExecutor.next executor settings) run events = some finish →
          events.length ≤ bound) ∧
      ∀ finish, Transition.Reachable (DAGExecutor.next executor settings) run finish →
        (Transition.Stuck (DAGExecutor.next executor settings) finish →
          finish.control = .returned) ∧
        (finish.control = .returned → Agree (execute runDag workflowId (.list steps))
          (execute (fun _ => finish.state.result) workflowId (.dag dag)))

private theorem agree_dag {runDag : DAG → WorkflowResult} {workflowId : String} {dag : DAG}
    (valid : dag.validate = .ok ()) {result : WorkflowResult}
    (same : result.overallStatus = overall steps)
    (begins : (ran steps).map (fun step => step.result.status) <+:
      result.steps.map StepResult.status) :
    Agree (execute runDag workflowId (.list steps))
      (execute (fun _ => result) workflowId (.dag dag)) := by
  rw [agree_list_iff, execute, validateWorkflowDefinition, valid]
  exact ⟨_, rfl, markComplete_overall (overall_settled steps) same, begins⟩

def skippedReview : ScriptedStep :=
  { definition := { name := "review" }
    result := { stepName := "review", status := .skipped }
    named := rfl
    terminal := by decide }

end WorkflowExecutor

end AgenticRuntime
