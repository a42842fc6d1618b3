/-
Step and workflow results, the step lifecycle state machine and the step
tracking part of the execution context.

Timestamps, durations and the payload fields of a result (tier, model, inputs,
outputs) are left out: no scheduling decision reads them.
-/

import Mathlib.Logic.Function.Basic

namespace AgenticRuntime

abbrev StepName := String

/-! ### contracts/messages.py -/

inductive StepStatus where
  | pending
  | running
  | success
  | failed
  | skipped
  | retrying
  deriving DecidableEq, Repr, Inhabited

def StepStatus.value : StepStatus → String
  | .pending => "pending"
  | .running => "running"
  | .success => "success"
  | .failed => "failed"
  | .skipped => "skipped"
  | .retrying => "retrying"

/-- `_TERMINAL_STATUSES`: the only statuses a step may finish with. -/
def terminalStatuses : List StepStatus := [.success, .failed, .skipped]

def StepStatus.Terminal (status : StepStatus) : Prop := status ∈ terminalStatuses

instance (status : StepStatus) : Decidable status.Terminal :=
  inferInstanceAs (Decidable (status ∈ terminalStatuses))

/-- The metadata entries the engine itself writes are fields of their own. -/
structure StepResult where
  stepName : StepName
  status : StepStatus
  error : Option String := none
  errorType : Option String := none
  skipReason : Option String := none
  nonterminalStatus : Option StepStatus := none
  deriving DecidableEq, Repr

def StepResult.isFailed (result : StepResult) : Bool := result.status = .failed

structure WorkflowMetadata where
  error : Option String := none
  timeoutExceeded : Bool := false
  timeoutSeconds : Option String := none
  observerErrors : Nat := 0
  deriving DecidableEq, Repr

structure WorkflowResult where
  workflowId : String
  workflowName : String
  steps : List StepResult := []
  overallStatus : StepStatus
  metadata : WorkflowMetadata := {}
  deriving DecidableEq, Repr

variable (result : WorkflowResult)

def WorkflowResult.addStep (step : StepResult) : WorkflowResult :=
  { result with
    steps := result.steps ++ [step]
    overallStatus :=
      if step.isFailed ∧ result.overallStatus ≠ .failed then .failed else result.overallStatus }

def WorkflowResult.markComplete (success : Bool) : WorkflowResult :=
  { result with overallStatus := if success then .success else .failed }

theorem WorkflowResult.addStep_overallStatus (step : StepResult) :
    (result.addStep step).overallStatus =
      if step.status = .failed then .failed else result.overallStatus := by
  unfold addStep StepResult.isFailed
  by_cases failed : step.status = .failed
  · by_cases already : result.overallStatus = .failed
    · simp [failed, already]
    · simp [failed, already]
  · simp [failed]

/-! ### engine/step_state.py -/

inductive StepState where
  | pending
  | ready
  | running
  | retrying
  | success
  | failed
  | skipped
  | cancelled
  deriving DecidableEq, Repr, Inhabited

def StepState.value : StepState → String
  | .pending => "pending"
  | .ready => "ready"
  | .running => "running"
  | .retrying => "retrying"
  | .success => "success"
  | .failed => "failed"
  | .skipped => "skipped"
  | .cancelled => "cancelled"

def allowedTransitions : StepState → List StepState
  | .pending => [.ready, .skipped]
  | .ready => [.running, .cancelled]
  | .running => [.success, .failed, .retrying, .skipped, .cancelled]
  | .retrying => [.running, .failed, .cancelled]
  | .success => []
  | .failed => []
  | .skipped => []
  | .cancelled => []

structure StepStateManager where
  getState : StepName → StepState := fun _ => .pending

namespace StepStateManager

variable (manager : StepStateManager)

def setState (step : StepName) (state : StepState) :
    StepStateManager :=
  { getState := Function.update manager.getState step state }

def canTransition (current new : StepState) : Bool := new ∈ allowedTransitions current

def transition (manager : StepStateManager) (step : StepName) (state : StepState) :
    Except String StepStateManager :=
  if canTransition (manager.getState step) state then .ok (manager.setState step state)
  else .error s!"Invalid transition {(manager.getState step).value} -> {state.value} for {step}"

@[simp]
theorem setState_self (step : StepName) (state : StepState) :
    (manager.setState step state).getState step = state := by
  simp [setState]

theorem setState_of_ne {step other : StepName} (state : StepState) (distinct : other ≠ step) :
    (manager.setState step state).getState other = manager.getState other := by
  simp [setState, distinct]

theorem setState_apply (step other : StepName) (state : StepState) :
    (manager.setState step state).getState other =
      if other = step then state else manager.getState other := by
  by_cases same : other = step
  · subst other
    simp
  · simp [setState_of_ne manager state same, same]

theorem transition_ok {manager : StepStateManager} {step : StepName} {state : StepState}
    (allowed : state ∈ allowedTransitions (manager.getState step)) :
    manager.transition step state = .ok (manager.setState step state) := by
  simp [transition, canTransition, allowed]

end StepStateManager

/-! ### engine/context.py, step tracking -/

/-- `ExecutionContext`, the part steps and scheduler use to track each other. -/
structure Context where
  completedSteps : List StepName := []
  failedSteps : List StepName := []
  currentStep : Option StepName := none
  deriving DecidableEq, Repr

namespace Context

variable (ctx : Context) (step : StepName)

def markStepStart : Context :=
  { ctx with currentStep := some step }

def markStepComplete : Context :=
  { ctx with
    completedSteps :=
      if step ∈ ctx.completedSteps then ctx.completedSteps else ctx.completedSteps ++ [step]
    currentStep := none }

def markStepFailed : Context :=
  { ctx with
    failedSteps := if step ∈ ctx.failedSteps then ctx.failedSteps else ctx.failedSteps ++ [step]
    currentStep := none }

def isStepComplete : Bool := step ∈ ctx.completedSteps

def isStepFailed : Bool := step ∈ ctx.failedSteps

/-- The skip paths append to `completed_steps` without touching `current_step`. -/
def noteComplete : Context :=
  { ctx with
    completedSteps :=
      if step ∈ ctx.completedSteps then ctx.completedSteps else ctx.completedSteps ++ [step] }

/-- `list.remove` takes the first occurrence only. -/
def dropComplete : Context :=
  { ctx with completedSteps := ctx.completedSteps.erase step }

section

variable (ctx : Context) (step other : StepName)

@[simp]
theorem mem_noteComplete_completed :
    other ∈ (ctx.noteComplete step).completedSteps ↔ other ∈ ctx.completedSteps ∨ other = step := by
  unfold noteComplete
  by_cases present : step ∈ ctx.completedSteps
  · simp only [if_pos present]
    constructor
    · exact Or.inl
    · rintro (member | same)
      · exact member
      · exact same ▸ present
  · simp [present]

@[simp]
theorem mem_markStepComplete_completed :
    other ∈ (ctx.markStepComplete step).completedSteps ↔
      other ∈ ctx.completedSteps ∨ other = step :=
  mem_noteComplete_completed ctx step other

@[simp]
theorem mem_markStepComplete_failed :
    other ∈ (ctx.markStepComplete step).failedSteps ↔ other ∈ ctx.failedSteps := Iff.rfl

@[simp]
theorem mem_markStepFailed_failed :
    other ∈ (ctx.markStepFailed step).failedSteps ↔ other ∈ ctx.failedSteps ∨ other = step := by
  unfold markStepFailed
  by_cases present : step ∈ ctx.failedSteps
  · simp only [if_pos present]
    constructor
    · exact Or.inl
    · rintro (member | same)
      · exact member
      · exact same ▸ present
  · simp [present]

@[simp]
theorem mem_markStepFailed_completed :
    other ∈ (ctx.markStepFailed step).completedSteps ↔ other ∈ ctx.completedSteps := Iff.rfl

@[simp]
theorem mem_dropComplete_failed :
    other ∈ (ctx.dropComplete step).failedSteps ↔ other ∈ ctx.failedSteps := Iff.rfl

theorem mem_dropComplete_of_ne (distinct : other ≠ step) :
    other ∈ (ctx.dropComplete step).completedSteps ↔ other ∈ ctx.completedSteps :=
  List.mem_erase_of_ne distinct

end

end Context

end AgenticRuntime
