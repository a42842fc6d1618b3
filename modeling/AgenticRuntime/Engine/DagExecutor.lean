/-
`DAGExecutor.execute`: the coroutine of the scheduler beside the tasks of the
steps, one event at a time.

`Control` is where the scheduler awaits. Everything between two awaits is one
event, so a workflow timeout can only be delivered where the scheduler awaits,
and a step task can move between any two moves of the scheduler.
-/

import AgenticRuntime.Engine.StepTask
import AgenticRuntime.Transition

namespace AgenticRuntime

open TaskPhase (isDone isCreated)

/-- Where the scheduler awaits, with the locals it needs when it goes on. -/
inductive Control where
  | opening
  | waiting
  | marking (step : StepName) (result : StepResult) (rest : List StepName)
  | notifying (step : StepName) (result : StepResult) (rest : List StepName)
  | cancelling
  | aborting (error : String)
  | closing
  | returned
  | raised (error : String)
  deriving DecidableEq, Repr

structure Run (Point : Type) where
  control : Control
  state : RunState Point

inductive Event (Input : Type) where
  | resume (observerRaised : Bool)
  | wake (done : List StepName)
  | timeout
  | recover (running remaining : List StepName)
  | abandon
  | begin (step : StepName)
  | observed (step : StepName) (observerRaised : Bool) (input : Input)
  | advance (step : StepName) (input : Input)
  | drop (step : StepName)
  | interrupt (step : StepName) (swallowed : Bool)
  | cancel (step : StepName) (input : Input)
  deriving DecidableEq, Repr

/-- `dag.steps[name]` -/
def DAG.lookup (dag : DAG) (name : StepName) : Option StepDefinition :=
  dag.steps.find? fun step => step.name = name

theorem DAG.lookup_of_mem (dag : DAG) {step : StepName} (named : step ∈ dag.stepNames) :
    ∃ definition, dag.lookup step = some definition ∧ definition.name = step := by
  obtain ⟨declared, member, name⟩ := List.mem_map.mp named
  cases found : dag.lookup step with
  | none =>
      have missing := List.find?_eq_none.mp found declared member
      exact absurd (decide_eq_true name) missing
  | some definition =>
      have hit := List.find?_some found
      exact ⟨definition, rfl, of_decide_eq_true hit⟩

theorem DAG.name_of_lookup {dag : DAG} {step : StepName} {definition : StepDefinition}
    (known : dag.lookup step = some definition) : definition.name = step := by
  have found := List.find?_some known
  simpa using found

namespace RunState

variable {Point : Type} (state : RunState Point) (settings : Settings)

variable (step : StepName)

def setTask (phase : TaskPhase Point) :
    RunState Point :=
  { state with task := Function.update state.task step (some phase) }

def notify (update : Update) : RunState Point :=
  { state with updates := state.updates ++ [update] }

/-- `_notify` counts an exception of the observer and goes on. -/
def noteObserver (observerRaised : Bool) (state : RunState Point) : RunState Point :=
  if observerRaised then
    { state with result := { state.result with
        metadata := { state.result.metadata with
          observerErrors := state.result.metadata.observerErrors + 1 } } }
  else state

/-- `_run_step` up to its first await. -/
def beginTask : RunState Point :=
  match state.stateManager.transition step .running with
  | .error message => state.setTask step (.done (.raised "ValueError" message))
  | .ok manager =>
      (({ state with stateManager := manager } : RunState Point).notify (.stepStart step)).setTask
        step .starting

theorem beginTask_of_ready {state : RunState Point} {step : StepName}
    (ready : state.stateManager.getState step = .ready) :
    state.beginTask step = (({ state with
      stateManager := state.stateManager.setState step .running } : RunState Point).notify
        (.stepStart step)).setTask step .starting := by
  have allowed : StepState.running ∈ allowedTransitions (state.stateManager.getState step) := by
    rw [ready]
    decide
  unfold beginTask
  rw [StepStateManager.transition_ok allowed]

def progressTask :
    Option (Progress Point × Context) → Option (RunState Point)
  | none => none
  | some (progress, ctx) =>
      some (({ state with ctx := ctx } : RunState Point).setTask step progress.phase)

/-- `_run_step` from the end of its notification on. -/
def observedTask {Input : Type} (executor : Executor Point Input) (dag : DAG)
    (state : RunState Point) (step : StepName) (input : Input) : Option (RunState Point) :=
  match dag.lookup step with
  | none => some (state.setTask step (.done (.raised "KeyError" s!"'{step}'")))
  | some definition =>
      state.progressTask step (executor.enter definition state.ctx input)

def advanceTask {Input : Type}
    (move : StepDefinition → Point → Context → Input → Option (Progress Point × Context))
    (dag : DAG) (state : RunState Point) (step : StepName) (point : Point) (input : Input) :
    Option (RunState Point) :=
  match dag.lookup step with
  | none => none
  | some definition => state.progressTask step (move definition point state.ctx input)

/-- `task.cancel()` on every task that is not done. -/
def requestCancel : RunState Point :=
  { state with
    cancelRequested := state.tasks.filter fun step => ¬ isDone (state.task step) }

def clearRequest : RunState Point :=
  { state with cancelRequested := state.cancelRequested.erase step }

/-- `gather` in `_cancel_in_flight` has nothing left to wait for. -/
def AllDone : Prop :=
  ∀ step ∈ state.tasks, isDone (state.task step)

instance (state : RunState Point) : Decidable state.AllDone :=
  inferInstanceAs (Decidable (∀ step ∈ state.tasks, isDone (state.task step)))

/-- Every task has taken its first step. The event loop runs callbacks in the
order they were scheduled, so it starts new tasks before it resumes whoever
created them. -/
def AllBegun : Prop :=
  ∀ step ∈ state.tasks, ¬ isCreated (state.task step)

instance (state : RunState Point) : Decidable state.AllBegun :=
  inferInstanceAs (Decidable (∀ step ∈ state.tasks, ¬ isCreated (state.task step)))

/-- `asyncio.wait` returns exactly the done tasks, as a set. -/
def Batch (done : List StepName) : Prop :=
  done ≠ [] ∧ done.Nodup ∧
    done.toFinset = state.tasks.filter fun step => isDone (state.task step)

instance (state : RunState Point) (done : List StepName) : Decidable (state.Batch done) :=
  inferInstanceAs (Decidable (done ≠ [] ∧ done.Nodup ∧
    done.toFinset = state.tasks.filter fun step => isDone (state.task step)))

def timeoutMessage : String :=
  let timeout := settings.timeout.getD "None"
  s!"Workflow '{settings.dag.name}' exceeded the {timeout}s timeout. " ++
    "In-flight steps were cancelled."

def timeoutResult : StepResult :=
  { stepName := step
    status := .failed
    error := some (timeoutMessage settings)
    errorType := some "TimeoutError" }

def recordTimeout (state : RunState Point) :
    RunState Point :=
  { state with
    results := Function.update state.results step (some (timeoutResult settings step))
    result := state.result.addStep (timeoutResult settings step)
    completed := insert step state.completed
    stateManager := state.stateManager.setState step .failed }

/-- One turn of the loop over `running` in `_handle_timeout`. -/
def failTimedOut (state : RunState Point) (step : StepName) :
    RunState Point :=
  if step ∈ state.completed then state
  else cascadeSkip settings.dag step "workflow timeout" (state.recordTimeout settings step)

/-- `set(dag.steps.keys()) - completed - skipped` -/
def remaining (dag : DAG) (state : RunState Point) : Finset StepName :=
  (dag.stepNames.toFinset \ state.completed) \ state.skipped

def noteTimeout (state : RunState Point) : RunState Point :=
  { state with result := { state.result with
      overallStatus := .failed
      metadata := { state.result.metadata with
        timeoutExceeded := true
        timeoutSeconds := settings.timeout
        error := some (timeoutMessage settings) } } }

/-- `_handle_timeout` once no task is in flight. The two lists are the orders in
which Python walks through the two sets. -/
def handleTimeout (state : RunState Point) (running remaining : List StepName) :
    Option (RunState Point) :=
  if running.Nodup ∧ running.toFinset = state.running then
    let failed := running.foldl (failTimedOut settings) { state with tasks := ∅ }
    if remaining.Nodup ∧ remaining.toFinset = failed.remaining settings.dag then
      some ((remaining.foldl (markSkipped "workflow timeout") failed).noteTimeout settings)
    else none
  else none

/-- The deadlock branch of `_scheduling_loop`. -/
def failDeadlocked (dag : DAG) (state : RunState Point) : RunState Point :=
  let remaining := dag.stepNames.filter fun step => step ∈ state.remaining dag
  let skipped := remaining.foldl (markSkipped "scheduler deadlock") state
  { skipped with result := { skipped.result with
      overallStatus := .failed
      metadata := { skipped.result.metadata with
        error := some
          s!"Scheduler deadlock: {remaining.length} step(s) could not be scheduled." } } }

/-- The end of `_run_dag`, up to the notification it awaits last. -/
def assemble (dag : DAG) (state : RunState Point) : RunState Point :=
  let overall :=
    if state.result.overallStatus = .running then .success else state.result.overallStatus
  let result :=
    ({ state.result with
      overallStatus := overall
      steps := dag.stepNames.filterMap state.results } : WorkflowResult).markComplete
        (overall = .success)
  ({ state with result := result } : RunState Point).notify (.workflowEnd result.overallStatus)

end RunState

namespace DAGExecutor

variable {Point Input : Type}
  (settings : Settings) (state : RunState Point) (executor : Executor Point Input)

def close (state : RunState Point) : Run Point :=
  { control := .closing, state := state.assemble settings.dag }

/-- The `except BaseException` branch of `_run_dag`. -/
def abort (failure : String × RunState Point) : Run Point :=
  { control := .aborting failure.1, state := failure.2.requestCancel }

/-- `_scheduling_loop` from the head of its loop to the next await. -/
def enterLoop (state : RunState Point) : Run Point :=
  if state.completed.card < settings.dag.steps.length then
    match state.scheduleReadySteps settings.maxConcurrency with
    | .error failure => abort failure
    | .ok scheduled =>
        if scheduled.tasks = ∅ then close settings (scheduled.failDeadlocked settings.dag)
        else { control := .waiting, state := scheduled }
  else close settings state

def emitStepEnd (step : StepName) (result : StepResult) (rest : List StepName) : Run Point :=
  { control := .notifying step result rest
    state := state.notify (.stepEnd step result.status result.error) }

/-- Whether `_process_done_task` marks the context itself: for a task that raised
and for a result it had to replace. -/
def marksContext : TaskOutcome → Bool
  | .raised _ _ => true
  | .returned raw => ¬ raw.status.Terminal

/-- The `for task in done` loop up to its next await. -/
def processBatch (state : RunState Point) : List StepName → Run Point
  | [] => enterLoop settings state
  | step :: rest =>
      let outcome := TaskPhase.result (state.task step)
      let result := outcome.settle step
      match state.recordDoneTask settings.dag step outcome with
      | .error failure => abort failure
      | .ok recorded =>
          if marksContext outcome then
            { control := .marking step result rest, state := recorded.markContextFailed step }
          else emitStepEnd recorded step result rest

def begins (step : StepName) : Option (RunState Point) :=
  match state.task step with
  | some .created =>
      if step ∈ state.cancelRequested then none else some (state.beginTask step)
  | _ => none

def observes (dag : DAG) (state : RunState Point) (step : StepName) (observerRaised : Bool)
    (input : Input) : Option (RunState Point) :=
  match state.task step with
  | some .starting =>
      if step ∈ state.cancelRequested then none
      else (state.noteObserver observerRaised).observedTask executor dag step input
  | _ => none

def advances (dag : DAG) (state : RunState Point) (step : StepName) (input : Input) :
    Option (RunState Point) :=
  match state.task step with
  | some (.executing point) =>
      if step ∈ state.cancelRequested then none
      else state.advanceTask executor.resume dag step point input
  | _ => none

def drops (step : StepName) : Option (RunState Point) :=
  match state.task step with
  | some .created =>
      if step ∈ state.cancelRequested then
        some ((state.clearRequest step).setTask step (.done .cancelled))
      else none
  | _ => none

/-- The cancellation reaches the observer, which lets it pass or swallows it. -/
def interrupts (step : StepName) (swallowed : Bool) :
    Option (RunState Point) :=
  match state.task step with
  | some .starting =>
      if step ∈ state.cancelRequested then
        if swallowed then some (state.clearRequest step)
        else some ((state.clearRequest step).setTask step (.done .cancelled))
      else none
  | _ => none

def cancels (dag : DAG) (state : RunState Point) (step : StepName) (input : Input) :
    Option (RunState Point) :=
  match state.task step with
  | some (.executing point) =>
      if step ∈ state.cancelRequested then
        (state.clearRequest step).advanceTask executor.cancel dag step point input
      else none
  | _ => none

def taskNext (dag : DAG) (state : RunState Point) :
    Event Input → Option (RunState Point)
  | .begin step => begins state step
  | .observed step observerRaised input => observes executor dag state step observerRaised input
  | .advance step input => advances executor dag state step input
  | .drop step => drops state step
  | .interrupt step swallowed => interrupts state step swallowed
  | .cancel step input => cancels executor dag state step input
  | _ => none

def schedulerNext (run : Run Point) : Event Input → Option (Run Point)
  | .resume observerRaised =>
      match run.control with
      | .opening => some (enterLoop settings (run.state.noteObserver observerRaised))
      | .marking step result rest => some (emitStepEnd run.state step result rest)
      | .notifying _ _ rest =>
          some (processBatch settings (run.state.noteObserver observerRaised) rest)
      | .closing => some { control := .returned, state := run.state.noteObserver observerRaised }
      | _ => none
  | .wake done =>
      if run.control = .waiting ∧ run.state.AllBegun ∧ run.state.Batch done then
        some (processBatch settings { run.state with tasks := run.state.tasks \ done.toFinset } done)
      else none
  | .timeout =>
      if settings.timeout.isSome ∧ run.state.AllBegun then
        match run.control with
        | .waiting | .marking _ _ _ | .notifying _ _ _ =>
            some { control := .cancelling, state := run.state.requestCancel }
        | _ => none
      else none
  | .recover running remaining =>
      if run.control = .cancelling ∧ run.state.AllDone then
        (run.state.handleTimeout settings running remaining).map (close settings)
      else none
  | .abandon =>
      match run.control with
      | .aborting error =>
          if run.state.AllDone then
            some { control := .raised error, state := { run.state with tasks := ∅ } }
          else none
      | _ => none
  | _ => none

def next (settings : Settings) (run : Run Point) (event : Event Input) : Option (Run Point) :=
  match schedulerNext settings run event with
  | some after => some after
  | none => (taskNext executor settings.dag run.state event).map fun state =>
      { run with state := state }

/-- `_run_dag` up to its first await. -/
def start (ctx : Context) (workflowId : String) : Run Point :=
  { control := .opening
    state :=
      { ctx := ctx
        result := {
          workflowId := workflowId, workflowName := settings.dag.name, overallStatus := .running }
        inDegree := fun name => (settings.dag.dependsOn name).length
        ready := settings.dag.stepNames.filter fun name => (settings.dag.dependsOn name).length = 0
        updates := [.workflowStart] } }

/-- `execute` up to the first await of `_run_dag`. -/
def execute (ctx : Context) (workflowId : String) :
    Except String (Run Point) :=
  if settings.maxConcurrency < 1 then
    .error s!"max_concurrency must be an integer >= 1, got {settings.maxConcurrency}"
  else
    match settings.dag.validate with
    | .error failure => .error failure.message
    | .ok _ => .ok (start settings ctx workflowId)

/-- `execute` starts a run exactly for a positive limit and a valid DAG. -/
theorem execute_ok_iff {settings : Settings} {ctx : Context} {workflowId : String}
    {run : Run Point} : execute settings ctx workflowId = .ok run ↔
      1 ≤ settings.maxConcurrency ∧ settings.dag.validate = .ok () ∧
        run = start settings ctx workflowId := by
  unfold execute
  by_cases low : settings.maxConcurrency < 1
  · rw [if_pos low]
    constructor
    · intro impossible
      cases impossible
    · intro started
      omega
  · rw [if_neg low]
    cases settings.dag.validate with
    | error failure =>
        constructor
        · intro impossible
          cases impossible
        · intro started
          cases started.2.1
    | ok _ =>
        constructor
        · intro started
          cases started
          exact ⟨by omega, rfl, rfl⟩
        · intro started
          rw [started.2.2]

end DAGExecutor

end AgenticRuntime
