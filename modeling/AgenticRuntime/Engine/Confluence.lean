/-
The verdict of a run without a timeout does not depend on its schedule.

`specification` says what status each step ends with, by recursion along the
dependencies and without mentioning a scheduler. On a validated DAG it has one
solution, and every run reports it.
-/

import AgenticRuntime.Engine.RunChange
import AgenticRuntime.Engine.Termination

namespace AgenticRuntime

open RunState Option

/-- What becomes of a step: a step skipped by its own condition does not block
its dependents, a step skipped because of another one does. -/
inductive Verdict where
  | success
  | failed
  | skipped
  | cascadeSkipped
  deriving DecidableEq, Repr, Inhabited

def Verdict.status : Verdict → StepStatus
  | .success => .success
  | .failed => .failed
  | .skipped => .skipped
  | .cascadeSkipped => .skipped

def Verdict.blocks : Verdict → Bool
  | .failed => true
  | .cascadeSkipped => true
  | _ => false

def TaskOutcome.verdict : TaskOutcome → Verdict
  | .raised _ _ => .failed
  | .returned result =>
      match result.status with
      | .success => .success
      | .skipped => .skipped
      | _ => .failed

def specification (dag : DAG) (outcome : StepName → TaskOutcome) (step : StepName)
    (verdict : StepName → Verdict) : Verdict :=
  if ∃ dep ∈ dag.dependsOn step, (verdict dep).blocks then .cascadeSkipped
  else (outcome step).verdict

theorem specification_local (dag : DAG) (outcome : StepName → TaskOutcome) :
    DependencyRule.Local dag.dependsOn (specification dag outcome) := by
  intro step left right same
  have agree : (∃ dep ∈ dag.dependsOn step, (left dep).blocks) ↔
      ∃ dep ∈ dag.dependsOn step, (right dep).blocks := by
    constructor
    · intro ⟨dep, edge, blocks⟩
      exact ⟨dep, edge, same dep edge ▸ blocks⟩
    · intro ⟨dep, edge, blocks⟩
      exact ⟨dep, edge, same dep edge ▸ blocks⟩
  simp only [specification, agree]

theorem TaskOutcome.settle_status (step : StepName) (outcome : TaskOutcome) :
    (outcome.settle step).status = outcome.verdict.status := by
  cases outcome with
  | raised errorType message => rfl
  | returned result =>
      rw [settle, failNonterminal_status, verdict]
      cases result.status with
      | success => rfl
      | failed => rfl
      | skipped => rfl
      | pending => rfl
      | running => rfl
      | retrying => rfl

theorem TaskOutcome.verdict_blocks (outcome : TaskOutcome) :
    outcome.verdict.blocks = true ↔ outcome.verdict.status = .failed := by
  cases outcome with
  | raised errorType message => exact ⟨fun _ => rfl, fun _ => rfl⟩
  | returned result =>
      rw [verdict]
      cases result.status <;> decide

namespace RunState

variable {Point : Type}

def verdictOf (state : RunState Point) (step : StepName) : Verdict :=
  match state.task step with
  | none => .cascadeSkipped
  | some phase => (TaskPhase.result (some phase)).verdict

theorem verdictOf_status {dag : DAG} {batch : List StepName} {state : RunState Point}
    (consistent : state.Consistent dag batch) {step : StepName} {result : StepResult}
    (recorded : state.results step = some result) :
    result.status = (state.verdictOf step).status := by
  have done : step ∈ state.completed := by
    rw [consistent.recorded, recorded]
    exact some_ne_none result
  unfold verdictOf
  cases current : state.task step with
  | none =>
      obtain ⟨⟨reason, skips⟩, _⟩ := consistent.cascaded step done current
      rw [recorded, some.injEq] at skips
      rw [skips]
      rfl
  | some phase =>
      have started : state.task step ≠ none := by
        rw [current]
        exact some_ne_none phase
      have settled := (consistent.executed step done started).2
      rw [recorded, some.injEq, current] at settled
      rw [settled]
      exact TaskOutcome.settle_status step _

theorem verdictOf_blocks {dag : DAG} {batch : List StepName} {state : RunState Point}
    (consistent : state.Consistent dag batch) {step : StepName} (done : step ∈ state.completed) :
    state.Blocks step ↔ (state.verdictOf step).blocks = true := by
  rw [consistent.recorded] at done
  obtain ⟨result, recorded⟩ := ne_none_iff_exists'.mp done
  have status := verdictOf_status consistent recorded
  unfold Blocks
  simp only [recorded, some.injEq, exists_eq_left']
  rw [status]
  unfold verdictOf
  cases state.task step with
  | none => simp [Verdict.status, Verdict.blocks]
  | some phase =>
      rw [TaskOutcome.verdict_blocks]
      simp

theorem verdictOf_solves {dag : DAG} {outcome : StepName → TaskOutcome} {state : RunState Point}
    (consistent : state.Consistent dag []) (closed : dag.Closed)
    (complete : ∀ step, step ∈ dag.stepNames → step ∈ state.completed)
    (fixed : ∀ step ended, state.task step = some (.done ended) → ended = outcome step)
    (step : StepName) (named : step ∈ dag.stepNames) :
    state.verdictOf step = specification dag outcome step state.verdictOf := by
  have done := complete step named
  have blocks : ∀ dep, dep ∈ dag.dependsOn step →
      (state.Blocks dep ↔ (state.verdictOf dep).blocks = true) := by
    intro dep edge
    exact verdictOf_blocks consistent (complete dep (closed step dep edge))
  unfold specification
  cases current : state.task step with
  | none =>
      obtain ⟨_, dep, edge, blocking⟩ := consistent.cascaded step done current
      rw [if_pos ⟨dep, edge, (blocks dep edge).mp blocking⟩, verdictOf, current]
  | some phase =>
      have started : state.task step ≠ none := by
        rw [current]
        exact some_ne_none phase
      have free : ¬ ∃ dep ∈ dag.dependsOn step, (state.verdictOf dep).blocks = true := by
        intro ⟨dep, edge, blocking⟩
        exact (consistent.supported step started dep edge).2 ((blocks dep edge).mpr blocking)
      have ended := (consistent.executed step done started).1
      rw [if_neg free, verdictOf, current]
      rw [current] at ended
      cases phase with
      | done finished =>
          rw [← fixed step finished current]
          rfl
      | created => cases ended
      | starting => cases ended
      | executing point => cases ended

end RunState

namespace DAGExecutor

variable {Point Input : Type}

/-! ### The outcomes of tasks are the executor's -/

section

variable {executor : Executor Point Input} {settings : Settings}
  {outcome : StepName → TaskOutcome}

def Faithful (outcome : StepName → TaskOutcome) (state : RunState Point) : Prop :=
  ∀ step ended, state.task step = some (.done ended) → ended = outcome step

private theorem Faithful.congr {before after : RunState Point} (faithful : Faithful outcome before)
    (same : ∀ step ended, after.task step = some (.done ended) →
      before.task step = some (.done ended)) : Faithful outcome after :=
  fun step ended current => faithful step ended (same step ended current)

private theorem progress_faithful {state : RunState Point} {step : StepName}
    {phase : TaskPhase Point} {after : RunState Point} (faithful : Faithful outcome state)
    (task : after.task = Function.update state.task step (some phase))
    (ends : ∀ ended, phase = .done ended → ended = outcome step) : Faithful outcome after := by
  intro other ended current
  rw [task, Function.update_apply] at current
  split at current
  · rename_i same
    subst same
    exact ends ended (some.inj current)
  · exact faithful other ended current

private theorem phase_done {progress : Progress Point} {ended : TaskOutcome}
    (finished : progress.phase = .done ended) : progress = .finished ended := by
  cases progress with
  | awaiting point => cases finished
  | finished outcome =>
      cases finished
      rfl

private theorem turn_faithful (determined : executor.Determined outcome) {state after : RunState Point}
    {event : Event Input} {batch : List StepName}
    (consistent : state.Consistent settings.dag batch) (uncancelled : state.cancelRequested = ∅)
    (faithful : Faithful outcome state) (turn : Turn executor settings.dag state event after) :
    Faithful outcome after := by
  have registered : ∀ step phase, state.task step = some phase →
      ∃ definition, settings.dag.lookup step = some definition ∧ definition.name = step := by
    intro step phase current
    apply settings.dag.lookup_of_mem
    exact consistent.registered step (.inr (by rw [current]; exact some_ne_none phase))
  have named : ∀ step phase definition, state.task step = some phase →
      settings.dag.lookup step = some definition → definition.name = step := by
    intro step phase definition current known
    obtain ⟨found, lookup, name⟩ := registered step phase current
    rw [known, some.injEq] at lookup
    exact lookup ▸ name
  cases turn with
  | begin step current kept =>
      have ready := consistent.lifecycle step
        (consistent.not_completed_of_not_done current rfl)
      rw [current] at ready
      rw [beginTask_of_ready ready]
      exact progress_faithful faithful rfl nofun
  | enter step observerRaised input definition progress ctx current kept known entered =>
      have task : (({ state.noteObserver observerRaised with ctx := ctx } :
          RunState Point).setTask step progress.phase).task =
          Function.update state.task step (some progress.phase) := by
        cases observerRaised with
        | true => rfl
        | false => rfl
      apply progress_faithful faithful task
      intro ended finished
      rw [phase_done finished] at entered
      rw [← named step _ definition current known]
      exact determined.enter definition state.ctx input ended ctx entered
  | unknown step observerRaised input current kept missing =>
      obtain ⟨definition, known, _⟩ := registered step _ current
      rw [missing] at known
      cases known
  | resume step input definition point progress ctx current kept known resumed =>
      apply progress_faithful faithful rfl
      intro ended finished
      rw [phase_done finished] at resumed
      rw [← named step _ definition current known]
      exact determined.resume definition point state.ctx input ended ctx resumed
  | drop step current asked | swallow step current asked | interrupt step current asked
  | cancel step input definition point progress ctx current asked known cancelled =>
      rw [uncancelled] at asked
      exact absurd asked (Finset.notMem_empty step)

private theorem uncancelled_of_turn (unlimited : settings.timeout = none) {run : Run Point}
    (invariant : Invariant settings run) {event : Event Input} {after : RunState Point}
    (turn : Turn executor settings.dag run.state event after) :
    run.state.cancelRequested = ∅ := by
  cases invariant with
  | opening before consistent idle uncancelled | waiting before consistent busy uncancelled
  | notifying step result rest before consistent begun uncancelled recorded => exact uncancelled
  | marking step result rest before consistent begun uncancelled recorded started =>
      exact uncancelled
  | cancelling batch before limited consistent begun =>
      rw [unlimited] at limited
      cases limited
  | closing before ended | returned before ended => exact (ended.no_turn turn).elim

private theorem next_faithful (determined : executor.Determined outcome)
    (valid : settings.dag.validate = .ok ()) (positive : 1 ≤ settings.maxConcurrency)
    (unlimited : settings.timeout = none) (run : Run Point) (event : Event Input)
    (after : Run Point) (held : Invariant settings run ∧ Faithful outcome run.state)
    (taken : next executor settings run event = some after) :
    Invariant settings after ∧ Faithful outcome after.state := by
  refine ⟨next_invariant valid positive run event after held.1 taken, ?_⟩
  obtain ⟨invariant, faithful⟩ := held
  have change := next_change valid positive invariant taken
  cases change with
  | quiet _ _ same =>
      apply faithful.congr
      rw [same.task]
      exact fun _ _ current => current
  | turned _ _ batch consistent turn =>
      exact turn_faithful determined consistent (uncancelled_of_turn unlimited invariant turn)
        faithful turn
  | spawned _ first _ newly same idle spawns =>
      apply faithful.congr
      intro step ended current
      rw [spawns.task] at current
      split at current
      · cases current
      · exact same.task ▸ current
  | settled _ first recorded _ step ended reason newly same current pending settlement marked =>
      apply faithful.congr
      intro other finished there
      rw [marked.task] at there
      rw [← same.task, ← settlement.task]
      split at there
      · exact there
      · exact there
  | recovered running remaining recovered _ batch consistent recovery same =>
      apply faithful.congr
      rw [same.task, recovery.task]
      exact fun _ _ current => current

end

/-! ### What is reported -/

/-- One result for each step of the DAG, in its order, with the status of its
verdict, and the overall status these amount to. -/
structure Reports (dag : DAG) (verdict : StepName → Verdict) (result : WorkflowResult) :
    Prop where
  steps : ∃ recorded, result.steps = dag.stepNames.map recorded ∧
    ∀ step, step ∈ dag.stepNames → (recorded step).status = (verdict step).status
  overall : result.overallStatus =
    if ∃ step ∈ dag.stepNames, verdict step = .failed then .failed else .success

private theorem failed_of_status {verdict : Verdict} :
    verdict.status = .failed ↔ verdict = .failed := by
  cases verdict <;> decide

private theorem completed_reports {settings : Settings} {outcome verdict}
    {before : RunState Point} {state : RunState Point}
    (valid : settings.dag.validate = .ok ())
    (solves : DependencyRule.Solves (specification settings.dag outcome) verdict)
    (consistent : before.Consistent settings.dag [])
    (complete : ∀ step, step ∈ settings.dag.stepNames → step ∈ before.completed)
    (faithful : Faithful outcome before)
    (assembled : SameOutcome (before.assemble settings.dag) state) :
    Reports settings.dag verdict state.result := by
  obtain ⟨_, closed, acyclic⟩ := settings.dag.validate_ok_iff.mp valid
  have agree : ∀ step, step ∈ settings.dag.stepNames → before.verdictOf step = verdict step :=
    DependencyRule.solution_unique_on acyclic (specification_local settings.dag outcome)
      (fun step => step ∈ settings.dag.stepNames) (fun step _ dep edge => closed step dep edge)
      (verdictOf_solves consistent closed complete faithful) (fun step _ => solves step)
  have status : ∀ step result, before.results step = some result →
      result.status = (verdict step).status := by
    intro step result recorded
    have done : step ∈ before.completed := by
      rw [consistent.recorded, recorded]
      exact some_ne_none result
    rw [← agree step (consistent.registered step (.inl done))]
    exact verdictOf_status consistent recorded
  have recordedAll : ∀ step, step ∈ settings.dag.stepNames → before.results step ≠ none :=
    fun step named => (consistent.recorded step).mp (complete step named)
  obtain ⟨recorded, steps, known⟩ := assemble_steps recordedAll
  refine ⟨⟨recorded, assembled.steps.trans steps, ?_⟩, ?_⟩
  · intro step named
    exact status step (recorded step) (known step named)
  · rw [assembled.overall, assemble_overall]
    rcases consistent.overall with ⟨running, clean⟩ | ⟨failing, step, result, found, failed⟩
    · have noFailure : ¬ ∃ step ∈ settings.dag.stepNames, verdict step = .failed := by
        intro ⟨step, named, failed⟩
        apply clean step (recorded step) (known step named)
        rw [status step _ (known step named), failed]
        rfl
      rw [if_neg noFailure, running]
      rfl
    · have failure : ∃ step ∈ settings.dag.stepNames, verdict step = .failed := by
        have done : step ∈ before.completed := by
          rw [consistent.recorded, found]
          exact some_ne_none result
        refine ⟨step, consistent.registered step (.inl done), ?_⟩
        rw [← failed_of_status, ← status step result found]
        exact failed
      rw [if_pos failure, failing]
      rfl

theorem run_reports {Point Input : Type} {executor : Executor Point Input} {dag : DAG}
    (valid : dag.validate = .ok ()) {outcome : StepName → TaskOutcome} {verdict}
    (solves : DependencyRule.Solves (specification dag outcome) verdict)
    (determined : executor.Determined outcome) (terminating : executor.Terminating)
    {maxConcurrency : Int} (positive : 1 ≤ maxConcurrency) (ctx : Context) (workflowId : String)
    {settings : Settings}
    (shape : settings = { dag := dag, maxConcurrency := maxConcurrency, timeout := none }) :
    (∃ bound, ∀ events finish, Transition.replay (next executor settings)
        (start settings ctx workflowId) events = some finish → events.length ≤ bound) ∧
    ∀ finish, Transition.Reachable (next executor settings)
        (start settings ctx workflowId) finish →
      (Transition.Stuck (next executor settings) finish → finish.control = .returned) ∧
      (finish.control = .returned → Reports dag verdict finish.state.result) := by
  subst shape
  have first : Invariant { dag := dag, maxConcurrency := maxConcurrency, timeout := none }
      (start { dag := dag, maxConcurrency := maxConcurrency, timeout := none } ctx workflowId :
        Run Point) := start_invariant ctx workflowId
  refine ⟨⟨_, fun events finish run => run_length_le terminating valid positive first run⟩, ?_⟩
  intro finish reached
  have held := Transition.reachable_invariant (next_faithful determined valid positive rfl)
    ⟨first, fun step ended impossible => nomatch impossible⟩ reached
  refine ⟨stuck_returned terminating held.1, ?_⟩
  intro returned
  obtain ⟨invariant, faithful⟩ := held
  cases invariant with
  | returned state ended =>
      cases ended with
      | completed before consistent complete uncancelled assembled =>
          refine completed_reports valid solves consistent complete ?_ assembled
          intro step finished current
          apply faithful step finished
          rw [assembled.task]
          exact current
      | timedOut before recovered batch running remaining limited => cases limited
  | _ => cases returned

/-- A step listed twice among the dependencies, a failing step above it, a step
that finishes without a terminal status, and one skipped by its own condition. -/
def reviewDag : DAG :=
  { name := "review"
    steps := [{ name := "fetch" }, { name := "lint" },
      { name := "build", dependsOn := ["fetch", "fetch"] },
      { name := "report", dependsOn := ["build", "lint"] },
      { name := "audit", dependsOn := ["lint"] }]
    distinct := by decide }

def reviewScript (step : StepName) : TaskOutcome :=
  if step = "fetch" then .raised "ValueError" "no such branch"
  else if step = "lint" then .returned { stepName := step, status := .skipped }
  else if step = "audit" then .returned { stepName := step, status := .retrying }
  else .returned { stepName := step, status := .success }

end DAGExecutor

end AgenticRuntime
