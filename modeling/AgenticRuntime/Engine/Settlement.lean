/-
The whole effect of settling one done task: its result, the steps its failure
skips, and the in-degrees its success lowers, as equations between the state
before and the state after.
-/

import AgenticRuntime.Engine.Scheduler

namespace AgenticRuntime

namespace RunState

variable {Point : Type}

/-- `newly` are the steps the cascade skips; it is empty unless the step failed. -/
structure Settlement (dag : DAG) (step : StepName) (result : StepResult) (reason : String)
    (newly : List StepName) (before after : RunState Point) : Prop where
  completed : ∀ other, other ∈ after.completed ↔
    other ∈ before.completed ∨ other = step ∨ other ∈ newly
  skipped : ∀ other, other ∈ after.skipped →
    other ∈ before.skipped ∨ other = step ∨ other ∈ newly
  results : ∀ other, after.results other =
    if other ∈ newly then some (skipResult other reason)
    else if other = step then some result else before.results other
  running : after.running = before.running.erase step
  lifecycle : ∀ other, other ≠ step → other ∉ newly →
    after.stateManager.getState other = before.stateManager.getState other
  overall : after.result.overallStatus =
    if result.status = .failed then .failed else before.result.overallStatus
  context : ∀ other, other ∈ after.ctx.completedSteps ↔
    other ∈ before.ctx.completedSteps ∨ (other = step ∧ result.status = .skipped) ∨ other ∈ newly
  failedSteps : after.ctx.failedSteps = before.ctx.failedSteps
  metadata : after.result.metadata = before.result.metadata
  tasks : after.tasks = before.tasks
  task : after.task = before.task
  cancelRequested : after.cancelRequested = before.cancelRequested
  updates : after.updates = before.updates
  fresh : ∀ other, other ∈ newly → other ∉ before.completed ∧ other ≠ step
  caused : ∀ other, other ∈ newly →
    result.status = .failed ∧ ∃ cause, (cause = step ∨ cause ∈ newly) ∧ cause ∈ dag.dependsOn other
  cascade : result.status = .failed →
    after.inDegree = before.inDegree ∧ after.ready = before.ready ∧
      ∀ cause, cause = step ∨ cause ∈ newly →
        ∀ other, cause ∈ dag.dependsOn other → other ∈ after.completed
  unlock : result.status ≠ .failed →
    newly = [] ∧
      (∀ other, other ∉ after.completed →
        after.inDegree other = before.inDegree other - (dag.dependsOn other).count step) ∧
      ∃ opened, after.ready = before.ready ++ opened ∧ opened.Nodup ∧
        ∀ other, other ∈ opened ↔ step ∈ dag.dependsOn other ∧ other ∉ after.completed ∧
          before.inDegree other = (dag.dependsOn other).count step

private theorem failed_settlement {dag : DAG} {step : StepName} {result : StepResult}
    {before middle after : RunState Point} {reason : String} {newly : List StepName}
    (skippedDone : ∀ other, other ∈ before.skipped → other ∈ before.completed)
    (records : Records step result before middle) (failed : result.status = .failed)
    (cascade : Cascade dag reason [step] newly middle after) :
    Settlement dag step result reason newly before after := by
  have notSkipped : result.status ≠ .skipped := by
    rw [failed]
    decide
  have early : ∀ other, middle.Finished other ↔ other ∈ before.completed ∨ other = step := by
    intro other
    unfold Finished
    rw [records.completed, records.skipped, Finset.mem_insert]
    constructor
    · rintro ((same | done) | (done | impossible))
      · exact .inr same
      · exact .inl done
      · exact .inl (skippedDone other done)
      · exact absurd impossible.2 notSkipped
    · tauto
  have completed : ∀ other, other ∈ after.completed ↔
      other ∈ before.completed ∨ other = step ∨ other ∈ newly := by
    intro other
    rw [cascade.skips.completed, records.completed, Finset.mem_insert]
    tauto
  have fresh : ∀ other, other ∈ newly → other ∉ before.completed ∧ other ≠ step := by
    intro other member
    have unfinished := cascade.fresh other member
    rw [early] at unfinished
    exact ⟨fun done => unfinished (.inl done), fun same => unfinished (.inr same)⟩
  constructor
  case completed => exact completed
  case skipped =>
    intro other member
    rw [cascade.skips.skipped, records.skipped] at member
    tauto
  case results =>
    intro other
    rw [cascade.skips.results, records.results, Function.update_apply]
  case running => rw [cascade.skips.running, records.running]
  case lifecycle =>
    intro other differs untouched
    rw [cascade.skips.lifecycle, records.lifecycle, if_neg untouched, if_neg differs]
  case overall => rw [cascade.skips.overall, records.overall]
  case context =>
    intro other
    rw [cascade.skips.context, records.context, or_assoc]
  case failedSteps => rw [cascade.skips.failedSteps, records.failedSteps]
  case metadata => rw [cascade.skips.metadata, records.metadata]
  case tasks => rw [cascade.skips.tasks, records.tasks]
  case task => rw [cascade.skips.task, records.task]
  case cancelRequested => rw [cascade.skips.cancelRequested, records.cancelRequested]
  case updates => rw [cascade.skips.updates, records.updates]
  case fresh => exact fresh
  case caused =>
    intro other member
    obtain ⟨cause, source, edge⟩ := cascade.caused other member
    rw [List.mem_singleton] at source
    exact ⟨failed, cause, source, edge⟩
  case cascade =>
    intro _
    refine ⟨by rw [cascade.skips.inDegree, records.inDegree],
      by rw [cascade.skips.ready, records.ready], ?_⟩
    intro cause source other edge
    rw [← List.mem_singleton] at source
    have finished := cascade.closed cause source other edge
    rw [cascade.skips.finished, early] at finished
    rw [completed]
    tauto
  case unlock =>
    intro passed
    exact absurd failed passed

private theorem passed_settlement {dag : DAG} {step : StepName} {result : StepResult}
    {before middle : RunState Point} (reason : String)
    (skippedDone : ∀ other, other ∈ before.skipped → other ∈ before.completed)
    (covered : ∀ other, other ∉ before.completed →
      ((dag.dependsOn other).count step : Int) ≤ before.inDegree other)
    (records : Records step result before middle) (passed : result.status ≠ .failed) :
    Settlement dag step result reason [] before (middle.unlockDownstream dag step) := by
  have early : ∀ other, middle.Finished other ↔ other ∈ middle.completed := by
    intro other
    unfold Finished
    rw [records.completed, records.skipped, Finset.mem_insert]
    constructor
    · rintro ((same | done) | (done | here))
      · exact .inl same
      · exact .inr done
      · exact .inr (skippedDone other done)
      · exact .inl here.1
    · exact Or.inl
  have counted : ∀ other, (dag.buildAdjacencyList step).count other =
      (dag.dependsOn other).count step :=
    fun other => dag.count_buildAdjacencyList step other
  obtain ⟨opened, unlocks⟩ := unlock_unlocks (dag.buildAdjacencyList step) middle (by
    intro other unfinished
    rw [early, records.completed, Finset.mem_insert, not_or] at unfinished
    rw [counted, records.inDegree]
    exact covered other unfinished.2)
  have frame := unlocks.frame
  change middle.unlockDownstream dag step = _ at frame
  have completedSame : (middle.unlockDownstream dag step).completed = middle.completed := by
    rw [frame]
  constructor
  case completed =>
    intro other
    rw [completedSame, records.completed, Finset.mem_insert]
    simp [or_comm]
  case skipped =>
    intro other member
    rw [frame] at member
    have skips := (records.skipped other).mp member
    tauto
  case results =>
    intro other
    rw [frame]
    change middle.results other = _
    rw [records.results, Function.update_apply]
    simp
  case running => rw [frame]; exact records.running
  case lifecycle =>
    intro other differs _
    rw [frame]
    change middle.stateManager.getState other = _
    rw [records.lifecycle, if_neg differs]
  case overall => rw [frame]; exact records.overall
  case context =>
    intro other
    rw [frame]
    change other ∈ middle.ctx.completedSteps ↔ _
    rw [records.context]
    simp
  case failedSteps => rw [frame]; exact records.failedSteps
  case metadata => rw [frame]; exact records.metadata
  case tasks => rw [frame]; exact records.tasks
  case task => rw [frame]; exact records.task
  case cancelRequested => rw [frame]; exact records.cancelRequested
  case updates => rw [frame]; exact records.updates
  case fresh => simp
  case caused => simp
  case cascade =>
    intro failed
    exact absurd failed passed
  case unlock =>
    intro _
    refine ⟨rfl, ?_, opened, ?_, unlocks.distinct, ?_⟩
    · intro other unfinished
      rw [completedSame, ← early] at unfinished
      have degree := unlocks.inDegree other
      rw [if_neg unfinished, counted, records.inDegree] at degree
      exact degree
    · rw [← records.ready]
      exact unlocks.ready
    · intro other
      rw [unlocks.opened, dag.mem_buildAdjacencyList, early, completedSame, counted,
        records.inDegree]

theorem recordDoneTask_settlement (dag : DAG) (step : StepName) (outcome : TaskOutcome)
    (state : RunState Point) (running : state.stateManager.getState step = .running)
    (skippedDone : ∀ other, other ∈ state.skipped → other ∈ state.completed)
    (covered : ∀ other, other ∉ state.completed →
      ((dag.dependsOn other).count step : Int) ≤ state.inDegree other) :
    ∃ after reason newly, state.recordDoneTask dag step outcome = .ok after ∧
      Settlement dag step (outcome.settle step) reason newly state after := by
  obtain ⟨after, taken, settled⟩ := recordDoneTask_settled dag step outcome state running
  cases settled with
  | failed middle reason newly records failed cascade =>
      exact ⟨after, reason, newly, taken, failed_settlement skippedDone records failed cascade⟩
  | passed middle records passed unlocked =>
      subst unlocked
      exact ⟨_, "", [], taken, passed_settlement "" skippedDone covered records passed⟩

end RunState

end AgenticRuntime
