/-
`_handle_timeout` once nothing is in flight: what every step is left with,
whatever the orders in which the two sets are walked through.
-/

import AgenticRuntime.Engine.SchedulerInvariant

namespace AgenticRuntime

open List

namespace RunState

variable {Point : Type}

/-- `after` is `before` with the steps `failed` failed by the timeout and the
steps `skips` skipped because of it. -/
structure Recovering (settings : Settings) (failed skips : List StepName)
    (before after : RunState Point) : Prop where
  completed : ∀ step, step ∈ after.completed ↔
    step ∈ before.completed ∨ step ∈ failed ∨ step ∈ skips
  skipped : ∀ step, step ∈ after.skipped → step ∈ before.skipped ∨ step ∈ skips
  results : ∀ step, after.results step =
    if step ∈ before.completed then before.results step
    else if step ∈ failed then some (timeoutResult settings step)
    else if step ∈ skips then some (skipResult step "workflow timeout")
    else before.results step
  context : ∀ step, step ∈ after.ctx.completedSteps ↔
    step ∈ before.ctx.completedSteps ∨ step ∈ skips
  failedSteps : after.ctx.failedSteps = before.ctx.failedSteps
  caused : ∀ step, step ∈ skips →
    step ∈ settings.dag.stepNames ∧ step ∉ before.completed ∧ step ∉ failed
  task : after.task = before.task
  tasks : after.tasks = ∅
  running : after.running = before.running
  updates : after.updates = before.updates
  cancelRequested : after.cancelRequested = before.cancelRequested

private theorem Recovering.initial (settings : Settings) (state : RunState Point) :
    Recovering settings [] [] state { state with tasks := ∅ } := by
  constructor
  case results => intro step; simp
  all_goals simp

section

variable {settings : Settings} {failed skips : List StepName} {before state : RunState Point}

private theorem Recovering.fail (recovering : Recovering settings failed skips before state)
    {step : StepName} (waiting : step ∉ state.completed) :
    Recovering settings (failed ++ [step]) skips before (state.recordTimeout settings step) := by
  have outside := (recovering.completed step).not.mp waiting
  rw [not_or, not_or] at outside
  constructor
  case completed =>
    intro other
    change other ∈ insert step state.completed ↔ _
    rw [Finset.mem_insert, recovering.completed, mem_append, mem_singleton]
    tauto
  case skipped => exact recovering.skipped
  case results =>
    intro other
    change Function.update state.results step (some (timeoutResult settings step)) other = _
    rw [Function.update_apply, recovering.results]
    simp only [mem_append, mem_singleton]
    by_cases same : other = step
    · subst same
      simp [outside.1]
    · simp [same]
  case context => exact recovering.context
  case failedSteps => exact recovering.failedSteps
  case caused =>
    intro other member
    have known := recovering.caused other member
    refine ⟨known.1, known.2.1, ?_⟩
    rw [mem_append, mem_singleton]
    rintro (old | same)
    · exact known.2.2 old
    · exact outside.2.2 (same ▸ member)
  case task => exact recovering.task
  case tasks => exact recovering.tasks
  case running => exact recovering.running
  case updates => exact recovering.updates
  case cancelRequested => exact recovering.cancelRequested

private theorem Recovering.skip (recovering : Recovering settings failed skips before state)
    {newly : List StepName} {after : RunState Point}
    (skipped : Skips "workflow timeout" newly state after)
    (waiting : ∀ step, step ∈ newly → step ∈ settings.dag.stepNames ∧ step ∉ state.completed) :
    Recovering settings failed (skips ++ newly) before after := by
  constructor
  case completed =>
    intro step
    rw [skipped.completed, recovering.completed, mem_append]
    tauto
  case skipped =>
    intro step member
    rw [skipped.skipped] at member
    rw [mem_append]
    rcases member with old | new
    · exact (recovering.skipped step old).imp id Or.inl
    · exact .inr (.inr new)
  case results =>
    intro step
    rw [skipped.results, recovering.results]
    simp only [mem_append]
    by_cases new : step ∈ newly
    · have outside := (recovering.completed step).not.mp (waiting step new).2
      rw [not_or, not_or] at outside
      simp [new, outside.1, outside.2.1]
    · simp [new]
  case context =>
    intro step
    rw [skipped.context, recovering.context, mem_append, or_assoc]
  case failedSteps => rw [skipped.failedSteps, recovering.failedSteps]
  case caused =>
    intro step member
    rcases mem_append.mp member with old | new
    · exact recovering.caused step old
    · have outside := (recovering.completed step).not.mp (waiting step new).2
      rw [not_or, not_or] at outside
      exact ⟨(waiting step new).1, outside.1, outside.2.1⟩
  case task => rw [skipped.task, recovering.task]
  case tasks => rw [skipped.tasks, recovering.tasks]
  case running => rw [skipped.running, recovering.running]
  case updates => rw [skipped.updates, recovering.updates]
  case cancelRequested => rw [skipped.cancelRequested, recovering.cancelRequested]

end

variable {settings : Settings} {before : RunState Point}

private theorem failTimedOut_recovering {batch failed skips : List StepName}
    {state : RunState Point} {step : StepName} (consistent : before.Consistent settings.dag batch)
    (recovering : Recovering settings failed skips before state)
    (idle : ∀ other, other ∈ skips → before.task other = none) (running : step ∈ before.running)
    (fresh : step ∉ failed) :
    ∃ newly, Recovering settings (failed ++ [step]) (skips ++ newly) before
        (failTimedOut settings state step) ∧
      ∀ other, other ∈ skips ++ newly → before.task other = none := by
  have held := (consistent.running step).mp running
  have waiting : step ∉ state.completed := by
    rw [recovering.completed]
    rintro (done | failing | skipping)
    · exact held.2 done
    · exact fresh failing
    · exact held.1 (idle step skipping)
  have failing := recovering.fail waiting
  obtain ⟨newly, cascade⟩ := cascadeSkip_cascade settings.dag step "workflow timeout"
    (state.recordTimeout settings step)
  have shape : failTimedOut settings state step = cascadeSkip settings.dag step
      "workflow timeout" (state.recordTimeout settings step) := if_neg waiting
  rw [← shape] at cascade
  have newlyWaiting : ∀ other, other ∈ newly →
      other ∉ (state.recordTimeout settings step).completed :=
    fun other member done => cascade.fresh other member (.inl done)
  have newlyCaused : ∀ other, other ∈ newly →
      other ∈ settings.dag.stepNames ∧ before.task other = none := by
    intro other member
    obtain ⟨cause, source, edge⟩ := cascade.caused other member
    have causeOpen : cause ∉ before.completed := by
      rcases source with same | chained
      · exact mem_singleton.mp same ▸ held.2
      · intro done
        exact newlyWaiting cause chained ((failing.completed cause).mpr (.inl done))
    refine ⟨settings.dag.mem_stepNames_of_dependsOn edge, ?_⟩
    by_contra started
    exact causeOpen (consistent.supported other started cause edge).1
  refine ⟨newly, failing.skip cascade.skips ?_, ?_⟩
  · intro other member
    exact ⟨(newlyCaused other member).1, newlyWaiting other member⟩
  · intro other member
    rcases mem_append.mp member with old | new
    · exact idle other old
    · exact (newlyCaused other new).2

private theorem failRunning_recovering {batch order failed skips : List StepName}
    {state : RunState Point} (consistent : before.Consistent settings.dag batch)
    (recovering : Recovering settings failed skips before state)
    (idle : ∀ other, other ∈ skips → before.task other = none)
    (running : ∀ step, step ∈ order → step ∈ before.running) (distinct : (failed ++ order).Nodup) :
    ∃ skips', Recovering settings (failed ++ order) skips' before
      (order.foldl (failTimedOut settings) state) := by
  induction order generalizing failed skips state with
  | nil =>
      rw [append_nil]
      exact ⟨skips, recovering⟩
  | cons step rest ih =>
      have fresh : step ∉ failed := by
        intro member
        exact (nodup_append.mp distinct).2.2 step member step mem_cons_self rfl
      obtain ⟨newly, taken, stillIdle⟩ := failTimedOut_recovering consistent recovering idle
        (running step mem_cons_self) fresh
      rw [append_cons] at distinct ⊢
      exact ih taken stillIdle (fun other member => running other (mem_cons_of_mem step member))
        distinct

private theorem skipRemaining_recovering {order failed skips : List StepName}
    {state : RunState Point} (recovering : Recovering settings failed skips before state)
    (named : ∀ step, step ∈ order → step ∈ settings.dag.stepNames) :
    ∃ skips', Recovering settings failed skips' before
        (order.foldl (markSkipped "workflow timeout") state) ∧
      ∀ step, step ∈ order ∨ state.Finished step →
        (order.foldl (markSkipped "workflow timeout") state).Finished step := by
  induction order generalizing skips state with
  | nil =>
      refine ⟨skips, recovering, ?_⟩
      rintro step (impossible | done)
      · cases impossible
      · exact done
  | cons step rest ih =>
      rw [foldl_cons]
      have restNamed : ∀ other, other ∈ rest → other ∈ settings.dag.stepNames :=
        fun other member => named other (mem_cons_of_mem step member)
      by_cases done : state.Finished step
      · have stays : markSkipped "workflow timeout" state step = state := if_pos done
        rw [stays]
        obtain ⟨skips', taken, finished⟩ := ih recovering restNamed
        refine ⟨skips', taken, ?_⟩
        intro other source
        apply finished other
        rw [List.mem_cons] at source
        rcases source with (same | later) | early
        · exact .inr (same ▸ done)
        · exact .inl later
        · exact .inr early
      · have one := markSkipped_skips "workflow timeout" state step done
        have skipped := recovering.skip one (by
          intro other member
          rw [mem_singleton] at member
          subst member
          exact ⟨named other mem_cons_self, fun early => done (.inl early)⟩)
        obtain ⟨skips', taken, finished⟩ := ih skipped restNamed
        refine ⟨skips', taken, ?_⟩
        intro other source
        apply finished other
        rw [one.finished, mem_singleton]
        rw [List.mem_cons] at source
        tauto

/-- What the recovery from a timeout leaves, in terms of the state it found. -/
structure Recovered (settings : Settings) (before after : RunState Point) : Prop where
  results : ∀ step, after.results step =
    if step ∈ before.completed then before.results step
    else if step ∈ before.running then some (timeoutResult settings step)
    else if step ∈ settings.dag.stepNames then some (skipResult step "workflow timeout")
    else none
  context : ∀ step, step ∈ after.ctx.completedSteps ↔ step ∈ before.ctx.completedSteps ∨
    (step ∈ settings.dag.stepNames ∧ step ∉ before.completed ∧ step ∉ before.running)
  failedSteps : after.ctx.failedSteps = before.ctx.failedSteps
  overall : after.result.overallStatus = .failed
  tasks : after.tasks = ∅
  task : after.task = before.task
  updates : after.updates = before.updates
  cancelRequested : after.cancelRequested = before.cancelRequested

theorem handleTimeout_recovered {batch running remaining : List StepName} {after : RunState Point}
    (consistent : before.Consistent settings.dag batch)
    (handled : before.handleTimeout settings running remaining = some after) :
    Recovered settings before after := by
  simp only [handleTimeout] at handled
  split at handled
  · rename_i walked
    split at handled
    · rename_i left
      rw [Option.some.injEq] at handled
      have members : ∀ step, step ∈ running ↔ step ∈ before.running := by
        intro step
        rw [← walked.2, mem_toFinset]
      obtain ⟨cascaded, failing⟩ := failRunning_recovering consistent
        (Recovering.initial settings before) (by simp) (fun step member => (members step).mp member)
        (by rw [nil_append]; exact walked.1)
      rw [nil_append] at failing
      have leftOver : ∀ step, step ∈ remaining ↔ step ∈ settings.dag.stepNames ∧
          ¬ (running.foldl (failTimedOut settings) { before with tasks := ∅ }).Finished step := by
        intro step
        rw [← mem_toFinset, left.2, RunState.remaining, Finset.mem_sdiff, Finset.mem_sdiff,
          mem_toFinset, Finished, not_or, and_assoc]
      obtain ⟨skips, recovering, finished⟩ := skipRemaining_recovering failing
        (fun step member => ((leftOver step).mp member).1)
      have skipping : ∀ step, step ∈ skips ↔ step ∈ settings.dag.stepNames ∧
          step ∉ before.completed ∧ step ∉ before.running := by
        intro step
        constructor
        · intro member
          have known := recovering.caused step member
          exact ⟨known.1, known.2.1, fun runs => known.2.2 ((members step).mpr runs)⟩
        · rintro ⟨named, waiting, idle⟩
          have done := finished step (by
            by_cases early : (running.foldl (failTimedOut settings)
                { before with tasks := ∅ }).Finished step
            · exact .inr early
            · exact .inl ((leftOver step).mpr ⟨named, early⟩))
          have source : step ∈ before.completed ∨ step ∈ running ∨ step ∈ skips := by
            rcases done with completed | skipped
            · exact (recovering.completed step).mp completed
            · rcases recovering.skipped step skipped with old | new
              · exact .inl (consistent.skipped step old)
              · exact .inr (.inr new)
          rw [members] at source
          tauto
      subst handled
      refine ⟨?_, ?_, recovering.failedSteps, rfl, recovering.tasks, recovering.task,
        recovering.updates, recovering.cancelRequested⟩
      · intro step
        change (remaining.foldl (markSkipped "workflow timeout") _).results step = _
        rw [recovering.results]
        by_cases done : step ∈ before.completed
        · rw [if_pos done, if_pos done]
        · rw [if_neg done, if_neg done, consistent.not_recorded done]
          by_cases runs : step ∈ before.running
          · rw [if_pos ((members step).mpr runs), if_pos runs]
          · rw [if_neg (fun member => runs ((members step).mp member)), if_neg runs]
            simp only [skipping, done, runs, not_false_eq_true, and_true]
      · intro step
        change step ∈ (remaining.foldl (markSkipped "workflow timeout") _).ctx.completedSteps ↔ _
        rw [recovering.context, skipping]
    · cases handled
  · cases handled

end RunState

end AgenticRuntime
