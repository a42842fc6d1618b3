/-
The context a run leaves against the results it reports.

Every step shows the mark its task or its result calls for; only a recovery that
fails a step already marked complete, or a step task whose last emission is
aborted, can break that.
-/

import AgenticRuntime.Engine.RunChange
import AgenticRuntime.Engine.StepMarks

namespace AgenticRuntime

open RunState Function

def StepResult.mark (result : StepResult) : Mark :=
  if result.status = .success then .completed
  else if result.status = .failed then .withheld
  else .free

section

variable {Point : Type}

def TaskPhase.mark (mark : Point → Option Mark) : Option (TaskPhase Point) → Option Mark
  | some (.executing point) => mark point
  | some (.done outcome) => some outcome.mark
  | _ => some .unmarked

def RunState.expectedMark (mark : Point → Option Mark) (state : RunState Point)
    (step : StepName) : Option Mark :=
  match state.results step with
  | some result => some result.mark
  | none => TaskPhase.mark mark (state.task step)

def RunState.Agrees (dag : DAG) (mark : Point → Option Mark) (state : RunState Point) : Prop :=
  ∀ step, step ∈ dag.stepNames →
    ∃ shown, state.expectedMark mark step = some shown ∧ state.ctx.Shows step shown

theorem Progress.Marked.phase {mark : Point → Option Mark} {step : StepName} {ctx : Context}
    {progress : Progress Point} (marked : progress.Marked mark step ctx) :
    ∃ shown, TaskPhase.mark mark (some progress.phase) = some shown ∧ ctx.Shows step shown := by
  cases progress with
  | awaiting point => exact marked
  | finished outcome => exact ⟨outcome.mark, rfl, marked⟩

private theorem settle_shows {step : StepName} {outcome : TaskOutcome} {before after : Context}
    (shown : before.Shows step outcome.mark)
    (completed : step ∈ after.completedSteps ↔
      step ∈ before.completedSteps ∨ (outcome.settle step).status = .skipped)
    (failed : step ∈ after.failedSteps ↔ step ∈ before.failedSteps) :
    after.Shows step (outcome.settle step).mark := by
  have kept : (outcome.settle step).status = .failed → step ∉ before.completedSteps →
      after.Shows step (outcome.settle step).mark := by
    intro failure withheld
    simp only [StepResult.mark, failure, reduceCtorEq, if_false, if_true, Context.Shows, completed,
      or_false]
    exact withheld
  cases outcome with
  | raised errorType message => exact kept rfl shown
  | returned raw =>
      change before.Shows step (if raw.status = .success then .completed else .withheld) at shown
      by_cases success : raw.status = .success
      · have same : (TaskOutcome.settle step (.returned raw)).status = .success := by
          change (failNonterminal raw).status = .success
          rw [failNonterminal_status, success, if_pos (by decide)]
        rw [if_pos success] at shown
        simp only [StepResult.mark, same, if_true, Context.Shows, completed, failed]
        exact ⟨.inl shown.1, shown.2⟩
      · rw [if_neg success] at shown
        have settled : (failNonterminal raw).status = .failed ∨
            (failNonterminal raw).status = .skipped := by
          have terminal := TaskOutcome.settle_terminal step (.returned raw)
          change (failNonterminal raw).status.Terminal at terminal
          rw [StepStatus.Terminal, terminalStatuses, List.mem_cons, List.mem_cons,
            List.mem_singleton] at terminal
          rcases terminal with impossible | terminal
          · rw [failNonterminal_status] at impossible
            split at impossible
            · exact absurd impossible success
            · cases impossible
          · exact terminal
        rcases settled with failure | skipped
        · exact kept failure shown
        · have free : (TaskOutcome.settle step (.returned raw)).mark = .free := by
            change (failNonterminal raw).mark = .free
            simp [StepResult.mark, skipped]
          rw [free]
          trivial

end

namespace RunState

section

variable {Point : Type} {dag : DAG} {mark : Point → Option Mark} {state after : RunState Point}

theorem Agrees.own (agrees : state.Agrees dag mark) {step : StepName}
    (named : step ∈ dag.stepNames) (pending : state.results step = none) :
    ∃ shown, TaskPhase.mark mark (state.task step) = some shown ∧ state.ctx.Shows step shown := by
  have own := agrees step named
  simp only [expectedMark, pending] at own
  exact own

theorem Agrees.view (agrees : state.Agrees dag mark) (same : DAGExecutor.SameView state after) :
    after.Agrees dag mark := by
  intro step named
  have own := agrees step named
  simp only [expectedMark, same.ctx, same.results, same.task] at own ⊢
  exact own

theorem Agrees.move (agrees : state.Agrees dag mark) {step : StepName}
    {phase : TaskPhase Point} (pending : state.results step = none)
    (own : ∃ shown, TaskPhase.mark mark (some phase) = some shown ∧ after.ctx.Shows step shown)
    (others : ∀ other, other ≠ step → SameMarks other state.ctx after.ctx)
    (task : after.task = update state.task step (some phase))
    (results : after.results = state.results) : after.Agrees dag mark := by
  intro other named
  by_cases same : other = step
  · subst same
    simp only [expectedMark, results, pending, task, update_self]
    exact own
  · obtain ⟨shown, expected, shows⟩ := agrees other named
    refine ⟨shown, ?_, (others other same).shows shows⟩
    simp only [expectedMark, results, task, update_of_ne same]
    exact expected

theorem Agrees.spawn (agrees : state.Agrees dag mark) {newly : List StepName}
    (idle : ∀ step, step ∈ newly → state.task step = none ∧ state.results step = none)
    (spawns : Spawns newly state after) : after.Agrees dag mark := by
  have ctx : after.ctx = state.ctx := by rw [spawns.frame]
  have results : after.results = state.results := by rw [spawns.frame]
  intro step named
  rw [ctx]
  by_cases fresh : step ∈ newly
  · have own := agrees.own named (idle step fresh).2
    rw [(idle step fresh).1] at own
    simp only [expectedMark, results, (idle step fresh).2, spawns.task, if_pos fresh]
    exact own
  · have own := agrees step named
    simp only [expectedMark, results, spawns.task, if_neg fresh] at own ⊢
    exact own

theorem Agrees.settle (agrees : state.Agrees dag mark) {step : StepName} {outcome : TaskOutcome}
    {reason : String} {newly : List StepName}
    (current : state.task step = some (.done outcome)) (pending : state.results step = none)
    (settlement : Settlement dag step (outcome.settle step) reason newly state after) :
    after.Agrees dag mark := by
  intro other named
  by_cases skips : other ∈ newly
  · refine ⟨.free, ?_, trivial⟩
    simp [expectedMark, settlement.results, skips, StepResult.mark, skipResult]
  · by_cases same : other = step
    · subst same
      refine ⟨(outcome.settle other).mark, ?_, ?_⟩
      · simp only [expectedMark, settlement.results, if_neg skips, if_true]
      · obtain ⟨shown, expected, shows⟩ := agrees.own named pending
        rw [current] at expected
        cases expected
        refine settle_shows shows ?_ ?_
        · rw [settlement.context]
          simp [skips]
        · rw [settlement.failedSteps]
    · obtain ⟨shown, expected, shows⟩ := agrees other named
      refine ⟨shown, ?_, ?_⟩
      · simp only [expectedMark, settlement.results, if_neg skips, if_neg same, settlement.task]
        exact expected
      · refine SameMarks.shows ⟨?_, ?_⟩ shows
        · rw [settlement.context]
          simp [skips, same]
        · rw [settlement.failedSteps]

/-- `_mark_context_failed` on a step that is recorded as failed. -/
theorem Agrees.markContextFailed (agrees : state.Agrees dag mark) {step : StepName}
    {result : StepResult} (recorded : state.results step = some result)
    (failed : result.status = .failed) : (state.markContextFailed step).Agrees dag mark := by
  intro other named
  obtain ⟨shown, expected, shows⟩ := agrees other named
  refine ⟨shown, expected, ?_⟩
  by_cases same : other = step
  · subst same
    have withheld : shown = .withheld := by
      simp only [expectedMark, recorded, StepResult.mark, failed, reduceCtorEq, if_false, if_true,
        Option.some.injEq] at expected
      exact expected.symm
    subst withheld
    change other ∉ ((if other ∈ state.ctx.completedSteps then state.ctx.dropComplete other
      else state.ctx).markStepFailed other).completedSteps
    rw [if_neg shows]
    exact shows
  · refine SameMarks.shows ?_ shows
    change SameMarks other state.ctx ((if step ∈ state.ctx.completedSteps
      then state.ctx.dropComplete step else state.ctx).markStepFailed step)
    split
    · have dropped : SameMarks other state.ctx (state.ctx.dropComplete step) :=
        ⟨Context.mem_dropComplete_of_ne state.ctx step other same,
          Context.mem_dropComplete_failed state.ctx step other⟩
      have marked := SameMarks.markStepFailed (state.ctx.dropComplete step) same
      exact ⟨marked.completed.trans dropped.completed, marked.failed.trans dropped.failed⟩
    · exact SameMarks.markStepFailed state.ctx same

theorem Agrees.recover (agrees : state.Agrees dag mark) {settings : Settings}
    {batch : List StepName} (same : settings.dag = dag)
    (consistent : state.Consistent dag batch) (recovery : Recovered settings state after)
    (clean : ∀ step, step ∈ state.running → step ∉ state.ctx.completedSteps) :
    after.Agrees dag mark := by
  intro step named
  by_cases done : step ∈ state.completed
  · obtain ⟨shown, expected, shows⟩ := agrees step named
    obtain ⟨result, found⟩ := Option.ne_none_iff_exists'.mp ((consistent.recorded step).mp done)
    refine ⟨shown, ?_, ?_⟩
    · simp only [expectedMark, recovery.results, if_pos done, found] at expected ⊢
      exact expected
    · refine SameMarks.shows ⟨?_, ?_⟩ shows
      · rw [recovery.context]
        simp [done]
      · rw [recovery.failedSteps]
  · by_cases runs : step ∈ state.running
    · refine ⟨.withheld, ?_, ?_⟩
      · simp [expectedMark, recovery.results, done, runs, StepResult.mark, timeoutResult]
      · change step ∉ after.ctx.completedSteps
        rw [recovery.context]
        simp [clean step runs, runs]
    · refine ⟨.free, ?_, trivial⟩
      subst same
      simp [expectedMark, recovery.results, done, runs, named, StepResult.mark, skipResult]

end

end RunState

namespace DAGExecutor

variable {Point Input : Type} {executor : Executor Point Input} {aborts : Point → Input → Prop}
  {settings : Settings}

/-- The event aborts no emission that follows a mark, and recovers from a timeout
only when no step it would fail is marked complete. -/
def Undisturbed (aborts : Point → Input → Prop) (run : Run Point) : Event Input → Prop
  | .advance step input | .cancel step input =>
      ∀ point, run.state.task step = some (.executing point) → ¬ aborts point input
  | .recover _ _ =>
      ∀ step, step ∈ run.state.running → step ∉ run.state.ctx.completedSteps
  | _ => True

/-- What `_process_done_task` marks itself is recorded as failed. -/
private theorem settle_failed (step : StepName) {outcome : TaskOutcome}
    (marking : marksContext outcome = true) : (outcome.settle step).status = .failed := by
  cases outcome with
  | raised errorType message => rfl
  | returned raw =>
      have nonterminal : ¬ raw.status.Terminal := of_decide_eq_true marking
      exact (failNonterminal_status raw).trans (if_neg nonterminal)

private theorem Turn.agrees (marks : executor.Marks aborts) {run : Run Point}
    {after : RunState Point} {event : Event Input} {batch : List StepName}
    (consistent : run.state.Consistent settings.dag batch)
    (agrees : run.state.Agrees settings.dag marks.mark) (undisturbed : Undisturbed aborts run event)
    (turn : Turn executor settings.dag run.state event after) :
    after.Agrees settings.dag marks.mark := by
  have facts : ∀ step phase, run.state.task step = some phase →
      TaskPhase.isDone (some phase) = false → run.state.results step = none ∧
        ∃ shown, TaskPhase.mark marks.mark (some phase) = some shown ∧
          run.state.ctx.Shows step shown := by
    intro step phase current moving
    have pending := consistent.not_recorded (consistent.not_completed_of_not_done current moving)
    have named := consistent.registered step (.inr (by rw [current]; exact nofun))
    have own := agrees.own named pending
    rw [current] at own
    exact ⟨pending, own⟩
  have untouched : ∀ (step other : StepName), other ≠ step →
      SameMarks other run.state.ctx run.state.ctx := fun _ other _ => SameMarks.refl other _
  cases turn with
  | begin step current kept =>
      obtain ⟨pending, shown, expected, shows⟩ := facts step _ current rfl
      cases expected
      unfold beginTask
      split
      · exact agrees.move pending ⟨.withheld, rfl, shows.1⟩ (untouched step) rfl rfl
      · exact agrees.move pending ⟨.unmarked, rfl, shows⟩ (untouched step) rfl rfl
  | enter step observerRaised input definition progress ctx current kept known entered =>
      obtain ⟨pending, shown, expected, shows⟩ := facts step _ current rfl
      cases expected
      have named := DAG.name_of_lookup known
      subst named
      obtain ⟨marked, others⟩ := marks.enter definition _ input progress ctx entered shows
      have outcome := noteObserver_outcome observerRaised run.state
      refine agrees.move pending marked.phase others ?_ ?_
      · exact congrArg (fun task => update task definition.name _) outcome.task
      · exact outcome.results
  | unknown step observerRaised input current kept missing =>
      obtain ⟨pending, shown, expected, shows⟩ := facts step _ current rfl
      cases expected
      have outcome := noteObserver_outcome observerRaised run.state
      have own : ∃ shown, TaskPhase.mark marks.mark
          (some (.done (.raised "KeyError" s!"'{step}'"))) = some shown ∧
          (run.state.noteObserver observerRaised).ctx.Shows step shown := by
        refine ⟨.withheld, rfl, ?_⟩
        rw [outcome.ctx]
        exact shows.1
      refine agrees.move pending own ?_ ?_ outcome.results
      · intro other _
        change SameMarks other _ (run.state.noteObserver observerRaised).ctx
        rw [outcome.ctx]
        exact SameMarks.refl other _
      · exact congrArg (fun task => update task step _) outcome.task
  | resume step input definition point progress ctx current kept known moved
  | cancel step input definition point progress ctx current asked known moved =>
      obtain ⟨pending, shown, expected, shows⟩ := facts step _ current rfl
      have named := DAG.name_of_lookup known
      subst named
      have calm := undisturbed point current
      obtain ⟨marked, others⟩ := by
        first
        | exact marks.resume definition point _ input progress ctx shown moved calm expected shows
        | exact marks.cancel definition point _ input progress ctx shown moved calm expected shows
      exact agrees.move pending marked.phase others rfl rfl
  | drop step current asked | interrupt step current asked =>
      obtain ⟨pending, shown, expected, shows⟩ := facts step _ current rfl
      cases expected
      exact agrees.move pending ⟨.withheld, rfl, shows.1⟩ (untouched step) rfl rfl
  | swallow step current asked => exact agrees.view ⟨rfl, rfl, rfl⟩

theorem next_agrees (marks : executor.Marks aborts) (valid : settings.dag.validate = .ok ())
    (positive : 1 ≤ settings.maxConcurrency) (run : Run Point) (event : Event Input)
    (after : Run Point)
    (held : Invariant settings run ∧ run.state.Agrees settings.dag marks.mark)
    (undisturbed : Undisturbed aborts run event)
    (taken : next executor settings run event = some after) :
    Invariant settings after ∧ after.state.Agrees settings.dag marks.mark := by
  refine ⟨next_invariant valid positive run event after held.1 taken, ?_⟩
  cases next_change valid positive held.1 taken with
  | quiet _ _ same => exact held.2.view same
  | turned _ _ batch consistent turn => exact Turn.agrees marks consistent held.2 undisturbed turn
  | spawned _ first _ newly same idle spawns => exact (held.2.view same).spawn idle spawns
  | settled _ first recorded _ step outcome reason newly same current pending settlement marked =>
      have settled := (held.2.view same).settle current pending settlement
      split at marked
      · rename_i marking
        have notNew : step ∉ newly := fun skips => (settlement.fresh step skips).2 rfl
        have found : recorded.results step = some (outcome.settle step) := by
          rw [settlement.results, if_neg notNew, if_pos rfl]
        exact (settled.markContextFailed found (settle_failed step marking)).view marked
      · exact settled.view marked
  | recovered running remaining recovered _ batch consistent recovery same =>
      exact (held.2.recover rfl consistent recovery undisturbed).view same

def ContextAgrees (dag : DAG) (state : RunState Point) : Prop :=
  ∃ recorded, state.result.steps = dag.stepNames.map recorded ∧
    ∀ step, step ∈ dag.stepNames →
      ((recorded step).status = .failed → step ∉ state.ctx.completedSteps) ∧
      ((recorded step).status = .success →
        step ∈ state.ctx.completedSteps ∧ step ∉ state.ctx.failedSteps)

/-- In a run with the real step executor, on a context that does not mark the
steps yet, a step reported FAILED is not marked complete and a step reported
SUCCESS is. -/
theorem context_agrees (settings : Settings) (valid : settings.dag.validate = .ok ())
    (positive : 1 ≤ settings.maxConcurrency) (ctx : Context) (workflowId : String)
    (fresh : ∀ step, step ∈ settings.dag.stepNames →
      step ∉ ctx.completedSteps ∧ step ∉ ctx.failedSteps)
    (events : List (Event StepExecutor.Input)) (finish : Run StepExecutor.Point)
    (run : Transition.replay (next StepExecutor.executor settings)
      (start settings ctx workflowId) events = some finish)
    (undisturbed : Transition.Along (next StepExecutor.executor settings)
      (Undisturbed StepExecutor.Aborts) (start settings ctx workflowId) events)
    (returned : finish.control = .returned) : ContextAgrees settings.dag finish.state := by
  have first : Invariant settings (start settings ctx workflowId : Run StepExecutor.Point) ∧
      (start settings ctx workflowId : Run StepExecutor.Point).state.Agrees settings.dag
        StepExecutor.marks.mark :=
    ⟨start_invariant ctx workflowId, fun step named => ⟨.unmarked, rfl, fresh step named⟩⟩
  obtain ⟨invariant, agrees⟩ := Transition.replay_invariant_along
    (next_agrees StepExecutor.marks valid positive) first undisturbed run
  cases invariant with
  | returned state ended =>
      obtain ⟨⟨recorded, steps, known⟩, _⟩ := ended.results
      refine ⟨recorded, steps, ?_⟩
      intro step named
      obtain ⟨shown, expected, shows⟩ := agrees step named
      simp only [expectedMark, known step named, Option.some.injEq] at expected
      subst expected
      constructor
      · intro failed
        simp only [StepResult.mark, failed, reduceCtorEq, if_false, if_true] at shows
        exact shows
      · intro success
        simp only [StepResult.mark, success, if_true] at shows
        exact shows
  | _ => cases returned

def pairDag : DAG :=
  { name := "pair", steps := [{ name := "left" }, { name := "right" }], distinct := by decide }

def pairSettings : Settings := { dag := pairDag, maxConcurrency := 10, timeout := some "30" }

def succeeds (step : StepName) : List (Event StepExecutor.Input) :=
  .observed step false {} :: List.replicate 4 (.advance step {})

/-- `right` is cancelled inside its body and finishes FAILED before the recovery. -/
theorem context_agrees_cancelled : ∃ finish, Transition.replay
    (next StepExecutor.executor pairSettings) (start pairSettings {} "run")
    ([.resume false, .begin "left", .begin "right"] ++ succeeds "left" ++
      [.observed "right" false {}, .advance "right" {}, .wake ["left"], .timeout,
        .cancel "right" { signal := .raised .cancelled }, .advance "right" {},
        .recover ["right"] [], .resume false]) = some finish ∧
    finish.control = .returned ∧ ContextAgrees pairDag finish.state := by
  have whole : ∃ finish, Transition.replay
      (next StepExecutor.executor pairSettings) (start pairSettings {} "run")
      ([.resume false, .begin "left", .begin "right"] ++ succeeds "left" ++
        [.observed "right" false {}, .advance "right" {}, .wake ["left"], .timeout,
          .cancel "right" { signal := .raised .cancelled }, .advance "right" {},
          .recover ["right"] [], .resume false]) = some finish ∧ finish.control = .returned := by
    refine ⟨_, rfl, ?_⟩
    rfl
  obtain ⟨finish, run, returned⟩ := whole
  refine ⟨finish, run, returned, ?_⟩
  apply context_agrees pairSettings rfl (by decide) {} "run" (by simp) _ finish run _ returned
  have calm : ∀ point, ¬ StepExecutor.Aborts point {} := by
    intro point aborted
    cases point with
    | attempting stage frame => cases stage <;> cases aborted
    | _ => cases aborted
  refine ⟨trivial, trivial, trivial, trivial, fun point _ => calm point, fun point _ => calm point,
    fun point _ => calm point, fun point _ => calm point, trivial, fun point _ => calm point,
    trivial, trivial, ?_, fun point _ => calm point, ?_, trivial, trivial⟩
  · intro point current
    cases current
    exact nofun
  · exact (by decide : ∀ step, step ∈ ({"right"} : Finset StepName) → step ∉ ["left"])

/-- Both steps finish before the scheduler looks, and the timeout falls while it
sends the end of `left`: `right` is reported FAILED and stays marked complete. -/
theorem context_disagrees_mid_batch : ∃ finish, Transition.replay
    (next StepExecutor.executor pairSettings) (start pairSettings {} "run")
    ([.resume false, .begin "left", .begin "right"] ++ succeeds "left" ++ succeeds "right" ++
      [.wake ["left", "right"], .timeout, .recover ["right"] [], .resume false]) = some finish ∧
    finish.control = .returned ∧ ¬ ContextAgrees pairDag finish.state := by
  refine ⟨_, rfl, ?_⟩
  refine ⟨rfl, ?_⟩
  intro agrees
  obtain ⟨recorded, steps, marked⟩ := agrees
  have failed : (recorded "right").status = .failed := by
    have second := congrArg (fun list => (list.map StepResult.status)[1]?) steps
    exact (Option.some.inj second).symm
  exact (marked "right" (by decide)).1 failed (by decide)

end DAGExecutor

end AgenticRuntime
