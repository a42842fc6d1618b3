/-
Runs of `DAGExecutor.execute`: what one move of a step task and one move of the
scheduler can do, and the invariant that holds wherever the scheduler awaits.
-/

import AgenticRuntime.Engine.Recovery

namespace AgenticRuntime

open RunState List Option TaskPhase

namespace DAGExecutor

variable {Point Input : Type}

/-! ### Moves of a step task -/

inductive Turn (executor : Executor Point Input) (dag : DAG) (state : RunState Point) :
    Event Input → RunState Point → Prop
  | begin (step : StepName) (current : state.task step = some .created)
      (kept : step ∉ state.cancelRequested) :
      Turn executor dag state (.begin step) (state.beginTask step)
  | enter (step : StepName) (observerRaised : Bool) (input : Input)
      (definition : StepDefinition) (progress : Progress Point) (ctx : Context)
      (current : state.task step = some .starting) (kept : step ∉ state.cancelRequested)
      (known : dag.lookup step = some definition)
      (entered : executor.enter definition state.ctx input = some (progress, ctx)) :
      Turn executor dag state (.observed step observerRaised input)
        (({ state.noteObserver observerRaised with ctx := ctx } : RunState Point).setTask step
          progress.phase)
  | unknown (step : StepName) (observerRaised : Bool) (input : Input)
      (current : state.task step = some .starting) (kept : step ∉ state.cancelRequested)
      (missing : dag.lookup step = none) :
      Turn executor dag state (.observed step observerRaised input)
        ((state.noteObserver observerRaised).setTask step
          (.done (.raised "KeyError" s!"'{step}'")))
  | resume (step : StepName) (input : Input) (definition : StepDefinition) (point : Point)
      (progress : Progress Point) (ctx : Context)
      (current : state.task step = some (.executing point))
      (kept : step ∉ state.cancelRequested) (known : dag.lookup step = some definition)
      (resumed : executor.resume definition point state.ctx input = some (progress, ctx)) :
      Turn executor dag state (.advance step input)
        (({ state with ctx := ctx } : RunState Point).setTask step progress.phase)
  | drop (step : StepName) (current : state.task step = some .created)
      (asked : step ∈ state.cancelRequested) :
      Turn executor dag state (.drop step)
        ((state.clearRequest step).setTask step (.done .cancelled))
  | swallow (step : StepName) (current : state.task step = some .starting)
      (asked : step ∈ state.cancelRequested) :
      Turn executor dag state (.interrupt step true) (state.clearRequest step)
  | interrupt (step : StepName) (current : state.task step = some .starting)
      (asked : step ∈ state.cancelRequested) :
      Turn executor dag state (.interrupt step false)
        ((state.clearRequest step).setTask step (.done .cancelled))
  | cancel (step : StepName) (input : Input) (definition : StepDefinition) (point : Point)
      (progress : Progress Point) (ctx : Context)
      (current : state.task step = some (.executing point))
      (asked : step ∈ state.cancelRequested) (known : dag.lookup step = some definition)
      (cancelled : executor.cancel definition point state.ctx input = some (progress, ctx)) :
      Turn executor dag state (.cancel step input)
        (({ state.clearRequest step with ctx := ctx } : RunState Point).setTask step
          progress.phase)

private theorem progressTask_some {state after : RunState Point} {step : StepName}
    {moved : Option (Progress Point × Context)} (taken : state.progressTask step moved = some after) :
    ∃ progress ctx, moved = some (progress, ctx) ∧
      after = ({ state with ctx := ctx } : RunState Point).setTask step progress.phase := by
  cases moved with
  | none => cases taken
  | some pair => exact ⟨pair.1, pair.2, rfl, (some.inj taken).symm⟩

private theorem advanceTask_some {dag : DAG} {state after : RunState Point} {step : StepName}
    {point : Point} {input : Input}
    {move : StepDefinition → Point → Context → Input → Option (Progress Point × Context)}
    (taken : state.advanceTask move dag step point input = some after) :
    ∃ definition progress ctx, dag.lookup step = some definition ∧
      move definition point state.ctx input = some (progress, ctx) ∧
      after = ({ state with ctx := ctx } : RunState Point).setTask step progress.phase := by
  unfold advanceTask at taken
  cases known : dag.lookup step with
  | none =>
      simp only [known] at taken
      cases taken
  | some definition =>
      simp only [known] at taken
      obtain ⟨progress, ctx, moved, same⟩ := progressTask_some taken
      exact ⟨definition, progress, ctx, rfl, moved, same⟩

theorem noteObserver_ctx (observerRaised : Bool) (state : RunState Point) :
    (state.noteObserver observerRaised).ctx = state.ctx := by
  unfold noteObserver
  split
  · rfl
  · rfl

theorem taskNext_turn {executor : Executor Point Input} {dag : DAG} {state after : RunState Point}
    {event : Event Input} (taken : taskNext executor dag state event = some after) :
    Turn executor dag state event after := by
  cases event with
  | resume observerRaised => cases taken
  | wake done => cases taken
  | timeout => cases taken
  | recover running remaining => cases taken
  | abandon => cases taken
  | begin step =>
      simp only [taskNext, begins] at taken
      split at taken
      · rename_i current
        split at taken
        · cases taken
        · rename_i kept
          cases taken
          exact .begin step current kept
      · cases taken
  | observed step observerRaised input =>
      simp only [taskNext, observes] at taken
      split at taken
      · rename_i current
        split at taken
        · cases taken
        · rename_i kept
          unfold observedTask at taken
          cases known : dag.lookup step with
          | none =>
              simp only [known] at taken
              cases taken
              exact .unknown step observerRaised input current kept known
          | some definition =>
              simp only [known, noteObserver_ctx] at taken
              obtain ⟨progress, ctx, entered, same⟩ := progressTask_some taken
              subst same
              exact .enter step observerRaised input definition progress ctx current kept known
                entered
      · cases taken
  | advance step input =>
      simp only [taskNext, advances] at taken
      split at taken
      · rename_i point current
        split at taken
        · cases taken
        · rename_i kept
          obtain ⟨definition, progress, ctx, known, resumed, same⟩ := advanceTask_some taken
          subst same
          exact .resume step input definition point progress ctx current kept known resumed
      · cases taken
  | drop step =>
      simp only [taskNext, drops] at taken
      split at taken
      · rename_i current
        split at taken
        · rename_i asked
          cases taken
          exact .drop step current asked
        · cases taken
      · cases taken
  | interrupt step swallowed =>
      simp only [taskNext, interrupts] at taken
      split at taken
      · rename_i current
        split at taken
        · rename_i asked
          cases swallowed with
          | true =>
              cases taken
              exact .swallow step current asked
          | false =>
              cases taken
              exact .interrupt step current asked
        · cases taken
      · cases taken
  | cancel step input =>
      simp only [taskNext, cancels] at taken
      split at taken
      · rename_i point current
        split at taken
        · rename_i asked
          obtain ⟨definition, progress, ctx, known, cancelled, same⟩ := advanceTask_some taken
          subst same
          exact .cancel step input definition point progress ctx current asked known cancelled
        · cases taken
      · cases taken

/-! ### Moves of the scheduler -/

inductive Move (settings : Settings) (run : Run Point) : Event Input → Run Point → Prop
  | opened (observerRaised : Bool) (control : run.control = .opening) :
      Move settings run (.resume observerRaised)
        (enterLoop settings (run.state.noteObserver observerRaised))
  | marked (observerRaised : Bool) (step : StepName) (result : StepResult)
      (rest : List StepName) (control : run.control = .marking step result rest) :
      Move settings run (.resume observerRaised) (emitStepEnd run.state step result rest)
  | notified (observerRaised : Bool) (step : StepName) (result : StepResult)
      (rest : List StepName) (control : run.control = .notifying step result rest) :
      Move settings run (.resume observerRaised)
        (processBatch settings (run.state.noteObserver observerRaised) rest)
  | returned (observerRaised : Bool) (control : run.control = .closing) :
      Move settings run (.resume observerRaised)
        { control := .returned, state := run.state.noteObserver observerRaised }
  | wake (done : List StepName) (control : run.control = .waiting)
      (begun : run.state.AllBegun) (batch : run.state.Batch done) :
      Move settings run (.wake done)
        (processBatch settings { run.state with tasks := run.state.tasks \ done.toFinset } done)
  | timeout (limited : settings.timeout.isSome) (begun : run.state.AllBegun)
      (suspended : run.control = .waiting ∨
        (∃ step result rest, run.control = .marking step result rest) ∨
        ∃ step result rest, run.control = .notifying step result rest) :
      Move settings run .timeout { control := .cancelling, state := run.state.requestCancel }
  | recover (running remaining : List StepName) (recovered : RunState Point)
      (control : run.control = .cancelling) (drained : run.state.AllDone)
      (handled : run.state.handleTimeout settings running remaining = some recovered) :
      Move settings run (.recover running remaining) (close settings recovered)
  | abandon (error : String) (control : run.control = .aborting error)
      (drained : run.state.AllDone) :
      Move settings run .abandon
        { control := .raised error, state := { run.state with tasks := ∅ } }

theorem schedulerNext_move {settings : Settings} {run after : Run Point} {event : Event Input}
    (taken : schedulerNext settings run event = some after) : Move settings run event after := by
  cases event with
  | resume observerRaised =>
      simp only [schedulerNext] at taken
      split at taken
      · rename_i control
        cases taken
        exact .opened observerRaised control
      · rename_i step result rest control
        cases taken
        exact .marked observerRaised step result rest control
      · rename_i step result rest control
        cases taken
        exact .notified observerRaised step result rest control
      · rename_i control
        cases taken
        exact .returned observerRaised control
      · cases taken
  | wake done =>
      simp only [schedulerNext] at taken
      split at taken
      · rename_i enabled
        cases taken
        exact .wake done enabled.1 enabled.2.1 enabled.2.2
      · cases taken
  | timeout =>
      simp only [schedulerNext] at taken
      split at taken
      · rename_i enabled
        split at taken
        · rename_i control
          cases taken
          exact .timeout enabled.1 enabled.2 (.inl control)
        · rename_i step result rest control
          cases taken
          exact .timeout enabled.1 enabled.2 (.inr (.inl ⟨step, result, rest, control⟩))
        · rename_i step result rest control
          cases taken
          exact .timeout enabled.1 enabled.2 (.inr (.inr ⟨step, result, rest, control⟩))
        · cases taken
      · cases taken
  | recover running remaining =>
      simp only [schedulerNext] at taken
      split at taken
      · rename_i enabled
        obtain ⟨recovered, handled, same⟩ := map_eq_some_iff.mp taken
        subst same
        exact .recover running remaining recovered enabled.1 enabled.2 handled
      · cases taken
  | abandon =>
      simp only [schedulerNext] at taken
      split at taken
      · rename_i error control
        split at taken
        · rename_i drained
          cases taken
          exact .abandon error control drained
        · cases taken
      · cases taken
  | begin step => cases taken
  | observed step observerRaised input => cases taken
  | advance step input => cases taken
  | drop step => cases taken
  | interrupt step swallowed => cases taken
  | cancel step input => cases taken

theorem next_cases {executor : Executor Point Input} {settings : Settings}
    {run after : Run Point} {event : Event Input}
    (taken : next executor settings run event = some after) :
    Move settings run event after ∨
      ∃ state, Turn executor settings.dag run.state event state ∧
        after = { run with state := state } := by
  unfold next at taken
  split at taken
  · rename_i moved
    cases taken
    exact .inl (schedulerNext_move moved)
  · obtain ⟨state, turned, same⟩ := map_eq_some_iff.mp taken
    exact .inr ⟨state, taskNext_turn turned, same.symm⟩

/-! ### What a task move leaves alone -/

section

variable {executor : Executor Point Input} {dag : DAG} {state after : RunState Point}
  {event : Event Input}

theorem Turn.current (turn : Turn executor dag state event after) :
    ∃ step phase, state.task step = some phase ∧ isDone (some phase) = false := by
  cases turn with
  | begin step current | enter step _ _ _ _ _ current | unknown step _ _ current
  | resume step _ _ _ _ _ current | drop step current | swallow step current
  | interrupt step current | cancel step _ _ _ _ _ current => exact ⟨step, _, current, rfl⟩

theorem Turn.cancelRequested (turn : Turn executor dag state event after) :
    after.cancelRequested ⊆ state.cancelRequested := by
  cases turn with
  | begin step current =>
      unfold beginTask
      split
      · exact Finset.Subset.refl _
      · exact Finset.Subset.refl _
  | enter step observerRaised | unknown step observerRaised =>
      cases observerRaised with
      | true | false => exact Finset.Subset.refl _
  | resume => exact Finset.Subset.refl _
  | drop step | swallow step | interrupt step | cancel step => exact Finset.erase_subset step _

theorem phase_begun (progress : Progress Point) : progress.phase ≠ .created := by
  cases progress with
  | awaiting point => exact nofun
  | finished outcome => exact nofun

private theorem moves_of_running {step : StepName} {phase : TaskPhase Point}
    (running : state.stateManager.getState step = .running) (ctx : Context)
    (cancelRequested : Finset StepName) :
    Moves step phase state (({ state with ctx := ctx, cancelRequested := cancelRequested } :
      RunState Point).setTask step phase) := by
  refine ⟨?_, rfl, rfl, rfl, rfl, rfl, rfl, rfl, rfl, rfl⟩
  intro other
  by_cases same : other = step
  · rw [if_pos same, same]
    exact running
  · rw [if_neg same]
    rfl

variable {batch : List StepName}

theorem Turn.effect (consistent : state.Consistent dag batch)
    (turn : Turn executor dag state event after)
    (begun : ∀ step, step ∈ state.cancelRequested → state.task step ≠ some .created) :
    SameSchedule state after ∨ ∃ step old phase, state.task step = some old ∧
      isDone (some old) = false ∧ phase ≠ .created ∧ Moves step phase state after := by
  have lifecycle : ∀ step old, state.task step = some old →
      isDone (some old) = false →
      state.stateManager.getState step = phaseState (some old) := by
    intro step old current moving
    rw [consistent.lifecycle step (consistent.not_completed_of_not_done current moving), current]
  cases turn with
  | begin step current kept =>
      refine .inr ⟨step, .created, .starting, current, rfl, nofun, ?_⟩
      rw [beginTask_of_ready (lifecycle step .created current rfl)]
      refine ⟨?_, rfl, rfl, rfl, rfl, rfl, rfl, rfl, rfl, rfl⟩
      intro other
      exact StepStateManager.setState_apply state.stateManager step other .running
  | enter step observerRaised input definition progress ctx current kept known entered =>
      have running := lifecycle step .starting current rfl
      refine .inr ⟨step, .starting, progress.phase, current, rfl, phase_begun progress, ?_⟩
      cases observerRaised with
      | true =>
          have moves : Moves step progress.phase state _ :=
            moves_of_running running ctx state.cancelRequested
          exact ⟨moves.lifecycle, rfl, rfl, rfl, rfl, rfl, rfl, rfl, rfl, rfl⟩
      | false => exact moves_of_running running ctx state.cancelRequested
  | unknown step observerRaised input current kept missing =>
      have running := lifecycle step .starting current rfl
      refine .inr ⟨step, .starting, .done (.raised "KeyError" s!"'{step}'"), current, rfl, nofun,
        ?_⟩
      cases observerRaised with
      | true =>
          have moves : Moves step (.done (.raised "KeyError" s!"'{step}'")) state _ :=
            moves_of_running running state.ctx state.cancelRequested
          exact ⟨moves.lifecycle, rfl, rfl, rfl, rfl, rfl, rfl, rfl, rfl, rfl⟩
      | false => exact moves_of_running running state.ctx state.cancelRequested
  | resume step input definition point progress ctx current kept known resumed =>
      have running := lifecycle step (.executing point) current rfl
      exact .inr ⟨step, .executing point, progress.phase, current, rfl, phase_begun progress,
        moves_of_running running ctx state.cancelRequested⟩
  | drop step current asked => exact absurd current (begun step asked)
  | swallow step current asked =>
      exact .inl ⟨rfl, rfl, rfl, rfl, rfl, rfl, rfl, rfl, rfl, rfl⟩
  | interrupt step current asked =>
      have running := lifecycle step .starting current rfl
      exact .inr ⟨step, .starting, .done .cancelled, current, rfl, nofun,
        moves_of_running running state.ctx (state.cancelRequested.erase step)⟩
  | cancel step input definition point progress ctx current asked known cancelled =>
      have running := lifecycle step (.executing point) current rfl
      exact .inr ⟨step, .executing point, progress.phase, current, rfl, phase_begun progress,
        moves_of_running running ctx (state.cancelRequested.erase step)⟩

theorem Turn.consistent (consistent : state.Consistent dag batch)
    (turn : Turn executor dag state event after)
    (begun : ∀ step, step ∈ state.cancelRequested → state.task step ≠ some .created) :
    after.Consistent dag batch := by
  rcases turn.effect consistent begun with same | ⟨step, old, phase, current, moving, fresh, moves⟩
  · exact consistent.transfer same
  · exact consistent.move current moving fresh moves

theorem Turn.results (consistent : state.Consistent dag batch)
    (turn : Turn executor dag state event after)
    (begun : ∀ step, step ∈ state.cancelRequested → state.task step ≠ some .created) :
    after.results = state.results ∧ after.tasks = state.tasks := by
  rcases turn.effect consistent begun with same | ⟨step, old, phase, current, moving, fresh, moves⟩
  · exact ⟨same.results, same.tasks⟩
  · exact ⟨moves.results, moves.tasks⟩

theorem Turn.started (consistent : state.Consistent dag batch)
    (turn : Turn executor dag state event after)
    (begun : ∀ step, step ∈ state.cancelRequested → state.task step ≠ some .created)
    {step : StepName} (started : state.task step ≠ none) : after.task step ≠ none := by
  rcases turn.effect consistent begun with same | ⟨moved, old, phase, current, moving, fresh, moves⟩
  · rw [same.task]
    exact started
  · rw [moves.task, Function.update_apply]
    split
    · exact some_ne_none phase
    · exact started

def Begun (state : RunState Point) : Prop := ∀ step, state.task step ≠ some .created

theorem Turn.begun (consistent : state.Consistent dag batch)
    (turn : Turn executor dag state event after) (begun : Begun state) : Begun after := by
  intro other
  rcases turn.effect consistent (fun step _ => begun step) with
    same | ⟨step, old, phase, current, moving, fresh, moves⟩
  · rw [same.task]
    exact begun other
  · rw [moves.task, Function.update_apply]
    split
    · intro impossible
      exact fresh (some.inj impossible)
    · exact begun other

end

/-! ### The head of the loop -/

section

variable {settings : Settings} {state : RunState Point}

theorem completed_card {dag : DAG} {batch : List StepName}
    (consistent : state.Consistent dag batch) :
    ¬ state.completed.card < dag.steps.length ↔
      ∀ step, step ∈ dag.stepNames → step ∈ state.completed := by
  have inside : state.completed ⊆ dag.stepNames.toFinset := by
    intro step done
    exact mem_toFinset.mpr (consistent.registered step (.inl done))
  have size : dag.stepNames.toFinset.card = dag.steps.length :=
    (toFinset_card_of_nodup dag.distinct).trans (length_map _)
  constructor
  · intro full step named
    have whole := Finset.eq_of_subset_of_card_le inside (by omega)
    rw [whole]
    exact mem_toFinset.mpr named
  · intro all
    have covered : dag.stepNames.toFinset ⊆ state.completed := by
      intro step named
      exact all step (mem_toFinset.mp named)
    have bound := Finset.card_le_card covered
    omega

private theorem exists_unlocked {dag : DAG} {batch : List StepName}
    (consistent : state.Consistent dag batch) (closed : dag.Closed)
    (acyclic : DependencyRule.Acyclic dag.dependsOn)
    (unfinished : ¬ ∀ step, step ∈ dag.stepNames → step ∈ state.completed) :
    ∃ step, step ∈ dag.stepNames ∧ step ∉ state.completed ∧ state.inDegree step = 0 := by
  have some_open : {step | step ∈ dag.stepNames ∧ step ∉ state.completed}.Nonempty := by
    by_contra empty
    apply unfinished
    intro step named
    by_contra waiting
    exact empty ⟨step, named, waiting⟩
  obtain ⟨step, opened, minimal⟩ := acyclic.has_min _ some_open
  refine ⟨step, opened.1, opened.2, ?_⟩
  rw [consistent.degree_zero_iff opened.2]
  intro dep edge
  by_contra waiting
  exact minimal dep ⟨closed step dep edge, waiting⟩ edge

theorem enterLoop_cases (valid : settings.dag.validate = .ok ())
    (positive : 1 ≤ settings.maxConcurrency) (consistent : state.Consistent settings.dag []) :
    (enterLoop settings state = close settings state ∧
        ∀ step, step ∈ settings.dag.stepNames → step ∈ state.completed) ∨
      ∃ newly scheduled, enterLoop settings state = { control := .waiting, state := scheduled } ∧
        Spawns newly state scheduled ∧ scheduled.Consistent settings.dag [] ∧
        scheduled.tasks ≠ ∅ ∧ state.ready = newly ++ scheduled.ready := by
  obtain ⟨_, closed, acyclic⟩ := settings.dag.validate_ok_iff.mp valid
  unfold enterLoop
  by_cases more : state.completed.card < settings.dag.steps.length
  · rw [if_pos more]
    have pending : ∀ step, step ∈ state.ready → ¬ state.Finished step ∧
        state.stateManager.getState step = .pending := by
      intro step queued
      obtain ⟨_, waiting, idle, _⟩ := (consistent.ready step).mp queued
      refine ⟨?_, ?_⟩
      · rintro (done | skipped)
        · exact waiting done
        · exact waiting (consistent.skipped step skipped)
      · rw [consistent.lifecycle step waiting, idle]
        rfl
    obtain ⟨newly, scheduled, taken, spawns, queued, full⟩ :=
      scheduleReadySteps_spawns settings.maxConcurrency state consistent.readyDistinct pending
    have after := consistent.spawn spawns queued
    have busy : scheduled.tasks ≠ ∅ := by
      intro idle
      have nothing : scheduled.running = ∅ := by
        apply Finset.eq_empty_of_forall_notMem
        intro step member
        have inTasks := (after.tasks step).mpr ⟨member, not_mem_nil⟩
        rw [idle] at inTasks
        exact Finset.notMem_empty step inTasks
      have drained : scheduled.ready = [] := by
        rcases full with drained | limit
        · exact drained
        · rw [nothing, Finset.card_empty] at limit
          omega
      have completed : scheduled.completed = state.completed := by rw [spawns.frame]
      have unfinished : ¬ ∀ step, step ∈ settings.dag.stepNames → step ∈ scheduled.completed := by
        rw [completed, ← (completed_card consistent), not_not]
        exact more
      obtain ⟨step, named, waiting, zero⟩ := exists_unlocked after closed acyclic unfinished
      by_cases started : scheduled.task step = none
      · have inReady := (after.ready step).mpr ⟨named, waiting, started, zero⟩
        rw [drained] at inReady
        cases inReady
      · have inRunning := (after.running step).mpr ⟨started, waiting⟩
        rw [nothing] at inRunning
        exact Finset.notMem_empty step inRunning
    refine .inr ⟨newly, scheduled, ?_, spawns, after, busy, queued⟩
    simp only [taken, if_neg busy]
  · rw [if_neg more]
    exact .inl ⟨rfl, (completed_card consistent).mp more⟩

theorem processBatch_cons {step : StepName} {rest : List StepName}
    (consistent : state.Consistent settings.dag (step :: rest)) :
    ∃ outcome recorded reason newly, state.task step = some (.done outcome) ∧
      Settlement settings.dag step (outcome.settle step) reason newly state recorded ∧
      recorded.Consistent settings.dag rest ∧
      recorded.results step = some (outcome.settle step) ∧
      processBatch settings state (step :: rest) =
        if marksContext outcome then
          { control := .marking step (outcome.settle step) rest
            state := recorded.markContextFailed step }
        else emitStepEnd recorded step (outcome.settle step) rest := by
  obtain ⟨outcome, current⟩ := consistent.head_task
  obtain ⟨recorded, reason, newly, taken, settlement⟩ := consistent.record_head outcome
  have settledAs : outcome.settle step = (result (state.task step)).settle step := by
    rw [current]
    rfl
  have found : recorded.results step = some (outcome.settle step) := by
    have notNew : step ∉ newly := fun skips => (settlement.fresh step skips).2 rfl
    rw [settlement.results, if_neg notNew, if_pos rfl]
  have result : result (state.task step) = outcome := by
    rw [current]
    rfl
  refine ⟨outcome, recorded, reason, newly, current, settlement,
    consistent.settle settledAs settlement, found, ?_⟩
  simp only [processBatch, result, taken]

end

/-! ### The invariant of a run -/

structure SameOutcome (before after : RunState Point) : Prop where
  ctx : after.ctx = before.ctx
  steps : after.result.steps = before.result.steps
  overall : after.result.overallStatus = before.result.overallStatus
  results : after.results = before.results
  tasks : after.tasks = before.tasks
  task : after.task = before.task
  cancelRequested : after.cancelRequested = before.cancelRequested
  updates : after.updates = before.updates

theorem SameOutcome.refl (state : RunState Point) : SameOutcome state state :=
  ⟨rfl, rfl, rfl, rfl, rfl, rfl, rfl, rfl⟩

theorem noteObserver_outcome (observerRaised : Bool) (state : RunState Point) :
    SameOutcome state (state.noteObserver observerRaised) := by
  unfold noteObserver
  split
  · exact ⟨rfl, rfl, rfl, rfl, rfl, rfl, rfl, rfl⟩
  · exact SameOutcome.refl state

theorem SameOutcome.trans {first second third : RunState Point}
    (toSecond : SameOutcome first second) (toThird : SameOutcome second third) :
    SameOutcome first third :=
  ⟨toThird.ctx.trans toSecond.ctx, toThird.steps.trans toSecond.steps,
    toThird.overall.trans toSecond.overall, toThird.results.trans toSecond.results,
    toThird.tasks.trans toSecond.tasks, toThird.task.trans toSecond.task,
    toThird.cancelRequested.trans toSecond.cancelRequested,
    toThird.updates.trans toSecond.updates⟩

/-- How a run got to its end: every step was settled by the loop, or a timeout
was recovered from. -/
inductive Ended (settings : Settings) (state : RunState Point) : Prop
  | completed (before : RunState Point) (consistent : before.Consistent settings.dag [])
      (complete : ∀ step, step ∈ settings.dag.stepNames → step ∈ before.completed)
      (uncancelled : before.cancelRequested = ∅)
      (assembled : SameOutcome (before.assemble settings.dag) state)
  | timedOut (before recovered : RunState Point) (batch running remaining : List StepName)
      (limited : settings.timeout.isSome)
      (consistent : before.Consistent settings.dag batch) (begun : Begun before)
      (drained : before.AllDone)
      (handled : before.handleTimeout settings running remaining = some recovered)
      (assembled : SameOutcome (recovered.assemble settings.dag) state)

inductive Invariant (settings : Settings) : Run Point → Prop
  | opening (state : RunState Point) (consistent : state.Consistent settings.dag [])
      (idle : ∀ step, state.task step = none) (uncancelled : state.cancelRequested = ∅) :
      Invariant settings { control := .opening, state := state }
  | waiting (state : RunState Point) (consistent : state.Consistent settings.dag [])
      (busy : state.tasks ≠ ∅) (uncancelled : state.cancelRequested = ∅) :
      Invariant settings { control := .waiting, state := state }
  | marking (step : StepName) (result : StepResult) (rest : List StepName)
      (state : RunState Point) (consistent : state.Consistent settings.dag rest)
      (begun : Begun state) (uncancelled : state.cancelRequested = ∅)
      (recorded : state.results step = some result) (started : state.task step ≠ none) :
      Invariant settings { control := .marking step result rest, state := state }
  | notifying (step : StepName) (result : StepResult) (rest : List StepName)
      (state : RunState Point) (consistent : state.Consistent settings.dag rest)
      (begun : Begun state) (uncancelled : state.cancelRequested = ∅)
      (recorded : state.results step = some result) :
      Invariant settings { control := .notifying step result rest, state := state }
  | cancelling (batch : List StepName) (state : RunState Point)
      (limited : settings.timeout.isSome)
      (consistent : state.Consistent settings.dag batch) (begun : Begun state) :
      Invariant settings { control := .cancelling, state := state }
  | closing (state : RunState Point) (ended : Ended settings state) :
      Invariant settings { control := .closing, state := state }
  | returned (state : RunState Point) (ended : Ended settings state) :
      Invariant settings { control := .returned, state := state }

section

variable {dag : DAG} {state : RunState Point}

theorem assemble_steps
    (complete : ∀ step, step ∈ dag.stepNames → state.results step ≠ none) :
    ∃ recorded, (state.assemble dag).result.steps = dag.stepNames.map recorded ∧
      ∀ step, step ∈ dag.stepNames → state.results step = some (recorded step) := by
  have known : ∀ step, step ∈ dag.stepNames →
      state.results step = some ((state.results step).getD (skipResult step "")) := by
    intro step named
    obtain ⟨result, found⟩ := ne_none_iff_exists'.mp (complete step named)
    rw [found]
    rfl
  refine ⟨fun step => (state.results step).getD (skipResult step ""), ?_, known⟩
  change dag.stepNames.filterMap state.results = _
  rw [filterMap_congr known]
  exact congrFun filterMap_eq_map' dag.stepNames

theorem assemble_overall : (state.assemble dag).result.overallStatus =
    if state.result.overallStatus = .running ∨ state.result.overallStatus = .success then .success
    else .failed := by
  cases overall : state.result.overallStatus <;>
    simp [assemble, notify, WorkflowResult.markComplete, overall]

end

section

variable {settings : Settings} {state : RunState Point}

theorem Ended.observed (ended : Ended settings state) (observerRaised : Bool) :
    Ended settings (state.noteObserver observerRaised) := by
  have same := noteObserver_outcome observerRaised state
  cases ended with
  | completed before consistent complete uncancelled assembled =>
      exact .completed before consistent complete uncancelled (assembled.trans same)
  | timedOut before recovered batch running remaining limited consistent begun drained handled
      assembled =>
      exact .timedOut before recovered batch running remaining limited consistent begun drained
        handled (assembled.trans same)

theorem Ended.quiet (ended : Ended settings state) (step : StepName) (phase : TaskPhase Point)
    (current : state.task step = some phase) : isDone (some phase) = true := by
  cases ended with
  | completed before consistent complete uncancelled assembled =>
      rw [assembled.task] at current
      change before.task step = some phase at current
      have started : before.task step ≠ none := by
        rw [current]
        exact some_ne_none phase
      have named := consistent.registered step (.inr started)
      have done := (consistent.executed step (complete step named) started).1
      rw [current] at done
      exact done
  | timedOut before recovered batch running remaining limited consistent begun drained handled
      assembled =>
      have recovery := handleTimeout_recovered consistent handled
      rw [assembled.task] at current
      change recovered.task step = some phase at current
      rw [recovery.task] at current
      have started : before.task step ≠ none := by
        rw [current]
        exact some_ne_none phase
      rw [← current]
      by_cases done : step ∈ before.completed
      · exact (consistent.executed step done started).1
      · have runs := (consistent.running step).mpr ⟨started, done⟩
        by_cases waits : step ∈ batch
        · exact (consistent.batchDone step waits).2
        · exact drained step ((consistent.tasks step).mpr ⟨runs, waits⟩)

theorem Ended.results (ended : Ended settings state) :
    (∃ recorded, state.result.steps = settings.dag.stepNames.map recorded ∧
      ∀ step, step ∈ settings.dag.stepNames → state.results step = some (recorded step)) ∧
    ∀ step, state.results step ≠ none → step ∈ settings.dag.stepNames := by
  cases ended with
  | completed before consistent complete uncancelled assembled =>
      rw [assembled.results, assembled.steps]
      refine ⟨assemble_steps fun step named => (consistent.recorded step).mp (complete step named),
        ?_⟩
      intro step recorded
      exact consistent.registered step (.inl ((consistent.recorded step).mpr recorded))
  | timedOut before recovered batch running remaining limited consistent begun drained handled
      assembled =>
      have recovery := handleTimeout_recovered consistent handled
      rw [assembled.results, assembled.steps]
      refine ⟨assemble_steps ?_, ?_⟩
      · intro step named
        rw [recovery.results]
        split
        · rename_i done
          exact (consistent.recorded step).mp done
        · split
          · exact some_ne_none _
          · exact some_ne_none _
      · intro step recorded
        change recovered.results step ≠ none at recorded
        rw [recovery.results] at recorded
        split at recorded
        · rename_i done
          exact consistent.registered step (.inl done)
        · split at recorded
          · rename_i runs
            exact consistent.registered step (.inr ((consistent.running step).mp runs).1)
          · split at recorded
            · assumption
            · exact absurd rfl recorded

theorem Ended.no_turn {executor : Executor Point Input} {event : Event Input}
    {after : RunState Point} (ended : Ended settings state)
    (turn : Turn executor settings.dag state event after) : False := by
  obtain ⟨step, phase, current, moving⟩ := turn.current
  rw [ended.quiet step phase current] at moving
  cases moving

end

section

variable {executor : Executor Point Input} {settings : Settings}

theorem start_consistent (ctx : Context) (workflowId : String) :
    (start settings ctx workflowId : Run Point).state.Consistent settings.dag [] := by
  have ready : ∀ step, step ∈ settings.dag.stepNames.filter
      (fun name => (settings.dag.dependsOn name).length = 0) ↔
      step ∈ settings.dag.stepNames ∧ settings.dag.dependsOn step = [] := by
    intro step
    simp
  constructor
  case recorded => intro step; simp [start]
  case skipped => intro step member; exact member
  case registered => intro step; simp [start]
  case degree =>
    intro step _
    simp [start, openDependencies]
  case unblocked =>
    rintro step _ dep _ ⟨result, found, _⟩
    cases found
  case readyDistinct => exact settings.dag.distinct.filter _
  case ready =>
    intro step
    simp only [start, ready]
    simp
  case running => intro step; simp [start]
  case tasks => intro step; simp [start]
  case batchDone => intro step member; cases member
  case batchDistinct => exact nodup_nil
  case supported =>
    intro step started
    exact absurd rfl started
  case lifecycle => intro step _; rfl
  case executed =>
    intro step done
    exact absurd done (Finset.notMem_empty step)
  case cascaded =>
    intro step done
    exact absurd done (Finset.notMem_empty step)
  case overall =>
    refine .inl ⟨rfl, ?_⟩
    intro step result found
    cases found

theorem start_invariant (ctx : Context) (workflowId : String) :
    Invariant settings (start settings ctx workflowId : Run Point) :=
  .opening _ (start_consistent ctx workflowId) (fun _ => rfl) rfl

variable {state : RunState Point}

private theorem enterLoop_invariant (valid : settings.dag.validate = .ok ())
    (positive : 1 ≤ settings.maxConcurrency) (consistent : state.Consistent settings.dag [])
    (uncancelled : state.cancelRequested = ∅) :
    Invariant settings (enterLoop settings state) := by
  rcases enterLoop_cases valid positive consistent with
    ⟨closes, complete⟩ | ⟨newly, scheduled, waits, spawns, after, busy, _⟩
  · rw [closes]
    exact .closing _ (.completed state consistent complete uncancelled (SameOutcome.refl _))
  · rw [waits]
    refine .waiting scheduled after busy ?_
    rw [spawns.frame]
    exact uncancelled

private theorem processBatch_invariant (valid : settings.dag.validate = .ok ())
    (positive : 1 ≤ settings.maxConcurrency) {batch : List StepName}
    (consistent : state.Consistent settings.dag batch) (begun : Begun state)
    (uncancelled : state.cancelRequested = ∅) :
    Invariant settings (processBatch settings state batch) := by
  cases batch with
  | nil => exact enterLoop_invariant valid positive consistent uncancelled
  | cons step rest =>
      obtain ⟨outcome, recorded, reason, newly, current, settlement, after, found, taken⟩ :=
        processBatch_cons consistent
      have stillBegun : Begun recorded := by
        intro other
        rw [settlement.task]
        exact begun other
      have stillUncancelled : recorded.cancelRequested = ∅ := by
        rw [settlement.cancelRequested]
        exact uncancelled
      have hasTask : recorded.task step ≠ none := by
        rw [settlement.task, current]
        exact some_ne_none _
      rw [taken]
      split
      · exact .marking step _ rest _ (after.transfer (markContextFailed_same step recorded))
          stillBegun stillUncancelled found hasTask
      · exact .notifying step _ rest _ (after.transfer (notify_same recorded _)) stillBegun
          stillUncancelled found

private theorem begun_of_allBegun {batch : List StepName}
    (consistent : state.Consistent settings.dag batch) (begun : state.AllBegun) :
    Begun state := by
  intro step created
  have started : state.task step ≠ none := by
    rw [created]
    exact some_ne_none _
  have waiting := consistent.not_completed_of_not_done created rfl
  have runs := (consistent.running step).mpr ⟨started, waiting⟩
  have inTasks : step ∈ state.tasks := by
    refine (consistent.tasks step).mpr ⟨runs, ?_⟩
    intro waits
    have done := (consistent.batchDone step waits).2
    rw [created] at done
    cases done
  apply begun step inTasks
  rw [created]
  rfl

private theorem move_invariant (valid : settings.dag.validate = .ok ())
    (positive : 1 ≤ settings.maxConcurrency) {run after : Run Point} {event : Event Input}
    (invariant : Invariant settings run) (move : Move settings run event after) :
    Invariant settings after := by
  cases move with
  | opened observerRaised control =>
      cases invariant with
      | opening state consistent idle uncancelled =>
          refine enterLoop_invariant valid positive
            (consistent.transfer (noteObserver_same observerRaised state)) ?_
          rw [(noteObserver_outcome _ _).cancelRequested]
          exact uncancelled
      | _ => cases control
  | marked observerRaised step result rest control =>
      cases invariant with
      | marking _ _ _ state consistent begun uncancelled recorded started =>
          cases control
          exact .notifying step result rest _ (consistent.transfer (notify_same state _)) begun
            uncancelled recorded
      | _ => cases control
  | notified observerRaised step result rest control =>
      cases invariant with
      | notifying _ _ _ state consistent begun uncancelled recorded =>
          cases control
          refine processBatch_invariant valid positive
            (consistent.transfer (noteObserver_same observerRaised state)) ?_ ?_
          · intro other
            rw [(noteObserver_outcome _ _).task]
            exact begun other
          · rw [(noteObserver_outcome _ _).cancelRequested]
            exact uncancelled
      | _ => cases control
  | returned observerRaised control =>
      cases invariant with
      | closing state ended =>
          exact .returned _ (ended.observed observerRaised)
      | _ => cases control
  | wake done control allBegun batch =>
      cases invariant with
      | waiting state consistent busy uncancelled =>
          have begun : Begun state := begun_of_allBegun consistent allBegun
          exact processBatch_invariant valid positive (consistent.wake batch) begun uncancelled
      | _ => cases control
  | timeout limited allBegun suspended =>
      cases invariant with
      | waiting state consistent busy uncancelled =>
          have begun : Begun state := begun_of_allBegun consistent allBegun
          exact .cancelling [] _ limited (consistent.transfer ⟨rfl, rfl, rfl, rfl, rfl, rfl, rfl, rfl, rfl,
            rfl⟩) begun
      | marking _ _ rest state consistent begun uncancelled recorded started
      | notifying _ _ rest state consistent begun uncancelled recorded =>
          exact .cancelling rest _ limited (consistent.transfer ⟨rfl, rfl, rfl, rfl, rfl, rfl, rfl, rfl,
            rfl, rfl⟩) begun
      | _ => simp at suspended
  | recover running remaining recovered control drained handled =>
      cases invariant with
      | cancelling batch state limited consistent begun =>
          exact .closing _ (.timedOut state recovered batch running remaining limited consistent
            begun drained handled (SameOutcome.refl _))
      | _ => cases control
  | abandon error control drained =>
      cases invariant with
      | _ => cases control

private theorem turn_invariant {run : Run Point} {event : Event Input}
    (invariant : Invariant settings run) (turn : Turn executor settings.dag run.state event state) :
    Invariant settings { run with state := state } := by
  cases invariant with
  | opening before consistent idle uncancelled =>
      obtain ⟨step, phase, current, _⟩ := turn.current
      change before.task step = some phase at current
      rw [idle step] at current
      cases current
  | waiting before consistent busy uncancelled =>
      have quiet : ∀ step, step ∈ before.cancelRequested → before.task step ≠ some .created := by
        intro step asked
        rw [uncancelled] at asked
        exact absurd asked (Finset.notMem_empty step)
      refine .waiting state (turn.consistent consistent quiet) ?_ ?_
      · rw [(turn.results consistent quiet).2]
        exact busy
      · exact Finset.subset_empty.mp (uncancelled ▸ turn.cancelRequested)
  | marking step result rest before consistent begun uncancelled recorded started =>
      refine .marking step result rest state
        (turn.consistent consistent (fun other _ => begun other)) (turn.begun consistent begun) ?_ ?_
        (turn.started consistent (fun other _ => begun other) started)
      · exact Finset.subset_empty.mp (uncancelled ▸ turn.cancelRequested)
      · rw [(turn.results consistent (fun other _ => begun other)).1]
        exact recorded
  | notifying step result rest before consistent begun uncancelled recorded =>
      refine .notifying step result rest state
        (turn.consistent consistent (fun other _ => begun other)) (turn.begun consistent begun) ?_ ?_
      · exact Finset.subset_empty.mp (uncancelled ▸ turn.cancelRequested)
      · rw [(turn.results consistent (fun other _ => begun other)).1]
        exact recorded
  | cancelling batch before limited consistent begun =>
      exact .cancelling batch state limited (turn.consistent consistent (fun other _ => begun other))
        (turn.begun consistent begun)
  | closing before ended | returned before ended => exact (ended.no_turn turn).elim

/-- Where a step task can move, the bookkeeping holds for what is left of some batch. -/
theorem Invariant.turning {run : Run Point} {event : Event Input}
    (invariant : Invariant settings run) (turn : Turn executor settings.dag run.state event state) :
    ∃ batch, run.state.Consistent settings.dag batch ∧
      ∀ step, step ∈ run.state.cancelRequested → run.state.task step ≠ some .created := by
  cases invariant with
  | opening before consistent idle uncancelled | waiting before consistent busy uncancelled =>
      refine ⟨[], consistent, ?_⟩
      intro step asked
      exact absurd (uncancelled ▸ asked) (Finset.notMem_empty step)
  | marking step result rest before consistent begun uncancelled recorded started
  | notifying step result rest before consistent begun uncancelled recorded =>
      exact ⟨rest, consistent, fun other _ => begun other⟩
  | cancelling batch before limited consistent begun =>
      exact ⟨batch, consistent, fun other _ => begun other⟩
  | closing before ended | returned before ended => exact (ended.no_turn turn).elim

theorem next_invariant (valid : settings.dag.validate = .ok ())
    (positive : 1 ≤ settings.maxConcurrency) (run : Run Point) (event : Event Input)
    (after : Run Point) (invariant : Invariant settings run)
    (taken : next executor settings run event = some after) : Invariant settings after := by
  rcases next_cases taken with move | ⟨state, turn, same⟩
  · exact move_invariant valid positive invariant move
  · exact same ▸ turn_invariant invariant turn

end

def planThenCode : Settings :=
  { dag :=
      { name := "plan then code"
        steps := [{ name := "plan" }, { name := "code", dependsOn := ["plan"] }]
        distinct := by decide }
    maxConcurrency := 1 }

end DAGExecutor

end AgenticRuntime
