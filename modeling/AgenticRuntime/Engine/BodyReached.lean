/-
A step without dependencies comes to its body when its conditions hold and its inputs
ask for nothing: the moves of a run from its start to the body of such a step.
-/

import AgenticRuntime.Engine.StepGate
import AgenticRuntime.Engine.DagExecutor

namespace AgenticRuntime

open StepExecutor List Transition

structure StepExecutor.Input.Permits (input : Input) : Prop where
  returned : input.signal = .returned
  conditions : ownConditions input = .value true
  nothing : input.inputs = .value 0

structure Run.At (run : Run Point) (step : StepName)
    (phase : TaskPhase Point) : Prop where
  task : run.state.task step = some phase
  uncancelled : run.state.cancelRequested = ∅

def Run.InBody (run : Run Point) (step : StepName) : Prop :=
  ∃ frame, run.state.task step = some (.executing (.attempting .body frame))

theorem Run.At.kept {run : Run Point} {step : StepName}
    {phase : TaskPhase Point} (here : run.At step phase) :
    step ∉ run.state.cancelRequested := by
  rw [here.uncancelled]
  exact Finset.notMem_empty step

namespace DAGExecutor

section

variable {settings : Settings} {step : StepName} {definition : StepDefinition}

theorem begins_created {run : Run Point} (settings : Settings)
    (here : run.At step .created) (ready : run.state.stateManager.getState step = .ready) :
    ∃ after, next executor settings run (.begin step) = some after ∧
      after.At step .starting := by
  have moved : begins run.state step = some (run.state.beginTask step) := by
    simp only [begins, here.task, if_neg here.kept]
  have begun : (run.state.beginTask step).task step = some .starting ∧
      (run.state.beginTask step).cancelRequested = ∅ := by
    rw [RunState.beginTask_of_ready ready]
    exact ⟨Function.update_self .., here.uncancelled⟩
  refine ⟨{ run with state := run.state.beginTask step }, ?_, begun.1, begun.2⟩
  change (begins run.state step).map _ = _
  rw [moved]
  rfl

variable {input : Input}

theorem enters_starting {run : Run Point} (here : run.At step .starting)
    (known : settings.dag.lookup step = some definition) (root : definition.dependsOn = [])
    (func : definition.func = true) (permits : input.Permits) :
    ∃ after frame, next executor settings run (.observed step false input) =
        some after ∧
      after.At step (.executing (.markingStart frame)) ∧ frame.attempt = 0 := by
  let frame : Frame := { result := { stepName := definition.name, status := .running } }
  let marked : Context := run.state.ctx.markStepStart definition.name
  let entered : RunState Point :=
    ({ run.state with ctx := marked } : RunState Point).setTask step
      (.executing (.markingStart frame))
  have holds : shouldRun definition run.state.ctx input = .value true := by
    rw [shouldRun_of_dependencies input (by rw [root]; exact nofun)]
    exact permits.conditions
  have enters : StepExecutor.enter definition run.state.ctx input =
      awaiting (.markingStart frame) marked := by
    simp only [StepExecutor.enter, holds, func, Bool.true_eq_false, if_false, frame, marked]
  have moved : observes executor settings.dag run.state step false input =
      some entered := by
    simp only [observes, here.task, if_neg here.kept, RunState.observedTask, known,
      RunState.noteObserver, executor, enters, awaiting, RunState.progressTask,
      Progress.phase, Bool.false_eq_true, if_false, entered]
  refine ⟨{ run with state := entered }, frame, ?_, ⟨Function.update_self .., here.uncancelled⟩,
    rfl⟩
  change (observes executor settings.dag run.state step false input).map _ = _
  rw [moved]
  rfl

theorem advances_executing {run : Run Point} {point : Point}
    (here : run.At step (.executing point)) (known : settings.dag.lookup step = some definition)
    (progress : Progress Point) (ctx : Context)
    (turn : resume definition point run.state.ctx input = some (progress, ctx)) :
    ∃ after, next executor settings run (.advance step input) = some after ∧
      after.At step progress.phase := by
  let advanced : RunState Point :=
    ({ run.state with ctx := ctx } : RunState Point).setTask step progress.phase
  have moved : advances executor settings.dag run.state step input =
      some advanced := by
    simp only [advances, here.task, if_neg here.kept, RunState.advanceTask, known,
      executor]
    rw [turn]
    rfl
  refine ⟨{ run with state := advanced }, ?_, Function.update_self .., here.uncancelled⟩
  change (advances executor settings.dag run.state step input).map _ = _
  rw [moved]
  rfl

private theorem prepareInputs_body (ctx : Context) {frame : Frame} (first : frame.attempt = 0)
    (tries : 0 ≤ definition.maxRetries) (nothing : input.inputs = .value 0) :
    ∃ started, StepExecutor.prepareInputs definition false frame ctx input =
      (.awaiting (.attempting .body started), ctx) := by
  have within : ((0 : Nat) : Int) ≤ definition.maxRetries := tries
  refine ⟨{ frame with attempt := 1 }, ?_⟩
  simp only [StepExecutor.prepareInputs, nothing, prepared, startAttempt, first, Bool.false_eq_true,
    if_false]
  rw [if_pos within]
  rfl

theorem advances_markingStart {run : Run Point} {frame : Frame}
    (here : run.At step (.executing (.markingStart frame)))
    (known : settings.dag.lookup step = some definition) (first : frame.attempt = 0)
    (tries : 0 ≤ definition.maxRetries) (permits : input.Permits) :
    ∃ after, next executor settings run (.advance step input) = some after ∧
      (after.InBody step ∨
        ∃ left, after.At step (.executing (.preHook left frame))) := by
  cases hooks : definition.preHooks with
  | zero =>
      obtain ⟨started, prepared⟩ := prepareInputs_body run.state.ctx first tries permits.nothing
      obtain ⟨after, taken, there⟩ := advances_executing here known
        (.awaiting (.attempting .body started)) run.state.ctx (by
          rw [resume, permits.returned]
          simp only [resumeReturned, runPreHooks, hooks]
          exact congrArg some prepared)
      exact ⟨after, taken, .inl ⟨started, there.task⟩⟩
  | succ left =>
      obtain ⟨after, taken, there⟩ := advances_executing here known
        (.awaiting (.preHook left frame)) run.state.ctx (by
          rw [resume, permits.returned]
          simp only [resumeReturned, runPreHooks, hooks, awaiting])
      exact ⟨after, taken, .inr ⟨left, there⟩⟩

theorem advances_preHook {run : Run Point} {left : Nat} {frame : Frame}
    (here : run.At step (.executing (.preHook left frame)))
    (known : settings.dag.lookup step = some definition) (first : frame.attempt = 0)
    (tries : 0 ≤ definition.maxRetries) (permits : input.Permits) :
    ∃ after, next executor settings run (.advance step input) = some after ∧
      (after.InBody step ∨
        ∃ fewer, fewer < left ∧ after.At step (.executing (.preHook fewer frame))) := by
  cases left with
  | zero =>
      obtain ⟨started, prepared⟩ := prepareInputs_body run.state.ctx first tries permits.nothing
      obtain ⟨after, taken, there⟩ := advances_executing here known
        (.awaiting (.attempting .body started)) run.state.ctx (by
          rw [resume, permits.returned]
          exact congrArg some prepared)
      exact ⟨after, taken, .inl ⟨started, there.task⟩⟩
  | succ left =>
      obtain ⟨after, taken, there⟩ := advances_executing here known
        (.awaiting (.preHook left frame)) run.state.ctx (by
          rw [resume, permits.returned]
          rfl)
      exact ⟨after, taken, .inr ⟨left, Nat.lt_succ_self left, there⟩⟩

theorem resumes_root (ctx : Context) (workflowId : String)
    (queued : step ∈ (settings.dag.stepNames.filter
      fun name => (settings.dag.dependsOn name).length = 0).take settings.maxConcurrency.toNat) :
    ∃ after, next executor settings (start settings ctx workflowId)
        (.resume false) = some after ∧ after.At step .created ∧
      after.state.stateManager.getState step = .ready := by
  let first : RunState Point := (start settings ctx workflowId).state
  obtain ⟨newly, scheduled, taken, spawns, split, full⟩ :=
    first.scheduleReadySteps_spawns settings.maxConcurrency
      (settings.dag.distinct.filter _) (fun _ _ => ⟨by simp [RunState.Finished, first, start], rfl⟩)
  have named : step ∈ settings.dag.stepNames := (mem_filter.mp (mem_of_mem_take queued)).1
  have spawned : step ∈ newly := by
    have inReady : step ∈ first.ready.take settings.maxConcurrency.toNat := queued
    rw [split] at inReady
    rcases full with drained | limit
    · rw [drained, append_nil] at inReady
      exact mem_of_mem_take inReady
    · have within : scheduled.running ⊆ newly.toFinset := by
        intro other member
        rcases (spawns.running other).mp member with old | new
        · exact absurd old (Finset.notMem_empty other)
        · exact mem_toFinset.mpr new
      have bound := (Finset.card_le_card within).trans newly.toFinset_card_le
      have fits : settings.maxConcurrency.toNat ≤ newly.length := by omega
      rw [take_append_of_le_length fits] at inReady
      exact mem_of_mem_take inReady
  have waits : enterLoop settings first = { control := .waiting, state := scheduled } := by
    have more : first.completed.card < settings.dag.steps.length := by
      have positive := length_pos_of_mem named
      rw [DAG.stepNames, length_map] at positive
      exact positive
    have busy : scheduled.tasks ≠ ∅ :=
      Finset.ne_empty_of_mem ((spawns.tasks step).mpr (.inr spawned))
    simp only [enterLoop, if_pos more, taken, if_neg busy]
  refine ⟨{ control := .waiting, state := scheduled }, ?_, ⟨?_, ?_⟩, ?_⟩
  · change some (enterLoop settings first) = _
    rw [waits]
  · exact (spawns.task step).trans (if_pos spawned)
  · change scheduled.cancelRequested = ∅
    rw [spawns.frame]
    rfl
  · exact (spawns.lifecycle step).trans (if_pos spawned)

/-! ### In any system that carries a run along -/

def IsHook : Point → Prop
  | .markingStart _ | .preHook _ _ => True
  | _ => False

/-- Each move of the run towards the body of the step is a move of the system. -/
structure Carries {State : Type} (settings : Settings) (step : StepName)
    (move : State → Event Input → Option State)
    (run : State → Run Point) : Prop where
  moves : ∀ state event, event = .resume false ∨ event = .begin step → ∀ after,
    next executor settings (run state) event = some after →
      ∃ later, move state event = some later ∧ run later = after
  enters : ∀ state, ∃ input : Input, input.Permits ∧ ∀ after,
    next executor settings (run state) (.observed step false input) = some after →
      ∃ later, move state (.observed step false {}) = some later ∧ run later = after
  hooks : ∀ state point, IsHook point → (run state).At step (.executing point) →
    ∃ input : Input, input.Permits ∧ ∀ after,
      next executor settings (run state) (.advance step input) = some after →
        ∃ later, move state (.advance step {}) = some later ∧ run later = after

variable {State : Type} {move : State → Event Input → Option State}
  {run : State → Run Point}

theorem Carries.of_preHook (carries : Carries settings step move run)
    (known : settings.dag.lookup step = some definition) (tries : 0 ≤ definition.maxRetries)
    {frame : Frame} (first : frame.attempt = 0) (left : Nat) {state : State}
    (here : (run state).At step (.executing (.preHook left frame))) :
    ∃ events after, replay move state events = some after ∧
      (run after).InBody step := by
  induction left using Nat.strongRecOn generalizing state with
  | ind left ih =>
      obtain ⟨input, permits, carried⟩ := carries.hooks state (.preHook left frame) trivial here
      obtain ⟨reached, taken, outcome⟩ := advances_preHook here known first tries permits
      obtain ⟨later, moved, same⟩ := carried reached taken
      subst same
      rcases outcome with body | ⟨fewer, less, there⟩
      · exact ⟨[.advance step {}], later, replay_single moved, body⟩
      · obtain ⟨events, after, replayed, body⟩ := ih fewer less there
        exact ⟨.advance step {} :: events, after, (replay_cons_of_next moved).trans replayed, body⟩

theorem Carries.reaches_body (carries : Carries settings step move run)
    (known : settings.dag.lookup step = some definition) (root : definition.dependsOn = [])
    (func : definition.func = true) (tries : 0 ≤ definition.maxRetries)
    (queued : step ∈ (settings.dag.stepNames.filter
      fun name => (settings.dag.dependsOn name).length = 0).take settings.maxConcurrency.toNat)
    (state : State) (ctx : Context) (workflowId : String)
    (starts : run state = start settings ctx workflowId) :
    ∃ events after, replay move state events = some after ∧
      (run after).InBody step := by
  obtain ⟨spawned, resumed, created, ready⟩ := resumes_root ctx workflowId queued
  rw [← starts] at resumed
  obtain ⟨second, moved, same⟩ := carries.moves state _ (.inl rfl) spawned resumed
  subst same
  obtain ⟨begun, started, starting⟩ := begins_created settings created ready
  obtain ⟨third, movedOn, same⟩ := carries.moves second _ (.inr rfl) begun started
  subst same
  obtain ⟨input, permits, entering⟩ := carries.enters third
  obtain ⟨entered, frame, observed, marking, first⟩ :=
    enters_starting starting known root func permits
  obtain ⟨fourth, movedIn, same⟩ := entering entered observed
  subst same
  obtain ⟨hookInput, hookPermits, hooking⟩ := carries.hooks fourth (.markingStart frame) trivial marking
  obtain ⟨hooked, advanced, outcome⟩ := advances_markingStart marking known first tries hookPermits
  obtain ⟨fifth, movedUp, same⟩ := hooking hooked advanced
  subst same
  have front : ∀ events after, replay move fifth events = some after →
      replay move state (.resume false :: .begin step :: .observed step false {} ::
        .advance step {} :: events) = some after := by
    intro events after replayed
    rw [replay_cons_of_next moved, replay_cons_of_next movedOn, replay_cons_of_next movedIn,
      replay_cons_of_next movedUp]
    exact replayed
  rcases outcome with body | ⟨left, there⟩
  · exact ⟨_, fifth, front [] fifth rfl, body⟩
  · obtain ⟨events, after, replayed, body⟩ := carries.of_preHook known tries first left there
    exact ⟨_, after, front events after replayed, body⟩

end

end DAGExecutor

end AgenticRuntime
