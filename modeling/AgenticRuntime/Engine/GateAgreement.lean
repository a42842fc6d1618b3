/-
The scheduler's dependency gate against the executor's.

The scheduler counts unfinished dependencies, the executor looks at the lists of the
context. Every settled step that did not fail is marked complete and not failed, and a
step is started only when all its dependencies are settled so; hence the executor's
gate is open whenever the scheduler's is.
-/

import AgenticRuntime.Engine.RunChange
import AgenticRuntime.Engine.StepGate

namespace AgenticRuntime

open StepExecutor Function

def FitsTask (step : StepName) (ctx : Context) : Option (TaskPhase Point) → Prop
  | some (.executing point) => FitsPoint step ctx point
  | some (.done outcome) => FitsOutcome step ctx outcome
  | _ => ctx.Shows step .unmarked

theorem FitsTask.same {step : StepName} {before after : Context}
    {phase : Option (TaskPhase Point)} (fits : FitsTask step before phase)
    (same : SameMarks step before after) : FitsTask step after phase := by
  have unmarked : before.Shows step .unmarked → after.Shows step .unmarked := same.shows
  cases phase with
  | none => exact unmarked fits
  | some phase =>
      cases phase with
      | created | starting => exact unmarked fits
      | executing point =>
          refine ⟨fits.1, ?_⟩
          rcases fits.2 with ⟨shown, expected, shows⟩ | doomed
          · exact .inl ⟨shown, expected, same.shows shows⟩
          · exact .inr doomed
      | done outcome =>
          cases outcome with
          | raised errorType message => trivial
          | returned result =>
              exact ⟨fun success => same.shows (fits.1 success),
                fun skipped => same.shows (fits.2 skipped)⟩

theorem FitsTask.phase {step : StepName} {turn : StepExecutor.Turn}
    (fits : StepExecutor.Fits step turn) : FitsTask step turn.2 (some turn.1.phase) := by
  obtain ⟨progress, ctx⟩ := turn
  cases progress with
  | awaiting point => exact fits
  | finished outcome => exact fits

namespace RunState

def GateFits (dag : DAG) (state : RunState Point) : Prop :=
  ∀ step, step ∈ dag.stepNames →
    (∀ result, state.results step = some result → result.status ≠ .failed →
      state.ctx.Shows step .completed) ∧
    (state.results step = none → FitsTask step state.ctx (state.task step))

variable {dag : DAG} {state after : RunState Point}

theorem GateFits.view (fits : state.GateFits dag) (same : DAGExecutor.SameView state after) :
    after.GateFits dag := by
  intro step named
  rw [same.ctx, same.results, same.task]
  exact fits step named

variable {step : StepName}

theorem GateFits.move (fits : state.GateFits dag) {phase : TaskPhase Point}
    (pending : state.results step = none) (own : FitsTask step after.ctx (some phase))
    (others : ∀ other, other ≠ step → SameMarks other state.ctx after.ctx)
    (task : after.task = update state.task step (some phase))
    (results : after.results = state.results) : after.GateFits dag := by
  intro other named
  rw [results, task]
  by_cases same : other = step
  · subst same
    rw [pending, update_self]
    exact ⟨nofun, fun _ => own⟩
  · rw [update_of_ne same]
    exact ⟨fun result found opens =>
        (others other same).shows ((fits other named).1 result found opens),
      fun unsettled => ((fits other named).2 unsettled).same (others other same)⟩

theorem GateFits.fails (fits : state.GateFits dag) {errorType message : String}
    (pending : state.results step = none)
    (others : ∀ other, other ≠ step → SameMarks other state.ctx after.ctx)
    (task : after.task = update state.task step (some (.done (.raised errorType message))))
    (results : after.results = state.results) : after.GateFits dag := by
  have raised : FitsTask step after.ctx (some (.done (.raised errorType message))) := trivial
  exact fits.move pending raised others task results

theorem GateFits.spawn (fits : state.GateFits dag) {newly : List StepName}
    (idle : ∀ step, step ∈ newly → state.task step = none ∧ state.results step = none)
    (spawns : Spawns newly state after) : after.GateFits dag := by
  have ctx : after.ctx = state.ctx := by rw [spawns.frame]
  have results : after.results = state.results := by rw [spawns.frame]
  intro step named
  rw [ctx, results, spawns.task]
  by_cases fresh : step ∈ newly
  · rw [if_pos fresh]
    refine ⟨(fits step named).1, fun unsettled => ?_⟩
    have own := (fits step named).2 unsettled
    rw [(idle step fresh).1] at own
    exact own
  · rw [if_neg fresh]
    exact fits step named

private theorem settle_opens {outcome : TaskOutcome} {before after : Context}
    (fits : FitsOutcome step before outcome) (opens : (outcome.settle step).status ≠ .failed)
    (completed : step ∈ after.completedSteps ↔
      step ∈ before.completedSteps ∨ (outcome.settle step).status = .skipped)
    (failed : after.failedSteps = before.failedSteps) : after.Shows step .completed := by
  cases outcome with
  | raised errorType message => exact absurd rfl opens
  | returned raw =>
      have status : (TaskOutcome.settle step (.returned raw)).status =
          if raw.status.Terminal then raw.status else .failed := failNonterminal_status raw
      have terminal : raw.status.Terminal := by
        by_contra unsettled
        rw [status, if_neg unsettled] at opens
        exact opens rfl
      rw [status, if_pos terminal] at opens completed
      rw [Context.Shows, completed, failed]
      rw [StepStatus.Terminal, terminalStatuses, List.mem_cons, List.mem_cons,
        List.mem_singleton] at terminal
      rcases terminal with success | failure | skipped
      · have shown := fits.1 success
        exact ⟨.inl shown.1, shown.2⟩
      · exact absurd failure opens
      · exact ⟨.inr skipped, (fits.2 skipped).2⟩

theorem GateFits.settle {batch : List StepName} (fits : state.GateFits dag)
    (consistent : state.Consistent dag batch) {outcome : TaskOutcome} {reason : String}
    {newly : List StepName} (current : state.task step = some (.done outcome))
    (pending : state.results step = none)
    (settlement : Settlement dag step (outcome.settle step) reason newly state after) :
    after.GateFits dag := by
  -- What the cascade skips was never started: a started step waits for no open dependency.
  have unstarted : ∀ other, other ∈ newly → state.task other = none := by
    intro other skips
    by_contra started
    obtain ⟨_, cause, source, edge⟩ := settlement.caused other skips
    have done := (consistent.supported other started cause edge).1
    rcases source with same | earlier
    · subst same
      exact (consistent.recorded cause).mp done pending
    · exact (settlement.fresh cause earlier).1 done
  intro other named
  rw [settlement.results, settlement.task]
  by_cases skips : other ∈ newly
  · rw [if_pos skips]
    refine ⟨fun result found opens => ?_, fun unsettled => absurd unsettled (Option.some_ne_none _)⟩
    have waiting := consistent.not_recorded (settlement.fresh other skips).1
    have own := (fits other named).2 waiting
    rw [unstarted other skips] at own
    rw [Context.Shows, settlement.context, settlement.failedSteps]
    exact ⟨.inr (.inr skips), own.2⟩
  · rw [if_neg skips]
    by_cases same : other = step
    · subst same
      rw [if_pos rfl]
      refine ⟨fun result found opens => ?_, fun unsettled => absurd unsettled (Option.some_ne_none _)⟩
      cases found
      have own := (fits other named).2 pending
      rw [current] at own
      apply settle_opens own opens _ settlement.failedSteps
      rw [settlement.context]
      simp only [true_and, skips, or_false]
    · rw [if_neg same]
      have marks : SameMarks other state.ctx after.ctx := by
        constructor
        · rw [settlement.context]
          simp only [same, false_and, skips, or_false]
        · rw [settlement.failedSteps]
      exact ⟨fun result found opens => marks.shows ((fits other named).1 result found opens),
        fun unsettled => ((fits other named).2 unsettled).same marks⟩

/-- `_mark_context_failed` on a step that is recorded as failed. -/
theorem GateFits.markContextFailed (fits : state.GateFits dag) {result : StepResult}
    (recorded : state.results step = some result) (failed : result.status = .failed) :
    (state.markContextFailed step).GateFits dag := by
  intro other named
  by_cases same : other = step
  · subst same
    constructor
    · intro found holds opens
      have same : found = result := Option.some.inj (holds.symm.trans recorded)
      rw [same] at opens
      exact absurd failed opens
    · intro unsettled
      have impossible := unsettled.symm.trans recorded
      cases impossible
  · have marks : SameMarks other state.ctx (state.markContextFailed step).ctx := by
      change SameMarks other state.ctx ((if step ∈ state.ctx.completedSteps
        then state.ctx.dropComplete step else state.ctx).markStepFailed step)
      split
      · have dropped : SameMarks other state.ctx (state.ctx.dropComplete step) :=
          ⟨Context.mem_dropComplete_of_ne state.ctx step other same,
            Context.mem_dropComplete_failed state.ctx step other⟩
        have marked := SameMarks.markStepFailed (state.ctx.dropComplete step) same
        exact ⟨marked.completed.trans dropped.completed, marked.failed.trans dropped.failed⟩
      · exact SameMarks.markStepFailed state.ctx same
    exact ⟨fun found holds opens => marks.shows ((fits other named).1 found holds opens),
      fun unsettled => ((fits other named).2 unsettled).same marks⟩

theorem GateFits.recover {settings : Settings} {batch : List StepName}
    (fits : state.GateFits settings.dag) (consistent : state.Consistent settings.dag batch)
    (recovery : Recovered settings state after) : after.GateFits settings.dag := by
  intro step named
  rw [recovery.results, recovery.task]
  by_cases done : step ∈ state.completed
  · rw [if_pos done]
    have marks : SameMarks step state.ctx after.ctx := by
      constructor
      · rw [recovery.context]
        simp only [done, not_true_eq_false, false_and, and_false, or_false]
      · rw [recovery.failedSteps]
    exact ⟨fun result found opens => marks.shows ((fits step named).1 result found opens),
      fun unsettled => ((fits step named).2 unsettled).same marks⟩
  · rw [if_neg done]
    by_cases runs : step ∈ state.running
    · rw [if_pos runs]
      refine ⟨fun result found opens => ?_, nofun⟩
      cases found
      exact absurd rfl opens
    · rw [if_neg runs, if_pos named]
      refine ⟨fun result found opens => ?_, nofun⟩
      have unstarted : state.task step = none := by
        by_contra started
        exact runs ((consistent.running step).mpr ⟨started, done⟩)
      have own := (fits step named).2 (consistent.not_recorded done)
      rw [unstarted] at own
      rw [Context.Shows, recovery.context, recovery.failedSteps]
      exact ⟨.inr ⟨named, done, runs⟩, own.2⟩

end RunState

namespace DAGExecutor

open RunState

variable {settings : Settings}

variable {run : Run Point} {event : Event Input}
  {state : RunState Point}

private theorem Turn.fits {after : RunState Point} {batch : List StepName}
    (consistent : run.state.Consistent settings.dag batch) (fits : run.state.GateFits settings.dag)
    (turn : Turn executor settings.dag run.state event after) :
    after.GateFits settings.dag := by
  have facts : ∀ step phase, run.state.task step = some phase →
      TaskPhase.isDone (some phase) = false → run.state.results step = none ∧
        FitsTask step run.state.ctx (some phase) := by
    intro step phase current moving
    have pending := consistent.not_recorded (consistent.not_completed_of_not_done current moving)
    have named := consistent.registered step (.inr (by rw [current]; exact nofun))
    have own := (fits step named).2 pending
    rw [current] at own
    exact ⟨pending, own⟩
  have untouched : ∀ (step other : StepName), other ≠ step →
      SameMarks other run.state.ctx run.state.ctx := fun _ other _ => SameMarks.refl other _
  cases turn with
  | begin step current kept =>
      obtain ⟨pending, own⟩ := facts step _ current rfl
      unfold beginTask
      split
      · exact fits.fails pending (untouched step) rfl rfl
      · have starting : FitsTask step run.state.ctx (some .starting) := own
        exact fits.move pending starting (untouched step) rfl rfl
  | enter step observerRaised input definition progress ctx current kept known entered =>
      obtain ⟨pending, own⟩ := facts step _ current rfl
      have named := DAG.name_of_lookup known
      subst named
      have others := (StepExecutor.marks.enter definition _ input progress ctx entered own).2
      have same : StepExecutor.enter definition run.state.ctx input = (progress, ctx) :=
        Option.some.inj entered
      have left := StepExecutor.fits_enter input own
      rw [same] at left
      have outcome := noteObserver_outcome observerRaised run.state
      refine fits.move pending (FitsTask.phase left) others ?_ outcome.results
      exact congrArg (fun task => update task definition.name _) outcome.task
  | unknown step observerRaised input current kept missing =>
      obtain ⟨pending, own⟩ := facts step _ current rfl
      have outcome := noteObserver_outcome observerRaised run.state
      have task : ((run.state.noteObserver observerRaised).setTask step
          (.done (.raised "KeyError" s!"'{step}'"))).task =
          update run.state.task step (some (.done (.raised "KeyError" s!"'{step}'"))) :=
        congrArg (fun task => update task step _) outcome.task
      refine fits.fails pending ?_ task outcome.results
      intro other _
      change SameMarks other _ (run.state.noteObserver observerRaised).ctx
      rw [outcome.ctx]
      exact SameMarks.refl other _
  | resume step input definition point progress ctx current kept known moved
  | cancel step input definition point progress ctx current asked known moved =>
      obtain ⟨pending, own⟩ := facts step _ current rfl
      have named := DAG.name_of_lookup known
      subst named
      obtain ⟨left, others⟩ := by
        first | exact StepExecutor.fits_resume own moved | exact StepExecutor.fits_cancel own moved
      exact fits.move pending (FitsTask.phase left) others rfl rfl
  | drop step current asked | interrupt step current asked =>
      obtain ⟨pending, own⟩ := facts step _ current rfl
      exact fits.fails pending (untouched step) rfl rfl
  | swallow step current asked => exact fits.view ⟨rfl, rfl, rfl⟩

/-- What `_process_done_task` marks itself is recorded as failed. -/
private theorem marked_failed (step : StepName) {outcome : TaskOutcome}
    (marking : marksContext outcome = true) : (outcome.settle step).status = .failed := by
  cases outcome with
  | raised errorType message => rfl
  | returned raw =>
      have nonterminal : ¬ raw.status.Terminal := of_decide_eq_true marking
      exact (failNonterminal_status raw).trans (if_neg nonterminal)

private theorem enterLoop_fits (valid : settings.dag.validate = .ok ())
    (positive : 1 ≤ settings.maxConcurrency) (consistent : state.Consistent settings.dag [])
    (fits : state.GateFits settings.dag) :
    (enterLoop settings state).state.GateFits settings.dag := by
  rcases enterLoop_cases valid positive consistent with
    ⟨closes, _⟩ | ⟨newly, scheduled, waits, spawns, _, _, queued⟩
  · rw [closes]
    exact fits.view ⟨rfl, rfl, rfl⟩
  · rw [waits]
    refine fits.spawn ?_ spawns
    intro step member
    have inReady : step ∈ state.ready := by
      rw [queued]
      exact List.mem_append_left _ member
    obtain ⟨_, waiting, unstarted, _⟩ := (consistent.ready step).mp inReady
    exact ⟨unstarted, consistent.not_recorded waiting⟩

private theorem processBatch_fits (valid : settings.dag.validate = .ok ())
    (positive : 1 ≤ settings.maxConcurrency) {batch : List StepName}
    (consistent : state.Consistent settings.dag batch) (fits : state.GateFits settings.dag) :
    (processBatch settings state batch).state.GateFits settings.dag := by
  cases batch with
  | nil => exact enterLoop_fits valid positive consistent fits
  | cons step rest =>
      obtain ⟨outcome, recorded, reason, newly, current, settlement, _, found, taken⟩ :=
        processBatch_cons consistent
      have member := (consistent.batchDone step List.mem_cons_self).1
      have pending := consistent.not_recorded ((consistent.running step).mp member).2
      have settled := fits.settle consistent current pending settlement
      rw [taken]
      split
      · rename_i marking
        exact settled.markContextFailed found (marked_failed step marking)
      · exact settled.view ⟨rfl, rfl, rfl⟩

private theorem move_fits (valid : settings.dag.validate = .ok ())
    (positive : 1 ≤ settings.maxConcurrency) {after : Run Point}
    (invariant : Invariant settings run) (fits : run.state.GateFits settings.dag)
    (move : Move settings run event after) :
    after.state.GateFits settings.dag := by
  cases move with
  | opened observerRaised control =>
      cases invariant with
      | opening state consistent idle uncancelled =>
          exact enterLoop_fits valid positive
            (consistent.transfer (noteObserver_same observerRaised state))
            (fits.view (noteObserver_outcome observerRaised state).view)
      | _ => cases control
  | marked observerRaised step result rest control | timeout limited allBegun suspended
  | abandon error control drained => exact fits.view ⟨rfl, rfl, rfl⟩
  | notified observerRaised step result rest control =>
      cases invariant with
      | notifying _ _ _ state consistent begun uncancelled recorded =>
          cases control
          exact processBatch_fits valid positive
            (consistent.transfer (noteObserver_same observerRaised state))
            (fits.view (noteObserver_outcome observerRaised state).view)
      | _ => cases control
  | returned observerRaised control =>
      exact fits.view (noteObserver_outcome observerRaised run.state).view
  | wake done control allBegun batch =>
      cases invariant with
      | waiting state consistent busy uncancelled =>
          exact processBatch_fits valid positive (consistent.wake batch)
            (fits.view ⟨rfl, rfl, rfl⟩)
      | _ => cases control
  | recover running remaining recovered control drained handled =>
      cases invariant with
      | cancelling batch state limited consistent begun =>
          exact (fits.recover consistent (handleTimeout_recovered consistent handled)).view
            ⟨rfl, rfl, rfl⟩
      | _ => cases control

theorem next_fits (valid : settings.dag.validate = .ok ()) (positive : 1 ≤ settings.maxConcurrency)
    (run : Run Point) (event : Event Input)
    (after : Run Point)
    (held : Invariant settings run ∧ run.state.GateFits settings.dag)
    (taken : next executor settings run event = some after) :
    Invariant settings after ∧ after.state.GateFits settings.dag := by
  refine ⟨next_invariant valid positive run event after held.1 taken, ?_⟩
  rcases next_cases taken with move | ⟨state, turn, same⟩
  · exact move_fits valid positive held.1 held.2 move
  · subst same
    obtain ⟨_, consistent, _⟩ := held.1.turning turn
    exact Turn.fits consistent held.2 turn

theorem started_open (invariant : Invariant settings run) (fits : run.state.GateFits settings.dag)
    (valid : settings.dag.validate = .ok ()) {step dep : StepName}
    (started : run.state.task step ≠ none) (edge : dep ∈ settings.dag.dependsOn step) :
    run.state.ctx.Shows dep .completed := by
  have closed := (settings.dag.validate_ok_iff.mp valid).2.1
  have opens : ∀ (before : RunState Point) batch,
      before.Consistent settings.dag batch → before.task step ≠ none →
      (∀ result, before.results dep = some result → run.state.results dep = some result) →
      run.state.ctx.Shows dep .completed := by
    intro before batch consistent begun kept
    obtain ⟨done, unblocked⟩ := consistent.supported step begun dep edge
    obtain ⟨result, found⟩ := Option.ne_none_iff_exists'.mp ((consistent.recorded dep).mp done)
    apply (fits dep (closed step dep edge)).1 result (kept result found)
    intro failed
    exact unblocked ⟨result, found, .inl failed⟩
  have ended : Ended settings run.state → run.state.ctx.Shows dep .completed := by
    intro ended
    cases ended with
    | completed before consistent complete uncancelled assembled =>
        apply opens before [] consistent
        · have same : run.state.task = before.task := assembled.task
          rw [← same]
          exact started
        · intro result found
          have same : run.state.results = before.results := assembled.results
          rw [same]
          exact found
    | timedOut before recovered batch running remaining limited consistent begun drained handled
        assembled =>
        have recovery := handleTimeout_recovered consistent handled
        have sameTask : run.state.task = recovered.task := assembled.task
        have sameResults : run.state.results = recovered.results := assembled.results
        apply opens before batch consistent
        · rw [← recovery.task, ← sameTask]
          exact started
        · intro result found
          have done : dep ∈ before.completed := by
            rw [consistent.recorded, found]
            exact nofun
          rw [sameResults, recovery.results, if_pos done]
          exact found
  cases invariant with
  | opening state consistent idle uncancelled | waiting state consistent busy uncancelled =>
      exact opens state [] consistent started fun _ found => found
  | marking step result rest state consistent begun uncancelled recorded begunStep
  | notifying step result rest state consistent begun uncancelled recorded =>
      exact opens state rest consistent started fun _ found => found
  | cancelling batch state limited consistent begun =>
      exact opens state batch consistent started fun _ found => found
  | closing state finished | returned state finished => exact ended finished

/-! ### The two gates agree -/

/-- In a state of a run: the executor's dependency gate is open for every started step,
so that only the step's own conditions are asked; and an event that ends a step task
SKIPPED is the one that asks these conditions. -/
structure GatesAgree (settings : Settings) (run : Run Point) : Prop where
  started : ∀ step, run.state.task step ≠ none → ∀ dep, dep ∈ settings.dag.dependsOn step →
    dep ∈ run.state.ctx.completedSteps ∧ dep ∉ run.state.ctx.failedSteps
  asked : ∀ step definition, run.state.task step ≠ none →
    settings.dag.lookup step = some definition → ∀ input,
      shouldRun definition run.state.ctx input = ownConditions input
  skips : ∀ step event after result,
    next executor settings run event = some after →
    after.state.task step ≠ run.state.task step →
    after.state.task step = some (.done (.returned result)) → result.status = .skipped →
      ∃ observerRaised input, event = .observed step observerRaised input ∧
        ownConditions input = .value false

private theorem lookup_dependsOn {dag : DAG} {step : StepName} {definition : StepDefinition}
    (known : dag.lookup step = some definition) :
    dag.dependsOn step = definition.dependsOn := by
  have named := DAG.name_of_lookup known
  subst named
  exact dag.dependsOn_of_mem (List.mem_of_find?_eq_some known)

/-- The one place where `execute` returns a SKIPPED result. -/
private theorem enter_skipped {definition : StepDefinition} {ctx after : Context}
    {input : Input} {result : StepResult}
    (entered : StepExecutor.enter definition ctx input = (.finished (.returned result), after))
    (skipped : result.status = .skipped) :
    shouldRun definition ctx input = .value false := by
  unfold StepExecutor.enter at entered
  dsimp only at entered
  split at entered
  · cases entered
  · assumption
  · split at entered
    · cases entered
      cases skipped
    · cases entered

private theorem turn_skips {batch : List StepName}
    (consistent : run.state.Consistent settings.dag batch) (fits : run.state.GateFits settings.dag)
    (asked : ∀ step definition, run.state.task step ≠ none →
      settings.dag.lookup step = some definition → ∀ input,
        shouldRun definition run.state.ctx input = ownConditions input)
    (turn : Turn executor settings.dag run.state event state) :
    state.task = run.state.task ∨
      ∃ moved phase, state.task = update run.state.task moved (some phase) ∧
        ∀ result, phase = .done (.returned result) → result.status = .skipped →
          ∃ observerRaised input, event = .observed moved observerRaised input ∧
            ownConditions input = .value false := by
  have unskipped : ∀ moved point, run.state.task moved = some (.executing point) →
      point.frame.result.status ≠ .skipped := by
    intro moved point current
    have moving : TaskPhase.isDone (some (TaskPhase.executing point)) = false := rfl
    have pending := consistent.not_recorded (consistent.not_completed_of_not_done current moving)
    have named := consistent.registered moved (.inr (by rw [current]; exact nofun))
    have own := (fits moved named).2 pending
    rw [current] at own
    exact own.1
  have never : ∀ {progress : Progress Point} {ctx : Context} {result : StepResult},
      StepExecutor.Unskipped (progress, ctx) → progress.phase = .done (.returned result) →
        result.status ≠ .skipped := by
    intro progress ctx result unskipped ends
    cases progress with
    | awaiting point => cases ends
    | finished outcome =>
        cases ends
        exact unskipped
  cases turn with
  | begin moved current kept =>
      right
      unfold beginTask
      split
      · exact ⟨moved, _, rfl, nofun⟩
      · exact ⟨moved, .starting, rfl, nofun⟩
  | enter moved observerRaised input definition progress ctx current kept known entered =>
      right
      have outcome := noteObserver_outcome observerRaised run.state
      refine ⟨moved, progress.phase, ?_, ?_⟩
      · exact congrArg (fun task => update task moved _) outcome.task
      · intro result ends skipped
        have started : run.state.task moved ≠ none := by
          rw [current]
          exact nofun
        have same : StepExecutor.enter definition run.state.ctx input = (progress, ctx) :=
          Option.some.inj entered
        cases progress with
        | awaiting point => cases ends
        | finished ended =>
            cases ends
            have refused := enter_skipped same skipped
            rw [asked moved definition started known] at refused
            exact ⟨observerRaised, input, rfl, refused⟩
  | unknown moved observerRaised input current kept missing =>
      right
      have outcome := noteObserver_outcome observerRaised run.state
      refine ⟨moved, .done (.raised "KeyError" s!"'{moved}'"), ?_, fun result ends => by cases ends⟩
      exact congrArg (fun task => update task moved _) outcome.task
  | resume moved input definition point progress ctx current kept known taken
  | cancel moved input definition point progress ctx current requested known taken =>
      right
      refine ⟨moved, progress.phase, rfl, ?_⟩
      intro result ends skipped
      have running := unskipped moved point current
      first
      | exact absurd skipped (never (StepExecutor.unskipped_resume running taken) ends)
      | exact absurd skipped (never (StepExecutor.unskipped_cancel running taken) ends)
  | drop moved current asked | interrupt moved current asked =>
      right
      exact ⟨moved, _, rfl, nofun⟩
  | swallow moved current asked =>
      left
      rfl

private theorem next_skips (valid : settings.dag.validate = .ok ())
    (positive : 1 ≤ settings.maxConcurrency) {after : Run Point}
    (invariant : Invariant settings run) (fits : run.state.GateFits settings.dag)
    (asked : ∀ step definition, run.state.task step ≠ none →
      settings.dag.lookup step = some definition → ∀ input,
        shouldRun definition run.state.ctx input = ownConditions input)
    (taken : next executor settings run event = some after) {step : StepName}
    {result : StepResult} (differs : after.state.task step ≠ run.state.task step)
    (ends : after.state.task step = some (.done (.returned result)))
    (skipped : result.status = .skipped) :
    ∃ observerRaised input, event = .observed step observerRaised input ∧
      ownConditions input = .value false := by
  cases next_change valid positive invariant taken with
  | quiet _ _ same => exact absurd (congrFun same.task step) differs
  | turned _ _ batch consistent turn =>
      rcases turn_skips consistent fits asked turn with same | ⟨moved, phase, task, conditions⟩
      · exact absurd (congrFun same step) differs
      · rw [task] at differs ends
        by_cases own : step = moved
        · subst own
          rw [update_self] at ends
          exact conditions result (Option.some.inj ends) skipped
        · exact absurd (update_of_ne own _ _) differs
  | spawned _ first _ newly same idle spawns =>
      rw [spawns.task] at differs ends
      split at ends
      · cases ends
      · rename_i old
        rw [if_neg old] at differs
        exact absurd (congrFun same.task step) differs
  | settled _ first recorded _ moved outcome reason newly same current pending settlement marked =>
      have recordedTask : (if marksContext outcome then recorded.markContextFailed moved
          else recorded).task = recorded.task := by
        split <;> rfl
      have task := marked.task.trans (recordedTask.trans (settlement.task.trans same.task))
      exact absurd (congrFun task step) differs
  | recovered running remaining recovered _ batch consistent recovery same =>
      exact absurd (congrFun (same.task.trans recovery.task) step) differs

/-- In every state of a run with the real step executor the two dependency gates agree. -/
theorem gates_agree (settings : Settings) (valid : settings.dag.validate = .ok ())
    (positive : 1 ≤ settings.maxConcurrency) (ctx : Context) (workflowId : String)
    (fresh : ∀ step, step ∈ settings.dag.stepNames →
      step ∉ ctx.completedSteps ∧ step ∉ ctx.failedSteps)
    (events : List (Event Input)) (run : Run Point)
    (reached : Transition.replay (next executor settings)
      (start settings ctx workflowId) events = some run) : GatesAgree settings run := by
  have first : Invariant settings (start settings ctx workflowId : Run Point) ∧
      (start settings ctx workflowId : Run Point).state.GateFits settings.dag :=
    ⟨start_invariant ctx workflowId, fun step named => ⟨nofun, fun _ => fresh step named⟩⟩
  obtain ⟨invariant, fits⟩ := Transition.replay_invariant (next_fits valid positive) first reached
  have opened : ∀ step, run.state.task step ≠ none → ∀ dep, dep ∈ settings.dag.dependsOn step →
      dep ∈ run.state.ctx.completedSteps ∧ dep ∉ run.state.ctx.failedSteps :=
    fun step started dep edge => started_open invariant fits valid started edge
  have asked : ∀ step definition, run.state.task step ≠ none →
      settings.dag.lookup step = some definition → ∀ input,
        shouldRun definition run.state.ctx input =
          ownConditions input := by
    intro step definition started known input
    apply StepExecutor.shouldRun_of_dependencies input
    intro dep edge
    apply opened step started dep
    rw [lookup_dependsOn known]
    exact edge
  exact
    { started := opened
      asked := asked
      skips := fun step event after result taken differs ends skipped =>
        next_skips valid positive invariant fits asked taken differs ends skipped }

def chainDag : DAG :=
  { name := "chain"
    steps := [{ name := "draft" }, { name := "review", dependsOn := ["draft"] }]
    distinct := by decide }

def chainSettings : Settings := { dag := chainDag, maxConcurrency := 10 }

/-- `draft` fails its first attempt and succeeds in its second; then `review` starts. -/
def retriedDraft : List (Event Input) :=
  [.resume false, .begin "draft", .observed "draft" false {}, .advance "draft" {},
    .advance "draft" { signal := .raised (.error { errorType := "ValueError", message := "no" }) },
    .advance "draft" {}, .advance "draft" {}, .advance "draft" {}, .advance "draft" {},
    .wake ["draft"], .resume false]

theorem gates_agree_retried : ∃ run, Transition.replay
    (next executor chainSettings) (start chainSettings {} "run") retriedDraft =
      some run ∧
    run.state.task "review" = some .created ∧ GatesAgree chainSettings run := by
  have whole : ∃ run, Transition.replay
      (next executor chainSettings) (start chainSettings {} "run") retriedDraft =
        some run ∧ run.state.task "review" = some .created := by
    refine ⟨_, rfl, ?_⟩
    rfl
  obtain ⟨run, reached, created⟩ := whole
  refine ⟨run, reached, created, ?_⟩
  exact gates_agree chainSettings rfl (by decide) {} "run" (by simp) retriedDraft run reached

end DAGExecutor

end AgenticRuntime
