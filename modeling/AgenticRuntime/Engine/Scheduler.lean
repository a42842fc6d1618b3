/-
`_RunState` and the synchronous helpers of the scheduler: skipping and its
cascade, scheduling ready steps, settling a done task and unlocking its
dependents. None of them awaits, so each is one atomic change of the state.

A step task is an asyncio task of its own; `TaskPhase` is how far it has got.
-/

import Mathlib.Data.Finset.Card
import AgenticRuntime.Engine.Dag

namespace AgenticRuntime

open Function StepStateManager

open List hiding not_lt

/-- How a step task ended: the pair it returned, or what it raised. A
`CancelledError` is an exception like any other here. -/
inductive TaskOutcome where
  | returned (result : StepResult)
  | raised (errorType message : String)
  deriving DecidableEq, Repr

def TaskOutcome.cancelled : TaskOutcome := .raised "CancelledError" ""

inductive TaskPhase (Point : Type) where
  | created
  | starting
  | executing (point : Point)
  | done (outcome : TaskOutcome)
  deriving DecidableEq, Repr

/-- `task.result()` -/
def TaskPhase.result {Point : Type} : Option (TaskPhase Point) → TaskOutcome
  | some (.done outcome) => outcome
  | _ => .raised "InvalidStateError" "Result is not set."

def TaskPhase.isDone {Point : Type} : Option (TaskPhase Point) → Bool
  | some (.done _) => true
  | _ => false

def TaskPhase.isCreated {Point : Type} : Option (TaskPhase Point) → Bool
  | some .created => true
  | _ => false

/-- An event handed to `on_update`. -/
inductive Update where
  | workflowStart
  | stepStart (step : StepName)
  | stepEnd (step : StepName) (status : StepStatus) (error : Option String)
  | workflowEnd (status : StepStatus)
  deriving DecidableEq, Repr

/-- The arguments of `execute`; `timeout` is the limit as it is printed. -/
structure Settings where
  dag : DAG
  maxConcurrency : Int
  timeout : Option String := none

structure RunState (Point : Type) where
  ctx : Context
  stateManager : StepStateManager := {}
  result : WorkflowResult
  inDegree : StepName → Int
  ready : List StepName
  running : Finset StepName := ∅
  completed : Finset StepName := ∅
  skipped : Finset StepName := ∅
  results : StepName → Option StepResult := fun _ => none
  tasks : Finset StepName := ∅
  task : StepName → Option (TaskPhase Point) := fun _ => none
  cancelRequested : Finset StepName := ∅
  updates : List Update := []

abbrev Attempt (Point : Type) := Except (String × RunState Point) (RunState Point)

def failNonterminal (result : StepResult) : StepResult :=
  if result.status.Terminal then result
  else
    let reason := s!"step finished with non-terminal status '{result.status.value}'"
    { result with
      status := .failed
      error :=
        match result.error with
        | some error => if error = "" then some reason else some s!"{reason}: {error}"
        | none => some reason
      errorType := some "NonTerminalStatus"
      nonterminalStatus := some result.status }

/-- The result `_record_task_exception` builds. -/
def exceptionResult (step : StepName) (errorType message : String) : StepResult :=
  { stepName := step, status := .failed, error := some message, errorType := some errorType }

def TaskOutcome.settle (step : StepName) : TaskOutcome → StepResult
  | .returned result => failNonterminal result
  | .raised errorType message => exceptionResult step errorType message

def skipResult (step : StepName) (reason : String) : StepResult :=
  { stepName := step, status := .skipped, skipReason := some reason }

namespace RunState

variable {Point : Type}
  (state : RunState Point) (reason : String) (dag : DAG) (maxConcurrency : Int)

variable (step : StepName)

def Finished : Prop :=
  step ∈ state.completed ∨ step ∈ state.skipped

instance (state : RunState Point) (step : StepName) : Decidable (state.Finished step) :=
  inferInstanceAs (Decidable (step ∈ state.completed ∨ step ∈ state.skipped))

def markSkipped (state : RunState Point) (step : StepName) : RunState Point :=
  if state.Finished step then state
  else
    { state with
      results := update state.results step (some (skipResult step reason))
      result := state.result.addStep (skipResult step reason)
      completed := insert step state.completed
      skipped := insert step state.skipped
      stateManager := state.stateManager.setState step .skipped
      ctx := state.ctx.noteComplete step }

/-- The body of the inner loop of `_cascade_skip`: the state and the queue. -/
def cascadeVisit (reached : RunState Point × List StepName) (dependent : StepName) :
    RunState Point × List StepName :=
  if reached.1.Finished dependent then reached
  else (reached.1.markSkipped reason dependent, reached.2 ++ [dependent])

def cascadeLoop (dag : DAG) (reason : String) :
    Nat → List StepName → RunState Point → RunState Point
  | 0, _, state => state
  | _ + 1, [], state => state
  | fuel + 1, current :: queue, state =>
      let reached := (dag.buildAdjacencyList current).foldl (cascadeVisit reason) (state, queue)
      cascadeLoop dag reason fuel reached.2 reached.1

/-- Every step enters the queue at most once after `start`. -/
def cascadeSkip (start : StepName) (reason : String) (state : RunState Point) :
    RunState Point :=
  cascadeLoop dag reason (dag.steps.length + 1) [start] state

/-- The task of a popped step: it is added to `running` before the transition
that may raise. -/
def spawn : Attempt Point :=
  let added := { state with running := insert step state.running }
  match added.stateManager.transition step .ready with
  | .error message => .error (message, added)
  | .ok manager =>
      .ok
        { added with
          stateManager := manager
          tasks := insert step added.tasks
          task := update added.task step (some .created) }

def scheduleLoop (maxConcurrency : Int) : List StepName → RunState Point → Attempt Point
  | [], state => .ok { state with ready := [] }
  | step :: rest, state =>
      if (state.running.card : Int) < maxConcurrency then
        if state.Finished step then scheduleLoop maxConcurrency rest state
        else
          match ({ state with ready := rest } : RunState Point).spawn step with
          | .error failure => .error failure
          | .ok spawned => scheduleLoop maxConcurrency rest spawned
      else .ok { state with ready := step :: rest }

def scheduleReadySteps (state : RunState Point) : Attempt Point :=
  scheduleLoop maxConcurrency state.ready state

def outcomeState : StepStatus → StepState
  | .success => .success
  | .skipped => .skipped
  | _ => .failed

def transitionOutcomeState (result : StepResult) (state : RunState Point) :
    Attempt Point :=
  match state.stateManager.transition step (outcomeState result.status) with
  | .error message => .error (message, state)
  | .ok manager =>
      let moved := { state with stateManager := manager }
      .ok <|
        if result.status = .skipped then
          { moved with
            ctx := moved.ctx.noteComplete step
            skipped := insert step moved.skipped }
        else moved

def unlockOne (dependent : StepName) : RunState Point :=
  if state.Finished dependent then state
  else
    let degree := state.inDegree dependent - 1
    { state with
      inDegree := update state.inDegree dependent degree
      ready := if degree = 0 then state.ready ++ [dependent] else state.ready }

def unlockDownstream (state : RunState Point) : RunState Point :=
  (dag.buildAdjacencyList step).foldl unlockOne state

def setOverallFailed : RunState Point :=
  { state with result := { state.result with overallStatus := .failed } }

def record (result : StepResult) (state : RunState Point) : RunState Point :=
  { state with
    running := state.running.erase step
    results := update state.results step (some result)
    result := state.result.addStep result
    completed := insert step state.completed }

/-- `_mark_context_failed` up to the emission `mark_step_failed` awaits. -/
def markContextFailed (state : RunState Point) : RunState Point :=
  { state with
    ctx :=
      (if step ∈ state.ctx.completedSteps then state.ctx.dropComplete step
        else state.ctx).markStepFailed step }

/-- `_record_task_exception` up to its first await. -/
def recordTaskException (errorType message : String) (state : RunState Point) :
    RunState Point :=
  let recorded := state.record step (exceptionResult step errorType message)
  let failed := { recorded with stateManager := recorded.stateManager.setState step .failed }
  cascadeSkip dag step "unhandled exception" failed.setOverallFailed

/-- `_process_done_task` for a task that returned, up to its first await. -/
def recordTaskResult (raw : StepResult) (state : RunState Point) :
    Attempt Point :=
  let result := failNonterminal raw
  match (state.record step result).transitionOutcomeState step result with
  | .error failure => .error failure
  | .ok moved =>
      .ok <|
        if result.isFailed then cascadeSkip dag step "dependency failed" moved.setOverallFailed
        else moved.unlockDownstream dag step

/-- `_process_done_task` up to its first await. -/
def recordDoneTask (outcome : TaskOutcome) (state : RunState Point) :
    Attempt Point :=
  match outcome with
  | .raised errorType message => .ok (state.recordTaskException dag step errorType message)
  | .returned raw => state.recordTaskResult dag step raw

/-! ### What skipping changes -/

/-- `after` is `before` with the steps `newly` skipped. -/
structure Skips (reason : String) (newly : List StepName) (before after : RunState Point) :
    Prop where
  completed : ∀ step, step ∈ after.completed ↔ step ∈ before.completed ∨ step ∈ newly
  skipped : ∀ step, step ∈ after.skipped ↔ step ∈ before.skipped ∨ step ∈ newly
  results : ∀ step, after.results step =
    if step ∈ newly then some (skipResult step reason) else before.results step
  lifecycle : ∀ step, after.stateManager.getState step =
    if step ∈ newly then .skipped else before.stateManager.getState step
  context : ∀ step, step ∈ after.ctx.completedSteps ↔
    step ∈ before.ctx.completedSteps ∨ step ∈ newly
  failedSteps : after.ctx.failedSteps = before.ctx.failedSteps
  overall : after.result.overallStatus = before.result.overallStatus
  metadata : after.result.metadata = before.result.metadata
  inDegree : after.inDegree = before.inDegree
  ready : after.ready = before.ready
  running : after.running = before.running
  tasks : after.tasks = before.tasks
  task : after.task = before.task
  cancelRequested : after.cancelRequested = before.cancelRequested
  updates : after.updates = before.updates

theorem Skips.refl (state : RunState Point) : Skips reason [] state state := by
  constructor <;> simp

theorem Skips.trans {reason : String} {first second : List StepName}
    {start middle finish : RunState Point} (toMiddle : Skips reason first start middle)
    (toFinish : Skips reason second middle finish) :
    Skips reason (first ++ second) start finish where
  completed step := by
    rw [toFinish.completed, toMiddle.completed, mem_append, or_assoc]
  skipped step := by
    rw [toFinish.skipped, toMiddle.skipped, mem_append, or_assoc]
  results step := by
    rw [toFinish.results, toMiddle.results]
    by_cases late : step ∈ second
    · simp [late]
    · simp [late]
  lifecycle step := by
    rw [toFinish.lifecycle, toMiddle.lifecycle]
    by_cases late : step ∈ second
    · simp [late]
    · simp [late]
  context step := by
    rw [toFinish.context, toMiddle.context, mem_append, or_assoc]
  failedSteps := toFinish.failedSteps.trans toMiddle.failedSteps
  overall := toFinish.overall.trans toMiddle.overall
  metadata := toFinish.metadata.trans toMiddle.metadata
  inDegree := toFinish.inDegree.trans toMiddle.inDegree
  ready := toFinish.ready.trans toMiddle.ready
  running := toFinish.running.trans toMiddle.running
  tasks := toFinish.tasks.trans toMiddle.tasks
  task := toFinish.task.trans toMiddle.task
  cancelRequested := toFinish.cancelRequested.trans toMiddle.cancelRequested
  updates := toFinish.updates.trans toMiddle.updates

theorem Skips.finished {reason : String} {newly : List StepName} {before after : RunState Point}
    (skips : Skips reason newly before after) (step : StepName) :
    after.Finished step ↔ before.Finished step ∨ step ∈ newly := by
  unfold Finished
  rw [skips.completed, skips.skipped]
  tauto

theorem markSkipped_skips (state : RunState Point) (step : StepName)
    (fresh : ¬ state.Finished step) :
    Skips reason [step] state (state.markSkipped reason step) := by
  have shape : (skipResult step reason).status = .skipped := rfl
  unfold markSkipped
  rw [if_neg fresh]
  constructor
  case completed => intro other; simp [or_comm]
  case skipped => intro other; simp [or_comm]
  case results =>
    intro other
    by_cases same : other = step
    · subst same
      simp
    · simp [same]
  case lifecycle =>
    intro other
    simp [setState_apply]
  case context => intro other; simp
  case overall =>
    rw [WorkflowResult.addStep_overallStatus, shape]
    simp
  all_goals rfl

/-! ### The cascade -/

/-- What a cascade from the steps in `queue` does. -/
structure Cascade (dag : DAG) (reason : String) (queue newly : List StepName)
    (before after : RunState Point) : Prop where
  skips : Skips reason newly before after
  fresh : ∀ step, step ∈ newly → ¬ before.Finished step
  distinct : newly.Nodup
  caused : ∀ step, step ∈ newly →
    ∃ cause, (cause ∈ queue ∨ cause ∈ newly) ∧ cause ∈ dag.dependsOn step
  closed : ∀ cause, cause ∈ queue ∨ cause ∈ newly →
    ∀ step, cause ∈ dag.dependsOn step → after.Finished step

private theorem visit_dependents (dependents : List StepName) (state : RunState Point)
    (queue : List StepName) :
    ∃ newly, (dependents.foldl (cascadeVisit reason) (state, queue)).2 = queue ++ newly ∧
      Skips reason newly state (dependents.foldl (cascadeVisit reason) (state, queue)).1 ∧
      newly.Nodup ∧ (∀ step, step ∈ newly → step ∈ dependents ∧ ¬ state.Finished step) ∧
      ∀ step, step ∈ dependents →
        (dependents.foldl (cascadeVisit reason) (state, queue)).1.Finished step := by
  induction dependents generalizing state queue with
  | nil =>
      refine ⟨[], by simp, Skips.refl reason state, nodup_nil, ?_, ?_⟩
      · intro step member
        cases member
      · intro step member
        cases member
  | cons head rest ih =>
      rw [foldl_cons]
      by_cases done : state.Finished head
      · have stays : cascadeVisit reason (state, queue) head = (state, queue) := if_pos done
        rw [stays]
        obtain ⟨newly, queued, skips, distinct, fresh, finished⟩ := ih state queue
        refine ⟨newly, queued, skips, distinct, ?_, ?_⟩
        · intro step member
          exact ⟨mem_cons_of_mem head (fresh step member).1, (fresh step member).2⟩
        · intro step member
          rcases mem_cons.mp member with same | later
          · exact (skips.finished step).mpr (.inl (same ▸ done))
          · exact finished step later
      · have moves : cascadeVisit reason (state, queue) head =
            (state.markSkipped reason head, queue ++ [head]) := if_neg done
        rw [moves]
        have one := markSkipped_skips reason state head done
        obtain ⟨newly, queued, skips, distinct, fresh, finished⟩ :=
          ih (state.markSkipped reason head) (queue ++ [head])
        have absent : head ∉ newly := by
          intro member
          exact (fresh head member).2 ((one.finished head).mpr (.inr mem_cons_self))
        refine ⟨head :: newly, ?_, one.trans skips, nodup_cons.mpr ⟨absent, distinct⟩, ?_, ?_⟩
        · rw [queued, append_assoc, singleton_append]
        · intro step member
          rcases mem_cons.mp member with same | later
          · subst same
            exact ⟨mem_cons_self, done⟩
          · refine ⟨mem_cons_of_mem head (fresh step later).1, ?_⟩
            intro early
            exact (fresh step later).2 ((one.finished step).mpr (.inl early))
        · intro step member
          rcases mem_cons.mp member with same | later
          · apply (skips.finished step).mpr
            exact .inl ((one.finished step).mpr (.inr (same ▸ mem_cons_self)))
          · exact finished step later

def unfinished (state : RunState Point) : Finset StepName :=
  dag.stepNames.toFinset.filter fun step => ¬ state.Finished step

theorem unfinished_skips {dag : DAG} {reason : String} {newly : List StepName}
    {before after : RunState Point} (skips : Skips reason newly before after)
    (distinct : newly.Nodup)
    (fresh : ∀ step, step ∈ newly → step ∈ dag.stepNames ∧ ¬ before.Finished step) :
    newly.length + (after.unfinished dag).card = (before.unfinished dag).card := by
  have inside : newly.toFinset ⊆ before.unfinished dag := by
    intro step member
    rw [mem_toFinset] at member
    exact Finset.mem_filter.mpr ⟨mem_toFinset.mpr (fresh step member).1, (fresh step member).2⟩
  have removed : after.unfinished dag = before.unfinished dag \ newly.toFinset := by
    ext step
    simp only [unfinished, Finset.mem_filter, Finset.mem_sdiff, mem_toFinset, skips.finished]
    tauto
  have counted := Finset.card_sdiff_add_card_eq_card inside
  rw [toFinset_card_of_nodup distinct, ← removed] at counted
  omega

private theorem cascadeLoop_cascade (reason : String) (fuel : Nat) (queue : List StepName)
    (state : RunState Point) (enough : queue.length + (state.unfinished dag).card ≤ fuel) :
    ∃ newly, Cascade dag reason queue newly state (cascadeLoop dag reason fuel queue state) := by
  induction fuel generalizing queue state with
  | zero =>
      have empty : queue = [] := eq_nil_of_length_eq_zero (by omega)
      subst empty
      exact ⟨[], Skips.refl reason state, by simp, nodup_nil, by simp, by simp⟩
  | succ fuel ih =>
      cases queue with
      | nil => exact ⟨[], Skips.refl reason state, by simp, nodup_nil, by simp, by simp⟩
      | cons current queue =>
          obtain ⟨visited, queued, skips, distinct, fresh, finished⟩ :=
            visit_dependents reason (dag.buildAdjacencyList current) state queue
          have registered : ∀ step, step ∈ visited →
              step ∈ dag.stepNames ∧ ¬ state.Finished step := by
            intro step member
            have edge := dag.mem_buildAdjacencyList.mp (fresh step member).1
            exact ⟨dag.mem_stepNames_of_dependsOn edge, (fresh step member).2⟩
          have counted := unfinished_skips skips distinct registered
          simp only [cascadeLoop]
          rw [queued]
          rw [length_cons] at enough
          have spare : (queue ++ visited).length + (RunState.unfinished dag
              ((dag.buildAdjacencyList current).foldl (cascadeVisit reason)
                (state, queue)).1).card ≤ fuel := by
            rw [length_append]
            omega
          obtain ⟨newly, cascade⟩ := ih (queue ++ visited) _ spare
          refine ⟨visited ++ newly, skips.trans cascade.skips, ?_, ?_, ?_, ?_⟩
          · intro step member early
            rcases mem_append.mp member with direct | later
            · exact (fresh step direct).2 early
            · exact cascade.fresh step later ((skips.finished step).mpr (.inl early))
          · refine nodup_append.mpr ⟨distinct, cascade.distinct, ?_⟩
            intro step direct other later same
            subst same
            exact cascade.fresh step later ((skips.finished step).mpr (.inr direct))
          · intro step member
            rcases mem_append.mp member with direct | later
            · exact ⟨current, .inl mem_cons_self,
                dag.mem_buildAdjacencyList.mp (fresh step direct).1⟩
            · obtain ⟨cause, source, edge⟩ := cascade.caused step later
              refine ⟨cause, ?_, edge⟩
              rw [mem_append] at source ⊢
              rw [mem_cons]
              tauto
          · intro cause source step edge
            by_cases here : cause = current
            · subst here
              apply (cascade.skips.finished step).mpr
              exact .inl (finished step (dag.mem_buildAdjacencyList.mpr edge))
            · apply cascade.closed cause _ step edge
              rw [mem_cons, mem_append] at source
              rw [mem_append]
              tauto

theorem cascadeSkip_cascade (start : StepName) (reason : String) (state : RunState Point) :
    ∃ newly, Cascade dag reason [start] newly state (state.cascadeSkip dag start reason) := by
  apply cascadeLoop_cascade
  have small : (state.unfinished dag).card ≤ dag.stepNames.toFinset.card :=
    Finset.card_filter_le _ _
  have named : dag.stepNames.toFinset.card ≤ dag.stepNames.length := toFinset_card_le dag.stepNames
  have length : dag.stepNames.length = dag.steps.length := length_map _
  rw [length_singleton]
  omega

/-! ### What unlocking changes -/

/-- `after` is `before` with one unit taken from an unfinished dependent for each
of its occurrences in `dependents`. -/
structure Unlocks (dependents newly : List StepName) (before after : RunState Point) : Prop where
  inDegree : ∀ step, after.inDegree step =
    if before.Finished step then before.inDegree step
    else before.inDegree step - dependents.count step
  ready : after.ready = before.ready ++ newly
  frame : after = { before with inDegree := after.inDegree, ready := after.ready }
  distinct : newly.Nodup
  opened : ∀ step, step ∈ newly ↔ step ∈ dependents ∧ ¬ before.Finished step ∧
    before.inDegree step = dependents.count step

private theorem count_head (head : StepName) (rest : List StepName) (step : StepName) :
    ((head :: rest).count step : Int) = rest.count step + if step = head then 1 else 0 := by
  rw [count_cons]
  by_cases same : step = head
  · simp [same]
  · have differs : head ≠ step := fun equal => same equal.symm
    simp [same, differs]

private theorem unlockOne_inDegree (head step : StepName) (pending : ¬ state.Finished head) :
    (unlockOne state head).inDegree step =
      state.inDegree step - if step = head then 1 else 0 := by
  unfold unlockOne
  rw [if_neg pending]
  by_cases same : step = head
  · subst same
    simp
  · simp [same]

private theorem unlockOne_finished (head step : StepName) :
    (unlockOne state head).Finished step ↔ state.Finished step := by
  unfold unlockOne
  split
  · rfl
  · rfl

theorem unlock_unlocks (dependents : List StepName) (state : RunState Point)
    (covered : ∀ step, ¬ state.Finished step → (dependents.count step : Int) ≤ state.inDegree step) :
    ∃ newly, Unlocks dependents newly state (dependents.foldl unlockOne state) := by
  induction dependents generalizing state with
  | nil => exact ⟨[], by simp, by simp, rfl, nodup_nil, by simp⟩
  | cons head rest ih =>
      rw [foldl_cons]
      by_cases done : state.Finished head
      · have stays : unlockOne state head = state := if_pos done
        have restCovered : ∀ step, ¬ state.Finished step →
            (rest.count step : Int) ≤ state.inDegree step := by
          intro step pending
          have whole := covered step pending
          rw [count_cons] at whole
          split at whole <;> omega
        obtain ⟨newly, unlocks⟩ := ih state restCovered
        have ignored : ∀ step, ¬ state.Finished step →
            (head :: rest).count step = rest.count step := by
          intro step pending
          rw [count_cons_of_ne]
          rintro rfl
          exact pending done
        rw [stays]
        refine ⟨newly, ?_, unlocks.ready, unlocks.frame, unlocks.distinct, ?_⟩
        · intro step
          rw [unlocks.inDegree]
          by_cases closed : state.Finished step
          · rw [if_pos closed, if_pos closed]
          · rw [if_neg closed, if_neg closed, ignored step closed]
        · intro step
          rw [unlocks.opened]
          constructor
          · rintro ⟨member, pending, exactly⟩
            exact ⟨mem_cons_of_mem head member, pending, by rw [ignored step pending, exactly]⟩
          · rintro ⟨member, pending, exactly⟩
            rw [ignored step pending] at exactly
            refine ⟨?_, pending, exactly⟩
            rcases mem_cons.mp member with same | later
            · exact absurd (same ▸ done) pending
            · exact later
      · have covers := covered head done
        rw [count_head, if_pos rfl] at covers
        have restCovered : ∀ step, ¬ (unlockOne state head).Finished step →
            (rest.count step : Int) ≤ (unlockOne state head).inDegree step := by
          intro step pending
          have whole := covered step (fun closed =>
            pending ((unlockOne_finished state head step).mpr closed))
          rw [count_head] at whole
          rw [unlockOne_inDegree state head step done]
          omega
        obtain ⟨newly, unlocks⟩ := ih (unlockOne state head) restCovered
        have finished := unlockOne_finished state head
        have degrees : ∀ step, (rest.foldl unlockOne (unlockOne state head)).inDegree step =
            if state.Finished step then state.inDegree step
            else state.inDegree step - (head :: rest).count step := by
          intro step
          rw [unlocks.inDegree, unlockOne_inDegree state head step done, count_head]
          by_cases closed : state.Finished step
          · have differs : step ≠ head := by
              rintro rfl
              exact done closed
            rw [if_pos ((finished step).mpr closed), if_pos closed, if_neg differs, Int.sub_zero]
          · rw [if_neg (fun early => closed ((finished step).mp early)), if_neg closed]
            omega
        have frame : rest.foldl unlockOne (unlockOne state head) =
            { state with
              inDegree := (rest.foldl unlockOne (unlockOne state head)).inDegree
              ready := (rest.foldl unlockOne (unlockOne state head)).ready } := by
          rw [unlocks.frame]
          simp only [unlockOne, if_neg done]
        by_cases opens : state.inDegree head = 1
        · have last : rest.count head = 0 := by omega
          have absent : head ∉ newly := by
            intro member
            exact count_eq_zero.mp last ((unlocks.opened head).mp member).1
          refine ⟨head :: newly, degrees, ?_, frame, nodup_cons.mpr ⟨absent, unlocks.distinct⟩, ?_⟩
          · rw [unlocks.ready]
            simp [unlockOne, done, opens]
          · intro step
            rw [mem_cons, mem_cons, unlocks.opened, finished,
              unlockOne_inDegree state head step done, count_head]
            by_cases same : step = head
            · subst same
              simp [done, opens, last]
            · simp [same]
        · refine ⟨newly, degrees, ?_, frame, unlocks.distinct, ?_⟩
          · have positive : state.inDegree head - 1 ≠ 0 := by omega
            rw [unlocks.ready]
            simp [unlockOne, done, positive]
          · intro step
            rw [mem_cons, unlocks.opened, finished, unlockOne_inDegree state head step done,
              count_head]
            by_cases same : step = head
            · subst same
              constructor
              · rintro ⟨_, pending, exactly⟩
                exact ⟨.inl rfl, pending, by rw [if_pos rfl] at exactly ⊢; omega⟩
              · rintro ⟨_, pending, exactly⟩
                rw [if_pos rfl] at exactly ⊢
                have more : 0 < rest.count step := by omega
                exact ⟨count_pos_iff.mp more, pending, by omega⟩
            · simp [same]

/-! ### What scheduling changes -/

/-- `after` is `before` with a task created for each of the steps `newly`. -/
structure Spawns (newly : List StepName) (before after : RunState Point) : Prop where
  running : ∀ step, step ∈ after.running ↔ step ∈ before.running ∨ step ∈ newly
  tasks : ∀ step, step ∈ after.tasks ↔ step ∈ before.tasks ∨ step ∈ newly
  task : ∀ step, after.task step = if step ∈ newly then some .created else before.task step
  lifecycle : ∀ step, after.stateManager.getState step =
    if step ∈ newly then .ready else before.stateManager.getState step
  frame : after = { before with
    running := after.running, tasks := after.tasks, task := after.task
    stateManager := after.stateManager, ready := after.ready }

private theorem spawn_ok (pending : state.stateManager.getState step = .pending) :
    state.spawn step = .ok
      { state with
        running := insert step state.running
        stateManager := state.stateManager.setState step .ready
        tasks := insert step state.tasks
        task := update state.task step (some .created) } := by
  have allowed : StepState.ready ∈ allowedTransitions (state.stateManager.getState step) := by
    rw [pending]
    decide
  simp only [spawn, transition_ok allowed]

private theorem scheduleLoop_spawns (queue : List StepName) (state : RunState Point)
    (distinct : queue.Nodup) (unstarted : ∀ step, step ∈ queue → ¬ state.Finished step ∧
      state.stateManager.getState step = .pending) :
    ∃ newly after, scheduleLoop maxConcurrency queue state = .ok after ∧
      Spawns newly state after ∧ queue = newly ++ after.ready ∧
      (after.ready = [] ∨ maxConcurrency ≤ after.running.card) := by
  induction queue generalizing state with
  | nil =>
      refine ⟨[], { state with ready := [] }, rfl, ⟨by simp, by simp, by simp, by simp, rfl⟩, rfl,
        .inl rfl⟩
  | cons head rest ih =>
      rw [nodup_cons] at distinct
      have free := unstarted head mem_cons_self
      by_cases room : (state.running.card : Int) < maxConcurrency
      · have spawned := spawn_ok { state with ready := rest } head free.2
        have restOpen : ∀ step, step ∈ rest →
            ¬ ({ state with
              running := insert head state.running
              ready := rest
              stateManager := state.stateManager.setState head .ready
              tasks := insert head state.tasks
              task := update state.task head (some .created) } :
                RunState Point).Finished step ∧
            (state.stateManager.setState head .ready).getState step = .pending := by
          intro step member
          have differs : step ≠ head := by
            rintro rfl
            exact distinct.1 member
          have free := unstarted step (mem_cons_of_mem head member)
          rw [setState_of_ne _ _ differs]
          exact free
        obtain ⟨newly, after, taken, spawns, queued, full⟩ := ih _ distinct.2 restOpen
        refine ⟨head :: newly, after, ?_, ⟨?_, ?_, ?_, ?_, ?_⟩, ?_, full⟩
        · rw [scheduleLoop, if_pos room, if_neg free.1, spawned]
          exact taken
        · intro step
          rw [spawns.running, Finset.mem_insert, mem_cons]
          tauto
        · intro step
          rw [spawns.tasks, Finset.mem_insert, mem_cons]
          tauto
        · intro step
          rw [spawns.task]
          by_cases same : step = head
          · subst same
            simp
          · simp [same]
        · intro step
          rw [spawns.lifecycle, setState_apply]
          by_cases same : step = head
          · subst same
            simp
          · simp [same]
        · rw [spawns.frame]
        · rw [queued, cons_append]
      · refine ⟨[], { state with ready := head :: rest }, ?_, ⟨by simp, by simp, by simp, by simp,
          rfl⟩, rfl, .inr (not_lt.mp room)⟩
        rw [scheduleLoop, if_neg room]

theorem scheduleReadySteps_spawns (state : RunState Point) (distinct : state.ready.Nodup)
    (pending : ∀ step, step ∈ state.ready → ¬ state.Finished step ∧
      state.stateManager.getState step = .pending) :
    ∃ newly after, state.scheduleReadySteps maxConcurrency = .ok after ∧
      Spawns newly state after ∧ state.ready = newly ++ after.ready ∧
      (after.ready = [] ∨ maxConcurrency ≤ after.running.card) :=
  scheduleLoop_spawns maxConcurrency state.ready state distinct pending

/-! ### What settling a done task changes -/

/-- `after` is `before` with `result` recorded for `step`, before anything is
propagated to other steps. -/
structure Records (step : StepName) (result : StepResult) (before after : RunState Point) :
    Prop where
  running : after.running = before.running.erase step
  completed : after.completed = insert step before.completed
  skipped : ∀ other, other ∈ after.skipped ↔
    other ∈ before.skipped ∨ (other = step ∧ result.status = .skipped)
  results : after.results = update before.results step (some result)
  lifecycle : ∀ other, after.stateManager.getState other =
    if other = step then outcomeState result.status else before.stateManager.getState other
  overall : after.result.overallStatus =
    if result.status = .failed then .failed else before.result.overallStatus
  context : ∀ other, other ∈ after.ctx.completedSteps ↔
    other ∈ before.ctx.completedSteps ∨ (other = step ∧ result.status = .skipped)
  failedSteps : after.ctx.failedSteps = before.ctx.failedSteps
  metadata : after.result.metadata = before.result.metadata
  inDegree : after.inDegree = before.inDegree
  ready : after.ready = before.ready
  tasks : after.tasks = before.tasks
  task : after.task = before.task
  cancelRequested : after.cancelRequested = before.cancelRequested
  updates : after.updates = before.updates

end RunState

theorem failNonterminal_status (result : StepResult) : (failNonterminal result).status =
    if result.status.Terminal then result.status else .failed := by
  unfold failNonterminal
  split
  · rfl
  · rfl

theorem TaskOutcome.settle_terminal (step : StepName) (outcome : TaskOutcome) :
    (outcome.settle step).status.Terminal := by
  cases outcome with
  | returned result =>
      rw [settle, failNonterminal_status]
      split
      · assumption
      · decide
  | raised errorType message =>
      change StepStatus.Terminal .failed
      decide

namespace RunState

variable {Point : Type}

private theorem recordTaskException_cascade (dag : DAG) (step : StepName)
    (errorType message : String) (state : RunState Point) :
    ∃ middle newly, Records step (exceptionResult step errorType message) state middle ∧
      Cascade dag "unhandled exception" [step] newly middle
        (state.recordTaskException dag step errorType message) := by
  have status : (exceptionResult step errorType message).status = .failed := rfl
  obtain ⟨newly, cascade⟩ := cascadeSkip_cascade dag step "unhandled exception"
    (setOverallFailed
      { state.record step (exceptionResult step errorType message) with
        stateManager := state.stateManager.setState step .failed })
  refine ⟨_, newly, ?_, cascade⟩
  constructor
  case skipped => intro other; simp [status, setOverallFailed, record]
  case lifecycle => intro other; exact setState_apply _ _ _ _
  case overall => rw [status]; rfl
  case context => intro other; simp [status, setOverallFailed, record]
  all_goals rfl

private theorem outcomeState_allowed (status : StepStatus) :
    outcomeState status ∈ allowedTransitions .running := by
  cases status <;> decide

private theorem transitionOutcomeState_ok (step : StepName) (result : StepResult)
    (state : RunState Point) (running : state.stateManager.getState step = .running) :
    ∃ moved, (state.record step result).transitionOutcomeState step result = .ok moved ∧
      (result.status ≠ .failed → Records step result state moved) ∧
      (result.status = .failed → Records step result state moved.setOverallFailed) := by
  have allowed : outcomeState result.status ∈
      allowedTransitions ((state.record step result).stateManager.getState step) := by
    change outcomeState result.status ∈ allowedTransitions (state.stateManager.getState step)
    rw [running]
    exact outcomeState_allowed result.status
  simp only [transitionOutcomeState, transition_ok allowed]
  refine ⟨_, rfl, ?_, ?_⟩
  · intro notFailed
    by_cases skips : result.status = .skipped
    · rw [if_pos skips]
      constructor
      case skipped => intro other; simp [skips, record, or_comm]
      case lifecycle => intro other; exact setState_apply _ _ _ _
      case overall => exact WorkflowResult.addStep_overallStatus _ _
      case context => intro other; simp [skips, record]
      all_goals rfl
    · rw [if_neg skips]
      constructor
      case skipped => intro other; simp [skips, record]
      case lifecycle => intro other; exact setState_apply _ _ _ _
      case overall => exact WorkflowResult.addStep_overallStatus _ _
      case context => intro other; simp [skips, record]
      all_goals rfl
  · intro failed
    have skips : result.status ≠ .skipped := by
      rw [failed]
      decide
    rw [if_neg skips]
    constructor
    case skipped => intro other; simp [skips, record, setOverallFailed]
    case lifecycle => intro other; exact setState_apply _ _ _ _
    case overall => rw [if_pos failed]; rfl
    case context => intro other; simp [skips, record, setOverallFailed]
    all_goals rfl

/-- What recording a done task comes to: its result is recorded, and then either
the failure cascades or the dependents are unlocked. -/
inductive Settled (dag : DAG) (step : StepName) (result : StepResult)
    (before after : RunState Point) : Prop where
  | failed (middle : RunState Point) (reason : String) (newly : List StepName)
      (records : Records step result before middle) (failed : result.status = .failed)
      (cascade : Cascade dag reason [step] newly middle after)
  | passed (middle : RunState Point) (records : Records step result before middle)
      (passed : result.status ≠ .failed) (unlocked : after = middle.unlockDownstream dag step)

theorem recordDoneTask_settled (dag : DAG) (step : StepName) (outcome : TaskOutcome)
    (state : RunState Point) (running : state.stateManager.getState step = .running) :
    ∃ after, state.recordDoneTask dag step outcome = .ok after ∧
      Settled dag step (outcome.settle step) state after := by
  cases outcome with
  | raised errorType message =>
      obtain ⟨middle, newly, records, cascade⟩ :=
        recordTaskException_cascade dag step errorType message state
      exact ⟨_, rfl, .failed middle _ newly records rfl cascade⟩
  | returned raw =>
      obtain ⟨moved, taken, passes, fails⟩ :=
        transitionOutcomeState_ok step (failNonterminal raw) state running
      simp only [recordDoneTask, recordTaskResult, taken, StepResult.isFailed]
      by_cases failed : (failNonterminal raw).status = .failed
      · obtain ⟨newly, cascade⟩ :=
          cascadeSkip_cascade dag step "dependency failed" moved.setOverallFailed
        simp only [failed, decide_true, if_true]
        exact ⟨_, rfl, .failed _ _ newly (fails failed) failed cascade⟩
      · simp only [failed, decide_false]
        exact ⟨_, rfl, .passed moved (passes failed) failed rfl⟩

end RunState

end AgenticRuntime
