/-
The invariant of the scheduling loop: what ties the in-degrees, the ready queue,
the running set, the tasks, the lifecycle and the results together between any
two awaits, also in the middle of a batch of done tasks.
-/

import AgenticRuntime.Engine.DagExecutor
import AgenticRuntime.Engine.Settlement

namespace AgenticRuntime

open List Function

namespace RunState

variable {Point : Type}

/-- A result that keeps the dependents of `dep` from running. A step that was
skipped without ever having a task was skipped by a cascade. -/
def Blocks (state : RunState Point) (dep : StepName) : Prop :=
  ∃ result, state.results dep = some result ∧
    (result.status = .failed ∨ (result.status = .skipped ∧ state.task dep = none))

def phaseState : Option (TaskPhase Point) → StepState
  | none => .pending
  | some .created => .ready
  | some _ => .running

def openDependencies (dag : DAG) (state : RunState Point) (step : StepName) : Nat :=
  (dag.dependsOn step).countP fun dep => dep ∉ state.completed

/-- `batch` are the done tasks of the current batch whose turn has not come: they
have left `tasks` but not `running`. -/
structure Consistent (dag : DAG) (batch : List StepName) (state : RunState Point) : Prop where
  recorded : ∀ step, step ∈ state.completed ↔ state.results step ≠ none
  skipped : ∀ step, step ∈ state.skipped → step ∈ state.completed
  registered : ∀ step, step ∈ state.completed ∨ state.task step ≠ none → step ∈ dag.stepNames
  degree : ∀ step, step ∉ state.completed →
    state.inDegree step = state.openDependencies dag step
  unblocked : ∀ step, step ∉ state.completed →
    ∀ dep, dep ∈ dag.dependsOn step → ¬ state.Blocks dep
  readyDistinct : state.ready.Nodup
  ready : ∀ step, step ∈ state.ready ↔ step ∈ dag.stepNames ∧ step ∉ state.completed ∧
    state.task step = none ∧ state.inDegree step = 0
  running : ∀ step, step ∈ state.running ↔ state.task step ≠ none ∧ step ∉ state.completed
  tasks : ∀ step, step ∈ state.tasks ↔ step ∈ state.running ∧ step ∉ batch
  batchDone : ∀ step, step ∈ batch → step ∈ state.running ∧ TaskPhase.isDone (state.task step)
  batchDistinct : batch.Nodup
  supported : ∀ step, state.task step ≠ none →
    ∀ dep, dep ∈ dag.dependsOn step → dep ∈ state.completed ∧ ¬ state.Blocks dep
  lifecycle : ∀ step, step ∉ state.completed →
    state.stateManager.getState step = phaseState (state.task step)
  executed : ∀ step, step ∈ state.completed → state.task step ≠ none →
    TaskPhase.isDone (state.task step) ∧
      state.results step = some ((TaskPhase.result (state.task step)).settle step)
  cascaded : ∀ step, step ∈ state.completed → state.task step = none →
    (∃ reason, state.results step = some (skipResult step reason)) ∧
      ∃ dep, dep ∈ dag.dependsOn step ∧ state.Blocks dep
  overall : state.result.overallStatus = .running ∧
      (∀ step result, state.results step = some result → result.status ≠ .failed) ∨
    state.result.overallStatus = .failed ∧
      ∃ step result, state.results step = some result ∧ result.status = .failed

structure SameSchedule (before after : RunState Point) : Prop where
  stateManager : after.stateManager = before.stateManager
  overall : after.result.overallStatus = before.result.overallStatus
  inDegree : after.inDegree = before.inDegree
  ready : after.ready = before.ready
  running : after.running = before.running
  completed : after.completed = before.completed
  skipped : after.skipped = before.skipped
  results : after.results = before.results
  tasks : after.tasks = before.tasks
  task : after.task = before.task

theorem SameSchedule.refl (state : RunState Point) : SameSchedule state state :=
  ⟨rfl, rfl, rfl, rfl, rfl, rfl, rfl, rfl, rfl, rfl⟩

theorem noteObserver_same (observerRaised : Bool) (state : RunState Point) :
    SameSchedule state (state.noteObserver observerRaised) := by
  unfold noteObserver
  split
  · exact ⟨rfl, rfl, rfl, rfl, rfl, rfl, rfl, rfl, rfl, rfl⟩
  · exact SameSchedule.refl state

theorem notify_same (state : RunState Point) (update : Update) :
    SameSchedule state (state.notify update) :=
  ⟨rfl, rfl, rfl, rfl, rfl, rfl, rfl, rfl, rfl, rfl⟩

theorem markContextFailed_same (step : StepName) (state : RunState Point) :
    SameSchedule state (state.markContextFailed step) :=
  ⟨rfl, rfl, rfl, rfl, rfl, rfl, rfl, rfl, rfl, rfl⟩

namespace Consistent

variable {dag : DAG} {batch : List StepName} {state : RunState Point}

theorem transfer {after : RunState Point} (consistent : Consistent dag batch state)
    (same : SameSchedule state after) : Consistent dag batch after := by
  obtain ⟨manager, overall, inDegree, ready, running, completed, skipped, results, tasks, task⟩ :=
    same
  constructor
  case recorded => rw [completed, results]; exact consistent.recorded
  case skipped => rw [completed, skipped]; exact consistent.skipped
  case registered => rw [completed, task]; exact consistent.registered
  case degree =>
    simp only [openDependencies, completed, inDegree]
    exact consistent.degree
  case unblocked =>
    simp only [Blocks, completed, results, task]
    exact consistent.unblocked
  case readyDistinct => rw [ready]; exact consistent.readyDistinct
  case ready => rw [ready, completed, task, inDegree]; exact consistent.ready
  case running => rw [running, completed, task]; exact consistent.running
  case tasks => rw [tasks, running]; exact consistent.tasks
  case batchDone => rw [running, task]; exact consistent.batchDone
  case batchDistinct => exact consistent.batchDistinct
  case supported =>
    simp only [Blocks, completed, results, task]
    exact consistent.supported
  case lifecycle => rw [manager, completed, task]; exact consistent.lifecycle
  case executed => rw [completed, results, task]; exact consistent.executed
  case cascaded =>
    simp only [Blocks, completed, results, task]
    exact consistent.cascaded
  case overall => rw [overall, results]; exact consistent.overall

theorem not_recorded (consistent : Consistent dag batch state) {step : StepName}
    (unfinished : step ∉ state.completed) : state.results step = none := by
  by_contra recorded
  exact unfinished ((consistent.recorded step).mpr recorded)

theorem terminal (consistent : Consistent dag batch state) {step : StepName}
    {result : StepResult} (recorded : state.results step = some result) :
    result.status.Terminal := by
  have done : step ∈ state.completed := by
    rw [consistent.recorded, recorded]
    exact Option.some_ne_none result
  by_cases unstarted : state.task step = none
  · obtain ⟨⟨reason, skips⟩, _⟩ := consistent.cascaded step done unstarted
    rw [recorded, Option.some.injEq] at skips
    rw [skips]
    exact (by decide : StepStatus.Terminal .skipped)
  · have settled := (consistent.executed step done unstarted).2
    rw [recorded, Option.some.injEq] at settled
    rw [settled]
    exact TaskOutcome.settle_terminal step _

theorem degree_zero_iff (consistent : Consistent dag batch state) {step : StepName}
    (unfinished : step ∉ state.completed) :
    state.inDegree step = 0 ↔ ∀ dep, dep ∈ dag.dependsOn step → dep ∈ state.completed := by
  rw [consistent.degree step unfinished, Int.natCast_eq_zero, openDependencies, countP_eq_zero]
  simp

/-! ### A move of a step task -/

end Consistent

/-- `after` is `before` with the task of `step` moved on to `phase`. -/
structure Moves (step : StepName) (phase : TaskPhase Point) (before after : RunState Point) :
    Prop where
  lifecycle : ∀ other, after.stateManager.getState other =
    if other = step then .running else before.stateManager.getState other
  task : after.task = update before.task step (some phase)
  overall : after.result.overallStatus = before.result.overallStatus
  inDegree : after.inDegree = before.inDegree
  ready : after.ready = before.ready
  running : after.running = before.running
  completed : after.completed = before.completed
  skipped : after.skipped = before.skipped
  results : after.results = before.results
  tasks : after.tasks = before.tasks

namespace Consistent

variable {dag : DAG} {batch : List StepName} {state : RunState Point} {step : StepName}

theorem not_completed_of_not_done (consistent : Consistent dag batch state) {old : TaskPhase Point}
    (current : state.task step = some old) (moving : TaskPhase.isDone (some old) = false) :
    step ∉ state.completed := by
  intro done
  have ended := (consistent.executed step done (by rw [current]; exact Option.some_ne_none old)).1
  rw [current, moving] at ended
  cases ended

theorem move {old phase : TaskPhase Point} {after : RunState Point}
    (consistent : Consistent dag batch state) (current : state.task step = some old)
    (moving : TaskPhase.isDone (some old) = false) (begun : phase ≠ .created)
    (moves : Moves step phase state after) : Consistent dag batch after := by
  have unfinished := consistent.not_completed_of_not_done current moving
  have present : ∀ other, after.task other = none ↔ state.task other = none := by
    intro other
    rw [moves.task, update_apply]
    by_cases same : other = step
    · subst same
      simp [current]
    · simp [same]
  have finishedTask : ∀ other, other ∈ state.completed → after.task other = state.task other := by
    intro other done
    have differs : other ≠ step := by
      intro same
      exact unfinished (same ▸ done)
    rw [moves.task, update_of_ne differs]
  have blocks : ∀ other, after.Blocks other ↔ state.Blocks other := by
    intro other
    simp only [Blocks, moves.results, present]
  constructor
  case recorded => rw [moves.completed, moves.results]; exact consistent.recorded
  case skipped => rw [moves.completed, moves.skipped]; exact consistent.skipped
  case registered =>
    intro other
    rw [moves.completed, Ne, present]
    exact consistent.registered other
  case degree =>
    simp only [openDependencies, moves.completed, moves.inDegree]
    exact consistent.degree
  case unblocked =>
    simp only [blocks, moves.completed]
    exact consistent.unblocked
  case readyDistinct => rw [moves.ready]; exact consistent.readyDistinct
  case ready =>
    intro other
    rw [moves.ready, moves.completed, present, moves.inDegree]
    exact consistent.ready other
  case running =>
    intro other
    rw [moves.running, moves.completed, Ne, present]
    exact consistent.running other
  case tasks => rw [moves.tasks, moves.running]; exact consistent.tasks
  case batchDone =>
    intro other member
    have held := consistent.batchDone other member
    have differs : other ≠ step := by
      rintro rfl
      rw [current, moving] at held
      cases held.2
    rw [moves.running, moves.task, update_of_ne differs]
    exact held
  case batchDistinct => exact consistent.batchDistinct
  case supported =>
    intro other started
    rw [Ne, present] at started
    simp only [blocks, moves.completed]
    exact consistent.supported other started
  case lifecycle =>
    intro other unrecorded
    rw [moves.completed] at unrecorded
    rw [moves.lifecycle, moves.task, update_apply]
    by_cases same : other = step
    · rw [if_pos same, if_pos same]
      cases phase with
      | created => exact absurd rfl begun
      | starting => rfl
      | executing point => rfl
      | done outcome => rfl
    · rw [if_neg same, if_neg same]
      exact consistent.lifecycle other unrecorded
  case executed =>
    intro other done
    rw [moves.completed] at done
    rw [finishedTask other done, moves.results]
    exact consistent.executed other done
  case cascaded =>
    intro other done
    rw [moves.completed] at done
    simp only [finishedTask other done, moves.results, blocks]
    exact consistent.cascaded other done
  case overall => rw [moves.overall, moves.results]; exact consistent.overall

/-! ### Scheduling and taking a batch -/

theorem spawn {newly : List StepName} {after : RunState Point}
    (consistent : Consistent dag [] state) (spawns : Spawns newly state after)
    (queued : state.ready = newly ++ after.ready) : Consistent dag [] after := by
  have frame := spawns.frame
  have completed : after.completed = state.completed := by rw [frame]
  have skipped : after.skipped = state.skipped := by rw [frame]
  have results : after.results = state.results := by rw [frame]
  have inDegree : after.inDegree = state.inDegree := by rw [frame]
  have overall : after.result.overallStatus = state.result.overallStatus := by rw [frame]
  have distinct := consistent.readyDistinct
  rw [queued, nodup_append] at distinct
  have idle : ∀ step, step ∈ newly → step ∈ dag.stepNames ∧ step ∉ state.completed ∧
      state.task step = none ∧ state.inDegree step = 0 := by
    intro step member
    apply (consistent.ready step).mp
    rw [queued]
    exact mem_append_left _ member
  have started : ∀ step, after.task step ≠ none ↔ state.task step ≠ none ∨ step ∈ newly := by
    intro step
    rw [spawns.task]
    by_cases fresh : step ∈ newly
    · simp [fresh]
    · simp [fresh]
  have finishedTask : ∀ step, step ∈ state.completed → after.task step = state.task step := by
    intro step done
    rw [spawns.task, if_neg (fun member => (idle step member).2.1 done)]
  have blocks : ∀ step, after.Blocks step ↔ state.Blocks step := by
    intro step
    by_cases done : step ∈ state.completed
    · simp only [Blocks, results, finishedTask step done]
    · simp [Blocks, results, consistent.not_recorded done]
  constructor
  case recorded => rw [completed, results]; exact consistent.recorded
  case skipped => rw [completed, skipped]; exact consistent.skipped
  case registered =>
    intro step
    rw [completed, started]
    rintro (done | old | fresh)
    · exact consistent.registered step (.inl done)
    · exact consistent.registered step (.inr old)
    · exact (idle step fresh).1
  case degree =>
    simp only [openDependencies, completed, inDegree]
    exact consistent.degree
  case unblocked =>
    simp only [blocks, completed]
    exact consistent.unblocked
  case readyDistinct => exact distinct.2.1
  case ready =>
    intro step
    have before := consistent.ready step
    rw [queued, mem_append] at before
    rw [completed, inDegree, spawns.task]
    by_cases fresh : step ∈ newly
    · have left : step ∉ after.ready := fun member =>
        distinct.2.2 step fresh step member rfl
      simp [fresh, left]
    · rw [if_neg fresh, ← before]
      simp [fresh]
  case running =>
    intro step
    rw [spawns.running, started, completed, consistent.running]
    by_cases fresh : step ∈ newly
    · simp [fresh, (idle step fresh).2.1]
    · simp [fresh]
  case tasks =>
    intro step
    rw [spawns.tasks, spawns.running, consistent.tasks]
    simp
  case batchDone => simp
  case batchDistinct => exact nodup_nil
  case supported =>
    intro step
    rw [started, completed]
    simp only [blocks]
    rintro (old | fresh)
    · exact consistent.supported step old
    · intro dep edge
      have opened := idle step fresh
      exact ⟨(consistent.degree_zero_iff opened.2.1).mp opened.2.2.2 dep edge,
        consistent.unblocked step opened.2.1 dep edge⟩
  case lifecycle =>
    intro step unfinished
    rw [completed] at unfinished
    rw [spawns.lifecycle, spawns.task]
    by_cases fresh : step ∈ newly
    · rw [if_pos fresh, if_pos fresh]
      rfl
    · rw [if_neg fresh, if_neg fresh]
      exact consistent.lifecycle step unfinished
  case executed =>
    intro step done
    rw [completed] at done
    rw [finishedTask step done, results]
    exact consistent.executed step done
  case cascaded =>
    intro step done
    rw [completed] at done
    simp only [finishedTask step done, results, blocks]
    exact consistent.cascaded step done
  case overall => rw [overall, results]; exact consistent.overall

theorem wake {done : List StepName} (consistent : Consistent dag [] state)
    (taken : state.Batch done) :
    Consistent dag done { state with tasks := state.tasks \ done.toFinset } := by
  obtain ⟨_, distinct, members⟩ := taken
  have chosen : ∀ step, step ∈ done ↔
      step ∈ state.tasks ∧ TaskPhase.isDone (state.task step) = true := by
    intro step
    rw [← mem_toFinset, members, Finset.mem_filter]
  constructor
  case tasks =>
    intro step
    rw [Finset.mem_sdiff, mem_toFinset, consistent.tasks]
    simp
  case batchDone =>
    intro step member
    have done := (chosen step).mp member
    exact ⟨((consistent.tasks step).mp done.1).1, done.2⟩
  case batchDistinct => exact distinct
  case recorded => exact consistent.recorded
  case skipped => exact consistent.skipped
  case registered => exact consistent.registered
  case degree => exact consistent.degree
  case unblocked => exact consistent.unblocked
  case readyDistinct => exact consistent.readyDistinct
  case ready => exact consistent.ready
  case running => exact consistent.running
  case supported => exact consistent.supported
  case lifecycle => exact consistent.lifecycle
  case executed => exact consistent.executed
  case cascaded => exact consistent.cascaded
  case overall => exact consistent.overall

/-! ### Settling -/

private theorem countP_insert (completed : Finset StepName) (step : StepName)
    (unfinished : step ∉ completed) (deps : List StepName) :
    (deps.countP fun dep => dep ∉ insert step completed) + deps.count step =
      deps.countP fun dep => dep ∉ completed := by
  induction deps with
  | nil => rfl
  | cons head rest ih =>
      rw [countP_cons, countP_cons, count_cons]
      by_cases same : head = step
      · subst same
        have inside : ¬ decide (head ∉ insert head completed) = true := by simp
        have outside : decide (head ∉ completed) = true := decide_eq_true unfinished
        rw [if_neg inside, if_pos outside, if_pos (beq_self_eq_true head)]
        omega
      · have either : (head ∉ insert step completed) ↔ head ∉ completed := by
          simp [same]
        simp only [either, beq_iff_eq, same, if_false]
        omega

private theorem count_le_degree (consistent : Consistent dag batch state)
    (unfinished : step ∉ state.completed) (other : StepName) (waiting : other ∉ state.completed) :
    ((dag.dependsOn other).count step : Int) ≤ state.inDegree other := by
  rw [consistent.degree other waiting, openDependencies,
    ← countP_insert state.completed step unfinished]
  omega

theorem head_task {rest : List StepName} (consistent : Consistent dag (step :: rest) state) :
    ∃ outcome, state.task step = some (.done outcome) := by
  have ended := (consistent.batchDone step mem_cons_self).2
  cases current : state.task step with
  | none =>
      rw [current] at ended
      cases ended
  | some phase =>
      rw [current] at ended
      cases phase with
      | done outcome => exact ⟨outcome, rfl⟩
      | created => cases ended
      | starting => cases ended
      | executing point => cases ended

theorem record_head {rest : List StepName} (consistent : Consistent dag (step :: rest) state)
    (outcome : TaskOutcome) :
    ∃ after reason newly, state.recordDoneTask dag step outcome = .ok after ∧
      Settlement dag step (outcome.settle step) reason newly state after := by
  have member := (consistent.batchDone step mem_cons_self).1
  have unfinished := ((consistent.running step).mp member).2
  obtain ⟨ended, current⟩ := consistent.head_task
  apply recordDoneTask_settlement
  · rw [consistent.lifecycle step unfinished, current]
    rfl
  · exact consistent.skipped
  · exact consistent.count_le_degree unfinished

theorem settle {rest : List StepName} {result : StepResult} {reason : String}
    {newly : List StepName} {after : RunState Point}
    (consistent : Consistent dag (step :: rest) state)
    (settledAs : result = (TaskPhase.result (state.task step)).settle step)
    (settlement : Settlement dag step result reason newly state after) :
    Consistent dag rest after := by
  have member := (consistent.batchDone step mem_cons_self).1
  have hasTask := ((consistent.running step).mp member).1
  have unfinished := ((consistent.running step).mp member).2
  have isDone := (consistent.batchDone step mem_cons_self).2
  have distinct := consistent.batchDistinct
  rw [nodup_cons] at distinct
  have skippedIdle : ∀ other, other ∈ newly → other ∈ dag.stepNames ∧
      other ∉ state.completed ∧ state.task other = none ∧ state.inDegree other ≠ 0 := by
    intro other skips
    have waiting := (settlement.fresh other skips).1
    obtain ⟨_, cause, source, edge⟩ := settlement.caused other skips
    have causeOpen : cause ∉ state.completed := by
      rcases source with same | chained
      · exact same ▸ unfinished
      · exact (settlement.fresh cause chained).1
    refine ⟨dag.mem_stepNames_of_dependsOn edge, waiting, ?_, ?_⟩
    · by_contra started
      exact causeOpen (consistent.supported other started cause edge).1
    · intro zero
      exact causeOpen ((consistent.degree_zero_iff waiting).mp zero cause edge)
  have resultOld : ∀ other, other ∈ state.completed → after.results other = state.results other := by
    intro other done
    have notNew : other ∉ newly := fun skips => (settlement.fresh other skips).1 done
    have differs : other ≠ step := by
      rintro rfl
      exact unfinished done
    rw [settlement.results, if_neg notNew, if_neg differs]
  have resultStep : after.results step = some result := by
    have notNew : step ∉ newly := fun skips => (settlement.fresh step skips).2 rfl
    rw [settlement.results, if_neg notNew, if_pos rfl]
  have blocksOld : ∀ dep, dep ∈ state.completed → (after.Blocks dep ↔ state.Blocks dep) := by
    intro dep done
    simp only [Blocks, resultOld dep done, settlement.task]
  have blocksStep : after.Blocks step → result.status = .failed := by
    rintro ⟨recorded, found, failed | ⟨_, impossible⟩⟩
    · rw [resultStep, Option.some.injEq] at found
      exact found ▸ failed
    · rw [settlement.task] at impossible
      exact absurd impossible hasTask
  have sealed : result.status = .failed → ∀ cause, cause = step ∨ cause ∈ newly →
      ∀ other, other ∉ after.completed → cause ∉ dag.dependsOn other := by
    intro failed cause source other waiting edge
    exact waiting ((settlement.cascade failed).2.2 cause source other edge)
  constructor
  case recorded =>
    intro other
    rw [settlement.completed, settlement.results, consistent.recorded]
    by_cases skips : other ∈ newly
    · simp [skips]
    · by_cases same : other = step
      · subst same
        simp [skips]
      · simp [skips, same]
  case skipped =>
    intro other skips
    rw [settlement.completed]
    rcases settlement.skipped other skips with old | new
    · exact .inl (consistent.skipped other old)
    · exact .inr new
  case registered =>
    intro other
    rw [settlement.completed, settlement.task]
    rintro ((old | same | skips) | started)
    · exact consistent.registered other (.inl old)
    · exact same ▸ consistent.registered step (.inr hasTask)
    · exact (skippedIdle other skips).1
    · exact consistent.registered other (.inr started)
  case degree =>
    intro other waiting
    have early : other ∉ state.completed := fun done =>
      waiting ((settlement.completed other).mpr (.inl done))
    by_cases failed : result.status = .failed
    · have same : (dag.dependsOn other).countP (fun dep => dep ∉ after.completed) =
          (dag.dependsOn other).countP fun dep => dep ∉ state.completed := by
        apply countP_congr
        intro dep edge
        have notCause : ¬ (dep = step ∨ dep ∈ newly) := fun source =>
          sealed failed dep source other waiting edge
        rw [not_or] at notCause
        simp [settlement.completed, notCause.1, notCause.2]
      rw [(settlement.cascade failed).1, openDependencies, same]
      exact consistent.degree other early
    · obtain ⟨none, lowered, _⟩ := settlement.unlock failed
      subst none
      have inserted : (dag.dependsOn other).countP (fun dep => dep ∉ after.completed) =
          (dag.dependsOn other).countP fun dep => dep ∉ insert step state.completed := by
        apply countP_congr
        intro dep _
        simp [settlement.completed, or_comm]
      have counted := countP_insert state.completed step unfinished (dag.dependsOn other)
      rw [lowered other waiting, consistent.degree other early, openDependencies, openDependencies,
        inserted]
      omega
  case unblocked =>
    intro other waiting dep edge blocks
    have early : other ∉ state.completed := fun done =>
      waiting ((settlement.completed other).mpr (.inl done))
    by_cases old : dep ∈ state.completed
    · exact consistent.unblocked other early dep edge ((blocksOld dep old).mp blocks)
    · have source : dep = step ∨ dep ∈ newly := by
        obtain ⟨recorded, found, _⟩ := blocks
        by_contra outside
        rw [not_or] at outside
        rw [settlement.results, if_neg outside.2, if_neg outside.1,
          consistent.not_recorded old] at found
        cases found
      have failed : result.status = .failed := by
        rcases source with same | skips
        · exact blocksStep (same ▸ blocks)
        · exact (settlement.caused dep skips).1
      exact sealed failed dep source other waiting edge
  case readyDistinct =>
    by_cases failed : result.status = .failed
    · rw [(settlement.cascade failed).2.1]
      exact consistent.readyDistinct
    · obtain ⟨_, _, opened, queued, opensOnce, opens⟩ := settlement.unlock failed
      rw [queued, nodup_append]
      refine ⟨consistent.readyDistinct, opensOnce, ?_⟩
      rintro other earlier _ later rfl
      have zero := ((consistent.ready other).mp earlier).2.2.2
      obtain ⟨edge, _, exactly⟩ := (opens other).mp later
      have positive := count_pos_iff.mpr edge
      omega
  case ready =>
    intro other
    have old := consistent.ready other
    rw [settlement.task]
    by_cases failed : result.status = .failed
    · rw [(settlement.cascade failed).1, (settlement.cascade failed).2.1, old, settlement.completed]
      constructor
      · rintro ⟨registered, waiting, idle, zero⟩
        refine ⟨registered, ?_, idle, zero⟩
        rintro (done | same | skips)
        · exact waiting done
        · exact hasTask (same ▸ idle)
        · exact (skippedIdle other skips).2.2.2 zero
      · rintro ⟨registered, waiting, idle, zero⟩
        exact ⟨registered, fun done => waiting (.inl done), idle, zero⟩
    · obtain ⟨none, lowered, opened, queued, _, opens⟩ := settlement.unlock failed
      subst none
      rw [queued, mem_append, old, opens]
      constructor
      · rintro (⟨registered, waiting, idle, zero⟩ | ⟨edge, waiting, exactly⟩)
        · have later : other ∉ after.completed := by
            rw [settlement.completed]
            rintro (done | same | impossible)
            · exact waiting done
            · exact hasTask (same ▸ idle)
            · cases impossible
          have covered := consistent.count_le_degree unfinished other waiting
          refine ⟨registered, later, idle, ?_⟩
          rw [lowered other later]
          omega
        · refine ⟨dag.mem_stepNames_of_dependsOn edge, waiting, ?_, ?_⟩
          · by_contra started
            exact unfinished (consistent.supported other started step edge).1
          · rw [lowered other waiting]
            omega
      · rintro ⟨registered, waiting, idle, zero⟩
        have early : other ∉ state.completed := fun done =>
          waiting ((settlement.completed other).mpr (.inl done))
        rw [lowered other waiting] at zero
        by_cases edge : step ∈ dag.dependsOn other
        · exact .inr ⟨edge, waiting, by omega⟩
        · rw [count_eq_zero.mpr edge] at zero
          exact .inl ⟨registered, early, idle, by omega⟩
  case running =>
    intro other
    rw [settlement.running, Finset.mem_erase, settlement.task, consistent.running,
      settlement.completed]
    constructor
    · rintro ⟨differs, started, waiting⟩
      refine ⟨started, ?_⟩
      rintro (done | same | skips)
      · exact waiting done
      · exact differs same
      · exact started (skippedIdle other skips).2.2.1
    · rintro ⟨started, waiting⟩
      exact ⟨fun same => waiting (.inr (.inl same)), started,
        fun done => waiting (.inl done)⟩
  case tasks =>
    intro other
    rw [settlement.tasks, settlement.running, Finset.mem_erase, consistent.tasks, List.mem_cons]
    tauto
  case batchDone =>
    intro other later
    have held := consistent.batchDone other (mem_cons_of_mem step later)
    have differs : other ≠ step := by
      rintro rfl
      exact distinct.1 later
    rw [settlement.running, settlement.task, Finset.mem_erase]
    exact ⟨⟨differs, held.1⟩, held.2⟩
  case batchDistinct => exact distinct.2
  case supported =>
    intro other started dep edge
    rw [settlement.task] at started
    have held := consistent.supported other started dep edge
    exact ⟨(settlement.completed dep).mpr (.inl held.1),
      fun blocks => held.2 ((blocksOld dep held.1).mp blocks)⟩
  case lifecycle =>
    intro other waiting
    rw [settlement.completed, not_or, not_or] at waiting
    rw [settlement.lifecycle other waiting.2.1 waiting.2.2, settlement.task]
    exact consistent.lifecycle other waiting.1
  case executed =>
    intro other done started
    rw [settlement.task] at started
    rw [settlement.task]
    rcases (settlement.completed other).mp done with old | same | skips
    · rw [resultOld other old]
      exact consistent.executed other old started
    · subst same
      rw [resultStep, settledAs]
      exact ⟨isDone, rfl⟩
    · exact absurd (skippedIdle other skips).2.2.1 started
  case cascaded =>
    intro other done idle
    rw [settlement.task] at idle
    rcases (settlement.completed other).mp done with old | same | skips
    · obtain ⟨shape, dep, edge, blocks⟩ := consistent.cascaded other old idle
      have depDone : dep ∈ state.completed := by
        obtain ⟨recorded, found, _⟩ := blocks
        rw [consistent.recorded, found]
        exact Option.some_ne_none recorded
      rw [resultOld other old]
      exact ⟨shape, dep, edge, (blocksOld dep depDone).mpr blocks⟩
    · exact absurd (same ▸ idle) hasTask
    · obtain ⟨failed, cause, source, edge⟩ := settlement.caused other skips
      refine ⟨⟨reason, by rw [settlement.results, if_pos skips]⟩, cause, edge, ?_⟩
      rcases source with same | chained
      · subst same
        exact ⟨result, resultStep, .inl failed⟩
      · refine ⟨skipResult cause reason, ?_, .inr ⟨rfl, ?_⟩⟩
        · rw [settlement.results, if_pos chained]
        · rw [settlement.task]
          exact (skippedIdle cause chained).2.2.1
  case overall =>
    rw [settlement.overall]
    by_cases failed : result.status = .failed
    · exact .inr ⟨if_pos failed, step, result, resultStep, failed⟩
    · rw [if_neg failed]
      obtain ⟨none, _⟩ := settlement.unlock failed
      subst none
      rcases consistent.overall with ⟨running, clean⟩ | ⟨failing, other, recorded, found, status⟩
      · refine .inl ⟨running, ?_⟩
        intro other recorded found
        rw [settlement.results, if_neg (by simp)] at found
        split at found
        · rw [Option.some.injEq] at found
          exact found ▸ failed
        · exact clean other recorded found
      · refine .inr ⟨failing, other, recorded, ?_, status⟩
        have done : other ∈ state.completed := by
          rw [consistent.recorded, found]
          exact Option.some_ne_none recorded
        rw [resultOld other done]
        exact found

end Consistent

end RunState

end AgenticRuntime
