/-
Every run of `execute` over step tasks that end is finite and ends by returning.

A measure falls with every move: how far the step tasks have got, how many steps
have no result yet, and where the scheduler awaits.
-/

import Mathlib.Algebra.BigOperators.Group.Finset.Basic
import Mathlib.Algebra.Order.BigOperators.Group.Finset
import AgenticRuntime.Engine.RunInvariant

namespace AgenticRuntime

open RunState List Function Option

namespace DAGExecutor

variable {Point Input : Type}

/-! ### The measure -/

def phaseCost (rank : Point → Nat) (bound : Nat) : Option (TaskPhase Point) → Nat
  | none => bound + 3
  | some .created => bound + 2
  | some .starting => bound + 1
  | some (.executing point) => 1 + rank point
  | some (.done _) => 0

def taskWork (rank : Point → Nat) (bound : Nat) (dag : DAG) (state : RunState Point) : Nat :=
  dag.stepNames.toFinset.sum fun step => phaseCost rank bound (state.task step)

def unrecorded (dag : DAG) (state : RunState Point) : Finset StepName :=
  dag.stepNames.toFinset.filter fun step => (state.results step).isNone

/-- Each recorded step pays for the awaits of its own handling; before a timeout
the cancellations it would request are paid for in advance. -/
def controlCost (dag : DAG) (state : RunState Point) : Control → Nat
  | .opening => dag.steps.length + 4
  | .waiting => dag.steps.length + 3
  | .notifying _ _ _ => dag.steps.length + 4
  | .marking _ _ _ => dag.steps.length + 5
  | .cancelling => state.cancelRequested.card + 2
  | .aborting _ => 1
  | .closing => 1
  | .returned => 0
  | .raised _ => 0

def measure (rank : Point → Nat) (bound : Nat) (settings : Settings) (run : Run Point) : Nat :=
  taskWork rank bound settings.dag run.state + 4 * (unrecorded settings.dag run.state).card +
    controlCost settings.dag run.state run.control

section

variable {rank : Point → Nat} {bound : Nat} {dag : DAG} {before after : RunState Point}

private theorem taskWork_congr (same : after.task = before.task) :
    taskWork rank bound dag after = taskWork rank bound dag before := by
  unfold taskWork
  rw [same]

private theorem unrecorded_congr (same : after.results = before.results) :
    unrecorded dag after = unrecorded dag before := by
  unfold unrecorded
  rw [same]

private theorem taskWork_le
    (lowers : ∀ step, phaseCost rank bound (after.task step) ≤
      phaseCost rank bound (before.task step)) :
    taskWork rank bound dag after ≤ taskWork rank bound dag before :=
  Finset.sum_le_sum fun step _ => lowers step

private theorem taskWork_lt {step : StepName} {phase : TaskPhase Point}
    (named : step ∈ dag.stepNames) (moved : after.task = update before.task step (some phase))
    (lower : phaseCost rank bound (some phase) < phaseCost rank bound (before.task step)) :
    taskWork rank bound dag after < taskWork rank bound dag before := by
  apply Finset.sum_lt_sum
  · intro other _
    rw [moved, update_apply]
    split
    · rename_i same
      rw [same]
      exact Nat.le_of_lt lower
    · exact Nat.le_refl _
  · refine ⟨step, mem_toFinset.mpr named, ?_⟩
    rw [moved, update_self]
    exact lower

private theorem unrecorded_lt {step : StepName} (named : step ∈ dag.stepNames)
    (fresh : before.results step = none) (recorded : after.results step ≠ none)
    (kept : ∀ other, before.results other ≠ none → after.results other ≠ none) :
    (unrecorded dag after).card < (unrecorded dag before).card := by
  apply Finset.card_lt_card
  refine Finset.ssubset_iff_subset_ne.mpr ⟨?_, ?_⟩
  · intro other member
    simp only [unrecorded, Finset.mem_filter, isNone_iff_eq_none] at member ⊢
    refine ⟨member.1, ?_⟩
    by_contra old
    exact kept other old member.2
  · intro same
    have member : step ∈ unrecorded dag before := by
      simp only [unrecorded, Finset.mem_filter, isNone_iff_eq_none]
      exact ⟨mem_toFinset.mpr named, fresh⟩
    rw [← same] at member
    simp only [unrecorded, Finset.mem_filter, isNone_iff_eq_none] at member
    exact recorded member.2

private theorem unrecorded_le
    (kept : ∀ other, before.results other ≠ none → after.results other ≠ none) :
    (unrecorded dag after).card ≤ (unrecorded dag before).card := by
  apply Finset.card_le_card
  intro other member
  simp only [unrecorded, Finset.mem_filter, isNone_iff_eq_none] at member ⊢
  refine ⟨member.1, ?_⟩
  by_contra old
  exact kept other old member.2

end

/-! ### Task moves lower it -/

section

variable {executor : Executor Point Input}

private theorem progress_cost (terminating : executor.Terminating) (progress : Progress Point)
    (limit : Nat) (small : ∀ point, progress = .awaiting point → terminating.rank point < limit) :
    phaseCost terminating.rank terminating.bound (some progress.phase) < limit + 1 := by
  cases progress with
  | awaiting point =>
      have lower := small point rfl
      change 1 + terminating.rank point < limit + 1
      omega
  | finished outcome => exact Nat.succ_pos limit

theorem Turn.lowers {dag : DAG} {state after : RunState Point} {event : Event Input}
    {batch : List StepName} (terminating : executor.Terminating)
    (consistent : state.Consistent dag batch) (turn : Turn executor dag state event after) :
    taskWork terminating.rank terminating.bound dag after + after.cancelRequested.card <
      taskWork terminating.rank terminating.bound dag state + state.cancelRequested.card := by
  have named : ∀ step phase, state.task step = some phase → step ∈ dag.stepNames := by
    intro step phase current
    exact consistent.registered step (.inr (by rw [current]; exact some_ne_none phase))
  have fewer := Finset.card_le_card turn.cancelRequested
  have advanced : ∀ step phase old, state.task step = some old →
      after.task = update state.task step (some phase) →
      phaseCost terminating.rank terminating.bound (some phase) <
        phaseCost terminating.rank terminating.bound (some old) →
      taskWork terminating.rank terminating.bound dag after <
        taskWork terminating.rank terminating.bound dag state := by
    intro step phase old current moved lower
    exact taskWork_lt (named step old current) moved (by rw [current]; exact lower)
  cases turn with
  | begin step current kept =>
      have starts : taskWork terminating.rank terminating.bound dag (state.beginTask step) <
          taskWork terminating.rank terminating.bound dag state := by
        unfold beginTask at advanced ⊢
        split
        · rename_i message refused
          rw [refused] at advanced
          exact advanced step _ _ current rfl (Nat.succ_pos _)
        · rename_i manager allowed
          rw [allowed] at advanced
          exact advanced step _ _ current rfl (Nat.lt_succ_self _)
      omega
  | enter step observerRaised input definition progress ctx current kept known entered =>
      have moved : (({ state.noteObserver observerRaised with ctx := ctx } :
          RunState Point).setTask step progress.phase).task =
          update state.task step (some progress.phase) := by
        cases observerRaised with
        | true => rfl
        | false => rfl
      have work := advanced step progress.phase .starting current moved
        (progress_cost terminating progress terminating.bound
          (fun point _ => terminating.rank_lt point))
      omega
  | unknown step observerRaised input current kept missing =>
      have moved : ((state.noteObserver observerRaised).setTask step
          (.done (.raised "KeyError" s!"'{step}'"))).task =
          update state.task step (some (.done (.raised "KeyError" s!"'{step}'"))) := by
        cases observerRaised with
        | true => rfl
        | false => rfl
      have work := advanced step _ .starting current moved (Nat.succ_pos _)
      omega
  | resume step input definition point progress ctx current kept known resumed =>
      have lower : phaseCost terminating.rank terminating.bound (some progress.phase) <
          terminating.rank point + 1 := by
        apply progress_cost terminating progress
        intro later same
        subst same
        exact terminating.resume_lt definition point state.ctx input later ctx resumed
      have work := advanced step progress.phase (.executing point) current rfl (by
        change _ < 1 + terminating.rank point
        omega)
      omega
  | drop step current asked =>
      have work := advanced step _ .created current rfl (Nat.succ_pos _)
      omega
  | swallow step current asked =>
      have cleared : (state.clearRequest step).cancelRequested.card <
          state.cancelRequested.card := Finset.card_erase_lt_of_mem asked
      have same : taskWork terminating.rank terminating.bound dag (state.clearRequest step) =
          taskWork terminating.rank terminating.bound dag state := taskWork_congr rfl
      omega
  | interrupt step current asked =>
      have work := advanced step _ .starting current rfl (Nat.succ_pos _)
      omega
  | cancel step input definition point progress ctx current asked known cancelled =>
      have cleared : (state.cancelRequested.erase step).card <
          state.cancelRequested.card := Finset.card_erase_lt_of_mem asked
      have bounded : taskWork terminating.rank terminating.bound dag
          (({ state.clearRequest step with ctx := ctx } : RunState Point).setTask step
            progress.phase) ≤ taskWork terminating.rank terminating.bound dag state := by
        apply taskWork_le
        intro other
        change phaseCost _ _ (update state.task step (some progress.phase) other) ≤ _
        rw [update_apply]
        split
        · rename_i same
          subst same
          rw [current]
          cases progress with
          | awaiting later =>
              have lower := terminating.cancel_le definition point state.ctx input later ctx
                cancelled
              change 1 + terminating.rank later ≤ 1 + terminating.rank point
              omega
          | finished outcome => exact Nat.zero_le _
        · exact Nat.le_refl _
      change taskWork _ _ dag _ + (state.cancelRequested.erase step).card < _
      omega

end

/-! ### Moves of the scheduler lower it -/

section

variable {settings : Settings} (rank : Point → Nat) (bound : Nat) {state : RunState Point}

private def openWork (rank : Point → Nat) (bound : Nat) (dag : DAG) (state : RunState Point) : Nat :=
  taskWork rank bound dag state + 4 * (unrecorded dag state).card

private theorem openWork_same {before after : RunState Point} {dag : DAG}
    (task : after.task = before.task) (results : after.results = before.results) :
    openWork rank bound dag after = openWork rank bound dag before := by
  unfold openWork
  rw [taskWork_congr task, unrecorded_congr results]

private theorem enterLoop_measure (valid : settings.dag.validate = .ok ())
    (positive : 1 ≤ settings.maxConcurrency) (consistent : state.Consistent settings.dag []) :
    measure rank bound settings (enterLoop settings state) ≤
      openWork rank bound settings.dag state + settings.dag.steps.length + 3 := by
  rcases enterLoop_cases valid positive consistent with
    ⟨closes, _⟩ | ⟨newly, scheduled, waits, spawns, _, _, queued⟩
  · rw [closes]
    have same : openWork rank bound settings.dag (state.assemble settings.dag) =
        openWork rank bound settings.dag state := openWork_same rank bound rfl rfl
    change openWork rank bound settings.dag (state.assemble settings.dag) + 1 ≤ _
    omega
  · rw [waits]
    have results : scheduled.results = state.results := by rw [spawns.frame]
    have work : taskWork rank bound settings.dag scheduled ≤
        taskWork rank bound settings.dag state := by
      apply taskWork_le
      intro step
      rw [spawns.task]
      split
      · rename_i fresh
        have inReady : step ∈ state.ready := by
          rw [queued]
          exact mem_append_left _ fresh
        rw [((consistent.ready step).mp inReady).2.2.1]
        exact Nat.le_succ _
      · exact Nat.le_refl _
    change taskWork rank bound settings.dag scheduled +
      4 * (unrecorded settings.dag scheduled).card + (settings.dag.steps.length + 3) ≤ _
    rw [unrecorded_congr results, openWork]
    omega

private theorem processBatch_measure {step : StepName} {rest : List StepName}
    (consistent : state.Consistent settings.dag (step :: rest)) :
    measure rank bound settings (processBatch settings state (step :: rest)) ≤
      openWork rank bound settings.dag state + settings.dag.steps.length + 1 := by
  obtain ⟨outcome, recorded, reason, newly, current, settlement, _, found, taken⟩ :=
    processBatch_cons consistent
  have member := (consistent.batchDone step mem_cons_self).1
  have held := (consistent.running step).mp member
  have fewer : (unrecorded settings.dag recorded).card < (unrecorded settings.dag state).card := by
    apply unrecorded_lt (consistent.registered step (.inr held.1))
      (consistent.not_recorded held.2)
    · rw [found]
      exact some_ne_none _
    · intro other old
      rw [settlement.results]
      split
      · exact some_ne_none _
      · split
        · exact some_ne_none _
        · exact old
  have work : taskWork rank bound settings.dag recorded = taskWork rank bound settings.dag state :=
    taskWork_congr settlement.task
  rw [taken, openWork]
  split
  · change taskWork rank bound settings.dag recorded +
      4 * (unrecorded settings.dag recorded).card + (settings.dag.steps.length + 5) ≤ _
    omega
  · change taskWork rank bound settings.dag recorded +
      4 * (unrecorded settings.dag recorded).card + (settings.dag.steps.length + 4) ≤ _
    omega

private theorem move_lowers {Input : Type} (valid : settings.dag.validate = .ok ())
    (positive : 1 ≤ settings.maxConcurrency) {run after : Run Point} {event : Event Input}
    (invariant : Invariant settings run) (move : Move settings run event after) :
    measure rank bound settings after < measure rank bound settings run := by
  cases move with
  | opened observerRaised control =>
      cases invariant with
      | opening state consistent idle uncancelled =>
          have same := noteObserver_outcome observerRaised state
          have lower := enterLoop_measure rank bound valid positive
            (consistent.transfer (noteObserver_same observerRaised state))
          rw [openWork_same rank bound same.task same.results] at lower
          change _ < openWork rank bound settings.dag state + (settings.dag.steps.length + 4)
          exact Nat.lt_of_le_of_lt lower (by omega)
      | _ => cases control
  | marked observerRaised step result rest control =>
      cases invariant with
      | marking _ _ _ state consistent begun uncancelled recorded started =>
          have same : openWork rank bound settings.dag (state.notify (.stepEnd step result.status
            result.error)) = openWork rank bound settings.dag state := openWork_same rank bound rfl rfl
          change openWork rank bound settings.dag (state.notify _) +
            (settings.dag.steps.length + 4) <
              openWork rank bound settings.dag state + (settings.dag.steps.length + 5)
          omega
      | _ => cases control
  | notified observerRaised step result rest control =>
      cases invariant with
      | notifying _ _ _ state consistent begun uncancelled recorded =>
          have same := noteObserver_outcome observerRaised state
          have observed := consistent.transfer (noteObserver_same observerRaised state)
          cases control
          change _ < openWork rank bound settings.dag state + (settings.dag.steps.length + 4)
          cases rest with
          | nil =>
              have lower := enterLoop_measure rank bound valid positive observed
              rw [openWork_same rank bound same.task same.results] at lower
              exact Nat.lt_of_le_of_lt lower (by omega)
          | cons next rest =>
              have lower := processBatch_measure rank bound observed
              rw [openWork_same rank bound same.task same.results] at lower
              exact Nat.lt_of_le_of_lt lower (by omega)
      | _ => cases control
  | returned observerRaised control =>
      cases invariant with
      | closing state ended =>
          have same := noteObserver_outcome observerRaised state
          have work : openWork rank bound settings.dag (state.noteObserver observerRaised) =
              openWork rank bound settings.dag state :=
            openWork_same rank bound same.task same.results
          change openWork rank bound settings.dag (state.noteObserver observerRaised) + 0 <
            openWork rank bound settings.dag state + 1
          omega
      | _ => cases control
  | wake done control allBegun batch =>
      cases invariant with
      | waiting state consistent busy uncancelled =>
          have woken := consistent.wake batch
          change _ < openWork rank bound settings.dag state + (settings.dag.steps.length + 3)
          cases done with
          | nil => exact absurd rfl batch.1
          | cons step rest =>
              have lower := processBatch_measure rank bound woken
              have same : openWork rank bound settings.dag
                  { state with tasks := state.tasks \ (step :: rest).toFinset } =
                  openWork rank bound settings.dag state := openWork_same rank bound rfl rfl
              rw [same] at lower
              exact Nat.lt_of_le_of_lt lower (by omega)
      | _ => cases control
  | timeout limited allBegun suspended =>
      have asked : ∀ (state : RunState Point) (batch : List StepName),
          state.Consistent settings.dag batch →
          state.requestCancel.cancelRequested.card ≤ settings.dag.steps.length := by
        intro state batch consistent
        have inside : state.requestCancel.cancelRequested ⊆ settings.dag.stepNames.toFinset := by
          intro step member
          have inTasks := (Finset.mem_filter.mp member).1
          have runs := ((consistent.tasks step).mp inTasks).1
          exact mem_toFinset.mpr
            (consistent.registered step (.inr ((consistent.running step).mp runs).1))
        have small := Finset.card_le_card inside
        have names : settings.dag.stepNames.toFinset.card ≤ settings.dag.stepNames.length :=
          toFinset_card_le _
        have length : settings.dag.stepNames.length = settings.dag.steps.length := length_map _
        omega
      have lowered : ∀ (state : RunState Point) (batch : List StepName) (extra : Nat),
          state.Consistent settings.dag batch →
          measure rank bound settings { control := .cancelling, state := state.requestCancel } <
            openWork rank bound settings.dag state + (settings.dag.steps.length + 3 + extra) := by
        intro state batch extra consistent
        have few := asked state batch consistent
        have same : openWork rank bound settings.dag state.requestCancel =
            openWork rank bound settings.dag state := openWork_same rank bound rfl rfl
        change openWork rank bound settings.dag state.requestCancel +
          (state.requestCancel.cancelRequested.card + 2) < _
        omega
      cases invariant with
      | waiting state consistent busy uncancelled => exact lowered state [] 0 consistent
      | marking _ _ rest state consistent begun uncancelled recorded started =>
          exact lowered state rest 2 consistent
      | notifying _ _ rest state consistent begun uncancelled recorded =>
          exact lowered state rest 1 consistent
      | _ => simp at suspended
  | recover running remaining recovered control drained handled =>
      cases invariant with
      | cancelling batch state limited consistent begun =>
          have recovery := handleTimeout_recovered consistent handled
          have kept : (unrecorded settings.dag recovered).card ≤
              (unrecorded settings.dag state).card := by
            apply unrecorded_le
            intro other old
            rw [recovery.results, if_pos ((consistent.recorded other).mpr old)]
            exact old
          have work : taskWork rank bound settings.dag recovered =
              taskWork rank bound settings.dag state := taskWork_congr recovery.task
          have same : openWork rank bound settings.dag (recovered.assemble settings.dag) =
              openWork rank bound settings.dag recovered := openWork_same rank bound rfl rfl
          change openWork rank bound settings.dag (recovered.assemble settings.dag) + 1 <
            taskWork rank bound settings.dag state + 4 * (unrecorded settings.dag state).card +
              (state.cancelRequested.card + 2)
          rw [same, openWork]
          omega
      | _ => cases control
  | abandon error control drained =>
      cases invariant with
      | _ => cases control

end

section

variable {executor : Executor Point Input} {settings : Settings}

theorem next_lowers (terminating : executor.Terminating)
    (valid : settings.dag.validate = .ok ()) (positive : 1 ≤ settings.maxConcurrency)
    (run : Run Point) (event : Event Input) (after : Run Point)
    (invariant : Invariant settings run) (taken : next executor settings run event = some after) :
    measure terminating.rank terminating.bound settings after <
      measure terminating.rank terminating.bound settings run := by
  rcases next_cases taken with move | ⟨state, turn, same⟩
  · exact move_lowers _ _ valid positive invariant move
  · subst same
    obtain ⟨batch, held, begun⟩ := invariant.turning turn
    have lowered : taskWork terminating.rank terminating.bound settings.dag state +
            4 * (unrecorded settings.dag state).card + state.cancelRequested.card <
          taskWork terminating.rank terminating.bound settings.dag run.state +
            4 * (unrecorded settings.dag run.state).card + run.state.cancelRequested.card := by
      have work := turn.lowers terminating held
      rw [unrecorded_congr (turn.results held begun).1]
      omega
    have uncancelledAfter : run.state.cancelRequested = ∅ → state.cancelRequested = ∅ := by
      intro uncancelled
      exact Finset.subset_empty.mp (uncancelled ▸ turn.cancelRequested)
    cases invariant with
    | opening before consistent idle uncancelled | waiting before consistent busy uncancelled
    | notifying step result rest before consistent begun uncancelled recorded =>
        rw [uncancelledAfter uncancelled, uncancelled] at lowered
        exact Nat.add_lt_add_right lowered _
    | marking step result rest before consistent begun uncancelled recorded started =>
        rw [uncancelledAfter uncancelled, uncancelled] at lowered
        exact Nat.add_lt_add_right lowered _
    | cancelling batch before limited consistent begun =>
        change taskWork _ _ _ _ + 4 * (unrecorded _ _).card + (state.cancelRequested.card + 2) <
          taskWork _ _ _ _ + 4 * (unrecorded _ _).card + (before.cancelRequested.card + 2)
        rw [← Nat.add_assoc, ← Nat.add_assoc]
        exact Nat.add_lt_add_right lowered 2
    | closing before ended | returned before ended => exact (ended.no_turn turn).elim

theorem run_length_le (terminating : executor.Terminating)
    (valid : settings.dag.validate = .ok ()) (positive : 1 ≤ settings.maxConcurrency)
    {first finish : Run Point} {events : List (Event Input)}
    (invariant : Invariant settings first)
    (run : Transition.replay (next executor settings) first events = some finish) :
    events.length ≤ measure terminating.rank terminating.bound settings first := by
  have counted := Transition.replay_length_le (next_invariant valid positive)
    (next_lowers terminating valid positive) invariant run
  omega

/-! ### Progress -/

private theorem stuck_not_moved {run : Run Point} (stuck : Transition.Stuck (next executor settings) run)
    (event : Event Input) : schedulerNext settings run event = none ∧
      taskNext executor settings.dag run.state event = none := by
  have blocked := stuck event
  unfold next at blocked
  split at blocked
  · cases blocked
  · rename_i idle
    exact ⟨idle, map_eq_none_iff.mp blocked⟩

private theorem task_moves (terminating : executor.Terminating) {state : RunState Point}
    {step : StepName} {phase : TaskPhase Point} (named : step ∈ settings.dag.stepNames)
    (current : state.task step = some phase) (moving : TaskPhase.isDone (some phase) = false) :
    ∃ event, taskNext executor settings.dag state event ≠ none := by
  obtain ⟨definition, known, _⟩ := settings.dag.lookup_of_mem named
  by_cases asked : step ∈ state.cancelRequested
  · cases phase with
    | created =>
        refine ⟨.drop step, ?_⟩
        simp [taskNext, drops, current, asked]
    | starting =>
        refine ⟨.interrupt step false, ?_⟩
        simp [taskNext, interrupts, current, asked]
    | executing point =>
        obtain ⟨input, live⟩ := terminating.cancel_live definition point state.ctx
        obtain ⟨⟨progress, ctx⟩, moved⟩ := isSome_iff_exists.mp live
        refine ⟨.cancel step input, ?_⟩
        simp [taskNext, cancels, current, asked, advanceTask, known, clearRequest, moved,
          progressTask]
    | done outcome => cases moving
  · cases phase with
    | created =>
        refine ⟨.begin step, ?_⟩
        simp [taskNext, begins, current, asked]
    | starting =>
        obtain ⟨input, live⟩ := terminating.enter_live definition state.ctx
        obtain ⟨⟨progress, ctx⟩, moved⟩ := isSome_iff_exists.mp live
        refine ⟨.observed step false input, ?_⟩
        simp [taskNext, observes, current, asked, observedTask, known, noteObserver, moved,
          progressTask]
    | executing point =>
        obtain ⟨input, live⟩ := terminating.resume_live definition point state.ctx
        obtain ⟨⟨progress, ctx⟩, moved⟩ := isSome_iff_exists.mp live
        refine ⟨.advance step input, ?_⟩
        simp [taskNext, advances, current, asked, advanceTask, known, moved, progressTask]
    | done outcome => cases moving

private theorem tasks_phase {state : RunState Point} {batch : List StepName}
    (consistent : state.Consistent settings.dag batch) {step : StepName}
    (member : step ∈ state.tasks) : ∃ phase, state.task step = some phase ∧
      step ∈ settings.dag.stepNames := by
  have runs := ((consistent.tasks step).mp member).1
  have started := ((consistent.running step).mp runs).1
  obtain ⟨phase, current⟩ := ne_none_iff_exists'.mp started
  exact ⟨phase, current, consistent.registered step (.inr started)⟩

private theorem recover_enabled (Input : Type) (settings : Settings) {state : RunState Point} (drained : state.AllDone) :
    ∃ event : Event Input,
      schedulerNext settings { control := .cancelling, state := state } event ≠ none := by
  refine ⟨.recover state.running.toList
    ((state.running.toList.foldl (failTimedOut settings) { state with tasks := ∅ }).remaining
      settings.dag).toList, ?_⟩
  simp only [schedulerNext, true_and, if_pos drained, handleTimeout, Finset.nodup_toList,
    Finset.toList_toFinset, and_self, if_true, map_some, ne_eq, reduceCtorEq,
    not_false_eq_true]

theorem stuck_returned (terminating : executor.Terminating) {run : Run Point}
    (invariant : Invariant settings run)
    (stuck : Transition.Stuck (next executor settings) run) : run.control = .returned := by
  cases invariant with
  | opening state consistent idle uncancelled
  | marking step result rest state consistent begun uncancelled recorded
  | notifying step result rest state consistent begun uncancelled recorded =>
      cases (stuck_not_moved stuck (.resume false)).1
  | closing state ended => cases (stuck_not_moved stuck (.resume false)).1
  | returned state ended => rfl
  | waiting state consistent busy uncancelled =>
      by_cases quiet : ∃ step, step ∈ state.tasks ∧ TaskPhase.isDone (state.task step) = false
      · obtain ⟨step, member, moving⟩ := quiet
        obtain ⟨phase, current, named⟩ := tasks_phase consistent member
        rw [current] at moving
        obtain ⟨event, moves⟩ := task_moves terminating named current moving
        exact absurd (stuck_not_moved stuck event).2 moves
      · have allDone : ∀ step, step ∈ state.tasks → TaskPhase.isDone (state.task step) = true := by
          intro step member
          by_contra moving
          exact quiet ⟨step, member, Bool.eq_false_iff.mpr moving⟩
        have begun : state.AllBegun := by
          intro step member created
          obtain ⟨phase, current, _⟩ := tasks_phase consistent member
          have done := allDone step member
          rw [current] at done created
          cases phase with
          | created => cases done
          | _ => cases created
        have whole : state.tasks.filter (fun step => TaskPhase.isDone (state.task step) = true) =
            state.tasks := Finset.filter_true_of_mem allDone
        have batch : state.Batch state.tasks.toList := by
          refine ⟨?_, Finset.nodup_toList _, ?_⟩
          · intro empty
            exact busy (Finset.toList_eq_nil.mp empty)
          · rw [Finset.toList_toFinset]
            exact whole.symm
        have blocked := (stuck_not_moved stuck (.wake state.tasks.toList)).1
        simp only [schedulerNext, begun, batch, and_self, if_true] at blocked
        cases blocked
  | cancelling batch state limited consistent begun =>
      by_cases drained : state.AllDone
      · obtain ⟨event, moves⟩ := recover_enabled Input settings drained
        exact absurd (stuck_not_moved stuck event).1 moves
      · simp only [AllDone, not_forall] at drained
        obtain ⟨step, member, moving⟩ := drained
        obtain ⟨phase, current, named⟩ := tasks_phase consistent member
        rw [current] at moving
        obtain ⟨event, moves⟩ := task_moves terminating named current
          (Bool.eq_false_iff.mpr moving)
        exact absurd (stuck_not_moved stuck event).2 moves

end

end DAGExecutor

end AgenticRuntime
