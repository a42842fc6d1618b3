/-
What one event changes for whoever looks at the context, the recorded results
and the tasks only: one case for each way they can change, wherever the
scheduler is.
-/

import AgenticRuntime.Engine.RunInvariant

namespace AgenticRuntime

open RunState

namespace DAGExecutor

variable {Point Input : Type}

structure SameView (before after : RunState Point) : Prop where
  ctx : after.ctx = before.ctx
  results : after.results = before.results
  task : after.task = before.task

theorem SameView.refl (state : RunState Point) : SameView state state := ⟨rfl, rfl, rfl⟩

theorem SameView.trans {first second third : RunState Point} (toSecond : SameView first second)
    (toThird : SameView second third) : SameView first third :=
  ⟨toThird.ctx.trans toSecond.ctx, toThird.results.trans toSecond.results,
    toThird.task.trans toSecond.task⟩

theorem SameOutcome.view {before after : RunState Point} (same : SameOutcome before after) :
    SameView before after := ⟨same.ctx, same.results, same.task⟩

/-- `first` is the state before, up to what the view leaves out. -/
inductive Change (executor : Executor Point Input) (settings : Settings) (before : RunState Point) :
    Event Input → RunState Point → Prop
  | quiet (event : Event Input) (after : RunState Point) (same : SameView before after) :
      Change executor settings before event after
  | turned (event : Event Input) (after : RunState Point) (batch : List StepName)
      (consistent : before.Consistent settings.dag batch)
      (turn : Turn executor settings.dag before event after) :
      Change executor settings before event after
  | spawned (event : Event Input) (first after : RunState Point) (newly : List StepName)
      (same : SameView before first)
      (idle : ∀ step, step ∈ newly → first.task step = none ∧ first.results step = none)
      (spawns : Spawns newly first after) : Change executor settings before event after
  | settled (event : Event Input) (first recorded after : RunState Point) (step : StepName)
      (outcome : TaskOutcome) (reason : String) (newly : List StepName)
      (same : SameView before first) (current : first.task step = some (.done outcome))
      (pending : first.results step = none)
      (settlement : Settlement settings.dag step (outcome.settle step) reason newly first recorded)
      (marked : SameView
        (if marksContext outcome then recorded.markContextFailed step else recorded) after) :
      Change executor settings before event after
  | recovered (running remaining : List StepName) (recovered after : RunState Point)
      (batch : List StepName) (consistent : before.Consistent settings.dag batch)
      (recovery : Recovered settings before recovered) (same : SameView recovered after) :
      Change executor settings before (.recover running remaining) after

section

variable {executor : Executor Point Input} {settings : Settings}

private theorem enterLoop_change (valid : settings.dag.validate = .ok ())
    (positive : 1 ≤ settings.maxConcurrency) {before first : RunState Point}
    (event : Event Input) (same : SameView before first)
    (consistent : first.Consistent settings.dag []) :
    Change executor settings before event (enterLoop settings first).state := by
  rcases enterLoop_cases valid positive consistent with
    ⟨closes, _⟩ | ⟨newly, scheduled, waits, spawns, _, _, queued⟩
  · rw [closes]
    exact .quiet event _ (same.trans ⟨rfl, rfl, rfl⟩)
  · rw [waits]
    refine .spawned event first scheduled newly same ?_ spawns
    intro step member
    have inReady : step ∈ first.ready := by
      rw [queued]
      exact List.mem_append_left _ member
    obtain ⟨_, waiting, unstarted, _⟩ := (consistent.ready step).mp inReady
    exact ⟨unstarted, consistent.not_recorded waiting⟩

private theorem processBatch_change (valid : settings.dag.validate = .ok ())
    (positive : 1 ≤ settings.maxConcurrency) {before first : RunState Point}
    {batch : List StepName} (event : Event Input) (same : SameView before first)
    (consistent : first.Consistent settings.dag batch) :
    Change executor settings before event (processBatch settings first batch).state := by
  cases batch with
  | nil => exact enterLoop_change valid positive event same consistent
  | cons step rest =>
      obtain ⟨outcome, recorded, reason, newly, current, settlement, _, _, taken⟩ :=
        processBatch_cons consistent
      have member := (consistent.batchDone step List.mem_cons_self).1
      have waiting := ((consistent.running step).mp member).2
      rw [taken]
      refine .settled event first recorded _ step outcome reason newly same current
        (consistent.not_recorded waiting) settlement ?_
      split
      · exact SameView.refl _
      · exact ⟨rfl, rfl, rfl⟩

theorem next_change (valid : settings.dag.validate = .ok ())
    (positive : 1 ≤ settings.maxConcurrency) {run after : Run Point} {event : Event Input}
    (invariant : Invariant settings run) (taken : next executor settings run event = some after) :
    Change executor settings run.state event after.state := by
  rcases next_cases taken with move | ⟨state, turn, same⟩
  · cases move with
    | opened observerRaised control =>
        cases invariant with
        | opening state consistent idle uncancelled =>
            exact enterLoop_change valid positive _ (noteObserver_outcome observerRaised state).view
              (consistent.transfer (noteObserver_same observerRaised state))
        | _ => cases control
    | marked observerRaised step result rest control | timeout limited allBegun suspended
    | abandon error control drained => exact .quiet _ _ ⟨rfl, rfl, rfl⟩
    | notified observerRaised step result rest control =>
        cases invariant with
        | notifying _ _ _ state consistent begun uncancelled recorded =>
            cases control
            exact processBatch_change valid positive _
              (noteObserver_outcome observerRaised state).view
              (consistent.transfer (noteObserver_same observerRaised state))
        | _ => cases control
    | returned observerRaised control =>
        exact .quiet _ _ (noteObserver_outcome observerRaised run.state).view
    | wake done control allBegun batch =>
        cases invariant with
        | waiting state consistent busy uncancelled =>
            exact processBatch_change valid positive _ ⟨rfl, rfl, rfl⟩ (consistent.wake batch)
        | _ => cases control
    | recover running remaining recovered control drained handled =>
        cases invariant with
        | cancelling batch state limited consistent begun =>
            exact .recovered running remaining recovered _ batch consistent
              (handleTimeout_recovered consistent handled) ⟨rfl, rfl, rfl⟩
        | _ => cases control
  · subst same
    obtain ⟨batch, consistent, _⟩ := invariant.turning turn
    exact .turned event state batch consistent turn

end

end DAGExecutor

end AgenticRuntime
