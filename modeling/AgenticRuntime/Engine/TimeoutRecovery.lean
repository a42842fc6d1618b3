/-
Runs that a workflow timeout interrupts, wherever the scheduler awaited.

A result recorded before the timeout is never touched again, every other step
gets one from the recovery, and no step task outlives the scheduler.
-/

import AgenticRuntime.Engine.EventStream
import AgenticRuntime.Engine.Termination

namespace AgenticRuntime

open RunState Transition

namespace DAGExecutor

variable {Point Input : Type}

/-- What a run that was interrupted in the state `before` returns. -/
structure Accounted (dag : DAG) (before finish : RunState Point) : Prop where
  overall : finish.result.overallStatus = .failed
  listed : ∃ recorded, finish.result.steps = dag.stepNames.map recorded ∧
    ∀ step, step ∈ dag.stepNames → (recorded step).status.Terminal ∧
      (∀ result, before.results step = some result → recorded step = result) ∧
      (.stepStart step ∉ finish.updates → (recorded step).status = .skipped)
  drained : finish.tasks = ∅
  quiet : ∀ step phase, finish.task step = some phase → TaskPhase.isDone (some phase) = true

/-- The scheduler is on its way out, with every result of `kept` in place. -/
structure Interrupted (kept : StepName → Option StepResult) (run : Run Point) : Prop where
  stopped : Stopped run.control
  kept : ∀ step result, kept step = some result → run.state.results step = some result
  recovered : run.control ≠ .cancelling →
    run.state.result.overallStatus = .failed ∧ run.state.tasks = ∅

section

variable {settings : Settings} {state : RunState Point}

theorem Ended.terminal (ended : Ended settings state) {step : StepName} {result : StepResult}
    (found : state.results step = some result) : result.status.Terminal := by
  cases ended with
  | completed before consistent complete uncancelled assembled =>
      rw [assembled.results] at found
      exact consistent.terminal found
  | timedOut before recovered batch running remaining limited consistent begun drained handled
      assembled =>
      have recovery := handleTimeout_recovered consistent handled
      rw [assembled.results] at found
      change recovered.results step = some result at found
      rw [recovery.results] at found
      split at found
      · exact consistent.terminal found
      · split at found
        · cases found
          exact (by decide : StepStatus.Terminal .failed)
        · split at found
          · cases found
            exact (by decide : StepStatus.Terminal .skipped)
          · cases found

end

section

variable {executor : Executor Point Input} {settings : Settings}

theorem timeout_interrupted {run after : Run Point}
    (delivered : next executor settings run .timeout = some after) :
    Interrupted run.state.results after := by
  rcases next_cases delivered with move | ⟨state, turn, _⟩
  · cases move with
    | timeout limited begun suspended =>
        exact ⟨trivial, fun step result found => found, fun moved => absurd rfl moved⟩
  · cases turn

private theorem recover_interrupted {kept : StepName → Option StepResult}
    {state recovered : RunState Point} {batch : List StepName}
    (consistent : state.Consistent settings.dag batch)
    (before : ∀ step result, kept step = some result → state.results step = some result)
    (recovery : Recovered settings state recovered) :
    Interrupted kept (close settings recovered) := by
  refine ⟨trivial, ?_, ?_⟩
  · intro step result recorded
    have found := before step result recorded
    have done : step ∈ state.completed := by
      rw [consistent.recorded, found]
      exact Option.some_ne_none result
    change recovered.results step = some result
    rw [recovery.results, if_pos done]
    exact found
  · intro _
    refine ⟨?_, recovery.tasks⟩
    change (recovered.assemble settings.dag).result.overallStatus = .failed
    rw [assemble_overall, recovery.overall, if_neg (by decide)]

theorem next_interrupted (valid : settings.dag.validate = .ok ())
    (positive : 1 ≤ settings.maxConcurrency) {kept : StepName → Option StepResult}
    (run : Run Point) (event : Event Input) (after : Run Point)
    (held : Invariant settings run ∧ Interrupted kept run)
    (taken : next executor settings run event = some after) :
    Invariant settings after ∧ Interrupted kept after := by
  refine ⟨next_invariant valid positive run event after held.1 taken, ?_⟩
  obtain ⟨invariant, interrupted⟩ := held
  have stopped := interrupted.stopped
  rcases next_cases taken with move | ⟨state, turn, same⟩
  · cases move with
    | opened observerRaised control | marked observerRaised step result rest control
    | notified observerRaised step result rest control | wake done control
    | abandon error control => rw [control] at stopped; cases stopped
    | returned observerRaised control =>
        have outcome := noteObserver_outcome observerRaised run.state
        obtain ⟨overall, drained⟩ := interrupted.recovered (by rw [control]; exact nofun)
        refine ⟨trivial, ?_, ?_⟩
        · rw [outcome.results]
          exact interrupted.kept
        · intro _
          rw [outcome.overall, outcome.tasks]
          exact ⟨overall, drained⟩
    | timeout limited begun suspended =>
        rcases suspended with control | ⟨_, _, _, control⟩ | ⟨_, _, _, control⟩
        · rw [control] at stopped; cases stopped
        · rw [control] at stopped; cases stopped
        · rw [control] at stopped; cases stopped
    | recover running remaining recovered control drained handled =>
        cases invariant with
        | cancelling batch state limited consistent begun =>
            exact recover_interrupted consistent interrupted.kept
              (handleTimeout_recovered consistent handled)
        | _ => cases control
  · subst same
    cases invariant with
    | cancelling batch before limited consistent begun =>
        refine ⟨stopped, ?_, fun moved => absurd rfl moved⟩
        rw [(turn.results consistent (fun other _ => begun other)).1]
        exact interrupted.kept
    | closing before ended | returned before ended => exact (ended.no_turn turn).elim
    | _ => cases stopped

private theorem returned_accounted {before : RunState Point} {finish : Run Point}
    (invariant : Invariant settings finish) (streamed : Streamed finish)
    (interrupted : Interrupted before.results finish) (returned : finish.control = .returned) :
    Accounted settings.dag before finish.state := by
  obtain ⟨overall, drained⟩ := interrupted.recovered (by rw [returned]; exact nofun)
  cases invariant with
  | returned state ended =>
      obtain ⟨⟨recorded, steps, known⟩, _⟩ := ended.results
      refine ⟨overall, ⟨recorded, steps, ?_⟩, drained, ended.quiet⟩
      intro step named
      have found := known step named
      refine ⟨ended.terminal found, ?_, ?_⟩
      · intro result early
        have still := interrupted.kept step result early
        change state.results step = some result at still
        rw [found, Option.some.injEq] at still
        exact still
      · intro silent
        rcases Sent.known streamed step with ⟨_, missing | ⟨reason, skipped⟩⟩ | started |
          ⟨result, _, whole⟩
        · change state.results step = none at missing
          rw [found] at missing
          cases missing
        · change state.results step = some (skipResult step reason) at skipped
          rw [found, Option.some.injEq] at skipped
          rw [skipped]
          rfl
        · apply absurd _ silent
          rw [← start_mem_about, started]
          exact List.mem_singleton_self _
        · apply absurd _ silent
          rw [← start_mem_about, whole]
          exact List.mem_cons_self
  | _ => cases returned

def mergeDag : DAG :=
  { name := "merge"
    steps := [{ name := "left" }, { name := "right" },
      { name := "join", dependsOn := ["left", "right"] }]
    distinct := by decide }

def mergeSettings : Settings := { dag := mergeDag, maxConcurrency := 10, timeout := some "30" }

/-- Both independent steps finish before the scheduler looks, and it awaits the
observer of the first. -/
def mergeBatch : List (Event Unit) :=
  [.resume false, .begin "left", .begin "right", .observed "left" false (),
    .observed "right" false (), .advance "right" (), .advance "left" (), .wake ["left", "right"]]

end

end DAGExecutor

end AgenticRuntime
