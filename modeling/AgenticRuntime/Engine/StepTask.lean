/-
What a scheduler sees of a step executor: a coroutine that runs between awaits,
reads and writes the context there, and ends with a result or an exception.

`Input` is whatever the environment decides at an await point, so an executor is
a function and every run of it is a list of inputs.
-/

import AgenticRuntime.Engine.Scheduler

namespace AgenticRuntime

inductive Progress (Point : Type) where
  | awaiting (point : Point)
  | finished (outcome : TaskOutcome)
  deriving DecidableEq, Repr

def Progress.phase {Point : Type} : Progress Point → TaskPhase Point
  | .awaiting point => .executing point
  | .finished outcome => .done outcome

/-- `cancel` is a resumption whose await raises `CancelledError`. An input that
cannot occur at a point gives `none`. -/
structure Executor (Point Input : Type) where
  enter : StepDefinition → Context → Input → Option (Progress Point × Context)
  resume : StepDefinition → Point → Context → Input → Option (Progress Point × Context)
  cancel : StepDefinition → Point → Context → Input → Option (Progress Point × Context)

namespace Executor

variable {Point Input : Type}

/-- Each step has one outcome, whatever the context and the environment. -/
structure Determined (executor : Executor Point Input) (outcome : StepName → TaskOutcome) :
    Prop where
  enter : ∀ definition ctx input ended after,
    executor.enter definition ctx input = some (.finished ended, after) →
      ended = outcome definition.name
  resume : ∀ definition point ctx input ended after,
    executor.resume definition point ctx input = some (.finished ended, after) →
      ended = outcome definition.name

/-- Every step task ends: it never waits for something that cannot happen, and it
awaits a bounded number of times, its cancellation included. -/
structure Terminating (executor : Executor Point Input) where
  rank : Point → Nat
  bound : Nat
  rank_lt : ∀ point, rank point < bound
  resume_lt : ∀ definition point ctx input later after,
    executor.resume definition point ctx input = some (.awaiting later, after) →
      rank later < rank point
  cancel_le : ∀ definition point ctx input later after,
    executor.cancel definition point ctx input = some (.awaiting later, after) →
      rank later ≤ rank point
  enter_live : ∀ definition ctx, ∃ input, (executor.enter definition ctx input).isSome
  resume_live : ∀ definition point ctx,
    ∃ input, (executor.resume definition point ctx input).isSome
  cancel_live : ∀ definition point ctx,
    ∃ input, (executor.cancel definition point ctx input).isSome

variable (outcome : StepName → TaskOutcome)

def scripted : Executor Unit Unit where
  enter _ ctx _ := some (.awaiting (), ctx)
  resume definition _ ctx _ := some (.finished (outcome definition.name), ctx)
  cancel _ _ ctx _ := some (.finished .cancelled, ctx)

theorem scripted_determined :
    (scripted outcome).Determined outcome where
  enter definition ctx input ended after ends := by
    simp [scripted] at ends
  resume definition point ctx input ended after ends := by
    simp only [scripted, Option.some.injEq, Prod.mk.injEq, Progress.finished.injEq] at ends
    exact ends.1.symm

def scripted_terminating : (scripted outcome).Terminating where
  rank _ := 0
  bound := 1
  rank_lt _ := Nat.one_pos
  resume_lt definition point ctx input later after ends := by
    simp [scripted] at ends
  cancel_le definition point ctx input later after ends := by
    simp [scripted] at ends
  enter_live _ _ := ⟨(), rfl⟩
  resume_live _ _ _ := ⟨(), rfl⟩
  cancel_live _ _ _ := ⟨(), rfl⟩

end Executor

end AgenticRuntime
