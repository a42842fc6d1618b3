/-
The marks a step leaves in `completed_steps` and `failed_steps` while it runs,
and that `StepExecutor` leaves the mark its result stands for.
-/

import AgenticRuntime.Engine.StepExecutor

namespace AgenticRuntime

open Option

/-- What the context says about a step: nothing at all, that it is complete, or
at least not that it is complete. -/
inductive Mark where
  | unmarked
  | completed
  | withheld
  | free
  deriving DecidableEq, Repr

def Context.Shows (ctx : Context) (step : StepName) : Mark → Prop
  | .unmarked => step ∉ ctx.completedSteps ∧ step ∉ ctx.failedSteps
  | .completed => step ∈ ctx.completedSteps ∧ step ∉ ctx.failedSteps
  | .withheld => step ∉ ctx.completedSteps
  | .free => True

structure SameMarks (step : StepName) (before after : Context) : Prop where
  completed : step ∈ after.completedSteps ↔ step ∈ before.completedSteps
  failed : step ∈ after.failedSteps ↔ step ∈ before.failedSteps

theorem SameMarks.refl (step : StepName) (ctx : Context) : SameMarks step ctx ctx :=
  ⟨Iff.rfl, Iff.rfl⟩

theorem SameMarks.markStepFailed {step other : StepName} (ctx : Context) (differs : other ≠ step) :
    SameMarks other ctx (ctx.markStepFailed step) := by
  constructor
  · exact Context.mem_markStepFailed_completed ctx step other
  · rw [Context.mem_markStepFailed_failed]
    simp only [differs, or_false]

theorem SameMarks.markStepComplete {step other : StepName} (ctx : Context)
    (differs : other ≠ step) : SameMarks other ctx (ctx.markStepComplete step) := by
  constructor
  · rw [Context.mem_markStepComplete_completed]
    simp only [differs, or_false]
  · exact Context.mem_markStepComplete_failed ctx step other

theorem SameMarks.shows {step : StepName} {before after : Context} {mark : Mark}
    (same : SameMarks step before after) (shown : before.Shows step mark) :
    after.Shows step mark := by
  cases mark with
  | unmarked | completed =>
      simp only [Context.Shows, same.completed, same.failed] at shown ⊢
      exact shown
  | withheld =>
      simp only [Context.Shows, same.completed] at shown ⊢
      exact shown
  | free => trivial

def TaskOutcome.mark : TaskOutcome → Mark
  | .returned result => if result.status = .success then .completed else .withheld
  | .raised _ _ => .withheld

/-- The mark that goes with the phase a task is in; `mark` has none for a point
that is never reached. -/
def Progress.Marked {Point : Type} (mark : Point → Option Mark) (step : StepName) (ctx : Context) :
    Progress Point → Prop
  | .awaiting point => ∃ shown, mark point = some shown ∧ ctx.Shows step shown
  | .finished outcome => ctx.Shows step outcome.mark

/-- An executor that keeps the marks of its steps right, as long as no await is
aborted where it must not be. -/
structure Executor.Marks {Point Input : Type} (executor : Executor Point Input)
    (aborts : Point → Input → Prop) where
  mark : Point → Option Mark
  enter : ∀ definition ctx input progress after,
    executor.enter definition ctx input = some (progress, after) →
      ctx.Shows definition.name .unmarked →
      progress.Marked mark definition.name after ∧
        ∀ other, other ≠ definition.name → SameMarks other ctx after
  resume : ∀ definition point ctx input progress after shown,
    executor.resume definition point ctx input = some (progress, after) → ¬ aborts point input →
      mark point = some shown → ctx.Shows definition.name shown →
      progress.Marked mark definition.name after ∧
        ∀ other, other ≠ definition.name → SameMarks other ctx after
  cancel : ∀ definition point ctx input progress after shown,
    executor.cancel definition point ctx input = some (progress, after) → ¬ aborts point input →
      mark point = some shown → ctx.Shows definition.name shown →
      progress.Marked mark definition.name after ∧
        ∀ other, other ≠ definition.name → SameMarks other ctx after

namespace StepExecutor

/-- The mark of a step at each await; the status tells which awaits are reached. -/
def mark : Point → Option Mark
  | .markingStart frame | .preHook _ frame | .preparing _ _ frame | .backoff frame =>
      if frame.result.status = .success then none else some .unmarked
  | .rejecting _ _ _ | .errorHook _ _ | .attempting .body _ => some .unmarked
  | .attempting .failingVerification frame | .markingFailed frame =>
      if frame.result.status = .success then none else some .withheld
  | .attempting .markingComplete frame =>
      if frame.result.status = .success then some .completed else none
  | .attempting _ frame => if frame.result.status = .success then some .unmarked else none

/-- A `CancelledError` comes out of the emission of `mark_step_complete`, after
the step was marked. -/
def Aborts : Point → Input → Prop
  | .attempting .markingComplete _, input => input.signal = .raised .cancelled
  | _, _ => False

instance (point : Point) (input : Input) : Decidable (Aborts point input) :=
  match point with
  | .attempting stage _ =>
      match stage with
      | .markingComplete => inferInstanceAs (Decidable (input.signal = .raised .cancelled))
      | .body | .mapping _ | .storing | .postHook _ | .verifying | .failingVerification =>
          isFalse not_false
  | .markingStart _ | .preHook _ _ | .preparing _ _ _ | .rejecting _ _ _ | .backoff _
  | .errorHook _ _ | .markingFailed _ => isFalse not_false

/-- The turn leaves the step marked as its next await or its end requires, and
every other step as it was. -/
def Sound (definition : StepDefinition) (ctx : Context) (turn : Turn) : Prop :=
  turn.1.Marked mark definition.name turn.2 ∧
    ∀ other, other ≠ definition.name → SameMarks other ctx turn.2

section

variable {definition : StepDefinition} {ctx : Context} {frame : Frame}
  {point : Point} {shown : Mark}

private theorem sound_awaiting (marks : mark point = some shown)
    (shows : ctx.Shows definition.name shown) : Sound definition ctx (awaiting point ctx) :=
  ⟨⟨shown, marks, shows⟩, fun other _ => SameMarks.refl other ctx⟩

private theorem sound_raising {raised : Raised} (withheld : definition.name ∉ ctx.completedSteps) :
    Sound definition ctx (raising raised ctx) := by
  refine ⟨?_, fun other _ => SameMarks.refl other ctx⟩
  cases raised with
  | cancelled | timeout message | error failure => exact withheld

private theorem sound_returning {result : StepResult} (unsuccessful : result.status ≠ .success)
    (withheld : definition.name ∉ ctx.completedSteps) :
    Sound definition ctx (returning result ctx) := by
  refine ⟨?_, fun other _ => SameMarks.refl other ctx⟩
  change ctx.Shows definition.name (if result.status = .success then .completed else .withheld)
  rw [if_neg unsuccessful]
  exact withheld

private theorem sound_markFailed (unsuccessful : frame.result.status ≠ .success)
    (withheld : definition.name ∉ ctx.completedSteps) :
    Sound definition ctx (markFailed definition frame ctx) := by
  refine ⟨⟨.withheld, if_neg unsuccessful, withheld⟩, ?_⟩
  intro other differs
  exact SameMarks.markStepFailed ctx differs

private theorem sound_finish (unsuccessful : frame.result.status ≠ .success)
    (withheld : definition.name ∉ ctx.completedSteps) :
    Sound definition ctx (finish frame ctx) := by
  apply sound_returning _ withheld
  simp [StepResult.markComplete, unsuccessful]

private theorem sound_rejectInputs (error : String)
    (withheld : definition.name ∉ ctx.completedSteps) :
    Sound definition ctx (rejectInputs definition frame ctx error) := by
  apply sound_markFailed _ withheld
  simp [StepResult.markComplete]

private theorem sound_failInputContract (error : StepError)
    (unmarked : ctx.Shows definition.name .unmarked) :
    Sound definition ctx (failInputContract definition frame ctx error) := by
  unfold failInputContract
  cases definition.errorHooks with
  | zero => exact sound_rejectInputs error.message unmarked.1
  | succ left => exact sound_awaiting rfl unmarked

private theorem sound_startAttempt (unsuccessful : frame.result.status ≠ .success)
    (unmarked : ctx.Shows definition.name .unmarked) :
    Sound definition ctx (startAttempt definition frame ctx) := by
  unfold startAttempt
  split
  · exact sound_awaiting rfl unmarked
  · exact sound_finish unsuccessful unmarked.1

private theorem sound_failPreparation (raised : Raised)
    (unmarked : ctx.Shows definition.name .unmarked) :
    Sound definition ctx (failPreparation definition frame ctx raised) := by
  cases raised with
  | cancelled | timeout message => exact sound_raising unmarked.1
  | error failure =>
      simp only [failPreparation]
      split
      · exact sound_failInputContract failure unmarked
      · exact sound_raising unmarked.1

private theorem sound_prepareInputs (refresh : Bool) (input : Input)
    (unsuccessful : frame.result.status ≠ .success)
    (unmarked : ctx.Shows definition.name .unmarked) :
    Sound definition ctx (prepareInputs definition refresh frame ctx input) := by
  unfold prepareInputs
  split
  · exact sound_startAttempt unsuccessful unmarked
  · exact sound_awaiting (if_neg unsuccessful) unmarked
  · exact sound_failPreparation _ unmarked

variable (input : Input)

private theorem sound_runPreHooks (unsuccessful : frame.result.status ≠ .success)
    (unmarked : ctx.Shows definition.name .unmarked) :
    Sound definition ctx (runPreHooks definition frame ctx input) := by
  unfold runPreHooks
  split
  · exact sound_prepareInputs false input unsuccessful unmarked
  · exact sound_awaiting (if_neg unsuccessful) unmarked

private theorem sound_handleException (error : StepError)
    (unmarked : ctx.Shows definition.name .unmarked) :
    Sound definition ctx (handleException definition frame ctx error) := by
  unfold handleException
  split
  · exact sound_awaiting rfl unmarked
  · cases definition.errorHooks with
    | zero => exact sound_markFailed nofun unmarked.1
    | succ left => exact sound_awaiting rfl unmarked

private theorem sound_settleAttempt (succeeded : frame.result.status = .success)
    (unmarked : ctx.Shows definition.name .unmarked) :
    Sound definition ctx (settleAttempt definition frame ctx input) := by
  unfold settleAttempt
  split
  · exact sound_handleException _ unmarked
  · exact sound_prepareInputs true input nofun unmarked
  · refine ⟨⟨.completed, if_pos succeeded, ?_, unmarked.2⟩, ?_⟩
    · exact (Context.mem_markStepComplete_completed ctx definition.name _).mpr (.inr rfl)
    · intro other differs
      exact SameMarks.markStepComplete ctx differs

private theorem sound_runVerificationGate (succeeded : frame.result.status = .success)
    (unmarked : ctx.Shows definition.name .unmarked) :
    Sound definition ctx (runVerificationGate definition frame ctx input) := by
  unfold runVerificationGate
  split
  · exact sound_settleAttempt input succeeded unmarked
  · exact sound_awaiting (if_pos succeeded) unmarked

private theorem sound_runPostHooks (succeeded : frame.result.status = .success)
    (unmarked : ctx.Shows definition.name .unmarked) :
    Sound definition ctx (runPostHooks definition frame ctx input) := by
  unfold runPostHooks
  split
  · exact sound_runVerificationGate input succeeded unmarked
  · exact sound_awaiting (if_pos succeeded) unmarked

private theorem sound_verified (succeeded : frame.result.status = .success)
    (unmarked : ctx.Shows definition.name .unmarked) :
    Sound definition ctx (verified definition frame ctx input) := by
  unfold verified
  split
  · exact sound_settleAttempt input succeeded unmarked
  · split
    · refine ⟨⟨.withheld, rfl, unmarked.1⟩, ?_⟩
      intro other differs
      exact SameMarks.markStepFailed ctx differs
    · exact sound_settleAttempt input succeeded unmarked

private theorem sound_handleSuccess (unmarked : ctx.Shows definition.name .unmarked) :
    Sound definition ctx (handleSuccess definition frame ctx input) := by
  unfold handleSuccess
  split
  · exact sound_handleException _ unmarked
  · split
    · exact sound_awaiting rfl unmarked
    · exact sound_awaiting rfl unmarked

private theorem sound_resumeStage (stage : Stage)
    (marks : mark (.attempting stage frame) = some shown)
    (shows : ctx.Shows definition.name shown) :
    Sound definition ctx (resumeStage definition frame ctx input stage) := by
  cases stage with
  | body =>
      cases marks
      exact sound_handleSuccess input shows
  | failingVerification =>
      obtain ⟨unsuccessful, ⟨⟩⟩ := ite_none_left_eq_some.mp marks
      exact sound_returning unsuccessful shows
  | markingComplete =>
      obtain ⟨succeeded, ⟨⟩⟩ := ite_none_right_eq_some.mp marks
      refine ⟨?_, fun other _ => SameMarks.refl other ctx⟩
      change ctx.Shows definition.name (if _ = _ then .completed else .withheld)
      rw [if_pos (by simp [StepResult.markComplete, succeeded])]
      exact shows
  | mapping left =>
      obtain ⟨succeeded, ⟨⟩⟩ := ite_none_right_eq_some.mp marks
      cases left with
      | zero | succ left => exact sound_awaiting (if_pos succeeded) shows
  | storing =>
      obtain ⟨succeeded, ⟨⟩⟩ := ite_none_right_eq_some.mp marks
      exact sound_runPostHooks input succeeded shows
  | postHook left =>
      obtain ⟨succeeded, ⟨⟩⟩ := ite_none_right_eq_some.mp marks
      cases left with
      | zero => exact sound_runVerificationGate input succeeded shows
      | succ left => exact sound_awaiting (if_pos succeeded) shows
  | verifying =>
      obtain ⟨succeeded, ⟨⟩⟩ := ite_none_right_eq_some.mp marks
      exact sound_verified input succeeded shows

private theorem sound_resumeReturned (marks : mark point = some shown)
    (shows : ctx.Shows definition.name shown) :
    Sound definition ctx (resumeReturned definition ctx input point) := by
  cases point with
  | markingStart frame =>
      obtain ⟨unsuccessful, ⟨⟩⟩ := ite_none_left_eq_some.mp marks
      exact sound_runPreHooks input unsuccessful shows
  | preHook left frame =>
      obtain ⟨unsuccessful, ⟨⟩⟩ := ite_none_left_eq_some.mp marks
      cases left with
      | zero => exact sound_prepareInputs false input unsuccessful shows
      | succ left => exact sound_awaiting (if_neg unsuccessful) shows
  | preparing left refresh frame =>
      obtain ⟨unsuccessful, ⟨⟩⟩ := ite_none_left_eq_some.mp marks
      cases left with
      | zero => exact sound_startAttempt unsuccessful shows
      | succ left => exact sound_awaiting (if_neg unsuccessful) shows
  | rejecting left error frame =>
      cases marks
      cases left with
      | zero => exact sound_rejectInputs error shows.1
      | succ left => exact sound_awaiting rfl shows
  | attempting stage frame => exact sound_resumeStage input stage marks shows
  | backoff frame =>
      obtain ⟨unsuccessful, ⟨⟩⟩ := ite_none_left_eq_some.mp marks
      exact sound_startAttempt unsuccessful shows
  | errorHook left frame =>
      cases marks
      cases left with
      | zero => exact sound_markFailed nofun shows.1
      | succ left => exact sound_awaiting rfl shows
  | markingFailed frame =>
      obtain ⟨unsuccessful, ⟨⟩⟩ := ite_none_left_eq_some.mp marks
      exact sound_returning unsuccessful shows

/-- Where the await does not follow `mark_step_complete`, the step is not marked
complete. -/
private theorem withheld_of_mark (marks : mark point = some shown)
    (shows : ctx.Shows definition.name shown)
    (elsewhere : ∀ frame, point ≠ .attempting .markingComplete frame) :
    definition.name ∉ ctx.completedSteps := by
  cases shown with
  | unmarked => exact shows.1
  | withheld => exact shows
  | completed =>
      cases point with
      | attempting stage frame =>
          cases stage with
          | markingComplete => exact absurd rfl (elsewhere frame)
          | _ => simp [mark] at marks
      | _ => simp [mark] at marks
  | free =>
      cases point with
      | attempting stage frame => cases stage <;> simp [mark] at marks
      | _ => simp [mark] at marks

private theorem sound_attemptRaised (raised : Raised) {stage : Stage}
    (marks : mark (.attempting stage frame) = some shown) (shows : ctx.Shows definition.name shown)
    (settled : stage ≠ .markingComplete) (guarded : stage = .failingVerification →
      raised = .cancelled) : Sound definition ctx (handleRaised definition frame ctx raised) := by
  have withheld := withheld_of_mark marks shows (by
    intro other same
    cases same
    exact settled rfl)
  cases raised with
  | cancelled | timeout message => exact sound_markFailed nofun withheld
  | error failure =>
      have unmarked : ctx.Shows definition.name .unmarked := by
        cases stage with
        | body =>
            cases marks
            exact shows
        | failingVerification => cases guarded rfl
        | markingComplete => exact absurd rfl settled
        | _ =>
            obtain ⟨_, ⟨⟩⟩ := ite_none_right_eq_some.mp marks
            exact shows
      exact sound_handleException failure unmarked

private theorem sound_resumeRaised (raised : Raised) (marks : mark point = some shown)
    (shows : ctx.Shows definition.name shown)
    (elsewhere : ∀ frame, point ≠ .attempting .markingComplete frame)
    (guarded : point.Guarded → raised = .cancelled) :
    Sound definition ctx (resumeRaised definition ctx input raised point) := by
  have withheld := withheld_of_mark marks shows elsewhere
  cases point with
  | markingStart frame | backoff frame | markingFailed frame => exact sound_raising withheld
  | preHook left frame =>
      simp only [resumeRaised]
      split
      · exact sound_raising withheld
      · exact sound_markFailed nofun withheld
  | preparing left refresh frame =>
      obtain ⟨_, ⟨⟩⟩ := ite_none_left_eq_some.mp marks
      exact sound_failPreparation raised shows
  | rejecting left error frame | errorHook left frame =>
      simp only [resumeRaised]
      split
      · exact sound_raising withheld
      · exact sound_resumeReturned input marks shows
  | attempting stage frame =>
      apply sound_attemptRaised raised marks shows
      · intro same
        exact elsewhere frame (same ▸ rfl)
      · intro same
        subst same
        exact guarded trivial

private theorem sound_enter (unmarked : ctx.Shows definition.name .unmarked) :
    Sound definition ctx (enter definition ctx input) := by
  unfold enter
  split
  · exact sound_raising unmarked.1
  · exact sound_returning nofun unmarked.1
  · split
    · exact sound_returning nofun unmarked.1
    · exact ⟨⟨.unmarked, rfl, unmarked⟩, fun other _ => ⟨Iff.rfl, Iff.rfl⟩⟩

private theorem sound_resume {turn : Turn} (resumed : resume definition point ctx input = some turn)
    (kept : ¬ Aborts point input) (marks : mark point = some shown)
    (shows : ctx.Shows definition.name shown) :
    Sound definition ctx turn := by
  unfold resume at resumed
  split at resumed
  · cases resumed
    exact sound_resumeReturned input marks shows
  · rename_i raised signal
    split at resumed
    · cases resumed
    · rename_i allowed
      rw [not_and, not_not] at allowed
      cases resumed
      apply sound_resumeRaised input raised marks shows _ allowed
      intro frame same
      subst same
      apply kept
      change input.signal = .raised .cancelled
      rw [signal, allowed trivial]
  · cases resumed

private theorem sound_cancel {turn : Turn}
    (cancelled : cancel definition point ctx input = some turn) (kept : ¬ Aborts point input)
    (marks : mark point = some shown) (shows : ctx.Shows definition.name shown) :
    Sound definition ctx turn := by
  unfold cancel at cancelled
  split at cancelled
  · exact sound_resume input cancelled kept marks shows
  · cases cancelled
  · cases cancelled
    exact sound_awaiting marks shows
  · exact sound_resume input cancelled kept marks shows

end

/-- `StepExecutor` leaves the mark its result stands for, unless its last
emission is aborted. -/
def marks : executor.Marks Aborts where
  mark := mark
  enter definition ctx input progress after entered unmarked := by
    have sound := sound_enter input unmarked
    rw [some.inj entered] at sound
    exact sound
  resume definition point ctx input progress after shown resumed kept marks shows :=
    sound_resume input resumed kept marks shows
  cancel definition point ctx input progress after shown cancelled kept marks shows :=
    sound_cancel input cancelled kept marks shows

end StepExecutor

end AgenticRuntime
