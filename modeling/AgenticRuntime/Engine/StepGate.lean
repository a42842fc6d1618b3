/-
What the dependency gate of a step's dependents relies on: a step that succeeds is
marked complete and not failed, and only the conditions of a step skip it.

Unlike the marks of a whole run this holds however the step is cancelled: where the
last emission is aborted the step is doomed to fail, and a failed step opens no gate.
-/

import AgenticRuntime.Engine.StepMarks

namespace AgenticRuntime

namespace StepExecutor

def Point.frame : Point → Frame
  | .markingStart frame => frame
  | .preHook _ frame => frame
  | .preparing _ _ frame => frame
  | .rejecting _ _ frame => frame
  | .attempting _ frame => frame
  | .backoff frame => frame
  | .errorHook _ frame => frame
  | .markingFailed frame => frame

/-- The `when` and `unless` part of `should_run`. -/
def ownConditions (input : Input) : Answer Bool :=
  match input.whenHolds with
  | .raises error => .raises error
  | .value false => .value false
  | .value true =>
      match input.unlessHolds with
      | .raises error => .raises error
      | .value excluded => .value (!excluded)

theorem shouldRun_of_dependencies {definition : StepDefinition} {ctx : Context} (input : Input)
    (met : ∀ dep, dep ∈ definition.dependsOn →
      dep ∈ ctx.completedSteps ∧ dep ∉ ctx.failedSteps) :
    shouldRun definition ctx input = ownConditions input := by
  rw [shouldRun, if_pos]
  · rfl
  · apply List.all_eq_true.mpr
    intro dep edge
    obtain ⟨complete, unfailed⟩ := met dep edge
    rw [Bool.and_eq_true, Bool.not_eq_true']
    exact ⟨decide_eq_true complete, decide_eq_false unfailed⟩

/-! ### Past its conditions a step is not skipped -/

def Unskipped (turn : Turn) : Prop :=
  match turn.1 with
  | .awaiting point => point.frame.result.status ≠ .skipped
  | .finished (.returned result) => result.status ≠ .skipped
  | .finished (.raised _ _) => True

section

variable {definition : StepDefinition} {ctx : Context} {frame : Frame}

private theorem unskipped_raising (raised : Raised) : Unskipped (raising raised ctx) := by
  cases raised <;> trivial

private theorem unskipped_finish : Unskipped (finish frame ctx) :=
  frame.result.markComplete_ne_skipped _ _

private theorem unskipped_startAttempt (unskipped : frame.result.status ≠ .skipped) :
    Unskipped (startAttempt definition frame ctx) := by
  rw [startAttempt]
  split
  · exact unskipped
  · exact unskipped_finish

private theorem unskipped_failInputContract (error : StepError)
    (unskipped : frame.result.status ≠ .skipped) :
    Unskipped (failInputContract definition frame ctx error) := by
  rw [failInputContract]
  split
  · exact nofun
  · exact unskipped

private theorem unskipped_failPreparation (raised : Raised)
    (unskipped : frame.result.status ≠ .skipped) :
    Unskipped (failPreparation definition frame ctx raised) := by
  cases raised with
  | error failure =>
      simp only [failPreparation]
      split
      · exact unskipped_failInputContract failure unskipped
      · exact unskipped_raising _
  | _ => exact unskipped_raising _

private theorem unskipped_prepareInputs (refresh : Bool) (input : Input)
    (unskipped : frame.result.status ≠ .skipped) :
    Unskipped (prepareInputs definition refresh frame ctx input) := by
  rw [prepareInputs]
  split
  · exact unskipped_startAttempt unskipped
  · exact unskipped
  · exact unskipped_failPreparation _ unskipped

private theorem unskipped_handleException (error : StepError)
    (unskipped : frame.result.status ≠ .skipped) :
    Unskipped (handleException definition frame ctx error) := by
  rw [handleException]
  split
  · exact nofun
  · split
    · exact nofun
    · exact unskipped

private theorem unskipped_handleRaised (raised : Raised)
    (unskipped : frame.result.status ≠ .skipped) :
    Unskipped (handleRaised definition frame ctx raised) := by
  cases raised with
  | cancelled => exact nofun
  | timeout message => exact nofun
  | error failure => exact unskipped_handleException failure unskipped

variable (input : Input)

private theorem unskipped_settleAttempt (unskipped : frame.result.status ≠ .skipped) :
    Unskipped (settleAttempt definition frame ctx input) := by
  rw [settleAttempt]
  split
  · exact unskipped_handleException _ unskipped
  · exact unskipped_prepareInputs true input nofun
  · exact unskipped

private theorem unskipped_runVerificationGate (unskipped : frame.result.status ≠ .skipped) :
    Unskipped (runVerificationGate definition frame ctx input) := by
  rw [runVerificationGate]
  split
  · exact unskipped_settleAttempt input unskipped
  · exact unskipped

private theorem unskipped_verified (unskipped : frame.result.status ≠ .skipped) :
    Unskipped (verified definition frame ctx input) := by
  rw [verified]
  split
  · exact unskipped_settleAttempt input unskipped
  · split
    · exact nofun
    · exact unskipped_settleAttempt input unskipped

private theorem unskipped_runPostHooks (unskipped : frame.result.status ≠ .skipped) :
    Unskipped (runPostHooks definition frame ctx input) := by
  rw [runPostHooks]
  split
  · exact unskipped_runVerificationGate input unskipped
  · exact unskipped

private theorem unskipped_handleSuccess (unskipped : frame.result.status ≠ .skipped) :
    Unskipped (handleSuccess definition frame ctx input) := by
  rw [handleSuccess]
  split
  · exact unskipped_handleException _ unskipped
  · dsimp only
    split <;> exact nofun

private theorem unskipped_resumeStage (stage : Stage) (unskipped : frame.result.status ≠ .skipped) :
    Unskipped (resumeStage definition frame ctx input stage) := by
  cases stage with
  | body => exact unskipped_handleSuccess input unskipped
  | mapping left => cases left <;> exact unskipped
  | storing => exact unskipped_runPostHooks input unskipped
  | postHook left =>
      cases left with
      | zero => exact unskipped_runVerificationGate input unskipped
      | succ left => exact unskipped
  | verifying => exact unskipped_verified input unskipped
  | failingVerification => exact unskipped
  | markingComplete => exact unskipped_finish

private theorem unskipped_resumeReturned {point : Point}
    (unskipped : point.frame.result.status ≠ .skipped) :
    Unskipped (resumeReturned definition ctx input point) := by
  cases point with
  | markingStart frame =>
      rw [resumeReturned, runPreHooks]
      split
      · exact unskipped_prepareInputs false input unskipped
      · exact unskipped
  | preHook left frame =>
      cases left with
      | zero => exact unskipped_prepareInputs false input unskipped
      | succ left => exact unskipped
  | preparing left refresh frame =>
      cases left with
      | zero => exact unskipped_startAttempt unskipped
      | succ left => exact unskipped
  | rejecting left error frame | errorHook left frame =>
      cases left with
      | zero => exact nofun
      | succ left => exact unskipped
  | attempting stage frame => exact unskipped_resumeStage input stage unskipped
  | backoff frame => exact unskipped_startAttempt unskipped
  | markingFailed frame => exact unskipped

private theorem unskipped_resumeRaised (raised : Raised) {point : Point}
    (unskipped : point.frame.result.status ≠ .skipped) :
    Unskipped (resumeRaised definition ctx input raised point) := by
  cases point with
  | preHook left frame =>
      rw [resumeRaised]
      split
      · exact unskipped_raising raised
      · intro impossible
        cases impossible
  | preparing left refresh frame => exact unskipped_failPreparation raised unskipped
  | attempting stage frame => exact unskipped_handleRaised raised unskipped
  | rejecting left error frame | errorHook left frame =>
      rw [resumeRaised]
      split
      · exact unskipped_raising raised
      · exact unskipped_resumeReturned input unskipped
  | markingStart frame | backoff frame | markingFailed frame => exact unskipped_raising raised

theorem unskipped_resume {point : Point} {input : Input} {turn : Turn}
    (unskipped : point.frame.result.status ≠ .skipped)
    (resumed : resume definition point ctx input = some turn) : Unskipped turn := by
  unfold resume at resumed
  split at resumed
  · cases resumed
    exact unskipped_resumeReturned input unskipped
  · split at resumed
    · cases resumed
    · cases resumed
      exact unskipped_resumeRaised input _ unskipped
  · cases resumed

theorem unskipped_cancel {point : Point} {input : Input} {turn : Turn}
    (unskipped : point.frame.result.status ≠ .skipped)
    (cancelled : cancel definition point ctx input = some turn) : Unskipped turn := by
  unfold cancel at cancelled
  split at cancelled
  · exact unskipped_resume unskipped cancelled
  · cases cancelled
  · cases cancelled
    exact unskipped
  · exact unskipped_resume unskipped cancelled

end

/-! ### What a step leaves for its dependents -/

def Doomed : Point → Prop
  | .markingFailed frame => frame.result.status = .failed
  | _ => False

def FitsOutcome (step : StepName) (ctx : Context) : TaskOutcome → Prop
  | .returned result =>
      (result.status = .success → ctx.Shows step .completed) ∧
        (result.status = .skipped → ctx.Shows step .unmarked)
  | .raised _ _ => True

def FitsPoint (step : StepName) (ctx : Context) (point : Point) : Prop :=
  point.frame.result.status ≠ .skipped ∧
    ((∃ shown, mark point = some shown ∧ ctx.Shows step shown) ∨ Doomed point)

def Fits (step : StepName) (turn : Turn) : Prop :=
  match turn.1 with
  | .awaiting point => FitsPoint step turn.2 point
  | .finished outcome => FitsOutcome step turn.2 outcome

variable {definition : StepDefinition} {ctx : Context}

private theorem fits_of_marked {turn : Turn} (unskipped : Unskipped turn)
    (marked : turn.1.Marked mark definition.name turn.2) : Fits definition.name turn := by
  obtain ⟨progress, after⟩ := turn
  cases progress with
  | awaiting point => exact ⟨unskipped, .inl marked⟩
  | finished outcome =>
      cases outcome with
      | raised errorType message => trivial
      | returned result =>
          constructor
          · intro success
            have shown : after.Shows definition.name
                (if result.status = .success then .completed else .withheld) := marked
            rw [if_pos success] at shown
            exact shown
          · intro skipped
            exact absurd skipped unskipped

private theorem marked_enter (input : Input) (unmarked : ctx.Shows definition.name .unmarked) :
    (enter definition ctx input).1.Marked mark definition.name (enter definition ctx input).2 ∧
      ∀ other, other ≠ definition.name → SameMarks other ctx (enter definition ctx input).2 :=
  marks.enter definition ctx input _ _ rfl unmarked

theorem fits_enter (input : Input) (unmarked : ctx.Shows definition.name .unmarked) :
    Fits definition.name (enter definition ctx input) := by
  have marked := (marked_enter input unmarked).1
  revert marked
  unfold enter
  dsimp only
  split
  · intro _
    trivial
  · intro _
    exact ⟨nofun, fun _ => unmarked⟩
  · split
    · intro marked
      exact fits_of_marked nofun marked
    · intro marked
      exact fits_of_marked nofun marked

theorem fits_resume {point : Point} {input : Input} {turn : Turn}
    (fits : FitsPoint definition.name ctx point)
    (resumed : resume definition point ctx input = some turn) :
    Fits definition.name turn ∧ ∀ other, other ≠ definition.name → SameMarks other ctx turn.2 := by
  by_cases aborted : Aborts point input
  · -- The step is complete already and ends up marked as failed too.
    obtain ⟨frame, same⟩ : ∃ frame, point = .attempting .markingComplete frame := by
      cases point with
      | attempting stage frame => cases stage <;> first | exact ⟨frame, rfl⟩ | cases aborted
      | _ => cases aborted
    subst same
    have signal : input.signal = .raised .cancelled := aborted
    simp only [resume, signal, ne_eq, not_true_eq_false, and_false, if_false, Option.some.injEq]
      at resumed
    subst resumed
    constructor
    · exact ⟨nofun, .inr rfl⟩
    · intro other differs
      exact SameMarks.markStepFailed ctx differs
  · rcases fits.2 with ⟨shown, expected, shows⟩ | doomed
    · obtain ⟨marked, others⟩ :=
        marks.resume definition point ctx input turn.1 turn.2 shown resumed aborted expected shows
      exact ⟨fits_of_marked (unskipped_resume fits.1 resumed) marked, others⟩
    · cases point with
      | markingFailed frame =>
          have failed : frame.result.status = .failed := doomed
          have unsuccessful : ¬ frame.result.status = .success := by
            rw [failed]
            exact nofun
          unfold resume at resumed
          split at resumed
          · cases resumed
            refine ⟨⟨?_, ?_⟩, fun other _ => SameMarks.refl other ctx⟩
            · intro success
              exact absurd success unsuccessful
            · intro skipped
              exact absurd skipped fits.1
          · split at resumed
            · cases resumed
            · cases resumed
              refine ⟨?_, fun other _ => SameMarks.refl other ctx⟩
              rename_i raised _ _
              cases raised <;> trivial
          · cases resumed
      | _ => cases doomed

theorem fits_cancel {point : Point} {input : Input} {turn : Turn}
    (fits : FitsPoint definition.name ctx point)
    (cancelled : cancel definition point ctx input = some turn) :
    Fits definition.name turn ∧ ∀ other, other ≠ definition.name → SameMarks other ctx turn.2 := by
  unfold cancel at cancelled
  split at cancelled
  · exact fits_resume fits cancelled
  · cases cancelled
  · cases cancelled
    exact ⟨fits, fun other _ => SameMarks.refl other ctx⟩
  · exact fits_resume fits cancelled

end StepExecutor

end AgenticRuntime
