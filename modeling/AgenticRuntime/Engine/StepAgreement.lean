/-
That the result `StepExecutor.execute` returns agrees with the marks and the view
of the step it leaves in the context.

The view is stored before the post-hooks, the verification and the loop condition
have had their say, and nothing takes it back.  So the agreement holds of the runs
in which no failure ends the step once a view that says `success` is stored.
-/

import AgenticRuntime.Engine.StepView

namespace AgenticRuntime

open Transition

namespace StepExecutor

section

variable {Output : Type}

/-- No stored view of the step says `success`. -/
def Record.Silent (record : Record Output) : Prop :=
  ∀ view, record.view = some view → view.status ≠ .success

/-- The stored view says `success` and has the outputs of the result. -/
def Record.Current (record : Record Output) : Prop :=
  record.view = some ⟨.success, record.outputData⟩

structure Agrees (definition : StepDefinition) (ctx : Context) (record : Record Output)
    (result : StepResult) : Prop where
  settled : result.status = .success ∨ result.status = .failed ∨ result.status = .skipped
  success : result.status = .success →
    definition.name ∈ ctx.completedSteps ∧ definition.name ∉ ctx.failedSteps ∧ record.Current
  failed : result.status = .failed →
    definition.name ∈ ctx.failedSteps ∧ definition.name ∉ ctx.completedSteps ∧ record.Silent

/-- No failure that ends the step is met while a stored view says `success`, and
the last emission of a completed step is not aborted. -/
def FailsUnseen (empty : Output) (definition : StepDefinition) (state : Tracked Output) :
    Move Output → Prop
  | .resume input writes | .cancel input writes =>
      match state.progress with
      | .finished _ => True
      | .awaiting point =>
          ¬ Aborts point input ∧
            ∀ tripped, trip definition input point = some tripped → tripped.Final definition →
              (state.record.after empty definition writes input point).Silent
  | .others _ => True

def Runnable (definition : StepDefinition) : Prop :=
  definition.func = true ∧ 0 ≤ definition.maxRetries

/-! ### What holds at each await -/

/-- The retry loop goes on when this attempt, or its refinement round, is over. -/
def Budget (definition : StepDefinition) (refresh : Bool) (frame : Frame) : Prop :=
  (((if refresh then frame.attempt - 1 else frame.attempt) : Nat) : Int) ≤ definition.maxRetries

def FailedMark (definition : StepDefinition) (ctx : Context) : Prop :=
  definition.name ∈ ctx.failedSteps ∧ definition.name ∉ ctx.completedSteps

def Consistent (definition : StepDefinition) (ctx : Context) (record : Record Output) :
    Point → Prop
  | .markingStart frame | .preHook _ frame | .backoff frame =>
      ctx.Shows definition.name .unmarked ∧ Budget definition false frame
  | .preparing _ refresh frame =>
      ctx.Shows definition.name .unmarked ∧ Budget definition refresh frame
  | .rejecting _ _ _ | .errorHook _ _ => ctx.Shows definition.name .unmarked ∧ record.Silent
  | .attempting .body frame => ctx.Shows definition.name .unmarked ∧ Budget definition true frame
  | .attempting (.mapping _) frame | .attempting .storing frame =>
      ctx.Shows definition.name .unmarked ∧ Budget definition true frame ∧
        frame.result.status = .success
  | .attempting (.postHook _) frame | .attempting .verifying frame =>
      ctx.Shows definition.name .unmarked ∧ Budget definition true frame ∧
        frame.result.status = .success ∧ record.Current
  | .attempting .markingComplete frame =>
      ctx.Shows definition.name .completed ∧ frame.result.status = .success ∧ record.Current
  | .attempting .failingVerification frame | .markingFailed frame =>
      FailedMark definition ctx ∧ frame.result.status = .failed ∧ record.Silent

def Accords (definition : StepDefinition) (record : Record Output) (turn : Turn) : Prop :=
  match turn.1 with
  | .awaiting point => Consistent definition turn.2 record point
  | .finished (.returned result) => Agrees definition turn.2 record result
  | .finished (.raised _ _) => True

section

variable {definition : StepDefinition} {ctx : Context} {frame : Frame} {record : Record Output}

private theorem accords_raising (raised : Raised) :
    Accords definition record (raising raised ctx) := by
  cases raised with
  | cancelled => trivial
  | timeout message => trivial
  | error failure => trivial

private theorem agrees_failed {result : StepResult} (failed : result.status = .failed)
    (marked : FailedMark definition ctx) (silent : record.Silent) :
    Agrees definition ctx record result := by
  refine ⟨.inr (.inl failed), ?_, fun _ => ⟨marked.1, marked.2, silent⟩⟩
  intro succeeded
  rw [failed] at succeeded
  cases succeeded

private theorem accords_markFailed (failed : frame.result.status = .failed)
    (withheld : definition.name ∉ ctx.completedSteps) (silent : record.Silent) :
    Accords definition record (markFailed definition frame ctx) := by
  refine ⟨⟨?_, withheld⟩, failed, silent⟩
  exact (Context.mem_markStepFailed_failed ctx definition.name _).mpr (.inr rfl)

private theorem accords_rejectInputs (error : String)
    (withheld : definition.name ∉ ctx.completedSteps) (silent : record.Silent) :
    Accords definition record (rejectInputs definition frame ctx error) :=
  accords_markFailed rfl withheld silent

private theorem accords_failInputContract (error : StepError)
    (unmarked : ctx.Shows definition.name .unmarked) (silent : record.Silent) :
    Accords definition record (failInputContract definition frame ctx error) := by
  unfold failInputContract
  cases definition.errorHooks with
  | zero => exact accords_rejectInputs error.message unmarked.1 silent
  | succ left => exact ⟨unmarked, silent⟩

private theorem accords_startAttempt (unmarked : ctx.Shows definition.name .unmarked)
    (budget : Budget definition false frame) :
    Accords definition record (startAttempt definition frame ctx) := by
  have goesOn : (frame.attempt : Int) ≤ definition.maxRetries := budget
  unfold startAttempt
  rw [if_pos goesOn]
  exact ⟨unmarked, goesOn⟩

private theorem accords_prepared {refresh : Bool} (unmarked : ctx.Shows definition.name .unmarked)
    (budget : Budget definition refresh frame) :
    Accords definition record (prepared definition refresh frame ctx) :=
  accords_startAttempt unmarked budget

private theorem accords_failPreparation (raised : Raised)
    (unmarked : ctx.Shows definition.name .unmarked)
    (silent : (Trip.preparation raised).Final definition → record.Silent) :
    Accords definition record (failPreparation definition frame ctx raised) := by
  cases raised with
  | cancelled | timeout message => exact accords_raising _
  | error failure =>
      simp only [failPreparation]
      split
      · rename_i contract
        exact accords_failInputContract failure unmarked (silent contract)
      · exact accords_raising _

private theorem accords_prepareInputs {refresh : Bool} (input : Input)
    (unmarked : ctx.Shows definition.name .unmarked) (budget : Budget definition refresh frame)
    (silent : ∀ tripped, inputsTrip input = some tripped → tripped.Final definition →
      record.Silent) :
    Accords definition record (prepareInputs definition refresh frame ctx input) := by
  unfold prepareInputs
  split
  · exact accords_prepared unmarked budget
  · exact ⟨unmarked, budget⟩
  · rename_i error raises
    apply accords_failPreparation _ unmarked
    exact silent _ (by simp only [inputsTrip, raises])

private theorem accords_runPreHooks (input : Input)
    (unmarked : ctx.Shows definition.name .unmarked) (budget : Budget definition false frame)
    (silent : definition.preHooks = 0 → ∀ tripped, inputsTrip input = some tripped →
      tripped.Final definition → record.Silent) :
    Accords definition record (runPreHooks definition frame ctx input) := by
  unfold runPreHooks
  split
  · rename_i none
    exact accords_prepareInputs input unmarked budget (silent none)
  · exact ⟨unmarked, budget⟩

private theorem accords_handleException (error : StepError)
    (unmarked : ctx.Shows definition.name .unmarked)
    (silent : (Trip.attempt frame (.error error)).Final definition → record.Silent) :
    Accords definition record (handleException definition frame ctx error) := by
  unfold handleException
  split
  · rename_i again
    exact ⟨unmarked, again.1⟩
  · rename_i final
    cases definition.errorHooks with
    | zero => exact accords_markFailed rfl unmarked.1 (silent final)
    | succ left => exact ⟨unmarked, silent final⟩

private theorem accords_handleRaised (raised : Raised)
    (unmarked : ctx.Shows definition.name .unmarked)
    (silent : (Trip.attempt frame raised).Final definition → record.Silent) :
    Accords definition record (handleRaised definition frame ctx raised) := by
  cases raised with
  | cancelled | timeout message => exact accords_markFailed rfl unmarked.1 (silent trivial)
  | error failure => exact accords_handleException failure unmarked silent

private theorem accords_settleAttempt (input : Input)
    (unmarked : ctx.Shows definition.name .unmarked) (budget : Budget definition true frame)
    (succeeded : frame.result.status = .success)
    (current : settleTrip definition frame input = none → record.Current)
    (silent : ∀ tripped, settleTrip definition frame input = some tripped →
      tripped.Final definition → record.Silent) :
    Accords definition record (settleAttempt definition frame ctx input) := by
  unfold settleAttempt
  unfold settleTrip at current silent
  split
  · rename_i error decided
    rw [decided] at silent
    exact accords_handleException error unmarked (silent _ rfl)
  · rename_i decided
    rw [decided] at silent
    exact accords_prepareInputs input unmarked budget silent
  · rename_i decided
    rw [decided] at current
    refine ⟨⟨?_, unmarked.2⟩, succeeded, current rfl⟩
    exact (Context.mem_markStepComplete_completed ctx definition.name _).mpr (.inr rfl)

private theorem accords_runVerificationGate (input : Input)
    (unmarked : ctx.Shows definition.name .unmarked) (budget : Budget definition true frame)
    (succeeded : frame.result.status = .success)
    (current : gateTrip definition frame input = none → record.Current)
    (silent : ∀ tripped, gateTrip definition frame input = some tripped →
      tripped.Final definition → record.Silent) :
    Accords definition record (runVerificationGate definition frame ctx input) := by
  unfold runVerificationGate
  unfold gateTrip at current silent
  split
  · rename_i ungated
    rw [ungated] at current silent
    exact accords_settleAttempt input unmarked budget succeeded current silent
  · rename_i gated
    rw [gated] at current
    exact ⟨unmarked, budget, succeeded, current rfl⟩

private theorem accords_runPostHooks (input : Input)
    (unmarked : ctx.Shows definition.name .unmarked) (budget : Budget definition true frame)
    (succeeded : frame.result.status = .success)
    (current : stageTrip definition frame input .storing = none → record.Current)
    (silent : ∀ tripped, stageTrip definition frame input .storing = some tripped →
      tripped.Final definition → record.Silent) :
    Accords definition record (runPostHooks definition frame ctx input) := by
  unfold runPostHooks
  unfold stageTrip at current silent
  split
  · rename_i hookless
    rw [if_pos hookless] at current silent
    exact accords_runVerificationGate input unmarked budget succeeded current silent
  · rename_i left hooked
    rw [if_neg (by rw [hooked]; exact Nat.succ_ne_zero left)] at current
    exact ⟨unmarked, budget, succeeded, current rfl⟩

private theorem accords_verified (input : Input)
    (unmarked : ctx.Shows definition.name .unmarked) (budget : Budget definition true frame)
    (succeeded : frame.result.status = .success)
    (current : stageTrip definition frame input .verifying = none → record.Current)
    (silent : ∀ tripped, stageTrip definition frame input .verifying = some tripped →
      tripped.Final definition → record.Silent) :
    Accords definition record (verified definition frame ctx input) := by
  unfold verified
  unfold stageTrip at current silent
  split
  · rename_i passed
    rw [passed] at current silent
    exact accords_settleAttempt input unmarked budget succeeded current silent
  · rename_i checks failing
    rw [failing] at current silent
    split
    · rename_i blocking
      simp only [if_pos blocking] at silent
      refine ⟨⟨?_, unmarked.1⟩, rfl, silent _ rfl trivial⟩
      exact (Context.mem_markStepFailed_failed ctx definition.name _).mpr (.inr rfl)
    · rename_i reporting
      simp only [if_neg reporting] at current silent
      exact accords_settleAttempt input unmarked budget succeeded current silent

private theorem accords_handleSuccess (input : Input)
    (unmarked : ctx.Shows definition.name .unmarked) (budget : Budget definition true frame)
    (silent : ∀ tripped, stageTrip definition frame input .body = some tripped →
      tripped.Final definition → record.Silent) :
    Accords definition record (handleSuccess definition frame ctx input) := by
  unfold handleSuccess
  unfold stageTrip at silent
  split
  · rename_i error raises
    rw [raises] at silent
    exact accords_handleException error unmarked (silent _ rfl)
  · split
    · exact ⟨unmarked, budget, rfl⟩
    · exact ⟨unmarked, budget, rfl⟩

/-! ### One move -/

variable {empty : Output} {writes : Writes Output} {input : Input} {point : Point}

theorem after_of_no_trip (smooth : trip definition input point = none) :
    record.after empty definition writes input point = record.write writes input point := by
  simp only [Record.after, smooth]

theorem view_after (point : Point) :
    (record.after empty definition writes input point).view =
      (record.write writes input point).view := by
  unfold Record.after
  split
  · rfl
  · split
    · rfl
    · rfl

theorem silent_after (still : record.write writes input point = record) (silent : record.Silent) :
    (record.after empty definition writes input point).Silent := by
  intro view stored
  rw [view_after, still] at stored
  exact silent view stored

theorem current_after (still : record.write writes input point = record)
    (smooth : trip definition input point = none) (current : record.Current) :
    (record.after empty definition writes input point).Current := by
  rw [after_of_no_trip smooth, still]
  exact current

private theorem accords_resumeStage {stage : Stage} (returned : input.signal = .returned)
    (consistent : Consistent definition ctx record (.attempting stage frame))
    (silent : ∀ tripped, trip definition input (.attempting stage frame) = some tripped →
      tripped.Final definition →
        (record.after empty definition writes input (.attempting stage frame)).Silent) :
    Accords definition (record.after empty definition writes input (.attempting stage frame))
      (resumeStage definition frame ctx input stage) := by
  have stageOnly : trip definition input (.attempting stage frame) =
      stageTrip definition frame input stage := by
    simp only [trip, returned, returnTrip]
  have quiet : ∀ current : record.write writes input (.attempting stage frame) = record,
      record.Current → stageTrip definition frame input stage = none →
        (record.after empty definition writes input (.attempting stage frame)).Current := by
    intro still current smooth
    exact current_after still (stageOnly.trans smooth) current
  rw [stageOnly] at silent
  cases stage with
  | body => exact accords_handleSuccess input consistent.1 consistent.2 silent
  | mapping left =>
      cases left with
      | zero | succ left => exact consistent
  | storing =>
      obtain ⟨unmarked, budget, succeeded⟩ := consistent
      apply accords_runPostHooks input unmarked budget succeeded _ silent
      intro smooth
      rw [after_of_no_trip (stageOnly.trans smooth)]
      simp only [Record.write, returned, if_true, Record.Current, succeeded]
  | postHook left =>
      obtain ⟨unmarked, budget, succeeded, current⟩ := consistent
      cases left with
      | zero =>
          exact accords_runVerificationGate input unmarked budget succeeded (quiet rfl current)
            silent
      | succ left => exact ⟨unmarked, budget, succeeded, quiet rfl current rfl⟩
  | verifying =>
      obtain ⟨unmarked, budget, succeeded, current⟩ := consistent
      exact accords_verified input unmarked budget succeeded (quiet rfl current) silent
  | failingVerification =>
      obtain ⟨marked, failed, unseen⟩ := consistent
      exact agrees_failed failed marked (silent_after rfl unseen)
  | markingComplete =>
      obtain ⟨completed, succeeded, current⟩ := consistent
      have status : (frame.result.markComplete (frame.result.status = .success)
          frame.result.error).status = .success := by
        simp [StepResult.markComplete, succeeded]
      refine ⟨.inl status, fun _ => ⟨completed.1, completed.2, quiet rfl current rfl⟩, ?_⟩
      intro failed
      rw [status] at failed
      cases failed

private theorem accords_resumeReturned (returned : input.signal = .returned)
    (consistent : Consistent definition ctx record point)
    (silent : ∀ tripped, trip definition input point = some tripped → tripped.Final definition →
      (record.after empty definition writes input point).Silent) :
    Accords definition (record.after empty definition writes input point)
      (resumeReturned definition ctx input point) := by
  have returnOnly : trip definition input point = returnTrip definition input point := by
    simp only [trip, returned]
  cases point with
  | markingStart frame =>
      apply accords_runPreHooks input consistent.1 consistent.2
      intro hookless
      rw [returnOnly, returnTrip, if_pos hookless] at silent
      exact silent
  | preHook left frame =>
      cases left with
      | zero =>
          rw [returnOnly] at silent
          exact accords_prepareInputs input consistent.1 consistent.2 silent
      | succ left => exact consistent
  | preparing left refresh frame =>
      cases left with
      | zero => exact accords_prepared consistent.1 consistent.2
      | succ left => exact consistent
  | rejecting left error frame =>
      have unseen : (record.after empty definition writes input
          (.rejecting left error frame)).Silent := silent_after rfl consistent.2
      cases left with
      | zero => exact accords_rejectInputs error consistent.1.1 unseen
      | succ left => exact ⟨consistent.1, unseen⟩
  | attempting stage frame => exact accords_resumeStage returned consistent silent
  | backoff frame => exact accords_startAttempt consistent.1 consistent.2
  | errorHook left frame =>
      have unseen : (record.after empty definition writes input
          (.errorHook left frame)).Silent := silent_after rfl consistent.2
      cases left with
      | zero => exact accords_markFailed rfl consistent.1.1 unseen
      | succ left => exact ⟨consistent.1, unseen⟩
  | markingFailed frame =>
      obtain ⟨marked, failed, unseen⟩ := consistent
      exact agrees_failed failed marked (silent_after rfl unseen)

private theorem accords_attemptRaised {stage : Stage} {raised : Raised}
    (signal : input.signal = .raised raised)
    (consistent : Consistent definition ctx record (.attempting stage frame))
    (kept : ¬ Aborts (.attempting stage frame) input)
    (guarded : Point.Guarded (.attempting stage frame) → raised = .cancelled)
    (silent : ∀ tripped, trip definition input (.attempting stage frame) = some tripped →
      tripped.Final definition →
        (record.after empty definition writes input (.attempting stage frame)).Silent) :
    Accords definition (record.after empty definition writes input (.attempting stage frame))
      (handleRaised definition frame ctx raised) := by
  have raiseOnly : trip definition input (.attempting stage frame) =
      some (.attempt frame raised) := by
    simp only [trip, signal, raiseTrip]
  have unseen := silent _ raiseOnly
  cases stage with
  | failingVerification =>
      have cancelled := guarded trivial
      subst cancelled
      obtain ⟨marked, _, _⟩ := consistent
      exact accords_markFailed rfl marked.2 (unseen trivial)
  | markingComplete =>
      have cancelled := guarded trivial
      subst cancelled
      exact absurd signal kept
  | body | mapping left | storing | postHook left | verifying =>
      exact accords_handleRaised raised consistent.1 unseen

private theorem accords_resumeRaised {raised : Raised} (signal : input.signal = .raised raised)
    (consistent : Consistent definition ctx record point) (kept : ¬ Aborts point input)
    (guarded : point.Guarded → raised = .cancelled)
    (silent : ∀ tripped, trip definition input point = some tripped → tripped.Final definition →
      (record.after empty definition writes input point).Silent) :
    Accords definition (record.after empty definition writes input point)
      (resumeRaised definition ctx input raised point) := by
  have raiseOnly : trip definition input point = raiseTrip raised point := by
    simp only [trip, signal]
  cases point with
  | markingStart frame | backoff frame | markingFailed frame => exact accords_raising raised
  | preHook left frame =>
      simp only [resumeRaised]
      split
      · exact accords_raising raised
      · rename_i notCancelled
        exact accords_markFailed rfl consistent.1.1 (silent _ raiseOnly notCancelled)
  | preparing left refresh frame =>
      exact accords_failPreparation raised consistent.1 (silent _ raiseOnly)
  | attempting stage frame => exact accords_attemptRaised signal consistent kept guarded silent
  | rejecting left error frame =>
      have unseen : (record.after empty definition writes input
          (.rejecting left error frame)).Silent := silent_after rfl consistent.2
      simp only [resumeRaised]
      split
      · exact accords_raising raised
      · cases left with
        | zero => exact accords_rejectInputs error consistent.1.1 unseen
        | succ left => exact ⟨consistent.1, unseen⟩
  | errorHook left frame =>
      have unseen : (record.after empty definition writes input
          (.errorHook left frame)).Silent := silent_after rfl consistent.2
      simp only [resumeRaised]
      split
      · exact accords_raising raised
      · cases left with
        | zero => exact accords_markFailed rfl consistent.1.1 unseen
        | succ left => exact ⟨consistent.1, unseen⟩

private theorem accords_resume {turn : Turn}
    (resumed : resume definition point ctx input = some turn)
    (consistent : Consistent definition ctx record point) (kept : ¬ Aborts point input)
    (silent : ∀ tripped, trip definition input point = some tripped → tripped.Final definition →
      (record.after empty definition writes input point).Silent) :
    Accords definition (record.after empty definition writes input point) turn := by
  unfold resume at resumed
  split at resumed
  · rename_i returned
    cases resumed
    exact accords_resumeReturned returned consistent silent
  · rename_i raised signal
    split at resumed
    · cases resumed
    · rename_i allowed
      rw [not_and, not_not] at allowed
      cases resumed
      exact accords_resumeRaised signal consistent kept allowed silent
  · cases resumed

/-- An await that goes on after a cancellation may have written the `steps`
variable, which matters at no await of a mapping. -/
private theorem consistent_waiting (waits : input.signal = .waits)
    (consistent : Consistent definition ctx record point) :
    Consistent definition ctx (record.after empty definition writes input point) point := by
  have smooth : trip definition input point = none := by
    simp only [trip, waits]
  rw [after_of_no_trip smooth]
  cases point with
  | attempting stage frame =>
      cases stage with
      | body | mapping left | storing | postHook left | verifying | failingVerification
      | markingComplete => exact consistent
  | _ => exact consistent

private theorem accords_cancel {turn : Turn}
    (cancelled : cancel definition point ctx input = some turn)
    (consistent : Consistent definition ctx record point) (kept : ¬ Aborts point input)
    (silent : ∀ tripped, trip definition input point = some tripped → tripped.Final definition →
      (record.after empty definition writes input point).Silent) :
    Accords definition (record.after empty definition writes input point) turn := by
  unfold cancel at cancelled
  split at cancelled
  · exact accords_resume cancelled consistent kept silent
  · cases cancelled
  · rename_i waits _
    cases cancelled
    exact consistent_waiting waits consistent
  · exact accords_resume cancelled consistent kept silent

private theorem accords_enter
    (runnable : shouldRun definition ctx input = .value true → Runnable definition)
    (unmarked : ctx.Shows definition.name .unmarked) :
    Accords definition record (enter definition ctx input) := by
  unfold enter
  split
  · exact accords_raising _
  · exact ⟨.inr (.inr rfl), nofun, nofun⟩
  · rename_i runs
    split
    · rename_i bodiless
      rw [(runnable runs).1] at bodiless
      cases bodiless
    · exact ⟨unmarked, (runnable runs).2⟩

end

/-! ### Whole runs -/

variable {definition : StepDefinition} {empty : Output}

theorem keepsMarks_iff {step : StepName} {before after : Context} :
    keepsMarks step before after = true ↔ SameMarks step before after := by
  constructor
  · intro kept
    have both := of_decide_eq_true kept
    exact ⟨both.1, both.2⟩
  · intro same
    exact decide_eq_true ⟨same.completed, same.failed⟩

theorem FailedMark.of_sameMarks {before after : Context} (same : SameMarks definition.name before after)
    (marked : FailedMark definition before) : FailedMark definition after :=
  ⟨same.failed.mpr marked.1, fun completed => marked.2 (same.completed.mp completed)⟩

private theorem consistent_of_sameMarks {before after : Context} {record : Record Output}
    {point : Point} (same : SameMarks definition.name before after)
    (consistent : Consistent definition before record point) :
    Consistent definition after record point := by
  cases point with
  | markingStart frame | preHook left frame | preparing left refresh frame
  | rejecting left error frame | backoff frame | errorHook left frame =>
      exact ⟨same.shows consistent.1, consistent.2⟩
  | markingFailed frame => exact ⟨consistent.1.of_sameMarks same, consistent.2⟩
  | attempting stage frame =>
      cases stage with
      | failingVerification => exact ⟨consistent.1.of_sameMarks same, consistent.2⟩
      | body | mapping left | storing | postHook left | verifying | markingComplete =>
          exact ⟨same.shows consistent.1, consistent.2⟩

private theorem accords_of_sameMarks {before after : Context} {record : Record Output}
    {progress : Progress Point} (same : SameMarks definition.name before after)
    (accords : Accords definition record (progress, before)) :
    Accords definition record (progress, after) := by
  cases progress with
  | awaiting point => exact consistent_of_sameMarks same accords
  | finished outcome =>
      cases outcome with
      | raised errorType message => trivial
      | returned result =>
          refine ⟨accords.settled, ?_, ?_⟩
          · intro succeeded
            obtain ⟨completed, unfailed, current⟩ := accords.success succeeded
            exact ⟨same.completed.mpr completed, fun failed => unfailed (same.failed.mp failed),
              current⟩
          · intro failed
            obtain ⟨marked, withheld, silent⟩ := accords.failed failed
            exact ⟨same.failed.mpr marked, fun completed => withheld (same.completed.mp completed),
              silent⟩

theorem accords_nextMove {state after : Tracked Output} {move : Move Output}
    (taken : nextMove empty definition state move = some after)
    (accords : Accords definition state.record (state.progress, state.ctx))
    (unseen : FailsUnseen empty definition state move) :
    Accords definition after.record (after.progress, after.ctx) := by
  cases move with
  | resume input writes | cancel input writes =>
      unfold nextMove at taken
      simp only [FailsUnseen] at unseen
      cases here : state.progress with
      | finished outcome => simp [here] at taken
      | awaiting point =>
          rw [here] at accords
          simp only [here, Option.map_eq_some_iff] at taken unseen
          obtain ⟨turn, resumed, same⟩ := taken
          subst same
          first
          | exact accords_resume resumed accords unseen.1 unseen.2
          | exact accords_cancel resumed accords unseen.1 unseen.2
  | others ctx =>
      simp only [nextMove] at taken
      split at taken
      · rename_i kept
        cases taken
        exact accords_of_sameMarks (keepsMarks_iff.mp kept) accords
      · cases taken

/-- Whenever `execute` returns, its result agrees with the context, in every run
in which no failure ends the step over a view that says `success`. -/
theorem result_agrees_with_context {ctx : Context} {input : Input}
    (runnable : shouldRun definition ctx input = .value true → Runnable definition)
    (unmarked : ctx.Shows definition.name .unmarked) (record : Record Output)
    {moves : List (Move Output)} {state : Tracked Output} {result : StepResult}
    (run : replay (nextMove empty definition) (start definition ctx input record) moves =
      some state)
    (unseen : Transition.Along (nextMove empty definition) (FailsUnseen empty definition)
      (start definition ctx input record) moves)
    (returned : state.progress = .finished (.returned result)) :
    Agrees definition state.ctx state.record result := by
  have accords : Accords definition state.record (state.progress, state.ctx) := by
    apply replay_invariant_along _ _ unseen run
    · intro before move after held allowed taken
      exact accords_nextMove taken held allowed
    · exact accords_enter runnable unmarked
  rw [returned] at accords
  exact accords

end

/-! ### Two runs -/

def reviewStep : StepDefinition := { name := "review", maxRetries := 1, postHooks := 1 }

def flaky : Input :=
  { signal := .raised (.error { errorType := "ValueError", message := "no JSON" }) }

theorem settleTrip_default (definition : StepDefinition) (frame : Frame) :
    settleTrip definition frame {} = none := by
  unfold settleTrip shouldLoopAgain
  split
  · rename_i decided
    split at decided
    · cases decided
    · cases decided
  · rfl
  · rfl

theorem stageTrip_default (definition : StepDefinition) (frame : Frame) (stage : Stage) :
    stageTrip definition frame {} stage = none := by
  have gate : gateTrip definition frame {} = none := by
    unfold gateTrip
    split
    · exact settleTrip_default definition frame
    · rfl
  cases stage with
  | storing =>
      simp only [stageTrip, gate]
      split
      · rfl
      · rfl
  | postHook left =>
      cases left with
      | zero => exact gate
      | succ left => rfl
  | verifying => exact settleTrip_default definition frame
  | _ => rfl

theorem failsUnseen_default {Output : Type} {empty : Output} {definition : StepDefinition}
    (state : Tracked Output) (writes : Writes Output) :
    FailsUnseen empty definition state (.resume {} writes) := by
  simp only [FailsUnseen]
  split
  · trivial
  · rename_i point _
    constructor
    · intro aborted
      cases point with
      | attempting stage frame => cases stage <;> cases aborted
      | _ => cases aborted
    · intro tripped met
      have smooth : trip definition {} point = none := by
        change returnTrip definition {} point = none
        cases point with
        | attempting stage frame => exact stageTrip_default definition frame stage
        | markingStart frame =>
            simp only [returnTrip]
            split
            · rfl
            · rfl
        | preHook left frame => cases left <;> rfl
        | _ => rfl
      rw [smooth] at met
      cases met

def retriedMoves : List (Move Nat) :=
  .resume {} { output := 0 } :: .resume flaky { output := 0 } ::
    List.replicate 5 (.resume {} { output := 7 })

theorem result_agrees_with_context_retried : ∃ state result,
    replay (nextMove 0 reviewStep) (start reviewStep {} {} { outputData := 0 })
        retriedMoves = some state ∧
      state.progress = .finished (.returned result) ∧ result.status = .success ∧
      Agrees reviewStep state.ctx state.record result := by
  have whole : ∃ state result,
      replay (nextMove 0 reviewStep) (start reviewStep {} {} { outputData := 0 })
          retriedMoves = some state ∧
        state.progress = .finished (.returned result) ∧ result.status = .success :=
    ⟨_, _, rfl, rfl, rfl⟩
  obtain ⟨state, result, run, returned, succeeded⟩ := whole
  refine ⟨state, result, run, returned, succeeded, ?_⟩
  apply result_agrees_with_context (fun _ => ⟨rfl, by decide⟩)
    ⟨List.not_mem_nil, List.not_mem_nil⟩ { outputData := 0 } run _ returned
  have calm : ∀ state writes, FailsUnseen 0 reviewStep state (.resume {} writes) :=
    fun state writes => failsUnseen_default state writes
  refine ⟨calm _ _, ⟨nofun, ?_⟩, calm _ _, calm _ _, calm _ _, calm _ _, calm _ _, trivial⟩
  intro tripped met final
  cases met
  exact absurd ⟨by decide, rfl⟩ final

def hookFails : List (Move Nat) :=
  [.resume {} { output := 0 }, .resume {} { output := 7 }, .resume {} { output := 7 },
    .resume flaky { output := 7 }, .resume {} { output := 7 }]

/-- The step is reported FAILED and its view goes on saying `success`. -/
theorem failed_step_shows_success : ∃ state result,
    replay (nextMove 0 { reviewStep with maxRetries := 0 })
        (start { reviewStep with maxRetries := 0 } {} {} { outputData := 0 }) hookFails =
          some state ∧
      state.progress = .finished (.returned result) ∧ result.status = .failed ∧
      state.record.view = some ⟨.success, 7⟩ ∧
      ¬ Agrees reviewStep state.ctx state.record result := by
  have whole : ∃ state result,
      replay (nextMove 0 { reviewStep with maxRetries := 0 })
          (start { reviewStep with maxRetries := 0 } {} {} { outputData := 0 }) hookFails =
            some state ∧
        state.progress = .finished (.returned result) ∧ result.status = .failed ∧
        state.record.view = some ⟨.success, 7⟩ :=
    ⟨_, _, rfl, rfl, rfl, rfl⟩
  obtain ⟨state, result, run, returned, failed, view⟩ := whole
  refine ⟨state, result, run, returned, failed, view, ?_⟩
  intro agrees
  exact (agrees.failed failed).2.2 _ view rfl

end StepExecutor

end AgenticRuntime
