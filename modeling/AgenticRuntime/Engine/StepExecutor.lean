/-
`StepExecutor.execute`: conditions, hooks, inputs, the retry and refinement loop
around the step body, and the marks it leaves in the context.

A `Point` is an await of the source with the locals that outlive it. An await
that does not suspend is a point whose next event follows at once.
-/

import AgenticRuntime.Engine.StepTask

namespace AgenticRuntime

/-- An exception that is neither a `CancelledError` nor a `TimeoutError`, with
the two facts about its type the executor asks for. -/
structure StepError where
  errorType : String
  message : String
  retryable : Bool := true
  artifactContract : Bool := false
  deriving DecidableEq, Repr

inductive Raised where
  | cancelled
  | timeout (message : String)
  | error (error : StepError)
  deriving DecidableEq, Repr

def Raised.outcome : Raised → TaskOutcome
  | .cancelled => .cancelled
  | .timeout message => .raised "TimeoutError" message
  | .error failure => .raised failure.errorType failure.message

/-- `str(exc)` -/
def Raised.text : Raised → String
  | .cancelled => ""
  | .timeout message => message
  | .error failure => failure.message

def StepResult.markComplete (result : StepResult) (success : Bool) (error : Option String) :
    StepResult :=
  { result with
    status := if success then .success else .failed
    error := if error.getD "" ≠ "" then error else result.error }

theorem StepResult.markComplete_status (result : StepResult) (success : Bool)
    (error : Option String) :
    (result.markComplete success error).status = if success then .success else .failed :=
  rfl

theorem StepResult.markComplete_ne_skipped (result : StepResult) (success : Bool)
    (error : Option String) : (result.markComplete success error).status ≠ .skipped := by
  rw [markComplete_status]
  cases success with
  | true | false => exact StepStatus.noConfusion

namespace StepExecutor

inductive Answer (α : Type) where
  | value (value : α)
  | raises (error : StepError)
  deriving DecidableEq, Repr

/-- How an await ends. `waits` is an await that goes on after a cancellation. -/
inductive Signal where
  | returned
  | raised (raised : Raised)
  | waits
  deriving DecidableEq, Repr

/-- What the environment decides at one await: how it ends, and what the
computations up to the next await come to: how many inputs are bound and how many
outputs are mapped, the failing checks of a verification that did not pass, and
the loop condition. -/
structure Input where
  signal : Signal := .returned
  whenHolds : Answer Bool := .value true
  unlessHolds : Answer Bool := .value false
  inputs : Answer Nat := .value 0
  outputs : Answer Nat := .value 0
  failing : Option (List String) := none
  loopMax : Option Int := none
  satisfied : Answer Bool := .value true
  deriving DecidableEq, Repr

variable (definition : StepDefinition)

/-- `StepDefinition.should_run` -/
def shouldRun (ctx : Context) (input : Input) : Answer Bool :=
  if definition.dependsOn.all (fun dep => ctx.isStepComplete dep && !ctx.isStepFailed dep) then
    match input.whenHolds with
    | .raises error => .raises error
    | .value false => .value false
    | .value true =>
        match input.unlessHolds with
        | .raises error => .raises error
        | .value excluded => .value (!excluded)
  else .value false

/-- The locals of `execute`; the loop counter lives in the result's metadata. -/
structure Frame where
  result : StepResult
  attempt : Nat := 0
  loopIteration : Option Nat := none
  deriving DecidableEq, Repr

/-- The awaits inside the `try` of `_run_attempt`. -/
inductive Stage where
  | body
  | mapping (left : Nat)
  | storing
  | postHook (left : Nat)
  | verifying
  | failingVerification
  | markingComplete
  deriving DecidableEq, Repr

inductive Point where
  | markingStart (frame : Frame)
  | preHook (left : Nat) (frame : Frame)
  | preparing (left : Nat) (refresh : Bool) (frame : Frame)
  | rejecting (left : Nat) (error : String) (frame : Frame)
  | attempting (stage : Stage) (frame : Frame)
  | backoff (frame : Frame)
  | errorHook (left : Nat) (frame : Frame)
  | markingFailed (frame : Frame)
  deriving DecidableEq, Repr

abbrev Turn := Progress Point × Context

def awaiting (point : Point) (ctx : Context) : Turn := (.awaiting point, ctx)

def returning (result : StepResult) (ctx : Context) : Turn := (.finished (.returned result), ctx)

def raising (raised : Raised) (ctx : Context) : Turn := (.finished raised.outcome, ctx)

variable (frame : Frame)

/-- The last two lines of `execute`. -/
def finish (ctx : Context) : Turn :=
  returning (frame.result.markComplete (frame.result.status = .success) frame.result.error) ctx

/-- `mark_step_failed` up to its emission, with the result that is returned then. -/
def markFailed (ctx : Context) : Turn :=
  awaiting (.markingFailed frame) (ctx.markStepFailed definition.name)

/-- The end of `_fail_input_contract`. -/
def rejectInputs (ctx : Context) (error : String) :
    Turn :=
  markFailed definition { frame with result := frame.result.markComplete false error } ctx

def failInputContract (ctx : Context) (error : StepError) : Turn :=
  let noted : Frame := { frame with result := { frame.result with errorType := error.errorType } }
  match definition.errorHooks with
  | 0 => rejectInputs definition noted ctx error.message
  | left + 1 => awaiting (.rejecting left error.message noted) ctx

def startAttempt (ctx : Context) : Turn :=
  if (frame.attempt : Int) ≤ definition.maxRetries then
    awaiting (.attempting .body { frame with attempt := frame.attempt + 1 }) ctx
  else finish frame ctx

def prepared (refresh : Bool) (frame : Frame) (ctx : Context) :
    Turn :=
  startAttempt definition
    { frame with attempt := if refresh then frame.attempt - 1 else frame.attempt } ctx

/-- An exception of `_prepare_inputs`. -/
def failPreparation (ctx : Context) (raised : Raised) : Turn :=
  match raised with
  | .error error =>
      if error.artifactContract then failInputContract definition frame ctx error
      else raising raised ctx
  | _ => raising raised ctx

def prepareInputs (refresh : Bool) (frame : Frame) (ctx : Context) (input : Input) : Turn :=
  match input.inputs with
  | .value 0 => prepared definition refresh frame ctx
  | .value (left + 1) => awaiting (.preparing left refresh frame) ctx
  | .raises error => failPreparation definition frame ctx (.error error)

def runPreHooks (ctx : Context) (input : Input) :
    Turn :=
  match definition.preHooks with
  | 0 => prepareInputs definition false frame ctx input
  | left + 1 => awaiting (.preHook left frame) ctx

def failPreHook (ctx : Context) (message : String) :
    Turn :=
  markFailed definition { frame with result := { frame.result with
    status := .failed, error := some s!"Pre-hook failed: {message}" } } ctx

def handleCancelled (ctx : Context) : Turn :=
  markFailed definition { frame with result := { frame.result with
    status := .failed, error := some "Step was cancelled", errorType := some "CancelledError" } } ctx

def handleTimeout (ctx : Context) : Turn :=
  let timeout := definition.timeoutSeconds.getD "None"
  markFailed definition { frame with result := { frame.result with
    status := .failed
    error := some s!"Step timed out after {timeout}s"
    errorType := some "TimeoutError" } } ctx

/-- The end of `_handle_exception`. -/
def failException (ctx : Context) : Turn :=
  markFailed definition { frame with result := { frame.result with status := .failed } } ctx

def handleException (ctx : Context) (error : StepError) : Turn :=
  let noted : Frame := { frame with result := { frame.result with
    error := some error.message, errorType := some error.errorType } }
  if (frame.attempt : Int) ≤ definition.maxRetries ∧ error.retryable then
    awaiting (.backoff { noted with result := { noted.result with status := .retrying } }) ctx
  else
    match definition.errorHooks with
    | 0 => failException definition noted ctx
    | left + 1 => awaiting (.errorHook left noted) ctx

/-- The `except` clauses of `_run_attempt`. -/
def handleRaised (ctx : Context) : Raised → Turn
  | .cancelled => handleCancelled definition frame ctx
  | .timeout _ => handleTimeout definition frame ctx
  | .error error => handleException definition frame ctx error

/-- `_resolve_loop_max`, given the integer its expression resolves to, if any. -/
def resolveLoopMax (resolved : Option Int) : Int :=
  match definition.loopMaxExpr, resolved with
  | some _, some loopMax => max 1 loopMax
  | _, _ => max 1 (if definition.loopMax = 0 then 3 else definition.loopMax)

def shouldLoopAgain (input : Input) : Answer Bool :=
  if definition.loopUntil ∧
      ((frame.loopIteration.getD 1 : Nat) : Int) < resolveLoopMax definition input.loopMax then
    match input.satisfied with
    | .value satisfied => .value (!satisfied)
    | .raises error => .raises error
  else .value false

/-- `_handle_success` from the end of the verification gate on. -/
def settleAttempt (ctx : Context) (input : Input) :
    Turn :=
  let iteration := frame.loopIteration.getD 1
  match shouldLoopAgain definition frame input with
  | .raises error => handleException definition frame ctx error
  | .value true =>
      prepareInputs definition true { frame with
        result := { frame.result with status := .running }
        loopIteration := some (iteration + 1) } ctx input
  | .value false =>
      awaiting (.attempting .markingComplete { frame with
        loopIteration := if definition.loopUntil then some iteration else frame.loopIteration })
        (ctx.markStepComplete definition.name)

def runVerificationGate (ctx : Context) (input : Input) : Turn :=
  match definition.verify with
  | none => settleAttempt definition frame ctx input
  | some _ => awaiting (.attempting .verifying frame) ctx

def runPostHooks (ctx : Context) (input : Input) :
    Turn :=
  match definition.postHooks with
  | 0 => runVerificationGate definition frame ctx input
  | left + 1 => awaiting (.attempting (.postHook left) frame) ctx

def verified (ctx : Context) (input : Input) : Turn :=
  match input.failing with
  | none => settleAttempt definition frame ctx input
  | some checks =>
      if definition.verify = some .block then
        let failing := ", ".intercalate checks
        awaiting (.attempting .failingVerification { frame with result := { frame.result with
          status := .failed, error := some s!"Verification failed: {failing}" } })
          (ctx.markStepFailed definition.name)
      else settleAttempt definition frame ctx input

def handleSuccess (ctx : Context) (input : Input) :
    Turn :=
  match input.outputs with
  | .raises error => handleException definition frame ctx error
  | .value outputs =>
      let succeeded : Frame := { frame with result := { frame.result with
        error := none, errorType := none, status := .success } }
      match outputs with
      | 0 => awaiting (.attempting .storing succeeded) ctx
      | left + 1 => awaiting (.attempting (.mapping left) succeeded) ctx

def resumeStage (ctx : Context) (input : Input) :
    Stage → Turn
  | .body => handleSuccess definition frame ctx input
  | .mapping 0 => awaiting (.attempting .storing frame) ctx
  | .mapping (left + 1) => awaiting (.attempting (.mapping left) frame) ctx
  | .storing => runPostHooks definition frame ctx input
  | .postHook 0 => runVerificationGate definition frame ctx input
  | .postHook (left + 1) => awaiting (.attempting (.postHook left) frame) ctx
  | .verifying => verified definition frame ctx input
  | .failingVerification => returning frame.result ctx
  | .markingComplete => finish frame ctx

/-- The await is an emission, which logs every exception of a handler but a
`CancelledError`, or a sleep, which raises nothing else. -/
def Point.Guarded : Point → Prop
  | .markingStart _ | .backoff _ | .markingFailed _ => True
  | .attempting .failingVerification _ | .attempting .markingComplete _ => True
  | _ => False

instance (point : Point) : Decidable point.Guarded := by
  unfold Point.Guarded
  split <;> infer_instance

def resumeReturned (ctx : Context) (input : Input) : Point → Turn
  | .markingStart frame => runPreHooks definition frame ctx input
  | .preHook 0 frame => prepareInputs definition false frame ctx input
  | .preHook (left + 1) frame => awaiting (.preHook left frame) ctx
  | .preparing 0 refresh frame => prepared definition refresh frame ctx
  | .preparing (left + 1) refresh frame => awaiting (.preparing left refresh frame) ctx
  | .rejecting 0 error frame => rejectInputs definition frame ctx error
  | .rejecting (left + 1) error frame => awaiting (.rejecting left error frame) ctx
  | .attempting stage frame => resumeStage definition frame ctx input stage
  | .backoff frame => startAttempt definition frame ctx
  | .errorHook 0 frame => failException definition frame ctx
  | .errorHook (left + 1) frame => awaiting (.errorHook left frame) ctx
  | .markingFailed frame => returning frame.result ctx

/-- The await raised. Error hooks lose every exception but a `CancelledError`. -/
def resumeRaised (ctx : Context) (input : Input) (raised : Raised) :
    Point → Turn
  | .preHook _ frame =>
      if raised = .cancelled then raising raised ctx
      else failPreHook definition frame ctx (Raised.text raised)
  | .preparing _ _ frame => failPreparation definition frame ctx raised
  | .attempting _ frame => handleRaised definition frame ctx raised
  | .rejecting left error frame =>
      if raised = .cancelled then raising raised ctx
      else resumeReturned definition ctx input (.rejecting left error frame)
  | .errorHook left frame =>
      if raised = .cancelled then raising raised ctx
      else resumeReturned definition ctx input (.errorHook left frame)
  | .markingStart _ | .backoff _ | .markingFailed _ => raising raised ctx

/-- `execute` up to its first await. -/
def enter (ctx : Context) (input : Input) : Turn :=
  let result : StepResult := { stepName := definition.name, status := .pending }
  match shouldRun definition ctx input with
  | .raises error => raising (.error error) ctx
  | .value false =>
      returning { result with
        status := .skipped, skipReason := some "conditions not met" } ctx
  | .value true =>
      if definition.func = false then
        returning { result with
          status := .failed, error := some "No function defined for step" } ctx
      else
        awaiting (.markingStart { result := { result with status := .running } })
          (ctx.markStepStart definition.name)

def resume (point : Point) (ctx : Context) (input : Input) :
    Option Turn :=
  match input.signal with
  | .returned => some (resumeReturned definition ctx input point)
  | .raised raised =>
      if point.Guarded ∧ raised ≠ .cancelled then none
      else some (resumeRaised definition ctx input raised point)
  | .waits => none

/-- A cancellation is thrown into whatever is awaited, which lets it pass, ends in
its own way or goes on; only a sleep always lets it pass. -/
def cancel (point : Point) (ctx : Context) (input : Input) :
    Option Turn :=
  match input.signal, point with
  | .raised .cancelled, _ => resume definition point ctx input
  | _, .backoff _ => none
  | .waits, _ => some (awaiting point ctx)
  | _, _ => resume definition point ctx input

def executor : Executor Point Input where
  enter definition ctx input := some (enter definition ctx input)
  resume := resume
  cancel := cancel

end StepExecutor

end AgenticRuntime
