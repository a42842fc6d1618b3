/-
What the calls of the client record for the models they try.

Six paths wrap the same guarded body in a `try` of their own. Each attempt with one
model is a caller of its own here: which models a call tries, and in which order, is
left to the run.
-/

import AgenticRuntime.Models.BulkheadSafety

namespace AgenticRuntime

/-- `complete`, `completeChat` and `completeStream` are the legacy paths of the client. -/
inductive CallPath where
  | complete
  | completeChat
  | completeStream
  | ekComplete
  | ekStream
  | callWithFallback
  deriving DecidableEq, Repr

namespace CallPath

/-- The path asks `_is_model_ready_for_attempt` first. -/
def gated : CallPath → Bool
  | .ekComplete | .callWithFallback => true
  | .complete | .completeChat | .completeStream | .ekStream => false

/-- The path has an `attempt_callback`. -/
def reports : CallPath → Bool
  | .ekComplete | .ekStream => true
  | .complete | .completeChat | .completeStream | .callWithFallback => false

/-- The path has an `except CircuitResolvedError`. -/
def skipsResolved : CallPath → Bool
  | .complete | .completeChat | .callWithFallback => true
  | .completeStream | .ekComplete | .ekStream => false

def streams : CallPath → Bool
  | .completeStream | .ekStream => true
  | .complete | .completeChat | .ekComplete | .callWithFallback => false

end CallPath

/-- What the handlers read of an exception. `resolved` says that it is a
`CircuitResolvedError`, and `rateLimited` what `classify_error` makes of the message. -/
structure CallError where
  resolved : Bool := false
  status : Option Nat := none
  rateLimited : Bool := false
  mentionsTimeout : Bool := false
  cooldownSeconds : Int := 0
  deriving DecidableEq, Repr

/-- `_classify_and_record_error` -/
def CallError.classify (error : CallError) (now : Clock) : StatsEvent :=
  match error.status with
  | some 401 | some 403 | some 404 | some 410 => .failure now
  | some 429 => .rateLimit now (some error.cooldownSeconds)
  | some 408 => .timeout now
  | _ =>
      if error.rateLimited then .rateLimit now (some error.cooldownSeconds)
      else if error.mentionsTimeout then .timeout now
      else .failure now

/-- How a call of the backend ends. A stream is `closed` when its consumer closes it early. -/
inductive BackendOutcome where
  | returned
  | raised (error : CallError)
  | cancelled
  | closed
  deriving DecidableEq, Repr

inductive SanitizerOutcome where
  | passed
  | raised (error : CallError)
  | cancelled
  deriving DecidableEq, Repr

inductive BackendCall where
  | notStarted
  | running
  | returned
  | raised
  | cancelled
  deriving DecidableEq, Repr

/-- An attempt with one model. One that has not ended and whose call has returned waits
for the response sanitizer. -/
structure ModelAttempt (Model : Type) where
  path : CallPath
  model : Model
  call : BackendCall := .notStarted
  ended : Bool := false
  deriving DecidableEq, Repr

/-- What a handler does: records in their order, and a `ProviderAttempt`. -/
structure Bookkeeping where
  records : List StatsEvent := []
  reported : Bool := false
  deriving DecidableEq, Repr

namespace CallPath

variable (path : CallPath)

/-- The `except` clauses for an exception. -/
def onException (error : CallError) (now : Clock) : Bookkeeping :=
  if error.resolved && path.skipsResolved then {}
  else { records := [error.classify now], reported := path.reports }

/-- The same for a cancellation and for `GeneratorExit`. -/
def onBaseException : Bookkeeping := { reported := path.reports }

/-- Behind the success record of `complete_chat` only `json.dumps` is left to raise. -/
def onStored (storing : Option CallError) (now : Clock) : Bookkeeping :=
  match storing with
  | none => { records := [.success now] }
  | some error => { records := .success now :: (path.onException error now).records }

/-- The backend has returned. `counting` is what the token count raises. -/
def onReturn (counting : Option CallError) (now : Clock) : Bookkeeping :=
  match path with
  | .ekComplete | .ekStream => { records := [.success now], reported := true }
  | .callWithFallback => { records := [.success now] }
  | .complete | .completeStream =>
      match counting with
      | some error => path.onException error now
      | none => { records := [.success now] }
  | .completeChat => {}

def endsOnReturn (counting : Option CallError) : Bool :=
  match path with
  | .complete => counting.isSome
  | .completeChat => false
  | .completeStream | .ekComplete | .ekStream | .callWithFallback => true

/-- The sanitizer is done. `complete` has recorded the success before, `complete_chat`
counts and records now. -/
def onSanitized (outcome : SanitizerOutcome) (counting storing : Option CallError) (now : Clock) :
    Bookkeeping :=
  match outcome with
  | .raised error => path.onException error now
  | .cancelled => path.onBaseException
  | .passed =>
      if path = .completeChat then
        match counting with
        | some error => path.onException error now
        | none => path.onStored storing now
      else {}

end CallPath

/-- `log` lists what has been recorded and for whom, `reported` the calls of
`attempt_callback`. -/
structure CallRecords (Caller Model Provider : Type) where
  router : Bulkhead Caller Model Provider
  attempts : Caller → Option (ModelAttempt Model) := fun _ => none
  log : List (Caller × Model × StatsEvent) := []
  reported : List Caller := []

/-- `acquire`, `lock` and `cancel` are those of the bulkhead, `leave` is the end of the call of
the backend, and `check` is `check_circuit`. -/
inductive CallEvent (Caller Model : Type) where
  | begin (caller : Caller) (path : CallPath) (model : Model)
  | acquire (caller : Caller) (now : Clock)
  | lock (caller : Caller) (now : Clock)
  | cancel (caller : Caller)
  | leave (caller : Caller) (outcome : BackendOutcome) (counting : Option CallError) (now : Clock)
  | sanitize (caller : Caller) (outcome : SanitizerOutcome) (counting storing : Option CallError)
      (now : Clock)
  | check (model : Model) (now : Clock)

namespace Bulkhead

variable {Caller Model Provider : Type} [DecidableEq Model]

def recorded (router : Bulkhead Caller Model Provider) (model : Model) (event : StatsEvent) :
    Bulkhead Caller Model Provider :=
  { router with stats := Function.update router.stats model ((router.stats model).step event) }

variable [DecidableEq Provider]

/-- `execute_with_bulkhead` raises `CircuitResolvedError` when it goes on for the caller. -/
def turnsAway (provider : Model → Provider) (router : Bulkhead Caller Model Provider)
    (caller : Caller) : Bool :=
  match router.callers caller with
  | some (model, .waiting) =>
      (router.stats model).circuitState = .halfOpen && (router.probeLocks (provider model)).isSome
  | some (model, .acquiring) => (router.stats model).circuitState ≠ .halfOpen
  | _ => false

end Bulkhead

namespace CallRecords

variable {Caller Model Provider : Type} [DecidableEq Caller] [DecidableEq Model]
  [DecidableEq Provider]

def start (stats : Model → ModelStats) : CallRecords Caller Model Provider :=
  { router := { stats := stats } }

variable (state : CallRecords Caller Model Provider)

/-- The attempt goes on as `attempt` after the bookkeeping. -/
def keep (caller : Caller) (attempt : ModelAttempt Model) (books : Bookkeeping) :
    CallRecords Caller Model Provider :=
  { router := books.records.foldl (fun router => router.recorded attempt.model) state.router
    attempts := Function.update state.attempts caller (some attempt)
    log := state.log ++ books.records.map fun event => (caller, attempt.model, event)
    reported := state.reported ++ if books.reported then [caller] else [] }

section

variable (provider : Model → Provider) (limit : Provider → Nat)
  (resolvedError : Model → CircuitState → CallError)

variable (state : CallRecords Caller Model Provider)

def resume (caller : Caller) (attempt : ModelAttempt Model) (now : Clock) :
    CallRecords Caller Model Provider :=
  match state.router.callers caller with
  | none =>
      let found := (state.router.stats attempt.model).circuitState
      let error := { resolvedError attempt.model found with resolved := true }
      state.keep caller { attempt with ended := true } (attempt.path.onException error now)
  | some (_, .inside _ _) => state.keep caller { attempt with call := .running } {}
  | some _ => state

def leaveCall (caller : Caller) (attempt : ModelAttempt Model) (outcome : BackendOutcome)
    (counting : Option CallError) (now : Clock) : CallRecords Caller Model Provider :=
  match outcome with
  | .returned =>
      state.keep caller
        { attempt with call := .returned, ended := attempt.path.endsOnReturn counting }
        (attempt.path.onReturn counting now)
  | .raised error =>
      state.keep caller { attempt with call := .raised, ended := true }
        (attempt.path.onException error now)
  | .cancelled | .closed =>
      state.keep caller { attempt with call := .cancelled, ended := true }
        attempt.path.onBaseException

def attemptWith (caller : Caller) (call : BackendCall) : Option (ModelAttempt Model) :=
  (state.attempts caller).filter fun attempt => attempt.call = call && !attempt.ended

def withRouter (event : BulkheadEvent Caller Model)
    (follow : CallRecords Caller Model Provider → CallRecords Caller Model Provider) :
    Option (CallRecords Caller Model Provider) :=
  (state.router.next provider limit event).map fun router =>
    follow { state with router := router }

def next :
    CallEvent Caller Model → Option (CallRecords Caller Model Provider)
  | .begin caller path model =>
      if (state.attempts caller).isSome then none
      else
        state.withRouter provider limit
          (if path.gated then .attempt caller model else .execute caller model)
          fun begun => begun.keep caller
            -- An attempt that is shed goes no further.
            { path := path, model := model, ended := (begun.router.callers caller).isNone } {}
  | .acquire caller now =>
      (state.attemptWith caller .notStarted).bind fun attempt =>
        state.withRouter provider limit (.acquire caller) fun freed =>
          freed.resume resolvedError caller attempt now
  | .lock caller now =>
      (state.attemptWith caller .notStarted).bind fun attempt =>
        state.withRouter provider limit (.lock caller) fun freed =>
          freed.resume resolvedError caller attempt now
  | .cancel caller =>
      (state.attemptWith caller .notStarted).bind fun attempt =>
        state.withRouter provider limit (.cancel caller) fun left =>
          left.keep caller { attempt with ended := true } attempt.path.onBaseException
  | .leave caller outcome counting now =>
      (state.attemptWith caller .running).bind fun attempt =>
        if outcome = .closed && !attempt.path.streams then none
        else
          state.withRouter provider limit (.leave caller) fun left =>
            left.leaveCall caller attempt outcome counting now
  | .sanitize caller outcome counting storing now =>
      (state.attemptWith caller .returned).map fun attempt =>
        state.keep caller { attempt with ended := true }
          (attempt.path.onSanitized outcome counting storing now)
  | .check model now =>
      state.withRouter provider limit (.record model (.check now)) id

end

/-! ### One record for one call -/

def recordsOf (caller : Caller) :
    List (Model × StatsEvent) :=
  (state.log.filter fun record => record.1 = caller).map Prod.snd

def Tells (model : Model) (records : List (Model × StatsEvent)) : BackendCall → Prop
  | .returned => ∃ now, records = [(model, .success now)]
  | .raised => ∃ event, event.failedAt.isSome ∧ records = [(model, event)]
  | .notStarted | .running | .cancelled => records = []

/-- One record for one call that returned or raised, and one report for one call that was
started. -/
structure Matched (state : CallRecords Caller Model Provider) (caller : Caller)
    (attempt : ModelAttempt Model) : Prop where
  records : Tells attempt.model (state.recordsOf caller) attempt.call
  reports : attempt.path.reports = true →
    state.reported.count caller = if attempt.call = .notStarted then 0 else 1

def AllMatched : Prop :=
  ∀ caller attempt, state.attempts caller = some attempt → attempt.ended = true →
    state.Matched caller attempt

end CallRecords

namespace CallPath

/-- The call of the backend does not raise the error that the path takes for a
shed attempt, and the tokens of a call that returned can be counted. -/
def sparesReturn (path : CallPath) (counting : Option CallError) : BackendOutcome → Bool
  | .returned => (path ≠ .complete && path ≠ .completeStream) || counting.isNone
  | .raised error => !(error.resolved && path.skipsResolved)
  | .cancelled | .closed => true

/-- Nothing raises behind the call where the success is not yet recorded or is followed by
a failure. -/
def sparesSanitized (path : CallPath) (outcome : SanitizerOutcome)
    (counting storing : Option CallError) : Bool :=
  match outcome with
  | .raised error => path ≠ .completeChat && error.resolved
  | .cancelled => path ≠ .completeChat
  | .passed =>
      path ≠ .completeChat || (counting.isNone && storing.all fun error => error.resolved)

end CallPath

namespace CallRecords

variable {Caller Model Provider : Type} [DecidableEq Caller] [DecidableEq Model]
  [DecidableEq Provider] (provider : Model → Provider) (limit : Provider → Nat)
  (resolvedError : Model → CircuitState → CallError)

def spares (state : CallRecords Caller Model Provider) : CallEvent Caller Model → Bool
  | .acquire caller _ | .lock caller _ => (state.attempts caller).all fun attempt =>
      !state.router.turnsAway provider caller || attempt.path.skipsResolved
  | .cancel caller => (state.attempts caller).all fun attempt => !attempt.path.reports
  | .leave caller outcome counting _ => (state.attempts caller).all fun attempt =>
      attempt.path.sparesReturn counting outcome
  | .sanitize caller outcome counting storing _ => (state.attempts caller).all fun attempt =>
      attempt.path.sparesSanitized outcome counting storing
  | .begin _ _ _ | .check _ _ => true

end CallRecords

end AgenticRuntime
