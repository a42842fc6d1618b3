/-
The paths from a request to the backend.

A call finds the router as other calls have left it, so what each attempt finds
and how it ends are data of the run.
-/

import AgenticRuntime.Models.TierSelection

namespace AgenticRuntime

/-- How an attempt with a selected model ends. `turnedAway` is `CircuitResolvedError`, and
`failedAfter` is an exception behind the backend call. -/
inductive AttemptOutcome where
  | turnedAway
  | cancelledWaiting
  | returned
  | failed
  | failedAfter
  | cancelled
  deriving DecidableEq, Repr

def AttemptOutcome.called : AttemptOutcome → Bool
  | .turnedAway | .cancelledWaiting => false
  | .returned | .failed | .failedAfter | .cancelled => true

/-- What an attempt finds. `ready` is the answer of `_is_model_ready_for_attempt`, and `translated`
says that an error is handed to EK. -/
structure Situation where
  router : TierRouter := {}
  now : Clock := ⟨0, 0⟩
  affordable : Bool := true
  ready : Bool := true
  translated : Bool := false
  outcome : AttemptOutcome := .returned

inductive CallResult where
  | returned
  | answeredFromCache
  | raised
  | cancelled
  deriving DecidableEq, Repr

/-- The models that the backend has been called with, and how the call ends. -/
structure CallTrace where
  calls : List String := []
  result : CallResult
  deriving DecidableEq, Repr

namespace CallTrace

def raised : CallTrace := { result := .raised }

def cons (model : String) (called : Bool) (trace : CallTrace) : CallTrace :=
  { trace with calls := if called then model :: trace.calls else trace.calls }

end CallTrace

/-- What the sleep of `retry_with_jitter` comes to after a round that raised. -/
inductive Backoff where
  | again
  | permanent
  | cancelled
  deriving DecidableEq, Repr

structure Round where
  cached : Bool := false
  sanitized : Bool := true
  backoff : Backoff := .again
  situations : Nat → Situation := fun _ => {}

structure ClientRequest where
  tier : ModelTier := .tier2
  explicit : Option String := none
  maxRetries : Nat := 3
  useCache : Bool := true
  enableCache : Bool := true

/-- `finished` says that nothing behind the EK call raises. -/
structure Circumstances where
  sanitized : Bool := true
  finished : Bool := true
  rounds : Nat → Round := fun _ => {}

section

variable (env : SelectionEnv)

/-- `model or router.get_model_for_tier(tier, ...)` -/
def selectModel (explicit : Option String) (tier : ModelTier) (exclude : List String)
    (situation : Situation) : Selected :=
  match explicit with
  | none => (situation.router.getModelForTier env situation.now tier exclude true none true).1
  | some model =>
      if model = "" then
        (situation.router.getModelForTier env situation.now tier exclude true none true).1
      else .model model

def explicitAllowed (explicit : Option String) : Bool :=
  match explicit with
  | none => true
  | some model => env.enforceCostLaneCeiling model

/-- The loop of `run_with_fallback`. -/
def fallbackAttempts (request : ClientRequest) (situations : Nat → Situation) :
    Nat → Nat → List String → CallTrace
  | 0, _, _ => .raised
  | remaining + 1, number, tried =>
      let situation := situations number
      match selectModel env request.explicit request.tier tried situation with
      | .nothing | .noProviderConfigured => .raised
      | .model selected =>
          if selected ∈ tried || !situation.affordable then .raised
          else
            match situation.outcome with
            | .returned => { calls := [selected], result := .returned }
            | .cancelledWaiting => { result := .cancelled }
            | .cancelled => { calls := [selected], result := .cancelled }
            | .turnedAway | .failed | .failedAfter =>
                (fallbackAttempts request situations remaining (number + 1)
                  (tried ++ [selected])).cons selected situation.outcome.called

variable (request : ClientRequest)

def runWithFallback (situations : Nat → Situation) : CallTrace :=
  if explicitAllowed env request.explicit then
    fallbackAttempts env request situations request.maxRetries 0 []
  else .raised

def maxFallbackTries : Nat := 6

/-- The loop of `SmartRouterProvider.complete`. -/
def providerAttempts (request : ClientRequest) (situations : Nat → Situation) :
    Nat → Nat → List String → CallTrace
  | 0, _, _ => .raised
  | remaining + 1, number, tried =>
      let situation := situations number
      match selectModel env request.explicit request.tier [] situation with
      | .nothing | .noProviderConfigured => .raised
      | .model current =>
          if current ∈ tried then .raised
          else if !situation.ready then
            providerAttempts request situations remaining (number + 1) (tried ++ [current])
          else
            match situation.outcome with
            | .returned => { calls := [current], result := .returned }
            | .failedAfter => { calls := [current], result := .raised }
            | .cancelledWaiting => { result := .cancelled }
            | .cancelled => { calls := [current], result := .cancelled }
            | .turnedAway | .failed =>
                if situation.translated then
                  CallTrace.raised.cons current situation.outcome.called
                else
                  (providerAttempts request situations remaining (number + 1)
                    (tried ++ [current])).cons current situation.outcome.called

/-- `SmartRouterProvider.complete` -/
def providerComplete (situations : Nat → Situation) : CallTrace :=
  if explicitAllowed env request.explicit then
    providerAttempts env request situations maxFallbackTries 0 []
  else .raised

/-- `retry_with_jitter(max_retries=3)` -/
def retryWithJitter (round : Nat → CallTrace) (backoff : Nat → Backoff) : Nat → Nat → CallTrace
  | 0, _ => .raised
  | remaining + 1, number =>
      match (round number).result with
      | .raised =>
          if remaining = 0 then round number
          else
            match backoff number with
            | .permanent => round number
            | .cancelled => { calls := (round number).calls, result := .cancelled }
            | .again =>
                let later := retryWithJitter round backoff remaining (number + 1)
                { later with calls := (round number).calls ++ later.calls }
      | _ => round number

def ClientRequest.cacheHit (round : Round) : Bool :=
  request.useCache && request.enableCache && round.cached

/-- One round of `_complete_legacy`. -/
def completeLegacyRound (round : Round) : CallTrace :=
  if request.cacheHit round then { result := .answeredFromCache }
  else if !round.sanitized then .raised
  else runWithFallback env request round.situations

def completeLegacy (found : Circumstances) : CallTrace :=
  retryWithJitter (fun number => completeLegacyRound env request (found.rounds number))
    (fun number => (found.rounds number).backoff) 3 0

/-- `_complete_via_ek`: `checked_complete` calls the provider once, since its own retries are off. -/
def completeViaEk (found : Circumstances) : CallTrace :=
  let round := found.rounds 0
  if request.cacheHit round then { result := .answeredFromCache }
  else if !round.sanitized then .raised
  else
    let trace := providerComplete env request round.situations
    if trace.result = .returned && !found.finished then { trace with result := .raised } else trace

/-- One round of `_complete_chat_with_retry`. -/
def completeChatRound (round : Round) : CallTrace :=
  if request.cacheHit round then { result := .answeredFromCache }
  else runWithFallback env request round.situations

/-- `complete_chat`, which sanitizes in front of the retries. -/
def completeChat (found : Circumstances) : CallTrace :=
  if !found.sanitized then .raised
  else
    retryWithJitter (fun number => completeChatRound env request (found.rounds number))
      (fun number => (found.rounds number).backoff) 3 0

def streamAttempt (model : String) (outcome : AttemptOutcome) : CallTrace :=
  CallTrace.cons model outcome.called
    { result :=
        match outcome with
        | .returned => .returned
        | .turnedAway | .failed | .failedAfter => .raised
        | .cancelledWaiting | .cancelled => .cancelled }

/-- `_complete_stream_legacy` and `_complete_stream_via_ek`, which sanitize behind and in front of
the selection. -/
def completeStream (tier : ModelTier) (found : Circumstances) : CallTrace :=
  let situation := (found.rounds 0).situations 0
  match selectModel env none tier [] situation with
  | .nothing | .noProviderConfigured => .raised
  | .model model =>
      if !found.sanitized then .raised else streamAttempt model situation.outcome

end

/-- The calls of `LLMClientWrapper`, with whether they take the EK path. -/
inductive ClientCall where
  | complete (viaEk : Bool)
  | completeChat
  | completeStream (viaEk : Bool)
  deriving DecidableEq, Repr

def ClientCall.run (env : SelectionEnv) (request : ClientRequest) (found : Circumstances) :
    ClientCall → CallTrace
  | .complete true => completeViaEk env request found
  | .complete false => completeLegacy env request found
  | .completeChat => AgenticRuntime.completeChat env request found
  | .completeStream _ => AgenticRuntime.completeStream env request.tier found

def ClientCall.explicit (request : ClientRequest) : ClientCall → Option String
  | .complete _ | .completeChat => request.explicit
  | .completeStream _ => none

end AgenticRuntime
