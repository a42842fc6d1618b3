/-
`call_with_fallback`: a model after the other until one answers.

What the loop records about a model changes what it can select next. `during` is
what other calls do to the router while this one awaits its model.
-/

import AgenticRuntime.Models.TierOffers
import Mathlib.Data.List.Infix

namespace AgenticRuntime

structure CooldownConfig where
  baseFailureCooldownSeconds : Int := 30
  baseRateLimitCooldownSeconds : Int := 120
  baseTimeoutCooldownSeconds : Int := 60
  consecutiveFailureMultiplier : ℚ := 3 / 2
  maxCooldownSeconds : Int := 600

/-- What `_classify_and_record_error` reads of an exception. `retryAfter` is what the
rate-limit tracker answers once it has seen the headers. -/
structure ProviderError where
  text : String
  typeName : String := "RuntimeError"
  status : Option Int := none
  retryAfter : Int := 120
  deriving DecidableEq, Repr

/-- How an attempt ends. `recording` is what the recording of a failure raises, and an
unrecorded answer is one that `record_success` raised on. -/
inductive FallbackOutcome where
  | returned
  | unrecorded (error : ProviderError) (recording : Option ProviderError)
  | circuitResolved
  | raised (error : ProviderError) (recording : Option ProviderError)
  | cancelled
  deriving DecidableEq, Repr

/-- One round of the loop: what it finds and how its attempt goes. `ready` is the answer of
`_is_model_ready_for_attempt`. -/
structure FallbackRound where
  env : SelectionEnv
  config : CooldownConfig := {}
  now : Clock := ⟨0, 0⟩
  endedAt : Clock := ⟨0, 0⟩
  ready : Bool := true
  during : TierRouter → TierRouter := fun router => router
  outcome : FallbackOutcome

/-- The locals of `call_with_fallback`, and the attempts so far. -/
structure FallbackState where
  router : TierRouter := {}
  tried : List String := []
  lastError : Option ProviderError := none
  attempts : List (String × FallbackOutcome) := []

/-- How `call_with_fallback` ends. -/
inductive FallbackResult where
  | returned (model : String)
  | allModelsFailed (tried : List String) (lastError : Option ProviderError)
  | noProviderConfigured
  | cancelled
  | recordingRaised (error : ProviderError)
  deriving DecidableEq, Repr

/-! ### What is recorded -/

namespace CooldownConfig

/-- `_calculate_cooldown`; `int` truncates. -/
def calculateCooldown (config : CooldownConfig) (stats : ModelStats) (errorType : String) : Int :=
  let base :=
    if errorType = "rate_limit" then config.baseRateLimitCooldownSeconds
    else if errorType = "timeout" then config.baseTimeoutCooldownSeconds
    else config.baseFailureCooldownSeconds
  let multiplier := config.consecutiveFailureMultiplier ^ min stats.consecutiveFailures 5
  let cooldown := (base : ℚ) * multiplier
  min (cooldown.num.tdiv cooldown.den) config.maxCooldownSeconds

end CooldownConfig

namespace ProviderError

/-- `str(error).lower()` has one of the keywords in it. -/
def mentions (error : ProviderError) (keywords : List String) : Bool :=
  keywords.any fun keyword =>
    keyword.toList <:+: error.text.toList.map Char.toLower

/-- The keywords of `classify_error` that come before all others. -/
def rateLimitKeywords : List String :=
  ["rate limit", "rate_limit", "ratelimit", "429", "too many requests"]

end ProviderError

namespace TierRouter

variable (router : TierRouter)

/-- `stats.…` on the statistics of one model. -/
def updateStats (model : String) (change : ModelStats → ModelStats) :
    TierRouter :=
  { router with
    modelStats := Function.update router.modelStats model (change (router.modelStats model)) }

def markAvailable (model : String) : TierRouter :=
  { router with
    availableModels := model :: router.availableModels
    unavailableModels := router.unavailableModels.filter fun other => other ≠ model }

def markUnavailable (model : String) : TierRouter :=
  { router with
    unavailableModels := model :: router.unavailableModels
    availableModels := router.availableModels.filter fun other => other ≠ model }

def recordSuccess (router : TierRouter) (model : String) (now : Clock) : TierRouter :=
  (router.updateStats model fun stats => stats.recordSuccess now).markAvailable model

def recordFailure (router : TierRouter) (config : CooldownConfig) (model : String) (now : Clock)
    (errorType : String) (isPermanent : Bool) : TierRouter :=
  let recorded := router.updateStats model fun stats =>
    let failed := stats.recordFailure now
    failed.setCooldown now (config.calculateCooldown failed errorType)
  if isPermanent then recorded.markUnavailable model else recorded

def recordRateLimit (router : TierRouter) (model : String) (now : Clock) (cooldown : Int) :
    TierRouter :=
  router.updateStats model fun stats => stats.recordRateLimit now (some cooldown)

def recordTimeout (router : TierRouter) (config : CooldownConfig) (model : String) (now : Clock) :
    TierRouter :=
  router.updateStats model fun stats =>
    let timedOut := stats.recordTimeout now
    timedOut.setCooldown now (config.calculateCooldown timedOut "timeout")

def classifyAndRecordError (config : CooldownConfig) (model : String) (now : Clock)
    (error : ProviderError) : TierRouter :=
  if error.status ∈ [some 401, some 403, some 404, some 410] then
    router.recordFailure config model now "permanent" true
  else if error.status = some 429 then router.recordRateLimit model now error.retryAfter
  else if error.status = some 408 then router.recordTimeout config model now
  else if error.mentions ProviderError.rateLimitKeywords then
    router.recordRateLimit model now error.retryAfter
  else if error.mentions ["timeout"] then router.recordTimeout config model now
  else router.recordFailure config model now error.typeName false

/-- `execute_with_bulkhead` around the call: a probe of a half-open circuit is marked while it
is under way. -/
def throughBulkhead (model : String) (during : TierRouter → TierRouter) :
    TierRouter :=
  if (router.modelStats model).circuitState = .halfOpen then
    let probing := router.updateStats model fun stats => { stats with probeInProgress := true }
    (during probing).updateStats model fun stats => { stats with probeInProgress := false }
  else during router

end TierRouter

/-! ### The loop -/

namespace FallbackRound

def selected (round : FallbackRound) (tier : ModelTier) (state : FallbackState) : Selected :=
  (state.router.getModelForTier round.env round.now tier state.tried true none true).1

/-- The attempt at a model that is ready, and what the loop makes of its outcome. Nothing is
returned where the loop goes on. -/
def attempt (round : FallbackRound) (model : String) (state : FallbackState) :
    FallbackState × Option FallbackResult :=
  let called : FallbackState := { state with
    router := state.router.throughBulkhead model round.during
    attempts := state.attempts ++ [(model, round.outcome)] }
  match round.outcome with
  | .returned =>
      ({ called with router := called.router.recordSuccess model round.endedAt },
        some (.returned model))
  | .cancelled => (called, some .cancelled)
  | .circuitResolved => ({ called with router := round.during state.router }, none)
  | .unrecorded error recording =>
      let failed : FallbackState := { called with
        router := (called.router.recordSuccess model round.endedAt).classifyAndRecordError
          round.config model round.endedAt error }
      match recording with
      | some second => (failed, some (.recordingRaised second))
      | none => ({ failed with lastError := some error }, none)
  | .raised error recording =>
      let failed : FallbackState := { called with
        router := called.router.classifyAndRecordError round.config model round.endedAt error }
      match recording with
      | some second => (failed, some (.recordingRaised second))
      | none => ({ failed with lastError := some error }, none)

/-- One round of the loop of `call_with_fallback`. -/
def run (round : FallbackRound) (tier : ModelTier) (state : FallbackState) :
    FallbackState × Option FallbackResult :=
  let searched := state.router.getModelForTier round.env round.now tier state.tried true none true
  let selecting : FallbackState := { state with router := searched.2 }
  match searched.1 with
  | .noProviderConfigured => (selecting, some .noProviderConfigured)
  | .nothing => (selecting, some (.allModelsFailed state.tried state.lastError))
  | .model model =>
      if model ∈ state.tried then
        (selecting, some (.allModelsFailed state.tried state.lastError))
      else
        let trying : FallbackState := { selecting with tried := state.tried ++ [model] }
        if round.ready then round.attempt model trying else (trying, none)

end FallbackRound

/-- `call_with_fallback` from some round on, with a round for each retry that is left. -/
def callWithFallback (tier : ModelTier) :
    List FallbackRound → FallbackState → FallbackState × FallbackResult
  | [], state => (state, .allModelsFailed state.tried state.lastError)
  | round :: rest, state =>
      match round.run tier state with
      | (next, none) => callWithFallback tier rest next
      | (last, some result) => (last, result)

end AgenticRuntime
