/-
The request and token buckets of each provider, and the headers that reset them.

Floats are exact. `Readers` is what the standard library makes of the text of a header;
the dates it reads are in seconds from the time of the call.
-/

import AgenticRuntime.Langchain.Config
import Mathlib.Algebra.Order.Field.Rat
import Mathlib.Algebra.Order.Floor.Ring
import Mathlib.Data.Rat.Floor
import Mathlib.Logic.Function.Basic

namespace Python.PyFloat

def add : PyFloat → PyFloat → PyFloat
  | .finite left, .finite right => .finite (left + right)
  | .nan, _ => .nan
  | _, .nan => .nan
  | .inf, .negInf => .nan
  | .negInf, .inf => .nan
  | .inf, _ => .inf
  | _, .inf => .inf
  | .negInf, _ => .negInf
  | _, .negInf => .negInf

def scale (factor : ℚ) : PyFloat → PyFloat
  | .finite value => .finite (value * factor)
  | value => value

/-- `value > bound` -/
def exceeds (bound : ℚ) : PyFloat → Bool
  | .finite value => bound < value
  | .inf => true
  | .negInf => false
  | .nan => false

end Python.PyFloat

namespace AgenticRuntime

open Python

/-! ### Durations -/

namespace RateLimits

/-- The number in front of a minutes marker at the start of a text, and the text behind the
marker; digits are those of ASCII. -/
def minutesAt (text : List Char) : Option (List Char × List Char) :=
  let digits := text.takeWhile Char.isDigit
  let marked (number : List Char) : List Char → Option (List Char × List Char)
    | 'm' :: behind => if behind.head? = some 's' then none else some (number, behind)
    | _ => none
  if digits.isEmpty then none
  else
    match text.dropWhile Char.isDigit with
    | '.' :: more =>
        let fraction := more.takeWhile Char.isDigit
        if fraction.isEmpty then none
        else marked (digits ++ '.' :: fraction) (more.dropWhile Char.isDigit)
    | rest => marked digits rest

/-- `re.search` of a minutes marker: what stands before the match, its number, and what stands
behind it. -/
def searchMinutes : List Char → Option (List Char × List Char × List Char)
  | [] => none
  | c :: rest =>
      match minutesAt (c :: rest) with
      | some (number, behind) => some ([], number, behind)
      | none =>
          (searchMinutes rest).map fun found => (c :: found.1, found.2.1, found.2.2)

/-- `text.split("ms", 1)`, if the text has the separator. -/
def splitMilliseconds : List Char → Option (List Char × List Char)
  | [] => none
  | 'm' :: 's' :: behind => some ([], behind)
  | c :: rest => (splitMilliseconds rest).map fun parts => (c :: parts.1, parts.2)

section

variable (float : String → Option PyFloat)

/-- `float(text)`, where a text that is no number counts for nothing. -/
def amountOf (text : List Char) : PyFloat := (float (String.ofList text)).getD (.finite 0)

/-- `_consume_duration_minutes`; `none` is its failure. -/
def consumeDurationMinutes (remaining : List Char) : Option (PyFloat × List Char) :=
  match searchMinutes remaining with
  | none => some (.finite 0, remaining)
  | some (before, number, behind) =>
      (float (String.ofList number)).map fun minutes => (minutes.scale 60, before ++ behind)

def consumeDurationSeconds (remaining : List Char) : PyFloat × List Char :=
  if 's' ∈ remaining ∧ splitMilliseconds remaining = none then
    (amountOf float (remaining.takeWhile fun c => c ≠ 's'),
      (remaining.dropWhile fun c => c ≠ 's').tail)
  else (.finite 0, remaining)

def consumeDurationMilliseconds (remaining : List Char) : PyFloat :=
  match splitMilliseconds remaining with
  | some (before, _) => (amountOf float before).scale (1 / 1000)
  | none => .finite 0

def parseDuration (value : String) : Option PyFloat :=
  match float value with
  | some seconds => some seconds
  | none =>
      match consumeDurationMinutes float (strip value).toList with
      | none => none
      | some (minutes, remaining) =>
          let (seconds, rest) := consumeDurationSeconds float remaining
          let total := (minutes.add seconds).add (consumeDurationMilliseconds float rest)
          if total.exceeds 0 then some total else none

end

/-! ### Headers -/

/-- What `datetime.fromisoformat` makes of a text. -/
inductive IsoDate where
  | invalid
  | naive
  | aware (secondsFromNow : ℚ)
  deriving DecidableEq, Repr

structure Readers where
  int : String → Option Int
  float : String → Option PyFloat
  httpDate : String → Option ℚ
  isoDate : String → IsoDate
  time : ℚ

/-- `{str(k).lower(): str(v)}`; a later header of the same name wins. -/
def header? (headers : List (String × String)) (name : String) : Option String :=
  (headers.reverse.find? fun header =>
    String.ofList (header.1.toList.map Char.toLower) = name).map Prod.snd

section

variable (readers : Readers)

def safeInt (value : Option String) : Option Nat :=
  match value.bind readers.int with
  | none => none
  | some number => if 0 ≤ number then some number.toNat else none

variable (headers : List (String × String))

def firstSafeInt (names : List String) : Option Nat :=
  names.findSome? fun name => safeInt readers (header? headers name)

def firstHeader (names : List String) : Option String :=
  names.findSome? fun name => (header? headers name).filter fun value => strip value ≠ ""

/-- `seconds if seconds > 0 else None` -/
def ifPositive (seconds : PyFloat) : Option PyFloat :=
  if seconds.exceeds 0 then some seconds else none

def parseMilliseconds (value : String) : Option PyFloat :=
  (readers.float value).bind fun number => ifPositive (number.scale (1 / 1000))

/-- `_parse_reset_seconds`; a date without a timezone raises a `TypeError`. -/
def parseResetSeconds (value : Option String) : Except PyError (Option PyFloat) :=
  match value with
  | none => .ok none
  | some value =>
      let stripped := strip value
      if stripped = "" then .ok none
      else
        match readers.float stripped with
        | some numeric =>
            .ok (ifPositive
              (if numeric.exceeds 1000000000000 then
                (numeric.scale (1 / 1000)).add (.finite (-readers.time))
              else if numeric.exceeds 1000000000 then numeric.add (.finite (-readers.time))
              else numeric))
        | none =>
            match parseDuration readers.float stripped with
            | some duration => .ok (some duration)
            | none =>
                match readers.httpDate stripped with
                | some seconds => .ok (ifPositive (.finite seconds))
                | none =>
                    match readers.isoDate stripped with
                    | .invalid => .ok none
                    | .naive => .error .typeError
                    | .aware seconds => .ok (ifPositive (.finite seconds))

def firstResetSeconds (headers : List (String × String)) :
    List String → Except PyError (Option PyFloat)
  | [] => .ok none
  | name :: rest => do
      match ← parseResetSeconds readers (header? headers name) with
      | some seconds => return some seconds
      | none => firstResetSeconds headers rest

/-- `_cooldown_seconds`; it is never handed a NaN. -/
def cooldownSeconds : Option PyFloat → Option Int
  | some (.finite seconds) => if 0 < seconds ∧ seconds ≤ 3600 then some (max 1 ⌈seconds⌉) else none
  | _ => none

def parseRetryAfter : Option Int :=
  let retryAfter := (header? headers "retry-after").filter fun value => value ≠ ""
  let delta := retryAfter.bind fun value =>
    ((readers.int value).bind fun seconds => cooldownSeconds (some (.finite seconds))).or
      ((readers.httpDate value).bind fun seconds => cooldownSeconds (some (.finite seconds)))
  delta.or ((firstHeader headers ["retry-after-ms", "x-ms-retry-after-ms"]).bind fun value =>
    cooldownSeconds (parseMilliseconds readers value))

end

end RateLimits

/-! ### Buckets -/

structure TokenBucket where
  capacity : Nat
  refillRate : ℚ
  tokens : ℚ
  lastRefill : ℚ
  deriving DecidableEq, Repr

namespace TokenBucket

def create (capacity : Nat) (refillRate now : ℚ) : TokenBucket where
  capacity := capacity
  refillRate := refillRate
  tokens := capacity
  lastRefill := now

def refill (bucket : TokenBucket) (now : ℚ) : TokenBucket :=
  let elapsed := now - bucket.lastRefill
  { bucket with
    tokens := min (bucket.capacity : ℚ) (bucket.tokens + elapsed * bucket.refillRate)
    lastRefill := now }

def consume (bucket : TokenBucket) (now : ℚ) (tokens : Int) : Bool × TokenBucket :=
  let refilled := bucket.refill now
  if (tokens : ℚ) ≤ refilled.tokens then
    (true, { refilled with tokens := refilled.tokens - tokens })
  else (false, refilled)

def reset (bucket : TokenBucket) (now : ℚ) (remaining : Nat) (resetSeconds : PyFloat) :
    TokenBucket :=
  let rate :=
    if resetSeconds.exceeds 0 && remaining < bucket.capacity then
      match resetSeconds with
      | .finite seconds => ((bucket.capacity - remaining : Nat) : ℚ) / seconds
      | _ => 0
    else bucket.refillRate
  { bucket with
    refillRate := rate
    tokens := (min remaining bucket.capacity : Nat)
    lastRefill := now }

end TokenBucket

/-- Of the other fields only `last_retry_after` changes here. -/
structure ProviderRateLimits where
  rpmBucket : TokenBucket
  tpmBucket : Option TokenBucket
  lastRetryAfter : Option Int := none
  deriving DecidableEq, Repr

/-- `_DEFAULT_LIMITS`, the requests and the tokens of a minute. -/
def defaultLimits (provider : String) : Nat × Nat :=
  match provider with
  | "openai" => (60, 90000)
  | "anthropic" => (60, 80000)
  | "gemini" => (60, 100000)
  | "gh" => (15, 150000)
  | "azure" => (60, 120000)
  | "ollama" => (1000, 1000000)
  | _ => (30, 50000)

def extractProvider (model : String) : String :=
  let front (separator : Char) : String :=
    String.ofList ((model.toList.takeWhile fun c => c ≠ separator).map Char.toLower)
  if ':' ∈ model.toList then front ':' else if '/' ∈ model.toList then front '/' else "unknown"

namespace ProviderRateLimits

open RateLimits

def initial (provider : String) (now : ℚ) : ProviderRateLimits where
  rpmBucket := .create (defaultLimits provider).1 ((defaultLimits provider).1 / 60) now
  tpmBucket := some (.create (defaultLimits provider).2 ((defaultLimits provider).2 / 60) now)

def resetRpm (state : ProviderRateLimits) (now : ℚ) (remaining : Option Nat)
    (reset : Option PyFloat) : ProviderRateLimits :=
  match remaining, reset with
  | some remaining, some reset =>
      { state with rpmBucket := state.rpmBucket.reset now remaining reset }
  | _, _ => state

def resetTpm (state : ProviderRateLimits) (now : ℚ) (remaining : Option Nat)
    (reset : Option PyFloat) : ProviderRateLimits :=
  match remaining, reset with
  | some remaining, some reset =>
      { state with tpmBucket := state.tpmBucket.map fun bucket => bucket.reset now remaining reset }
  | _, _ => state

def exhausted (remaining : Option Nat) (reset : Option PyFloat) : Option Int :=
  if remaining = some 0 then cooldownSeconds reset else none

/-- `max(cooldowns) if cooldowns else None` -/
def longest : Option Int → Option Int → Option Int
  | some left, some right => some (max left right)
  | left, right => left.or right

section

variable (readers : Readers) (now : ℚ) (state : ProviderRateLimits)
  (headers : List (String × String))

def parseBoth (requests resets tokens tokenResets : List String) :
    ProviderRateLimits × Except PyError (Option Int) :=
  let read : Except PyError (Option PyFloat × Option PyFloat) := do
    let reset ← firstResetSeconds readers headers resets
    let tokenReset ← firstResetSeconds readers headers tokenResets
    return (reset, tokenReset)
  match read with
  | .error fault => (state, .error fault)
  | .ok (reset, tokenReset) =>
      let remaining := firstSafeInt readers headers requests
      let remainingTokens := firstSafeInt readers headers tokens
      ((state.resetRpm now remaining reset).resetTpm now remainingTokens tokenReset,
        .ok (longest (exhausted remaining reset) (exhausted remainingTokens tokenReset)))

def parseOpenaiHeaders : ProviderRateLimits × Except PyError (Option Int) :=
  state.parseBoth readers now headers
    ["x-ratelimit-remaining-requests", "x-ms-ratelimit-remaining-requests"]
    ["x-ratelimit-reset-requests", "x-ms-ratelimit-reset-requests"]
    ["x-ratelimit-remaining-tokens", "x-ms-ratelimit-remaining-tokens"]
    ["x-ratelimit-reset-tokens", "x-ms-ratelimit-reset-tokens"]

def parseGeminiHeaders : ProviderRateLimits × Except PyError (Option Int) :=
  state.parseBoth readers now headers
    ["x-ratelimit-remaining-requests", "x-ratelimit-remaining",
      "x-goog-ratelimit-remaining-requests", "x-goog-ratelimit-remaining"]
    ["x-ratelimit-reset-requests", "x-ratelimit-reset", "x-goog-ratelimit-reset-requests",
      "x-goog-ratelimit-reset"]
    ["x-ratelimit-remaining-tokens", "x-goog-ratelimit-remaining-tokens"]
    ["x-ratelimit-reset-tokens", "x-goog-ratelimit-reset-tokens"]

def parseGithubHeaders : ProviderRateLimits × Except PyError (Option Int) :=
  match state.parseOpenaiHeaders readers now headers with
  | (parsed, .error fault) => (parsed, .error fault)
  | (parsed, .ok (some cooldown)) => (parsed, .ok (some cooldown))
  | (parsed, .ok none) =>
      match firstResetSeconds readers headers ["x-ratelimit-reset", "ratelimit-reset"] with
      | .error fault => (parsed, .error fault)
      | .ok reset =>
          let remaining :=
            firstSafeInt readers headers ["x-ratelimit-remaining", "ratelimit-remaining"]
          (parsed.resetRpm now remaining reset, .ok (exhausted remaining reset))

def parseAnthropicHeaders : ProviderRateLimits × Except PyError (Option Int) :=
  match firstResetSeconds readers headers
      ["anthropic-ratelimit-requests-reset", "x-ratelimit-reset-requests"] with
  | .error fault => (state, .error fault)
  | .ok reset =>
      let remaining := firstSafeInt readers headers
        ["anthropic-ratelimit-requests-remaining", "x-ratelimit-remaining-requests"]
      (state.resetRpm now remaining (some (reset.getD (.finite 60))),
        .ok (if remaining = some 0 then some ((cooldownSeconds reset).getD 60) else none))

end

end ProviderRateLimits

/-! ### The tracker -/

/-- `_providers`, and what the monotonic clock shows. -/
structure RateLimitTracker where
  providers : String → Option ProviderRateLimits := fun _ => none
  clock : ℚ := 0

namespace RateLimitTracker

variable (tracker : RateLimitTracker)

/-- What `get_provider` returns. -/
def getProvider (model : String) : ProviderRateLimits :=
  let provider := extractProvider model
  (tracker.providers provider).getD (.initial provider tracker.clock)

def setProvider (model : String) (state : ProviderRateLimits) :
    RateLimitTracker :=
  { tracker with
    providers := Function.update tracker.providers (extractProvider model) (some state) }

def canRequest (model : String) (estimatedTokens : Int) :
    Bool × RateLimitTracker :=
  let state := tracker.getProvider model
  let (allowed, rpm) := state.rpmBucket.consume tracker.clock 1
  let requested := { state with rpmBucket := rpm }
  if !allowed then (false, tracker.setProvider model requested)
  else
    match state.tpmBucket with
    | none => (true, tracker.setProvider model requested)
    | some bucket =>
        let (granted, tpm) := bucket.consume tracker.clock estimatedTokens
        (granted, tracker.setProvider model { requested with tpmBucket := some tpm })

def updateFromHeaders (readers : RateLimits.Readers) (model : String)
    (headers : List (String × String)) :
    RateLimitTracker × Except PyError (Option Int) :=
  let provider := extractProvider model
  let state := tracker.getProvider model
  match RateLimits.parseRetryAfter readers headers with
  | some retryAfter =>
      (tracker.setProvider model { state with lastRetryAfter := some retryAfter },
        .ok (some retryAfter))
  | none =>
      let parsed :=
        if provider ∈ ["openai", "azure"] then
          state.parseOpenaiHeaders readers tracker.clock headers
        else if provider = "gh" then state.parseGithubHeaders readers tracker.clock headers
        else if provider = "gemini" then state.parseGeminiHeaders readers tracker.clock headers
        else if provider = "anthropic" then
          state.parseAnthropicHeaders readers tracker.clock headers
        else (state, .ok none)
      (tracker.setProvider model parsed.1, parsed.2)

end RateLimitTracker

end AgenticRuntime
