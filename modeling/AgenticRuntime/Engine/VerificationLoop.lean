/-
The verification loop around a step, and what its verdict says about the last check.

The step, the corrections, the commands and the token budget are read off a world that
they may change; what the loop did is kept in order beside it.  Durations are left out.
-/

import AgenticRuntime.Engine.Lifecycle
import Mathlib.Data.Rat.Floor

namespace AgenticRuntime

namespace VerificationLoop

/-! ### contracts/verification.py -/

inductive VerificationStatus where
  | passed
  | failed
  | skipped
  | error
  | maxRetriesExceeded
  deriving DecidableEq, Repr

inductive CorrectionOutcome where
  | fixed
  | partiallyFixed
  | notFixed
  | escalated
  | budgetExhausted
  deriving DecidableEq, Repr

structure VerificationPolicy where
  enabled : Bool := true
  maxRetries : Nat := 3
  tokenBudgetPct : Rat := 1 / 4
  verificationCommands : List String := ["pytest", "ruff check", "mypy"]
  stopOnFirstFailure : Bool := false
  escalationStrategy : String := "report"
  minTokenFloor : Nat := 1000
  deriving DecidableEq, Repr

structure CorrectionAttempt where
  attemptNumber : Nat
  verificationStatus : VerificationStatus
  failingChecks : List String := []
  tokensUsed : Nat := 0
  correctionOutcome : Option CorrectionOutcome := none
  errorSummary : String := ""
  deriving DecidableEq, Repr

structure VerificationResult where
  finalStatus : VerificationStatus
  attempts : List CorrectionAttempt := []
  totalTokensUsed : Nat := 0
  escalated : Bool := false
  escalationReason : String := ""
  deriving DecidableEq, Repr

/-! ### The surroundings -/

/-- How `_run_single` ends on a command. -/
inductive CommandOutcome (Failure : Type) where
  | exited (code : Int)
  | osError
  | raised (failure : Failure)

/-- What the loop calls; an exception leaves no world to go on in. -/
structure Surroundings (World Failure : Type) where
  stepFunc : World → Except Failure (StepResult × World)
  correctionFunc : Option (List String → World → Except Failure (StepResult × World))
  runSingle : String → World → CommandOutcome Failure × World
  tokenBudget : Option (World → Nat)

inductive Event where
  | stepped (result : StepResult)
  | corrected (failing : List String) (result : StepResult)
  | checked (status : VerificationStatus) (failing : List String)
  deriving DecidableEq, Repr

structure Run (World : Type) where
  world : World
  log : List Event

/-! ### verification.py -/

section

variable {World Failure : Type} (policy : VerificationPolicy)
  (surroundings : Surroundings World Failure)

/-- The loop of `run_checks`. -/
def checkCommands : List String → List String → World →
    Except Failure ((VerificationStatus × List String) × World)
  | [], failing, world =>
      .ok (if failing.isEmpty then (.passed, []) else (.failed, failing), world)
  | cmd :: rest, failing, world =>
      match surroundings.runSingle cmd world with
      | (.osError, world) => .ok ((.error, [cmd]), world)
      | (.raised failure, _) => .error failure
      | (.exited code, world) =>
          if code = 0 then checkCommands rest failing world
          else if policy.stopOnFirstFailure then .ok ((.failed, failing ++ [cmd]), world)
          else checkCommands rest (failing ++ [cmd]) world

def runChecks (run : Run World) :
    Except Failure ((VerificationStatus × List String) × Run World) :=
  (checkCommands policy surroundings policy.verificationCommands [] run.world).map fun answer =>
    (answer.1, ⟨answer.2, run.log ++ [.checked answer.1.1 answer.1.2]⟩)

def runStep (run : Run World) : Except Failure (StepResult × Run World) :=
  (surroundings.stepFunc run.world).map fun answer =>
    (answer.1, ⟨answer.2, run.log ++ [.stepped answer.1]⟩)

def correct (failing : List String) (run : Run World) : Except Failure (StepResult × Run World) :=
  let answer := match surroundings.correctionFunc with
    | some correctionFunc => correctionFunc failing run.world
    | none => surroundings.stepFunc run.world
  answer.map fun answer => (answer.1, ⟨answer.2, run.log ++ [.corrected failing answer.1]⟩)

def canAffordCorrection (world : World) : Bool :=
  match surroundings.tokenBudget with
  | none => true
  | some remaining => 0 < (remaining world * policy.tokenBudgetPct).floor

def checkAbortCorrection (attemptNum : Nat) (failing previousFailing : List String)
    (world : World) : Option CorrectionAttempt :=
  if failing = previousFailing ∧ 1 < attemptNum then
    some { attemptNumber := attemptNum, verificationStatus := .failed, failingChecks := failing,
           correctionOutcome := some .notFixed,
           errorSummary := "Loop detected: same failures as previous attempt" }
  else if canAffordCorrection policy surroundings world then none
  else
    some { attemptNumber := attemptNum, verificationStatus := .failed, failingChecks := failing,
           correctionOutcome := some .budgetExhausted }

structure Current where
  stepResult : StepResult
  status : VerificationStatus
  failing : List String
  deriving DecidableEq, Repr

structure Carried (World : Type) where
  current : Current
  attempts : List CorrectionAttempt
  run : Run World

def attemptOf (attemptNum : Nat) (current : Current) : CorrectionAttempt where
  attemptNumber := attemptNum
  verificationStatus := current.status
  failingChecks := current.failing
  tokensUsed := 0
  correctionOutcome := some (if current.status = .passed then .fixed else .notFixed)

def attempt (failing : List String) (run : Run World) : Except Failure (Current × Run World) := do
  let corrected ← correct surroundings failing run
  let answer ← runChecks policy surroundings corrected.2
  return (⟨corrected.1, answer.1.1, answer.1.2⟩, answer.2)

/-- `_run_correction_loop`, with the number of rounds left. -/
def correctionLoop : Nat → Nat → List String → Carried World → Except Failure (Carried World)
  | 0, _, _, carried => .ok carried
  | left + 1, attemptNum, previousFailing, carried =>
      match checkAbortCorrection policy surroundings attemptNum carried.current.failing
          previousFailing carried.run.world with
      | some abort => .ok { carried with attempts := carried.attempts ++ [abort] }
      | none => do
          let answer ← attempt policy surroundings carried.current.failing carried.run
          let next : Carried World :=
            ⟨answer.1, carried.attempts ++ [attemptOf attemptNum answer.1], answer.2⟩
          if answer.1.status = .passed then .ok next
          else correctionLoop left (attemptNum + 1) carried.current.failing next

def resolveEscalation (finalStatus : VerificationStatus) (failing : List String) : Bool × String :=
  if finalStatus = .passed then (false, "")
  else if policy.escalationStrategy = "report" then (false, "")
  else if policy.escalationStrategy = "block" then
    (true, "Verification failed — step blocked by policy")
  else if policy.escalationStrategy = "ask" then
    (true, "Verification failed — human review required. Failing checks: " ++
      ", ".intercalate failing)
  else (false, "")

def skippedResult : VerificationResult := { finalStatus := .skipped }

/-- The end of `execute_with_verification`, after the loop. -/
def finalResult (carried : Carried World) : VerificationResult :=
  let finalStatus : VerificationStatus :=
    if carried.current.status = .passed then .passed else .maxRetriesExceeded
  let escalation := resolveEscalation policy finalStatus carried.current.failing
  { finalStatus := finalStatus
    attempts := carried.attempts
    totalTokensUsed := (carried.attempts.map CorrectionAttempt.tokensUsed).foldl (· + ·) 0
    escalated := escalation.1
    escalationReason := escalation.2 }

def belowFloor (world : World) : Bool :=
  match surroundings.tokenBudget with
  | none => false
  | some remaining => remaining world < policy.minTokenFloor

def executeWithVerification (world : World) :
    Except Failure ((StepResult × VerificationResult) × Run World) := do
  let stepped ← runStep surroundings ⟨world, []⟩
  if ¬ policy.enabled ∨ belowFloor policy surroundings world ∨ stepped.1.isFailed then
    return ((stepped.1, skippedResult), stepped.2)
  else
    let checked ← runChecks policy surroundings stepped.2
    if checked.1.1 = .passed then
      return ((stepped.1, { finalStatus := .passed }), checked.2)
    else
      let carried ← correctionLoop policy surroundings policy.maxRetries 1 []
        ⟨⟨stepped.1, checked.1.1, checked.1.2⟩, [], checked.2⟩
      return ((carried.current.stepResult, finalResult policy carried), carried.run)

end

end VerificationLoop

end AgenticRuntime
