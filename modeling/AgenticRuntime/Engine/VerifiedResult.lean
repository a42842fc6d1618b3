/-
What the verdict of the verification loop says about the runs of the checks.
-/

import AgenticRuntime.Engine.VerificationLoop
import AgenticRuntime.Python.Values
import Mathlib.Data.List.GetD

namespace AgenticRuntime

open List

namespace VerificationLoop

open Python

/-! ### Reading the log -/

def Event.isCorrection : Event → Bool
  | .corrected _ _ => true
  | _ => false

def Event.produced : Event → Option StepResult
  | .stepped result => some result
  | .corrected _ result => some result
  | .checked _ _ => none

def Event.check : Event → Option (VerificationStatus × List String)
  | .checked status failing => some (status, failing)
  | _ => none

def corrections (log : List Event) : Nat := (log.filter Event.isCorrection).length

def checksOf (log : List Event) : List (VerificationStatus × List String) :=
  log.filterMap Event.check

/-! ### Rounds of the correction loop -/

structure Round where
  asked : List String
  verified : Current

def Round.events (round : Round) : List Event :=
  [.corrected round.asked round.verified.stepResult,
    .checked round.verified.status round.verified.failing]

def Current.check (current : Current) : VerificationStatus × List String :=
  (current.status, current.failing)

def entries : Nat → List Round → List CorrectionAttempt
  | _, [] => []
  | attemptNum, round :: rest => attemptOf attemptNum round.verified :: entries (attemptNum + 1) rest

def latest : Current → List Round → Current
  | current, [] => current
  | _, round :: rest => latest round.verified rest

def before : List String → List Round → List String
  | previous, [] => previous
  | _, round :: rest => before round.asked rest

def Chained : Current → List Round → Prop
  | _, [] => True
  | current, round :: rest => round.asked = current.failing ∧ Chained round.verified rest

theorem numbers_entries (attemptNum : Nat) (rounds : List Round) :
    (entries attemptNum rounds).map CorrectionAttempt.attemptNumber =
      List.range' attemptNum rounds.length := by
  induction rounds generalizing attemptNum with
  | nil => rfl
  | cons round rest ih =>
      rw [entries, map_cons, ih, length_cons, List.range'_succ]
      rfl

theorem checks_entries (attemptNum : Nat) (rounds : List Round) :
    (entries attemptNum rounds).map (fun attempt =>
      (attempt.verificationStatus, attempt.failingChecks)) =
      rounds.map fun round => round.verified.check := by
  induction rounds generalizing attemptNum with
  | nil => rfl
  | cons round rest ih =>
      rw [entries, map_cons, ih, map_cons]
      rfl

theorem corrections_rounds (rounds : List Round) :
    corrections (rounds.flatMap Round.events) = rounds.length := by
  induction rounds with
  | nil => rfl
  | cons round rest ih =>
      rw [corrections] at ih ⊢
      rw [flatMap_cons, filter_append, length_append, ih, length_cons, Nat.add_comm]
      rfl

theorem checksOf_rounds (rounds : List Round) :
    checksOf (rounds.flatMap Round.events) = rounds.map fun round => round.verified.check := by
  induction rounds with
  | nil => rfl
  | cons round rest ih =>
      rw [checksOf] at ih ⊢
      rw [flatMap_cons, filterMap_append, ih, map_cons]
      rfl

theorem latest_check (current : Current) (rounds : List Round) :
    (current.check :: rounds.map fun round => round.verified.check).getLast? =
      some (latest current rounds).check := by
  induction rounds generalizing current with
  | nil => rfl
  | cons round rest ih =>
      rw [map_cons, List.getLast?_cons_cons, ih, latest]

theorem events_end {rounds : List Round} (some_ : rounds ≠ []) (current : Current) :
    ∃ front failing, rounds.flatMap Round.events = front ++
      [.corrected failing (latest current rounds).stepResult,
        .checked (latest current rounds).status (latest current rounds).failing] := by
  induction rounds generalizing current with
  | nil => exact absurd rfl some_
  | cons round rest ih =>
      rw [flatMap_cons, latest]
      by_cases last : rest = []
      · rw [last]
        exact ⟨[], round.asked, rfl⟩
      · obtain ⟨front, failing, tail⟩ := ih last round.verified
        exact ⟨round.events ++ front, failing, by rw [tail, append_assoc]⟩

theorem checks_end {rounds : List Round} (some_ : rounds ≠ []) {current : Current}
    (chained : Chained current rounds) (previous : List String) :
    ∃ front first second, (current.check :: rounds.map fun round => round.verified.check) =
      front ++ [(first, before previous rounds), (second, (latest current rounds).failing)] := by
  induction rounds generalizing current previous with
  | nil => exact absurd rfl some_
  | cons round rest ih =>
      rw [map_cons, before, latest]
      by_cases last : rest = []
      · rw [last, before, chained.1]
        exact ⟨[], current.status, round.verified.status, rfl⟩
      · obtain ⟨front, first, second, tail⟩ := ih last chained.2 round.asked
        exact ⟨current.check :: front, first, second, by rw [tail, cons_append]⟩

/-! ### One run of the loop -/

section

variable {World Failure : Type} (policy : VerificationPolicy)
  (surroundings : Surroundings World Failure)

/-- Why the correction loop ended, with the abort record it left. -/
inductive Ending (left attemptNum : Nat) (previous : List String) (final : Carried World)
    (rounds : List Round) : List CorrectionAttempt → Prop
  | passed (some_ : rounds ≠ []) (status : final.current.status = .passed) :
      Ending left attemptNum previous final rounds []
  | spent (status : final.current.status ≠ .passed) (all : rounds.length = left) :
      Ending left attemptNum previous final rounds []
  | repeated (abort : CorrectionAttempt) (status : final.current.status ≠ .passed)
      (number : abort.attemptNumber = attemptNum + rounds.length)
      (later : 1 < attemptNum + rounds.length)
      (same : final.current.failing = before previous rounds) :
      Ending left attemptNum previous final rounds [abort]
  | unaffordable (abort : CorrectionAttempt) (status : final.current.status ≠ .passed)
      (number : abort.attemptNumber = attemptNum + rounds.length)
      (poor : canAffordCorrection policy surroundings final.run.world = false) :
      Ending left attemptNum previous final rounds [abort]

structure Looped (left attemptNum : Nat) (previous : List String) (carried final : Carried World)
    (rounds : List Round) (aborts : List CorrectionAttempt) : Prop where
  log : final.run.log = carried.run.log ++ rounds.flatMap Round.events
  attempts : final.attempts = carried.attempts ++ (entries attemptNum rounds ++ aborts)
  current : final.current = latest carried.current rounds
  chained : Chained carried.current rounds
  within : rounds.length ≤ left
  ending : Ending policy surroundings left attemptNum previous final rounds aborts

variable {policy surroundings}

theorem of_map_ok {ε α β : Type} {compute : Except ε α} {read : α → β} {result : β}
    (ok : compute.map read = .ok result) : ∃ value, read value = result := by
  cases compute with
  | error failure => cases ok
  | ok value => exact ⟨value, Except.ok.inj ok⟩

variable {run : Run World}

theorem runStep_ok {answer : StepResult × Run World} (ok : runStep surroundings run = .ok answer) :
    answer.2.log = run.log ++ [.stepped answer.1] := by
  obtain ⟨result, rfl⟩ := of_map_ok ok
  rfl

theorem runChecks_ok {answer : (VerificationStatus × List String) × Run World}
    (ok : runChecks policy surroundings run = .ok answer) :
    answer.2.log = run.log ++ [.checked answer.1.1 answer.1.2] := by
  obtain ⟨result, rfl⟩ := of_map_ok ok
  rfl

theorem correct_ok {failing : List String} {answer : StepResult × Run World}
    (ok : correct surroundings failing run = .ok answer) :
    answer.2.log = run.log ++ [.corrected failing answer.1] := by
  obtain ⟨result, rfl⟩ := of_map_ok ok
  rfl

theorem attempt_ok {failing : List String} {answer : Current × Run World}
    (ok : attempt policy surroundings failing run = .ok answer) :
    answer.2.log = run.log ++ (Round.mk failing answer.1).events := by
  rw [attempt] at ok
  obtain ⟨corrected, mended, ok⟩ := bind_ok ok
  obtain ⟨checked, ran, ok⟩ := bind_ok ok
  cases ok
  rw [runChecks_ok ran, correct_ok mended, append_assoc]
  rfl

theorem checkAbort_some {attemptNum : Nat} {failing previous : List String} {world : World}
    {abort : CorrectionAttempt}
    (stops : checkAbortCorrection policy surroundings attemptNum failing previous world =
      some abort) :
    abort.attemptNumber = attemptNum ∧
      ((1 < attemptNum ∧ failing = previous) ∨
        canAffordCorrection policy surroundings world = false) := by
  rw [checkAbortCorrection] at stops
  by_cases twice : failing = previous ∧ 1 < attemptNum
  · rw [if_pos twice] at stops
    cases stops
    exact ⟨rfl, .inl ⟨twice.2, twice.1⟩⟩
  · rw [if_neg twice] at stops
    cases rich : canAffordCorrection policy surroundings world with
    | true =>
        rw [rich] at stops
        cases stops
    | false =>
        rw [rich] at stops
        cases stops
        exact ⟨rfl, .inr rfl⟩

theorem correctionLoop_spec (left attemptNum : Nat) (previous : List String)
    (carried final : Carried World)
    (ok : correctionLoop policy surroundings left attemptNum previous carried = .ok final)
    (open_ : carried.current.status ≠ .passed) :
    ∃ rounds aborts,
      Looped policy surroundings left attemptNum previous carried final rounds aborts := by
  induction left generalizing attemptNum previous carried with
  | zero =>
      cases ok
      exact ⟨[], [], (append_nil _).symm, (append_nil _).symm, rfl, trivial, Nat.le_refl 0,
        .spent open_ rfl⟩
  | succ left ih =>
      rw [correctionLoop] at ok
      cases test : checkAbortCorrection policy surroundings attemptNum carried.current.failing
          previous carried.run.world with
      | some abort =>
          rw [test] at ok
          cases ok
          obtain ⟨number, reason⟩ := checkAbort_some test
          refine ⟨[], [abort], (append_nil _).symm, rfl, rfl, trivial, Nat.zero_le _, ?_⟩
          rcases reason with ⟨later, same⟩ | poor
          · exact .repeated abort open_ number later same
          · exact .unaffordable abort open_ number poor
      | none =>
          rw [test] at ok
          obtain ⟨answer, tried, ok⟩ := bind_ok ok
          have log := attempt_ok tried
          dsimp only at ok
          by_cases settled : answer.1.status = .passed
          · rw [if_pos settled] at ok
            cases ok
            refine ⟨[⟨carried.current.failing, answer.1⟩], [], ?_, rfl, rfl, ⟨rfl, trivial⟩,
              Nat.le_add_left 1 left, .passed (cons_ne_nil _ _) settled⟩
            rw [log, flatMap_singleton]
          · rw [if_neg settled] at ok
            obtain ⟨rounds, aborts, looped⟩ := ih (attemptNum + 1) carried.current.failing _ ok
              settled
            refine ⟨⟨carried.current.failing, answer.1⟩ :: rounds, aborts, ?_, ?_, looped.current,
              ⟨rfl, looped.chained⟩, Nat.succ_le_succ looped.within, ?_⟩
            · rw [looped.log, log, flatMap_cons, append_assoc]
            · rw [looped.attempts, entries, append_assoc, cons_append, cons_append, nil_append]
            · have counted : attemptNum + 1 + rounds.length =
                  attemptNum + (rounds.length + 1) := by omega
              cases looped.ending with
              | passed some_ status => exact .passed (cons_ne_nil _ _) status
              | spent status all => exact .spent status (congrArg (· + 1) all)
              | repeated abort status number later same =>
                  exact .repeated abort status (number.trans counted) (counted ▸ later) same
              | unaffordable abort status number poor =>
                  exact .unaffordable abort status (number.trans counted) poor

/-! ### The verdict -/

structure Sound (policy : VerificationPolicy) (surroundings : Surroundings World Failure)
    (stepResult : StepResult) (verification : VerificationResult) (run : Run World) : Prop where
  bounded : corrections run.log ≤ policy.maxRetries
  lastRun : verification.finalStatus = .passed ↔
    ∃ failing, (checksOf run.log).getLast? = some (.passed, failing)
  verified : verification.finalStatus = .passed → stepResult.isFailed = false ∧
    ∃ front produced failing, run.log = front ++ [produced, .checked .passed failing] ∧
      produced.produced = some stepResult
  stopped : verification.finalStatus ≠ .passed →
    (verification.finalStatus = .skipped ∧ checksOf run.log = []) ∨
    (verification.finalStatus = .maxRetriesExceeded ∧
      (corrections run.log = policy.maxRetries ∨
        (∃ front first second failing,
          checksOf run.log = front ++ [(first, failing), (second, failing)]) ∨
        canAffordCorrection policy surroundings run.world = false))
  numbered : verification.attempts.map CorrectionAttempt.attemptNumber =
    List.range' 1 verification.attempts.length
  counted : ∃ recorded aborts, verification.attempts = recorded ++ aborts ∧
    recorded.length = corrections run.log ∧ aborts.length ≤ 1 ∧
    recorded.map (fun attempt => (attempt.verificationStatus, attempt.failingChecks)) =
      (checksOf run.log).tail

def NoFailedPass (log : List Event) : Prop :=
  ∀ front asked result failing,
    log = front ++ [.corrected asked result, .checked .passed failing] → result.isFailed = false

theorem end_inj {α : Type} {front other : List α} {first second third fourth : α}
    (same : front ++ [first, second] = other ++ [third, fourth]) : first = third ∧ second = fourth := by
  have pairs := append_inj_right' same rfl
  cases pairs
  exact ⟨rfl, rfl⟩

theorem noFailedPass_of_sound {stepResult : StepResult} {verification : VerificationResult}
    (sound : Sound policy surroundings stepResult verification run) :
    NoFailedPass run.log := by
  intro front asked result failing ends
  have last : (checksOf run.log).getLast? = some (.passed, failing) := by
    rw [ends, checksOf, filterMap_append]
    exact List.getLast?_concat
  obtain ⟨sane, other, produced, left, split, made⟩ := sound.verified (sound.lastRun.mpr ⟨_, last⟩)
  obtain ⟨same, _⟩ := end_inj (ends.symm.trans split)
  rw [← same] at made
  cases made
  exact sane

theorem sound_skipped (stepResult : StepResult) (world : World) :
    Sound policy surroundings stepResult skippedResult ⟨world, [.stepped stepResult]⟩ where
  bounded := Nat.zero_le _
  lastRun := by
    constructor
    · intro passed
      cases passed
    · intro ⟨failing, last⟩
      cases last
  verified := by
    intro passed
    cases passed
  stopped := fun _ => .inl ⟨rfl, rfl⟩
  numbered := rfl
  counted := ⟨[], [], rfl, rfl, Nat.zero_le 1, rfl⟩

theorem sound_passed {stepResult : StepResult} (sane : stepResult.isFailed = false) (world : World)
    (failing : List String) :
    Sound policy surroundings stepResult { finalStatus := .passed }
      ⟨world, [.stepped stepResult, .checked .passed failing]⟩ where
  bounded := Nat.zero_le _
  lastRun := iff_of_true rfl ⟨failing, rfl⟩
  verified := fun _ => ⟨sane, [], .stepped stepResult, failing, rfl, rfl⟩
  stopped := fun open_ => absurd rfl open_
  numbered := rfl
  counted := ⟨[], [], rfl, rfl, Nat.zero_le 1, rfl⟩

theorem finalStatus_iff (final : Carried World) :
    (finalResult policy final).finalStatus = .passed ↔ final.current.status = .passed := by
  have unfolded : (finalResult policy final).finalStatus =
      if final.current.status = .passed then .passed else .maxRetriesExceeded := rfl
  rw [unfolded]
  by_cases passed : final.current.status = .passed
  · rw [if_pos passed]
    exact iff_of_true rfl passed
  · rw [if_neg passed]
    exact iff_of_false (by decide) passed

section

variable {first : Current} {world : World} {final : Carried World} {rounds : List Round}
  {aborts : List CorrectionAttempt}
  (looped : Looped policy surroundings policy.maxRetries 1 [] ⟨first, [], ⟨world,
    [.stepped first.stepResult, .checked first.status first.failing]⟩⟩ final rounds aborts)

include looped

theorem Looped.corrections_eq : corrections final.run.log = rounds.length := by
  have split := corrections_rounds rounds
  rw [corrections] at split ⊢
  rw [looped.log, filter_append, length_append, split]
  exact Nat.zero_add _

theorem Looped.checksOf_eq : checksOf final.run.log =
    first.check :: rounds.map fun round => round.verified.check := by
  have split := checksOf_rounds rounds
  rw [checksOf] at split ⊢
  rw [looped.log, filterMap_append, split]
  rfl

theorem Looped.last_check : (checksOf final.run.log).getLast? = some final.current.check := by
  rw [looped.checksOf_eq, latest_check, looped.current]

theorem Looped.lastRun_iff : final.current.status = .passed ↔
    ∃ failing, (checksOf final.run.log).getLast? = some (.passed, failing) := by
  rw [looped.last_check]
  constructor
  · intro passed
    exact ⟨final.current.failing, congrArg some (Prod.ext passed rfl)⟩
  · intro ⟨failing, same⟩
    exact congrArg Prod.fst (Option.some.inj same)

theorem Looped.verified_end (passed : final.current.status = .passed) :
    ∃ front failing, final.run.log = front ++
      [.corrected failing final.current.stepResult, .checked .passed final.current.failing] := by
  have some_ : rounds ≠ [] := by
    cases looped.ending with
    | passed some_ _ => exact some_
    | spent status _ | repeated _ status _ _ _ | unaffordable _ status _ _ =>
        exact absurd passed status
  obtain ⟨front, failing, tail⟩ := events_end some_ first
  rw [← looped.current, passed] at tail
  refine ⟨[.stepped first.stepResult, .checked first.status first.failing] ++ front, failing, ?_⟩
  rw [looped.log, tail, append_assoc]

theorem Looped.stops (open_ : final.current.status ≠ .passed) :
    corrections final.run.log = policy.maxRetries ∨
      (∃ front one other failing,
        checksOf final.run.log = front ++ [(one, failing), (other, failing)]) ∨
      canAffordCorrection policy surroundings final.run.world = false := by
  cases looped.ending with
  | passed _ status => exact absurd status open_
  | spent _ all => exact .inl (looped.corrections_eq.trans all)
  | repeated _ _ _ later same =>
      have some_ : rounds ≠ [] := by
        intro empty
        rw [empty] at later
        exact absurd later (by decide)
      obtain ⟨front, one, other, tail⟩ := checks_end some_ looped.chained []
      rw [← looped.current, ← same] at tail
      exact .inr (.inl ⟨front, one, other, _, looped.checksOf_eq.trans tail⟩)
  | unaffordable _ _ _ poor => exact .inr (.inr poor)

theorem Looped.numbered : final.attempts.map CorrectionAttempt.attemptNumber =
    List.range' 1 final.attempts.length := by
  have alone : entries 1 rounds = entries 1 rounds ++ [] := (append_nil _).symm
  have length := congrArg List.length (numbers_entries 1 rounds)
  rw [length_map, length_range'] at length
  have attempts : final.attempts = entries 1 rounds ++ aborts := looped.attempts
  rw [attempts, map_append, numbers_entries, length_append, length]
  have extended : ∀ abort : CorrectionAttempt, abort.attemptNumber = 1 + rounds.length →
      List.range' 1 rounds.length ++ [abort].map CorrectionAttempt.attemptNumber =
        List.range' 1 (rounds.length + [abort].length) := by
    intro abort number
    rw [length_singleton, List.range'_1_concat, map_singleton, number]
  cases looped.ending with
  | passed _ _ | spent _ _ => rw [map_nil, append_nil, length_nil, Nat.add_zero]
  | repeated abort _ number _ _ | unaffordable abort _ number _ => exact extended abort number

theorem Looped.aborts_le : aborts.length ≤ 1 := by
  cases looped.ending with
  | passed _ _ | spent _ _ => exact Nat.zero_le 1
  | repeated _ _ _ _ _ | unaffordable _ _ _ _ => exact Nat.le_refl 1

theorem Looped.sound (honest : NoFailedPass final.run.log) :
    Sound policy surroundings final.current.stepResult (finalResult policy final) final.run where
  bounded := looped.corrections_eq ▸ looped.within
  lastRun := (finalStatus_iff final).trans looped.lastRun_iff
  verified := by
    intro passed
    obtain ⟨front, asked, ends⟩ := looped.verified_end ((finalStatus_iff final).mp passed)
    exact ⟨honest front asked _ _ ends, front, _, _, ends, rfl⟩
  stopped := by
    intro open_
    have unsettled := fun passed => open_ ((finalStatus_iff final).mpr passed)
    exact .inr ⟨if_neg unsettled, looped.stops unsettled⟩
  numbered := looped.numbered
  counted := by
    refine ⟨entries 1 rounds, aborts, looped.attempts, ?_, looped.aborts_le, ?_⟩
    · rw [looped.corrections_eq, ← length_map, numbers_entries, length_range']
    · rw [looped.checksOf_eq, checks_entries, tail_cons]

end

/-- The loop is sound exactly when no failed correction is let through by its checks. -/
theorem execute_sound_iff (policy : VerificationPolicy) (surroundings : Surroundings World Failure)
    (world : World) (stepResult : StepResult) (verification : VerificationResult) (run : Run World)
    (ok : executeWithVerification policy surroundings world =
      .ok ((stepResult, verification), run)) :
    Sound policy surroundings stepResult verification run ↔ NoFailedPass run.log := by
  refine ⟨noFailedPass_of_sound, fun honest => ?_⟩
  rw [executeWithVerification] at ok
  obtain ⟨⟨result, stepped⟩, began, ok⟩ := bind_ok ok
  have began : stepped.log = [.stepped result] := runStep_ok began
  by_cases skips : ¬ policy.enabled ∨ belowFloor policy surroundings world ∨ result.isFailed
  · rw [if_pos skips] at ok
    cases ok
    cases stepped with
    | mk after log =>
        cases began
        exact sound_skipped result after
  · rw [if_neg skips] at ok
    obtain ⟨⟨⟨status, failing⟩, checked⟩, ran, ok⟩ := bind_ok ok
    have sane : result.isFailed = false := by
      rw [Bool.eq_false_iff]
      exact fun failed => skips (.inr (.inr failed))
    have log : checked.log = [.stepped result, .checked status failing] := by
      rw [runChecks_ok ran, began]
      rfl
    cases checked with
    | mk after events =>
        cases log
        dsimp only at ok
        by_cases passed : status = .passed
        · rw [if_pos passed] at ok
          cases ok
          rw [passed]
          exact sound_passed sane after failing
        · rw [if_neg passed] at ok
          obtain ⟨carried, loop, ok⟩ := bind_ok ok
          cases ok
          obtain ⟨rounds, aborts, looped⟩ := correctionLoop_spec _ _ _ _ _ loop passed
          exact @Looped.sound World Failure policy surroundings ⟨result, status, failing⟩ after
            carried rounds aborts looped honest

end

def mendedByFailure : Surroundings Bool Unit where
  stepFunc := fun world => .ok ({ stepName := "build", status := .success }, world)
  correctionFunc := some fun _ _ => .ok ({ stepName := "build", status := .failed }, true)
  runSingle := fun _ world => (.exited (if world then 0 else 1), world)
  tokenBudget := none

def onlyTests : VerificationPolicy := { verificationCommands := ["pytest"] }

def mendedLog : List Event :=
  [.stepped { stepName := "build", status := .success }, .checked .failed ["pytest"],
    .corrected ["pytest"] { stepName := "build", status := .failed }, .checked .passed []]

def mendedVerdict : VerificationResult where
  finalStatus := .passed
  attempts := [{ attemptNumber := 1, verificationStatus := .passed,
                 correctionOutcome := some .fixed }]

theorem execute_mended : executeWithVerification onlyTests mendedByFailure false =
    .ok (({ stepName := "build", status := .failed }, mendedVerdict), ⟨true, mendedLog⟩) := rfl

theorem execute_sound_iff_mended :
    Sound onlyTests mendedByFailure { stepName := "build", status := .failed } mendedVerdict
      ⟨true, mendedLog⟩ ↔ NoFailedPass mendedLog :=
  execute_sound_iff onlyTests mendedByFailure false _ _ _ execute_mended

/-- A failed step result is returned as passed. -/
theorem failed_result_passes : ∃ stepResult verification run,
    executeWithVerification onlyTests mendedByFailure false =
      .ok ((stepResult, verification), run) ∧
    verification.finalStatus = .passed ∧ stepResult.isFailed = true ∧
    ¬ Sound onlyTests mendedByFailure stepResult verification run := by
  refine ⟨_, _, _, execute_mended, rfl, rfl, ?_⟩
  intro sound
  exact absurd (sound.verified rfl).1 (by decide)

end VerificationLoop

end AgenticRuntime
