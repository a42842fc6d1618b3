/-
The pass rates of the arms of a wave.

Every statistic reads the active trials and grades, which no other row supersedes.
-/

import AgenticRuntime.Evals.Ledger.Store
import Mathlib

namespace AgenticRuntime

namespace EvalLedger

open Sql

/-- `SELECT supersedes FROM rows WHERE supersedes IS NOT NULL` -/
def supersededIds (rows : List Row) : List Sql.Value :=
  (rows.map fun row => row.get "supersedes").filter fun value => value ≠ .null

/-- `WHERE id NOT IN (superseded ids)` -/
def activeRows (id : String) (rows : List Row) : List Row :=
  rows.filter fun row => ((row.get id).isIn (supersededIds rows)).not = some true

def activeTrial (db : Tables) : List Row := activeRows "trial_id" (db .trial)

def activeGrade (db : Tables) : List Row := activeRows "grade_id" (db .grade)

def armsInWave (db : Tables) (waveId : String) : List (Sql.Value × Sql.Value) :=
  let planned := (db .planCell).filter fun cell => (cell.get "wave_id").equals (.text waveId)
  let joined := planned.flatMap fun cell =>
    ((db .arm).filter fun arm => (arm.get "arm_id").equals (cell.get "arm_id")).map fun arm =>
      (arm.get "arm_id", arm.get "arm_key")
  joined.dedup.insertionSort fun left right => left.2 ≤ right.2

def armTrials (db : Tables) (waveId : String) (armId : Sql.Value) : List Row :=
  (activeTrial db).filter fun trial =>
    (trial.get "wave_id").equals (.text waveId) && (trial.get "arm_id").equals armId

def verdicts (db : Tables) (waveId : String) (armId : Sql.Value) : List Row :=
  (armTrials db waveId armId).flatMap fun trial => (activeGrade db).filter fun grade =>
    (grade.get "trial_id").equals (trial.get "trial_id") && grade.get "outcome" ≠ .null

structure OpFailureCount where
  opStatus : Sql.Value
  count : Nat
  deriving DecidableEq

/-- `GROUP BY op_status` over the trials that are not ok. -/
def operationalFailures (trials : List Row) : List OpFailureCount :=
  let failed := trials.filter fun trial =>
    trial.get "op_status" ≠ .null ∧ trial.get "op_status" ≠ .text "ok"
  let statuses := (failed.map fun trial => trial.get "op_status").dedup
  (statuses.insertionSort fun left right => left ≤ right).map fun status =>
    { opStatus := status
      count := failed.countP fun trial => trial.get "op_status" = status }

structure ArmPassRate (Interval : Type) where
  armId : Sql.Value
  armKey : Sql.Value
  nTrials : Nat
  nVerdicts : Nat
  nPass : Nat
  passRateVerdicts : Interval
  passRateAllTrials : Interval
  nOperationalFailures : Nat
  operationalFailures : List OpFailureCount

section

variable {Interval : Type} (interval : Nat → Nat → Interval)

/-- `interval` stands for the floating-point formula. -/
def wilson (successes total : Nat) : Except String Interval :=
  if total < successes then
    .error s!"invalid successes/total: successes={successes}, total={total}"
  else .ok (interval successes total)

def armPassRate (db : Tables) (waveId : String) (arm : Sql.Value × Sql.Value) :
    Except String (ArmPassRate Interval) := do
  let trials := armTrials db waveId arm.1
  let graded := verdicts db waveId arm.1
  let nPass := graded.countP fun grade => grade.get "outcome" = .text "pass"
  let failures := operationalFailures trials
  let passRateVerdicts ← wilson interval nPass graded.length
  let passRateAllTrials ← wilson interval nPass trials.length
  return {
    armId := arm.1
    armKey := arm.2
    nTrials := trials.length
    nVerdicts := graded.length
    nPass := nPass
    passRateVerdicts := passRateVerdicts
    passRateAllTrials := passRateAllTrials
    nOperationalFailures := (failures.map OpFailureCount.count).sum
    operationalFailures := failures }

def armPassRates (db : Tables) (waveId : String) : Except String (List (ArmPassRate Interval)) :=
  (armsInWave db waveId).mapM (armPassRate interval db waveId)

/-! ### Counts -/

theorem nPass_le (db : Tables) (waveId : String) (armId : Sql.Value) :
    ((verdicts db waveId armId).countP fun grade => grade.get "outcome" = .text "pass") ≤
      (verdicts db waveId armId).length :=
  List.countP_le_length

theorem nVerdicts_le {db : Tables}
    (single : ((activeGrade db).map fun grade => grade.get "trial_id").Nodup) (waveId : String)
    (armId : Sql.Value) : (verdicts db waveId armId).length ≤ (armTrials db waveId armId).length := by
  have once : ∀ trial : Row, ((activeGrade db).filter fun grade =>
      (grade.get "trial_id").equals (trial.get "trial_id") &&
        grade.get "outcome" ≠ .null).length ≤ 1 := by
    intro trial
    have count := List.nodup_iff_count_le_one.mp single (trial.get "trial_id")
    rw [← List.countP_eq_length_filter]
    apply le_trans _ count
    unfold List.count
    rw [List.countP_map]
    apply List.countP_mono_left
    intro grade _ matching
    rw [Bool.and_eq_true] at matching
    exact beq_iff_eq.mpr (of_decide_eq_true matching.1).2
  unfold verdicts
  generalize armTrials db waveId armId = trials
  induction trials with
  | nil => exact le_refl _
  | cons trial rest ih =>
      rw [List.flatMap_cons, List.length_append, List.length_cons]
      have head := once trial
      omega

theorem armPassRate_ok {db : Tables} {waveId : String} {arm : Sql.Value × Sql.Value}
    {rate : ArmPassRate Interval} (done : armPassRate interval db waveId arm = .ok rate) :
    rate.nTrials = (armTrials db waveId arm.1).length ∧
      rate.nVerdicts = (verdicts db waveId arm.1).length ∧
      rate.nPass = (verdicts db waveId arm.1).countP fun grade =>
        grade.get "outcome" = .text "pass" := by
  obtain ⟨_, _, done⟩ := Python.bind_ok done
  obtain ⟨_, _, done⟩ := Python.bind_ok done
  cases done
  exact ⟨rfl, rfl, rfl⟩

theorem exists_armPassRate {db : Tables} {waveId : String} {arm : Sql.Value × Sql.Value}
    (atMost : ((verdicts db waveId arm.1).countP fun grade => grade.get "outcome" = .text "pass") ≤
      (armTrials db waveId arm.1).length) :
    ∃ rate, armPassRate interval db waveId arm = .ok rate := by
  have passes := nPass_le db waveId arm.1
  simp only [armPassRate, wilson, if_neg (not_lt.mpr passes), if_neg (not_lt.mpr atMost)]
  exact ⟨_, rfl⟩

end

end EvalLedger

end AgenticRuntime
