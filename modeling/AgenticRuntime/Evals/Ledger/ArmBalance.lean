/-
The balance of the arms of a wave, as the store checks it and as the verdict reads it.

The store looks at every trial of the wave and at the arms of these trials; the verdict
looks at the active trials of the planned arms.
-/

import AgenticRuntime.Evals.Ledger.Integrity
import AgenticRuntime.Evals.Ledger.Queries

namespace AgenticRuntime

namespace EvalLedger

open Python Sql

/-- `(task_id, run_idx)` -/
abbrev Pair := Sql.Value × Sql.Value

def pairOf (row : Row) : Pair := (row.get "task_id", row.get "run_idx")

def isOk (row : Row) : Bool := (row.get "op_status").equals (.text "ok")

/-- `sorted` on pairs. -/
def sortedPairs (pairs : List Pair) : List Pair :=
  pairs.dedup.insertionSort fun left right => toLex left ≤ toLex right

/-! ### LedgerStore.check_arm_balance -/

inductive BalanceError where
  | unknownWave (waveId : String)
  | armsUnbalanced (waveId : String) (reference arm : Sql.Value) (missing extra : List Pair)

/-- `SELECT DISTINCT arm_id FROM plan_cell WHERE wave_id = ?` -/
def plannedArms (db : Tables) (waveId : String) : List Sql.Value :=
  (((db .planCell).filter fun cell => (cell.get "wave_id").equals (.text waveId)).map
    fun cell => cell.get "arm_id").dedup

def okTrials (db : Tables) (waveId : String) : List Row :=
  (db .trial).filter fun trial => (trial.get "wave_id").equals (.text waveId) && isOk trial

/-- `by_arm.setdefault(arm_id, set()).add(pair)` -/
def addPair (byArm : List (Sql.Value × List Pair)) (trial : Row) : List (Sql.Value × List Pair) :=
  Items.insert byArm (trial.get "arm_id")
    ((Items.get? byArm (trial.get "arm_id")).getD [] ++ [pairOf trial])

/-- `by_arm`, each set as the list of what was added to it. -/
def byArm (db : Tables) (waveId : String) : List (Sql.Value × List Pair) :=
  (okTrials db waveId).foldl addPair ((plannedArms db waveId).map fun arm => (arm, []))

/-- The pairs of an arm in `by_arm`. -/
def armPairs (db : Tables) (waveId : String) (arm : Sql.Value) : List Pair :=
  (Items.get? (byArm db waveId) arm).getD []

/-- `left != right` on sets. -/
def setsDiffer (left right : List Pair) : Bool := left.toFinset ≠ right.toFinset

def compareArms (waveId : String) (pairs : Sql.Value → List Pair) :
    List Sql.Value → Except BalanceError Unit
  | [] => .ok ()
  | reference :: others =>
      match others.find? fun arm => setsDiffer (pairs arm) (pairs reference) with
      | none => .ok ()
      | some arm => .error (.armsUnbalanced waveId reference arm
          (sortedPairs ((pairs reference).filter (· ∉ pairs arm)))
          (sortedPairs ((pairs arm).filter (· ∉ pairs reference))))

def checkArmBalance (db : Tables) (waveId : String) : Except BalanceError Unit :=
  if (db .wave).any fun wave => (wave.get "wave_id").equals (.text waveId) then
    compareArms waveId (armPairs db waveId)
      ((Items.keys (byArm db waveId)).insertionSort (· ≤ ·))
  else .error (.unknownWave waveId)

/-! ### queries.verdict -/

/-- The rows that `_instance_statuses` reads: an active trial without an active grade has a
row of its own. -/
def instanceRows (db : Tables) (waveId : String) (armId : Sql.Value) :
    List (Pair × Sql.Value × Sql.Value) :=
  (armTrials db waveId armId).flatMap fun trial =>
    let graded := (activeGrade db).filter fun grade =>
      (grade.get "trial_id").equals (trial.get "trial_id")
    match graded with
    | [] => [(pairOf trial, trial.get "op_status", .null)]
    | _ => graded.map fun grade => (pairOf trial, trial.get "op_status", grade.get "outcome")

def instanceStatuses (db : Tables) (waveId : String) (armId : Sql.Value) :
    List (Pair × Sql.Value × Sql.Value) := Items.update [] (instanceRows db waveId armId)

def okCells (db : Tables) (waveId : String) (armId : Sql.Value) : List Pair :=
  ((instanceStatuses db waveId armId).filter fun status =>
    status.2.1.equals (.text "ok")).map Prod.fst

structure ArmCompleteness where
  armId : Sql.Value
  armKey : Sql.Value
  nPlanned : Nat
  nTrials : Nat
  nVerdicts : Nat
  missing : List Pair

def completeness (db : Tables) (waveId : String) : List ArmCompleteness :=
  (armsInWave db waveId).map fun arm =>
    let planned := (((db .planCell).filter fun cell =>
      (cell.get "wave_id").equals (.text waveId) && (cell.get "arm_id").equals arm.1 &&
        decide (cell.get "status" ≠ .null ∧ cell.get "status" ≠ .text "abandoned")).map
          pairOf).dedup
    let present := ((armTrials db waveId arm.1).map pairOf).dedup
    { armId := arm.1
      armKey := arm.2
      nPlanned := planned.length
      nTrials := present.length
      nVerdicts := (verdicts db waveId arm.1).length
      missing := sortedPairs (planned.filter (· ∉ present)) }

inductive Caveat where
  | incomplete (armKeys : List Sql.Value)
  | unbalanced
  deriving DecidableEq

def Caveat.text : Caveat → String
  | .incomplete armKeys => "incomplete: arm(s) " ++ ", ".intercalate (armKeys.map shown) ++
      " are missing planned cells"
  | .unbalanced => "unbalanced: arms do not cover the same (task, run) cells"
where
  /-- An arm's key is a text. -/
  shown : Sql.Value → String
    | .text key => key
    | _ => ""

/-- What the statistics of a wave come to, its costs, its significance test and its summary,
is left open. -/
structure Verdict (Interval Statistics : Type) where
  passRates : List (ArmPassRate Interval)
  statistics : Statistics
  completeness : List ArmCompleteness
  caveats : List Caveat

def Verdict.isSound {Interval Statistics : Type} (verdict : Verdict Interval Statistics) : Bool :=
  verdict.caveats.isEmpty

/-- `any(cells != ok_cells_by_arm[0] for cells in ok_cells_by_arm[1:])` -/
def anyDiffers : List (List Pair) → Bool
  | [] => false
  | first :: rest => rest.any fun cells => setsDiffer cells first

def caveats {Interval : Type} (db : Tables) (waveId : String)
    (passRates : List (ArmPassRate Interval)) : List Caveat :=
  let incompleteArms := ((completeness db waveId).filter fun arm => arm.missing ≠ []).map
    ArmCompleteness.armKey
  let okCellsByArm := passRates.map fun rate => okCells db waveId rate.armId
  (if incompleteArms = [] then [] else [.incomplete incompleteArms]) ++
    (if anyDiffers okCellsByArm then [.unbalanced] else [])

section

variable {Interval Statistics : Type} (interval : Nat → Nat → Interval)
  (statistics : Tables → String → Except String Statistics)

def verdict (db : Tables) (waveId : String) : Except String (Verdict Interval Statistics) := do
  let passRates ← armPassRates interval db waveId
  let statistics ← statistics db waveId
  return {
    passRates := passRates
    statistics := statistics
    completeness := completeness db waveId
    caveats := caveats db waveId passRates }

def RaisesUnbalanced (db : Tables) (waveId : String) : Prop :=
  ∃ reference arm missing extra,
    checkArmBalance db waveId = .error (.armsUnbalanced waveId reference arm missing extra)

def ReportsUnbalanced (db : Tables) (waveId : String) : Prop :=
  ∃ result, verdict interval statistics db waveId = .ok result ∧ .unbalanced ∈ result.caveats ∧
    result.isSound = false

def ChecksAgree (db : Tables) : Prop :=
  ∀ waveId, (∃ wave ∈ db .wave, wave.get "wave_id" = .text waveId) →
    (RaisesUnbalanced db waveId ↔ ReportsUnbalanced interval statistics db waveId)

end

end EvalLedger

end AgenticRuntime
