/-
The ledger API: registrations, appends, export and import.

A call is one transaction: when it raises, the tables are as before it. A line of an
exported file is kept as its JSON document.
-/

import AgenticRuntime.Evals.Ledger.Models
import AgenticRuntime.Python.Json
import AgenticRuntime.Transition

namespace AgenticRuntime

namespace EvalLedger

open Python Sql

abbrev Tables := Database TableName

def pkColumns : TableName → List String
  | .blob => ["digest"]
  | .model => ["model_id"]
  | .priceSnapshot => ["snapshot_id"]
  | .prompt => ["prompt_id"]
  | .workflow => ["workflow_id"]
  | .workflowPrompt => ["workflow_id", "prompt_id"]
  | .grader => ["grader_id"]
  | .judgeCalibration => ["calibration_id"]
  | .image => ["image_id"]
  | .taskSet => ["task_set_id"]
  | .task => ["task_id"]
  | .substrate => ["substrate_id"]
  | .armConfig => ["arm_config_id"]
  | .campaign => ["campaign_id"]
  | .arm => ["arm_id"]
  | .wave => ["wave_id"]
  | .waveTask => ["wave_id", "task_id"]
  | .planCell => ["wave_id", "arm_id", "task_id", "run_idx"]
  | .trial => ["trial_id"]
  | .stepUsage => ["trial_id", "step_idx"]
  | .spend => ["spend_id"]
  | .grade => ["grade_id"]

theorem pkColumns_eq (table : TableName) : pkColumns table = (schema table).primaryKey := by
  cases table <;> rfl

def registerable (table : TableName) : Bool :=
  table ∉ [TableName.trial, .stepUsage, .spend, .grade]

/-- What a call raises: a `LedgerIntegrityError`, or else a `TypeError` for what is not
registered, an `OverflowError` for a large integer or the error of SQLite's driver for a
value of another type. -/
inductive LedgerError where
  | integrity (violation : Violation)
  | persistedNothing (slot : List (String × Sql.Value))
  | notRegisterable
  | overflow
  | unsupportedType
  deriving DecidableEq

def bindValue : PyValue → Except LedgerError Sql.Value
  | .none => .ok .null
  | .bool value => .ok (.integer (if value then 1 else 0))
  | .int value =>
      if -2 ^ 63 ≤ value ∧ value < 2 ^ 63 then .ok (.integer (Int64.ofInt value))
      else .error .overflow
  | .float (.finite value) => .ok (.real (.finite value))
  | .float .inf => .ok (.real .posInf)
  | .float .negInf => .ok (.real .negInf)
  | .float .nan => .ok .null
  | .str text => .ok (.text text)
  | _ => .error .unsupportedType

def wrapIntegrityError {α : Type} (result : Except Violation α) : Except LedgerError α :=
  result.mapError .integrity

/-- The row that `to_row` of an instance becomes. -/
def Entity.row {table : TableName} (obj : Entity table) : Except LedgerError Row := do
  let values ← obj.values.mapM bindValue
  return (schema table).row ((rowColumns table).zip values)

namespace LedgerStore

def insertRow {table : TableName} (ignoreConflicts : Bool) (db : Tables) (obj : Entity table) :
    Except LedgerError Tables := do
  let values ← obj.values.mapM bindValue
  wrapIntegrityError
    (Sql.insert schema ignoreConflicts db table ((rowColumns table).zip values))

def rowExists (db : Tables) (table : TableName) (slot : List (String × Sql.Value)) : Bool :=
  (db table).any fun row => slot.all fun entry =>
    entry.2 ≠ .null ∧ row.get entry.1 = entry.2

def register {table : TableName} (db : Tables) (obj : Entity table) :
    Except LedgerError Tables :=
  if registerable table = false then .error .notRegisterable
  else do
    let after ← insertRow true db obj
    let values ← (pkColumns table).mapM fun column => bindValue (obj.getattr column)
    let slot := (pkColumns table).zip values
    if rowExists after table slot then .ok after else .error (.persistedNothing slot)

def appendEach {table : TableName} (db : Tables) (rows : List (Entity table)) :
    Except LedgerError Tables :=
  rows.foldlM (insertRow false) db

def appendTrial (db : Tables) (trial : Entity .trial) : Except LedgerError Tables :=
  insertRow false db trial

def appendStepUsage (db : Tables) (rows : List (Entity .stepUsage)) :
    Except LedgerError Tables :=
  appendEach db rows

def appendSpend (db : Tables) (spend : Entity .spend) : Except LedgerError Tables :=
  insertRow false db spend

def appendGrade (db : Tables) (grade : Entity .grade) : Except LedgerError Tables :=
  insertRow false db grade

def appendBatch (db : Tables) (trials : List (Entity .trial))
    (stepUsage : List (Entity .stepUsage)) (spends : List (Entity .spend))
    (grades : List (Entity .grade)) : Except LedgerError Tables := do
  let db ← appendEach db trials
  let db ← appendEach db stepUsage
  let db ← appendEach db spends
  appendEach db grades

/-! ### Export and import -/

/-- `json.dumps` of a value that was read. -/
def jsonOf : Sql.Value → Json
  | .null => .null
  | .integer value => .int value.toInt
  | .real (.finite value) => .float (.finite value)
  | .real .posInf => .float .inf
  | .real .negInf => .float .negInf
  | .text text => .str text

/-- `sort_keys` -/
def sortedEntries (row : Row) : List (String × Sql.Value) :=
  row.entries.insertionSort fun left right => left.1 ≤ right.1

/-- `canonical_json` of the record of a row. -/
def canonicalJson (row : Row) : Json :=
  .object ((sortedEntries row).map fun entry => (entry.1, jsonOf entry.2))

/-- The lines of `<table>.jsonl` for each table. -/
def exportJsonl (db : Tables) (table : TableName) : List Json :=
  (orderedBy (pkColumns table) (db table)).map canonicalJson

def columnOf : PyKey × PyValue → Except LedgerError (String × Sql.Value)
  | (.str column, value) => (bindValue value).map fun bound => (column, bound)
  | _ => .error .unsupportedType

/-- `_insert_record`; a line that holds no object has no `keys`. -/
def insertRecord (table : TableName) (db : Tables) (line : Json) : Except LedgerError Tables :=
  match line.loads with
  | .dict items => do
      let given ← items.mapM columnOf
      wrapIntegrityError (Sql.insert schema false db table given)
  | _ => .error .unsupportedType

def importJsonl (db : Tables) (files : TableName → List Json) : Except LedgerError Tables :=
  tableOrder.foldlM (fun db table => (files table).foldlM (insertRecord table) db) db

end LedgerStore

/-! ### Calls -/

inductive Call where
  | register (table : TableName) (obj : Entity table)
  | appendTrial (trial : Entity .trial)
  | appendStepUsage (rows : List (Entity .stepUsage))
  | appendSpend (spend : Entity .spend)
  | appendGrade (grade : Entity .grade)
  | appendBatch (trials : List (Entity .trial)) (stepUsage : List (Entity .stepUsage))
      (spends : List (Entity .spend)) (grades : List (Entity .grade))

open LedgerStore in
def Call.perform (db : Tables) : Call → Except LedgerError Tables
  | .register _ obj => LedgerStore.register db obj
  | .appendTrial trial => LedgerStore.appendTrial db trial
  | .appendStepUsage rows => LedgerStore.appendStepUsage db rows
  | .appendSpend spend => LedgerStore.appendSpend db spend
  | .appendGrade grade => LedgerStore.appendGrade db grade
  | .appendBatch trials stepUsage spends grades =>
      LedgerStore.appendBatch db trials stepUsage spends grades

def next (db : Tables) (call : Call) : Option Tables := (call.perform db).toOption

def empty : Tables := fun _ => []

def Reachable (db : Tables) : Prop := Transition.Reachable next empty db

/-- The exported files can be imported into an empty ledger, and hold all of its rows. -/
def RoundTrips (db : Tables) : Prop :=
  ∃ imported, LedgerStore.importJsonl empty (LedgerStore.exportJsonl db) = .ok imported ∧
    ∀ table, (imported table).Perm (db table)

end EvalLedger

end AgenticRuntime
