/-
The execution context as a checkpoint sees it: its variables, identity, step
history and metadata, the calls that change them, and save and restore.

Event handlers, services, the lock and the checkpoint directory are left out.
A parent context enters only through the `steps` value a call inherits.
-/

import AgenticRuntime.Python.Json

namespace AgenticRuntime

open Python

def protectedVariableKeys : List String :=
  ["workflow_id", "run_id", "current_step", "completed_steps", "failed_steps", "metadata",
    "services", "start_time", "checkpoint_dir"]

def pathExpressionMarkers : List Char := ['.', '[', ']']

inductive VariableKeyError where
  | notString
  | empty
  | pathExpression
  | protectedKey (key : String)
  deriving DecidableEq, Repr

def VariableKeyError.message : VariableKeyError → String
  | .notString => "Context variable names must be strings"
  | .empty => "Context variable names cannot be empty"
  | .pathExpression =>
      "Context variable writes do not accept JMESPath/path expressions; " ++
        "write the top-level object instead"
  | .protectedKey key =>
      s!"Context variable '{key}' is protected; use an internal write helper"

/-- `_validate_variable_key` on a string; the error is `none` when the key passes. -/
def validateVariableKey (key : String) (allowProtected : Bool) : Option VariableKeyError :=
  if isBlank key then some .empty
  else if pathExpressionMarkers.any (fun marker => marker ∈ key.toList) then some .pathExpression
  else if !allowProtected ∧ key ∈ protectedVariableKeys then some (.protectedKey key)
  else none

inductive CheckpointError where
  | notFound (path : String)
  | undecodable
  | notObject (typeName : String)
  | variablesType
  | variableKey (key : PyKey) (cause : VariableKeyError)
  | identityType (field typeName : String)
  | identityMismatch (field candidate current : String)
  | completedSteps (typeName : String)
  | completedEntry (typeName : String)
  | metadata (message : String)
  deriving DecidableEq, Repr

/-- The text of the error; `repr` is Python's. -/
def CheckpointError.message (repr : PyKey → String) : CheckpointError → String
  | .notFound path => s!"Checkpoint not found: {path}"
  | .undecodable => "json.JSONDecodeError"
  | .notObject typeName =>
      s!"Invalid checkpoint: expected a JSON object, got {typeName}"
  | .variablesType => "Invalid checkpoint variables: expected a mapping"
  | .variableKey key cause =>
      s!"Invalid checkpoint variable key {repr key}: {cause.message}"
  | .identityType field typeName =>
      s!"Invalid checkpoint {field}: expected str, got {typeName}"
  | .identityMismatch field candidate current =>
      s!"Checkpoint {field} {repr (.str candidate)} does not match the " ++
        s!"running context {repr (.str current)}; refusing to reassign identity"
  | .completedSteps typeName =>
      s!"Invalid checkpoint completed_steps: expected a list, got {typeName}"
  | .completedEntry typeName =>
      s!"Invalid checkpoint completed_steps: expected str entries, got {typeName}"
  | .metadata message => message

/-- `failed_steps` may hold any value once a checkpoint has been restored. -/
structure ExecutionContext where
  workflowId : String
  runId : String
  variableMap : Dict PyValue := Dict.empty
  metadata : List (PyKey × PyValue) := []
  currentStep : Option String := none
  completedSteps : List String := []
  failedSteps : PyValue := .list []

namespace ExecutionContext

/-! ### Variable management -/

variable (ctx : ExecutionContext)

def set (key : String) (value : PyValue) :
    Except VariableKeyError ExecutionContext :=
  match validateVariableKey key false with
  | some error => .error error
  | none => .ok { ctx with variableMap := ctx.variableMap.insert key value }

def setInternal (key : String) (value : PyValue) :
    Except VariableKeyError ExecutionContext :=
  match validateVariableKey key true with
  | some error => .error error
  | none => .ok { ctx with variableMap := ctx.variableMap.insert key value }

def update (ctx : ExecutionContext) (kwargs : List (String × PyValue)) :
    Except VariableKeyError ExecutionContext :=
  match kwargs.findSome? fun item => validateVariableKey item.1 false with
  | some error => .error error
  | none => .ok { ctx with variableMap := ctx.variableMap.update kwargs }

def delete (key : String) : ExecutionContext :=
  { ctx with variableMap := ctx.variableMap.erase key }

/-- `dict(base) if isinstance(base, dict) else {}` -/
def stepsState : Option PyValue → List (PyKey × PyValue)
  | some (.dict items) => items
  | _ => []

variable (stepName : String)

/-- `inherited` is the `steps` value a parent would answer with. -/
def mergeStepView (stepView : List (PyKey × PyValue)) (inherited : Option PyValue)
    : ExecutionContext :=
  let existing := ctx.variableMap.get? "steps"
  let base := match existing with
    | some _ => existing
    | none => inherited
  let merged := Items.insert (stepsState base) (.str stepName) (.dict stepView)
  { ctx with variableMap := ctx.variableMap.insert "steps" (.dict merged) }

theorem mergeStepView_eq (stepView : List (PyKey × PyValue)) (inherited : Option PyValue) :
    ctx.mergeStepView stepName stepView inherited =
      { ctx with variableMap := ctx.variableMap.insert "steps" (.dict (Items.insert
        (stepsState ((ctx.variableMap.get? "steps").or inherited)) (.str stepName)
          (.dict stepView))) } := by
  unfold mergeStepView
  cases ctx.variableMap.get? "steps" with
  | none => rfl
  | some _ => rfl

/-! ### Step tracking -/

def markStepStart : ExecutionContext :=
  { ctx with currentStep := some stepName }

def markStepComplete : ExecutionContext :=
  { ctx with
    completedSteps :=
      if stepName ∈ ctx.completedSteps then ctx.completedSteps
      else ctx.completedSteps ++ [stepName]
    currentStep := none }

/-- The strings of a list, `none` unless it is a list of strings. -/
def stringList? : PyValue → Option (List String)
  | .list items => items.mapM PyValue.asStr?
  | _ => none

/-- Appending to a `failed_steps` that is no list of strings raises or depends on
its type; such a context is left as it is. -/
def markStepFailed : ExecutionContext :=
  match stringList? ctx.failedSteps with
  | none => ctx
  | some failed =>
      { ctx with
        failedSteps :=
          if stepName ∈ failed then ctx.failedSteps
          else .list ((failed ++ [stepName]).map PyValue.str)
        currentStep := none }

/-! ### Saving -/

mutual

/-- The `serialize` of `_serialize_variables` -/
def serialize : PyValue → PyValue
  | .none => .none
  | .bool value => .bool value
  | .int value => .int value
  | .float value => .float value
  | .str text => .str text
  | .list items => .list (serializeItems items)
  | .tuple items => .list (serializeItems items)
  | .dict items => .dict (serializeEntries items)
  | .datetime iso =>
      .dict [(.str "__type__", .str "datetime"), (.str "value", .str iso)]
  | .path text => .dict [(.str "__type__", .str "path"), (.str "value", .str text)]
  | .object text => .str text

def serializeItems : List PyValue → List PyValue
  | [] => []
  | item :: rest => serialize item :: serializeItems rest

def serializeEntries : List (PyKey × PyValue) → List (PyKey × PyValue)
  | [] => []
  | (key, value) :: rest => (key, serialize value) :: serializeEntries rest

end

variable (ctx : ExecutionContext)

def serializeVariables : List (PyKey × PyValue) :=
  ctx.variableMap.items.map fun item => (.str item.1, serialize item.2)

/-- The `checkpoint_data` of `save_checkpoint` -/
def checkpointData (fileFingerprints : List (String × String)) (timestamp : String) :
    List (PyKey × PyValue) :=
  [(.str "workflow_id", .str ctx.workflowId), (.str "run_id", .str ctx.runId),
    (.str "variables", .dict ctx.serializeVariables),
    (.str "completed_steps", .list (ctx.completedSteps.map PyValue.str)),
    (.str "failed_steps", ctx.failedSteps),
    (.str "metadata", .dict ctx.metadata),
    (.str "file_fingerprints", .dict (fileFingerprints.map fun item => (.str item.1, .str item.2))),
    (.str "timestamp", .str timestamp)]

/-- What `save_checkpoint` writes; `none` when `json.dumps` raises. -/
def saveCheckpoint (floatRepr : PyFloat → String) (ctx : ExecutionContext)
    (fileFingerprints : List (String × String)) (timestamp : String) : Option Json :=
  (PyValue.dict (ctx.checkpointData fileFingerprints timestamp)).dumps floatRepr

/-! ### Restoring -/

inductive CheckpointFile where
  | missing (path : String)
  | undecodable
  | document (json : Json)

def isRunningContext : Bool :=
  !ctx.completedSteps.isEmpty || ctx.failedSteps.truthy ||
    match ctx.currentStep with
    | none => false
    | some step => step ≠ ""

def validateCheckpointIdentity (field : String) (candidate : Option PyValue) (current : String) :
    Except CheckpointError String :=
  match candidate with
  | none => .ok current
  | some .none => .ok current
  | some (.str text) =>
      if ctx.isRunningContext ∧ text ≠ current then
        .error (.identityMismatch field text current)
      else .ok text
  | some value => .error (.identityType field value.typeName)

def stringEntries : List PyValue → Except CheckpointError (List String)
  | [] => .ok []
  | .str text :: rest => (stringEntries rest).map (text :: ·)
  | value :: _ => .error (.completedEntry value.typeName)

def validateCheckpointCompletedSteps (steps : Option PyValue) :
    Except CheckpointError (List String) :=
  match steps with
  | none => .ok []
  | some (.list items) => stringEntries items
  | some value => .error (.completedSteps value.typeName)

def variableEntries : List (PyKey × PyValue) → Except CheckpointError (List (String × PyValue))
  | [] => .ok []
  | (.str key, value) :: rest =>
      match validateVariableKey key false with
      | some cause => .error (.variableKey (.str key) cause)
      | none => (variableEntries rest).map ((key, value) :: ·)
  | (key, _) :: _ => .error (.variableKey key .notString)

def validateCheckpointVariables (payload : Option PyValue) :
    Except CheckpointError (List (String × PyValue)) :=
  match payload with
  | none => .ok []
  | some (.dict items) => variableEntries items
  | some _ => .error .variablesType

structure ValidatedCheckpoint where
  variableMap : List (String × PyValue)
  workflowId : String
  runId : String
  completedSteps : List String
  data : List (PyKey × PyValue)

/-- The first half of `restore_checkpoint`: reading and checking. -/
def validateCheckpoint :
    CheckpointFile → Except CheckpointError ValidatedCheckpoint
  | .missing path => .error (.notFound path)
  | .undecodable => .error .undecodable
  | .document json =>
      match json.loads with
      | .dict data => do
          let variableMap ← validateCheckpointVariables (Items.get? data (.str "variables"))
          let workflowId ← ctx.validateCheckpointIdentity "workflow_id"
            (Items.get? data (.str "workflow_id")) ctx.workflowId
          let runId ← ctx.validateCheckpointIdentity "run_id"
            (Items.get? data (.str "run_id")) ctx.runId
          let completedSteps ←
            validateCheckpointCompletedSteps (Items.get? data (.str "completed_steps"))
          return { variableMap, workflowId, runId, completedSteps, data }
      | value => .error (.notObject value.typeName)

/-- `data.get("failed_steps", [])`, taken as it is. -/
def ValidatedCheckpoint.failedSteps (checkpoint : ValidatedCheckpoint) : PyValue :=
  (Items.get? checkpoint.data (.str "failed_steps")).getD (.list [])

/-- `data.get("metadata", {})`, taken as it is. -/
def ValidatedCheckpoint.metadata (checkpoint : ValidatedCheckpoint) : PyValue :=
  (Items.get? checkpoint.data (.str "metadata")).getD (.dict [])

def applyCheckpoint (checkpoint : ValidatedCheckpoint) :
    ExecutionContext × Option CheckpointError :=
  let merged := updateFrom ctx.metadata checkpoint.metadata
  ({ ctx with
      variableMap := Dict.ofItems checkpoint.variableMap
      workflowId := checkpoint.workflowId
      runId := checkpoint.runId
      completedSteps := checkpoint.completedSteps
      failedSteps := checkpoint.failedSteps
      metadata := merged.1 },
    merged.2.map CheckpointError.metadata)

/-- The context `restore_checkpoint` leaves behind and what it raises. -/
def restoreCheckpoint (file : CheckpointFile) :
    ExecutionContext × Option CheckpointError :=
  match ctx.validateCheckpoint file with
  | .error error => (ctx, some error)
  | .ok checkpoint => ctx.applyCheckpoint checkpoint

end ExecutionContext

end AgenticRuntime
