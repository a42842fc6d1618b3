/-
Run records as `workflows/run_logger.py` builds them from results and replays them.

Durations, rates and scores are exact rationals.  A record's JSON text is its syntax tree.
-/

import AgenticRuntime.Engine.Lifecycle
import AgenticRuntime.Langchain.Config
import AgenticRuntime.Python.DateTime
import AgenticRuntime.Python.Json
import Mathlib.Data.Rat.Cast.Order

namespace AgenticRuntime

namespace RunLog

open Python

/-! ### Moments -/

/-- `toordinal()` -/
def ordinal (moment : DateTime) : Nat :=
  let years := moment.year - 1
  let earlier := (List.range (moment.month - 1)).foldl
    (fun days month => days + daysInMonth moment.year (month + 1)) 0
  years * 365 + years / 4 - years / 100 + years / 400 + earlier + moment.day

def clockMicroseconds (clock : Python.Clock) : Nat :=
  ((clock.hour * 60 + clock.minute) * 60 + clock.second) * 1000000 + clock.microsecond

def offsetMicroseconds (offset : UtcOffset) : Int :=
  if offset.negative then -(clockMicroseconds offset.amount) else clockMicroseconds offset.amount

def instant (moment : DateTime) : Int :=
  (ordinal moment * 86400000000 + clockMicroseconds moment.clock : Nat) -
    (moment.offset.map offsetMicroseconds).getD 0

def Comparable (start finish : DateTime) : Prop := start.offset.isSome = finish.offset.isSome

instance (start finish : DateTime) : Decidable (Comparable start finish) :=
  inferInstanceAs (Decidable (_ = _))

/-! ### contracts/messages.py -/

structure StepResult where
  stepName : String
  status : StepStatus
  agentRole : Option String := none
  tier : Option (Fin 6) := none
  modelUsed : Option String := none
  inputData : Dict PyValue := Dict.empty
  outputData : Dict PyValue := Dict.empty
  error : Option String := none
  errorType : Option String := none
  startTime : DateTime
  endTime : Option DateTime := none
  retryCount : Nat := 0
  metadata : Dict PyValue := Dict.empty
  named : stepName ≠ ""

structure WorkflowResult where
  workflowId : String
  workflowName : String
  steps : List StepResult
  overallStatus : StepStatus
  startTime : DateTime
  endTime : Option DateTime := none
  finalOutput : Dict PyValue := Dict.empty
  identified : workflowId ≠ ""
  named : workflowName ≠ ""

inductive RecordFailure where
  | python (error : PyError)
  | validationError
  deriving DecidableEq, Repr

/-- `duration_ms` and `total_duration_ms` -/
def durationMs (start : DateTime) : Option DateTime → Except RecordFailure PyValue
  | none => .ok .none
  | some finish =>
      if Comparable start finish then
        .ok (.float (.finite ((instant finish - instant start : Int) / 1000)))
      else .error (.python .typeError)

namespace WorkflowResult

variable (result : WorkflowResult)

def successRate : Rat :=
  if result.steps = [] then 0
  else (result.steps.countP fun step => step.status = .success) / result.steps.length * 100

def failedSteps : List StepResult := result.steps.filter fun step => step.status = .failed

def totalRetries : Nat := result.steps.foldl (fun retries step => retries + step.retryCount) 0

end WorkflowResult

/-! ### Writing -/

/-- What the records rely on of pydantic: the `int` and the `datetime` it reads a value as, and
the JSON form and the text of the error for a value that is no `int`. -/
structure Pydantic where
  int : PyValue → Option Int
  datetime : PyValue → Option DateTime
  errors : PyValue → PyValue
  message : PyValue → String

def recordItems (members : List (String × PyValue)) : Mapping :=
  members.map fun member => (.str member.1, member.2)

def recordOf (members : List (String × PyValue)) : PyValue := .dict (recordItems members)

def dictValue (dict : Dict PyValue) : PyValue := recordOf dict.items

def textValue : Option String → PyValue
  | none => .none
  | some text => .str text

mutual

/-- `_truncate`, to its default length -/
def truncate : PyValue → PyValue
  | .str text =>
      if 10000 < text.length then
        .str (String.ofList (text.toList.take 10000) ++ s!"... ({text.length} chars)")
      else .str text
  | .dict items => .dict (truncateItems items)
  | .list items => .list (truncateElements items)
  | value => value

def truncateItems : List (PyKey × PyValue) → List (PyKey × PyValue)
  | [] => []
  | (key, value) :: rest => (key, truncate value) :: truncateItems rest

def truncateElements : List PyValue → List PyValue
  | [] => []
  | item :: rest => truncate item :: truncateElements rest

end

structure StepResultRecord where
  stepName : String
  status : String
  agentRole : Option String := none
  tier : Option Nat := none
  modelUsed : Option String := none
  durationMs : PyValue := .none
  retryCount : Nat := 0
  tokensUsed : Option Int := none
  input : PyValue
  output : PyValue
  error : Option String := none
  errorType : Option String := none
  startTime : Option String := none
  endTime : Option String := none
  metadata : PyValue := .none

def numberValue : Option Int → PyValue
  | none => .none
  | some number => .int number

def StepResultRecord.modelDump (record : StepResultRecord) : List (String × PyValue) :=
  [("step_name", .str record.stepName), ("status", .str record.status),
    ("agent_role", textValue record.agentRole),
    ("tier", numberValue (record.tier.map Int.ofNat)),
    ("model_used", textValue record.modelUsed), ("duration_ms", record.durationMs),
    ("retry_count", .int record.retryCount), ("tokens_used", numberValue record.tokensUsed),
    ("input", record.input), ("output", record.output), ("error", textValue record.error),
    ("error_type", textValue record.errorType), ("start_time", textValue record.startTime),
    ("end_time", textValue record.endTime), ("metadata", record.metadata)]

section

variable (pydantic : Pydantic)

/-- The field `tokens_used: int | None`; the outer `none` is a `ValidationError`. -/
def tokensField : Option PyValue → Option (Option Int)
  | none => some none
  | some .none => some none
  | some value => (pydantic.int value).map some

def otherMetadata (metadata : Dict PyValue) : PyValue :=
  let others := metadata.erase "tokens_used"
  if others.items.isEmpty then .none else dictValue others

def validRecord (step : StepResult) (duration : PyValue) (tokens : Option Int) :
    StepResultRecord where
  stepName := step.stepName
  status := step.status.value
  agentRole := step.agentRole
  tier := step.tier.map Fin.val
  modelUsed := step.modelUsed
  durationMs := duration
  retryCount := step.retryCount
  tokensUsed := tokens
  input := truncate (dictValue step.inputData)
  output := truncate (dictValue step.outputData)
  error := step.error
  errorType := step.errorType
  startTime := some step.startTime.isoformat
  endTime := step.endTime.map DateTime.isoformat
  metadata := otherMetadata step.metadata

def fallbackRecord (step : StepResult) (tokens : PyValue) : StepResultRecord where
  stepName := step.stepName
  status := "error"
  input := .dict []
  output := .dict []
  error := some ("build_step_record validation failed: " ++ pydantic.message tokens)
  errorType := some "ValidationError"
  metadata := recordOf [("validation_error", pydantic.errors tokens),
    ("original_status", .str step.status.value)]

/-- `build_step_record`; of the fields only `tokens_used` may have another type. -/
def buildStepRecord (step : StepResult) : Except RecordFailure PyValue := do
  let duration ← durationMs step.startTime step.endTime
  let tokens := step.metadata.get? "tokens_used"
  match tokensField pydantic tokens with
  | some used => return recordOf (validRecord step duration used).modelDump
  | none => return recordOf (fallbackRecord pydantic step (tokens.getD .none)).modelDump

variable (builtins : Builtins)

/-- `isinstance(value, (int, float))` -/
def isNumber : PyValue → Bool
  | .bool _ => true
  | .int _ => true
  | .float _ => true
  | _ => false

/-- `_extract_evaluation_score`; `float` overflows on a large integer. -/
def extractEvaluationScore (extra : Option (Dict PyValue)) : Except RecordFailure (Option PyFloat) :=
  match extra.bind fun extra => extra.get? "evaluation" with
  | some (.dict evaluation) =>
      let weighted := field evaluation "weighted_score"
      let overall := field evaluation "overall_score"
      if isNumber weighted then ((builtins.float weighted).mapError .python).map some
      else if isNumber overall then ((builtins.float overall).mapError .python).map some
      else .ok none
  | _ => .ok none

/-- `value not in (None, "", {}, [])` -/
def meaningful : PyValue → Bool
  | .none => false
  | .str text => text ≠ ""
  | .dict items => !items.isEmpty
  | .list items => !items.isEmpty
  | _ => true

def hasMeaningfulContent (finalOut : Dict PyValue) : Bool :=
  finalOut.items.any fun item =>
    match item.2 with
    | .dict nested => nested.any fun inner => meaningful inner.2
    | value => meaningful value

variable (result : WorkflowResult)

def fallbackScore : Rat :=
  if !result.finalOutput.items.isEmpty && !hasMeaningfulContent result.finalOutput then
    min result.successRate 50
  else result.successRate

def dictOrNull : Option (Dict PyValue) → PyValue
  | none => .none
  | some dict => dictValue dict

def filled (dict : Option (Dict PyValue)) : Option (Dict PyValue) :=
  dict.filter fun dict => !dict.items.isEmpty

structure RunExtras where
  datasetMeta : Option (Dict PyValue) := none
  workflowInputs : Option (Dict PyValue) := none
  extra : Option (Dict PyValue) := none

def runMembers (extras : RunExtras) (score : PyFloat) (duration : PyValue) (steps : List PyValue)
    : List (String × PyValue) :=
  [("run_id", .str result.workflowId), ("workflow_name", .str result.workflowName),
    ("status", .str result.overallStatus.value), ("score", .float score),
    ("success_rate", .float (.finite result.successRate)), ("total_duration_ms", duration),
    ("total_retries", .int result.totalRetries), ("step_count", .int result.steps.length),
    ("failed_step_count", .int result.failedSteps.length),
    ("start_time", .str result.startTime.isoformat),
    ("end_time", textValue (result.endTime.map DateTime.isoformat)),
    ("dataset", dictOrNull extras.datasetMeta),
    ("inputs", truncate (dictOrNull (filled extras.workflowInputs))), ("steps", .list steps),
    ("final_output", truncate (dictValue result.finalOutput))] ++
    match filled extras.extra with
    | none => []
    | some extra => [("extra", dictValue extra)]

def buildRunRecord (extras : RunExtras) :
    Except RecordFailure PyValue := do
  let score ← extractEvaluationScore builtins extras.extra
  let duration ← durationMs result.startTime result.endTime
  let steps ← result.steps.mapM (buildStepRecord pydantic)
  return recordOf (runMembers result extras (score.getD (.finite (fallbackScore result))) duration
    steps)

end

/-! ### Replaying -/

def allStatuses : List StepStatus := [.pending, .running, .success, .failed, .skipped, .retrying]

section

variable (pydantic : Pydantic) (builtins : Builtins) (now : DateTime)

/-- `value or default` -/
def orElse (value fallback : PyValue) : PyValue := if value.truthy then value else fallback

def coerceStepStatus (raw : PyValue) : StepStatus :=
  (allStatuses.find? fun status => status.value = builtins.str raw).getD .failed

def optionalText : PyValue → Except RecordFailure (Option String)
  | .none => .ok none
  | .str text => .ok (some text)
  | _ => .error .validationError

/-- `int | None`, from 0 to 5 -/
def optionalTier : PyValue → Except RecordFailure (Option (Fin 6))
  | .none => .ok none
  | value =>
      match pydantic.int value with
      | none => .error .validationError
      | some number =>
          if inRange : 0 ≤ number ∧ number.toNat < 6 then .ok (some ⟨number.toNat, inRange.2⟩)
          else .error .validationError

def namedItem : PyKey × PyValue → Except RecordFailure (String × PyValue)
  | (.str name, value) => .ok (name, value)
  | _ => .error .validationError

/-- `dict[str, Any]` -/
def dictField : PyValue → Except RecordFailure (Dict PyValue)
  | .dict items => (items.mapM namedItem).map Dict.ofItems
  | _ => .error .validationError

def datetimeField (value : PyValue) : Except RecordFailure (Option DateTime) :=
  if value.truthy then
    match pydantic.datetime value with
    | none => .error .validationError
    | some moment => .ok (some moment)
  else .ok none

/-- `dict(raw.get("metadata") or {})`, and the tokens put back. -/
def metadataItems (raw : Mapping) : Except RecordFailure Mapping :=
  match updateFrom [] (orElse (field raw "metadata") (.dict [])) with
  | (_, some message) => .error (.python (.valueError message))
  | (metadata, none) =>
      match field raw "tokens_used" with
      | .none => .ok metadata
      | tokens => .ok (Items.insert metadata (.str "tokens_used") tokens)

/-- `int(raw.get("retry_count") or 0)`, not negative. -/
def retryField (value : PyValue) : Except RecordFailure Nat :=
  match builtins.int (orElse value (.int 0)) with
  | .error error => .error (.python error)
  | .ok count => if 0 ≤ count then .ok count.toNat else .error .validationError

def replayStep (raw : Mapping) : Except RecordFailure StepResult := do
  let metadata ← metadataItems raw
  let retryCount ← retryField builtins (field raw "retry_count")
  let agentRole ← optionalText (field raw "agent_role")
  let tier ← optionalTier pydantic (field raw "tier")
  let modelUsed ← optionalText (field raw "model_used")
  let inputData ← dictField (orElse (field raw "input") (.dict []))
  let outputData ← dictField (orElse (field raw "output") (.dict []))
  let error ← optionalText (field raw "error")
  let errorType ← optionalText (field raw "error_type")
  let metadata ← dictField (.dict metadata)
  let startTime ← datetimeField pydantic (field raw "start_time")
  let endTime ← datetimeField pydantic (field raw "end_time")
  let stepName := builtins.str (orElse (field raw "step_name") (.str "<unknown>"))
  if named : stepName ≠ "" then
    return {
      stepName := stepName, status := coerceStepStatus builtins (field raw "status")
      agentRole := agentRole, tier := tier, modelUsed := modelUsed
      inputData := inputData, outputData := outputData
      error := error, errorType := errorType
      startTime := startTime.getD now, endTime := endTime
      retryCount := retryCount, metadata := metadata, named := named }
  else throw .validationError

def replaySteps : List PyValue → Except RecordFailure (List StepResult)
  | [] => .ok []
  | .dict raw :: rest => do
      let step ← replayStep pydantic builtins now raw
      let steps ← replaySteps rest
      return step :: steps
  | _ :: rest => replaySteps rest

def asDict : PyValue → PyValue
  | .dict items => .dict items
  | _ => .dict []

def refuse {α : Type} (message : String) : Except RecordFailure α :=
  .error (.python (.valueError message))

def runRecordToWorkflowResult : PyValue → Except RecordFailure WorkflowResult
  | .dict record =>
      match field record "steps" with
      | .list rawSteps =>
          match field record "run_id" with
          | .str runId =>
              if identified : runId ≠ "" then
                match field record "workflow_name" with
                | .str workflowName =>
                    if named : workflowName ≠ "" then do
                      let steps ← replaySteps pydantic builtins now rawSteps
                      let finalOutput ← dictField (asDict (field record "final_output"))
                      let startTime ← datetimeField pydantic (field record "start_time")
                      let endTime ← datetimeField pydantic (field record "end_time")
                      return {
                        workflowId := runId, workflowName := workflowName, steps := steps
                        overallStatus := coerceStepStatus builtins (field record "status")
                        startTime := startTime.getD now, endTime := endTime
                        finalOutput := finalOutput, identified := identified, named := named }
                    else refuse "run record has no workflow_name"
                | _ => refuse "run record has no workflow_name"
              else refuse "run record has no run_id"
          | _ => refuse "run record has no run_id"
      | _ => refuse "run record has no steps list"
  | _ => refuse "run record must be a mapping"

end

end RunLog

end AgenticRuntime
