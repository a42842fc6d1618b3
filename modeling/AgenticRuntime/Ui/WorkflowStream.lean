/-
`useWorkflowStream` and the connection below it.

A connection delivers the log of the run from its first event on. The status that
`onRetriesExhausted` reads is the rendered one: the timers of five retries lie
between the last message and the loss.
-/

import AgenticRuntime.Python.Json
import AgenticRuntime.Server.RunEvents

namespace AgenticRuntime

open Python (Json)

inductive JsField (α : Type) where
  | undefined
  | null
  | value (value : α)

namespace JsField

variable {α : Type}

/-- `first ?? second` -/
def orElse : JsField α → JsField α → JsField α
  | .value first, _ => .value first
  | .undefined, second | .null, second => second

end JsField

structure StepReport where
  status : JsField String := .undefined
  durationMs : JsField Json := .undefined
  modelUsed : JsField Json := .undefined
  tokensUsed : JsField Json := .undefined
  tier : JsField Json := .undefined
  input : JsField Json := .undefined
  output : JsField Json := .undefined
  outputs : JsField Json := .undefined
  error : JsField Json := .undefined

structure EvaluationScores where
  rubric : JsField Json := .undefined
  criteria : JsField Json := .undefined
  overallScore : JsField Json := .undefined
  weightedScore : JsField Json := .undefined
  grade : JsField Json := .undefined
  passed : JsField Json := .undefined
  passThreshold : JsField Json := .undefined
  judgeSkipped : JsField Json := .undefined
  judgeSkipReason : JsField Json := .undefined
  expectedTextPresent : JsField Json := .undefined
  timestamp : JsField Json := .undefined

inductive EventBody where
  | workflowStart
  | stepStart (step : String) (timestamp input : JsField Json)
  | stepEnd (step : String) (report : StepReport)
  | tokenDelta
  | stepComplete (step : String) (report : StepReport)
  | stepError (step : String) (report : StepReport)
  | workflowEnd (status : String) (evaluationEnabled : Bool)
  | error (error : String)
  | evaluationStart
  | evaluationComplete (scores : EvaluationScores)
  | approvalRequired
  | approvalDecision

/-- A parsed message. `identity` is its `JSON.stringify`, which holds the members that are not read
as well. -/
structure StreamEvent where
  identity : String
  body : EventBody

namespace EventBody

def type : EventBody → EventType
  | .workflowStart => .workflowStart
  | .stepStart _ _ _ => .stepStart
  | .stepEnd _ _ => .stepEnd
  | .tokenDelta => .tokenDelta
  | .stepComplete _ _ => .stepComplete
  | .stepError _ _ => .stepError
  | .workflowEnd _ _ => .workflowEnd
  | .error _ => .error
  | .evaluationStart => .evaluationStart
  | .evaluationComplete _ => .evaluationComplete
  | .approvalRequired => .approvalRequired
  | .approvalDecision => .approvalDecision

def evaluationEnabled : EventBody → Bool
  | .workflowEnd _ evaluationEnabled => evaluationEnabled
  | _ => false

def setsStatus : EventBody → Bool
  | .workflowStart | .workflowEnd _ _ | .evaluationStart | .evaluationComplete _ | .error _ => true
  | _ => false

end EventBody

/-! ### The hook -/

/-- `workflowStatus` -/
inductive LiveStatus where
  | connecting
  | running
  | evaluating
  | completed
  | failed
  | error
  deriving DecidableEq, Repr

inductive StreamErrorKind where
  | server
  | connection
  deriving DecidableEq, Repr

structure LiveStepState where
  status : JsField String
  startTime : JsField Json := .undefined
  durationMs : JsField Json := .undefined
  modelUsed : JsField Json := .undefined
  tokensUsed : JsField Json := .undefined
  tier : JsField Json := .undefined
  input : JsField Json := .undefined
  output : JsField Json := .undefined
  error : JsField Json := .undefined

structure EvaluationResult where
  enabled : Bool
  rubric : JsField Json
  criteria : JsField Json
  overallScore : JsField Json
  weightedScore : JsField Json
  grade : JsField Json
  passed : JsField Json
  passThreshold : JsField Json
  judgeSkipped : JsField Json
  judgeSkipReason : JsField Json
  expectedTextPresent : JsField Json
  generatedAt : JsField Json

structure StreamState where
  stepStates : String → Option LiveStepState := fun _ => none
  events : List StreamEvent := []
  workflowStatus : LiveStatus := .connecting
  evaluation : Option EvaluationResult := none
  error : Option String := none
  errorKind : Option StreamErrorKind := none
  statusBeforeLoss : LiveStatus := .connecting
  seenEvents : List String := []

/-- The characters that `trim` removes. -/
def isTrimmed (c : Char) : Bool :=
  (9 ≤ c.toNat && c.toNat ≤ 13) || c.toNat = 32 || c.toNat = 160 || c.toNat = 0x1680 ||
    (0x2000 ≤ c.toNat && c.toNat ≤ 0x200a) || c.toNat = 0x2028 || c.toNat = 0x2029 ||
    c.toNat = 0x202f || c.toNat = 0x205f || c.toNat = 0x3000 || c.toNat = 0xfeff

def trimmed (text : String) : List Char :=
  ((text.toList.dropWhile isTrimmed).reverse.dropWhile isTrimmed).reverse

/-- `toLowerCase` as far as it meets ASCII letters; the Kelvin sign does. -/
def lowered (c : Char) : Char := if c.toNat = 0x212a then 'k' else c.toLower

def normaliseWorkflowTerminalStatus (rawStatus : String) : LiveStatus :=
  let status := (trimmed rawStatus).map lowered
  if status = "success".toList ∨ status = "completed".toList ∨ status = "ok".toList then .completed
  else if status = "failed".toList ∨ status = "error".toList then .failed
  else .error

namespace StepReport

/-- What the handlers of `step_end`, `step_complete` and `step_error` have in common. -/
def toState (report : StepReport) (status : JsField String) (output error : JsField Json) :
    LiveStepState :=
  { status := status
    durationMs := report.durationMs
    modelUsed := report.modelUsed.orElse .undefined
    tokensUsed := report.tokensUsed.orElse .undefined
    tier := report.tier
    input := report.input.orElse .undefined
    output := output.orElse .undefined
    error := error }

end StepReport

def EvaluationScores.toResult (scores : EvaluationScores) : EvaluationResult :=
  { enabled := true
    rubric := scores.rubric
    criteria := scores.criteria.orElse (.value (.array []))
    overallScore := scores.overallScore
    weightedScore := scores.weightedScore
    grade := scores.grade
    passed := scores.passed.orElse (.value (.bool false))
    passThreshold := scores.passThreshold.orElse (.value (.int 70))
    judgeSkipped := scores.judgeSkipped
    judgeSkipReason := scores.judgeSkipReason
    expectedTextPresent := scores.expectedTextPresent
    generatedAt := scores.timestamp }

namespace StreamState

variable (view : StreamState)

def setStep (step : String) (state : LiveStepState) : StreamState :=
  { view with stepStates := Function.update view.stepStates step (some state) }

/-- The `switch` of `handleEvent`. -/
def apply : EventBody → StreamState
  | .workflowStart => { view with workflowStatus := .running }
  | .stepStart step timestamp input =>
      view.setStep step
        { status := .value "running", startTime := timestamp, input := input.orElse .undefined }
  | .stepEnd step report =>
      view.setStep step (report.toState report.status report.output report.error)
  | .stepComplete step report =>
      view.setStep step
        (report.toState (report.status.orElse (.value "success"))
          (report.output.orElse report.outputs) (report.error.orElse .null))
  | .stepError step report =>
      view.setStep step
        (report.toState (.value "failed") (report.output.orElse report.outputs)
          (report.error.orElse .null))
  | .workflowEnd status _ =>
      { view with workflowStatus := normaliseWorkflowTerminalStatus status }
  | .evaluationStart => { view with workflowStatus := .evaluating }
  | .evaluationComplete scores =>
      { view with
        evaluation := some scores.toResult
        workflowStatus := if view.workflowStatus = .failed then .failed else .completed }
  | .error error =>
      { view with error := some error, errorKind := some .server, workflowStatus := .error }
  | .tokenDelta | .approvalRequired | .approvalDecision => view

def handleEvent (event : StreamEvent) : StreamState :=
  if event.identity ∈ view.seenEvents then view
  else
    { view with
      seenEvents := view.seenEvents ++ [event.identity]
      events := view.events ++ [event] }.apply event.body

def onRetriesExhausted : StreamState :=
  if view.workflowStatus = .completed ∨ view.workflowStatus = .failed then view
  else
    { view with
      statusBeforeLoss :=
        if view.workflowStatus = .error then .connecting else view.workflowStatus
      error := some "connection lost — the live stream stopped responding"
      errorKind := some .connection
      workflowStatus := .error }

def reconnect : StreamState :=
  { view with error := none, errorKind := none, workflowStatus := view.statusBeforeLoss }

end StreamState

variable (log : List StreamEvent)

def received : StreamState := log.foldl StreamState.handleEvent {}

/-! ### The connection -/

/-- `opened position`: that many events have come in on this socket. -/
inductive StreamSocket where
  | connecting
  | opened (position : Nat)
  | retrying
  | dead
  deriving DecidableEq, Repr

/-- `delivered` is the longest prefix of the log that a socket has delivered; no code reads it. -/
structure LiveView where
  view : StreamState := {}
  socket : StreamSocket := .connecting
  retries : Nat := 0
  delivered : Nat := 0

/-- `retry` is the timer of a retry. -/
inductive StreamAction where
  | opened
  | message
  | closed
  | retry
  | reconnect
  deriving DecidableEq, Repr

def maxRetries : Nat := 5

namespace LiveView

def next (log : List StreamEvent) (live : LiveView) : StreamAction → Option LiveView
  | .opened =>
      match live.socket with
      | .connecting => some { live with socket := .opened 0, retries := 0 }
      | _ => none
  | .message =>
      match live.socket with
      | .opened position =>
          log[position]?.map fun event =>
            { live with
              view := live.view.handleEvent event
              socket := .opened (position + 1)
              delivered := max live.delivered (position + 1) }
      | _ => none
  | .closed =>
      match live.socket with
      | .connecting | .opened _ =>
          if live.retries < maxRetries then
            some { live with socket := .retrying, retries := live.retries + 1 }
          else some { live with socket := .dead, view := live.view.onRetriesExhausted }
      | _ => none
  | .retry =>
      match live.socket with
      | .retrying => some { live with socket := .connecting }
      | _ => none
  | .reconnect =>
      -- The effect closes the old socket and opens a new one.
      some { live with view := live.view.reconnect, socket := .connecting, retries := 0 }

end LiveView

/-! ### Logs of runs -/

def phaseAfter : RunPhase → List StreamEvent → Option RunPhase
  | phase, [] => some phase
  | phase, event :: rest =>
      (phase.advance event.body.type event.body.evaluationEnabled).bind fun later =>
        phaseAfter later rest

/-- The events of a run in the order in which its task broadcasts them. A text has one parse. -/
structure EmittedLog where
  events : List StreamEvent
  phase : RunPhase
  emitted : phaseAfter .submitted events = some phase
  identified : ∀ first ∈ events, ∀ second ∈ events,
    first.identity = second.identity → first.body = second.body

structure SameView (left right : StreamState) : Prop where
  stepStates : left.stepStates = right.stepStates
  events : left.events = right.events
  workflowStatus : left.workflowStatus = right.workflowStatus
  evaluation : left.evaluation = right.evaluation
  error : left.error = right.error

/-- The run has ended in failure, by its `workflow_end`. -/
def ReportsFailure : Prop :=
  ∃ event ∈ log, ∃ status evaluationEnabled,
    event.body = .workflowEnd status evaluationEnabled ∧
      normaliseWorkflowTerminalStatus status = .failed

/-- The last event of the log is an `evaluation_complete`. -/
def EndsEvaluated : Prop :=
  ∃ event ∈ log.getLast?, event.body.type = .evaluationComplete

def StatusSettled (delivered : Nat) : Prop :=
  ∀ event ∈ log.drop delivered, event.body.setsStatus = true →
    event.identity ∈ (log.take delivered).map StreamEvent.identity

/-- A `reconnect` that no status event follows restores the status of the events delivered so far,
which report no error. -/
def Restores (live : LiveView) : StreamAction → Prop
  | .reconnect => StatusSettled log live.delivered →
      live.view.statusBeforeLoss = (received (log.take live.delivered)).workflowStatus ∧
        (received (log.take live.delivered)).error = none
  | _ => True

end AgenticRuntime
