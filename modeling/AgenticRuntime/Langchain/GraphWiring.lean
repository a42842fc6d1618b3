/-
The nodes of a compiled graph and the updates they return.

The tier-0 functions are given by a registry, a model's response by the outcome of
its invocation, and what its text parses to is a parameter. A node that raises has no
update.
-/

import AgenticRuntime.Engine.InputMapping
import AgenticRuntime.Langchain.Expressions
import AgenticRuntime.Langchain.WorkflowState

namespace AgenticRuntime

namespace Langchain

open Python

structure StepConfig where
  name : String
  agent : String
  inputs : Dict InputValue := .empty
  outputs : Dict String := .empty
  inputContracts : List (String × ArtifactContract) := []
  outputContracts : List (String × ArtifactContract) := []
  when : Option Condition := none

def WorkflowState.fields (state : WorkflowState) : List (String × Data) :=
  [("messages", .list (state.messages.map .str)), ("context", .dict state.context.items),
    ("inputs", .dict state.inputs.items),
    ("outputs", .dict state.outputs.items),
    ("steps", .dict (state.steps.items.map fun step => (step.1, .dict step.2.items))),
    ("current_step", .str state.currentStep),
    ("errors", .list (state.errors.map .str))]

mutual

def resolveExpression (state : List (String × Data)) : InputValue → Data
  | .null => .null
  | .bool value => .bool value
  | .int value => .int value
  | .float value => .float value
  | .text plain => .str (strip plain.text)
  | .reference reference => resolveCoalesceOrPath state reference
  | .list items => .list (resolveExpressions state items)
  | .dict fields => .dict (resolveExpressionFields state fields)

def resolveExpressions (state : List (String × Data)) : List InputValue → List Data
  | [] => []
  | item :: rest => resolveExpression state item :: resolveExpressions state rest

def resolveExpressionFields (state : List (String × Data)) :
    List (String × InputValue) → List (String × Data)
  | [] => []
  | (name, value) :: rest => (name, resolveExpression state value) :: resolveExpressionFields state rest

end

structure Services where
  validateCodeArtifact : String → Data → List ContractDiagnostic
  parseStepOutputs : String → List String → Dict Data
  identical : Value → Value → Bool

structure Times where
  startTime : String
  endTime : String
  durationMs : ℚ

/-! ### Entries and context -/

/-- `value + 1` -/
def addOne : Data → Option Data
  | .bool value => some (.int (if value then 2 else 1))
  | .int value => some (.int (value + 1))
  | .float value => some (.float (value + 1))
  | _ => none

/-- `next_iteration`; `none` is a `TypeError`. -/
def nextIteration (state : WorkflowState) (stepName : String) : Option Data :=
  let existing := (state.steps.get? stepName).getD .empty
  addOne ((existing.get? "loop_iteration").getD (.int 0))

def setField (payload : StepEntry) (name : String) (value : Option Data) : StepEntry :=
  match value with
  | some written => payload.insert name written
  | none => payload

/-- The payload of `record_step_result`. -/
def stepPayload (status : String) (outputs : Dict Data) (iteration : Data)
    (error : Option String) (inputs : Dict Data) (metadata : Dict Data) (times : Times) :
    StepEntry :=
  let payload : StepEntry := .ofItems [("status", .str status),
    ("outputs", .dict outputs.items), ("loop_iteration", iteration)]
  let payload := payload.insert "inputs" (.dict inputs.items)
  let payload := setField payload "error" (error.bind fun text =>
    if text = "" then none else some (.str text))
  let payload := setField payload "metadata"
    (if metadata.items = [] then none else some (.dict metadata.items))
  let payload := payload.insert "start_time" (.str times.startTime)
  let payload := payload.insert "end_time" (.str times.endTime)
  payload.insert "duration_ms" (.float times.durationMs)

/-- `record_step_result`, as every node calls it: with inputs and with both times. -/
def recordStepResult (state : WorkflowState) (stepName status : String) (outputs : Dict Data)
    (error : Option String) (inputs metadata : Dict Data) (times : Times) :
    Option (Dict StepEntry) := do
  let iteration ← nextIteration state stepName
  return state.steps.insert stepName
    (stepPayload status outputs iteration error inputs metadata times)

def mapStepOutputsToContext (step : StepConfig) (stepOutputs context : Dict Data) : Dict Data :=
  step.outputs.items.foldl (fun finalContext output =>
    match stepOutputs.get? output.1 with
    | some value => finalContext.insert output.2 value
    | none => finalContext) context

/-! ### Nodes -/

/-- What a tier-0 function leaves: the context, and the outputs it puts under `__current__`. -/
structure Tier0Result where
  context : Dict Data
  outputs : Dict Data

/-- `none` is an error. -/
abbrev Tier0Function := WorkflowState → Option Tier0Result

inductive Outcome where
  | failed (errText : String) (metadata : Dict Data)
  | answered (responseText : String) (metadata : Dict Data)

section

variable (services : Services) (step : StepConfig) (state : WorkflowState)

def resolvedInputs : Dict Data :=
  .ofItems (resolveExpressionFields state.fields step.inputs.items)

/-- `resolve_inputs_into_context`: the context, and the inputs. -/
def resolveInputsIntoContext : Except (List ContractDiagnostic) (Dict Data × Dict Data) := do
  let resolved := resolvedInputs step state
  let context := state.context.update resolved.items
  let validated ← validateAndNormalizeArtifacts services.validateCodeArtifact resolved
    step.inputContracts
  return (context.update validated.items, validated)

def buildFailureUpdate (context inputs : Dict Data) (errText : String) (metadata : Dict Data)
    (times : Times) : Option NodeUpdate := do
  let steps ← recordStepResult state step.name "failed" .empty (some errText) inputs metadata times
  return {
    context := some context
    steps := some steps
    currentStep := some step.name
    errors := some [s!"Step {step.name} failed: {errText}"] }

def buildContractFailure (context inputs : Dict Data) (diagnostics : List ContractDiagnostic)
    (laneCrossings : Option Data) (times : Times) : Option NodeUpdate :=
  buildFailureUpdate step state context inputs (contractErrorText diagnostics)
    (setField (.ofItems
        [("contract_diagnostics", .list (diagnostics.map ContractDiagnostic.asDict))])
      "lane_crossings" laneCrossings) times

/-- The end of a node that has its outputs: they are validated, recorded and mapped. -/
def finishNode (context failureContext inputs stepOutputs metadata : Dict Data)
    (messages : Option (List String)) (times : Times) : Option NodeUpdate :=
  match validateAndNormalizeArtifacts services.validateCodeArtifact stepOutputs
      step.outputContracts with
  | .error diagnostics =>
      buildContractFailure step state failureContext inputs diagnostics
        (metadata.get? "lane_crossings") times
  | .ok stepOutputs => do
      let steps ← recordStepResult state step.name "success" stepOutputs none inputs metadata times
      return {
        messages := messages
        context := some (mapStepOutputsToContext step stepOutputs context)
        steps := some steps
        currentStep := some step.name }

/-- `_tier0_node`; an unknown agent does nothing. -/
def tier0Node (deterministic : Option Tier0Function) (times : Times) : Option NodeUpdate :=
  match resolveInputsIntoContext services step state with
  | .error diagnostics =>
      buildContractFailure step state state.context .empty diagnostics none times
  | .ok (context, inputs) =>
      match deterministic with
      | none => finishNode services step state context context inputs .empty .empty none times
      | some function => do
          let result ← function { state with context := context }
          finishNode services step state result.context context inputs result.outputs .empty none
            times

def llmNode (outcome : Outcome) (times : Times) : Option NodeUpdate :=
  match resolveInputsIntoContext services step state with
  | .error diagnostics =>
      buildContractFailure step state state.context .empty diagnostics none times
  | .ok (context, inputs) =>
      match outcome with
      | .failed errText metadata =>
          buildFailureUpdate step state context inputs errText metadata times
      | .answered responseText metadata =>
          let keys := expectedOutputKeys step.outputs.keys step.outputContracts
          finishNode services step state context context inputs
            (services.parseStepOutputs responseText keys) metadata (some [responseText]) times

def skippedEntry : StepEntry :=
  .ofItems [("status", .str "skipped"), ("outputs", .dict []), ("loop_iteration", .int 0)]

def skipUpdate : NodeUpdate where
  context := some state.context
  steps := some (state.steps.insert step.name skippedEntry)
  currentStep := some step.name

/-- `_self_skip_node`; an error of the condition leaves the node. -/
def wrapWithSkipCheck (whenExpr : Condition) (node : Option NodeUpdate) : Option NodeUpdate :=
  match evaluateCondition services.identical state.fields whenExpr with
  | .error _ => none
  | .ok true => node
  | .ok false => some (skipUpdate step state)

def parseAgentTier (agentName : String) : Nat :=
  match agentName.toList.dropPrefix? "tier".toList with
  | none => 2
  | some rest =>
      let digits := rest.takeWhile Char.isDigit
      match digits, rest.drop digits.length with
      | _ :: _, '_' :: next :: _ =>
          if next = '\n' then 2
          else digits.foldl (fun number digit => number * 10 + (digit.toNat - '0'.toNat)) 0
      | _, _ => 2

/-- `_TIER0_REGISTRY` -/
abbrev Tier0Registry := String → Option Tier0Function

def makeStepNode (registry : Tier0Registry) (outcome : Outcome) (times : Times) :
    Option NodeUpdate :=
  if parseAgentTier step.agent = 0 then tier0Node services step state (registry step.agent) times
  else llmNode services step state outcome times

/-- What a node of `add_step_nodes` returns. -/
def runNode (registry : Tier0Registry) (outcome : Outcome) (times : Times) : Option NodeUpdate :=
  let node := makeStepNode services step state registry outcome times
  match step.when with
  | none => node
  | some whenExpr => wrapWithSkipCheck services step state whenExpr node

end

end Langchain

end AgenticRuntime
