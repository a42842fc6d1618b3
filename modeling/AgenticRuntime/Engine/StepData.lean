/-
What the steps of a run compute: the inputs a body is given, the output it leaves, and
the context variables and step views that later steps read.

A body is a function of its mapped inputs. Conditions, expressions, artifact contracts
and what the executor makes of an output are functions of their own; hooks leave the
variables alone. The step history of the context is the one of the run.
-/

import AgenticRuntime.Engine.Checkpoint
import AgenticRuntime.Engine.DagExecutor
import AgenticRuntime.Engine.StepExecutor

namespace AgenticRuntime

open Python StepExecutor

/-- What a step computes. `settleOutput` is `_handle_success` up to the status: what it
leaves in `output_data`, and the contract error, if any. -/
structure StepProgram where
  inputMapping : List (String × PyValue) := []
  outputMapping : List (String × String) := []
  whenHolds : ExecutionContext → Answer Bool := fun _ => .value true
  unlessHolds : ExecutionContext → Answer Bool := fun _ => .value false
  resolveVariable : ExecutionContext → String → Except StepError PyValue := fun _ _ => .ok .none
  inputContracts : Dict PyValue → Except StepError (Dict PyValue) := .ok
  body : Dict PyValue → Except Raised (Dict PyValue)
  settleOutput : Dict PyValue → Dict PyValue × Option StepError := fun output => (output, none)
  loopMax : ExecutionContext → Option Int := fun _ => none
  satisfied : ExecutionContext → Answer Bool := fun _ => .value true
  retriesValueError : Bool := true

namespace StepProgram

variable (program : StepProgram)

/-- `text.strip()` -/
def strip (text : List Char) : List Char :=
  ((text.dropWhile isSpace).reverse.dropWhile isSpace).reverse

def resolveInputMappingValue (ctx : ExecutionContext) : PyValue → Except StepError PyValue
  | .str mappingValue =>
      let expr := strip mappingValue.toList
      if ['$', '\x7b'].isPrefixOf expr ∧ ['\x7d'].isSuffixOf expr then
        program.resolveVariable ctx (String.ofList (strip ((expr.drop 2).dropLast)))
      else .ok ((ctx.variableMap.get? mappingValue).getD .none)
  | value => .ok value

/-- The mapped inputs of `_prepare_inputs`. -/
def mapInputs (ctx : ExecutionContext) : List (String × PyValue) →
    Except StepError (List (String × PyValue))
  | [] => .ok []
  | (name, source) :: rest =>
      match program.resolveInputMappingValue ctx source, mapInputs ctx rest with
      | .error error, _ => .error error
      | .ok _, .error error => .error error
      | .ok value, .ok inputs => .ok ((name, value) :: inputs)

def prepareInputs (ctx : ExecutionContext) : Except StepError (Dict PyValue × List String) :=
  match program.mapInputs ctx program.inputMapping with
  | .error error => .error error
  | .ok mapped =>
      match program.inputContracts (Dict.ofItems mapped) with
      | .error error => .error error
      | .ok validated =>
          .ok (validated, (Dict.ofItems mapped).keys.filter (fun name => name ∉ validated.keys))

/-- How often `_prepare_inputs` awaits the child context. -/
def inputCount (ctx : ExecutionContext) : Answer Nat :=
  match program.prepareInputs ctx with
  | .error error => .raises error
  | .ok (inputs, masked) => .value (inputs.keys.length + masked.length)

def mappedOutputs (output : Dict PyValue) : List (String × PyValue) :=
  program.outputMapping.filterMap fun (stepOutput, ctxVar) =>
    (output.get? stepOutput).map fun value => (ctxVar, value)

def valueError (cause : VariableKeyError) : StepError :=
  { errorType := "ValueError", message := cause.message, retryable := program.retriesValueError }

end StepProgram

/-- A run with its variables and, for every step, the inputs it was last given and the
output data it has. -/
structure DataRun where
  run : Run StepExecutor.Point
  ctx : ExecutionContext
  inputs : StepName → Option (Dict PyValue) := fun _ => none
  outputs : StepName → Option (Dict PyValue) := fun _ => none

namespace DataRun

variable (program : StepProgram) (step : StepName) (state : DataRun)

def given : Dict PyValue := (state.inputs step).getD Dict.empty

def output : Dict PyValue := (state.outputs step).getD Dict.empty

/-- The item an await of a loop over `items` is about when `left` are still to come. -/
def awaited {α : Type} (items : List α) (left : Nat) : Option α := items.reverse[left]?

/-- `set` at an await raises for a key that is no variable name. -/
def checkKey (key : Option String) (input : Input) : Input :=
  match key.bind fun name => validateVariableKey name false with
  | none => input
  | some cause => { input with signal := .raised (.error (program.valueError cause)) }

/-- How the await ends. Apart from its end by a cancellation or by a time limit a body ends
as its inputs determine. -/
def settleSignal (input : Input) : Point → Input
  | .attempting .body _ =>
      match input.signal with
      | .returned | .raised (.error _) =>
          match program.body (state.given step) with
          | .error raised => { input with signal := .raised raised }
          | .ok raw =>
              let settled := program.settleOutput raw
              { input with
                signal := .returned
                outputs :=
                  match settled.2 with
                  | some error => .raises error
                  | none => .value (program.mappedOutputs settled.1).length }
      | _ => input
  | .attempting (.mapping left) _ =>
      if input.signal = .returned then
        checkKey program
          ((awaited (program.mappedOutputs (state.output step)) left).map Prod.fst) input
      else input
  | .preparing left _ _ =>
      if input.signal = .returned then checkKey program (awaited (state.given step).keys left) input
      else input
  | _ => input

def write : Point → DataRun
  | .attempting .body _ =>
      match program.body (state.given step) with
      | .error _ => state
      | .ok raw =>
          { state with
            outputs := Function.update state.outputs step (some (program.settleOutput raw).1) }
  | .attempting (.mapping left) _ =>
      match awaited (program.mappedOutputs (state.output step)) left with
      | none => state
      | some (ctxVar, value) =>
          match state.ctx.set ctxVar value with
          | .error _ => state
          | .ok ctx => { state with ctx := ctx }
  | .attempting .storing frame =>
      let stepView : List (PyKey × PyValue) :=
        [(.str "status", .str frame.result.status.value),
          (.str "outputs", .dict ((state.output step).items.map fun item => (.str item.1, item.2)))]
      { state with ctx := state.ctx.mergeStepView step stepView Option.none }
  | _ => state

def answer (ctx : ExecutionContext) (input : Input) : Input :=
  { input with
    whenHolds := program.whenHolds ctx
    unlessHolds := program.unlessHolds ctx
    inputs := program.inputCount ctx
    loopMax := program.loopMax ctx
    satisfied := program.satisfied ctx }

variable (definition : StepDefinition)

def settles (input : Input) : Stage → Bool
  | .storing => definition.postHooks = 0 && definition.verify = none
  | .postHook 0 => definition.verify = none
  | .verifying => input.failing = none || definition.verify ≠ some .block
  | _ => false

def prepares (input : Input) : Point → Bool
  | .markingStart _ => definition.preHooks = 0
  | .preHook 0 _ => true
  | .attempting stage frame =>
      settles definition input stage && shouldLoopAgain definition frame input = .value true
  | _ => false

def prepare : DataRun :=
  match program.prepareInputs state.ctx with
  | .error _ => state
  | .ok (inputs, _) => { state with inputs := Function.update state.inputs step (some inputs) }

def compute (point : Point) (input : Input) :
    Input × DataRun :=
  let ended := state.settleSignal program step input point
  if ended.signal = .returned then
    let written := state.write program step point
    let answered := answer program written.ctx ended
    (answered, if prepares definition answered point then written.prepare program step else written)
  else (answer program state.ctx ended, state)

end DataRun

def DataRun.determine (programs : StepName → StepProgram) (dag : DAG) (state : DataRun) :
    Event Input → Event Input × DataRun
  | .observed step observerRaised input =>
      (.observed step observerRaised (answer (programs step) state.ctx input), state)
  | .advance step input =>
      match state.run.state.task step, dag.lookup step with
      | some (.executing point), some definition =>
          let turn := state.compute (programs step) step definition point input
          (.advance step turn.1, turn.2)
      | _, _ => (.advance step input, state)
  | .cancel step input =>
      match state.run.state.task step, dag.lookup step with
      | some (.executing point), some definition =>
          let turn := state.compute (programs step) step definition point input
          (.cancel step turn.1, turn.2)
      | _, _ => (.cancel step input, state)
  | event => (event, state)

def DataRun.next (programs : StepName → StepProgram) (settings : Settings) (state : DataRun)
    (event : Event Input) : Option DataRun :=
  let determined := state.determine programs settings.dag event
  (DAGExecutor.next StepExecutor.executor settings state.run determined.1).map fun run =>
    { determined.2 with run := run }

def ExecutionContext.marks (ctx : ExecutionContext) : Context :=
  { completedSteps := ctx.completedSteps
    failedSteps := (ExecutionContext.stringList? ctx.failedSteps).getD []
    currentStep := ctx.currentStep }

def DataRun.start (settings : Settings) (ctx : ExecutionContext) : DataRun :=
  { run := DAGExecutor.start settings ctx.marks ctx.workflowId, ctx := ctx }

end AgenticRuntime
