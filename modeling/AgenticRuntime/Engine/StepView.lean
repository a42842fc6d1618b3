/-
The `steps.<name>` view a step stores in the context and the output data of its
result, beside the turns of `StepExecutor.execute`.

The output data and what an output mapping may write into the `steps` variable
come from outside; post-hooks are taken not to write the variable.
-/

import AgenticRuntime.Transition
import AgenticRuntime.Engine.StepMarks

namespace AgenticRuntime

namespace StepExecutor

/-- What `_store_step_view` stores. -/
structure StepView (Output : Type) where
  status : StepStatus
  outputs : Output
  deriving DecidableEq, Repr

/-- The view of the step that the context holds, and `result.output_data`. -/
structure Record (Output : Type) where
  view : Option (StepView Output) := none
  outputData : Output
  deriving DecidableEq, Repr

/-- What is written at one await besides the marks: the output data of a body
that returned, and the view of the step after an output mapping whose target is
the `steps` variable. -/
structure Writes (Output : Type) where
  output : Output
  steps : Option (Option (StepView Output)) := none

/-! ### Failures met in a turn -/

/-- A failure and where it is met: in an attempt, while inputs are prepared, in a
pre-hook, or as the verdict of a blocking gate. -/
inductive Trip where
  | attempt (frame : Frame) (raised : Raised)
  | preparation (raised : Raised)
  | preHook (raised : Raised)
  | verification
  deriving DecidableEq, Repr

def inputsTrip (input : Input) : Option Trip :=
  match input.inputs with
  | .raises error => some (.preparation (.error error))
  | .value _ => none

variable (definition : StepDefinition)

def settleTrip (frame : Frame) (input : Input) : Option Trip :=
  match shouldLoopAgain definition frame input with
  | .raises error => some (.attempt frame (.error error))
  | .value true => inputsTrip input
  | .value false => none

def gateTrip (frame : Frame) (input : Input) : Option Trip :=
  match definition.verify with
  | none => settleTrip definition frame input
  | some _ => none

def stageTrip (frame : Frame) (input : Input) : Stage → Option Trip
  | .body =>
      match input.outputs with
      | .raises error => some (.attempt frame (.error error))
      | .value _ => none
  | .storing => if definition.postHooks = 0 then gateTrip definition frame input else none
  | .postHook 0 => gateTrip definition frame input
  | .verifying =>
      match input.failing with
      | none => settleTrip definition frame input
      | some _ =>
          if definition.verify = some .block then some .verification
          else settleTrip definition frame input
  | _ => none

def returnTrip (input : Input) : Point → Option Trip
  | .markingStart _ => if definition.preHooks = 0 then inputsTrip input else none
  | .preHook 0 _ => inputsTrip input
  | .attempting stage frame => stageTrip definition frame input stage
  | _ => none

def raiseTrip (raised : Raised) : Point → Option Trip
  | .preHook _ _ => some (.preHook raised)
  | .preparing _ _ _ => some (.preparation raised)
  | .attempting _ frame => some (.attempt frame raised)
  | _ => none

def trip (input : Input) (point : Point) : Option Trip :=
  match input.signal with
  | .returned => returnTrip definition input point
  | .raised raised => raiseTrip raised point
  | .waits => none

/-- The failure ends the step: it is not retried and does not leave `execute` as
an exception. -/
def Trip.Final : Trip → Prop
  | .attempt frame (.error error) =>
      ¬ ((frame.attempt : Int) ≤ definition.maxRetries ∧ error.retryable)
  | .attempt _ _ => True
  | .preparation (.error error) => error.artifactContract
  | .preparation _ => False
  | .preHook raised => raised ≠ .cancelled
  | .verification => True

/-- `isinstance(error, ArtifactContractError)` -/
def Trip.contractError : Trip → Bool
  | .attempt _ (.error error) => error.artifactContract
  | .preparation (.error error) => error.artifactContract
  | _ => false

/-! ### The record -/

section

variable {Output : Type}

/-- What the turn at the point writes. `empty` is `{}`. -/
def Record.write (record : Record Output) (writes : Writes Output) (input : Input) :
    Point → Record Output
  | .attempting .body _ =>
      if input.signal = .returned then { record with outputData := writes.output } else record
  | .attempting (.mapping _) _ => { record with view := writes.steps.getD record.view }
  | .attempting .storing frame =>
      if input.signal = .returned then
        { record with view := some ⟨frame.result.status, record.outputData⟩ }
      else record
  | _ => record

def Record.after (empty : Output) (definition : StepDefinition) (record : Record Output)
    (writes : Writes Output) (input : Input) (point : Point) : Record Output :=
  let written := record.write writes input point
  match trip definition input point with
  | none => written
  | some tripped =>
      if tripped.contractError then { written with outputData := empty } else written

structure Tracked (Output : Type) where
  progress : Progress Point
  ctx : Context
  record : Record Output

/-- One move of the task, or of whatever else shares its context. -/
inductive Move (Output : Type) where
  | resume (input : Input) (writes : Writes Output)
  | cancel (input : Input) (writes : Writes Output)
  | others (after : Context)

def start (definition : StepDefinition) (ctx : Context) (input : Input)
    (record : Record Output) : Tracked Output :=
  let turn := enter definition ctx input
  { progress := turn.1, ctx := turn.2, record }

def keepsMarks (step : StepName) (before after : Context) : Bool :=
  (step ∈ after.completedSteps ↔ step ∈ before.completedSteps) ∧
    (step ∈ after.failedSteps ↔ step ∈ before.failedSteps)

def nextMove (empty : Output) (definition : StepDefinition) (state : Tracked Output) :
    Move Output → Option (Tracked Output)
  | .resume input writes =>
      match state.progress with
      | .finished _ => none
      | .awaiting point =>
          (resume definition point state.ctx input).map fun turn =>
            { progress := turn.1
              ctx := turn.2
              record := state.record.after empty definition writes input point }
  | .cancel input writes =>
      match state.progress with
      | .finished _ => none
      | .awaiting point =>
          (cancel definition point state.ctx input).map fun turn =>
            { progress := turn.1
              ctx := turn.2
              record := state.record.after empty definition writes input point }
  | .others after =>
      if keepsMarks definition.name state.ctx after then some { state with ctx := after } else none

end

end StepExecutor

end AgenticRuntime
