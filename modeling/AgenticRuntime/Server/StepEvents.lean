/-
The step events that a streamed LangGraph run broadcasts.

Node updates are merged into the state of the run and then walked step by step; the
last status seen of a step decides what is broadcast. Durations, timestamps and the
run and tenant ids of the events are left out: nothing here depends on them.
-/

import AgenticRuntime.Python.Values

namespace AgenticRuntime

open Python

/-- An event of a step. `data` is the merged data of the step that it shows. -/
inductive StepEvent where
  | stepStart (step : String) (data : Mapping)
  | stepEnd (step : String) (status : String) (data : Mapping)

def StepEvent.step : StepEvent → String
  | .stepStart step _ => step
  | .stepEnd step _ _ => step

/-! ### Merging -/

def mergeStepUpdates (aggregatedSteps : Mapping) (steps : Mapping) : Mapping :=
  steps.foldl (fun merged item =>
    match asMapping? item.2 with
    | .none => merged
    | some stepData =>
        let existing := ((Items.get? merged item.1).bind asMapping?).getD []
        Items.insert merged item.1 (.dict (Items.update existing stepData))) aggregatedSteps

/-- `_merge_stream_state`, as far as the steps go. -/
def mergeStreamState (aggregatedSteps : Mapping) (nodeUpdate : Mapping) : Mapping :=
  nodeUpdate.foldl (fun merged item =>
    match (asMapping? item.2).bind fun payload => Items.get? payload (.str "steps") with
    | some (.dict steps) => mergeStepUpdates merged steps
    | _ => merged) aggregatedSteps

/-! ### Statuses -/

/-- The lower case of a character, where it is ASCII; besides the ASCII letters that is
so for the Kelvin sign. -/
def lowerChar (c : Char) : Char := if c = '\u212a' then 'k' else c.toLower

/-- `text.strip().lower()`, for comparison with ASCII words. -/
def cleanStatus (text : String) : String :=
  let trimmed := (text.toList.dropWhile isSpace).reverse.dropWhile isSpace
  String.ofList (trimmed.reverse.map lowerChar)

/-- `last_status_by_step` and what has been sent; `scored` are the steps that the
scoring listener was told about. -/
structure StepBroadcast where
  aggregatedSteps : Mapping := []
  lastStatusByStep : String → Option String := fun _ => .none
  events : List StepEvent := []
  scored : List (String × Mapping) := []

abbrev StepObservers := Option (List (String × Option (List String)))

def stepChannelEnabled (stepObservers : StepObservers) (stepName channel : String) : Bool :=
  match stepObservers with
  | .none => true
  | some configured =>
      match Items.get? configured stepName with
      | some (some allowed) => channel ∈ allowed
      | _ => true

def endedStatuses : List String := ["success", "failed", "skipped"]

namespace StepBroadcast

/-- `str(...)` of a step name and of a status, and the configuration of the run. -/
structure Settings where
  nameText : PyKey → String
  valueText : PyValue → String
  stepObservers : StepObservers
  scoring : Bool

variable (settings : Settings)

/-- The `status` of an update of a step. -/
def statusOf (stepData : Mapping) : String :=
  cleanStatus (settings.valueText ((Items.get? stepData (.str "status")).getD (.str "running")))

variable (state : StepBroadcast)

def setStatus (stepName status : String) : StepBroadcast :=
  { state with
    lastStatusByStep := Function.update state.lastStatusByStep stepName (some status) }

def broadcast (event : StepEvent) : StepBroadcast :=
  if stepChannelEnabled settings.stepObservers event.step "websocket" then
    { state with events := state.events ++ [event] }
  else state

def score (stepName status : String) (data : Mapping) : StepBroadcast :=
  if settings.scoring && stepChannelEnabled settings.stepObservers stepName "scoring" &&
      status = "success" then
    { state with scored := state.scored ++ [(stepName, data)] }
  else state

def processStreamedStep (stepNameRaw : PyKey) (stepData : Mapping) :
    StepBroadcast :=
  let stepName := settings.nameText stepNameRaw
  let data := ((Items.get? state.aggregatedSteps stepNameRaw).bind asMapping?).getD stepData
  let status := statusOf settings stepData
  let previous := state.lastStatusByStep stepName
  if status ∈ ["running", "pending"] then
    if previous = some "running" then state
    else (state.setStatus stepName "running").broadcast settings (.stepStart stepName data)
  else if status ∉ endedStatuses then state
  else if previous = some status then state
  else
    let started :=
      if previous = .none then
        (state.setStatus stepName "running").broadcast settings (.stepStart stepName data)
      else state
    ((started.setStatus stepName status).broadcast settings
      (.stepEnd stepName status data)).score settings stepName status data

def stepsOf (nodeUpdate : Mapping) : List (PyKey × Mapping) :=
  nodeUpdate.flatMap fun item =>
    match (asMapping? item.2).bind fun payload => Items.get? payload (.str "steps") with
    | some (.dict stepMap) =>
        stepMap.filterMap fun step => (asMapping? step.2).map fun stepData => (step.1, stepData)
    | _ => []

def broadcastNodeSteps (nodeUpdate : Mapping) : StepBroadcast :=
  (stepsOf nodeUpdate).foldl (fun state step => state.processStreamedStep settings step.1 step.2)
    state

/-- One round of the `async for` loop of `_stream_and_run`. -/
def receive (nodeUpdate : Mapping) : StepBroadcast :=
  broadcastNodeSteps settings
    { state with aggregatedSteps := mergeStreamState state.aggregatedSteps nodeUpdate } nodeUpdate

def stream (nodeUpdates : List Mapping) : StepBroadcast :=
  nodeUpdates.foldl (receive settings) {}

end StepBroadcast

end AgenticRuntime
