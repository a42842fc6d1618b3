/-
The state of a LangGraph run and the reducers that fold node updates into it.
-/

import AgenticRuntime.Python.Values
import AgenticRuntime.Engine.Expressions
import AgenticRuntime.LastWriter

namespace AgenticRuntime

open LastWriter

namespace Langchain

open Python

abbrev StepEntry := Dict Data

structure WorkflowState where
  messages : List String := []
  context : Dict Data := .empty
  inputs : Dict Data := .empty
  outputs : Dict Data := .empty
  steps : Dict StepEntry := .empty
  currentStep : String := ""
  errors : List String := []

structure NodeUpdate where
  messages : Option (List String) := none
  context : Option (Dict Data) := none
  inputs : Option (Dict Data) := none
  outputs : Option (Dict Data) := none
  steps : Option (Dict StepEntry) := none
  currentStep : Option String := none
  errors : Option (List String) := none

/-! ### The declared reducers -/

/-- `{**a, **b}` -/
def mergeDicts {α : Type} (a b : Dict α) : Dict α := a.update b.items

def lastWins (a b : String) : String := if b ≠ "" then b else a

def reduce {α : Type} (reducer : α → α → α) (value : α) : Option α → α
  | none => value
  | some written => reducer value written

variable (state : WorkflowState)

def WorkflowState.apply (update : NodeUpdate) : WorkflowState where
  messages := reduce List.append state.messages update.messages
  context := reduce mergeDicts state.context update.context
  inputs := reduce mergeDicts state.inputs update.inputs
  outputs := reduce mergeDicts state.outputs update.outputs
  steps := reduce mergeDicts state.steps update.steps
  currentStep := reduce lastWins state.currentStep update.currentStep
  errors := reduce List.append state.errors update.errors

def WorkflowState.merged (updates : List NodeUpdate) : WorkflowState :=
  updates.foldl WorkflowState.apply state

/-! ### What the reducers leave under a key -/

def NodeUpdate.entry (update : NodeUpdate) (stepName : String) : Option StepEntry :=
  update.steps.bind fun steps => steps.get? stepName

def NodeUpdate.contextValue (update : NodeUpdate) (key : String) : Option Data :=
  update.context.bind fun context => context.get? key

theorem get?_mergeDicts {α : Type} (a b : Dict α) (key : String) :
    (mergeDicts a b).get? key = (b.get? key).or (a.get? key) :=
  a.get?_update b key

theorem get?_reduce {α : Type} (dict : Dict α) (written : Option (Dict α)) (key : String) :
    (reduce mergeDicts dict written).get? key =
      (written.bind fun changes => changes.get? key).or (dict.get? key) := by
  cases written with
  | none => rfl
  | some changes => exact get?_mergeDicts dict changes key

theorem steps_merged (updates : List NodeUpdate) :
    (state.merged updates).steps.get? =
      folded state.steps.get? (updates.map NodeUpdate.entry) := by
  induction updates generalizing state with
  | nil => rfl
  | cons update rest ih =>
      rw [List.map_cons, folded_cons]
      have head : (state.apply update).steps.get? =
          overwrite state.steps.get? update.entry :=
        funext fun key => get?_reduce state.steps update.steps key
      rw [← head]
      exact ih (state.apply update)

theorem context_merged (updates : List NodeUpdate) :
    (state.merged updates).context.get? =
      folded state.context.get? (updates.map NodeUpdate.contextValue) := by
  induction updates generalizing state with
  | nil => rfl
  | cons update rest ih =>
      rw [List.map_cons, folded_cons]
      have head : (state.apply update).context.get? =
          overwrite state.context.get? update.contextValue :=
        funext fun key => get?_reduce state.context update.context key
      rw [← head]
      exact ih (state.apply update)

end Langchain

end AgenticRuntime
