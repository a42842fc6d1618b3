/-
The server's own fold of the streamed node updates.

It keeps the context, the outputs and the errors that the declared reducers keep.
Where they replace the entry of a step, it merges the entry field by field, so a field
that a later entry lacks stays.
-/

import AgenticRuntime.Langchain.WorkflowState
import AgenticRuntime.Server.StepEvents

namespace AgenticRuntime

open Python Langchain List Items LastWriter

namespace StreamMerge

structure AggregatedState where
  context : Dict Data := .empty
  outputs : Dict Data := .empty
  steps : Dict StepEntry := .empty
  errors : List String := []

/-- One round of `_merge_step_updates` -/
def mergeStepUpdate (aggregatedSteps : Dict StepEntry) (stepName : String)
    (stepData : StepEntry) : Dict StepEntry :=
  match aggregatedSteps.get? stepName with
  | some existing => aggregatedSteps.insert stepName (existing.update stepData.items)
  | none => aggregatedSteps.insert stepName stepData

def mergeStepUpdates (aggregatedSteps steps : Dict StepEntry) : Dict StepEntry :=
  steps.items.foldl (fun merged item => mergeStepUpdate merged item.1 item.2) aggregatedSteps

def mergeStreamPayload (aggregated : AggregatedState) (payload : NodeUpdate) :
    AggregatedState where
  context := reduce mergeDicts aggregated.context payload.context
  outputs := reduce mergeDicts aggregated.outputs payload.outputs
  steps := reduce mergeStepUpdates aggregated.steps payload.steps
  errors := aggregated.errors ++ (payload.errors.getD []).filter fun err => err ≠ ""

def mergeStreamState (aggregated : AggregatedState)
    (nodeUpdate : List (String × Option NodeUpdate)) : AggregatedState :=
  (nodeUpdate.filterMap Prod.snd).foldl mergeStreamPayload aggregated

def aggregated (state : WorkflowState) : AggregatedState where
  context := state.context
  outputs := state.outputs
  steps := state.steps
  errors := state.errors

/-! ### The steps as the step events read them -/

mutual

def toPy : Data → PyValue
  | .null => .none
  | .bool value => .bool value
  | .int value => .int value
  | .float value => .float (.finite value)
  | .str text => .str text
  | .list items => .list (toPyItems items)
  | .dict fields => .dict (toPyFields fields)

def toPyItems : List Data → List PyValue
  | [] => []
  | item :: rest => toPy item :: toPyItems rest

def toPyFields : List (String × Data) → Mapping
  | [] => []
  | (name, value) :: rest => (.str name, toPy value) :: toPyFields rest

end

def entryValue (entry : StepEntry) : PyValue := .dict (entry.items.map (Prod.map .str toPy))

def stepsMapping (steps : Dict StepEntry) : Mapping :=
  steps.items.map (Prod.map .str entryValue)

theorem stepsMapping_mergeStepUpdate (aggregatedSteps : Dict StepEntry) (stepName : String)
    (stepData : StepEntry) :
    stepsMapping (mergeStepUpdate aggregatedSteps stepName stepData) =
      insert (stepsMapping aggregatedSteps) (.str stepName) (PyValue.dict (update
        (((get? (stepsMapping aggregatedSteps) (.str stepName)).bind asMapping?).getD [])
        (stepData.items.map (Prod.map .str toPy)))) := by
  have found : get? (stepsMapping aggregatedSteps) (.str stepName) =
      (aggregatedSteps.get? stepName).map entryValue :=
    get?_renamed str_beq entryValue aggregatedSteps.items stepName
  rw [found]
  unfold mergeStepUpdate
  cases aggregatedSteps.get? stepName with
  | none =>
      have fresh : update [] (stepData.items.map (Prod.map PyKey.str toPy)) =
          stepData.items.map (Prod.map PyKey.str toPy) := by
        have whole : (keys ([] ++ stepData.items)).Nodup := stepData.distinct
        have renamed := update_renamed str_beq toPy [] stepData.items
        rw [update_of_distinct whole] at renamed
        exact renamed
      change _ = insert _ _ (PyValue.dict (update [] _))
      rw [fresh]
      exact (insert_renamed str_beq entryValue aggregatedSteps.items stepName stepData).symm
  | some existing =>
      change _ = insert _ _ (PyValue.dict (update (existing.items.map _) _))
      rw [update_renamed str_beq toPy]
      exact (insert_renamed str_beq entryValue aggregatedSteps.items stepName
        (existing.update stepData.items)).symm

theorem stepsMapping_mergeStepUpdates (aggregatedSteps steps : Dict StepEntry) :
    stepsMapping (mergeStepUpdates aggregatedSteps steps) =
      AgenticRuntime.mergeStepUpdates (stepsMapping aggregatedSteps) (stepsMapping steps) := by
  obtain ⟨items, distinct⟩ := steps
  change stepsMapping (items.foldl _ aggregatedSteps) =
    (items.map (Prod.map PyKey.str entryValue)).foldl _ (stepsMapping aggregatedSteps)
  clear distinct
  induction items generalizing aggregatedSteps with
  | nil => rfl
  | cons item rest ih =>
      rw [foldl_cons, map_cons, foldl_cons, ih, stepsMapping_mergeStepUpdate]
      rfl

/-! ### The entry of one step -/

variable (existing : Option StepEntry)

def mergeEntry (stepData : StepEntry) : Option StepEntry :=
  some (match existing with
    | some entry => entry.update stepData.items
    | none => stepData)

theorem get?_mergeStepUpdate (aggregatedSteps : Dict StepEntry) (stepName other : String)
    (stepData : StepEntry) : (mergeStepUpdate aggregatedSteps stepName stepData).get? other =
      if stepName = other then mergeEntry (aggregatedSteps.get? stepName) stepData
      else aggregatedSteps.get? other := by
  unfold mergeStepUpdate mergeEntry
  cases aggregatedSteps.get? stepName with
  | none => exact aggregatedSteps.get?_insert stepName other stepData
  | some existing => exact aggregatedSteps.get?_insert stepName other _

theorem get?_mergeStepUpdates (aggregatedSteps steps : Dict StepEntry) (stepName : String) :
    (mergeStepUpdates aggregatedSteps steps).get? stepName =
      (steps.get? stepName).elim (aggregatedSteps.get? stepName)
        (mergeEntry (aggregatedSteps.get? stepName)) := by
  obtain ⟨items, distinct⟩ := steps
  change (items.foldl _ aggregatedSteps).get? stepName = (get? items stepName).elim _ _
  induction items generalizing aggregatedSteps with
  | nil => rfl
  | cons item rest ih =>
      obtain ⟨name, stepData⟩ := item
      obtain ⟨fresh, distinct⟩ := nodup_cons.mp distinct
      rw [foldl_cons, ih _ distinct, get?_mergeStepUpdate, get?]
      by_cases same : name = stepName
      · subst same
        rw [get?_eq_none_iff.mpr fresh, if_pos rfl, if_pos (beq_self_eq_true name)]
        rfl
      · rw [if_neg same, if_neg fun equal => same (beq_iff_eq.mp equal)]

def entriesOf (stepName : String) (updates : List NodeUpdate) : List StepEntry :=
  updates.filterMap fun update => update.entry stepName

theorem aggregated_entry (aggregated : AggregatedState) (updates : List NodeUpdate)
    (stepName : String) :
    (updates.foldl mergeStreamPayload aggregated).steps.get? stepName =
      (entriesOf stepName updates).foldl mergeEntry (aggregated.steps.get? stepName) := by
  induction updates generalizing aggregated with
  | nil => rfl
  | cons update rest ih =>
      rw [foldl_cons, ih]
      have head : (mergeStreamPayload aggregated update).steps.get? stepName =
          (update.entry stepName).elim (aggregated.steps.get? stepName)
            (mergeEntry (aggregated.steps.get? stepName)) := by
        unfold NodeUpdate.entry mergeStreamPayload
        cases update.steps with
        | none => rfl
        | some steps => exact get?_mergeStepUpdates aggregated.steps steps stepName
      rw [head]
      cases given : update.entry stepName with
      | none => simp only [entriesOf, filterMap_cons, given, Option.elim_none]
      | some entry =>
          simp only [entriesOf, filterMap_cons, given, Option.elim_some, foldl_cons]

/-! ### Where the two folds agree -/

/-- `left == right` on dicts, which do not compare the order of their keys. -/
def Same {α : Type} (left right : Dict α) : Prop := ∀ key, left.get? key = right.get? key

/-- A run is reported from the aggregate as it would be from the state. -/
structure Agrees (aggregated : AggregatedState) (state : WorkflowState) : Prop where
  context : aggregated.context = state.context
  outputs : aggregated.outputs = state.outputs
  steps : ∀ stepName,
    Option.Rel Same (aggregated.steps.get? stepName) (state.steps.get? stepName)
  errors : (aggregated.errors.filter fun err => err ≠ "") =
    state.errors.filter fun err => err ≠ ""

def LastEntriesComplete (state : WorkflowState) (updates : List NodeUpdate) : Prop :=
  ∀ stepName last, (entriesOf stepName updates).getLast? = some last →
    ∀ earlier, earlier ∈ state.steps.get? stepName ∨ earlier ∈ entriesOf stepName updates →
      ∀ field, last.get? field = none → earlier.get? field = none

theorem mergeEntry_get? (stepData : StepEntry) :
    ∃ merged, mergeEntry existing stepData = some merged ∧ ∀ field,
      merged.get? field = (stepData.get? field).or (existing.bind fun entry => entry.get? field) := by
  cases existing with
  | none => exact ⟨stepData, rfl, fun field => (Option.or_none).symm⟩
  | some entry => exact ⟨_, rfl, entry.get?_update stepData⟩

theorem foldl_mergeEntry (entries : List StepEntry) (field : String) :
    ((entries.foldl mergeEntry existing).bind fun entry => entry.get? field) =
      folded (fun field => existing.bind fun entry => entry.get? field)
        (entries.map Dict.get?) field := by
  induction entries generalizing existing with
  | nil => rfl
  | cons entry rest ih =>
      rw [foldl_cons, ih, map_cons, folded_cons]
      obtain ⟨merged, same, fields⟩ := mergeEntry_get? existing entry
      rw [same]
      have head : (fun field => (some merged).bind fun entry => entry.get? field) =
          overwrite (fun field => existing.bind fun entry => entry.get? field)
            entry.get? := funext fields
      rw [head]

theorem merged_same_iff (entries : List StepEntry) {last : StepEntry}
    (ends : entries.getLast? = some last) :
    Option.Rel Same (entries.foldl mergeEntry existing) (some last) ↔
      ∀ earlier, earlier ∈ existing ∨ earlier ∈ entries →
        ∀ field, last.get? field = none → earlier.get? field = none := by
  obtain ⟨before, split⟩ := List.getLast?_eq_some_iff.mp ends
  have fields := foldl_mergeEntry existing entries
  obtain ⟨merged, same, _⟩ := mergeEntry_get? (before.foldl mergeEntry existing) last
  have whole : entries.foldl mergeEntry existing = some merged := by
    rw [split, foldl_append]
    exact same
  rw [whole, Option.rel_some_some]
  have field_eq : ∀ field, merged.get? field = (last.get? field).or (folded
      (fun field => existing.bind fun entry => entry.get? field) (before.map Dict.get?) field) := by
    intro field
    have here := fields field
    rw [whole, split, map_append, map_singleton, folded_snoc] at here
    exact here
  constructor
  · intro equal earlier listed field absent
    have vanishes := field_eq field
    rw [equal field, absent, Option.none_or] at vanishes
    obtain ⟨atStart, later⟩ := folded_eq_none_iff.mp vanishes.symm
    rcases listed with start | member
    · rw [Option.mem_def.mp start] at atStart
      exact atStart
    · rw [split, mem_append, mem_singleton] at member
      rcases member with old | new
      · exact later earlier.get? (mem_map_of_mem old)
      · exact new ▸ absent
  · intro complete field
    rw [field_eq]
    cases held : last.get? field with
    | some value => rfl
    | none =>
        rw [Option.none_or]
        apply folded_eq_none_iff.mpr
        constructor
        · cases start : existing with
          | none => rfl
          | some entry => exact complete entry (.inl start) field held
        · intro write member
          obtain ⟨entry, old, same⟩ := mem_map.mp member
          rw [← same]
          apply complete entry _ field held
          rw [split]
          exact .inr (mem_append_left _ old)

theorem merged_entry (state : WorkflowState) (updates : List NodeUpdate) (stepName : String) :
    (state.merged updates).steps.get? stepName =
      (entriesOf stepName updates).getLast?.or (state.steps.get? stepName) := by
  rw [steps_merged, folded_apply, filterMap_map]
  rfl

theorem aggregated_context (aggregated : AggregatedState) (state : WorkflowState)
    (updates : List NodeUpdate) (same : aggregated.context = state.context) :
    (updates.foldl mergeStreamPayload aggregated).context = (state.merged updates).context := by
  induction updates generalizing aggregated state with
  | nil => exact same
  | cons update rest ih =>
      apply ih (mergeStreamPayload aggregated update) (state.apply update)
      exact congrArg (fun context => reduce mergeDicts context update.context) same

theorem aggregated_outputs (aggregated : AggregatedState) (state : WorkflowState)
    (updates : List NodeUpdate) (same : aggregated.outputs = state.outputs) :
    (updates.foldl mergeStreamPayload aggregated).outputs = (state.merged updates).outputs := by
  induction updates generalizing aggregated state with
  | nil => exact same
  | cons update rest ih =>
      apply ih (mergeStreamPayload aggregated update) (state.apply update)
      exact congrArg (fun outputs => reduce mergeDicts outputs update.outputs) same

theorem aggregated_errors (aggregated : AggregatedState) (state : WorkflowState)
    (updates : List NodeUpdate)
    (same : (aggregated.errors.filter fun err => err ≠ "") =
      state.errors.filter fun err => err ≠ "") :
    ((updates.foldl mergeStreamPayload aggregated).errors.filter fun err => err ≠ "") =
      (state.merged updates).errors.filter fun err => err ≠ "" := by
  induction updates generalizing aggregated state with
  | nil => exact same
  | cons update rest ih =>
      apply ih (mergeStreamPayload aggregated update) (state.apply update)
      unfold mergeStreamPayload WorkflowState.apply
      rw [filter_append, filter_filter, same]
      cases update.errors with
      | none => simp only [reduce, Option.getD_none, filter_nil, append_nil]
      | some errors =>
          simp only [reduce, Option.getD_some, Bool.and_self, List.append_eq, filter_append]

theorem agrees_iff (state : WorkflowState) (updates : List NodeUpdate) :
    Agrees (updates.foldl mergeStreamPayload (aggregated state)) (state.merged updates) ↔
      LastEntriesComplete state updates := by
  have steps : ∀ stepName last, (entriesOf stepName updates).getLast? = some last →
      (Option.Rel Same ((updates.foldl mergeStreamPayload (aggregated state)).steps.get? stepName)
        ((state.merged updates).steps.get? stepName) ↔
      ∀ earlier, earlier ∈ state.steps.get? stepName ∨ earlier ∈ entriesOf stepName updates →
        ∀ field, last.get? field = none → earlier.get? field = none) := by
    intro stepName last ends
    rw [aggregated_entry, merged_entry, ends]
    exact merged_same_iff (state.steps.get? stepName) _ ends
  constructor
  · intro agrees stepName last ends
    exact (steps stepName last ends).mp (agrees.steps stepName)
  · intro complete
    constructor
    case context => exact aggregated_context _ state updates rfl
    case outputs => exact aggregated_outputs _ state updates rfl
    case errors => exact aggregated_errors _ state updates rfl
    case steps =>
      intro stepName
      cases ends : (entriesOf stepName updates).getLast? with
      | some last => exact (steps stepName last ends).mpr (complete stepName last ends)
      | none =>
          rw [aggregated_entry, merged_entry, List.getLast?_eq_none_iff.mp ends]
          change Option.Rel Same (state.steps.get? stepName) (state.steps.get? stepName)
          cases state.steps.get? stepName with
          | none => exact .none
          | some entry => exact .some fun key => rfl

/-! ### Whole streams -/

def payloads (nodeUpdates : List (List (String × Option NodeUpdate))) : List NodeUpdate :=
  nodeUpdates.flatMap fun nodeUpdate => nodeUpdate.filterMap Prod.snd

theorem foldl_mergeStreamState (aggregated : AggregatedState)
    (nodeUpdates : List (List (String × Option NodeUpdate))) :
    nodeUpdates.foldl mergeStreamState aggregated =
      (payloads nodeUpdates).foldl mergeStreamPayload aggregated := by
  rw [payloads, foldl_flatMap]
  rfl

/-- A streamed run is reported from the state that a run without a stream returns just
when the last entry of each step has every field that an earlier one had. -/
theorem stream_agrees_iff (state : WorkflowState)
    (nodeUpdates : List (List (String × Option NodeUpdate))) :
    Agrees (nodeUpdates.foldl mergeStreamState (aggregated state))
        (state.merged (payloads nodeUpdates)) ↔
      LastEntriesComplete state (payloads nodeUpdates) := by
  rw [foldl_mergeStreamState]
  exact agrees_iff state (payloads nodeUpdates)

def roundUpdate (entry : List (String × Data)) : List (String × Option NodeUpdate) :=
  [("refine", some { steps := some (.ofItems [("refine", .ofItems entry)]) })]

/-- The error of a failed round is reported beside the success of the next one. -/
theorem error_outlives_round : ¬ Agrees
    ([roundUpdate [("status", .str "failed"), ("error", .str "timed out")],
      roundUpdate [("status", .str "success")]].foldl mergeStreamState (aggregated {}))
    (WorkflowState.merged {} (payloads
      [roundUpdate [("status", .str "failed"), ("error", .str "timed out")],
        roundUpdate [("status", .str "success")]])) := by
  intro agrees
  have entries := agrees.steps "refine"
  cases entries with
  | some same => cases same "error"

end StreamMerge

end AgenticRuntime
