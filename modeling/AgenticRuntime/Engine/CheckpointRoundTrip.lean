/-
Saving a context and restoring the file into a fresh one.

The calls that write variables keep every key a plain name and every value
serialisable, so the file is always written.  Restoring refuses a protected key
and otherwise gives each value back in its JSON form.
-/

import AgenticRuntime.Transition
import AgenticRuntime.Engine.CheckpointRestore

namespace AgenticRuntime

open Python List Transition
open Serialisable (dict)
open PyValue (str)

/-- `serialize` tags a datetime and a path. -/
def Tagged (value : PyValue) : Prop :=
  (∃ iso, value = .datetime iso) ∨ ∃ text, value = .path text

inductive ContextCall where
  | set (key : String) (value : PyValue)
  | setInternal (key : String) (value : PyValue)
  | update (kwargs : List (String × PyValue))
  | delete (key : String)
  | mergeStepView (stepName : String) (stepView : List (PyKey × PyValue))
      (inherited : Option PyValue)
  | markStepStart (stepName : String)
  | markStepComplete (stepName : String)
  | markStepFailed (stepName : String)

/-- The values a call brings in are serialisable, datetimes and paths included. -/
def ContextCall.Serialisable : ContextCall → Prop
  | .set _ value => Python.Serialisable Tagged value
  | .setInternal _ value => Python.Serialisable Tagged value
  | .update kwargs => ∀ item ∈ kwargs, Python.Serialisable Tagged item.2
  | .mergeStepView _ stepView inherited =>
      Python.Serialisable Tagged (.dict stepView) ∧
        ∀ value, inherited = some value → Python.Serialisable Tagged value
  | _ => True

namespace ExecutionContext

def perform (ctx : ExecutionContext) : ContextCall → ExecutionContext
  | .set key value => (ctx.set key value).toOption.getD ctx
  | .setInternal key value => (ctx.setInternal key value).toOption.getD ctx
  | .update kwargs => (ctx.update kwargs).toOption.getD ctx
  | .delete key => ctx.delete key
  | .mergeStepView stepName stepView inherited => ctx.mergeStepView stepName stepView inherited
  | .markStepStart stepName => ctx.markStepStart stepName
  | .markStepComplete stepName => ctx.markStepComplete stepName
  | .markStepFailed stepName => ctx.markStepFailed stepName

def nextCall (ctx : ExecutionContext) (call : ContextCall) : Option ExecutionContext :=
  some (ctx.perform call)

/-! ### What the calls keep -/

def Storable (item : String × PyValue) : Prop :=
  validateVariableKey item.1 true = none ∧ Serialisable Tagged item.2

/-- Every variable may be saved and the step history is two lists of names. -/
structure Savable (ctx : ExecutionContext) : Prop where
  stored : ∀ item ∈ ctx.variableMap.items, Storable item
  failedSteps : IsStringList ctx.failedSteps
  metadata : Serialisable Opaque (.dict ctx.metadata)

theorem validateVariableKey_internal {key : String} (accepted : validateVariableKey key false = none) :
    validateVariableKey key true = none := by
  unfold validateVariableKey at accepted ⊢
  split at accepted
  · cases accepted
  · rename_i notBlank
    split at accepted
    · cases accepted
    · rename_i noMarker
      rw [if_neg notBlank, if_neg noMarker, if_neg]
      intro impossible
      exact absurd impossible.1 (by decide)

theorem validateVariableKey_public {key : String} (accepted : validateVariableKey key true = none) :
    validateVariableKey key false = none ↔ key ∉ protectedVariableKeys := by
  unfold validateVariableKey at accepted ⊢
  split at accepted
  · cases accepted
  · rename_i notBlank
    split at accepted
    · cases accepted
    · rename_i noMarker
      rw [if_neg notBlank, if_neg noMarker]
      by_cases isProtected : key ∈ protectedVariableKeys
      · simp [isProtected]
      · simp [isProtected]

variable {value : PyValue} {ctx : ExecutionContext}

theorem storable_insert {dict : Dict PyValue} {key : String}
    (stored : ∀ item ∈ dict.items, Storable item) (new : Storable (key, value)) :
    ∀ item ∈ (dict.insert key value).items, Storable item := by
  intro item member
  rcases Items.mem_insert member with earlier | here
  · exact stored item earlier
  · rw [here]
    exact new

theorem storable_update {items pairs : List (String × PyValue)}
    (stored : ∀ item ∈ items, Storable item) (new : ∀ item ∈ pairs, Storable item) :
    ∀ item ∈ Items.update items pairs, Storable item := by
  induction pairs generalizing items with
  | nil => exact stored
  | cons pair rest ih =>
      apply ih
      · intro item member
        rcases Items.mem_insert member with earlier | here
        · exact stored item earlier
        · rw [here]
          exact new pair mem_cons_self
      · intro item member
        exact new item (mem_cons_of_mem _ member)

theorem mem_of_get? {dict : Dict PyValue} {key : String} (found : dict.get? key = some value) :
    (key, value) ∈ dict.items :=
  Items.mem_of_get? found

theorem serialisable_stepsState {base : Option PyValue}
    (each : ∀ value, base = some value → Serialisable Tagged value) :
    (∀ item ∈ stepsState base, ∀ text, item.1 ≠ .other text) ∧
      ∀ item ∈ stepsState base, Serialisable Tagged item.2 := by
  unfold stepsState
  split
  · rename_i items
    cases each _ rfl with
    | extra allowed =>
        rcases allowed with ⟨_, impossible⟩ | ⟨_, impossible⟩ <;> cases impossible
    | dict named values => exact ⟨named, values⟩
  · constructor
    · intro item member
      cases member
    · intro item member
      cases member

theorem mem_insert_str {items : List (PyKey × PyValue)} {name : String} {item : PyKey × PyValue}
    (member : item ∈ Items.insert items (.str name) value) :
    (∃ earlier ∈ items, item.1 = earlier.1 ∧ item.2 = value) ∨ item ∈ items ∨
      item = (.str name, value) := by
  induction items with
  | nil => exact .inr (.inr (mem_singleton.mp member))
  | cons head rest ih =>
      obtain ⟨present, old⟩ := head
      unfold Items.insert at member
      split at member
      · rcases List.mem_cons.mp member with here | later
        · exact .inl ⟨(present, old), mem_cons_self, by rw [here], by rw [here]⟩
        · exact .inr (.inl (mem_cons_of_mem _ later))
      · rcases List.mem_cons.mp member with here | later
        · exact .inr (.inl (here ▸ mem_cons_self))
        · rcases ih later with ⟨earlier, there, same⟩ | earlier | new
          · exact .inl ⟨earlier, mem_cons_of_mem _ there, same⟩
          · exact .inr (.inl (mem_cons_of_mem _ earlier))
          · exact .inr (.inr new)

theorem serialisable_merged {items : List (PyKey × PyValue)} {name : String}
    (named : ∀ item ∈ items, ∀ text, item.1 ≠ .other text)
    (each : ∀ item ∈ items, Serialisable Tagged item.2) (new : Serialisable Tagged value) :
    Serialisable Tagged (.dict (Items.insert items (.str name) value)) := by
  apply dict
  · intro item member text
    rcases mem_insert_str member with ⟨earlier, there, sameKey, _⟩ | earlier | here
    · rw [sameKey]
      exact named earlier there text
    · exact named item earlier text
    · rw [here]
      exact fun impossible => nomatch impossible
  · intro item member
    rcases mem_insert_str member with ⟨_, _, _, sameValue⟩ | earlier | here
    · rw [sameValue]
      exact new
    · exact each item earlier
    · rw [here]
      exact new

theorem stringList?_of_strings (names : List String) :
    stringList? (.list (names.map str)) = some names := by
  unfold stringList?
  induction names with
  | nil => rfl
  | cons name rest ih => simp [mapM_cons, PyValue.asStr?] at ih ⊢; simp [ih]

theorem savable_markStepFailed (savable : ctx.Savable) (stepName : String) :
    (ctx.markStepFailed stepName).Savable := by
  obtain ⟨names, isList⟩ := savable.failedSteps
  unfold markStepFailed
  rw [isList, stringList?_of_strings]
  refine ⟨savable.stored, ?_, savable.metadata⟩
  by_cases present : stepName ∈ names
  · simp only [if_pos present]
    exact ⟨names, rfl⟩
  · simp only [if_neg present]
    exact ⟨names ++ [stepName], rfl⟩

theorem savable_perform {call : ContextCall} (savable : ctx.Savable)
    (serialisable : call.Serialisable) : (ctx.perform call).Savable := by
  cases call with
  | set key value =>
      cases refused : validateVariableKey key false with
      | some error =>
          simp only [perform, set, refused, Except.toOption, Option.getD_none]
          exact savable
      | none =>
          simp only [perform, set, refused, Except.toOption, Option.getD_some]
          exact ⟨storable_insert savable.stored ⟨validateVariableKey_internal refused, serialisable⟩,
            savable.failedSteps, savable.metadata⟩
  | setInternal key value =>
      cases refused : validateVariableKey key true with
      | some error =>
          simp only [perform, setInternal, refused, Except.toOption, Option.getD_none]
          exact savable
      | none =>
          simp only [perform, setInternal, refused, Except.toOption, Option.getD_some]
          exact ⟨storable_insert savable.stored ⟨refused, serialisable⟩, savable.failedSteps,
            savable.metadata⟩
  | update kwargs =>
      cases refused : kwargs.findSome? fun item => validateVariableKey item.1 false with
      | some error =>
          simp only [perform, update, refused, Except.toOption, Option.getD_none]
          exact savable
      | none =>
          simp only [perform, update, refused, Except.toOption, Option.getD_some]
          refine ⟨storable_update savable.stored ?_, savable.failedSteps, savable.metadata⟩
          intro item member
          have accepted := List.findSome?_eq_none_iff.mp refused item member
          exact ⟨validateVariableKey_internal accepted, serialisable item member⟩
  | delete key =>
      refine ⟨?_, savable.failedSteps, savable.metadata⟩
      intro item member
      exact savable.stored item ((Items.erase_sublist _ _).subset member)
  | mergeStepView stepName stepView inherited =>
      have plainName : validateVariableKey "steps" true = none := by decide
      change (ctx.mergeStepView stepName stepView inherited).Savable
      rw [mergeStepView_eq]
      refine ⟨storable_insert savable.stored ⟨plainName, ?_⟩, savable.failedSteps, savable.metadata⟩
      have base : ∀ value, (ctx.variableMap.get? "steps").or inherited = some value →
          Serialisable Tagged value := by
        intro value
        cases existing : ctx.variableMap.get? "steps" with
        | none => exact serialisable.2 value
        | some present =>
            intro same
            cases same
            exact (savable.stored _ (mem_of_get? existing)).2
      obtain ⟨named, each⟩ := serialisable_stepsState base
      exact serialisable_merged named each serialisable.1
  | markStepStart stepName | markStepComplete stepName =>
      exact ⟨savable.stored, savable.failedSteps, savable.metadata⟩
  | markStepFailed stepName => exact savable_markStepFailed savable stepName

structure Created (ctx : ExecutionContext) : Prop where
  variableMap : ctx.variableMap = Dict.empty
  completedSteps : ctx.completedSteps = []
  failedSteps : ctx.failedSteps = .list []
  metadata : Serialisable Opaque (.dict ctx.metadata)

theorem Created.savable (created : ctx.Created) : ctx.Savable := by
  refine ⟨?_, ⟨[], created.failedSteps⟩, created.metadata⟩
  intro item member
  rw [created.variableMap] at member
  cases member

theorem savable_of_calls {start : ExecutionContext} {calls : List ContextCall}
    (created : start.Created) (run : replay nextCall start calls = some ctx)
    (serialisable : ∀ call ∈ calls, call.Serialisable) : ctx.Savable := by
  apply replay_invariant_along _ created.savable
    (Transition.Along.of_forall serialisable) run
  intro state call after savable allowed taken
  cases taken
  exact savable_perform savable allowed

/-! ### What serialize does to a value -/

theorem serializeItems_eq (items : List PyValue) : serializeItems items = items.map serialize := by
  induction items with
  | nil => rfl
  | cons item rest ih => simp only [serializeItems, ih, map_cons]

theorem serializeEntries_eq (items : List (PyKey × PyValue)) :
    serializeEntries items = items.map fun item => (item.1, serialize item.2) := by
  induction items with
  | nil => rfl
  | cons item rest ih => simp only [serializeEntries, ih, map_cons]

/-- Serialised values need no `default` any more. -/
theorem serialisable_serialize (serialisable : Serialisable Tagged value) :
    Serialisable (fun _ => False) (serialize value) := by
  have tag : ∀ kind text : String, Serialisable (fun _ => False)
      (.dict [(.str "__type__", .str kind), (.str "value", .str text)]) := by
    intro kind text
    apply dict
    · intro item member other same
      rcases List.mem_cons.mp member with here | later
      · rw [here] at same
        cases same
      · rw [mem_singleton.mp later] at same
        cases same
    · intro item member
      rcases List.mem_cons.mp member with here | later
      · rw [here]
        exact .str kind
      · rw [mem_singleton.mp later]
        exact .str text
  have items : ∀ {items : List PyValue},
      (∀ item ∈ items, Serialisable (fun _ => False) (serialize item)) →
        Serialisable (fun _ => False) (.list (serializeItems items)) := by
    intro items each
    apply Serialisable.list
    intro image member
    rw [serializeItems_eq] at member
    obtain ⟨item, there, same⟩ := mem_map.mp member
    rw [← same]
    exact each item there
  induction serialisable with
  | extra allowed =>
      rcases allowed with ⟨iso, same⟩ | ⟨text, same⟩
      · rw [same]
        exact tag "datetime" iso
      · rw [same]
        exact tag "path" text
  | none => exact .none
  | bool value => exact .bool value
  | int value => exact .int value
  | float value => exact .float value
  | str text => exact .str text
  | list _ ih | tuple _ ih => exact items ih
  | @dict entries named _ ih =>
      rw [serialize, serializeEntries_eq]
      apply dict
      · intro image member
        obtain ⟨item, there, same⟩ := mem_map.mp member
        rw [← same]
        exact named item there
      · intro image member
        obtain ⟨item, there, same⟩ := mem_map.mp member
        rw [← same]
        exact ih item there

/-- On values that JSON has a form for, `serialize` does nothing that writing
and reading back would not do. -/
theorem asJson_serialize {floatRepr : PyFloat → String}
    (native : Serialisable (fun _ => False) value) :
    (serialize value).asJson floatRepr = value.asJson floatRepr := by
  have items : ∀ {items : List PyValue},
      (∀ item ∈ items, (serialize item).asJson floatRepr = item.asJson floatRepr) →
        asJsonItems floatRepr (serializeItems items) = asJsonItems floatRepr items := by
    intro items each
    rw [serializeItems_eq, asJsonItems_eq, asJsonItems_eq, map_map]
    exact map_congr_left each
  induction native with
  | extra impossible => exact impossible.elim
  | none => rfl
  | bool value => rfl
  | int value => rfl
  | float value => rfl
  | str text => rfl
  | list _ ih | tuple _ ih => simp only [serialize, PyValue.asJson, items ih]
  | @dict entries _ _ ih =>
      have same : asJsonEntries floatRepr (serializeEntries entries) =
          asJsonEntries floatRepr entries := by
        rw [serializeEntries_eq, asJsonEntries_eq, asJsonEntries_eq, map_map]
        apply map_congr_left
        intro item member
        exact Prod.ext rfl (ih item member)
      simp only [serialize, PyValue.asJson, same]

/-! ### The file that is written -/

section

variable (floatRepr : PyFloat → String) (ctx : ExecutionContext)
  (fileFingerprints : List (String × String)) (timestamp : String)

def readVariables : List (String × PyValue) :=
  ctx.variableMap.items.map fun item => (item.1, (serialize item.2).asJson floatRepr)

def readItems : List (PyKey × PyValue) :=
  [(.str "workflow_id", .str ctx.workflowId), (.str "run_id", .str ctx.runId), (.str "variables",
      .dict ((ctx.readVariables floatRepr).map fun item => (.str item.1, item.2))),
    (.str "completed_steps", .list (ctx.completedSteps.map str)),
    (.str "failed_steps", ctx.failedSteps.asJson floatRepr),
    (.str "metadata", (PyValue.dict ctx.metadata).asJson floatRepr),
    (.str "file_fingerprints",
      (PyValue.dict (fileFingerprints.map fun item => (.str item.1, .str item.2))).asJson floatRepr),
    (.str "timestamp", .str timestamp)]

theorem keys_readVariables : Items.keys (ctx.readVariables floatRepr) = ctx.variableMap.keys := by
  unfold readVariables Items.keys Dict.keys Items.keys
  rw [map_map]
  rfl

theorem asJson_strings (names : List String) :
    (PyValue.list (names.map str)).asJson floatRepr = .list (names.map str) := by
  apply asJson_of_plain
  apply Plain.list
  intro item member
  obtain ⟨name, _, same⟩ := mem_map.mp member
  rw [← same]
  exact .str name

theorem asJson_serializeVariables :
    (PyValue.dict ctx.serializeVariables).asJson floatRepr =
      .dict ((ctx.readVariables floatRepr).map fun item => (.str item.1, item.2)) := by
  have entries : asJsonEntries floatRepr ctx.serializeVariables = ctx.readVariables floatRepr := by
    rw [asJsonEntries_eq, serializeVariables, readVariables, map_map]
    rfl
  have distinct : (Items.keys (ctx.readVariables floatRepr)).Nodup := by
    rw [keys_readVariables]
    exact ctx.variableMap.distinct
  rw [PyValue.asJson, entries, ofMembers_of_distinct distinct]

theorem asJson_checkpointData :
    (PyValue.dict (ctx.checkpointData fileFingerprints timestamp)).asJson floatRepr =
      .dict (ctx.readItems floatRepr fileFingerprints timestamp) := by
  have distinct : (Items.keys
      (asJsonEntries floatRepr (ctx.checkpointData fileFingerprints timestamp))).Nodup := by
    change (["workflow_id", "run_id", "variables", "completed_steps", "failed_steps", "metadata",
      "file_fingerprints", "timestamp"] : List String).Nodup
    decide
  rw [PyValue.asJson, ofMembers_of_distinct distinct, readItems, ← asJson_serializeVariables]
  conv_rhs => rw [← asJson_strings floatRepr ctx.completedSteps]
  rfl

theorem serialisable_strings {extra : PyValue → Prop} (names : List String) :
    Serialisable extra (.list (names.map str)) := by
  apply Serialisable.list
  intro item member
  obtain ⟨name, _, same⟩ := mem_map.mp member
  rw [← same]
  exact .str name

variable {items : List (String × PyValue)}

theorem serialisable_strKeys {extra : PyValue → Prop}
    (each : ∀ item ∈ items, Serialisable extra item.2) :
    Serialisable extra (.dict (items.map fun item => (.str item.1, item.2))) := by
  apply dict
  · intro image member text same
    obtain ⟨item, _, shape⟩ := mem_map.mp member
    rw [← shape] at same
    cases same
  · intro image member
    obtain ⟨item, there, shape⟩ := mem_map.mp member
    rw [← shape]
    exact each item there

theorem serialisable_checkpointData {ctx : ExecutionContext} (savable : ctx.Savable) :
    Serialisable Opaque (.dict (ctx.checkpointData fileFingerprints timestamp)) := by
  have variableMap : Serialisable Opaque (.dict ctx.serializeVariables) := by
    have images : Serialisable Opaque (.dict
        ((ctx.variableMap.items.map fun item => (item.1, serialize item.2)).map
          fun item => (.str item.1, item.2))) := by
      apply serialisable_strKeys
      intro image member
      obtain ⟨item, there, same⟩ := mem_map.mp member
      rw [← same]
      exact (serialisable_serialize (savable.stored item there).2).mono
        fun _ impossible => impossible.elim
    rw [map_map] at images
    exact images
  have failed : Serialisable Opaque ctx.failedSteps := by
    obtain ⟨names, isList⟩ := savable.failedSteps
    rw [isList]
    exact serialisable_strings names
  have fingerprints : Serialisable Opaque
      (.dict (fileFingerprints.map fun item => (.str item.1, .str item.2))) := by
    have images : Serialisable Opaque (.dict
        ((fileFingerprints.map fun item => (item.1, str item.2)).map
          fun item => (.str item.1, item.2))) := by
      apply serialisable_strKeys
      intro image member
      obtain ⟨item, _, same⟩ := mem_map.mp member
      rw [← same]
      exact .str item.2
    rw [map_map] at images
    exact images
  have whole : Serialisable Opaque (.dict
      (([("workflow_id", .str ctx.workflowId), ("run_id", .str ctx.runId),
        ("variables", .dict ctx.serializeVariables),
        ("completed_steps", .list (ctx.completedSteps.map str)),
        ("failed_steps", ctx.failedSteps), ("metadata", .dict ctx.metadata),
        ("file_fingerprints",
          .dict (fileFingerprints.map fun item => (.str item.1, .str item.2))),
        ("timestamp", .str timestamp)] : List (String × PyValue)).map
          fun item => (.str item.1, item.2))) := by
    apply serialisable_strKeys
    simp only [forall_mem_cons, not_mem_nil, false_implies, implies_true, and_true]
    exact ⟨.str _, .str _, variableMap, serialisable_strings _, failed, savable.metadata,
      fingerprints, .str _⟩
  exact whole

theorem exists_saved {ctx : ExecutionContext} (savable : ctx.Savable) :
    ∃ json, ctx.saveCheckpoint floatRepr fileFingerprints timestamp = some json ∧
      json.loads = .dict (ctx.readItems floatRepr fileFingerprints timestamp) := by
  have written : Written floatRepr (.dict (ctx.checkpointData fileFingerprints timestamp)) :=
    written_of_serialisable (fun _ => written_of_opaque)
      (serialisable_checkpointData fileFingerprints timestamp savable)
  obtain ⟨json, dumped, loaded⟩ := written
  rw [asJson_checkpointData] at loaded
  exact ⟨json, dumped, loaded⟩

/-! ### Reading the file -/

theorem stringEntries_strings (names : List String) :
    stringEntries (names.map str) = .ok names := by
  induction names with
  | nil => rfl
  | cons name rest ih => simp only [map_cons, stringEntries, ih, Except.map]

theorem variableEntries_ok (each : ∀ item ∈ items, validateVariableKey item.1 false = none) :
    variableEntries (items.map fun item => (.str item.1, item.2)) = .ok items := by
  induction items with
  | nil => rfl
  | cons item rest ih =>
      have later := ih fun other member => each other (mem_cons_of_mem _ member)
      simp only [map_cons, variableEntries, each item mem_cons_self, later, Except.map]

theorem variableEntries_error (bad : ∃ item ∈ items, validateVariableKey item.1 false ≠ none) :
    ∃ error, variableEntries (items.map fun item => (.str item.1, item.2)) = .error error := by
  induction items with
  | nil =>
      obtain ⟨item, member, _⟩ := bad
      cases member
  | cons item rest ih =>
      cases here : validateVariableKey item.1 false with
      | some cause => exact ⟨_, by simp only [map_cons, variableEntries, here]; rfl⟩
      | none =>
          have later : ∃ item ∈ rest, validateVariableKey item.1 false ≠ none := by
            obtain ⟨other, member, refused⟩ := bad
            rcases List.mem_cons.mp member with same | there
            · exact absurd (same ▸ here) refused
            · exact ⟨other, there, refused⟩
          obtain ⟨error, failed⟩ := ih later
          exact ⟨error, by simp only [map_cons, variableEntries, here, failed, Except.map]⟩

variable {floatRepr fileFingerprints timestamp}

theorem validateCheckpointIdentity_idle {fresh : ExecutionContext}
    (idle : fresh.isRunningContext = false) (field text current : String) :
    fresh.validateCheckpointIdentity field (some (.str text)) current = .ok text := by
  simp [validateCheckpointIdentity, idle]

theorem restoreCheckpoint_saved {ctx fresh : ExecutionContext} {json : Json}
    (savable : ctx.Savable) (idle : fresh.isRunningContext = false)
    (loaded : json.loads = .dict (ctx.readItems floatRepr fileFingerprints timestamp)) :
    fresh.restoreCheckpoint (.document json) =
      match variableEntries ((ctx.readVariables floatRepr).map fun item => (.str item.1, item.2)) with
      | .error error => (fresh, some error)
      | .ok variableMap =>
          ({ fresh with
              workflowId := ctx.workflowId
              runId := ctx.runId
              variableMap := Dict.ofItems variableMap
              metadata := (updateFrom fresh.metadata
                ((PyValue.dict ctx.metadata).asJson floatRepr)).1
              completedSteps := ctx.completedSteps
              failedSteps := ctx.failedSteps },
            none) := by
  obtain ⟨names, isList⟩ := savable.failedSteps
  have failed : ctx.failedSteps.asJson floatRepr = ctx.failedSteps := by
    rw [isList, asJson_strings]
  have variablesRead : Items.get? (ctx.readItems floatRepr fileFingerprints timestamp)
      (.str "variables") =
        some (.dict ((ctx.readVariables floatRepr).map fun item => (.str item.1, item.2))) := rfl
  have workflowRead : Items.get? (ctx.readItems floatRepr fileFingerprints timestamp)
      (.str "workflow_id") = some (.str ctx.workflowId) := rfl
  have runRead : Items.get? (ctx.readItems floatRepr fileFingerprints timestamp)
      (.str "run_id") = some (.str ctx.runId) := rfl
  have completedRead : Items.get? (ctx.readItems floatRepr fileFingerprints timestamp)
      (.str "completed_steps") = some (.list (ctx.completedSteps.map str)) := rfl
  have failedRead : Items.get? (ctx.readItems floatRepr fileFingerprints timestamp)
      (.str "failed_steps") = some (ctx.failedSteps.asJson floatRepr) := rfl
  have metadataRead : Items.get? (ctx.readItems floatRepr fileFingerprints timestamp)
      (.str "metadata") = some ((PyValue.dict ctx.metadata).asJson floatRepr) := rfl
  simp only [restoreCheckpoint, validateCheckpoint, loaded, variablesRead, workflowRead, runRead,
    completedRead, validateCheckpointVariables, validateCheckpointCompletedSteps,
    validateCheckpointIdentity_idle idle, stringEntries_strings, bind, Except.bind, pure,
    Except.pure]
  cases variableEntries ((ctx.readVariables floatRepr).map fun item => (PyKey.str item.1, item.2)) with
  | error error => rfl
  | ok variableMap =>
      simp only [applyCheckpoint, ValidatedCheckpoint.failedSteps, ValidatedCheckpoint.metadata,
        failedRead, metadataRead, Option.getD_some, failed]
      rfl

/-! ### The round trip -/

/-- What a restore gives back: the variables one by one, each in its JSON form. -/
structure Reproduces (floatRepr : PyFloat → String) (ctx after : ExecutionContext) : Prop where
  workflowId : after.workflowId = ctx.workflowId
  runId : after.runId = ctx.runId
  completedSteps : after.completedSteps = ctx.completedSteps
  failedSteps : after.failedSteps = ctx.failedSteps
  keys : after.variableMap.keys = ctx.variableMap.keys
  native : ∀ key value, ctx.variableMap.get? key = some value →
    Serialisable (fun _ => False) value →
      after.variableMap.get? key = some (value.asJson floatRepr)
  plain : ∀ key value, ctx.variableMap.get? key = some value → Plain value →
    after.variableMap.get? key = some value

theorem ofItems_readVariables (floatRepr : PyFloat → String) (ctx : ExecutionContext) :
    (Dict.ofItems (ctx.readVariables floatRepr)).items = ctx.readVariables floatRepr := by
  have distinct : (Items.keys ([] ++ ctx.readVariables floatRepr)).Nodup := by
    rw [nil_append, keys_readVariables]
    exact ctx.variableMap.distinct
  exact Items.update_of_distinct distinct

theorem reproduces_restored {ctx after : ExecutionContext}
    (variableMap : after.variableMap = Dict.ofItems (ctx.readVariables floatRepr))
    (workflowId : after.workflowId = ctx.workflowId) (runId : after.runId = ctx.runId)
    (completedSteps : after.completedSteps = ctx.completedSteps)
    (failedSteps : after.failedSteps = ctx.failedSteps) : Reproduces floatRepr ctx after := by
  have image : ∀ key value, ctx.variableMap.get? key = some value →
      after.variableMap.get? key = some ((serialize value).asJson floatRepr) := by
    intro key value found
    have mapped := Items.get?_map (fun value => (serialize value).asJson floatRepr)
      ctx.variableMap.items key
    have here : Items.get? ctx.variableMap.items key = some value := found
    rw [here] at mapped
    rw [variableMap, Dict.get?, ofItems_readVariables]
    exact mapped
  have native : ∀ key value, ctx.variableMap.get? key = some value →
      Serialisable (fun _ => False) value →
        after.variableMap.get? key = some (value.asJson floatRepr) := by
    intro key value found jsonOnly
    rw [image key value found, asJson_serialize jsonOnly]
  refine ⟨workflowId, runId, completedSteps, failedSteps, ?_, native, ?_⟩
  · rw [variableMap, Dict.keys, ofItems_readVariables, keys_readVariables]
  · intro key value found plain
    rw [native key value found plain.serialisable, asJson_of_plain plain]

/-- A context reached by any calls is always written.  Restoring the file into a
context that is not running reproduces it when no variable has a protected name,
and otherwise is refused without a change. -/
theorem checkpoint_round_trip {start ctx fresh : ExecutionContext} {calls : List ContextCall}
    (created : start.Created) (run : replay nextCall start calls = some ctx)
    (serialisable : ∀ call ∈ calls, call.Serialisable)
    (idle : fresh.isRunningContext = false) (floatRepr : PyFloat → String)
    (fileFingerprints : List (String × String)) (timestamp : String) :
    ∃ json, ctx.saveCheckpoint floatRepr fileFingerprints timestamp = some json ∧
      ((∀ key ∈ ctx.variableMap.keys, key ∉ protectedVariableKeys) →
        ∃ after, fresh.restoreCheckpoint (.document json) = (after, none) ∧
          Reproduces floatRepr ctx after) ∧
      ((∃ key ∈ ctx.variableMap.keys, key ∈ protectedVariableKeys) →
        ∃ error, fresh.restoreCheckpoint (.document json) = (fresh, some error)) := by
  have savable := savable_of_calls created run serialisable
  obtain ⟨json, saved, loaded⟩ := exists_saved floatRepr fileFingerprints timestamp savable
  have restored := restoreCheckpoint_saved savable idle loaded
  have accepted : ∀ item ∈ ctx.readVariables floatRepr,
      validateVariableKey item.1 false = none ↔ item.1 ∉ protectedVariableKeys := by
    intro image member
    obtain ⟨item, there, same⟩ := mem_map.mp member
    rw [← same]
    exact validateVariableKey_public (savable.stored item there).1
  refine ⟨json, saved, ?_, ?_⟩
  · intro unprotected
    have valid : ∀ item ∈ ctx.readVariables floatRepr,
        validateVariableKey item.1 false = none := by
      intro item member
      apply (accepted item member).mpr
      apply unprotected
      rw [← keys_readVariables floatRepr]
      exact mem_map_of_mem member
    rw [variableEntries_ok valid] at restored
    exact ⟨_, restored, reproduces_restored rfl rfl rfl rfl rfl⟩
  · intro shadowed
    obtain ⟨key, member, isProtected⟩ := shadowed
    have refused : ∃ item ∈ ctx.readVariables floatRepr,
        validateVariableKey item.1 false ≠ none := by
      rw [← keys_readVariables floatRepr] at member
      obtain ⟨item, there, same⟩ := mem_map.mp member
      refine ⟨item, there, ?_⟩
      intro passes
      exact (accepted item there).mp passes (same ▸ isProtected)
    obtain ⟨error, failed⟩ := variableEntries_error refused
    rw [failed] at restored
    exact ⟨error, restored⟩

end

/-! ### One run -/

def emptyContext : ExecutionContext := { workflowId := "w", runId := "r" }

theorem emptyContext_created : emptyContext.Created := by
  refine ⟨rfl, rfl, rfl, ?_⟩
  apply dict
  · intro item member
    cases member
  · intro item member
    cases member

def tupleCalls : List ContextCall :=
  [.set "pair" (.tuple [.int 1, .int 2]), .markStepComplete "fetch"]

theorem tupleCalls_serialisable : ∀ call ∈ tupleCalls, call.Serialisable := by
  intro call member
  rcases List.mem_cons.mp member with here | later
  · rw [here]
    apply Serialisable.tuple
    intro item inside
    rcases List.mem_cons.mp inside with first | second
    · rw [first]
      exact .int 1
    · rw [mem_singleton.mp second]
      exact .int 2
  · rw [mem_singleton.mp later]
    trivial

theorem checkpoint_round_trip_tuple :
    ∃ ctx json, replay nextCall emptyContext tupleCalls = some ctx ∧
      ctx.saveCheckpoint (fun _ => "0.5") [] "now" = some json ∧
      ∃ after, emptyContext.restoreCheckpoint (.document json) = (after, none) ∧
        after.completedSteps = ["fetch"] := by
  have run : ∃ ctx, replay nextCall emptyContext tupleCalls = some ctx ∧
      ctx.variableMap.keys = ["pair"] ∧ ctx.completedSteps = ["fetch"] :=
    ⟨_, rfl, rfl, rfl⟩
  obtain ⟨ctx, run, keys, completed⟩ := run
  have idle : emptyContext.isRunningContext = false := rfl
  obtain ⟨json, saved, restores, _⟩ := checkpoint_round_trip emptyContext_created run
    tupleCalls_serialisable idle (fun _ => "0.5") [] "now"
  have unprotected : ∀ key ∈ ctx.variableMap.keys, key ∉ protectedVariableKeys := by
    rw [keys]
    decide
  obtain ⟨after, restored, same⟩ := restores unprotected
  exact ⟨ctx, json, run, saved, after, restored, same.completedSteps.trans completed⟩

/-- An internal write under a protected name is saved and cannot be restored; a
tuple comes back as another value. -/
theorem checkpoint_lossy :
    (∃ ctx json, replay nextCall emptyContext
        [.setInternal "workflow_id" (.str "shadow")] = some ctx ∧
      ctx.saveCheckpoint (fun _ => "0.5") [] "now" = some json ∧
      ¬ ∃ after, emptyContext.restoreCheckpoint (.document json) = (after, none)) ∧
    (∃ ctx json after, replay nextCall emptyContext tupleCalls = some ctx ∧
      ctx.saveCheckpoint (fun _ => "0.5") [] "now" = some json ∧
      emptyContext.restoreCheckpoint (.document json) = (after, none) ∧
      after.variableMap ≠ ctx.variableMap) := by
  constructor
  · have saved : ∃ ctx json, replay nextCall emptyContext
          [.setInternal "workflow_id" (.str "shadow")] = some ctx ∧
        ctx.saveCheckpoint (fun _ => "0.5") [] "now" = some json ∧
        (emptyContext.restoreCheckpoint (.document json)).2 ≠ none :=
      ⟨_, _, rfl, rfl, nofun⟩
    obtain ⟨ctx, json, run, saved, raises⟩ := saved
    refine ⟨ctx, json, run, saved, ?_⟩
    intro restores
    obtain ⟨after, restored⟩ := restores
    rw [restored] at raises
    exact raises rfl
  · have read : ∃ ctx json after, replay nextCall emptyContext tupleCalls = some ctx ∧
        ctx.saveCheckpoint (fun _ => "0.5") [] "now" = some json ∧
        emptyContext.restoreCheckpoint (.document json) = (after, none) ∧
        ctx.variableMap.get? "pair" = some (.tuple [.int 1, .int 2]) ∧
        after.variableMap.get? "pair" = some (.list [.int 1, .int 2]) :=
      ⟨_, _, _, rfl, rfl, rfl, rfl, rfl⟩
    obtain ⟨ctx, json, after, run, saved, restored, written, back⟩ := read
    refine ⟨ctx, json, after, run, saved, restored, ?_⟩
    intro same
    rw [same, written] at back
    cases back

end ExecutionContext

end AgenticRuntime
