/-
What a restore leaves behind when it raises, and when it succeeds.

Four of the six fields are checked before the first assignment.  `failed_steps`
is assigned as it is, and `metadata` is consumed after everything else has been
written, so a checkpoint with an unusable one is rejected too late.
-/

import AgenticRuntime.Engine.Checkpoint

namespace Python

/-- What `dict.update` accepts as an item: two parts, the first hashable. -/
def IsItem (element : PyValue) : Prop :=
  ∃ first second, element.iterate? = some [first, second] ∧ (PyKey.ofValue first).isSome

/-- What `dict.update` accepts: a mapping, or an iterable of items. -/
def Updatable (value : PyValue) : Prop :=
  (∃ items, value = .dict items) ∨
    ∃ elements, value.iterate? = some elements ∧ ∀ element ∈ elements, IsItem element

theorem asItem_of_isItem {element : PyValue} (accepted : IsItem element) (position : Nat) :
    ∃ item, asItem position element = .ok item := by
  obtain ⟨first, second, parts, hashable⟩ := accepted
  obtain ⟨key, isKey⟩ := Option.isSome_iff_exists.mp hashable
  exact ⟨(key, second), by simp only [asItem, parts, isKey]⟩

theorem isItem_of_asItem {element : PyValue} {position : Nat} {item : PyKey × PyValue}
    (converted : asItem position element = .ok item) : IsItem element := by
  unfold asItem at converted
  split at converted
  · cases converted
  · rename_i first second parts
    split at converted
    · cases converted
    · rename_i key isKey
      exact ⟨first, second, parts, by rw [isKey]; rfl⟩
  · cases converted

theorem updateSequence_ok_iff (items : List (PyKey × PyValue)) (position : Nat)
    (elements : List PyValue) :
    (updateSequence items position elements).2 = none ↔ ∀ element ∈ elements, IsItem element := by
  induction elements generalizing items position with
  | nil => simp [updateSequence]
  | cons element rest ih =>
      rw [List.forall_mem_cons]
      unfold updateSequence
      split
      · rename_i message refused
        constructor
        · intro impossible
          cases impossible
        · intro accepted
          obtain ⟨item, converted⟩ := asItem_of_isItem accepted.1 position
          rw [converted] at refused
          cases refused
      · rename_i item converted
        rw [ih]
        constructor
        · intro later
          exact ⟨isItem_of_asItem converted, later⟩
        · intro accepted
          exact accepted.2

/-- `dict.update` raises on nothing else than what it does not accept. -/
theorem updateFrom_ok_iff (items : List (PyKey × PyValue)) (value : PyValue) :
    (updateFrom items value).2 = none ↔ Updatable value := by
  unfold updateFrom
  split
  · rename_i pairs
    constructor
    · intro _
      exact .inl ⟨pairs, rfl⟩
    · intro _
      rfl
  · rename_i notDict
    split
    · rename_i stuck
      constructor
      · intro impossible
        cases impossible
      · intro accepted
        rcases accepted with ⟨pairs, same⟩ | ⟨elements, listed, _⟩
        · exact absurd same (notDict pairs)
        · rw [stuck] at listed
          cases listed
    · rename_i elements listed
      rw [updateSequence_ok_iff]
      constructor
      · intro accepted
        exact .inr ⟨elements, listed, accepted⟩
      · intro accepted
        rcases accepted with ⟨pairs, same⟩ | ⟨others, otherwise, each⟩
        · exact absurd same (notDict pairs)
        · rw [listed] at otherwise
          cases otherwise
          exact each

end Python

namespace AgenticRuntime

open Python

namespace ExecutionContext

/-- The fields a restore writes are those of the context before it. -/
structure Unchanged (before after : ExecutionContext) : Prop where
  variableMap : after.variableMap = before.variableMap
  workflowId : after.workflowId = before.workflowId
  runId : after.runId = before.runId
  completedSteps : after.completedSteps = before.completedSteps
  failedSteps : after.failedSteps = before.failedSteps
  metadata : after.metadata = before.metadata

variable (ctx : ExecutionContext)

theorem Unchanged.refl : Unchanged ctx ctx :=
  ⟨rfl, rfl, rfl, rfl, rfl, rfl⟩

def IsStringList (value : PyValue) : Prop :=
  ∃ names : List String, value = .list (names.map PyValue.str)

structure WellTyped (ctx : ExecutionContext) : Prop where
  variableKeys : ∀ key ∈ ctx.variableMap.keys, validateVariableKey key false = none
  failedSteps : IsStringList ctx.failedSteps

def RestoresAtomically (file : CheckpointFile) : Prop :=
  match ctx.restoreCheckpoint file with
  | (after, some _) => Unchanged ctx after
  | (after, none) => after.WellTyped

/-! ### The checks -/

theorem variableEntries_valid {items : List (PyKey × PyValue)}
    {checked : List (String × PyValue)} (passed : variableEntries items = .ok checked) :
    ∀ item ∈ checked, validateVariableKey item.1 false = none := by
  induction items generalizing checked with
  | nil =>
      cases passed
      intro item member
      cases member
  | cons item rest ih =>
      obtain ⟨key, value⟩ := item
      cases key with
      | str key =>
          unfold variableEntries at passed
          split at passed
          · cases passed
          · rename_i accepted
            cases later : variableEntries rest with
            | error error =>
                rw [later] at passed
                cases passed
            | ok more =>
                rw [later] at passed
                cases passed
                intro item member
                rcases List.mem_cons.mp member with here | there
                · rw [here]
                  exact accepted
                · exact ih later item there
      | none | bool value | int value | float value | other text => cases passed

theorem validateCheckpointVariables_valid {payload : Option PyValue}
    {checked : List (String × PyValue)}
    (passed : validateCheckpointVariables payload = .ok checked) :
    ∀ item ∈ checked, validateVariableKey item.1 false = none := by
  unfold validateCheckpointVariables at passed
  split at passed
  · cases passed
    intro item member
    cases member
  · exact variableEntries_valid passed
  · cases passed

theorem validateCheckpoint_variables {ctx : ExecutionContext} {file : CheckpointFile}
    {checkpoint : ValidatedCheckpoint} (passed : ctx.validateCheckpoint file = .ok checkpoint) :
    ∀ item ∈ checkpoint.variableMap, validateVariableKey item.1 false = none := by
  cases file with
  | missing path | undecodable => cases passed
  | document json =>
      simp only [validateCheckpoint] at passed
      split at passed
      · rename_i data loaded
        cases checked : validateCheckpointVariables (Items.get? data (.str "variables")) with
        | error error =>
            simp only [checked, bind, Except.bind] at passed
            cases passed
        | ok variableMap =>
            simp only [checked, bind, Except.bind] at passed
            split at passed
            · cases passed
            · split at passed
              · cases passed
              · split at passed
                · cases passed
                · cases passed
                  exact validateCheckpointVariables_valid checked
      · cases passed

theorem ofItems_keys_valid {pairs : List (String × PyValue)}
    (each : ∀ item ∈ pairs, validateVariableKey item.1 false = none) :
    ∀ key ∈ (Dict.ofItems pairs).keys, validateVariableKey key false = none := by
  intro key member
  rcases Items.mem_keys_update.mp member with earlier | given
  · cases earlier
  · obtain ⟨item, itemMember, same⟩ := List.mem_map.mp given
    rw [← same]
    exact each item itemMember

/-! ### Exactly when a restore is atomic -/

/-- The assignments of a checkpoint whose metadata cannot be merged would write
what the context already holds. -/
structure WritesNothingNew (ctx : ExecutionContext) (checkpoint : ValidatedCheckpoint) : Prop where
  variableMap : Dict.ofItems checkpoint.variableMap = ctx.variableMap
  workflowId : checkpoint.workflowId = ctx.workflowId
  runId : checkpoint.runId = ctx.runId
  completedSteps : checkpoint.completedSteps = ctx.completedSteps
  failedSteps : checkpoint.failedSteps = ctx.failedSteps
  metadata : (updateFrom ctx.metadata checkpoint.metadata).1 = ctx.metadata

/-- Rejected by a check, or with a usable `failed_steps` and `metadata`, or with
an unusable `metadata` beside what the context already holds. -/
def Harmless (file : CheckpointFile) : Prop :=
  match ctx.validateCheckpoint file with
  | .error _ => True
  | .ok checkpoint =>
      (Updatable checkpoint.metadata ∧ IsStringList checkpoint.failedSteps) ∨
        (¬ Updatable checkpoint.metadata ∧ WritesNothingNew ctx checkpoint)

theorem applyCheckpoint_error_iff (checkpoint : ValidatedCheckpoint) :
    (ctx.applyCheckpoint checkpoint).2 = none ↔ Updatable checkpoint.metadata := by
  rw [← updateFrom_ok_iff ctx.metadata]
  exact Option.map_eq_none_iff

theorem unchanged_applyCheckpoint_iff (checkpoint : ValidatedCheckpoint) :
    Unchanged ctx (ctx.applyCheckpoint checkpoint).1 ↔ WritesNothingNew ctx checkpoint := by
  constructor
  · intro unchanged
    exact ⟨unchanged.variableMap, unchanged.workflowId, unchanged.runId, unchanged.completedSteps,
      unchanged.failedSteps, unchanged.metadata⟩
  · intro nothing
    exact ⟨nothing.variableMap, nothing.workflowId, nothing.runId, nothing.completedSteps,
      nothing.failedSteps, nothing.metadata⟩

/-- A restore changes nothing or leaves a well-typed context exactly when the
checkpoint is harmless. -/
theorem restoresAtomically_iff (ctx : ExecutionContext) (file : CheckpointFile) :
    RestoresAtomically ctx file ↔ Harmless ctx file := by
  unfold RestoresAtomically Harmless restoreCheckpoint
  cases checked : ctx.validateCheckpoint file with
  | error error => exact iff_of_true (Unchanged.refl ctx) trivial
  | ok checkpoint =>
      dsimp only
      have validKeys : ∀ key ∈ (ctx.applyCheckpoint checkpoint).1.variableMap.keys,
          validateVariableKey key false = none :=
        ofItems_keys_valid (validateCheckpoint_variables checked)
      by_cases updatable : Updatable checkpoint.metadata
      · have succeeds := (applyCheckpoint_error_iff ctx checkpoint).mpr updatable
        have shape : ctx.applyCheckpoint checkpoint = ((ctx.applyCheckpoint checkpoint).1, none) :=
          Prod.ext rfl succeeds
        rw [shape]
        constructor
        · intro typed
          exact .inl ⟨updatable, typed.failedSteps⟩
        · intro harmless
          rcases harmless with ⟨_, strings⟩ | ⟨stuck, _⟩
          · exact ⟨validKeys, strings⟩
          · exact absurd updatable stuck
      · have raises : ∃ error, (ctx.applyCheckpoint checkpoint).2 = some error := by
          apply Option.ne_none_iff_exists'.mp
          intro succeeds
          exact updatable ((applyCheckpoint_error_iff ctx checkpoint).mp succeeds)
        obtain ⟨error, raised⟩ := raises
        have shape : ctx.applyCheckpoint checkpoint =
            ((ctx.applyCheckpoint checkpoint).1, some error) := Prod.ext rfl raised
        rw [shape]
        constructor
        · intro unchanged
          exact .inr ⟨updatable, (unchanged_applyCheckpoint_iff ctx checkpoint).mp unchanged⟩
        · intro harmless
          rcases harmless with ⟨usable, _⟩ | ⟨_, nothing⟩
          · exact absurd usable updatable
          · exact (unchanged_applyCheckpoint_iff ctx checkpoint).mpr nothing

def numberMetadata : CheckpointFile :=
  .document (.object
    [("variables", .object [("quota", .int 1)]), ("completed_steps", .array [.str "approve"]),
      ("metadata", .int 0)])

/-- The restore raises and the context keeps the variable and the completed step
it was given. -/
theorem restore_raises_after_writing :
    ¬ RestoresAtomically { workflowId := "w", runId := "r" } numberMetadata := by
  intro atomic
  have unchanged : Unchanged { workflowId := "w", runId := "r" }
      (restoreCheckpoint { workflowId := "w", runId := "r" } numberMetadata).1 := atomic
  have completed : ["approve"] = ([] : List String) := unchanged.completedSteps
  cases completed

end ExecutionContext

end AgenticRuntime
