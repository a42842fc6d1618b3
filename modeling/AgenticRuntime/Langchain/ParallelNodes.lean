/-
Nodes that run in one superstep: each reads the same state, and their updates are
folded in some order.

A node returns every step entry and every context key that it read, beside its own
change.  An update survives every order just when no other node carries an older
value of what it changed.
-/

import AgenticRuntime.Langchain.GraphWiring

namespace AgenticRuntime

open List

namespace Langchain

open Python

/-! ### What a node returns -/

def mappedValue (step : StepConfig) (stepOutputs : Dict Data) (key : String) : Option Data :=
  (step.outputs.items.filterMap fun output =>
    if output.2 = key then stepOutputs.get? output.1 else none).getLast?

theorem get?_mapStepOutputsToContext (step : StepConfig) (stepOutputs context : Dict Data)
    (key : String) : (mapStepOutputsToContext step stepOutputs context).get? key =
      (mappedValue step stepOutputs key).or (context.get? key) := by
  unfold mapStepOutputsToContext mappedValue
  generalize step.outputs.items = outputs
  induction outputs generalizing context with
  | nil => rfl
  | cons output rest ih =>
      rw [foldl_cons, ih, filterMap_cons]
      cases given : stepOutputs.get? output.1 with
      | none =>
          rw [ite_self]
      | some value =>
          by_cases same : output.2 = key
          · rw [if_pos same, List.getLast?_cons, context.get?_insert, if_pos same]
            cases (rest.filterMap fun output =>
              if output.2 = key then stepOutputs.get? output.1 else none).getLast? with
            | none => rfl
            | some later => rfl
          · rw [if_neg same, context.get?_insert, if_neg same]

theorem mapStepOutputsToContext_empty (step : StepConfig) (context : Dict Data) :
    mapStepOutputsToContext step .empty context = context := by
  unfold mapStepOutputsToContext
  generalize step.outputs.items = outputs
  induction outputs with
  | nil => rfl
  | cons output rest ih => exact ih

theorem addOne_ne {value next : Data} (added : addOne value = some next) : value ≠ next := by
  intro same
  subst same
  cases value with
  | bool value => cases value <;> cases Option.some.inj added
  | int value =>
      have equal : value + 1 = value := Data.int.inj (Option.some.inj added)
      omega
  | float value =>
      have equal : value + 1 = value := Data.float.inj (Option.some.inj added)
      exact absurd (add_eq_left.mp equal) (by decide)
  | _ => cases added

section

variable (services : Services) (registry : Tier0Registry) (step : StepConfig)
  (state : WorkflowState)

def skips : Bool :=
  match step.when with
  | none => false
  | some whenExpr =>
      match evaluateCondition services.identical state.fields whenExpr with
      | .ok holds => !holds
      | .error _ => false

def tier0Context (context : Dict Data) : Dict Data :=
  match (registry step.agent).bind fun function => function { state with context := context } with
  | none => context
  | some result =>
      match validateAndNormalizeArtifacts services.validateCodeArtifact result.outputs
          step.outputContracts with
      | .error _ => context
      | .ok _ => result.context

def nodeContext : Dict Data :=
  match resolveInputsIntoContext services step state with
  | .error _ => state.context
  | .ok (context, _) =>
      if parseAgentTier step.agent = 0 then tier0Context services registry step state context
      else context

variable {services registry step state}

def Recorded (step : StepConfig) (state : WorkflowState) (context : Dict Data)
    (update : NodeUpdate) : Prop :=
  ∃ stepOutputs iteration entry, nextIteration state step.name = some iteration ∧
    entry.get? "loop_iteration" = some iteration ∧
    entry.get? "outputs" = some (.dict stepOutputs.items) ∧
    update.steps = some (state.steps.insert step.name entry) ∧
    update.context = some (mapStepOutputsToContext step stepOutputs context)

variable {times : Times} {update : NodeUpdate}

theorem recordStepResult_eq_some {stepName status : String} {outputs inputs metadata : Dict Data}
    {error : Option String} {steps : Dict StepEntry}
    (recorded : recordStepResult state stepName status outputs error inputs metadata times =
      some steps) :
    ∃ iteration entry, nextIteration state stepName = some iteration ∧
      entry.get? "loop_iteration" = some iteration ∧
      entry.get? "outputs" = some (.dict outputs.items) ∧
      steps = state.steps.insert stepName entry := by
  obtain ⟨iteration, counted, same⟩ := Option.bind_eq_some_iff.mp recorded
  have kept : ∀ (payload : StepEntry) (name field : String) (value : Option Data), name ≠ field →
      (setField payload name value).get? field = payload.get? field := by
    intro payload name field value differ
    cases value with
    | none => rfl
    | some written => exact (payload.get?_insert name field written).trans (if_neg differ)
  have inserted : ∀ (payload : StepEntry) (name field : String) (value : Data), name ≠ field →
      (payload.insert name value).get? field = payload.get? field := by
    intro payload name field value differ
    exact (payload.get?_insert name field value).trans (if_neg differ)
  refine ⟨iteration, _, counted, ?_, ?_, (Option.some.inj same).symm⟩
  · unfold stepPayload
    rw [inserted _ _ _ _ (by decide), inserted _ _ _ _ (by decide), inserted _ _ _ _ (by decide),
      kept _ _ _ _ (by decide), kept _ _ _ _ (by decide), inserted _ _ _ _ (by decide)]
    rfl
  · unfold stepPayload
    rw [inserted _ _ _ _ (by decide), inserted _ _ _ _ (by decide), inserted _ _ _ _ (by decide),
      kept _ _ _ _ (by decide), kept _ _ _ _ (by decide), inserted _ _ _ _ (by decide)]
    rfl

theorem recorded_buildFailureUpdate {context inputs metadata : Dict Data} {errText : String}
    (failed : buildFailureUpdate step state context inputs errText metadata times = some update) :
    Recorded step state context update := by
  obtain ⟨steps, recorded, same⟩ := Option.bind_eq_some_iff.mp failed
  obtain ⟨iteration, entry, counted, iterates, outputs, written⟩ :=
    recordStepResult_eq_some recorded
  cases same
  refine ⟨.empty, iteration, entry, counted, iterates, outputs, congrArg some written, ?_⟩
  exact congrArg some (mapStepOutputsToContext_empty step context).symm

theorem recorded_finishNode {context failureContext inputs stepOutputs metadata : Dict Data}
    {messages : Option (List String)}
    (finished : finishNode services step state context failureContext inputs stepOutputs metadata
      messages times = some update) :
    Recorded step state
      (match validateAndNormalizeArtifacts services.validateCodeArtifact stepOutputs
          step.outputContracts with
        | .error _ => failureContext
        | .ok _ => context) update := by
  unfold finishNode at finished
  cases validated : validateAndNormalizeArtifacts services.validateCodeArtifact stepOutputs
      step.outputContracts with
  | error diagnostics =>
      rw [validated] at finished
      exact recorded_buildFailureUpdate finished
  | ok normalized =>
      rw [validated] at finished
      obtain ⟨steps, recorded, same⟩ := Option.bind_eq_some_iff.mp finished
      obtain ⟨iteration, entry, counted, iterates, outputs, written⟩ :=
        recordStepResult_eq_some recorded
      cases same
      exact ⟨normalized, iteration, entry, counted, iterates, outputs, congrArg some written, rfl⟩

theorem recorded_tier0Node (tier0 : parseAgentTier step.agent = 0)
    (returned : tier0Node services step state (registry step.agent) times = some update) :
    Recorded step state (nodeContext services registry step state) update := by
  unfold tier0Node at returned
  unfold nodeContext
  cases resolved : resolveInputsIntoContext services step state with
  | error diagnostics =>
      rw [resolved] at returned
      exact recorded_buildFailureUpdate returned
  | ok pair =>
      obtain ⟨context, inputs⟩ := pair
      rw [resolved] at returned
      simp only [if_pos tier0]
      unfold tier0Context
      cases registered : registry step.agent with
      | none =>
          rw [registered] at returned
          have recorded := recorded_finishNode returned
          rw [Option.bind_none]
          cases validated : validateAndNormalizeArtifacts services.validateCodeArtifact .empty
              step.outputContracts with
          | error diagnostics | ok outputs =>
              rw [validated] at recorded
              exact recorded
      | some function =>
          rw [registered] at returned
          obtain ⟨result, computed, finished⟩ := Option.bind_eq_some_iff.mp returned
          rw [Option.bind_some, computed]
          exact recorded_finishNode finished

theorem recorded_llmNode {outcome : Outcome} (model : parseAgentTier step.agent ≠ 0)
    (returned : llmNode services step state outcome times = some update) :
    Recorded step state (nodeContext services registry step state) update := by
  unfold llmNode at returned
  unfold nodeContext
  cases resolved : resolveInputsIntoContext services step state with
  | error diagnostics =>
      rw [resolved] at returned
      exact recorded_buildFailureUpdate returned
  | ok pair =>
      obtain ⟨context, inputs⟩ := pair
      rw [resolved] at returned
      simp only [if_neg model]
      cases outcome with
      | failed errText metadata => exact recorded_buildFailureUpdate returned
      | answered responseText metadata =>
          have recorded := recorded_finishNode returned
          split at recorded
          · exact recorded
          · exact recorded

theorem runNode_eq_some {outcome : Outcome}
    (returned : runNode services step state registry outcome times = some update) :
    (skips services step state = true ∧ update = skipUpdate step state) ∨
      (skips services step state = false ∧
        Recorded step state (nodeContext services registry step state) update) := by
  have made : ∀ {update}, makeStepNode services step state registry outcome times = some update →
      Recorded step state (nodeContext services registry step state) update := by
    intro update made
    unfold makeStepNode at made
    by_cases tier0 : parseAgentTier step.agent = 0
    · rw [if_pos tier0] at made
      exact recorded_tier0Node tier0 made
    · rw [if_neg tier0] at made
      exact recorded_llmNode tier0 made
  unfold runNode at returned
  unfold skips
  cases condition : step.when with
  | none =>
      rw [condition] at returned
      right
      exact ⟨rfl, made returned⟩
  | some whenExpr =>
      rw [condition] at returned
      change wrapWithSkipCheck services step state whenExpr _ = some update at returned
      unfold wrapWithSkipCheck at returned
      cases holds : evaluateCondition services.identical state.fields whenExpr with
      | error failure =>
          rw [holds] at returned
          cases returned
      | ok value =>
          rw [holds] at returned
          cases value with
          | false =>
              left
              refine ⟨?_, (Option.some.inj returned).symm⟩
              simp only [holds, Bool.not_false]
          | true =>
              right
              refine ⟨?_, made returned⟩
              simp only [holds, Bool.not_true]

variable (services registry step state)

def returnedContext : Dict Data :=
  if skips services step state then state.context else nodeContext services registry step state

end

/-! ### One superstep -/

section

variable (services : Services) (registry : Tier0Registry) (state : WorkflowState)

structure Execution where
  step : StepConfig
  outcome : Outcome
  times : Times
  update : NodeUpdate
  returned : runNode services step state registry outcome times = some update

structure Superstep where
  executions : List (Execution services registry state)
  distinct : (executions.map fun execution => execution.step.name).Nodup

variable {services registry state}

namespace Execution

variable (execution : Execution services registry state)

def stepOutputs : Dict Data :=
  match (execution.update.entry execution.step.name).bind fun entry => entry.get? "outputs" with
  | some (.dict items) => .ofItems items
  | _ => .empty

def written (key : String) : Option Data := mappedValue execution.step execution.stepOutputs key

theorem mappedValue_empty (step : StepConfig) (key : String) : mappedValue step .empty key = none := by
  unfold mappedValue
  rw [List.getLast?_eq_none_iff, filterMap_eq_nil_iff]
  intro output member
  exact ite_self none

theorem exists_entry : ∃ entry, execution.update.entry execution.step.name = some entry ∧
    (∀ name, name ≠ execution.step.name →
      execution.update.entry name = state.steps.get? name) ∧
    ∀ old, state.steps.get? execution.step.name = some old →
      (old = entry ↔ skips services execution.step state = true ∧ old = skippedEntry) := by
  have inserted : ∀ entry, execution.update.steps =
      some (state.steps.insert execution.step.name entry) →
      execution.update.entry execution.step.name = some entry ∧
        ∀ name, name ≠ execution.step.name →
          execution.update.entry name = state.steps.get? name := by
    intro entry steps
    unfold NodeUpdate.entry
    rw [steps]
    constructor
    · exact (state.steps.get?_insert _ _ entry).trans (if_pos rfl)
    · intro name other
      exact (state.steps.get?_insert _ name entry).trans (if_neg other.symm)
  rcases runNode_eq_some execution.returned with ⟨skipped, same⟩ | ⟨runs, recorded⟩
  · obtain ⟨own, others⟩ := inserted skippedEntry (congrArg NodeUpdate.steps same)
    refine ⟨skippedEntry, own, others, ?_⟩
    intro old held
    exact ⟨fun equal => ⟨skipped, equal⟩, And.right⟩
  · obtain ⟨outputs, iteration, entry, counted, iterates, _, steps, _⟩ := recorded
    obtain ⟨own, others⟩ := inserted entry steps
    refine ⟨entry, own, others, ?_⟩
    intro old held
    constructor
    · intro equal
      simp only [nextIteration, held, equal, Option.getD_some, iterates] at counted
      exact absurd rfl (addOne_ne counted)
    · rintro ⟨skipped, _⟩
      rw [runs] at skipped
      cases skipped

theorem contextValue (key : String) : execution.update.contextValue key =
    (execution.written key).or
      ((returnedContext services registry execution.step state).get? key) := by
  unfold returnedContext written stepOutputs NodeUpdate.contextValue
  rcases runNode_eq_some execution.returned with ⟨skipped, same⟩ | ⟨runs, recorded⟩
  · rw [if_pos skipped, same]
    have entry : (skipUpdate execution.step state).entry execution.step.name =
        some skippedEntry := (state.steps.get?_insert _ _ skippedEntry).trans (if_pos rfl)
    rw [entry]
    have empty : mappedValue execution.step (.ofItems []) key = none :=
      mappedValue_empty execution.step key
    change _ = (mappedValue execution.step (.ofItems []) key).or _
    rw [empty, Option.none_or]
    rfl
  · obtain ⟨outputs, iteration, entry, _, _, recorded, steps, context⟩ := recorded
    have own : execution.update.entry execution.step.name = some entry := by
      unfold NodeUpdate.entry
      rw [steps]
      exact (state.steps.get?_insert _ _ entry).trans (if_pos rfl)
    rw [runs, own, Option.bind_some, recorded, context]
    change (mapStepOutputsToContext _ _ _).get? key = (mappedValue _ (.ofItems outputs.items) key).or _
    rw [outputs.ofItems_items, get?_mapStepOutputsToContext]
    rfl

end Execution

namespace Superstep

variable (superstep : Superstep services registry state)

def SoleWriter (execution : Execution services registry state) (key : String) : Prop :=
  ∀ other ∈ superstep.executions, other.step.name ≠ execution.step.name → other.written key = none

/-- Whatever the order in which the updates are folded, the state has every executed step's
entry and what each key's only writer wrote. -/
structure KeepsUpdates : Prop where
  entries : ∀ order : List (Execution services registry state),
    order.Perm superstep.executions → ∀ execution ∈ superstep.executions,
      (state.merged (order.map Execution.update)).steps.get? execution.step.name =
        execution.update.entry execution.step.name
  context : ∀ order : List (Execution services registry state),
    order.Perm superstep.executions → ∀ execution ∈ superstep.executions, ∀ key value,
      execution.written key = some value → superstep.SoleWriter execution key →
        (state.merged (order.map Execution.update)).context.get? key = some value

/-- Beside another one, a step runs only for the first time or skips itself again, and a
key that it alone writes is not carried by another one with a value of its own. -/
structure NothingStale : Prop where
  entries : ∀ execution ∈ superstep.executions, ∀ other ∈ superstep.executions,
    other.step.name ≠ execution.step.name →
      ∀ entry, state.steps.get? execution.step.name = some entry →
        skips services execution.step state = true ∧ entry = skippedEntry
  context : ∀ execution ∈ superstep.executions, ∀ key value,
    execution.written key = some value → superstep.SoleWriter execution key →
      ∀ other ∈ superstep.executions, other.step.name ≠ execution.step.name →
        ∀ carried, (returnedContext services registry other.step state).get? key = some carried →
          carried = value

variable {superstep} {execution : Execution services registry state}

theorem eq_of_name {other : Execution services registry state}
    (member : execution ∈ superstep.executions) (listed : other ∈ superstep.executions)
    (same : other.step.name = execution.step.name) : other = execution :=
  inj_on_of_nodup_map superstep.distinct listed member same

theorem entry_kept_iff (member : execution ∈ superstep.executions) :
    (∀ order : List (Execution services registry state), order.Perm superstep.executions →
      (state.merged (order.map Execution.update)).steps.get? execution.step.name =
        execution.update.entry execution.step.name) ↔
      ∀ other ∈ superstep.executions, other.step.name ≠ execution.step.name →
        ∀ entry, state.steps.get? execution.step.name = some entry →
          skips services execution.step state = true ∧ entry = skippedEntry := by
  obtain ⟨entry, own, _, again⟩ := execution.exists_entry
  have survives := LastWriter.forall_perm_iff state.steps.get?
    (fun writer : Execution services registry state => writer.update.entry)
    ⟨execution, member, own⟩
  have folded : ∀ order : List (Execution services registry state),
      (state.merged (order.map Execution.update)).steps.get? =
        LastWriter.folded state.steps.get? (order.map fun writer => writer.update.entry) := by
    intro order
    rw [steps_merged, map_map]
    rfl
  simp only [folded, own]
  rw [survives]
  constructor
  · intro agree other listed differ old held
    obtain ⟨_, _, others, _⟩ := other.exists_entry
    have carried : other.update.entry execution.step.name = some old :=
      (others _ differ.symm).trans held
    exact (again old held).mp (agree other listed old carried)
  · intro fresh other listed old carried
    by_cases same : other.step.name = execution.step.name
    · rw [eq_of_name member listed same, own] at carried
      exact (Option.some.inj carried).symm
    · obtain ⟨_, _, others, _⟩ := other.exists_entry
      have held : state.steps.get? execution.step.name = some old :=
        (others _ (Ne.symm same)).symm.trans carried
      exact (again old held).mpr (fresh other listed same old held)

theorem context_kept_iff (member : execution ∈ superstep.executions) {key : String} {value : Data}
    (wrote : execution.written key = some value) (sole : superstep.SoleWriter execution key) :
    (∀ order : List (Execution services registry state), order.Perm superstep.executions →
      (state.merged (order.map Execution.update)).context.get? key = some value) ↔
      ∀ other ∈ superstep.executions, other.step.name ≠ execution.step.name →
        ∀ carried, (returnedContext services registry other.step state).get? key = some carried →
          carried = value := by
  have own : execution.update.contextValue key = some value := by
    rw [execution.contextValue, wrote, Option.some_or]
  have survives := LastWriter.forall_perm_iff state.context.get?
    (fun writer : Execution services registry state => writer.update.contextValue)
    ⟨execution, member, own⟩
  have folded : ∀ order : List (Execution services registry state),
      (state.merged (order.map Execution.update)).context.get? =
        LastWriter.folded state.context.get? (order.map fun writer => writer.update.contextValue) := by
    intro order
    rw [context_merged, map_map]
    rfl
  simp only [folded]
  rw [survives]
  constructor
  · intro agree other listed differ carried held
    apply agree other listed
    rw [other.contextValue, sole other listed differ, Option.none_or]
    exact held
  · intro fresh other listed carried held
    by_cases same : other.step.name = execution.step.name
    · rw [eq_of_name member listed same, own] at held
      exact (Option.some.inj held).symm
    · rw [other.contextValue, sole other listed same, Option.none_or] at held
      exact fresh other listed same carried held

/-- A superstep loses no update exactly when nothing stale is carried through it. -/
theorem keeps_updates_iff (superstep : Superstep services registry state) :
    superstep.KeepsUpdates ↔ superstep.NothingStale := by
  constructor
  · intro keeps
    constructor
    case entries =>
      intro execution member
      apply (entry_kept_iff member).mp
      intro order permuted
      exact keeps.entries order permuted execution member
    case context =>
      intro execution member key value wrote sole
      apply (context_kept_iff member wrote sole).mp
      intro order permuted
      exact keeps.context order permuted execution member key value wrote sole
  · intro fresh
    constructor
    case entries =>
      intro order permuted execution member
      exact (entry_kept_iff member).mpr (fresh.entries execution member) order permuted
    case context =>
      intro order permuted execution member key value wrote sole
      exact (context_kept_iff member wrote sole).mpr
        (fresh.context execution member key value wrote sole) order permuted

end Superstep

end

/-! ### A step that runs again beside another one -/

def bareServices : Services where
  validateCodeArtifact := fun _ _ => []
  parseStepOutputs := fun _ _ => .empty
  identical := fun _ _ => false

def bareStep (name : String) : StepConfig where
  name := name
  agent := "writer"

def noTimes : Times := ⟨"", "", 0⟩

/-- The state after the first round of `loop`. -/
def afterRound : WorkflowState where
  steps := .ofItems [("loop", .ofItems [("status", .str "failed"), ("loop_iteration", .int 1)])]

def failingRun (name : String) (state : WorkflowState)
    (returns : (runNode bareServices (bareStep name) state (fun _ => none)
      (.failed "All model attempts failed" .empty) noTimes).isSome = true) :
    Execution bareServices (fun _ => none) state where
  step := bareStep name
  outcome := .failed "All model attempts failed" .empty
  times := noTimes
  update := Option.get _ returns
  returned := (Option.some_get returns).symm

def secondRound : Superstep bareServices (fun _ => none) afterRound where
  executions := [failingRun "loop" afterRound (by decide +kernel),
    failingRun "other" afterRound (by decide +kernel)]
  distinct := by decide

/-- The second round of `loop` is undone by the entry that `other` read. -/
theorem second_round_lost : ¬ secondRound.KeepsUpdates := by
  intro keeps
  have loop : failingRun "loop" afterRound (by decide +kernel) ∈ secondRound.executions :=
    mem_cons_self
  have other : failingRun "other" afterRound (by decide +kernel) ∈ secondRound.executions :=
    mem_cons_of_mem _ mem_cons_self
  have differ : (failingRun "other" afterRound (by decide +kernel)).step.name ≠
      (failingRun "loop" afterRound (by decide +kernel)).step.name := by decide
  have fresh := (Superstep.entry_kept_iff loop).mp fun order permuted =>
    keeps.entries order permuted _ loop
  obtain ⟨skipped, _⟩ := fresh _ other differ _ rfl
  cases skipped

end Langchain

end AgenticRuntime
