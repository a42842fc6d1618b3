/-
The plan an `OrchestratorAgent` holds: how the subtasks of a model response are
registered, validated and assigned, and how an exhausted chain is handed off.

The attributes of a `SubTask` that execution writes (`assigned_agent`, `status`)
are maps of the orchestrator under the subtask's id; constructing a subtask
resets them. A plan that is no JSON object with a list of typed entries raises
before it is registered and is left out.
-/

import Mathlib.Data.List.Sort
import AgenticRuntime.Engine.Dag
import AgenticRuntime.Agents.Capabilities

namespace AgenticRuntime

open List
open Function hiding mt

abbrev AgentName := String

/-- One entry of `plan["subtasks"]`; `none` is a missing key. -/
structure SubTaskData where
  id : Option StepName := none
  description : Option String := none
  capabilities : Option (List String) := none
  dependencies : Option (List StepName) := none
  deriving DecidableEq, Repr

structure SubTask where
  id : StepName
  description : String
  requiredCapabilities : List CapabilityType
  dependencies : List StepName := []
  deriving DecidableEq, Repr

/-- `index` is the number of subtasks counted so far. -/
def SubTaskData.build (data : SubTaskData) (index : Nat) : SubTask :=
  { id := data.id.getD s!"task_{index}"
    description := data.description.getD ""
    requiredCapabilities := (data.capabilities.getD []).filterMap CapabilityType.ofValue
    dependencies := data.dependencies.getD [] }

structure Orchestrator where
  agents : List AgentName := []
  agentCapabilities : List (AgentName × CapabilitySet) := []
  subtasks : List SubTask := []
  assignedAgent : StepName → Option AgentName := fun _ => none
  fallbackChains : StepName → List AgentName := fun _ => []
  status : StepName → StepStatus := fun _ => .pending
  distinct : (subtasks.map SubTask.id).Nodup := by decide

namespace Orchestrator

variable (orchestrator : Orchestrator) (subtasks : List SubTask)

def subtaskIds : List StepName :=
  orchestrator.subtasks.map SubTask.id

/-- `register_agent`, with the capabilities the agent's mixins declare. -/
def registerAgent (name : AgentName) (set : CapabilitySet) :
    Orchestrator :=
  { orchestrator with
    agents :=
      if name ∈ orchestrator.agents then orchestrator.agents else orchestrator.agents ++ [name]
    agentCapabilities :=
      if name ∈ orchestrator.agentCapabilities.map Prod.fst then
        orchestrator.agentCapabilities.map fun entry => if entry.1 = name then (name, set) else entry
      else orchestrator.agentCapabilities ++ [(name, set)] }

/-! ### Registering a plan -/

variable (subtask : SubTask)

def placed : List SubTask :=
  if subtask.id ∈ subtasks.map SubTask.id then
    subtasks.map fun old => if old.id = subtask.id then subtask else old
  else subtasks ++ [subtask]

theorem placed_ids :
    (placed subtasks subtask).map SubTask.id =
      if subtask.id ∈ subtasks.map SubTask.id then subtasks.map SubTask.id
      else subtasks.map SubTask.id ++ [subtask.id] := by
  unfold placed
  split
  · rw [map_map]
    apply map_congr_left
    intro old _
    simp only [comp_apply]
    split
    · rename_i same
      exact same.symm
    · rfl
  · rw [map_append, map_singleton]

theorem placed_distinct {subtasks : List SubTask} (distinct : (subtasks.map SubTask.id).Nodup)
    (subtask : SubTask) : ((placed subtasks subtask).map SubTask.id).Nodup := by
  rw [placed_ids]
  split
  · exact distinct
  · rename_i fresh
    rw [nodup_append]
    refine ⟨distinct, nodup_singleton _, ?_⟩
    intro earlier member added last same
    rw [mem_singleton] at last
    exact fresh (last ▸ same ▸ member)

/-- `self._subtasks[subtask.id] = subtask` for a subtask just constructed. -/
def install : Orchestrator :=
  { orchestrator with
    subtasks := placed orchestrator.subtasks subtask
    assignedAgent := update orchestrator.assignedAgent subtask.id none
    status := update orchestrator.status subtask.id .pending
    distinct := placed_distinct orchestrator.distinct subtask }

/-- The loop of `_parse_output`: `index` is the length of its `subtasks` list. -/
def installPlan : Orchestrator → Nat → List SubTaskData → Orchestrator
  | orchestrator, _, [] => orchestrator
  | orchestrator, index, data :: rest =>
      installPlan (orchestrator.install (data.build index)) (index + 1) rest

/-- The subtasks `_parse_output` constructs, in plan order and with repeated ids. -/
def planned : Nat → List SubTaskData → List SubTask
  | _, [] => []
  | index, data :: rest => data.build index :: planned (index + 1) rest

/-- The loop of `_register_subtasks`, which numbers by `len(self._subtasks)`. -/
def installEach : Orchestrator → List SubTaskData → Orchestrator
  | orchestrator, [] => orchestrator
  | orchestrator, data :: rest =>
      installEach (orchestrator.install (data.build orchestrator.subtasks.length)) rest

/-- `_register_subtasks` starts from an empty plan. -/
def cleared : Orchestrator :=
  { orchestrator with subtasks := [], fallbackChains := fun _ => [], distinct := nodup_nil }

def registerSubtasks (plan : List SubTaskData) : Orchestrator :=
  orchestrator.cleared.installEach plan

/-! ### Validation -/

def planStep : StepDefinition :=
  { name := subtask.id, dependsOn := subtask.dependencies }

def planDag : Except String DAG :=
  subtasks.foldlM (fun dag subtask => dag.add (planStep subtask)) (DAG.empty "orchestrator-plan")

/-- Why `_validate_plan` raises: `DAG.add` refuses a step, or the DAG is invalid. -/
inductive PlanError where
  | duplicate (message : String)
  | invalid (error : DAGError)
  deriving DecidableEq, Repr

def PlanError.message : PlanError → String
  | .duplicate message => message
  | .invalid error => error.message

def validatePlan : Except PlanError Unit :=
  if orchestrator.subtasks = [] then .ok ()
  else
    match planDag orchestrator.subtasks with
    | .error message => .error (.duplicate message)
    | .ok dag =>
        match dag.validate with
        | .error error => .error (.invalid error)
        | .ok _ => .ok ()

/-! ### Assignment -/

def required : CapabilitySet :=
  CapabilitySet.fromTypes subtask.requiredCapabilities

/-- The agents that score above zero, best first; equal scores keep their order. -/
def ranked : List AgentName :=
  (((orchestrator.agentCapabilities.map fun entry =>
      (entry.1, entry.2.scoreMatch (required subtask))).filter fun entry => 0 < entry.2).insertionSort
    fun left right => right.2 ≤ left.2).map Prod.fst

def assignAgent : Orchestrator :=
  match orchestrator.ranked subtask with
  | [] => orchestrator
  | best :: fallbacks =>
      { orchestrator with
        assignedAgent := update orchestrator.assignedAgent subtask.id (some best)
        fallbackChains := update orchestrator.fallbackChains subtask.id fallbacks }

def assignAgents : Orchestrator :=
  orchestrator.subtasks.foldl assignAgent orchestrator

/-- What `_assign_agents` returns. -/
def assignments (id : StepName) : Option AgentName :=
  match orchestrator.subtasks.find? fun subtask => subtask.id = id with
  | none => none
  | some subtask => (orchestrator.ranked subtask).head?

/-- The agents `_execute_subtask_with_fallback` runs: unregistered names are passed over. -/
def candidates (id : StepName) : List AgentName :=
  ((orchestrator.assignedAgent id).toList ++ orchestrator.fallbackChains id).filter
    fun agent => agent ∈ orchestrator.agents

/-! ### What validation accepts -/

def dependsOn (id : StepName) : List StepName :=
  dependenciesOf (orchestrator.subtasks.map planStep) id

/-- Every declared dependency is a subtask of the plan and none needs itself. -/
structure WellFormed (orchestrator : Orchestrator) : Prop where
  closed : ∀ subtask ∈ orchestrator.subtasks, ∀ dep ∈ subtask.dependencies,
    dep ∈ orchestrator.subtaskIds
  acyclic : DependencyRule.Acyclic orchestrator.dependsOn

private theorem planStep_names :
    (subtasks.map planStep).map StepDefinition.name = subtasks.map SubTask.id := by
  rw [map_map]
  rfl

private theorem addEach (dag : DAG) (distinct : (subtasks.map SubTask.id).Nodup)
    (fresh : ∀ subtask ∈ subtasks, subtask.id ∉ dag.stepNames) :
    ∃ whole, subtasks.foldlM (fun dag subtask => dag.add (planStep subtask)) dag = .ok whole ∧
      whole.steps = dag.steps ++ subtasks.map planStep := by
  induction subtasks generalizing dag with
  | nil => exact ⟨dag, rfl, by rw [map_nil, append_nil]⟩
  | cons subtask rest ih =>
      rw [map_cons, nodup_cons] at distinct
      have absent : (planStep subtask).name ∉ dag.stepNames := fresh subtask mem_cons_self
      have added : ∃ next, dag.add (planStep subtask) = .ok next ∧
          next.steps = dag.steps ++ [planStep subtask] := by
        unfold DAG.add
        rw [dif_neg absent]
        exact ⟨_, rfl, rfl⟩
      obtain ⟨next, taken, grown⟩ := added
      have restFresh : ∀ later ∈ rest, later.id ∉ next.stepNames := by
        intro later member known
        unfold DAG.stepNames at known
        rw [grown, map_append, mem_append] at known
        rcases known with early | last
        · exact fresh later (mem_cons_of_mem _ member) early
        · have same : later.id = subtask.id := mem_singleton.mp last
          exact distinct.1 (same ▸ mem_map_of_mem member)
      obtain ⟨whole, folded, steps⟩ := ih next distinct.2 restFresh
      refine ⟨whole, ?_, ?_⟩
      · rw [foldlM_cons, taken]
        exact folded
      · rw [steps, grown, append_assoc]
        rfl

theorem planDag_ok {subtasks : List SubTask} (distinct : (subtasks.map SubTask.id).Nodup) :
    ∃ dag, planDag subtasks = .ok dag ∧ dag.steps = subtasks.map planStep := by
  obtain ⟨dag, folded, steps⟩ :=
    addEach subtasks (DAG.empty "orchestrator-plan") distinct fun _ _ known => nomatch known
  exact ⟨dag, folded, steps⟩

theorem dependsOn_of_mem {orchestrator : Orchestrator} {subtask : SubTask}
    (member : subtask ∈ orchestrator.subtasks) :
    orchestrator.dependsOn subtask.id = subtask.dependencies := by
  obtain ⟨dag, _, steps⟩ := planDag_ok orchestrator.distinct
  have listed : planStep subtask ∈ dag.steps := by
    rw [steps]
    exact mem_map_of_mem member
  have read := dag.dependsOn_of_mem listed
  rw [DAG.dependsOn, steps] at read
  exact read

theorem mem_subtaskIds {orchestrator : Orchestrator} {id : StepName} :
    id ∈ orchestrator.subtaskIds ↔ ∃ subtask ∈ orchestrator.subtasks, subtask.id = id :=
  mem_map

theorem subtaskIds_length :
    orchestrator.subtaskIds.length = orchestrator.subtasks.length :=
  length_map _

theorem id_mem {orchestrator : Orchestrator} {subtask : SubTask}
    (member : subtask ∈ orchestrator.subtasks) : subtask.id ∈ orchestrator.subtaskIds :=
  mem_map_of_mem member

theorem eq_of_id {orchestrator : Orchestrator} {left right : SubTask}
    (leftMember : left ∈ orchestrator.subtasks) (rightMember : right ∈ orchestrator.subtasks)
    (same : left.id = right.id) : left = right :=
  inj_on_of_nodup_map orchestrator.distinct leftMember rightMember same

theorem validatePlan_ok_iff :
    orchestrator.validatePlan = .ok () ↔ orchestrator.WellFormed := by
  obtain ⟨dag, folded, steps⟩ := planDag_ok orchestrator.distinct
  have names : dag.stepNames = orchestrator.subtaskIds := by
    rw [DAG.stepNames, steps, planStep_names]
    rfl
  have dependencies : dag.dependsOn = orchestrator.dependsOn := by
    funext id
    rw [DAG.dependsOn, steps]
    rfl
  by_cases empty : orchestrator.subtasks = []
  · constructor
    · intro _
      refine ⟨?_, ⟨?_⟩⟩
      · intro subtask member
        rw [empty] at member
        cases member
      · intro id
        refine ⟨id, ?_⟩
        intro dep edge
        rw [dependsOn, empty] at edge
        cases edge
    · intro _
      rw [validatePlan, if_pos empty]
  · have nonempty : dag.steps ≠ [] := by
      rw [steps]
      exact mt map_eq_nil_iff.mp empty
    have accepted : orchestrator.validatePlan = .ok () ↔ dag.validate = .ok () := by
      rw [validatePlan, if_neg empty, folded]
      cases validated : dag.validate with
      | error error => simp only [validated, reduceCtorEq]
      | ok _ => simp only [validated]
    rw [accepted, DAG.validate_ok_iff, dependencies]
    constructor
    · intro valid
      refine ⟨?_, valid.2.2⟩
      intro subtask member dep edge
      rw [← names]
      apply valid.2.1 subtask.id dep
      rw [dependencies, dependsOn_of_mem member]
      exact edge
    · intro wellFormed
      refine ⟨nonempty, ?_, wellFormed.acyclic⟩
      intro name dep edge
      have present := dag.mem_stepNames_of_dependsOn edge
      rw [names, mem_subtaskIds] at present
      obtain ⟨subtask, member, same⟩ := present
      rw [dependencies, ← same, dependsOn_of_mem member] at edge
      rw [names]
      exact wellFormed.closed subtask member dep edge

end Orchestrator

def StepStatus.Blocking (status : StepStatus) : Prop := status = .failed ∨ status = .skipped

instance (status : StepStatus) : Decidable status.Blocking :=
  inferInstanceAs (Decidable (status = .failed ∨ status = .skipped))

def Orchestrator.unfinishedSubtasks (orchestrator : Orchestrator) : List StepName :=
  orchestrator.subtaskIds.filter fun id => (orchestrator.status id).Blocking

/-! ### Escalation -/

inductive FailureType where
  | allAgentsExhausted
  | noAgentAvailable
  deriving DecidableEq, Repr

structure HandoffSummary where
  subtaskId : StepName
  failureType : FailureType
  attemptedAgents : List AgentName
  partialResults : List (AgentName × String)
  suggestedNextAction : String
  deriving DecidableEq, Repr

def truncate (text : String) : String :=
  if 500 < text.length then String.ofList (text.toList.take 500) ++ "...[truncated]" else text

/-- `HandoffSummary.from_exhausted_chain` -/
def HandoffSummary.fromExhaustedChain (subtask : StepName) (attempted : List (AgentName × String)) :
    HandoffSummary :=
  let names := attempted.map Prod.fst
  let listed := ", ".intercalate names
  { subtaskId := subtask
    failureType := if names = [] then .noAgentAvailable else .allAgentsExhausted
    attemptedAgents := names
    partialResults := attempted.map fun entry => (entry.1, truncate entry.2)
    suggestedNextAction :=
      if names = [] then
        s!"No agent was available for subtask '{subtask}'. Register a " ++
          "capable agent or revise the required capabilities."
      else
        s!"All {names.length} candidate agent(s) ({listed}) failed subtask " ++
          s!"'{subtask}'. Review the partial results, then either retry " ++
          "with adjusted inputs, assign a higher-tier agent, or complete " ++
          "the subtask manually." }

end AgenticRuntime
