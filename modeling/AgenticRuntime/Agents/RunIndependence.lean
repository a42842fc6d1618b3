/-
Tasks run one after another on one `OrchestratorAgent`, each compared with the
same plan on an orchestrator that has run nothing yet.

`run_adaptive` clears the earlier plan; `_parse_output` adds to it.
-/

import AgenticRuntime.Agents.PlanRefinement
import AgenticRuntime.Agents.OrchestratorRun

namespace AgenticRuntime

open List Function OrchestratorOutput

structure Crew where
  agents : List AgentName
  agentCapabilities : List (AgentName × CapabilitySet)
  known : ∀ entry ∈ agentCapabilities, entry.1 ∈ agents

/-- A task with the plan the model returns for it, what the agents do with the
subtasks and in which order they answer. -/
structure Task where
  adaptive : Bool := false
  plan : List SubTaskData
  maxParallel : Nat := 3
  positive : 1 ≤ maxParallel := by decide
  behaviour : Behaviour
  schedule : List PlanEvent

namespace Orchestrator

def recruit (crew : Crew) : Orchestrator :=
  { agents := crew.agents, agentCapabilities := crew.agentCapabilities, subtasks := []
    distinct := nodup_nil }

def handle (orchestrator : Orchestrator) (task : Task) :
    Option (Orchestrator × OrchestratorOutput) :=
  if task.adaptive then
    orchestrator.runAdaptive task.maxParallel task.behaviour task.schedule task.plan
  else orchestrator.parseOutput task.maxParallel task.behaviour task.schedule task.plan

def nextTask (orchestrator : Orchestrator) (task : Task) : Option Orchestrator :=
  (orchestrator.handle task).map Prod.fst

end Orchestrator

namespace OrchestratorOutput

def Ran (output : OrchestratorOutput) (id : StepName) : Prop :=
  ∃ run, output.execution = some run ∧ id ∈ run.started

def Skips (output : OrchestratorOutput) (id : StepName) : Prop :=
  ∃ run, output.execution = some run ∧ id ∈ run.executed ∧ run.status id = .skipped

section

variable {output : OrchestratorOutput} {orchestrator : Orchestrator} {behaviour : Behaviour}
  {maxParallel : Nat} {run : PlanRun} {id : StepName}

theorem ran_iff (ends : run.Standing orchestrator maxParallel behaviour)
    (atEnd : run.finished = true) (execution : output.execution = some run) :
    output.Ran id ↔ id ∈ orchestrator.subtaskIds ∧ run.status id ≠ .skipped := by
  rw [← ends.executed_iff atEnd, ← ends.started_iff atEnd]
  constructor
  · intro ran
    obtain ⟨same, known, started⟩ := ran
    rw [execution] at known
    cases known
    exact started
  · intro started
    exact ⟨run, execution, started⟩

theorem skips_iff (ends : run.Standing orchestrator maxParallel behaviour)
    (atEnd : run.finished = true) (execution : output.execution = some run) :
    output.Skips id ↔ id ∈ orchestrator.subtaskIds ∧ run.status id = .skipped := by
  rw [← ends.executed_iff atEnd]
  constructor
  · intro skips
    obtain ⟨same, known, skipped⟩ := skips
    rw [execution] at known
    cases known
    exact skipped
  · intro skipped
    exact ⟨run, execution, skipped⟩

end

/-- Two runs with the same assignments, executed subtasks, skips, unfinished list
and success flag. -/
structure Agrees (left right : OrchestratorOutput) : Prop where
  assignments : left.agentAssignments = right.agentAssignments
  ran : ∀ id, left.Ran id ↔ right.Ran id
  skips : ∀ id, left.Skips id ↔ right.Skips id
  unfinished : left.unfinished = right.unfinished
  success : left.success = right.success

end OrchestratorOutput

namespace Orchestrator

/-! ### Subtasks by id -/

def lookup (orchestrator : Orchestrator) (id : StepName) : Option SubTask :=
  orchestrator.subtasks.find? fun subtask => subtask.id = id

theorem find_placed (subtasks : List SubTask) (subtask : SubTask) (id : StepName) :
    (placed subtasks subtask).find? (fun other => other.id = id) =
      if subtask.id = id then some subtask else subtasks.find? fun other => other.id = id := by
  have replaced : ∀ subtasks : List SubTask, subtask.id ∈ subtasks.map SubTask.id →
      (subtasks.map fun old => if old.id = subtask.id then subtask else old).find?
          (fun other => other.id = id) =
        if subtask.id = id then some subtask else subtasks.find? fun other => other.id = id := by
    intro subtasks known
    induction subtasks with
    | nil => cases known
    | cons head rest ih =>
        rw [map_cons, List.find?_cons, List.find?_cons]
        by_cases here : head.id = subtask.id
        · rw [if_pos here]
          by_cases same : subtask.id = id
          · simp [same]
          · have tail : (rest.map fun old => if old.id = subtask.id then subtask else old).find?
                (fun other => other.id = id) = rest.find? fun other => other.id = id := by
              by_cases later : subtask.id ∈ rest.map SubTask.id
              · rw [ih later, if_neg same]
              · have unchanged : (rest.map fun old =>
                    if old.id = subtask.id then subtask else old) = rest.map fun old => old := by
                  apply map_congr_left
                  intro old member
                  exact if_neg fun equal => later (mem_map.mpr ⟨old, member, equal⟩)
                rw [unchanged, map_id']
            simp [here, same, tail]
        · rw [if_neg here]
          rw [map_cons, List.mem_cons] at known
          have later := known.resolve_left (Ne.symm here)
          by_cases found : head.id = id
          · have apart : subtask.id ≠ id := fun same => here (found.trans same.symm)
            simp [found, apart]
          · simp [found, ih later]
  unfold placed
  split
  · rename_i known
    exact replaced subtasks known
  · rename_i unknown
    rw [List.find?_append]
    by_cases same : subtask.id = id
    · have absent : subtasks.find? (fun other => other.id = id) = none := by
        rw [List.find?_eq_none]
        intro other member equal
        have named : other.id = id := of_decide_eq_true equal
        exact unknown (mem_map.mpr ⟨other, member, named.trans same.symm⟩)
      simp [same, absent]
    · simp [same]

theorem lookup_install (orchestrator : Orchestrator) (subtask : SubTask) (id : StepName) :
    (orchestrator.install subtask).lookup id =
      if subtask.id = id then some subtask else orchestrator.lookup id :=
  find_placed orchestrator.subtasks subtask id

variable {left right orchestrator : Orchestrator} {plan : List SubTaskData} {maxParallel : Nat}
  {behaviour : Behaviour} {schedule : List PlanEvent}

theorem subtasks_ext (ids : left.subtaskIds = right.subtaskIds)
    (lookups : ∀ id ∈ left.subtaskIds, left.lookup id = right.lookup id) :
    left.subtasks = right.subtasks := by
  have each : ∀ first second : List SubTask, (first.map SubTask.id).Nodup →
      first.map SubTask.id = second.map SubTask.id →
      (∀ id ∈ first.map SubTask.id, first.find? (fun other => other.id = id) =
        second.find? fun other => other.id = id) → first = second := by
    intro first
    induction first with
    | nil =>
        intro second _ same _
        exact (map_eq_nil_iff.mp same.symm).symm
    | cons head rest ih =>
        intro second distinct same found
        cases second with
        | nil => cases same
        | cons other later =>
            rw [map_cons, map_cons, List.cons.injEq] at same
            rw [map_cons, nodup_cons] at distinct
            have equal : head = other := by
              simpa [same.1] using found head.id mem_cons_self
            rw [equal, ih later distinct.2 same.2]
            intro id member
            have differs : head.id ≠ id := fun same => distinct.1 (same ▸ member)
            have tails := found id (mem_cons_of_mem _ member)
            rw [List.find?_cons_of_neg (by simp [differs]),
              List.find?_cons_of_neg (by simp [← same.1, differs])] at tails
            exact tails
  exact each left.subtasks right.subtasks left.distinct ids lookups

/-! ### What registering leaves of an earlier plan -/

theorem install_ids (orchestrator : Orchestrator) (subtask : SubTask) (id : StepName) :
    id ∈ (orchestrator.install subtask).subtaskIds ↔
      id ∈ orchestrator.subtaskIds ∨ id = subtask.id := by
  change id ∈ (placed orchestrator.subtasks subtask).map SubTask.id ↔
    id ∈ orchestrator.subtasks.map SubTask.id ∨ id = subtask.id
  rw [placed_ids]
  split
  · rename_i known
    constructor
    · exact Or.inl
    · intro member
      rcases member with early | same
      · exact early
      · rw [same]
        exact known
  · rw [mem_append, mem_singleton]

theorem installPlan_ids (orchestrator : Orchestrator) (index : Nat) (plan : List SubTaskData)
    (id : StepName) : id ∈ (orchestrator.installPlan index plan).subtaskIds ↔
      id ∈ orchestrator.subtaskIds ∨ id ∈ (planned index plan).map SubTask.id := by
  induction plan generalizing orchestrator index with
  | nil =>
      constructor
      · exact Or.inl
      · intro member
        exact member.resolve_right not_mem_nil
  | cons data rest ih =>
      change id ∈ (installPlan (orchestrator.install (data.build index)) (index + 1)
        rest).subtaskIds ↔ _
      rw [ih, install_ids, planned, map_cons, List.mem_cons, or_assoc]

theorem installPlan_lookup {index : Nat} {id : StepName}
    (settled : id ∈ (planned index plan).map SubTask.id ∨ left.lookup id = right.lookup id) :
    (left.installPlan index plan).lookup id = (right.installPlan index plan).lookup id := by
  induction plan generalizing left right index with
  | nil => exact settled.resolve_left not_mem_nil
  | cons data rest ih =>
      apply ih
      rw [planned, map_cons, List.mem_cons] at settled
      rw [lookup_install, lookup_install]
      rcases settled with (here | later) | same
      · rw [if_pos here.symm, if_pos here.symm]
        exact .inr rfl
      · exact .inl later
      · rw [same]
        exact .inr rfl

/-- Constructing a subtask resets what execution wrote under its id. -/
structure Untouched (orchestrator : Orchestrator) (id : StepName) : Prop where
  assigned : orchestrator.assignedAgent id = none
  status : orchestrator.status id = .pending

theorem install_untouched {subtask : SubTask} {id : StepName}
    (reset : id = subtask.id ∨ orchestrator.Untouched id) :
    (orchestrator.install subtask).Untouched id := by
  by_cases same : id = subtask.id
  · subst same
    exact ⟨update_self .., update_self ..⟩
  · have before := reset.resolve_left same
    exact ⟨(update_of_ne same _ _).trans before.assigned,
      (update_of_ne same _ _).trans before.status⟩

theorem installPlan_untouched {index : Nat} {id : StepName}
    (reset : id ∈ (planned index plan).map SubTask.id ∨ orchestrator.Untouched id) :
    (orchestrator.installPlan index plan).Untouched id := by
  induction plan generalizing orchestrator index with
  | nil => exact reset.resolve_left not_mem_nil
  | cons data rest ih =>
      apply ih
      rw [planned, map_cons, List.mem_cons] at reset
      rcases reset with (here | later) | before
      · exact .inr (install_untouched (.inl here))
      · exact .inl later
      · exact .inr (install_untouched (.inr before))

/-! ### The same plan twice -/

/-- Two orchestrators about to carry out one plan, with nothing left on it. -/
structure SamePlan (left right : Orchestrator) : Prop where
  agents : left.agents = right.agents
  capabilities : left.agentCapabilities = right.agentCapabilities
  subtasks : left.subtasks = right.subtasks
  leftClear : ∀ id ∈ left.subtaskIds, left.Untouched id
  rightClear : ∀ id ∈ left.subtaskIds, right.Untouched id
  leftChains : ∀ subtask ∈ left.subtasks, left.ranked subtask = [] →
    left.fallbackChains subtask.id = []
  rightChains : ∀ subtask ∈ left.subtasks, left.ranked subtask = [] →
    right.fallbackChains subtask.id = []

theorem ranked_congr (capabilities : left.agentCapabilities = right.agentCapabilities)
    (subtask : SubTask) :
    left.ranked subtask = right.ranked subtask := by
  simp only [ranked, capabilities]

theorem assignAgent_ranked (orchestrator : Orchestrator) (subtask other : SubTask) :
    (orchestrator.assignAgent subtask).ranked other = orchestrator.ranked other :=
  ranked_congr (orchestrator.assignAgent_frame subtask).2.2.1 other

theorem assignEach_chain (subtasks : List SubTask) (orchestrator : Orchestrator)
    (distinct : (subtasks.map SubTask.id).Nodup)
    (clear : ∀ subtask ∈ subtasks, orchestrator.assignedAgent subtask.id = none)
    (chains : ∀ subtask ∈ subtasks, orchestrator.ranked subtask = [] →
      orchestrator.fallbackChains subtask.id = []) :
    (∀ subtask ∈ subtasks,
      ((subtasks.foldl assignAgent orchestrator).assignedAgent subtask.id).toList ++
        (subtasks.foldl assignAgent orchestrator).fallbackChains subtask.id =
          orchestrator.ranked subtask) ∧
    ∀ id, id ∉ subtasks.map SubTask.id →
      (subtasks.foldl assignAgent orchestrator).assignedAgent id = orchestrator.assignedAgent id ∧
        (subtasks.foldl assignAgent orchestrator).fallbackChains id =
          orchestrator.fallbackChains id := by
  induction subtasks generalizing orchestrator with
  | nil => exact ⟨nofun, fun _ _ => ⟨rfl, rfl⟩⟩
  | cons subtask rest ih =>
      rw [map_cons, nodup_cons] at distinct
      have elsewhere : ∀ id, id ≠ subtask.id →
          (orchestrator.assignAgent subtask).assignedAgent id = orchestrator.assignedAgent id ∧
            (orchestrator.assignAgent subtask).fallbackChains id =
              orchestrator.fallbackChains id := by
        intro id differs
        unfold assignAgent
        split
        · exact ⟨rfl, rfl⟩
        · exact ⟨update_of_ne differs _ _, update_of_ne differs _ _⟩
      have apart : ∀ other ∈ rest, other.id ≠ subtask.id := by
        intro other member same
        exact distinct.1 (same ▸ mem_map_of_mem member)
      have own : ((orchestrator.assignAgent subtask).assignedAgent subtask.id).toList ++
          (orchestrator.assignAgent subtask).fallbackChains subtask.id =
            orchestrator.ranked subtask := by
        unfold assignAgent
        cases ranked : orchestrator.ranked subtask with
        | nil =>
            simp only []
            rw [clear subtask mem_cons_self, chains subtask mem_cons_self ranked]
            rfl
        | cons best fallbacks =>
            simp only [update_self]
            rfl
      obtain ⟨later, beyond⟩ := ih (orchestrator.assignAgent subtask) distinct.2
        (by
          intro other member
          rw [(elsewhere other.id (apart other member)).1]
          exact clear other (mem_cons_of_mem _ member))
        (by
          intro other member none
          rw [assignAgent_ranked] at none
          rw [(elsewhere other.id (apart other member)).2]
          exact chains other (mem_cons_of_mem _ member) none)
      constructor
      · intro other member
        rw [foldl_cons]
        rcases List.mem_cons.mp member with here | tail
        · rw [here, (beyond subtask.id distinct.1).1, (beyond subtask.id distinct.1).2]
          exact own
        · rw [later other tail, assignAgent_ranked]
      · intro id absent
        rw [map_cons, List.mem_cons, not_or] at absent
        rw [foldl_cons, (beyond id absent.2).1, (beyond id absent.2).2]
        exact elsewhere id absent.1

theorem assignAgents_candidates (clear : ∀ id ∈ orchestrator.subtaskIds, orchestrator.Untouched id)
    (chains : ∀ subtask ∈ orchestrator.subtasks, orchestrator.ranked subtask = [] →
      orchestrator.fallbackChains subtask.id = []) {subtask : SubTask}
    (member : subtask ∈ orchestrator.subtasks) :
    orchestrator.assignAgents.candidates subtask.id =
      (orchestrator.ranked subtask).filter fun agent => agent ∈ orchestrator.agents := by
  have chain := (assignEach_chain orchestrator.subtasks orchestrator orchestrator.distinct
    (fun other known => (clear other.id (id_mem known)).assigned) chains).1 subtask member
  unfold candidates
  rw [assignAgents_agents]
  exact congrArg (List.filter _) chain

theorem validatePlan_congr (subtasks : left.subtasks = right.subtasks) :
    left.validatePlan = right.validatePlan := by
  simp only [validatePlan, subtasks]

theorem executePlan_standing {run : PlanRun} (wellFormed : orchestrator.WellFormed)
    (positive : 1 ≤ maxParallel)
    (clear : ∀ id ∈ orchestrator.subtaskIds, orchestrator.status id = .pending)
    (ran : orchestrator.executePlan maxParallel behaviour schedule = some run) :
    run.Standing orchestrator maxParallel behaviour ∧ run.finished = true := by
  have fresh : ∀ id ∈ orchestrator.subtaskIds, ¬ (orchestrator.status id).Blocking := by
    intro id known
    rw [clear id known]
    decide
  unfold executePlan at ran
  cases replayed : Transition.replay (orchestrator.planNext maxParallel behaviour)
      (orchestrator.startPlan maxParallel) schedule with
  | none =>
      rw [replayed] at ran
      cases ran
  | some finish =>
      simp only [replayed] at ran
      split at ran
      · rename_i atEnd
        cases ran
        refine ⟨?_, atEnd⟩
        exact Transition.replay_invariant
          (fun _ _ _ standing taken => standing.next wellFormed positive taken)
          (.start wellFormed positive fresh) replayed
      · cases ran

namespace SamePlan

variable {left right : Orchestrator}

theorem candidates (same : left.SamePlan right) :
    ∀ id ∈ left.assignAgents.subtaskIds,
      left.assignAgents.candidates id = right.assignAgents.candidates id := by
  have rightClear : ∀ id ∈ right.subtaskIds, right.Untouched id := by
    intro id known
    rw [subtaskIds, ← same.subtasks] at known
    exact same.rightClear id known
  have rightChains : ∀ subtask ∈ right.subtasks, right.ranked subtask = [] →
      right.fallbackChains subtask.id = [] := by
    intro subtask known none
    rw [← ranked_congr same.capabilities] at none
    exact same.rightChains subtask (same.subtasks ▸ known) none
  intro id known
  rw [subtaskIds, assignAgents_subtasks] at known
  obtain ⟨subtask, member, named⟩ := mem_map.mp known
  subst named
  rw [assignAgents_candidates same.leftClear same.leftChains member,
    assignAgents_candidates rightClear rightChains (same.subtasks ▸ member),
    ranked_congr same.capabilities, same.agents]

theorem agrees (same : left.SamePlan right)
    (valid : left.agents ≠ [] → left.validatePlan = .ok ())
    {maxParallel : Nat} (positive : 1 ≤ maxParallel) {behaviour : Behaviour}
    {leftSchedule rightSchedule : List PlanEvent} {leftViews rightViews : List SubTaskView}
    {leftDone rightDone : Orchestrator} {leftOutput rightOutput : OrchestratorOutput}
    (leftCarried : left.CarriedOut maxParallel behaviour leftSchedule leftViews leftDone leftOutput)
    (rightCarried : right.CarriedOut maxParallel behaviour rightSchedule rightViews rightDone
      rightOutput) : leftOutput.Agrees rightOutput := by
  have subtasks : left.assignAgents.subtasks = right.assignAgents.subtasks := by
    rw [assignAgents_subtasks, assignAgents_subtasks, same.subtasks]
  have capabilities :
      left.assignAgents.agentCapabilities = right.assignAgents.agentCapabilities := by
    rw [assignAgents_capabilities, assignAgents_capabilities, same.capabilities]
  have leftPending : ∀ id ∈ left.assignAgents.subtaskIds,
      left.assignAgents.status id = .pending := by
    intro id known
    rw [subtaskIds, assignAgents_subtasks] at known
    rw [assignAgents_status]
    exact (same.leftClear id known).status
  have rightPending : ∀ id ∈ right.assignAgents.subtaskIds,
      right.assignAgents.status id = .pending := by
    intro id known
    rw [subtaskIds, ← subtasks, assignAgents_subtasks] at known
    rw [assignAgents_status]
    exact (same.rightClear id known).status
  cases leftCarried with
  | idle unstaffed =>
      cases rightCarried with
      | idle _ =>
          have unfinished : left.assignAgents.unfinishedSubtasks =
              right.assignAgents.unfinishedSubtasks := by
            unfold unfinishedSubtasks
            have ids : left.assignAgents.subtaskIds = right.assignAgents.subtaskIds := by
              rw [subtaskIds, subtasks, subtaskIds]
            rw [ids]
            apply filter_congr
            intro id known
            rw [rightPending id known, leftPending id (ids ▸ known)]
          constructor
          case assignments => exact assignments_congr subtasks capabilities
          case ran => exact fun _ => Iff.rfl
          case skips => exact fun _ => Iff.rfl
          case unfinished => exact unfinished
          case success =>
            change decide (left.assignAgents.unfinishedSubtasks = []) =
              decide (right.assignAgents.unfinishedSubtasks = [])
            rw [unfinished]
      | executed staffed _ => exact absurd (same.agents ▸ unstaffed) staffed
  | @executed staffed leftRun leftRan =>
      cases rightCarried with
      | idle unstaffed => exact absurd (same.agents.trans unstaffed) staffed
      | @executed _ rightRun rightRan =>
          have leftValid : left.assignAgents.WellFormed := by
            rw [← validatePlan_ok_iff, validatePlan_congr left.assignAgents_subtasks, valid staffed]
          have rightValid : right.assignAgents.WellFormed := by
            rw [← validatePlan_ok_iff, ← validatePlan_congr subtasks, validatePlan_ok_iff]
            exact leftValid
          obtain ⟨leftEnds, leftOver⟩ := executePlan_standing leftValid positive leftPending leftRan
          obtain ⟨rightEnds, rightOver⟩ :=
            executePlan_standing rightValid positive rightPending rightRan
          have statuses := PlanRun.final_unique leftValid subtasks same.candidates leftEnds leftOver
            rightEnds rightOver
          have ids : left.assignAgents.subtaskIds = right.assignAgents.subtaskIds := by
            rw [subtaskIds, subtasks, subtaskIds]
          have unfinished : unfinishedSubtasks { left.assignAgents with status := leftRun.status } =
              unfinishedSubtasks { right.assignAgents with status := rightRun.status } := by
            change left.assignAgents.subtaskIds.filter _ = right.assignAgents.subtaskIds.filter _
            rw [← ids]
            apply filter_congr
            intro id known
            change decide (leftRun.status id).Blocking = decide (rightRun.status id).Blocking
            rw [statuses id known]
          constructor
          case assignments => exact assignments_congr subtasks capabilities
          case ran =>
            intro id
            rw [ran_iff leftEnds leftOver rfl, ran_iff rightEnds rightOver rfl, ← ids]
            apply and_congr_right
            intro known
            rw [statuses id known]
          case skips =>
            intro id
            rw [skips_iff leftEnds leftOver rfl, skips_iff rightEnds rightOver rfl, ← ids]
            apply and_congr_right
            intro known
            rw [statuses id known]
          case unfinished => exact unfinished
          case success =>
            change decide (unfinishedSubtasks { left.assignAgents with status := leftRun.status } =
              []) = decide (unfinishedSubtasks
                { right.assignAgents with status := rightRun.status } = [])
            rw [unfinished]

end SamePlan

/-! ### What an adaptive run registers -/

theorem installEach_same (plan : List SubTaskData) (subtasks : left.subtasks = right.subtasks)
    (leftClear : ∀ id ∈ left.subtaskIds, left.Untouched id)
    (rightClear : ∀ id ∈ left.subtaskIds, right.Untouched id) :
    (left.installEach plan).subtasks = (right.installEach plan).subtasks ∧
      (∀ id ∈ (left.installEach plan).subtaskIds, (left.installEach plan).Untouched id) ∧
      ∀ id ∈ (left.installEach plan).subtaskIds, (right.installEach plan).Untouched id := by
  induction plan generalizing left right with
  | nil => exact ⟨subtasks, leftClear, rightClear⟩
  | cons data rest ih =>
      unfold installEach
      rw [← subtasks]
      apply ih
      · change placed left.subtasks _ = placed right.subtasks _
        rw [subtasks]
      · intro id known
        rcases (install_ids left _ id).mp known with earlier | same
        · exact install_untouched (.inr (leftClear id earlier))
        · exact install_untouched (.inl same)
      · intro id known
        rcases (install_ids left _ id).mp known with earlier | same
        · exact install_untouched (.inr (rightClear id earlier))
        · exact install_untouched (.inl same)

theorem installEach_agents (orchestrator : Orchestrator) (plan : List SubTaskData) :
    (orchestrator.installEach plan).agents = orchestrator.agents ∧
      (orchestrator.installEach plan).agentCapabilities = orchestrator.agentCapabilities ∧
      (orchestrator.installEach plan).fallbackChains = orchestrator.fallbackChains := by
  induction plan generalizing orchestrator with
  | nil => exact ⟨rfl, rfl, rfl⟩
  | cons data rest ih => exact ih _

theorem registerSubtasks_same (plan : List SubTaskData) (agents : left.agents = right.agents)
    (capabilities : left.agentCapabilities = right.agentCapabilities) :
    (left.registerSubtasks plan).SamePlan (right.registerSubtasks plan) := by
  have same : left.cleared.subtasks = right.cleared.subtasks := rfl
  have none : ∀ other : Orchestrator, ∀ id ∈ left.cleared.subtaskIds, other.Untouched id :=
    fun _ _ known => nomatch known
  obtain ⟨subtasks, leftClear, rightClear⟩ :=
    installEach_same plan same (none left.cleared) (none right.cleared)
  have leftFrame := installEach_agents left.cleared plan
  have rightFrame := installEach_agents right.cleared plan
  constructor
  case agents => exact (leftFrame.1.trans agents).trans rightFrame.1.symm
  case capabilities => exact (leftFrame.2.1.trans capabilities).trans rightFrame.2.1.symm
  case subtasks => exact subtasks
  case leftClear => exact leftClear
  case rightClear => exact rightClear
  case leftChains =>
    intro subtask _ _
    exact congrFun leftFrame.2.2 subtask.id
  case rightChains =>
    intro subtask _ _
    exact congrFun rightFrame.2.2 subtask.id

theorem runAdaptive_some {done : Orchestrator} {output : OrchestratorOutput}
    (ran : orchestrator.runAdaptive maxParallel behaviour schedule plan = some (done, output)) :
    ((orchestrator.registerSubtasks plan).agents ≠ [] →
      (orchestrator.registerSubtasks plan).validatePlan = .ok ()) ∧
    ∃ carried, (orchestrator.registerSubtasks plan).CarriedOut maxParallel behaviour schedule
        ((orchestrator.registerSubtasks plan).subtasks.map SubTask.view) done carried ∧
      output = if (orchestrator.registerSubtasks plan).subtasks.map SubTask.view = [] then
        { carried with
          success := false
          error := some "adaptive decomposition produced no subtasks"
          unfinished := [] }
      else carried := by
  have shape : ∀ finish : Option (Orchestrator × OrchestratorOutput),
      finish.map (fun finish =>
        if (orchestrator.registerSubtasks plan).subtasks.map SubTask.view = [] then
          (finish.1, { finish.2 with
            success := false
            error := some "adaptive decomposition produced no subtasks"
            unfinished := [] })
        else finish) = some (done, output) →
      ∃ carried, finish = some (done, carried) ∧
        output = if (orchestrator.registerSubtasks plan).subtasks.map SubTask.view = [] then
          { carried with
            success := false
            error := some "adaptive decomposition produced no subtasks"
            unfinished := [] }
        else carried := by
    intro finish mapped
    obtain ⟨carried, same, equal⟩ := Option.map_eq_some_iff.mp mapped
    split at equal
    · rename_i empty
      cases equal
      exact ⟨carried.2, same, (if_pos empty).symm⟩
    · rename_i nonempty
      cases equal
      exact ⟨output, same, (if_neg nonempty).symm⟩
  unfold runAdaptive at ran
  simp only at ran
  split at ran
  · cases ran
  · rename_i accepted
    obtain ⟨carried, finished, equal⟩ := shape _ ran
    refine ⟨?_, carried, carryOut_some finished, equal⟩
    intro staffed
    cases agents : (orchestrator.registerSubtasks plan).agents with
    | nil => exact absurd agents staffed
    | cons agent others =>
        cases validated : (orchestrator.registerSubtasks plan).validatePlan with
        | error failure => exact (accepted agent others failure agents validated).elim
        | ok _ => rfl

/-! ### One task -/

def unused (orchestrator : Orchestrator) : Orchestrator :=
  { agents := orchestrator.agents, agentCapabilities := orchestrator.agentCapabilities
    subtasks := [], distinct := nodup_nil }

/-- What the orchestrator still holds does not show in the task: the plan is as
valid as on its own and, if it is executed, registering it leaves exactly its own
subtasks in its own order, and no fallback chain where it assigns no agent. -/
def Unaffected (orchestrator : Orchestrator) (task : Task) : Prop :=
  task.adaptive = true ∨
    ((orchestrator.installPlan 0 task.plan).validatePlan = .ok () ↔
      (orchestrator.unused.installPlan 0 task.plan).validatePlan = .ok ()) ∧
    ((orchestrator.unused.installPlan 0 task.plan).validatePlan = .ok () →
      orchestrator.agents ≠ [] →
      (orchestrator.installPlan 0 task.plan).subtaskIds =
        (orchestrator.unused.installPlan 0 task.plan).subtaskIds ∧
      ∀ subtask ∈ (orchestrator.unused.installPlan 0 task.plan).subtasks,
        orchestrator.ranked subtask = [] → orchestrator.fallbackChains subtask.id = [])

/-- The task goes as it would on an unused orchestrator, in whatever order the
agents answer there. -/
def Independent (orchestrator : Orchestrator) (task : Task) : Prop :=
  ∀ schedule after output alone aloneOutput,
    orchestrator.handle task = some (after, output) →
    orchestrator.unused.handle { task with schedule := schedule } = some (alone, aloneOutput) →
    output.Agrees aloneOutput

def Idle (orchestrator : Orchestrator) : Prop :=
  orchestrator.agentCapabilities = [] ∧ ∀ id, orchestrator.Untouched id

theorem Idle.assignAgents (idle : orchestrator.Idle) :
    orchestrator.assignAgents = orchestrator := by
  have each : ∀ subtasks : List SubTask,
      subtasks.foldl assignAgent orchestrator = orchestrator := by
    intro subtasks
    induction subtasks with
    | nil => rfl
    | cons subtask rest ih =>
        have none : orchestrator.ranked subtask = [] := by
          rw [ranked, idle.1]
          rfl
        have passed : orchestrator.assignAgent subtask = orchestrator := by
          simp only [assignAgent, none]
        rw [foldl_cons, passed, ih]
  exact each orchestrator.subtasks

theorem Idle.assignments (idle : orchestrator.Idle) :
    orchestrator.assignments = fun _ => none := by
  funext id
  unfold Orchestrator.assignments
  split
  · rfl
  · rw [ranked, idle.1]
    rfl

theorem Idle.unfinished (idle : orchestrator.Idle) :
    orchestrator.unfinishedSubtasks = [] := by
  unfold unfinishedSubtasks
  rw [filter_eq_nil_iff]
  intro id _
  rw [(idle.2 id).status]
  decide

theorem Idle.installPlan (idle : orchestrator.Idle) (index : Nat) (plan : List SubTaskData) :
    (orchestrator.installPlan index plan).Idle :=
  ⟨(orchestrator.installPlan_agents index plan).2.1.trans idle.1,
    fun id => installPlan_untouched (.inr (idle.2 id))⟩

theorem Idle.registerSubtasks (idle : orchestrator.Idle) (plan : List SubTaskData) :
    (orchestrator.registerSubtasks plan).Idle := by
  refine ⟨(orchestrator.cleared.installEach_agents plan).2.1.trans idle.1, ?_⟩
  have each : ∀ before : Orchestrator, (∀ id, before.Untouched id) →
      ∀ id, (before.installEach plan).Untouched id := by
    induction plan with
    | nil => exact fun _ clear => clear
    | cons data rest ih =>
        intro before clear
        exact ih _ fun id => install_untouched (.inr (clear id))
  exact each orchestrator.cleared fun id => ⟨(idle.2 id).assigned, (idle.2 id).status⟩

theorem CarriedOut.idle_kept {registered done : Orchestrator} {subtasks : List SubTaskView}
    {output : OrchestratorOutput}
    (carried : registered.CarriedOut maxParallel behaviour schedule subtasks done output) :
    done.agents = registered.agents ∧ (registered.agents = [] → registered.Idle → done.Idle) := by
  cases carried with
  | idle unstaffed =>
      refine ⟨registered.assignAgents_agents, ?_⟩
      intro _ idle
      rw [idle.assignAgents]
      exact idle
  | executed staffed _ =>
      refine ⟨registered.assignAgents_agents, ?_⟩
      intro unstaffed
      exact absurd unstaffed staffed

theorem nextTask_idle {after : Orchestrator} {task : Task}
    (idle : orchestrator.agents = [] → orchestrator.Idle)
    (taken : orchestrator.nextTask task = some after) : after.agents = [] → after.Idle := by
  obtain ⟨finish, handled, same⟩ := Option.map_eq_some_iff.mp taken
  obtain ⟨done, output⟩ := finish
  have equal : done = after := same
  subst equal
  unfold handle at handled
  split at handled
  · obtain ⟨_, carried, carriedOut, _⟩ := runAdaptive_some handled
    obtain ⟨agents, kept⟩ := carriedOut.idle_kept
    have frame := (orchestrator.cleared.installEach_agents task.plan).1
    intro none
    have before : orchestrator.agents = [] := frame.symm.trans (agents.symm.trans none)
    exact kept (agents.symm.trans none) ((idle before).registerSubtasks task.plan)
  · have frame := (orchestrator.installPlan_agents 0 task.plan).1
    rcases parseOutput_some handled with ⟨_, rejected, _⟩ | ⟨_, carriedOut⟩
    · intro none
      rw [rejected] at none ⊢
      exact (idle (frame.symm.trans none)).installPlan 0 task.plan
    · obtain ⟨agents, kept⟩ := carriedOut.idle_kept
      intro none
      have before : orchestrator.agents = [] := frame.symm.trans (agents.symm.trans none)
      exact kept (agents.symm.trans none) ((idle before).installPlan 0 task.plan)

theorem samePlan_of_ids (ids : (orchestrator.installPlan 0 plan).subtaskIds =
      (orchestrator.unused.installPlan 0 plan).subtaskIds)
    (chains : ∀ subtask ∈ (orchestrator.unused.installPlan 0 plan).subtasks,
      orchestrator.ranked subtask = [] → orchestrator.fallbackChains subtask.id = []) :
    (orchestrator.installPlan 0 plan).SamePlan (orchestrator.unused.installPlan 0 plan) := by
  have planned_ : ∀ id ∈ (orchestrator.installPlan 0 plan).subtaskIds,
      id ∈ (planned 0 plan).map SubTask.id := by
    intro id known
    rw [ids] at known
    exact ((installPlan_ids orchestrator.unused 0 plan id).mp known).resolve_left not_mem_nil
  have subtasks : (orchestrator.installPlan 0 plan).subtasks =
      (orchestrator.unused.installPlan 0 plan).subtasks :=
    subtasks_ext ids fun id known => installPlan_lookup (.inl (planned_ id known))
  obtain ⟨agents, capabilities, held⟩ := orchestrator.installPlan_agents 0 plan
  obtain ⟨aloneAgents, aloneCapabilities, aloneHeld⟩ :=
    orchestrator.unused.installPlan_agents 0 plan
  constructor
  case agents => exact agents.trans aloneAgents.symm
  case capabilities => exact capabilities.trans aloneCapabilities.symm
  case subtasks => exact subtasks
  case leftClear => exact fun id known => installPlan_untouched (.inl (planned_ id known))
  case rightClear => exact fun id known => installPlan_untouched (.inl (planned_ id known))
  case leftChains =>
    intro subtask member none
    rw [held]
    rw [ranked_congr capabilities] at none
    exact chains subtask (subtasks ▸ member) none
  case rightChains =>
    intro subtask _ _
    rw [aloneHeld]
    rfl

theorem idle_agrees {leftSchedule rightSchedule : List PlanEvent}
    {leftViews rightViews : List SubTaskView} {leftDone rightDone : Orchestrator}
    {leftOutput rightOutput : OrchestratorOutput} (leftIdle : left.Idle) (rightIdle : right.Idle)
    (leftNone : left.agents = []) (rightNone : right.agents = [])
    (leftCarried : left.CarriedOut maxParallel behaviour leftSchedule leftViews leftDone leftOutput)
    (rightCarried : right.CarriedOut maxParallel behaviour rightSchedule rightViews rightDone
      rightOutput) : leftOutput.Agrees rightOutput := by
  cases leftCarried with
  | executed staffed _ => exact absurd leftNone staffed
  | idle _ =>
      cases rightCarried with
      | executed staffed _ => exact absurd rightNone staffed
      | idle _ =>
          rw [leftIdle.assignAgents, rightIdle.assignAgents]
          constructor
          case assignments => exact leftIdle.assignments.trans rightIdle.assignments.symm
          case ran => exact fun _ => Iff.rfl
          case skips => exact fun _ => Iff.rfl
          case unfinished => exact leftIdle.unfinished.trans rightIdle.unfinished.symm
          case success =>
            change decide (left.unfinishedSubtasks = []) = decide (right.unfinishedSubtasks = [])
            rw [leftIdle.unfinished, rightIdle.unfinished]

theorem parse_independent {task : Task} (idle : orchestrator.agents = [] → orchestrator.Idle)
    (direct : task.adaptive = false) (unaffected : orchestrator.Unaffected task) :
    orchestrator.Independent task := by
  obtain ⟨valid, clear⟩ := unaffected.resolve_left (by simp [direct])
  intro schedule after output alone aloneOutput handled handledAlone
  rw [handle, if_neg (by simp [direct])] at handled
  rw [handle, if_neg (by simp [direct])] at handledAlone
  rcases parseOutput_some handled with ⟨rejected, _, _, shape⟩ | ⟨accepted, carried⟩
  · rcases parseOutput_some handledAlone with ⟨_, _, _, aloneShape⟩ | ⟨aloneAccepted, _⟩
    · rw [shape, aloneShape]
      exact ⟨rfl, fun _ => Iff.rfl, fun _ => Iff.rfl, rfl, rfl⟩
    · exact absurd (valid.mpr aloneAccepted) rejected
  · have aloneValid := valid.mp accepted
    rcases parseOutput_some handledAlone with ⟨aloneRejected, _⟩ | ⟨_, aloneCarried⟩
    · exact absurd aloneValid aloneRejected
    · by_cases none : orchestrator.agents = []
      · have aloneIdle : orchestrator.unused.Idle := ⟨(idle none).1, fun _ => ⟨rfl, rfl⟩⟩
        exact idle_agrees ((idle none).installPlan 0 task.plan) (aloneIdle.installPlan 0 task.plan)
          ((orchestrator.installPlan_agents 0 task.plan).1.trans none)
          ((orchestrator.unused.installPlan_agents 0 task.plan).1.trans none) carried aloneCarried
      · obtain ⟨ids, chains⟩ := clear aloneValid none
        exact (samePlan_of_ids ids chains).agrees (fun _ => accepted) task.positive carried
          aloneCarried

theorem adaptive_independent {task : Task} (adaptive : task.adaptive = true) :
    orchestrator.Independent task := by
  intro schedule after output alone aloneOutput handled handledAlone
  rw [handle, if_pos adaptive] at handled
  rw [handle, if_pos adaptive] at handledAlone
  have same : (orchestrator.registerSubtasks task.plan).SamePlan
      (orchestrator.unused.registerSubtasks task.plan) := registerSubtasks_same task.plan rfl rfl
  obtain ⟨valid, carried, carriedOut, shape⟩ := runAdaptive_some handled
  obtain ⟨_, aloneCarried, aloneOut, aloneShape⟩ := runAdaptive_some handledAlone
  have agrees := same.agrees valid task.positive carriedOut aloneOut
  rw [shape, aloneShape, same.subtasks]
  split
  · exact ⟨agrees.assignments, agrees.ran, agrees.skips, rfl, rfl⟩
  · exact agrees

/-- In every sequence of tasks each of which nothing held shows in, each goes as
on an unused orchestrator with the same agents. -/
theorem runs_independent (crew : Crew) (tasks : List Task)
    (unaffected : Transition.Along nextTask Unaffected (recruit crew) tasks) :
    Transition.Along nextTask Independent (recruit crew) tasks := by
  have start : (recruit crew).agents = [] → (recruit crew).Idle := by
    intro none
    refine ⟨?_, fun _ => ⟨rfl, rfl⟩⟩
    by_contra some
    obtain ⟨entry, member⟩ := exists_mem_of_ne_nil _ some
    have known := crew.known entry member
    change crew.agents = [] at none
    rw [none] at known
    cases known
  have preserved : ∀ orchestrator task after, (orchestrator.agents = [] → orchestrator.Idle) →
      nextTask orchestrator task = some after → after.agents = [] → after.Idle :=
    fun _ _ _ idle taken => nextTask_idle idle taken
  have implies : ∀ (orchestrator : Orchestrator) (task : Task),
      (orchestrator.agents = [] → orchestrator.Idle) →
      orchestrator.Unaffected task → orchestrator.Independent task := by
    intro orchestrator task idle allowed
    cases kind : task.adaptive with
    | true => exact adaptive_independent kind
    | false => exact parse_independent idle kind allowed
  exact unaffected.strengthen preserved implies start

def oneCoder : Crew :=
  { agents := ["coder"], agentCapabilities := [("coder", {})], known := by decide }

/-- A plan for the coder, who fails at `"a"`. -/
def coderTask (plan : List SubTaskData) (order : List StepName) : Task :=
  { plan := plan
    behaviour := {
      reply := fun id _ => if id = "a" then .raised "ValueError" "" else .output }
    schedule := order.map PlanEvent.answered ++ [.gathered] }

theorem runs_independent_extended : Transition.Along nextTask Independent (recruit oneCoder)
    [coderTask [{ id := some "a" }] ["a", "a"],
      coderTask [{ id := some "a" }, { id := some "b" }] ["a", "a", "b"]] := by
  apply runs_independent
  refine ⟨.inr ⟨⟨fun _ => rfl, fun _ => rfl⟩, fun _ _ => ⟨rfl, fun _ _ _ => rfl⟩⟩, ?_⟩
  refine ⟨.inr ⟨⟨fun _ => rfl, fun _ => rfl⟩, fun _ _ => ⟨rfl, ?_⟩⟩, trivial⟩
  intro subtask member none
  rcases mem_pair.mp member with same | same <;> subst same <;> cases none

/-- A subtask that failed in the first task is run and reported in the second. -/
theorem earlier_plan_reported :
    (((recruit oneCoder).nextTask (coderTask [{ id := some "a" }] ["a", "a"])).bind fun between =>
      (between.handle (coderTask [{ id := some "b" }] ["a", "a", "b"])).map fun finish =>
        (finish.2.unfinished, finish.2.success)) = some (["a"], false) ∧
    ((recruit oneCoder).handle (coderTask [{ id := some "b" }] ["b"])).map (fun finish =>
      (finish.2.unfinished, finish.2.success)) = some ([], true) :=
  ⟨rfl, rfl⟩

end Orchestrator

end AgenticRuntime
