/-
What `_execute_plan` makes of a plan: it ends, and the statuses it leaves are
those the dependencies and the outcomes of the agents call for.
-/

import Mathlib.Algebra.BigOperators.Group.Finset.Basic
import Mathlib.Algebra.Order.BigOperators.Group.Finset
import AgenticRuntime.Agents.PlanInvariant

namespace AgenticRuntime

open List Lane

/-! ### Termination -/

def Lane.work : Lane → Nat
  | .trying _ _ fallbacks => fallbacks.length + 2
  | .escalating _ => 1
  | .done _ => 0

theorem Lane.tryNext_work (attempted : List (AgentName × String)) (chain : List AgentName) :
    (tryNext attempted chain).work ≤ chain.length + 1 := by
  cases chain with
  | nil => exact Nat.le_refl 1
  | cons agent fallbacks => exact Nat.le_refl _

theorem Lane.answer_work {behaviour : Behaviour} {id : StepName} {lane next : Lane}
    (answered : lane.answer behaviour id = some next) : next.work < lane.work := by
  cases lane with
  | trying attempted agent fallbacks =>
      have budget : (trying attempted agent fallbacks).work = fallbacks.length + 2 := rfl
      simp only [answer] at answered
      cases reply : behaviour.reply id agent with
      | output | errorValue message | interrupted message =>
          rw [reply] at answered
          cases answered
          exact Nat.succ_pos _
      | unsuccessful error =>
          rw [reply] at answered
          cases answered
          have bound := tryNext_work
            (attempted ++ [(agent, s!"unsuccessful result: {error}")]) fallbacks
          omega
      | raised errorType message =>
          rw [reply] at answered
          cases answered
          have bound := tryNext_work
            (attempted ++ [(agent, s!"{errorType}: {message}")]) fallbacks
          omega
  | escalating attempted =>
      simp only [answer] at answered
      cases sink : behaviour.sink id with
      | handled | interrupted message =>
          rw [sink] at answered
          cases answered
          exact Nat.one_pos
  | done item => cases answered

namespace Orchestrator

variable {orchestrator : Orchestrator} {maxParallel : Nat} {behaviour : Behaviour}
  {run after : PlanRun}

def subtaskWork (orchestrator : Orchestrator) (run : PlanRun) (id : StepName) : Nat :=
  if id ∈ run.executed then 0
  else if id ∈ run.batch then (run.lane id).work + 1
  else (orchestrator.candidates id).length + 3

def planWork (orchestrator : Orchestrator) (run : PlanRun) : Nat :=
  orchestrator.subtaskIds.toFinset.sum (orchestrator.subtaskWork run)

theorem subtaskWork_landed (landed : run.batch = []) (id : StepName) :
    orchestrator.subtaskWork run id =
      if id ∈ run.executed then 0 else (orchestrator.candidates id).length + 3 := by
  rw [subtaskWork, landed, if_neg (not_mem_nil (a := id))]

theorem launch_work (batch : List StepName) (id : StepName) :
    orchestrator.subtaskWork (orchestrator.launch run batch) id ≤
      if id ∈ run.executed then 0 else (orchestrator.candidates id).length + 3 := by
  unfold subtaskWork
  change (if id ∈ run.executed then 0 else if id ∈ batch then
    ((orchestrator.launch run batch).lane id).work + 1 else _) ≤ _
  by_cases executed : id ∈ run.executed
  · rw [if_pos executed, if_pos executed]
  · rw [if_neg executed, if_neg executed]
    by_cases inBatch : id ∈ batch
    · have lane : (orchestrator.launch run batch).lane id =
          tryNext [] (orchestrator.candidates id) := if_pos inBatch
      have bound := tryNext_work [] (orchestrator.candidates id)
      rw [if_pos inBatch, lane]
      omega
    · rw [if_neg inBatch]

theorem takeTurn_work (landed : run.batch = []) (id : StepName) :
    orchestrator.subtaskWork (orchestrator.takeTurn maxParallel run) id ≤
      orchestrator.subtaskWork run id := by
  have closed : ∀ before : PlanRun, orchestrator.subtaskWork (orchestrator.closeOut before) id =
      orchestrator.subtaskWork before id := fun _ => rfl
  unfold takeTurn
  by_cases more : run.executed.card < orchestrator.subtasks.length
  · rw [if_pos more]
    have only := PlanRun.skipBlockedSubtasks_only orchestrator.subtasks
      (orchestrator.subtasks.length + 1) run
    generalize run.skipBlockedSubtasks orchestrator.subtasks (orchestrator.subtasks.length + 1) =
      skipped at *
    have less : (if id ∈ skipped.executed then 0 else (orchestrator.candidates id).length + 3) ≤
        orchestrator.subtaskWork run id := by
      rw [subtaskWork_landed landed]
      by_cases executed : id ∈ run.executed
      · rw [if_pos executed, if_pos (only.continues.executed executed)]
      · rw [if_neg executed]
        split
        · exact Nat.zero_le _
        · exact Nat.le_refl _
    cases found : orchestrator.findReadySubtasks skipped with
    | nil =>
        simp only [found]
        rw [closed, subtaskWork_landed (only.batch.trans landed)]
        exact less
    | cons first rest =>
        simp only [found]
        exact (launch_work _ id).trans less
  · rw [if_neg more]
    exact Nat.le_of_eq (closed run)

theorem planNext_lowers (standing : run.Standing orchestrator maxParallel behaviour)
    {event : PlanEvent} (taken : orchestrator.planNext maxParallel behaviour run event = some after) :
    orchestrator.planWork after < orchestrator.planWork run := by
  have member : ∀ id ∈ run.batch, id ∈ orchestrator.subtaskIds.toFinset :=
    fun id flying => mem_toFinset.mpr (standing.sound.apart id flying).1
  cases event with
  | answered id =>
      simp only [planNext] at taken
      split at taken
      · rename_i flying
        obtain ⟨lane, answered, same⟩ := Option.map_eq_some_iff.mp taken
        subst same
        have fresh := (standing.sound.apart id flying).2
        have less := answer_work answered
        have others : ∀ other, other ≠ id →
            orchestrator.subtaskWork (run.setLane id lane) other =
              orchestrator.subtaskWork run other := by
          intro other differs
          simp only [subtaskWork, PlanRun.setLane, Function.update_of_ne differs]
        have own : orchestrator.subtaskWork (run.setLane id lane) id <
            orchestrator.subtaskWork run id := by
          simp only [subtaskWork, PlanRun.setLane, Function.update_self, if_neg fresh,
            if_pos flying]
          omega
        apply Finset.sum_lt_sum
        · intro other _
          by_cases same : other = id
          · rw [same]
            exact Nat.le_of_lt own
          · exact Nat.le_of_eq (others other same)
        · exact ⟨id, member id flying, own⟩
      · cases taken
  | gathered =>
      simp only [planNext] at taken
      split at taken
      · rename_i gathered
        cases taken
        obtain ⟨results, items⟩ :=
          PlanRun.recordItems_spec run run.batch gathered.2 standing.sound.batchDistinct
        have recorded : ∀ id, orchestrator.subtaskWork run.recordBatchResults id =
            if id ∈ run.executed ∪ run.batch.toFinset then 0
            else (orchestrator.candidates id).length + 3 := by
          intro id
          have executed : run.recordBatchResults.executed =
              run.executed ∪ run.batch.toFinset := by
            unfold PlanRun.recordBatchResults
            rw [items]
          rw [subtaskWork_landed rfl, executed]
        have less : ∀ id, orchestrator.subtaskWork run.recordBatchResults id ≤
            orchestrator.subtaskWork run id := by
          intro id
          rw [recorded]
          by_cases done : id ∈ run.executed ∪ run.batch.toFinset
          · rw [if_pos done]
            exact Nat.zero_le _
          · rw [if_neg done]
            rw [Finset.mem_union, not_or, mem_toFinset] at done
            simp only [subtaskWork, if_neg done.1, if_neg done.2, Nat.le_refl]
        obtain ⟨id, flying⟩ := exists_mem_of_ne_nil _ gathered.1
        have fresh := (standing.sound.apart id flying).2
        have done : id ∈ run.executed ∪ run.batch.toFinset :=
          Finset.mem_union_right _ (mem_toFinset.mpr flying)
        have strict : orchestrator.subtaskWork run.recordBatchResults id <
            orchestrator.subtaskWork run id := by
          rw [recorded, if_pos done]
          simp only [subtaskWork, if_neg fresh, if_pos flying]
          exact Nat.succ_pos _
        apply Finset.sum_lt_sum
        · intro other _
          exact (takeTurn_work rfl other).trans (less other)
        · exact ⟨id, member id flying, Nat.lt_of_le_of_lt (takeTurn_work rfl id) strict⟩
      · cases taken

theorem planNext_enabled (standing : run.Standing orchestrator maxParallel behaviour)
    (going : run.finished = false) :
    ∃ event, (orchestrator.planNext maxParallel behaviour run event).isSome = true := by
  by_cases gathered : ∀ id ∈ run.batch, (run.lane id).isDone = true
  · refine ⟨.gathered, ?_⟩
    simp only [planNext, if_pos (And.intro (standing.running going) gathered), Option.isSome_some]
  · simp only [not_forall] at gathered
    obtain ⟨id, flying, pending⟩ := gathered
    refine ⟨.answered id, ?_⟩
    simp only [planNext, if_pos flying, Option.isSome_map]
    cases lane : run.lane id with
    | trying attempted agent fallbacks =>
        simp only [answer]
        cases behaviour.reply id agent <;> rfl
    | escalating attempted =>
        simp only [answer]
        cases behaviour.sink id <;> rfl
    | done item =>
        rw [lane] at pending
        exact absurd rfl pending

end Orchestrator

/-! ### What a chain comes to -/

def AgentReply.Fails : AgentReply → Prop
  | .unsuccessful _ | .raised _ _ => True
  | _ => False

def AgentReply.CutsShort : AgentReply → Prop
  | .errorValue _ | .interrupted _ => True
  | _ => False

theorem AgentReply.Fails.not_cut {reply : AgentReply} (fails : reply.Fails) :
    ¬ reply.CutsShort := by
  cases reply with
  | output | errorValue message | interrupted message => exact fails.elim
  | unsuccessful error | raised errorType message => exact id

/-- Every candidate fails, or the candidates before one that is cut short do. -/
def Exhausted (reply : AgentName → AgentReply) (chain : List AgentName) : Prop :=
  (∀ agent ∈ chain, (reply agent).Fails) ∨
    ∃ before agent later, chain = before ++ agent :: later ∧
      (∀ earlier ∈ before, (reply earlier).Fails) ∧ (reply agent).CutsShort

theorem exhausted_cons_of_fails {reply : AgentName → AgentReply} {agent : AgentName}
    {chain : List AgentName} (fails : (reply agent).Fails) :
    Exhausted reply (agent :: chain) ↔ Exhausted reply chain := by
  constructor
  · intro exhausted
    rcases exhausted with all | ⟨before, cut, later, shape, failing, cuts⟩
    · exact .inl fun other member => all other (mem_cons_of_mem _ member)
    · cases before with
      | nil =>
          rw [nil_append, List.cons.injEq] at shape
          rw [← shape.1] at cuts
          exact absurd cuts fails.not_cut
      | cons first rest =>
          rw [cons_append, List.cons.injEq] at shape
          refine .inr ⟨rest, cut, later, shape.2, ?_, cuts⟩
          intro earlier member
          exact failing earlier (mem_cons_of_mem _ member)
  · intro exhausted
    rcases exhausted with all | ⟨before, cut, later, shape, failing, cuts⟩
    · exact .inl (forall_mem_cons.mpr ⟨fails, all⟩)
    · refine .inr ⟨agent :: before, cut, later, ?_, ?_, cuts⟩
      · rw [shape, cons_append]
      · exact forall_mem_cons.mpr ⟨fails, failing⟩

theorem delivers_eq_false_iff (reply : AgentName → AgentReply) (chain : List AgentName) :
    delivers reply chain = false ↔ Exhausted reply chain := by
  induction chain with
  | nil => exact ⟨fun _ => .inl nofun, fun _ => rfl⟩
  | cons agent rest ih =>
      have single : (reply agent).CutsShort → Exhausted reply (agent :: rest) :=
        fun cuts => .inr ⟨[], agent, rest, rfl, nofun, cuts⟩
      cases answer : reply agent with
      | output =>
          constructor
          · intro impossible
            rw [delivers, answer] at impossible
            cases impossible
          · intro exhausted
            rcases exhausted with all | ⟨before, cut, later, shape, failing, cuts⟩
            · have fails := all agent mem_cons_self
              rw [answer] at fails
              cases fails
            · cases before with
              | nil =>
                  rw [nil_append, List.cons.injEq] at shape
                  rw [← shape.1, answer] at cuts
                  cases cuts
              | cons first before =>
                  rw [cons_append, List.cons.injEq] at shape
                  have fails := failing first mem_cons_self
                  rw [← shape.1, answer] at fails
                  cases fails
      | errorValue message | interrupted message =>
          rw [delivers, answer]
          exact ⟨fun _ => single (by rw [answer]; trivial), fun _ => rfl⟩
      | unsuccessful error | raised errorType message =>
          have fails : (reply agent).Fails := by
            rw [answer]
            trivial
          rw [exhausted_cons_of_fails fails, ← ih, delivers, answer]

/-! ### The statuses are determined -/

def Orchestrator.planRule (orchestrator : Orchestrator) (behaviour : Behaviour) (id : StepName)
    (status : StepName → StepStatus) : StepStatus :=
  if ∃ dep ∈ orchestrator.dependsOn id, (status dep).Blocking then .skipped
  else if behaviour.Delivers orchestrator id then .success
  else .failed

theorem planRule_local (orchestrator : Orchestrator) (behaviour : Behaviour) :
    DependencyRule.Local orchestrator.dependsOn (orchestrator.planRule behaviour) := by
  intro id left right agree
  have same : (∃ dep ∈ orchestrator.dependsOn id, (left dep).Blocking) ↔
      ∃ dep ∈ orchestrator.dependsOn id, (right dep).Blocking := by
    apply exists_congr
    intro dep
    apply and_congr_right
    intro edge
    rw [agree dep edge]
  simp only [Orchestrator.planRule, same]

theorem PlanRun.Sound.solves {orchestrator : Orchestrator} {behaviour : Behaviour} {run : PlanRun}
    (sound : run.Sound orchestrator behaviour) {subtask : SubTask}
    (member : subtask ∈ orchestrator.subtasks) (executed : subtask.id ∈ run.executed) :
    run.status subtask.id = orchestrator.planRule behaviour subtask.id run.status := by
  unfold Orchestrator.planRule
  rw [Orchestrator.dependsOn_of_mem member]
  cases sound.settled subtask member executed with
  | skipped dep declared _ blocks status => rw [if_pos ⟨dep, declared, blocks⟩, status]
  | ran ready status =>
      have clear : ¬ ∃ dep ∈ subtask.dependencies, (run.status dep).Blocking := by
        intro blocked
        obtain ⟨dep, declared, blocks⟩ := blocked
        rw [(ready dep declared).2] at blocks
        rcases blocks with impossible | impossible <;> cases impossible
      rw [if_neg clear, status]

theorem PlanRun.final_unique {left right : Orchestrator} {behaviour : Behaviour}
    {leftParallel rightParallel : Nat} {leftRun rightRun : PlanRun}
    (wellFormed : left.WellFormed) (subtasks : left.subtasks = right.subtasks)
    (candidates : ∀ id ∈ left.subtaskIds, left.candidates id = right.candidates id)
    (leftEnds : leftRun.Standing left leftParallel behaviour) (leftOver : leftRun.finished = true)
    (rightEnds : rightRun.Standing right rightParallel behaviour)
    (rightOver : rightRun.finished = true) :
    ∀ id ∈ left.subtaskIds, leftRun.status id = rightRun.status id := by
  have closed : ∀ id ∈ left.subtaskIds, ∀ dep ∈ left.dependsOn id, dep ∈ left.subtaskIds := by
    intro id known dep edge
    obtain ⟨subtask, member, same⟩ := Orchestrator.mem_subtaskIds.mp known
    subst same
    rw [Orchestrator.dependsOn_of_mem member] at edge
    exact wellFormed.closed subtask member dep edge
  apply DependencyRule.solution_unique_on wellFormed.acyclic (planRule_local left behaviour)
    (fun id => id ∈ left.subtaskIds) closed
  · intro id known
    obtain ⟨subtask, member, same⟩ := Orchestrator.mem_subtaskIds.mp known
    subst same
    exact leftEnds.sound.solves member ((leftEnds.atEnd leftOver).2 subtask member)
  · intro id known
    have rules : left.planRule behaviour id rightRun.status =
        right.planRule behaviour id rightRun.status := by
      have delivers : behaviour.Delivers left id ↔ behaviour.Delivers right id := by
        unfold Behaviour.Delivers
        rw [candidates id known]
      have edges : left.dependsOn id = right.dependsOn id := by
        rw [Orchestrator.dependsOn, subtasks, Orchestrator.dependsOn]
      simp only [Orchestrator.planRule, delivers, edges]
    obtain ⟨subtask, member, same⟩ := Orchestrator.mem_subtaskIds.mp known
    subst same
    rw [subtasks] at member
    rw [rules]
    exact rightEnds.sound.solves member ((rightEnds.atEnd rightOver).2 subtask member)

/-! ### The refinement -/

/-- Execution of a valid, freshly built plan ends, runs each subtask at most once
and after its dependencies succeeded, and leaves the statuses the plan calls for. -/
theorem plan_refines (orchestrator : Orchestrator) (maxParallel : Nat) (behaviour : Behaviour)
    (valid : orchestrator.validatePlan = .ok ()) (positive : 1 ≤ maxParallel)
    (fresh : ∀ id ∈ orchestrator.subtaskIds, ¬ (orchestrator.status id).Blocking) :
    (∀ events finish, Transition.replay (orchestrator.planNext maxParallel behaviour)
        (orchestrator.startPlan maxParallel) events = some finish →
      events.length ≤ orchestrator.planWork (orchestrator.startPlan maxParallel)) ∧
    ∀ run, Transition.Reachable (orchestrator.planNext maxParallel behaviour)
        (orchestrator.startPlan maxParallel) run →
      run.batch.length ≤ maxParallel ∧ run.started.Nodup ∧
      (∀ subtask ∈ orchestrator.subtasks, subtask.id ∈ run.started → run.Ready subtask) ∧
      (run.finished = false →
        ∃ event, (orchestrator.planNext maxParallel behaviour run event).isSome = true) ∧
      (run.finished = true → ∀ subtask ∈ orchestrator.subtasks, subtask.id ∈ run.executed ∧
        (run.status subtask.id).Terminal ∧
        (run.status subtask.id = .skipped ↔
          ∃ dep ∈ subtask.dependencies, (run.status dep).Blocking) ∧
        (run.status subtask.id ≠ .skipped →
          (run.status subtask.id = .failed ↔
            Exhausted (behaviour.reply subtask.id) (orchestrator.candidates subtask.id))) ∧
        (subtask.id ∈ run.started ↔ run.status subtask.id ≠ .skipped)) := by
  have wellFormed := orchestrator.validatePlan_ok_iff.mp valid
  have start : (orchestrator.startPlan maxParallel).Standing orchestrator maxParallel behaviour :=
    .start wellFormed positive fresh
  have preserved : ∀ run event after, run.Standing orchestrator maxParallel behaviour →
      orchestrator.planNext maxParallel behaviour run event = some after →
      after.Standing orchestrator maxParallel behaviour :=
    fun _ _ _ standing taken => standing.next wellFormed positive taken
  constructor
  · intro events finish run
    have bound := Transition.replay_length_le preserved
      (fun _ _ _ standing taken => Orchestrator.planNext_lowers standing taken) start run
    omega
  · intro run reached
    have standing := Transition.reachable_invariant preserved start reached
    have sound := standing.sound
    refine ⟨standing.size, sound.startedDistinct, ?_, Orchestrator.planNext_enabled standing, ?_⟩
    · intro subtask member started
      rcases (sound.started subtask.id).mp started with ⟨executed, unskipped⟩ | flying
      · cases sound.settled subtask member executed with
        | skipped _ _ _ _ status => exact absurd status unskipped
        | ran ready _ => exact ready
      · exact (sound.flying subtask member flying).1
    · intro atEnd subtask member
      obtain ⟨landed, all⟩ := standing.atEnd atEnd
      have executed := all subtask member
      have listed := sound.started subtask.id
      rw [landed] at listed
      have ran : subtask.id ∈ run.started ↔ run.status subtask.id ≠ .skipped := by
        rw [listed]
        simp [executed]
      refine ⟨executed, ?_, ?_, ?_, ran⟩
      · cases sound.settled subtask member executed with
        | skipped _ _ _ _ status =>
            rw [status]
            decide
        | ran _ status =>
            rw [status]
            split <;> decide
      · cases sound.settled subtask member executed with
        | skipped dep declared _ blocks status =>
            exact ⟨fun _ => ⟨dep, declared, blocks⟩, fun _ => status⟩
        | ran ready status =>
            constructor
            · intro skipped
              rw [status] at skipped
              split at skipped <;> cases skipped
            · intro blocked
              obtain ⟨dep, declared, blocks⟩ := blocked
              rw [(ready dep declared).2] at blocks
              rcases blocks with impossible | impossible <;> cases impossible
      · intro unskipped
        cases sound.settled subtask member executed with
        | skipped _ _ _ _ status => exact absurd status unskipped
        | ran _ status =>
            rw [status, ← delivers_eq_false_iff]
            by_cases delivered : behaviour.Delivers orchestrator subtask.id
            · rw [if_pos delivered, show delivers _ _ = true from delivered]
              exact ⟨nofun, nofun⟩
            · rw [if_neg delivered]
              exact ⟨fun _ => Bool.eq_false_of_not_eq_true delivered, fun _ => rfl⟩

open Orchestrator in
/-- Two agents, of which the first is cancelled and the second would deliver. -/
def relay : Orchestrator :=
  (installPlan (registerAgent (registerAgent {} "coder" {}) "reviewer" {}) 0
    [{ id := some "a" }, { id := some "b", dependencies := some ["a"] }]).assignAgents

def relayed (first : AgentReply) : Behaviour :=
  { reply := fun _ agent => if agent = "coder" then first else .output }

theorem plan_refines_relay : ∃ run,
    Transition.Reachable (relay.planNext 3 (relayed (.raised "ValueError" "")))
      (relay.startPlan 3) run ∧
    run.status "b" = .success ∧ run.started.Nodup := by
  have whole : ∃ run, Transition.replay (relay.planNext 3 (relayed (.raised "ValueError" "")))
      (relay.startPlan 3) [.answered "a", .answered "a", .gathered, .answered "b", .answered "b",
        .gathered] = some run ∧ run.status "b" = .success := ⟨_, rfl, rfl⟩
  obtain ⟨run, replayed, status⟩ := whole
  have refined := plan_refines relay 3 (relayed (.raised "ValueError" "")) rfl (by decide)
    (by decide)
  exact ⟨run, ⟨_, replayed⟩, status, (refined.2 run ⟨_, replayed⟩).2.1⟩

/-- A subtask fails without its fallback having been tried. -/
theorem fallback_untried : relay.validatePlan = .ok () ∧
    (∀ id ∈ relay.subtaskIds, relay.status id = .pending) ∧
    ∃ run, Transition.Reachable (relay.planNext 3 (relayed (.interrupted "")))
        (relay.startPlan 3) run ∧
      run.finished = true ∧ run.status "a" = .failed ∧ "reviewer" ∈ relay.candidates "a" ∧
      (relayed (.interrupted "")).reply "a" "reviewer" = .output := by
  have whole : ∃ run, Transition.replay (relay.planNext 3 (relayed (.interrupted "")))
      (relay.startPlan 3) [.answered "a", .gathered] = some run ∧
      run.finished = true ∧ run.status "a" = .failed := ⟨_, rfl, rfl, rfl⟩
  obtain ⟨run, replayed, atEnd, status⟩ := whole
  exact ⟨rfl, by decide, run, ⟨_, replayed⟩, atEnd, status, by decide, rfl⟩

end AgenticRuntime
