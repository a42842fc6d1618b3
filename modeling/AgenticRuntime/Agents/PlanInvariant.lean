/-
What holds between the statuses of the subtasks and the `executed` set at every
point of `_execute_plan`: an executed subtask has its final status, one in
flight has all its dependencies done, and no other one blocks a dependent.
-/

import AgenticRuntime.Agents.PlanRun

namespace AgenticRuntime

open List Function
open Orchestrator (id_mem eq_of_id mem_subtaskIds planNext)

/-- Whether a chain ends with a result: a candidate that fails passes on to the
next one, a cancelled one ends the chain. -/
def delivers (reply : AgentName → AgentReply) : List AgentName → Bool
  | [] => false
  | agent :: fallbacks =>
      match reply agent with
      | .output => true
      | .unsuccessful _ | .raised _ _ => delivers reply fallbacks
      | .errorValue _ | .interrupted _ => false

def Behaviour.Delivers (behaviour : Behaviour) (orchestrator : Orchestrator) (id : StepName) :
    Prop :=
  delivers (behaviour.reply id) (orchestrator.candidates id) = true

instance (behaviour : Behaviour) (orchestrator : Orchestrator) (id : StepName) :
    Decidable (behaviour.Delivers orchestrator id) :=
  inferInstanceAs (Decidable (_ = true))

def Lane.Truthful (reply : AgentName → AgentReply) (chain : List AgentName) (status : StepStatus) :
    Lane → Prop
  | .trying _ agent fallbacks => delivers reply chain = delivers reply (agent :: fallbacks)
  | .escalating _ => delivers reply chain = false ∧ status = .failed
  | .done (.returned (.output _)) => delivers reply chain = true ∧ status = .success
  | .done (.returned _) => delivers reply chain = false ∧ status = .failed
  | .done (.errorValue _) | .done (.raised _) => delivers reply chain = false

def Lane.recorded : Lane → StepStatus → StepStatus
  | .done (.errorValue _), _ | .done (.raised _), _ => .failed
  | _, status => status

theorem Lane.Truthful.recorded {reply : AgentName → AgentReply} {chain : List AgentName}
    {status : StepStatus} {lane : Lane} (truthful : lane.Truthful reply chain status)
    (done : lane.isDone = true) :
    Lane.recorded lane status = if delivers reply chain = true then .success else .failed := by
  cases lane with
  | trying attempted agent fallbacks => cases done
  | escalating attempted => cases done
  | done item =>
      cases item with
      | returned result =>
          cases result with
          | output agent =>
              rw [truthful.1, if_pos rfl]
              exact truthful.2
          | handoff summary | error message | skipped dependency =>
              rw [truthful.1, if_neg Bool.false_ne_true]
              exact truthful.2
      | errorValue message | raised message =>
          rw [show delivers reply chain = false from truthful, if_neg Bool.false_ne_true]
          rfl

theorem Lane.tryNext_truthful (reply : AgentName → AgentReply) (status : StepStatus)
    (attempted : List (AgentName × String)) {chain rest : List AgentName}
    (owed : delivers reply chain = delivers reply rest) :
    (Lane.tryNext attempted rest).Truthful reply chain
      ((Lane.tryNext attempted rest).write status) := by
  cases rest with
  | nil => exact ⟨owed, rfl⟩
  | cons agent fallbacks => exact owed

theorem Lane.Truthful.answer {behaviour : Behaviour} {id : StepName} {chain : List AgentName}
    {status : StepStatus} {lane next : Lane} (truthful : lane.Truthful (behaviour.reply id) chain status)
    (answered : lane.answer behaviour id = some next) :
    next.Truthful (behaviour.reply id) chain (next.write status) := by
  cases lane with
  | trying attempted agent fallbacks =>
      have owed : delivers (behaviour.reply id) chain =
          delivers (behaviour.reply id) (agent :: fallbacks) := truthful
      simp only [Lane.answer] at answered
      cases reply : behaviour.reply id agent with
      | output =>
          rw [reply] at answered
          cases answered
          exact ⟨by rw [owed, delivers, reply], rfl⟩
      | errorValue message | interrupted message =>
          rw [reply] at answered
          cases answered
          change delivers (behaviour.reply id) chain = false
          rw [owed, delivers, reply]
      | unsuccessful error | raised errorType message =>
          rw [reply] at answered
          cases answered
          apply Lane.tryNext_truthful
          rw [owed, delivers, reply]
  | escalating attempted =>
      simp only [Lane.answer] at answered
      cases sink : behaviour.sink id with
      | handled =>
          rw [sink] at answered
          cases answered
          exact ⟨truthful.1, truthful.2⟩
      | interrupted message =>
          rw [sink] at answered
          cases answered
          exact truthful.1
  | done item => cases answered

namespace PlanRun

def Ready (run : PlanRun) (subtask : SubTask) : Prop :=
  ∀ dep ∈ subtask.dependencies, dep ∈ run.executed ∧ run.status dep = .success

inductive Settled (orchestrator : Orchestrator) (behaviour : Behaviour) (run : PlanRun)
    (subtask : SubTask) : Prop where
  | skipped (dep : StepName) (declared : dep ∈ subtask.dependencies) (done : dep ∈ run.executed)
      (blocks : (run.status dep).Blocking) (status : run.status subtask.id = .skipped)
  | ran (ready : run.Ready subtask)
      (status : run.status subtask.id =
        if behaviour.Delivers orchestrator subtask.id then .success else .failed)

structure Sound (orchestrator : Orchestrator) (behaviour : Behaviour) (run : PlanRun) : Prop where
  known : ∀ id ∈ run.executed, id ∈ orchestrator.subtaskIds
  settled : ∀ subtask ∈ orchestrator.subtasks, subtask.id ∈ run.executed →
    run.Settled orchestrator behaviour subtask
  waiting : ∀ id ∈ orchestrator.subtaskIds, id ∉ run.executed → id ∉ run.batch →
    ¬ (run.status id).Blocking
  flying : ∀ subtask ∈ orchestrator.subtasks, subtask.id ∈ run.batch →
    run.Ready subtask ∧ (run.lane subtask.id).Truthful (behaviour.reply subtask.id)
      (orchestrator.candidates subtask.id) (run.status subtask.id)
  apart : ∀ id ∈ run.batch, id ∈ orchestrator.subtaskIds ∧ id ∉ run.executed
  batchDistinct : run.batch.Nodup
  startedDistinct : run.started.Nodup
  started : ∀ id, id ∈ run.started ↔
    (id ∈ run.executed ∧ run.status id ≠ .skipped) ∨ id ∈ run.batch

structure Continues (before after : PlanRun) : Prop where
  executed : before.executed ⊆ after.executed
  status : ∀ id ∈ before.executed, after.status id = before.status id

theorem Ready.carry {before after : PlanRun} {subtask : SubTask} (ready : before.Ready subtask)
    (continues : before.Continues after) : after.Ready subtask := by
  intro dep declared
  obtain ⟨done, succeeded⟩ := ready dep declared
  exact ⟨continues.executed done, (continues.status dep done).trans succeeded⟩

section

variable {orchestrator : Orchestrator} {behaviour : Behaviour} {run : PlanRun}
  {subtask : SubTask} {maxParallel : Nat}

theorem Settled.carry {after : PlanRun} (executed : subtask.id ∈ run.executed)
    (settled : run.Settled orchestrator behaviour subtask) (continues : run.Continues after) :
    after.Settled orchestrator behaviour subtask := by
  have same := continues.status subtask.id executed
  cases settled with
  | skipped dep declared done blocks status =>
      have kept := continues.status dep done
      exact .skipped dep declared (continues.executed done) (kept ▸ blocks) (same.trans status)
  | ran ready status => exact .ran (ready.carry continues) (same.trans status)

theorem Settled.success (settled : run.Settled orchestrator behaviour subtask)
    (open_ : ¬ (run.status subtask.id).Blocking) : run.status subtask.id = .success := by
  cases settled with
  | skipped _ _ _ _ status => exact absurd (.inr status) open_
  | ran _ status =>
      rw [status] at open_ ⊢
      split
      · rfl
      · rename_i undelivered
        rw [if_neg undelivered] at open_
        exact absurd (.inl rfl) open_

theorem Sound.card_le (sound : run.Sound orchestrator behaviour) :
    run.executed.card ≤ orchestrator.subtasks.length := by
  have within : run.executed ⊆ orchestrator.subtaskIds.toFinset := by
    intro id member
    exact mem_toFinset.mpr (sound.known id member)
  calc
    run.executed.card ≤ orchestrator.subtaskIds.toFinset.card := Finset.card_le_card within
    _ ≤ orchestrator.subtaskIds.length := toFinset_card_le _
    _ = orchestrator.subtasks.length := orchestrator.subtaskIds_length

/-! ### The skip pass -/

theorem skipSubtask_cases (run : PlanRun) (subtask : SubTask) :
    (run.skipSubtask subtask = run ∧ (subtask.id ∈ run.executed ∨
      ∀ dep ∈ subtask.dependencies, ¬ (run.status dep).Blocking)) ∨
    ∃ dep ∈ subtask.dependencies, (run.status dep).Blocking ∧ subtask.id ∉ run.executed ∧
      run.skipSubtask subtask =
        { run with
          status := update run.status subtask.id .skipped
          results := update run.results subtask.id (some (.skipped dep))
          executed := insert subtask.id run.executed } := by
  unfold skipSubtask
  by_cases executed : subtask.id ∈ run.executed
  · rw [if_pos executed]
    exact .inl ⟨rfl, .inl executed⟩
  · rw [if_neg executed]
    cases blocked : run.blockedBy subtask with
    | none =>
        refine .inl ⟨rfl, .inr ?_⟩
        intro dep declared blocks
        exact List.find?_eq_none.mp blocked dep declared (decide_eq_true blocks)
    | some dep =>
        have blocks := List.find?_some blocked
        rw [decide_eq_true_eq] at blocks
        exact .inr ⟨dep, mem_of_find?_eq_some blocked, blocks, executed, rfl⟩

structure SkipsOnly (before after : PlanRun) : Prop where
  continues : before.Continues after
  batch : after.batch = before.batch
  finished : after.finished = before.finished
  skipped : ∀ id ∈ after.executed, id ∉ before.executed → after.status id = .skipped

theorem SkipsOnly.refl (run : PlanRun) : run.SkipsOnly run :=
  ⟨⟨fun _ member => member, fun _ _ => rfl⟩, rfl, rfl, fun _ member fresh => absurd member fresh⟩

theorem SkipsOnly.trans {first second third : PlanRun} (left : first.SkipsOnly second)
    (right : second.SkipsOnly third) : first.SkipsOnly third := by
  refine ⟨⟨?_, ?_⟩, right.batch.trans left.batch, right.finished.trans left.finished, ?_⟩
  · exact left.continues.executed.trans right.continues.executed
  · intro id member
    have kept := right.continues.status id (left.continues.executed member)
    exact kept.trans (left.continues.status id member)
  · intro id member fresh
    by_cases earlier : id ∈ second.executed
    · exact (right.continues.status id earlier).trans (left.skipped id earlier fresh)
    · exact right.skipped id member earlier

theorem skipSubtask_only (run : PlanRun) (subtask : SubTask) :
    run.SkipsOnly (run.skipSubtask subtask) := by
  rcases skipSubtask_cases run subtask with ⟨same, _⟩ | ⟨dep, _, _, fresh, skipped⟩
  · rw [same]
    exact .refl run
  · rw [skipped]
    refine ⟨⟨Finset.subset_insert _ _, ?_⟩, rfl, rfl, ?_⟩
    · intro id member
      have differs : id ≠ subtask.id := fun same => fresh (same ▸ member)
      exact update_of_ne differs _ _
    · intro id member outside
      rcases Finset.mem_insert.mp member with same | earlier
      · rw [same]
        exact update_self ..
      · exact absurd earlier outside

variable (subtasks : List SubTask)

theorem skipPass_only (run : PlanRun) :
    run.SkipsOnly (skipPass subtasks run) := by
  induction subtasks generalizing run with
  | nil => exact .refl run
  | cons subtask rest ih => exact (skipSubtask_only run subtask).trans (ih _)

theorem skipBlockedSubtasks_only (fuel : Nat) (run : PlanRun) :
    run.SkipsOnly (run.skipBlockedSubtasks subtasks fuel) := by
  induction fuel generalizing run with
  | zero => exact .refl run
  | succ fuel ih =>
      unfold PlanRun.skipBlockedSubtasks
      have only := skipPass_only subtasks run
      by_cases stable : (skipPass subtasks run).executed = run.executed
      · rw [if_pos stable]
        exact only
      · rw [if_neg stable]
        exact only.trans (ih _)

def Unblocked (run : PlanRun) : Prop :=
  ∀ subtask ∈ subtasks, subtask.id ∉ run.executed →
    ∀ dep ∈ subtask.dependencies, ¬ (run.status dep).Blocking

theorem skipPass_stable {subtasks : List SubTask} {run : PlanRun}
    (stable : (skipPass subtasks run).executed = run.executed) :
    skipPass subtasks run = run ∧ Unblocked subtasks run := by
  induction subtasks with
  | nil => exact ⟨rfl, nofun⟩
  | cons subtask rest ih =>
      rcases skipSubtask_cases run subtask with ⟨same, clear⟩ | ⟨dep, _, _, fresh, skipped⟩
      · have passed : skipPass (subtask :: rest) run = skipPass rest run := by
          rw [skipPass, foldl_cons, same, skipPass]
        rw [passed] at stable ⊢
        obtain ⟨unchanged, unblocked⟩ := ih stable
        refine ⟨unchanged, ?_⟩
        intro other member waiting
        rcases List.mem_cons.mp member with here | later
        · rw [here] at waiting ⊢
          exact clear.resolve_left waiting
        · exact unblocked other later waiting
      · have grown := (skipPass_only rest (run.skipSubtask subtask)).continues.executed
        have member : subtask.id ∈ (run.skipSubtask subtask).executed := by
          rw [skipped]
          exact Finset.mem_insert_self _ _
        have impossible := grown member
        change subtask.id ∈ (skipPass (subtask :: rest) run).executed at impossible
        rw [stable] at impossible
        exact absurd impossible fresh

theorem Sound.skipSubtask (sound : run.Sound orchestrator behaviour)
    (wellFormed : orchestrator.WellFormed) (landed : run.batch = [])
    (member : subtask ∈ orchestrator.subtasks) :
    (run.skipSubtask subtask).Sound orchestrator behaviour := by
  have continues := (skipSubtask_only run subtask).continues
  rcases skipSubtask_cases run subtask with ⟨same, _⟩ | ⟨dep, declared, blocks, fresh, skipped⟩
  · rw [same]
    exact sound
  · have done : dep ∈ run.executed := by
      by_contra waiting
      have noBatch : dep ∉ run.batch := landed ▸ not_mem_nil
      exact sound.waiting dep (wellFormed.closed subtask member dep declared) waiting noBatch blocks
    rw [skipped] at continues ⊢
    constructor
    case known =>
      intro id inserted
      rcases Finset.mem_insert.mp inserted with same | earlier
      · rw [same]
        exact id_mem member
      · exact sound.known id earlier
    case settled =>
      intro other otherMember inserted
      rcases Finset.mem_insert.mp inserted with same | earlier
      · have identical := eq_of_id otherMember member same
        subst identical
        refine .skipped dep declared (Finset.mem_insert_of_mem done) ?_ (update_self ..)
        rw [continues.status dep done]
        exact blocks
      · exact (sound.settled other otherMember earlier).carry earlier continues
    case waiting =>
      intro id known waiting notFlying
      have apart := Finset.mem_insert.not.mp waiting
      have differs : id ≠ subtask.id := fun same => apart (.inl same)
      change ¬ (update run.status subtask.id .skipped id).Blocking
      rw [update_of_ne differs]
      exact sound.waiting id known (fun earlier => apart (.inr earlier)) notFlying
    case flying =>
      intro other _ inBatch
      change other.id ∈ run.batch at inBatch
      rw [landed] at inBatch
      cases inBatch
    case apart =>
      intro id inBatch
      change id ∈ run.batch at inBatch
      rw [landed] at inBatch
      cases inBatch
    case batchDistinct => exact sound.batchDistinct
    case startedDistinct => exact sound.startedDistinct
    case started =>
      intro id
      change id ∈ run.started ↔ (id ∈ insert subtask.id run.executed ∧
        update run.status subtask.id .skipped id ≠ .skipped) ∨ id ∈ run.batch
      rw [sound.started, Finset.mem_insert]
      by_cases same : id = subtask.id
      · rw [same, update_self]
        simp [fresh]
      · rw [update_of_ne same]
        simp [same]

theorem Sound.skipPass (sound : run.Sound orchestrator behaviour)
    (wellFormed : orchestrator.WellFormed) (landed : run.batch = []) (subtasks : List SubTask)
    (within : ∀ subtask ∈ subtasks, subtask ∈ orchestrator.subtasks) :
    (skipPass subtasks run).Sound orchestrator behaviour := by
  induction subtasks generalizing run with
  | nil => exact sound
  | cons subtask rest ih =>
      have here := sound.skipSubtask wellFormed landed (within subtask mem_cons_self)
      have stillLanded := (skipSubtask_only run subtask).batch.trans landed
      exact ih here stillLanded fun other member => within other (mem_cons_of_mem _ member)

theorem Sound.skipBlockedSubtasks (sound : run.Sound orchestrator behaviour)
    (wellFormed : orchestrator.WellFormed) (landed : run.batch = []) (fuel : Nat)
    (enough : orchestrator.subtasks.length < fuel + run.executed.card) :
    (run.skipBlockedSubtasks orchestrator.subtasks fuel).Sound orchestrator behaviour ∧
      Unblocked orchestrator.subtasks (run.skipBlockedSubtasks orchestrator.subtasks fuel) := by
  induction fuel generalizing run with
  | zero =>
      have bound := sound.card_le
      omega
  | succ fuel ih =>
      unfold PlanRun.skipBlockedSubtasks
      have only := skipPass_only orchestrator.subtasks run
      have passed := sound.skipPass wellFormed landed orchestrator.subtasks fun _ member => member
      by_cases stable : (PlanRun.skipPass orchestrator.subtasks run).executed = run.executed
      · rw [if_pos stable]
        obtain ⟨unchanged, unblocked⟩ := skipPass_stable stable
        refine ⟨passed, ?_⟩
        rw [unchanged]
        exact unblocked
      · rw [if_neg stable]
        have strict := only.continues.executed.ssubset_of_ne (Ne.symm stable)
        have grown := Finset.card_lt_card strict
        exact ih passed (only.batch.trans landed) (by omega)

/-! ### Recording a batch -/

theorem recordItem_spec (run : PlanRun) (id : StepName) (done : (run.lane id).isDone = true) :
    ∃ results, run.recordItem id =
      { run with
        status := update run.status id (Lane.recorded (run.lane id) (run.status id))
        results := results
        executed := insert id run.executed } := by
  unfold recordItem
  cases lane : run.lane id with
  | trying attempted agent fallbacks | escalating attempted =>
      rw [lane] at done
      cases done
  | done item =>
      cases item with
      | returned result =>
          refine ⟨update run.results id (some result), ?_⟩
          have unchanged : update run.status id (run.status id) = run.status :=
            update_eq_self id run.status
          simp only [Lane.recorded, unchanged]
      | errorValue message | raised message => exact ⟨_, rfl⟩

theorem recordItems_spec (run : PlanRun) (batch : List StepName)
    (done : ∀ id ∈ batch, (run.lane id).isDone = true) (distinct : batch.Nodup) :
    ∃ results, batch.foldl recordItem run =
      { run with
        status := fun id =>
          if id ∈ batch then Lane.recorded (run.lane id) (run.status id) else run.status id
        results := results
        executed := run.executed ∪ batch.toFinset } := by
  induction batch generalizing run with
  | nil => exact ⟨run.results, by simp⟩
  | cons id rest ih =>
      rw [nodup_cons] at distinct
      obtain ⟨first, recorded⟩ := recordItem_spec run id (done id mem_cons_self)
      rw [foldl_cons, recorded]
      obtain ⟨results, folded⟩ :=
        ih { run with
          status := update run.status id (Lane.recorded (run.lane id) (run.status id))
          results := first
          executed := insert id run.executed }
          (fun other member => done other (mem_cons_of_mem _ member)) distinct.2
      refine ⟨results, folded.trans ?_⟩
      have executed : insert id run.executed ∪ rest.toFinset =
          run.executed ∪ (id :: rest).toFinset := by
        rw [toFinset_cons, Finset.insert_union, Finset.union_insert]
      have status : (fun other => if other ∈ rest then
            Lane.recorded (run.lane other)
              (update run.status id (Lane.recorded (run.lane id) (run.status id)) other)
          else update run.status id (Lane.recorded (run.lane id) (run.status id)) other) =
          fun other => if other ∈ id :: rest then Lane.recorded (run.lane other) (run.status other)
            else run.status other := by
        funext other
        by_cases same : other = id
        · rw [same, if_neg distinct.1, update_self, if_pos mem_cons_self]
        · have passes : other ∈ id :: rest ↔ other ∈ rest := by
            rw [List.mem_cons]
            exact or_iff_right same
          simp only [update_of_ne same, passes]
      simp only [executed, status]

theorem Sound.recordBatchResults (sound : run.Sound orchestrator behaviour)
    (done : ∀ id ∈ run.batch, (run.lane id).isDone = true) :
    run.recordBatchResults.Sound orchestrator behaviour := by
  obtain ⟨results, recorded⟩ := recordItems_spec run run.batch done sound.batchDistinct
  unfold PlanRun.recordBatchResults
  rw [recorded]
  have apart : ∀ id ∈ run.executed, id ∉ run.batch :=
    fun id executed flying => (sound.apart id flying).2 executed
  have continues : run.Continues
      { run with
        status := fun id =>
          if id ∈ run.batch then Lane.recorded (run.lane id) (run.status id) else run.status id
        results := results
        executed := run.executed ∪ run.batch.toFinset
        batch := [] } := by
    refine ⟨Finset.subset_union_left, ?_⟩
    intro id executed
    exact if_neg (apart id executed)
  constructor
  case known =>
    intro id member
    rcases Finset.mem_union.mp member with earlier | flying
    · exact sound.known id earlier
    · exact (sound.apart id (mem_toFinset.mp flying)).1
  case settled =>
    intro subtask known member
    rcases Finset.mem_union.mp member with earlier | flying
    · exact (sound.settled subtask known earlier).carry earlier continues
    · have inBatch := mem_toFinset.mp flying
      obtain ⟨ready, truthful⟩ := sound.flying subtask known inBatch
      refine .ran (ready.carry continues) ?_
      have final := truthful.recorded (done subtask.id inBatch)
      simp only [if_pos inBatch]
      exact final
  case waiting =>
    intro id known waiting _
    rw [Finset.mem_union, not_or, mem_toFinset] at waiting
    simp only [if_neg waiting.2]
    exact sound.waiting id known waiting.1 waiting.2
  case flying =>
    intro subtask _ impossible
    cases impossible
  case apart =>
    intro id impossible
    cases impossible
  case batchDistinct => exact nodup_nil
  case startedDistinct => exact sound.startedDistinct
  case started =>
    intro id
    change id ∈ run.started ↔ _
    rw [sound.started]
    simp only [Finset.mem_union, mem_toFinset, not_mem_nil, or_false]
    by_cases flying : id ∈ run.batch
    · obtain ⟨known, _⟩ := sound.apart id flying
      obtain ⟨subtask, member, same⟩ := mem_subtaskIds.mp known
      subst same
      have final := (sound.flying subtask member flying).2.recorded (done subtask.id flying)
      have unskipped : Lane.recorded (run.lane subtask.id) (run.status subtask.id) ≠ .skipped := by
        rw [final]
        split <;> decide
      simp [flying, unskipped]
    · simp [flying]


/-! ### Starting a batch -/

theorem mem_findReadySubtasks :
    subtask ∈ orchestrator.findReadySubtasks run ↔ subtask ∈ orchestrator.subtasks ∧
      subtask.id ∉ run.executed ∧ ∀ dep ∈ subtask.dependencies, dep ∈ run.executed := by
  rw [Orchestrator.findReadySubtasks, mem_filter, decide_eq_true_eq]

theorem Sound.ready (sound : run.Sound orchestrator behaviour)
    (unblocked : Unblocked orchestrator.subtasks run)
    (member : subtask ∈ orchestrator.findReadySubtasks run) : run.Ready subtask := by
  obtain ⟨known, waiting, executed⟩ := mem_findReadySubtasks.mp member
  intro dep declared
  have done := executed dep declared
  obtain ⟨source, sourceMember, same⟩ := mem_subtaskIds.mp (sound.known dep done)
  subst same
  have settled := sound.settled source sourceMember done
  exact ⟨done, settled.success (unblocked subtask known waiting source.id declared)⟩

theorem Sound.launch (sound : run.Sound orchestrator behaviour) (landed : run.batch = [])
    (unblocked : Unblocked orchestrator.subtasks run) (maxParallel : Nat) :
    (orchestrator.launch run
      (((orchestrator.findReadySubtasks run).take maxParallel).map SubTask.id)).Sound
      orchestrator behaviour := by
  have chosen : ∀ id ∈ ((orchestrator.findReadySubtasks run).take maxParallel).map SubTask.id,
      ∃ subtask ∈ orchestrator.findReadySubtasks run, subtask.id = id := by
    intro id member
    obtain ⟨subtask, taken, same⟩ := mem_map.mp member
    exact ⟨subtask, mem_of_mem_take taken, same⟩
  have distinct :
      (((orchestrator.findReadySubtasks run).take maxParallel).map SubTask.id).Nodup := by
    have sublist := (take_sublist maxParallel (orchestrator.findReadySubtasks run)).trans
      filter_sublist
    exact orchestrator.distinct.sublist (sublist.map SubTask.id)
  generalize ((orchestrator.findReadySubtasks run).take maxParallel).map SubTask.id = batch at *
  have waiting : ∀ id ∈ batch, id ∈ orchestrator.subtaskIds ∧ id ∉ run.executed := by
    intro id member
    obtain ⟨subtask, ready, same⟩ := chosen id member
    obtain ⟨known, fresh, _⟩ := mem_findReadySubtasks.mp ready
    exact ⟨same ▸ id_mem known, same ▸ fresh⟩
  have kept : ∀ id, id ∉ batch → (orchestrator.launch run batch).status id = run.status id :=
    fun id outside => if_neg outside
  have continues : run.Continues (orchestrator.launch run batch) := by
    refine ⟨fun _ member => member, ?_⟩
    intro id executed
    exact kept id fun inBatch => (waiting id inBatch).2 executed
  constructor
  case known => exact sound.known
  case settled =>
    intro subtask member executed
    have earlier : subtask.id ∈ run.executed := executed
    exact (sound.settled subtask member earlier).carry earlier continues
  case waiting =>
    intro id known fresh outside
    have idle : id ∉ run.batch := landed ▸ not_mem_nil
    rw [kept id outside]
    exact sound.waiting id known fresh idle
  case flying =>
    intro subtask member inBatch
    obtain ⟨source, ready, same⟩ := chosen subtask.id inBatch
    have identical := eq_of_id (mem_findReadySubtasks.mp ready).1 member same
    subst identical
    refine ⟨(sound.ready unblocked ready).carry continues, ?_⟩
    have lane : (orchestrator.launch run batch).lane source.id =
        Lane.tryNext [] (orchestrator.candidates source.id) := if_pos inBatch
    have status : (orchestrator.launch run batch).status source.id =
        (Lane.tryNext [] (orchestrator.candidates source.id)).write (run.status source.id) :=
      if_pos inBatch
    rw [lane, status]
    exact Lane.tryNext_truthful _ _ _ rfl
  case apart => exact waiting
  case batchDistinct => exact distinct
  case startedDistinct =>
    change (run.started ++ batch).Nodup
    rw [nodup_append]
    refine ⟨sound.startedDistinct, distinct, ?_⟩
    intro earlier before later inBatch same
    have executed := (sound.started earlier).mp before
    rw [landed] at executed
    exact (waiting later inBatch).2 (same ▸ (executed.resolve_right not_mem_nil).1)
  case started =>
    intro id
    change id ∈ run.started ++ batch ↔
      (id ∈ run.executed ∧ (orchestrator.launch run batch).status id ≠ .skipped) ∨ id ∈ batch
    rw [mem_append, sound.started, landed]
    by_cases inBatch : id ∈ batch
    · simp [inBatch]
    · simp [inBatch, kept id inBatch]

/-! ### One turn of the loop -/

theorem all_executed (wellFormed : orchestrator.WellFormed)
    (none : orchestrator.findReadySubtasks run = []) :
    ∀ subtask ∈ orchestrator.subtasks, subtask.id ∈ run.executed := by
  have each : ∀ id, ∀ subtask ∈ orchestrator.subtasks, subtask.id = id → id ∈ run.executed := by
    intro id
    -- A subtask that waits needs one that waits, and dependencies do not descend forever.
    induction id using wellFormed.acyclic.induction with
    | _ id ih =>
        intro subtask member same
        subst same
        by_contra waiting
        have dependencies : ∀ dep ∈ subtask.dependencies, dep ∈ run.executed := by
          intro dep declared
          have edge : dep ∈ orchestrator.dependsOn subtask.id := by
            rw [Orchestrator.dependsOn_of_mem member]
            exact declared
          obtain ⟨source, sourceMember, named⟩ :=
            mem_subtaskIds.mp (wellFormed.closed subtask member dep declared)
          exact ih dep edge source sourceMember named
        have ready : subtask ∈ orchestrator.findReadySubtasks run :=
          mem_findReadySubtasks.mpr ⟨member, waiting, dependencies⟩
        rw [none] at ready
        cases ready
  intro subtask member
  exact each subtask.id subtask member rfl

theorem Sound.all_of_card (sound : run.Sound orchestrator behaviour)
    (full : ¬ run.executed.card < orchestrator.subtasks.length) :
    ∀ subtask ∈ orchestrator.subtasks, subtask.id ∈ run.executed := by
  have within : run.executed ⊆ orchestrator.subtaskIds.toFinset := by
    intro id member
    exact mem_toFinset.mpr (sound.known id member)
  have size : orchestrator.subtaskIds.toFinset.card ≤ run.executed.card := by
    have bound := orchestrator.subtaskIds.toFinset_card_le
    rw [orchestrator.subtaskIds_length] at bound
    omega
  have same := Finset.eq_of_subset_of_card_le within size
  intro subtask member
  rw [same, mem_toFinset]
  exact id_mem member

theorem closeOut_eq (all : ∀ subtask ∈ orchestrator.subtasks, subtask.id ∈ run.executed) :
    orchestrator.closeOut run = { run with finished := true } := by
  have none : ∀ id, ¬ (id ∈ orchestrator.subtaskIds ∧ id ∉ run.executed) := by
    intro id leftover
    obtain ⟨subtask, member, same⟩ := mem_subtaskIds.mp leftover.1
    exact leftover.2 (same ▸ all subtask member)
  simp only [Orchestrator.closeOut, none, if_false]

theorem Sound.finish (sound : run.Sound orchestrator behaviour) :
    { run with finished := true }.Sound orchestrator behaviour := by
  constructor
  case known => exact sound.known
  case settled =>
    intro subtask member executed
    have earlier : subtask.id ∈ run.executed := executed
    exact (sound.settled subtask member earlier).carry earlier
      ⟨fun _ member => member, fun _ _ => rfl⟩
  case waiting => exact sound.waiting
  case flying => exact sound.flying
  case apart => exact sound.apart
  case batchDistinct => exact sound.batchDistinct
  case startedDistinct => exact sound.startedDistinct
  case started => exact sound.started

/-- Where the loop can stand: it has a batch in flight or it has executed everything. -/
structure Standing (orchestrator : Orchestrator) (maxParallel : Nat) (behaviour : Behaviour)
    (run : PlanRun) : Prop where
  sound : run.Sound orchestrator behaviour
  size : run.batch.length ≤ maxParallel
  running : run.finished = false → run.batch ≠ []
  atEnd : run.finished = true →
    run.batch = [] ∧ ∀ subtask ∈ orchestrator.subtasks, subtask.id ∈ run.executed

theorem Sound.atEnd (sound : run.Sound orchestrator behaviour) (landed : run.batch = [])
    (all : ∀ subtask ∈ orchestrator.subtasks, subtask.id ∈ run.executed) :
    (orchestrator.closeOut run).Standing orchestrator maxParallel behaviour := by
  rw [closeOut_eq all]
  refine ⟨sound.finish, ?_, nofun, fun _ => ⟨landed, all⟩⟩
  change run.batch.length ≤ maxParallel
  rw [landed]
  exact Nat.zero_le _

theorem Sound.takeTurn (sound : run.Sound orchestrator behaviour)
    (wellFormed : orchestrator.WellFormed) (positive : 1 ≤ maxParallel) (landed : run.batch = [])
    (going : run.finished = false) :
    (orchestrator.takeTurn maxParallel run).Standing orchestrator maxParallel behaviour := by
  unfold Orchestrator.takeTurn
  by_cases more : run.executed.card < orchestrator.subtasks.length
  · rw [if_pos more]
    have only :=
      skipBlockedSubtasks_only orchestrator.subtasks (orchestrator.subtasks.length + 1) run
    obtain ⟨after, unblocked⟩ :=
      sound.skipBlockedSubtasks wellFormed landed (orchestrator.subtasks.length + 1) (by omega)
    have stillLanded := only.batch.trans landed
    have stillGoing := only.finished.trans going
    generalize run.skipBlockedSubtasks orchestrator.subtasks (orchestrator.subtasks.length + 1) =
      skipped at *
    cases found : orchestrator.findReadySubtasks skipped with
    | nil =>
        simp only [found]
        exact after.atEnd stillLanded (all_executed wellFormed found)
    | cons first rest =>
        simp only [found]
        have launched := after.launch stillLanded unblocked maxParallel
        rw [found] at launched
        refine ⟨launched, ?_, ?_, ?_⟩
        · change (((first :: rest).take maxParallel).map SubTask.id).length ≤ maxParallel
          rw [length_map, length_take]
          exact Nat.min_le_left _ _
        · intro _ none
          change ((first :: rest).take maxParallel).map SubTask.id = [] at none
          rw [map_eq_nil_iff, take_eq_nil_iff] at none
          rcases none with zero | impossible
          · omega
          · cases impossible
        · intro finished
          change skipped.finished = true at finished
          rw [stillGoing] at finished
          cases finished
  · rw [if_neg more]
    exact sound.atEnd landed (sound.all_of_card more)

/-! ### One answer -/

theorem Sound.answer (sound : run.Sound orchestrator behaviour) {id : StepName} {lane : Lane}
    (flying : id ∈ run.batch) (answered : (run.lane id).answer behaviour id = some lane) :
    (run.setLane id lane).Sound orchestrator behaviour := by
  have fresh := (sound.apart id flying).2
  have continues : run.Continues (run.setLane id lane) := by
    refine ⟨fun _ member => member, ?_⟩
    intro other executed
    have differs : other ≠ id := by
      intro same
      exact fresh (same ▸ executed)
    exact update_of_ne differs _ _
  constructor
  case known => exact sound.known
  case settled =>
    intro subtask member executed
    have earlier : subtask.id ∈ run.executed := executed
    exact (sound.settled subtask member earlier).carry earlier continues
  case waiting =>
    intro other known waiting outside
    have differs : other ≠ id := fun same => outside (same ▸ flying)
    change ¬ (update run.status id _ other).Blocking
    rw [update_of_ne differs]
    exact sound.waiting other known waiting outside
  case flying =>
    intro subtask member inBatch
    obtain ⟨ready, truthful⟩ := sound.flying subtask member inBatch
    refine ⟨ready.carry continues, ?_⟩
    by_cases same : subtask.id = id
    · subst same
      simp only [setLane, update_self]
      exact truthful.answer answered
    · simp only [setLane, update_of_ne same]
      exact truthful
  case apart => exact sound.apart
  case batchDistinct => exact sound.batchDistinct
  case startedDistinct => exact sound.startedDistinct
  case started =>
    intro other
    change other ∈ run.started ↔ (other ∈ run.executed ∧
      update run.status id _ other ≠ .skipped) ∨ other ∈ run.batch
    rw [sound.started]
    by_cases same : other = id
    · rw [same]
      simp [flying]
    · rw [update_of_ne same]

/-! ### Whole runs -/

theorem Standing.next {event : PlanEvent} {after : PlanRun}
    (standing : run.Standing orchestrator maxParallel behaviour)
    (wellFormed : orchestrator.WellFormed) (positive : 1 ≤ maxParallel)
    (taken : orchestrator.planNext maxParallel behaviour run event = some after) :
    after.Standing orchestrator maxParallel behaviour := by
  have going : run.batch ≠ [] → run.finished = false := by
    intro flying
    by_contra atEnd
    exact flying (standing.atEnd (Bool.eq_true_of_not_eq_false atEnd)).1
  cases event with
  | answered id =>
      simp only [planNext] at taken
      split at taken
      · rename_i flying
        obtain ⟨lane, answered, same⟩ := Option.map_eq_some_iff.mp taken
        subst same
        refine ⟨standing.sound.answer flying answered, standing.size, standing.running, ?_⟩
        intro atEnd
        exact standing.atEnd atEnd
      · cases taken
  | gathered =>
      simp only [planNext] at taken
      split at taken
      · rename_i gathered
        cases taken
        have recorded := standing.sound.recordBatchResults gathered.2
        obtain ⟨results, items⟩ :=
          recordItems_spec run run.batch gathered.2 standing.sound.batchDistinct
        have still : run.recordBatchResults.finished = false := by
          unfold PlanRun.recordBatchResults
          rw [items]
          exact going gathered.1
        exact recorded.takeTurn wellFormed positive rfl still
      · cases taken

theorem Standing.start (wellFormed : orchestrator.WellFormed) (positive : 1 ≤ maxParallel)
    (fresh : ∀ id ∈ orchestrator.subtaskIds, ¬ (orchestrator.status id).Blocking) :
    (orchestrator.startPlan maxParallel).Standing orchestrator maxParallel behaviour := by
  have sound : Sound orchestrator behaviour { status := orchestrator.status } := by
    constructor
    case known => exact nofun
    case settled => exact nofun
    case waiting =>
      intro id known _ _
      exact fresh id known
    case flying => exact nofun
    case apart => exact nofun
    case batchDistinct => exact nodup_nil
    case startedDistinct => exact nodup_nil
    case started =>
      intro id
      simp
  exact sound.takeTurn wellFormed positive rfl rfl

theorem Standing.executed_iff (standing : run.Standing orchestrator maxParallel behaviour)
    (atEnd : run.finished = true) (id : StepName) :
    id ∈ run.executed ↔ id ∈ orchestrator.subtaskIds := by
  constructor
  · exact standing.sound.known id
  · intro known
    obtain ⟨subtask, member, same⟩ := mem_subtaskIds.mp known
    exact same ▸ (standing.atEnd atEnd).2 subtask member

theorem Standing.started_iff (standing : run.Standing orchestrator maxParallel behaviour)
    (atEnd : run.finished = true) (id : StepName) :
    id ∈ run.started ↔ id ∈ run.executed ∧ run.status id ≠ .skipped := by
  rw [standing.sound.started, (standing.atEnd atEnd).1]
  exact or_iff_left not_mem_nil

end

end PlanRun

end AgenticRuntime
