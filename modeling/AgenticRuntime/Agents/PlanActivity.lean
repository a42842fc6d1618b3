/-
What a run of a plan makes the agents do.

Executing a plan invokes no agent for a subtask that has succeeded, and what succeeds
is in the log.
-/

import AgenticRuntime.Agents.EntryPoints

namespace AgenticRuntime

open List Function Lane

/-! ### Logs -/

theorem AtMostOnce.append {log more : List Activity} (once : AtMostOnce log)
    (fresh : ∀ entry ∈ log, entry.Succeeds → ∀ later ∈ more, later.subtask ≠ entry.subtask)
    (within : AtMostOnce more) : AtMostOnce (log ++ more) := by
  apply pairwise_append.mpr
  refine ⟨once, within, ?_⟩
  intro entry member later added succeeds
  exact fresh entry member succeeds later added

theorem atMostOnce_of_invoked {log : List Activity} (none : ∀ entry ∈ log, ¬ entry.Succeeds) :
    AtMostOnce log := by
  apply List.Pairwise.imp_of_mem (R := fun _ _ => True)
  · intro entry later member _ _ succeeds
    exact absurd succeeds (none entry member)
  · exact pairwise_of_forall fun _ _ => trivial

theorem Lane.activity_subtask {id : StepName} {lane : Lane} {entry : Activity}
    (member : entry ∈ lane.activity id) : entry.subtask = id := by
  unfold activity at member
  split at member
  · rw [mem_singleton.mp member]
    rfl
  · rw [mem_singleton.mp member]
    rfl
  · cases member

theorem Lane.activity_once (id : StepName) (lane : Lane) : AtMostOnce (lane.activity id) := by
  unfold activity AtMostOnce
  split
  · exact pairwise_singleton _ _
  · exact pairwise_singleton _ _
  · exact List.Pairwise.nil

theorem Lane.activity_pending {id : StepName} {lane : Lane} (pending : lane.isDone = false)
    {entry : Activity} (member : entry ∈ lane.activity id) : ¬ entry.Succeeds := by
  cases lane with
  | trying attempted agent fallbacks =>
      rw [mem_singleton.mp member]
      exact not_false
  | escalating attempted => cases member
  | done item => cases pending

theorem Lane.tryNext_pending (attempted : List (AgentName × String)) (chain : List AgentName) :
    (tryNext attempted chain).isDone = false := by
  cases chain <;> rfl

namespace PlanRun

/-! ### One execution of a plan -/

structure Accounted (run : PlanRun) (log : List Activity) : Prop where
  once : AtMostOnce log
  successes : ∀ entry ∈ log, entry.Succeeds → entry.subtask ∈ run.executed ∨
    entry.subtask ∈ run.batch ∧ (run.lane entry.subtask).isDone = true
  flown : ∀ id ∈ run.batch, ∀ agent, run.lane id = .done (.returned (.output agent)) →
    .succeeded id agent ∈ log
  success : ∀ id ∈ run.executed, run.status id = .success → ∃ agent, .succeeded id agent ∈ log

variable {orchestrator : Orchestrator} {behaviour : Behaviour} {maxParallel : Nat}
  {run : PlanRun} {log : List Activity}

theorem Accounted.launch (accounted : run.Accounted log) (landed : run.batch = [])
    {skipped : PlanRun} (only : run.SkipsOnly skipped) (batch : List StepName)
    (waiting : ∀ id ∈ batch, id ∉ skipped.executed) :
    (orchestrator.launch skipped batch).Accounted
      (log ++ (orchestrator.launch skipped batch).batchActivity) := by
  have lanes : ∀ id ∈ batch, (orchestrator.launch skipped batch).lane id =
      .tryNext [] (orchestrator.candidates id) := fun id member => if_pos member
  have pending : ∀ id ∈ batch, ((orchestrator.launch skipped batch).lane id).isDone = false := by
    intro id member
    rw [lanes id member]
    exact tryNext_pending _ _
  have added : ∀ entry ∈ (orchestrator.launch skipped batch).batchActivity,
      entry.subtask ∈ batch ∧ ¬ entry.Succeeds := by
    intro entry member
    obtain ⟨id, flying, listed⟩ := mem_flatMap.mp member
    rw [activity_subtask listed]
    exact ⟨flying, activity_pending (pending id flying) listed⟩
  have earlier : ∀ entry ∈ log, entry.Succeeds → entry.subtask ∈ skipped.executed := by
    intro entry member succeeds
    rcases accounted.successes entry member succeeds with executed | ⟨flying, _⟩
    · exact only.continues.executed executed
    · rw [landed] at flying
      cases flying
  constructor
  · apply accounted.once.append
    · intro entry member succeeds later new same
      apply waiting later.subtask (added later new).1
      rw [same]
      exact earlier entry member succeeds
    · exact atMostOnce_of_invoked fun entry member => (added entry member).2
  · intro entry member succeeds
    rcases mem_append.mp member with old | new
    · exact .inl (earlier entry old succeeds)
    · exact absurd succeeds (added entry new).2
  · intro id flying agent done
    have unfinished := pending id flying
    rw [done] at unfinished
    cases unfinished
  · intro id executed status
    have kept : (orchestrator.launch skipped batch).status id = skipped.status id :=
      if_neg fun flying => waiting id flying executed
    rw [kept] at status
    by_cases before : id ∈ run.executed
    · rw [only.continues.status id before] at status
      obtain ⟨agent, listed⟩ := accounted.success id before status
      exact ⟨agent, mem_append_left _ listed⟩
    · rw [only.skipped id executed before] at status
      cases status

theorem Accounted.takeTurn (orchestrator : Orchestrator) (maxParallel : Nat)
    (accounted : run.Accounted log) (landed : run.batch = []) :
    (orchestrator.takeTurn maxParallel run).Accounted
      (log ++ (orchestrator.takeTurn maxParallel run).batchActivity) := by
  have close : ∀ skipped, run.SkipsOnly skipped → (orchestrator.closeOut skipped).Accounted
      (log ++ (orchestrator.closeOut skipped).batchActivity) := by
    intro skipped only
    have quiet : (orchestrator.closeOut skipped).batchActivity = [] := by
      change skipped.batch.flatMap _ = []
      rw [only.batch, landed]
      rfl
    rw [quiet, append_nil]
    constructor
    · exact accounted.once
    · intro entry member succeeds
      rcases accounted.successes entry member succeeds with executed | ⟨flying, _⟩
      · exact .inl (only.continues.executed executed)
      · rw [landed] at flying
        cases flying
    · intro id flying
      change id ∈ skipped.batch at flying
      rw [only.batch, landed] at flying
      cases flying
    · intro id executed status
      have member : id ∈ skipped.executed := executed
      have kept : (orchestrator.closeOut skipped).status id = skipped.status id :=
        if_neg fun leftover => leftover.2 member
      rw [kept] at status
      by_cases before : id ∈ run.executed
      · rw [only.continues.status id before] at status
        exact accounted.success id before status
      · rw [only.skipped id member before] at status
        cases status
  unfold Orchestrator.takeTurn
  split
  · have only :=
      skipBlockedSubtasks_only orchestrator.subtasks (orchestrator.subtasks.length + 1) run
    dsimp only
    cases found : orchestrator.findReadySubtasks
        (run.skipBlockedSubtasks orchestrator.subtasks (orchestrator.subtasks.length + 1)) with
    | nil => exact close _ only
    | cons first rest =>
        apply accounted.launch landed only
        intro id member
        obtain ⟨subtask, chosen, same⟩ := mem_map.mp member
        have ready := mem_of_mem_take chosen
        rw [← found] at ready
        rw [← same]
        exact (mem_findReadySubtasks.mp ready).2.1
  · exact close run (.refl run)

theorem Accounted.answer (accounted : run.Accounted log) {id : StepName} {lane : Lane}
    (flying : id ∈ run.batch) (waiting : id ∉ run.executed)
    (answered : (run.lane id).answer behaviour id = some lane) :
    (run.setLane id lane).Accounted (log ++ lane.activity id) := by
  have open_ : (run.lane id).isDone = false := by
    cases before : run.lane id with
    | done item =>
        rw [before] at answered
        cases answered
    | _ => rfl
  have unsuccessful : ∀ entry ∈ log, entry.Succeeds → entry.subtask ≠ id := by
    intro entry member succeeds same
    rcases accounted.successes entry member succeeds with executed | ⟨_, done⟩
    · exact waiting (same ▸ executed)
    · rw [same, open_] at done
      cases done
  constructor
  · apply accounted.once.append
    · intro entry member succeeds later new same
      rw [activity_subtask new] at same
      exact unsuccessful entry member succeeds same.symm
    · exact activity_once id lane
  · intro entry member succeeds
    rcases mem_append.mp member with old | new
    · have differs := unsuccessful entry old succeeds
      rcases accounted.successes entry old succeeds with executed | ⟨inBatch, done⟩
      · exact .inl executed
      · refine .inr ⟨inBatch, ?_⟩
        change (update run.lane id lane entry.subtask).isDone = true
        rw [update_of_ne differs]
        exact done
    · have same := activity_subtask new
      refine .inr ⟨same ▸ flying, ?_⟩
      change (update run.lane id lane entry.subtask).isDone = true
      rw [same, update_self]
      by_contra pending
      exact activity_pending (Bool.eq_false_of_not_eq_true pending) new succeeds
  · intro other inBatch agent done
    change update run.lane id lane other = _ at done
    by_cases same : other = id
    · subst same
      rw [update_self] at done
      rw [done]
      exact mem_append_right _ mem_cons_self
    · rw [update_of_ne same] at done
      exact mem_append_left _ (accounted.flown other inBatch agent done)
  · intro other executed status
    have differs : other ≠ id := fun same => waiting (same ▸ executed)
    change update run.status id _ other = _ at status
    rw [update_of_ne differs] at status
    obtain ⟨agent, listed⟩ := accounted.success other executed status
    exact ⟨agent, mem_append_left _ listed⟩

theorem Accounted.recordBatchResults (accounted : run.Accounted log)
    (sound : run.Sound orchestrator behaviour)
    (done : ∀ id ∈ run.batch, (run.lane id).isDone = true) :
    run.recordBatchResults.Accounted log := by
  obtain ⟨results, recorded⟩ := recordItems_spec run run.batch done sound.batchDistinct
  unfold PlanRun.recordBatchResults
  rw [recorded]
  constructor
  · exact accounted.once
  · intro entry member succeeds
    left
    rcases accounted.successes entry member succeeds with executed | ⟨flying, _⟩
    · exact Finset.mem_union_left _ executed
    · exact Finset.mem_union_right _ (mem_toFinset.mpr flying)
  · intro id impossible
    cases impossible
  · intro id executed status
    by_cases flying : id ∈ run.batch
    · simp only [if_pos flying] at status
      have finished := done id flying
      cases lane : run.lane id with
      | trying attempted agent fallbacks | escalating attempted =>
          rw [lane] at finished
          cases finished
      | done item =>
          obtain ⟨subtask, member, same⟩ := mem_map.mp (sound.apart id flying).1
          subst same
          have truthful := (sound.flying subtask member flying).2
          rw [lane] at status truthful
          cases item with
          | returned result =>
              cases result with
              | output agent => exact ⟨agent, accounted.flown subtask.id flying agent lane⟩
              | _ =>
                  have failed : run.status subtask.id = .failed := truthful.2
                  change run.status subtask.id = .success at status
                  rw [failed] at status
                  cases status
          | errorValue message | raised message => cases status
    · simp only [if_neg flying] at status
      rcases Finset.mem_union.mp executed with earlier | inBatch
      · exact accounted.success id earlier status
      · exact absurd (mem_toFinset.mp inBatch) flying

structure Logged (orchestrator : Orchestrator) (maxParallel : Nat) (behaviour : Behaviour)
    (state : PlanRun × List Activity) : Prop where
  standing : state.1.Standing orchestrator maxParallel behaviour
  accounted : state.1.Accounted state.2

theorem Logged.start (wellFormed : orchestrator.WellFormed) (positive : 1 ≤ maxParallel)
    (fresh : ∀ id ∈ orchestrator.subtaskIds, ¬ (orchestrator.status id).Blocking) :
    Logged orchestrator maxParallel behaviour (orchestrator.planBegins maxParallel) := by
  have empty : PlanRun.Accounted { status := orchestrator.status } [] :=
    ⟨List.Pairwise.nil, nofun, nofun, nofun⟩
  exact ⟨.start wellFormed positive fresh, empty.takeTurn orchestrator maxParallel rfl⟩

theorem Logged.next (wellFormed : orchestrator.WellFormed) (positive : 1 ≤ maxParallel)
    {state after : PlanRun × List Activity} {event : PlanEvent}
    (logged : Logged orchestrator maxParallel behaviour state)
    (taken : orchestrator.planMoves maxParallel behaviour state event = some after) :
    Logged orchestrator maxParallel behaviour after := by
  obtain ⟨moved, emitted⟩ := Transition.logged_some taken
  refine ⟨logged.standing.next wellFormed positive moved, ?_⟩
  rw [emitted]
  cases event with
  | answered id =>
      simp only [Orchestrator.planNext] at moved
      split at moved
      · rename_i flying
        obtain ⟨lane, answered, same⟩ := Option.map_eq_some_iff.mp moved
        have waiting := (logged.standing.sound.apart id flying).2
        have step := logged.accounted.answer flying waiting answered
        rw [same] at step
        have reached : after.1.lane id = lane := by
          rw [← same]
          exact update_self ..
        rw [PlanRun.activity, reached]
        exact step
      · cases moved
  | gathered =>
      simp only [Orchestrator.planNext] at moved
      split at moved
      · rename_i gathered
        have recorded := logged.accounted.recordBatchResults logged.standing.sound gathered.2
        have turned := recorded.takeTurn orchestrator maxParallel rfl
        rw [Option.some.inj moved] at turned
        exact turned
      · cases moved

end PlanRun

end AgenticRuntime
