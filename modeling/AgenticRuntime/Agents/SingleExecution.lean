/-
How often the entry points of an orchestrator execute a subtask.

`run` and `run_adaptive` execute the plan. `execute_as_dag` and `execute_as_pipeline`
execute it as well and then hand its subtasks to an engine that executes them again.
-/

import AgenticRuntime.Agents.PlanActivity
import AgenticRuntime.Engine.BodyReached

namespace AgenticRuntime

open List Orchestrator Transition StepExecutor DAGExecutor Option

/-! ### The plan of a call -/

namespace OrchestratorCall

open PlanRun

variable {call : OrchestratorCall}

theorem registered_cases (call : OrchestratorCall) :
    call.entry = .runAdaptive ∧
        call.registered = (recruit call.crew).registerSubtasks call.plan ∨
      call.entry ≠ .runAdaptive ∧
        call.registered = (recruit call.crew).installPlan 0 call.plan := by
  unfold registered
  cases call.entry with
  | runAdaptive => exact .inl ⟨rfl, rfl⟩
  | run | executeAsDag ctx workflowId | executeAsPipeline ctx hasTask => exact .inr ⟨nofun, rfl⟩

theorem direct_of_planned (planned : call.entry ≠ .runAdaptive) :
    call.registered = (recruit call.crew).installPlan 0 call.plan := by
  rcases call.registered_cases with ⟨adaptive, _⟩ | ⟨_, same⟩
  · exact absurd adaptive planned
  · exact same

theorem registered_agents (call : OrchestratorCall) :
    call.registered.agents = call.crew.agents := by
  rcases call.registered_cases with ⟨_, same⟩ | ⟨_, same⟩
  · rw [same]
    exact (installEach_agents _ _).1
  · rw [same]
    exact (installPlan_agents _ _ _).1

theorem registered_clear (call : OrchestratorCall) :
    ∀ id ∈ call.registered.subtaskIds, call.registered.Untouched id := by
  intro id known
  rcases call.registered_cases with ⟨_, same⟩ | ⟨_, same⟩
  · rw [same] at known ⊢
    have plan : (registerSubtasks (recruit call.crew) call.plan).SamePlan
        (registerSubtasks (recruit call.crew) call.plan) :=
      registerSubtasks_same call.plan rfl rfl
    exact plan.leftClear id known
  · rw [same] at known ⊢
    apply installPlan_untouched
    exact ((installPlan_ids _ 0 call.plan id).mp known).elim nofun Or.inl

theorem assigned_fresh (call : OrchestratorCall) :
    ∀ id ∈ call.assigned.subtaskIds, ¬ (call.assigned.status id).Blocking := by
  intro id known
  rw [subtaskIds, assigned, assignAgents_subtasks] at known
  rw [assigned, assignAgents_status, (call.registered_clear id known).status]
  decide

theorem assigned_wellFormed (valid : call.registered.validatePlan = .ok ()) :
    call.assigned.WellFormed := by
  apply call.assigned.validatePlan_ok_iff.mp
  rw [← valid]
  exact validatePlan_congr call.registered.assignAgents_subtasks

theorem plan_logged (valid : call.registered.validatePlan = .ok ())
    (positive : 1 ≤ call.maxParallel) {schedule : List PlanEvent}
    {state : PlanRun × List Activity}
    (replayed : replay (call.assigned.planMoves call.maxParallel call.behaviour)
      (call.assigned.planBegins call.maxParallel) schedule = some state) :
    Logged call.assigned call.maxParallel call.behaviour state := by
  have wellFormed := assigned_wellFormed valid
  apply replay_invariant _ (.start wellFormed positive call.assigned_fresh) replayed
  intro before event after logged taken
  exact logged.next wellFormed positive taken

variable {log : List Activity}

theorem delivered_of_finished {run : PlanRun}
    (logged : Logged call.assigned call.maxParallel call.behaviour (run, log))
    (atEnd : run.finished = true)
    (finished : ∀ id ∈ call.assigned.subtaskIds, ¬ (run.status id).Blocking) :
    ∀ id ∈ call.assigned.subtaskIds, call.behaviour.Delivers call.assigned id ∧
      ∃ agent, .succeeded id agent ∈ log := by
  intro id known
  obtain ⟨subtask, member, same⟩ := mem_map.mp known
  subst same
  have executed := (logged.standing.atEnd atEnd).2 subtask member
  have settled := logged.standing.sound.settled subtask member executed
  have status := settled.success (finished subtask.id known)
  refine ⟨?_, logged.accounted.success subtask.id executed status⟩
  by_contra undelivered
  cases settled with
  | skipped _ _ _ _ skipped =>
      rw [status] at skipped
      cases skipped
  | ran _ ended =>
      rw [if_neg undelivered, status] at ended
      cases ended

theorem finished_of_delivered {run : PlanRun} (valid : call.registered.validatePlan = .ok ())
    (logged : Logged call.assigned call.maxParallel call.behaviour (run, log))
    (atEnd : run.finished = true)
    (delivered : ∀ id ∈ call.assigned.subtaskIds, call.behaviour.Delivers call.assigned id) :
    ∀ id ∈ call.assigned.subtaskIds, run.status id = .success := by
  have wellFormed := assigned_wellFormed valid
  intro id
  induction id using wellFormed.acyclic.induction with
  | _ id ih =>
      intro known
      obtain ⟨subtask, member, same⟩ := mem_map.mp known
      subst same
      have executed := (logged.standing.atEnd atEnd).2 subtask member
      have clear : ¬ ∃ dep ∈ call.assigned.dependsOn subtask.id, (run.status dep).Blocking := by
        rintro ⟨dep, edge, blocks⟩
        have declared := edge
        rw [dependsOn_of_mem member] at declared
        rw [ih dep edge (wellFormed.closed subtask member dep declared)] at blocks
        rcases blocks with impossible | impossible <;> cases impossible
      rw [logged.standing.sound.solves member executed, planRule, if_neg clear,
        if_pos (delivered subtask.id known)]

theorem exists_finished (valid : call.registered.validatePlan = .ok ())
    (positive : 1 ≤ call.maxParallel) : ∃ schedule run log,
    replay (call.assigned.planMoves call.maxParallel call.behaviour)
      (call.assigned.planBegins call.maxParallel) schedule = some (run, log) ∧
    run.finished = true := by
  have wellFormed := assigned_wellFormed valid
  have preserved : ∀ run event after,
      run.Standing call.assigned call.maxParallel call.behaviour →
      call.assigned.planNext call.maxParallel call.behaviour run event = some after →
      after.Standing call.assigned call.maxParallel call.behaviour :=
    fun _ _ _ standing taken => standing.next wellFormed positive taken
  have start : (call.assigned.startPlan call.maxParallel).Standing call.assigned
      call.maxParallel call.behaviour := .start wellFormed positive call.assigned_fresh
  obtain ⟨run, ⟨schedule, replayed⟩, stuck⟩ := exists_stuck preserved
    (fun _ _ _ standing taken => planNext_lowers standing taken) start
  have logged : ∃ log, replay (call.assigned.planMoves call.maxParallel call.behaviour)
      (call.assigned.planBegins call.maxParallel) schedule = some (run, log) :=
    exists_logged replayed _
  obtain ⟨log, whole⟩ := logged
  refine ⟨schedule, run, log, whole, ?_⟩
  by_contra going
  have standing := replay_invariant preserved start replayed
  obtain ⟨event, enabled⟩ := planNext_enabled standing
    (Bool.eq_false_of_not_eq_true going)
  rw [stuck event] at enabled
  cases enabled

/-! ### What `run` hands on -/

/-- The subtasks `run` reports, their agents, and what has been done for them. -/
structure HandedOn (call : OrchestratorCall) (log : List Activity) (done : Orchestrator)
    (output : OrchestratorOutput) : Prop where
  once : AtMostOnce log
  subtasks : output.subtasks = (planned 0 call.plan).map SubTask.view
  assignments : output.agentAssignments = call.registered.assignments
  agents : done.agents = call.registered.agents
  delivered : call.crew.agents ≠ [] → output.success = true → ∀ id ∈ call.assigned.subtaskIds,
    call.behaviour.Delivers call.assigned id ∧ ∃ agent, .succeeded id agent ∈ log

theorem assignments_done (call : OrchestratorCall) (status : StepName → StepStatus) :
    assignments { call.assigned with status } = call.registered.assignments :=
  assignments_congr call.registered.assignAgents_subtasks
    call.registered.assignAgents_capabilities

theorem Decomposed.handedOn {done : Orchestrator} {output : OrchestratorOutput}
    (decomposed : call.Decomposed log done output) (valid : call.registered.validatePlan = .ok ())
    (positive : 1 ≤ call.maxParallel)
    (direct : call.registered = (recruit call.crew).installPlan 0 call.plan) :
    call.HandedOn log done output := by
  obtain ⟨schedule, parsed, kept⟩ := decomposed.ran
  rcases parseOutput_some parsed with ⟨rejected, _⟩ | ⟨_, carried⟩
  · rw [← direct] at rejected
    exact absurd valid rejected
  · rw [← direct] at carried
    cases carried with
    | idle unstaffed =>
        rw [call.registered_agents] at unstaffed
        rcases kept with ⟨_, none⟩ | ⟨staffed, _⟩
        · rw [none]
          exact ⟨List.Pairwise.nil, rfl, call.assignments_done _,
            call.registered.assignAgents_agents, fun staffed => absurd unstaffed staffed⟩
        · exact absurd unstaffed staffed
    | @executed staffed run ran =>
        rw [call.registered_agents] at staffed
        rcases kept with ⟨unstaffed, _⟩ | ⟨_, finish, replayed⟩
        · exact absurd unstaffed staffed
        · have logged := plan_logged valid positive replayed
          have same : finish = run ∧ run.finished = true := by
            have plain := replay_of_logged replayed
            unfold executePlan at ran
            change replay (call.assigned.planNext call.maxParallel call.behaviour)
              (call.assigned.startPlan call.maxParallel) schedule = some finish at plain
            rw [← assigned, plain] at ran
            dsimp only at ran
            split at ran
            · rename_i atEnd
              cases ran
              exact ⟨rfl, atEnd⟩
            · cases ran
          obtain ⟨same, atEnd⟩ := same
          subst same
          refine ⟨logged.accounted.once, rfl, call.assignments_done _,
            call.registered.assignAgents_agents, fun _ succeeded => ?_⟩
          apply delivered_of_finished logged atEnd
          intro id known blocks
          have unfinished : unfinishedSubtasks
              { call.assigned with status := finish.status } = [] := of_decide_eq_true succeeded
          have listed : id ∈ unfinishedSubtasks
              { call.assigned with status := finish.status } :=
            mem_filter.mpr ⟨known, decide_eq_true blocks⟩
          rw [unfinished] at listed
          cases listed

/-- Where every subtask is delivered, `run` comes to hand the subtasks on. -/
theorem exists_decomposed (valid : call.registered.validatePlan = .ok ())
    (positive : 1 ≤ call.maxParallel) (staffed : call.crew.agents ≠ [])
    (direct : call.registered = (recruit call.crew).installPlan 0 call.plan)
    (delivered : ∀ id ∈ call.registered.subtaskIds, call.behaviour.Delivers call.assigned id) :
    ∃ log done output, call.Decomposed log done output ∧ output.success = true := by
  have everyId : ∀ id ∈ call.assigned.subtaskIds, call.behaviour.Delivers call.assigned id := by
    intro id known
    rw [subtaskIds, assigned, assignAgents_subtasks] at known
    exact delivered id known
  obtain ⟨schedule, run, log, replayed, atEnd⟩ := exists_finished valid positive
  have logged := plan_logged valid positive replayed
  have statuses := finished_of_delivered valid logged atEnd everyId
  have ran : call.assigned.executePlan call.maxParallel call.behaviour schedule = some run := by
    have plain := replay_of_logged replayed
    unfold executePlan
    change replay (call.assigned.planNext call.maxParallel call.behaviour)
      (call.assigned.startPlan call.maxParallel) schedule = some run at plain
    rw [plain]
    exact if_pos atEnd
  let done : Orchestrator := { call.assigned with status := run.status }
  let views := (planned 0 call.plan).map SubTask.view
  have parsed : (recruit call.crew).parseOutput call.maxParallel call.behaviour
      schedule call.plan = some (done, done.report views (some run)) := by
    have accepted : ((recruit call.crew).installPlan 0 call.plan).validatePlan =
        .ok () := direct ▸ valid
    have manned : call.assigned.agents ≠ [] := by
      rw [assigned, assignAgents_agents, call.registered_agents]
      exact staffed
    simp only [parseOutput, accepted]
    rw [← direct, carryOut]
    change (if call.assigned.agents = [] then _ else _) = _
    rw [if_neg manned]
    change (call.assigned.executePlan call.maxParallel call.behaviour schedule).map _ = _
    rw [ran]
    rfl
  refine ⟨log, done, done.report views (some run),
    ⟨schedule, parsed, .inr ⟨staffed, run, replayed⟩⟩, ?_⟩
  have none : done.unfinishedSubtasks = [] := by
    apply filter_eq_nil_iff.mpr
    intro id known blocks
    have blocked : (run.status id).Blocking := of_decide_eq_true blocks
    rw [statuses id known] at blocked
    rcases blocked with impossible | impossible <;> cases impossible
  exact decide_eq_true none

theorem HandedOn.staffed {done : Orchestrator} {output : OrchestratorOutput}
    (handed : call.HandedOn log done output) :
    ((output.subtasks.map SubTaskView.id).filter fun id =>
      (done.stepAgent output id).isSome) = call.staffedIds := by
  rw [handed.subtasks, views_ids, staffedIds]
  apply filter_congr
  intro id _
  rw [stepAgent, handed.assignments, handed.agents]
  by_cases registered : (call.registered.assignments id).getD "" ∈ call.registered.agents
  · simp only [registered, if_true, isSome_some, decide_true]
  · simp only [registered, if_false, isSome_none, decide_false]

theorem mem_staffedIds {id : StepName} (member : id ∈ call.staffedIds)
    (direct : call.registered = (recruit call.crew).installPlan 0 call.plan) :
    id ∈ call.assigned.subtaskIds ∧ call.crew.agents ≠ [] := by
  obtain ⟨planned_, staffed⟩ := mem_filter.mp member
  constructor
  · rw [subtaskIds, assigned, assignAgents_subtasks, direct]
    exact (installPlan_ids _ 0 call.plan id).mpr (.inr planned_)
  · rw [← call.registered_agents]
    exact ne_nil_of_mem (of_decide_eq_true staffed)

/-! ### The DAG of a call -/

section

variable {log : List Activity} {done : Orchestrator} {output : OrchestratorOutput} {dag : DAG}

theorem HandedOn.dag_steps (handed : call.HandedOn log done output)
    (built : done.buildDag call.timeoutSeconds call.name output = .ok (some dag)) :
    output.success = true ∧ dag.stepNames = call.staffedIds ∧
      ∀ step ∈ dag.steps, step.dependsOn = [] ∧ step.func = true ∧ 0 ≤ step.maxRetries := by
  obtain ⟨succeeded, steps⟩ := buildDag_steps built
  refine ⟨succeeded, ?_, ?_⟩
  · rw [DAG.stepNames, steps, stepsOf_names, handed.staffed]
  · intro step member
    rw [steps, stepsOf, mem_filterMap] at member
    obtain ⟨view, reported, shape⟩ := member
    obtain ⟨agent, _, same⟩ := map_eq_some_iff.mp shape
    rw [handed.subtasks] at reported
    obtain ⟨subtask, _, viewed⟩ := mem_map.mp reported
    rw [← same, ← viewed]
    have tries : (0 : Int) ≤ 3 := by decide
    exact ⟨rfl, rfl, tries⟩

theorem HandedOn.dag_valid (handed : call.HandedOn log done output)
    (built : done.buildDag call.timeoutSeconds call.name output = .ok (some dag)) :
    dag.validate = .ok () ↔ call.staffedIds ≠ [] := by
  obtain ⟨_, names, steps⟩ := handed.dag_steps built
  have free : ∀ id, dag.dependsOn id = [] := by
    intro id
    by_cases known : id ∈ dag.stepNames
    · obtain ⟨step, member, same⟩ := mem_map.mp known
      rw [← same, dag.dependsOn_of_mem member]
      exact (steps step member).1
    · exact dependenciesOf_absent known
  rw [dag.validate_ok_iff, ← names, DAG.stepNames, ne_eq, ne_eq, map_eq_nil_iff]
  constructor
  · exact fun valid => valid.1
  · intro nonempty
    refine ⟨nonempty, ?_, ⟨?_⟩⟩
    · intro name dep edge
      rw [free] at edge
      cases edge
    · intro id
      refine ⟨id, ?_⟩
      intro dep edge
      rw [free] at edge
      cases edge

theorem carries_logged (settings : Settings) (step : StepName)
    (emit : Run Point → Event Input → Run Point →
      List Activity) :
    DAGExecutor.Carries settings step
      (logged (next executor settings) emit) Prod.fst := by
  have lifts : ∀ (state : Run Point × List Activity) event after,
      next executor settings state.1 event = some after →
      ∃ later, logged (next executor settings) emit state
        event = some later ∧ later.1 = after := by
    intro state event after taken
    refine ⟨(after, state.2 ++ emit state.1 event after), ?_, rfl⟩
    simp only [logged, taken, map_some]
  have permits : Input.Permits {} := ⟨rfl, rfl, rfl⟩
  constructor
  · intro state event _ after taken
    exact lifts state event after taken
  · intro state
    exact ⟨{}, permits, fun after taken => lifts state _ after taken⟩
  · intro state point _ _
    exact ⟨{}, permits, fun after taken => lifts state _ after taken⟩

theorem logged_of_inBody {settings : Settings} {agentOf : StepName → Option AgentName}
    {names : List StepName} {step : StepName} {agent : AgentName} (named : step ∈ names)
    (staffed : agentOf step = some agent) {first run : Run Point}
    {more : List Activity} {events : List (Event Input)}
    (idle : ¬ first.InBody step)
    (replayed : replay
      (logged (next executor settings)
        fun before _ after => bodiesEntered agentOf names before after)
      (first, []) events = some (run, more)) (body : run.InBody step) :
    .invoked step agent ∈ more := by
  have whole : ∀ state, replay
      (logged (next executor settings)
        fun before _ after => bodiesEntered agentOf names before after)
      (first, []) events = some state → state.1.InBody step → .invoked step agent ∈ state.2 := by
    intro state
    apply replay_invariant
    · intro before event after earlier taken entered
      obtain ⟨_, emitted⟩ := logged_some taken
      rw [emitted]
      by_cases same : after.1.state.task step = before.1.state.task step
      · obtain ⟨frame, current⟩ := entered
        exact mem_append_left _ (earlier ⟨frame, same.symm.trans current⟩)
      · obtain ⟨frame, current⟩ := entered
        apply mem_append_right
        apply mem_flatMap.mpr
        refine ⟨step, named, ?_⟩
        simp only [current, staffed, toList_some, map_singleton]
        rw [if_neg]
        · exact mem_singleton_self _
        · rw [← current]
          exact same
    · exact fun entered => absurd entered idle
  exact whole (run, more) replayed body

theorem HandedOn.dag_invokes (handed : call.HandedOn log done output)
    (positive : 1 ≤ call.maxParallel)
    (built : done.buildDag call.timeoutSeconds call.name output = .ok (some dag))
    (staffed : call.staffedIds ≠ []) (ctx : Context) (workflowId : String) :
    ∃ first events run more id agent,
      execute (call.settings dag) ctx workflowId = .ok first ∧
      replay
        (logged (next executor (call.settings dag))
          fun before _ after => bodiesEntered (done.stepAgent output) dag.stepNames before after)
        (first, []) events = some (run, more) ∧
      id ∈ call.staffedIds ∧ .invoked id agent ∈ more := by
  obtain ⟨_, names, steps⟩ := handed.dag_steps built
  have valid := (handed.dag_valid built).mpr staffed
  obtain ⟨id, rest, split⟩ := exists_cons_of_ne_nil staffed
  have member : id ∈ call.staffedIds := by rw [split]; exact mem_cons_self
  have named : id ∈ dag.stepNames := by rw [names]; exact member
  obtain ⟨definition, known, _⟩ := dag.lookup_of_mem named
  obtain ⟨root, func, tries⟩ := steps definition (mem_of_find?_eq_some known)
  have free : ∀ name ∈ dag.stepNames, dag.dependsOn name = [] := by
    intro name listed
    obtain ⟨step, present, same⟩ := mem_map.mp listed
    rw [← same, dag.dependsOn_of_mem present]
    exact (steps step present).1
  have queued : id ∈ (dag.stepNames.filter fun name =>
      (dag.dependsOn name).length = 0).take ((call.settings dag).maxConcurrency).toNat := by
    have whole : (dag.stepNames.filter fun name => (dag.dependsOn name).length = 0) =
        dag.stepNames := by
      apply filter_eq_self.mpr
      intro name listed
      rw [free name listed]
      rfl
    rw [whole, names, split]
    obtain ⟨bound, same⟩ : ∃ bound, call.maxParallel = bound + 1 := ⟨call.maxParallel - 1, by omega⟩
    change id ∈ List.take ((call.maxParallel : Int)).toNat (id :: rest)
    rw [Int.toNat_natCast, same]
    exact mem_cons_self
  obtain ⟨agent, assigned⟩ : ∃ agent, done.stepAgent output id = some agent := by
    rw [← handed.staffed] at member
    exact isSome_iff_exists.mp (mem_filter.mp member).2
  obtain ⟨events, ⟨run, more⟩, replayed, body⟩ :=
    (carries_logged (call.settings dag) id fun before _ after =>
      bodiesEntered (done.stepAgent output) dag.stepNames before after).reaches_body known root func
      tries queued (start (call.settings dag) ctx workflowId, []) ctx workflowId rfl
  refine ⟨_, events, run, more, id, agent, ?_, replayed, member,
    logged_of_inBody named assigned ?_ replayed body⟩
  · apply execute_ok_iff.mpr
    refine ⟨?_, valid, rfl⟩
    change 1 ≤ (call.maxParallel : Int)
    omega
  · rintro ⟨frame, impossible⟩
    cases impossible

end

/-! ### The pipeline of a call -/

section

variable {log : List Activity} {done : Orchestrator} {output : OrchestratorOutput}
  {elements : List PipelineStep}

theorem buildPipeline_elements
    (built : done.buildPipeline call.configName call.timeoutSeconds output = some elements) :
    output.success = true ∧ elements = output.subtasks.filterMap fun view =>
      (done.stepAgent output view.id).map fun agent =>
        agentToStep call.configName call.timeoutSeconds agent view := by
  unfold buildPipeline at built
  split at built
  · rename_i succeeded
    exact ⟨succeeded, (some.inj built).symm⟩
  · cases built

theorem HandedOn.pipeline_steps (handed : call.HandedOn log done output)
    (built : done.buildPipeline call.configName call.timeoutSeconds output = some elements) :
    elements.map PipelineStep.subtask = call.staffedIds ∧ ∀ element ∈ elements,
      element.definition.dependsOn = [] ∧ element.definition.func = true ∧
      element.definition.preHooks = 0 ∧ 0 ≤ element.definition.maxRetries := by
  obtain ⟨_, same⟩ := buildPipeline_elements built
  subst same
  constructor
  · rw [← handed.staffed]
    generalize output.subtasks = subtasks
    induction subtasks with
    | nil => rfl
    | cons view rest ih =>
        cases agent : done.stepAgent output view.id with
        | none => simp only [filterMap_cons, map_cons, filter_cons, agent, ih, map_none,
            isSome_none, Bool.false_eq_true, if_false]
        | some name =>
            simp only [filterMap_cons, map_cons, filter_cons, agent, map_some, isSome_some, if_true]
            exact congrArg (List.cons view.id) ih
  · intro element member
    obtain ⟨view, _, shape⟩ := mem_filterMap.mp member
    obtain ⟨agent, _, same⟩ := map_eq_some_iff.mp shape
    rw [← same]
    have tries : (0 : Int) ≤ 3 := by decide
    exact ⟨rfl, rfl, rfl, tries⟩

theorem pipeline_quiet {hasTask : Bool} (still : hasTask = false ∨ elements = []) {ctx : Context}
    {inputs : List Input} {run : PipelineRun} {more : List Activity}
    (replayed : replay
      (logged PipelineRun.next
        fun before _ after => PipelineRun.activity hasTask before after)
      ({ ctx := ctx, left := elements }, []) inputs = some (run, more)) : more = [] := by
  have whole : ∀ state, replay
      (logged PipelineRun.next
        fun before _ after => PipelineRun.activity hasTask before after)
      ({ ctx := ctx, left := elements }, []) inputs = some state →
      (elements = [] → state.1.current = none ∧ state.1.left = []) ∧ state.2 = [] := by
    intro state
    apply replay_invariant
    · rintro before input after ⟨atEnd, silent⟩ taken
      obtain ⟨moved, emitted⟩ := logged_some taken
      have ended : elements = [] → after.1.current = none ∧ after.1.left = [] := by
        intro empty
        obtain ⟨idle, left⟩ := atEnd empty
        simp only [PipelineRun.next, idle, left] at moved
        split at moved
        · rw [← some.inj moved]
          exact ⟨rfl, rfl⟩
        · cases moved
      refine ⟨ended, ?_⟩
      rw [emitted, silent, nil_append]
      unfold PipelineRun.activity
      split
      · rename_i element frame executing
        rcases still with untold | empty
        · exact if_pos (.inr untold)
        · rw [(ended empty).1] at executing
          cases executing
      · rfl
    · exact ⟨fun empty => ⟨rfl, empty⟩, rfl⟩
  exact (whole (run, more) replayed).2

theorem HandedOn.pipeline_invokes (handed : call.HandedOn log done output)
    (built : done.buildPipeline call.configName call.timeoutSeconds output = some elements)
    (staffed : call.staffedIds ≠ []) (ctx : Context) :
    ∃ inputs run more id agent,
      replay
        (logged PipelineRun.next
          fun before _ after => PipelineRun.activity true before after)
        ({ ctx := ctx, left := elements }, []) inputs = some (run, more) ∧
      id ∈ call.staffedIds ∧ .invoked id agent ∈ more := by
  obtain ⟨subtasks, steps⟩ := handed.pipeline_steps built
  cases elements with
  | nil => exact absurd subtasks.symm staffed
  | cons element rest =>
      obtain ⟨free, func, hooks, tries⟩ := steps element mem_cons_self
      have member : element.subtask ∈ call.staffedIds := by
        rw [← subtasks]
        exact mem_cons_self
      let frame : StepExecutor.Frame :=
        { result := { stepName := element.definition.name, status := .running } }
      let marked := ctx.markStepStart element.definition.name
      let started : PipelineRun :=
        { ctx := marked, left := rest, current := some (element, .markingStart frame) }
      let inBody : PipelineRun :=
        { ctx := marked
          left := rest
          current := some (element, .attempting .body { frame with attempt := 1 }) }
      have first : PipelineRun.next { ctx := ctx, left := element :: rest } {} = some started := by
        simp only [PipelineRun.next, enter, shouldRun, free, func, all_nil, if_true]
        rfl
      have second : PipelineRun.next started {} = some inBody := by
        have within : ((0 : Nat) : Int) ≤ element.definition.maxRetries := tries
        simp only [PipelineRun.next, started, resume, resumeReturned, runPreHooks, hooks,
          prepareInputs, prepared,
          startAttempt, frame, Bool.false_eq_true, if_false]
        rw [if_pos within]
        rfl
      have told : PipelineRun.activity true started inBody =
          [.invoked element.subtask element.agent] := by
        apply if_neg
        rintro (same | untold)
        · cases same
        · cases untold
      refine ⟨[{}, {}], inBody, [.invoked element.subtask element.agent], element.subtask,
        element.agent, ?_, member, mem_singleton_self _⟩
      simp only [replay, logged, first, second, map_some, told]
      rfl

end

/-! ### A call -/

section

variable {log more : List Activity} {done : Orchestrator} {output : OrchestratorOutput}

theorem HandedOn.delivers (handed : call.HandedOn log done output)
    (succeeded : output.success = true) (staffed : call.staffedIds ≠ [])
    (direct : call.registered = (recruit call.crew).installPlan 0 call.plan) :
    ∀ id ∈ call.registered.subtaskIds, call.behaviour.Delivers call.assigned id := by
  obtain ⟨first, member⟩ := exists_mem_of_ne_nil _ staffed
  obtain ⟨_, manned⟩ := mem_staffedIds member direct
  intro id known
  apply (handed.delivered manned succeeded id _).1
  rw [subtaskIds, assigned, assignAgents_subtasks]
  exact known

theorem HandedOn.repeated (handed : call.HandedOn log done output)
    (succeeded : output.success = true)
    (direct : call.registered = (recruit call.crew).installPlan 0 call.plan)
    {id : StepName} (member : id ∈ call.staffedIds) {agent : AgentName}
    (invoked : .invoked id agent ∈ more) : ¬ AtMostOnce (log ++ more) := by
  intro once
  obtain ⟨known, manned⟩ := mem_staffedIds member direct
  obtain ⟨_, earlier, success⟩ := handed.delivered manned succeeded id known
  have apart := (pairwise_append.mp once).2.2 _ success _ invoked
  exact apart trivial rfl

theorem HandedOn.dag_repeats (handed : call.HandedOn log done output)
    {ctx : Context} {workflowId : String} (entry : call.entry = .executeAsDag ctx workflowId)
    (direct : call.registered = (recruit call.crew).installPlan 0 call.plan)
    {dag : DAG} (built : done.buildDag call.timeoutSeconds call.name output = .ok (some dag))
    {first : Run Point}
    (started : execute (call.settings dag) ctx workflowId = .ok first) :
    call.Repeats := by
  obtain ⟨succeeded, names, _⟩ := handed.dag_steps built
  obtain ⟨_, valid, _⟩ := execute_ok_iff.mp started
  have staffed := (handed.dag_valid built).mp valid
  refine ⟨?_, handed.delivers succeeded staffed direct, staffed⟩
  rw [entry, ← names]
  exact dag.distinct

theorem Repeats.not_once (repeats : call.Repeats) (valid : call.registered.validatePlan = .ok ())
    (positive : 1 ≤ call.maxParallel) : ¬ call.RunsOnce := by
  obtain ⟨entered, delivered, staffed⟩ := repeats
  intro once
  have handsOn : call.entry ≠ .runAdaptive → ∃ log done output,
      call.Decomposed log done output ∧ output.success = true ∧ call.HandedOn log done output ∧
      call.registered = (recruit call.crew).installPlan 0 call.plan := by
    intro planned
    have direct := direct_of_planned planned
    obtain ⟨first, member⟩ := exists_mem_of_ne_nil _ staffed
    have manned := (mem_staffedIds member direct).2
    obtain ⟨log, done, output, decomposed, succeeded⟩ :=
      exists_decomposed valid positive manned direct delivered
    exact ⟨log, done, output, decomposed, succeeded, decomposed.handedOn valid positive direct,
      direct⟩
  cases entry : call.entry with
  | run | runAdaptive =>
      rw [entry] at entered
      exact entered
  | executeAsDag ctx workflowId =>
      rw [entry] at entered
      obtain ⟨log, done, output, decomposed, succeeded, handed, direct⟩ :=
        handsOn (by rw [entry]; exact nofun)
      rw [← handed.staffed] at entered
      obtain ⟨dag, built⟩ := exists_buildDag call.name succeeded entered
      obtain ⟨start, events, run, more, id, agent, started, replayed, listed, invoked⟩ :=
        handed.dag_invokes positive built staffed ctx workflowId
      exact handed.repeated succeeded direct listed invoked
        (once _ (.dag entry decomposed built started replayed))
  | executeAsPipeline ctx hasTask =>
      rw [entry] at entered
      change hasTask = true at entered
      subst entered
      obtain ⟨log, done, output, decomposed, succeeded, handed, direct⟩ :=
        handsOn (by rw [entry]; exact nofun)
      have built : done.buildPipeline call.configName call.timeoutSeconds output = some _ :=
        if_pos succeeded
      obtain ⟨inputs, run, more, id, agent, replayed, listed, invoked⟩ :=
        handed.pipeline_invokes built staffed ctx
      exact handed.repeated succeeded direct listed invoked
        (once _ (.pipeline entry decomposed built replayed))

end

def coderCall (entry : EntryPoint) : OrchestratorCall :=
  { crew := oneCoder
    entry := entry
    plan := [{ id := some "a" }]
    behaviour := { reply := fun _ _ => .output } }

end OrchestratorCall

end AgenticRuntime
