/-
What `on_update` is sent in the course of a run.

A step's own events are the projection of the stream to that step: nothing, its
start, or its start and its end. A timeout interrupts the stream for good, so a
step that is open then stays open.
-/

import AgenticRuntime.Engine.RunInvariant

namespace AgenticRuntime

open RunState List Function Update Transition

def Update.isEnd (step : StepName) : Update → Bool
  | .stepEnd name _ _ => name = step
  | _ => false

def Update.concerns (step : StepName) : Update → Bool
  | .stepStart name => name = step
  | .stepEnd name _ _ => name = step
  | _ => false

def Update.isStep : Update → Bool
  | .stepStart _ => true
  | .stepEnd _ _ _ => true
  | _ => false

/-- After each start of the step there is exactly one end of it, with `status`. -/
def ClosedOnce (updates : List Update) (step : StepName) (status : StepStatus) : Prop :=
  ∀ earlier later, updates = earlier ++ .stepStart step :: later →
    ∃ error, later.filter (isEnd step) = [.stepEnd step status error]

/-- The stream of a run that returned `steps` for the step names of the DAG. -/
structure StreamClosed (dag : DAG) (updates : List Update) (result : WorkflowResult) : Prop where
  framed : ∃ middle, updates = .workflowStart :: (middle ++ [.workflowEnd result.overallStatus]) ∧
    ∀ update, update ∈ middle → update.isStep
  paired : ∃ recorded, result.steps = dag.stepNames.map recorded ∧
    ∀ step, .stepStart step ∈ updates →
      step ∈ dag.stepNames ∧ ClosedOnce updates step (recorded step).status

def OpenStep (updates : List Update) (step : StepName) : Prop :=
  .stepStart step ∈ updates ∧ ∀ status error, .stepEnd step status error ∉ updates

/-! ### The events of one step -/

def about (step : StepName) (updates : List Update) : List Update :=
  updates.filter (concerns step)

section

variable {step : StepName} {updates : List Update}

theorem about_append (first second : List Update) :
    about step (first ++ second) = about step first ++ about step second :=
  filter_append first second

theorem mem_about {update : Update} : update ∈ about step updates ↔
    update ∈ updates ∧ update.concerns step = true := mem_filter

theorem start_mem_about : .stepStart step ∈ about step updates ↔ .stepStart step ∈ updates := by
  simp [mem_about, concerns]

theorem end_mem_about {status : StepStatus} {error : Option String} :
    .stepEnd step status error ∈ about step updates ↔ .stepEnd step status error ∈ updates := by
  simp [mem_about, concerns]

private theorem ends_of_about (later : List Update) :
    later.filter (isEnd step) = (about step later).filter (isEnd step) := by
  rw [about, filter_filter]
  apply filter_congr
  intro update _
  cases update with
  | workflowStart => rfl
  | stepStart name => simp [isEnd]
  | stepEnd name status error => simp [isEnd, concerns]
  | workflowEnd status => rfl

private theorem about_start (later : List Update) :
    about step (.stepStart step :: later) = .stepStart step :: about step later := by
  have kept : concerns step (.stepStart step) = true := by simp [concerns]
  exact filter_cons_of_pos kept

theorem closedOnce_of_about {status : StepStatus} {error : Option String}
    (whole : about step updates = [.stepStart step, .stepEnd step status error]) :
    ClosedOnce updates step status := by
  intro earlier later shape
  rw [shape, about_append, about_start] at whole
  refine ⟨error, ?_⟩
  rw [ends_of_about]
  cases first : about step earlier with
  | nil =>
      rw [first, nil_append, List.cons.injEq] at whole
      rw [whole.2]
      simp [isEnd]
  | cons head rest =>
      rw [first] at whole
      cases rest with
      | nil => simp at whole
      | cons second rest =>
          have length := congrArg List.length whole
          simp only [length_append, length_cons, length_nil] at length
          omega

theorem not_closedOnce_of_open {status : StepStatus} (opened : OpenStep updates step) :
    ¬ ClosedOnce updates step status := by
  intro closed
  obtain ⟨earlier, later, shape⟩ := append_of_mem opened.1
  obtain ⟨error, ends⟩ := closed earlier later shape
  have member : stepEnd step status error ∈ later.filter (isEnd step) := by
    rw [ends]
    exact mem_singleton_self _
  apply opened.2 status error
  rw [shape]
  exact mem_append_right _ (mem_cons_of_mem _ (mem_filter.mp member).1)

theorem openStep_iff_about (known : about step updates = [] ∨
      about step updates = [.stepStart step] ∨
      ∃ status error, about step updates = [.stepStart step, .stepEnd step status error]) :
    OpenStep updates step ↔ about step updates = [.stepStart step] := by
  unfold OpenStep
  rw [← start_mem_about]
  rcases known with none | started | ⟨status, error, ended⟩
  · simp [none]
  · simp only [started, mem_singleton, true_and, iff_true]
    intro status error member
    rw [← end_mem_about, started] at member
    simp at member
  · rw [ended]
    constructor
    · intro ⟨_, pending⟩
      apply absurd _ (pending status error)
      rw [← end_mem_about, ended]
      simp
    · intro impossible
      simp at impossible

end

/-! ### The stream while the loop runs -/

/-- `unsent` is the step whose end is due next: its result is recorded and the
scheduler still awaits the context. -/
structure Logged (unsent : Option StepName) {Point : Type} (state : RunState Point) : Prop where
  framed : ∃ middle, state.updates = .workflowStart :: middle ∧
    ∀ update, update ∈ middle → update.isStep
  unstarted : ∀ step, state.task step = none ∨ state.task step = some .created →
    about step state.updates = []
  started : ∀ step phase, state.task step = some phase → phase ≠ .created →
    state.results step = none ∨ unsent = some step → about step state.updates = [.stepStart step]
  ended : ∀ step result, state.task step ≠ none → state.results step = some result →
    unsent ≠ some step →
    about step state.updates = [.stepStart step, .stepEnd step result.status result.error]

namespace Logged

variable {Point : Type} {unsent : Option StepName} {state after : RunState Point}

theorem transfer (logged : Logged unsent state) (updates : after.updates = state.updates)
    (task : after.task = state.task) (results : after.results = state.results) :
    Logged unsent after := by
  obtain ⟨framed, unstarted, started, ended⟩ := logged
  constructor
  case framed => rw [updates]; exact framed
  case unstarted => rw [updates, task]; exact unstarted
  case started => rw [updates, task, results]; exact started
  case ended => rw [updates, task, results]; exact ended

theorem progress (logged : Logged unsent state) {step : StepName} {old : TaskPhase Point}
    (phase : TaskPhase Point) (current : state.task step = some old) (begun : old ≠ .created)
    (fresh : phase ≠ .created) (pending : state.results step = none)
    (updates : after.updates = state.updates)
    (task : after.task = update state.task step (some phase))
    (results : after.results = state.results) : Logged unsent after := by
  have own := logged.started step old current begun (.inl pending)
  constructor
  case framed => rw [updates]; exact logged.framed
  case unstarted =>
    intro other
    rw [updates, task, update_apply]
    split
    · rintro (impossible | impossible)
      · cases impossible
      · exact absurd (Option.some.inj impossible) fresh
    · exact logged.unstarted other
  case started =>
    intro other reached
    rw [updates, task, results, update_apply]
    split
    · rename_i same
      subst same
      intro _ _ _
      exact own
    · exact logged.started other reached
  case ended =>
    intro other result
    rw [updates, task, results, update_apply]
    split
    · rename_i same
      subst same
      intro _ found
      rw [pending] at found
      cases found
    · exact logged.ended other result

theorem begin (logged : Logged unsent state) {step : StepName}
    (current : state.task step = some .created) (pending : state.results step = none)
    (updates : after.updates = state.updates ++ [.stepStart step])
    (task : after.task = update state.task step (some .starting))
    (results : after.results = state.results) : Logged unsent after := by
  have own := logged.unstarted step (.inr current)
  have others : ∀ other, other ≠ step →
      about other after.updates = about other state.updates := by
    intro other differs
    have foreign : concerns other (.stepStart step) = false := by
      simp [concerns, Ne.symm differs]
    rw [updates, about_append]
    simp [about, foreign]
  have now : about step after.updates = [.stepStart step] := by
    rw [updates, about_append, own]
    simp [about, concerns]
  constructor
  case framed =>
    obtain ⟨middle, shape, steps⟩ := logged.framed
    refine ⟨middle ++ [.stepStart step], ?_, ?_⟩
    · rw [updates, shape, cons_append]
    · intro update member
      rcases mem_append.mp member with old | new
      · exact steps update old
      · rw [mem_singleton.mp new]
        rfl
  case unstarted =>
    intro other
    rw [task, update_apply]
    split
    · rintro (impossible | impossible)
      · cases impossible
      · cases impossible
    · rename_i differs
      rw [others other differs]
      exact logged.unstarted other
  case started =>
    intro other reached
    rw [task, results, update_apply]
    split
    · rename_i same
      subst same
      intro _ _ _
      exact now
    · rename_i differs
      rw [others other differs]
      exact logged.started other reached
  case ended =>
    intro other result
    rw [task, results, update_apply]
    split
    · rename_i same
      subst same
      intro _ found
      rw [pending] at found
      cases found
    · rename_i differs
      rw [others other differs]
      exact logged.ended other result

theorem spawn (logged : Logged unsent state) {newly : List StepName}
    (idle : ∀ step, step ∈ newly → state.task step = none)
    (pending : ∀ step, step ∈ newly → state.results step = none)
    (spawns : Spawns newly state after) : Logged unsent after := by
  have updates : after.updates = state.updates := by rw [spawns.frame]
  have results : after.results = state.results := by rw [spawns.frame]
  constructor
  case framed => rw [updates]; exact logged.framed
  case unstarted =>
    intro step waiting
    rw [updates]
    by_cases fresh : step ∈ newly
    · exact logged.unstarted step (.inl (idle step fresh))
    · rw [spawns.task, if_neg fresh] at waiting
      exact logged.unstarted step waiting
  case started =>
    intro step phase current begun
    rw [updates, results]
    rw [spawns.task] at current
    split at current
    · exact absurd (Option.some.inj current).symm begun
    · exact logged.started step phase current begun
  case ended =>
    intro step result started found
    rw [results] at found
    rw [updates]
    rw [spawns.task] at started
    split at started
    · rename_i fresh
      rw [pending step fresh] at found
      cases found
    · exact logged.ended step result started found

theorem settle (logged : Logged none state) {dag : DAG} {step : StepName} {result : StepResult}
    {reason : String} {newly : List StepName} {outcome : TaskOutcome}
    (current : state.task step = some (.done outcome)) (pending : state.results step = none)
    (idle : ∀ other, other ∈ newly → state.task other = none)
    (settlement : Settlement dag step result reason newly state after) :
    Logged (some step) after := by
  constructor
  case framed => rw [settlement.updates]; exact logged.framed
  case unstarted => rw [settlement.updates, settlement.task]; exact logged.unstarted
  case started =>
    intro other phase
    rw [settlement.updates, settlement.task, settlement.results]
    intro reached begun waiting
    by_cases same : other = step
    · subst same
      exact logged.started other phase reached begun (.inl pending)
    · have notNew : other ∉ newly := by
        intro member
        rw [idle other member] at reached
        cases reached
      rw [if_neg notNew, if_neg same] at waiting
      rcases waiting with waiting | impossible
      · exact logged.started other phase reached begun (.inl waiting)
      · exact absurd (Option.some.inj impossible).symm same
  case ended =>
    intro other recorded
    rw [settlement.updates, settlement.task, settlement.results]
    intro started found sent
    have differs : other ≠ step := fun same => sent (same ▸ rfl)
    have notNew : other ∉ newly := fun member => started (idle other member)
    rw [if_neg notNew, if_neg differs] at found
    exact logged.ended other recorded started found nofun

theorem send (state : RunState Point) {step : StepName} {result : StepResult}
    {phase : TaskPhase Point} (logged : Logged (some step) state)
    (current : state.task step = some phase) (begun : phase ≠ .created)
    (recorded : state.results step = some result) :
    Logged none (state.notify (.stepEnd step result.status result.error)) := by
  have own := logged.started step phase current begun (.inr rfl)
  have others : ∀ other, other ≠ step →
      about other (state.updates ++ [.stepEnd step result.status result.error]) =
        about other state.updates := by
    intro other differs
    have foreign : concerns other (.stepEnd step result.status result.error) = false := by
      simp [concerns, Ne.symm differs]
    rw [about_append]
    simp [about, foreign]
  have now : about step (state.updates ++ [.stepEnd step result.status result.error]) =
      [.stepStart step, .stepEnd step result.status result.error] := by
    rw [about_append, own]
    simp [about, concerns]
  constructor
  case framed =>
    obtain ⟨middle, shape, steps⟩ := logged.framed
    refine ⟨middle ++ [.stepEnd step result.status result.error], ?_, ?_⟩
    · change state.updates ++ _ = _
      rw [shape, cons_append]
    · intro update member
      rcases mem_append.mp member with old | new
      · exact steps update old
      · rw [mem_singleton.mp new]
        rfl
  case unstarted =>
    intro other waiting
    have differs : other ≠ step := by
      rintro rfl
      change state.task other = none ∨ state.task other = some .created at waiting
      rw [current] at waiting
      rcases waiting with impossible | impossible
      · cases impossible
      · exact begun (Option.some.inj impossible)
    exact (others other differs).trans (logged.unstarted other waiting)
  case started =>
    intro other reached found fresh waiting
    rcases waiting with waiting | impossible
    · have differs : other ≠ step := by
        rintro rfl
        change state.results other = none at waiting
        rw [recorded] at waiting
        cases waiting
      exact (others other differs).trans
        (logged.started other reached found fresh (.inl waiting))
    · cases impossible
  case ended =>
    intro other found started known _
    by_cases same : other = step
    · subst same
      change state.results other = some found at known
      rw [recorded, Option.some.injEq] at known
      subst known
      exact now
    · refine (others other same).trans (logged.ended other found started known ?_)
      intro impossible
      exact same (Option.some.inj impossible).symm

end Logged

namespace DAGExecutor

variable {Point Input : Type}

structure Sent {Point : Type} (state : RunState Point) : Prop where
  framed : ∃ middle,
    state.updates = .workflowStart :: (middle ++ [.workflowEnd state.result.overallStatus]) ∧
      ∀ update, update ∈ middle → update.isStep
  known : ∀ step,
    (about step state.updates = [] ∧ (state.results step = none ∨
      ∃ reason, state.results step = some (skipResult step reason))) ∨
    about step state.updates = [.stepStart step] ∨
    ∃ result, state.results step = some result ∧
      about step state.updates = [.stepStart step, .stepEnd step result.status result.error]

def Streamed (run : Run Point) : Prop :=
  match run.control with
  | .opening | .waiting | .notifying _ _ _ => Logged none run.state
  | .marking step _ _ => Logged (some step) run.state
  | .cancelling => ∃ unsent, Logged unsent run.state
  | .closing | .returned => Sent run.state
  | .aborting _ | .raised _ => True

section

variable {executor : Executor Point Input} {settings : Settings} {state : RunState Point}

theorem Turn.logged {after : RunState Point} {event : Event Input} {batch : List StepName}
    {unsent : Option StepName} (consistent : state.Consistent settings.dag batch)
    (begun : ∀ step, step ∈ state.cancelRequested → state.task step ≠ some .created)
    (logged : Logged unsent state) (turn : Turn executor settings.dag state event after) :
    Logged unsent after := by
  have pending : ∀ step old, state.task step = some old → TaskPhase.isDone (some old) = false →
      state.results step = none := by
    intro step old current moving
    exact consistent.not_recorded (consistent.not_completed_of_not_done current moving)
  cases turn with
  | begin step current kept =>
      have ready := consistent.lifecycle step
        (consistent.not_completed_of_not_done current rfl)
      rw [current] at ready
      rw [beginTask_of_ready ready]
      exact logged.begin current (pending step _ current rfl) rfl rfl rfl
  | enter step observerRaised input definition progress ctx current kept known entered =>
      have fresh := phase_begun progress
      cases observerRaised with
      | true | false =>
          exact logged.progress progress.phase current nofun fresh
            (pending step _ current rfl) rfl rfl rfl
  | unknown step observerRaised input current kept missing =>
      cases observerRaised with
      | true | false =>
          exact logged.progress (.done (.raised "KeyError" s!"'{step}'")) current nofun
            nofun (pending step _ current rfl) rfl rfl rfl
  | resume step input definition point progress ctx current kept known resumed
  | cancel step input definition point progress ctx current asked known cancelled =>
      exact logged.progress progress.phase current nofun (phase_begun progress)
        (pending step _ current rfl) rfl rfl rfl
  | drop step current asked => exact absurd current (begun step asked)
  | swallow step current asked => exact logged.transfer rfl rfl rfl
  | interrupt step current asked =>
      exact logged.progress (.done .cancelled) current nofun nofun
        (pending step _ current rfl) rfl rfl rfl

private theorem assemble_sent {results : StepName → Option StepResult}
    (framed : ∃ middle, state.updates = .workflowStart :: middle ∧
      ∀ update, update ∈ middle → update.isStep)
    (known : ∀ step, (about step state.updates = [] ∧ (results step = none ∨
        ∃ reason, results step = some (skipResult step reason))) ∨
      about step state.updates = [.stepStart step] ∨
      ∃ result, results step = some result ∧
        about step state.updates = [.stepStart step, .stepEnd step result.status result.error])
    (same : state.results = results) : Sent (state.assemble settings.dag) := by
  obtain ⟨middle, shape, steps⟩ := framed
  have unchanged : ∀ step, about step (state.assemble settings.dag).updates =
      about step state.updates := by
    intro step
    change about step (state.updates ++ [.workflowEnd _]) = _
    rw [about_append]
    simp [about, concerns]
  refine ⟨⟨middle, ?_, steps⟩, ?_⟩
  · change state.updates ++ [.workflowEnd _] = _
    rw [shape]
    rfl
  · intro step
    rw [unchanged step]
    have own := known step
    rw [← same] at own
    exact own

private theorem Sent.observed (sent : Sent state) (observerRaised : Bool) :
    Sent (state.noteObserver observerRaised) := by
  have same := noteObserver_outcome observerRaised state
  obtain ⟨framed, known⟩ := sent
  constructor
  case framed => rw [same.updates, same.overall]; exact framed
  case known => rw [same.updates, same.results]; exact known

private theorem close_sent (logged : Logged none state)
    (consistent : state.Consistent settings.dag [])
    (complete : ∀ step, step ∈ settings.dag.stepNames → step ∈ state.completed) :
    Sent (state.assemble settings.dag) := by
  refine assemble_sent logged.framed ?_ rfl
  intro step
  by_cases started : state.task step = none
  · refine .inl ⟨logged.unstarted step (.inl started), ?_⟩
    by_cases done : step ∈ state.completed
    · exact .inr (consistent.cascaded step done started).1
    · exact .inl (consistent.not_recorded done)
  · have done := complete step (consistent.registered step (.inr started))
    obtain ⟨result, found⟩ := Option.ne_none_iff_exists'.mp ((consistent.recorded step).mp done)
    exact .inr (.inr ⟨result, found, logged.ended step result started found nofun⟩)

private theorem recover_sent {before recovered : RunState Point} {batch : List StepName}
    {unsent : Option StepName} (logged : Logged unsent before) (begun : Begun before)
    (consistent : before.Consistent settings.dag batch)
    (recovery : Recovered settings before recovered) :
    Sent (recovered.assemble settings.dag) := by
  have framed : ∃ middle, recovered.updates = .workflowStart :: middle ∧
      ∀ update, update ∈ middle → update.isStep := by
    rw [recovery.updates]
    exact logged.framed
  refine assemble_sent framed ?_ rfl
  intro step
  rw [recovery.updates]
  cases current : before.task step with
  | none =>
      refine .inl ⟨logged.unstarted step (.inl current), ?_⟩
      have idle : step ∉ before.running := by
        intro runs
        exact ((consistent.running step).mp runs).1 current
      rw [recovery.results, if_neg idle]
      split
      · rename_i done
        exact .inr (consistent.cascaded step done current).1
      · split
        · exact .inr ⟨_, rfl⟩
        · exact .inl rfl
  | some phase =>
      have fresh : phase ≠ .created := fun same => begun step (same ▸ current)
      cases found : before.results step with
      | none => exact .inr (.inl (logged.started step phase current fresh (.inl found)))
      | some result =>
          by_cases due : unsent = some step
          · exact .inr (.inl (logged.started step phase current fresh (.inr due)))
          · have done : step ∈ before.completed := by
              rw [consistent.recorded, found]
              exact Option.some_ne_none result
            have started : before.task step ≠ none := by
              rw [current]
              exact Option.some_ne_none phase
            refine .inr (.inr ⟨result, ?_, logged.ended step result started found due⟩)
            rw [recovery.results, if_pos done, found]

private theorem enterLoop_streamed (valid : settings.dag.validate = .ok ())
    (positive : 1 ≤ settings.maxConcurrency) (consistent : state.Consistent settings.dag [])
    (logged : Logged none state) :
    Streamed (enterLoop settings state) := by
  rcases enterLoop_cases valid positive consistent with
    ⟨closes, complete⟩ | ⟨newly, scheduled, waits, spawns, _, _, queued⟩
  · rw [closes]
    exact close_sent logged consistent complete
  · have idle : ∀ step, step ∈ newly → state.task step = none ∧ state.results step = none := by
      intro step member
      have inReady : step ∈ state.ready := by
        rw [queued]
        exact mem_append_left _ member
      obtain ⟨_, waiting, unstarted, _⟩ := (consistent.ready step).mp inReady
      exact ⟨unstarted, consistent.not_recorded waiting⟩
    rw [waits]
    exact logged.spawn (fun step member => (idle step member).1)
      (fun step member => (idle step member).2) spawns

private theorem processBatch_streamed (valid : settings.dag.validate = .ok ())
    (positive : 1 ≤ settings.maxConcurrency) {batch : List StepName}
    (consistent : state.Consistent settings.dag batch) (logged : Logged none state) :
    Streamed (processBatch settings state batch) := by
  cases batch with
  | nil => exact enterLoop_streamed valid positive consistent logged
  | cons step rest =>
      obtain ⟨outcome, recorded, reason, newly, current, settlement, _, found, taken⟩ :=
        processBatch_cons consistent
      have member := (consistent.batchDone step mem_cons_self).1
      have waiting := ((consistent.running step).mp member).2
      have idle : ∀ other, other ∈ newly → state.task other = none := by
        intro other skips
        obtain ⟨_, cause, source, edge⟩ := settlement.caused other skips
        by_contra started
        have done := (consistent.supported other started cause edge).1
        rcases source with same | chained
        · exact waiting (same ▸ done)
        · exact (settlement.fresh cause chained).1 done
      have due := logged.settle current (consistent.not_recorded waiting) idle settlement
      rw [taken]
      split
      · exact due.transfer rfl rfl rfl
      · have task : recorded.task step = some (.done outcome) := by
          rw [settlement.task]
          exact current
        exact Logged.send recorded due task nofun found

private theorem move_streamed (valid : settings.dag.validate = .ok ())
    (positive : 1 ≤ settings.maxConcurrency) {run after : Run Point} {event : Event Input}
    (invariant : Invariant settings run) (streamed : Streamed run)
    (move : Move settings run event after) : Streamed after := by
  cases move with
  | opened observerRaised control =>
      cases invariant with
      | opening state consistent idle uncancelled =>
          have same := noteObserver_outcome observerRaised state
          exact enterLoop_streamed valid positive
            (consistent.transfer (noteObserver_same observerRaised state))
            (Logged.transfer streamed same.updates same.task same.results)
      | _ => cases control
  | marked observerRaised step result rest control =>
      cases invariant with
      | marking _ _ _ state consistent begun uncancelled recorded started =>
          cases control
          obtain ⟨phase, current⟩ := Option.ne_none_iff_exists'.mp started
          exact Logged.send state streamed current (fun same => begun step (same ▸ current)) recorded
      | _ => cases control
  | notified observerRaised step result rest control =>
      cases invariant with
      | notifying _ _ _ state consistent begun uncancelled recorded =>
          have same := noteObserver_outcome observerRaised state
          cases control
          exact processBatch_streamed valid positive
            (consistent.transfer (noteObserver_same observerRaised state))
            (Logged.transfer streamed same.updates same.task same.results)
      | _ => cases control
  | returned observerRaised control =>
      cases invariant with
      | closing state ended => exact Sent.observed streamed observerRaised
      | _ => cases control
  | wake done control allBegun batch =>
      cases invariant with
      | waiting state consistent busy uncancelled =>
          exact processBatch_streamed valid positive (consistent.wake batch)
            (Logged.transfer streamed rfl rfl rfl)
      | _ => cases control
  | timeout limited allBegun suspended =>
      cases invariant with
      | waiting state consistent busy uncancelled
      | notifying _ _ rest state consistent begun uncancelled recorded =>
          exact ⟨none, Logged.transfer streamed rfl rfl rfl⟩
      | marking step _ rest state consistent begun uncancelled recorded started =>
          exact ⟨some step, Logged.transfer streamed rfl rfl rfl⟩
      | _ => simp at suspended
  | recover running remaining recovered control drained handled =>
      cases invariant with
      | cancelling batch state limited consistent begun =>
          obtain ⟨unsent, logged⟩ := streamed
          exact recover_sent logged begun consistent (handleTimeout_recovered consistent handled)
      | _ => cases control
  | abandon error control drained => trivial

theorem next_streamed (valid : settings.dag.validate = .ok ())
    (positive : 1 ≤ settings.maxConcurrency) (run : Run Point) (event : Event Input)
    (after : Run Point) (held : Invariant settings run ∧ Streamed run)
    (taken : next executor settings run event = some after) :
    Invariant settings after ∧ Streamed after := by
  refine ⟨next_invariant valid positive run event after held.1 taken, ?_⟩
  rcases next_cases taken with move | ⟨state, turn, same⟩
  · exact move_streamed valid positive held.1 held.2 move
  · subst same
    obtain ⟨invariant, streamed⟩ := held
    obtain ⟨batch, consistent, begun⟩ := invariant.turning turn
    cases invariant with
    | opening | waiting | marking | notifying => exact turn.logged consistent begun streamed
    | cancelling =>
        obtain ⟨unsent, logged⟩ := streamed
        exact ⟨unsent, turn.logged consistent begun logged⟩
    | closing before ended | returned before ended => exact (ended.no_turn turn).elim

theorem start_streamed (ctx : Context) (workflowId : String) :
    Streamed (start settings ctx workflowId : Run Point) := by
  refine ⟨⟨[], rfl, by simp⟩, ?_, ?_, ?_⟩
  · intro step _
    simp [start, about, concerns]
  · intro step phase impossible
    cases impossible
  · intro step result started
    exact absurd rfl started

end

/-! ### Open steps -/

def Stopped : Control → Prop
  | .cancelling | .closing | .returned => True
  | _ => False

def NothingOpen (run : Run Point) (event : Event Input) : Prop :=
  event = .timeout → ∀ step, ¬ OpenStep run.state.updates step

section

variable {executor : Executor Point Input} {settings : Settings}

private theorem openStep_append {updates : List Update} {status : StepStatus} {step : StepName} :
    OpenStep (updates ++ [.workflowEnd status]) step ↔ OpenStep updates step := by
  simp [OpenStep]

variable {state : RunState Point}

private theorem Turn.updates {dag : DAG} {after : RunState Point} {event : Event Input}
    (begun : Begun state) (turn : Turn executor dag state event after) :
    after.updates = state.updates := by
  cases turn with
  | begin step current kept => exact absurd current (begun step)
  | enter step observerRaised | unknown step observerRaised => cases observerRaised <;> rfl
  | resume => rfl
  | drop => rfl
  | swallow => rfl
  | interrupt => rfl
  | cancel => rfl

private theorem stopped_next {run after : Run Point} {event : Event Input}
    (invariant : Invariant settings run) (stopped : Stopped run.control)
    (taken : next executor settings run event = some after) :
    Stopped after.control ∧
      ∀ step, OpenStep after.state.updates step ↔ OpenStep run.state.updates step := by
  rcases next_cases taken with move | ⟨state, turn, same⟩
  · cases move with
    | opened observerRaised control | marked observerRaised step result rest control
    | notified observerRaised step result rest control | wake done control
    | abandon error control => rw [control] at stopped; cases stopped
    | returned observerRaised control =>
        refine ⟨trivial, ?_⟩
        intro step
        rw [(noteObserver_outcome observerRaised run.state).updates]
    | timeout limited allBegun suspended =>
        rcases suspended with control | ⟨_, _, _, control⟩ | ⟨_, _, _, control⟩
        · rw [control] at stopped; cases stopped
        · rw [control] at stopped; cases stopped
        · rw [control] at stopped; cases stopped
    | recover running remaining recovered control drained handled =>
        cases invariant with
        | cancelling batch state limited consistent begun =>
            have recovery := handleTimeout_recovered consistent handled
            refine ⟨trivial, ?_⟩
            intro step
            change OpenStep (recovered.updates ++ [.workflowEnd _]) step ↔ _
            rw [openStep_append, recovery.updates]
        | _ => cases control
  · subst same
    cases invariant with
    | cancelling batch before limited consistent begun =>
        refine ⟨trivial, ?_⟩
        intro step
        change OpenStep state.updates step ↔ _
        rw [turn.updates begun]
    | closing before ended | returned before ended => exact (ended.no_turn turn).elim
    | _ => cases stopped

private def Clean (run : Run Point) : Prop :=
  Stopped run.control → ∀ step, ¬ OpenStep run.state.updates step

private theorem enterLoop_clean (valid : settings.dag.validate = .ok ())
    (positive : 1 ≤ settings.maxConcurrency) (consistent : state.Consistent settings.dag [])
    (logged : Logged none state) :
    Clean (enterLoop settings state) := by
  rcases enterLoop_cases valid positive consistent with
    ⟨closes, complete⟩ | ⟨newly, scheduled, waits, _⟩
  · rw [closes]
    intro _ step opened
    change OpenStep (state.updates ++ [.workflowEnd _]) step at opened
    rw [openStep_append] at opened
    by_cases started : state.task step = none
    · have silent := logged.unstarted step (.inl started)
      have announced := start_mem_about.mpr opened.1
      rw [silent] at announced
      cases announced
    · have done := complete step (consistent.registered step (.inr started))
      obtain ⟨result, found⟩ := Option.ne_none_iff_exists'.mp ((consistent.recorded step).mp done)
      have own := logged.ended step result started found nofun
      apply opened.2 result.status result.error
      rw [← end_mem_about, own]
      simp
  · rw [waits]
    intro impossible
    cases impossible

private theorem processBatch_clean (valid : settings.dag.validate = .ok ())
    (positive : 1 ≤ settings.maxConcurrency) {batch : List StepName}
    (consistent : state.Consistent settings.dag batch) (logged : Logged none state) :
    Clean (processBatch settings state batch) := by
  cases batch with
  | nil => exact enterLoop_clean valid positive consistent logged
  | cons step rest =>
      obtain ⟨outcome, recorded, reason, newly, _, _, _, _, taken⟩ := processBatch_cons consistent
      rw [taken]
      split
      · intro impossible
        cases impossible
      · intro impossible
        cases impossible

private theorem next_clean (valid : settings.dag.validate = .ok ())
    (positive : 1 ≤ settings.maxConcurrency) (run : Run Point) (event : Event Input)
    (after : Run Point) (held : (Invariant settings run ∧ Streamed run) ∧ Clean run)
    (allowed : NothingOpen run event) (taken : next executor settings run event = some after) :
    (Invariant settings after ∧ Streamed after) ∧ Clean after := by
  refine ⟨next_streamed valid positive run event after held.1 taken, ?_⟩
  obtain ⟨⟨invariant, streamed⟩, clean⟩ := held
  by_cases stopped : Stopped run.control
  · intro _ step
    rw [(stopped_next invariant stopped taken).2]
    exact clean stopped step
  · rcases next_cases taken with move | ⟨state, turn, same⟩
    · cases move with
      | opened observerRaised control =>
          cases invariant with
          | opening state consistent idle uncancelled =>
              have same := noteObserver_outcome observerRaised state
              exact enterLoop_clean valid positive
                (consistent.transfer (noteObserver_same observerRaised state))
                (Logged.transfer streamed same.updates same.task same.results)
          | _ => cases control
      | marked observerRaised step result rest control | abandon error control =>
          intro impossible
          cases impossible
      | notified observerRaised step result rest control =>
          cases invariant with
          | notifying _ _ _ state consistent begun uncancelled recorded =>
              have same := noteObserver_outcome observerRaised state
              cases control
              exact processBatch_clean valid positive
                (consistent.transfer (noteObserver_same observerRaised state))
                (Logged.transfer streamed same.updates same.task same.results)
          | _ => cases control
      | returned observerRaised control | recover running remaining recovered control =>
          rw [control] at stopped
          exact absurd trivial stopped
      | wake done control allBegun batch =>
          cases invariant with
          | waiting state consistent busy uncancelled =>
              exact processBatch_clean valid positive (consistent.wake batch)
                (Logged.transfer streamed rfl rfl rfl)
          | _ => cases control
      | timeout limited allBegun suspended =>
          intro _
          exact allowed rfl
    · subst same
      intro stops
      exact absurd stops stopped

private theorem sent_closed_iff (sent : Sent state) (ended : Ended settings state) :
    StreamClosed settings.dag state.updates state.result ↔
      ∀ step, ¬ OpenStep state.updates step := by
  obtain ⟨⟨recorded, steps, known⟩, registered⟩ := ended.results
  constructor
  · intro closed step opened
    obtain ⟨reported, _, paired⟩ := closed.paired
    exact not_closedOnce_of_open opened (paired step opened.1).2
  · intro clean
    refine ⟨sent.framed, recorded, steps, ?_⟩
    intro step announced
    rcases sent.known step with ⟨silent, _⟩ | started | ⟨result, found, own⟩
    · have member := start_mem_about.mpr announced
      rw [silent] at member
      cases member
    · exact absurd ((openStep_iff_about (.inr (.inl started))).mpr started) (clean step)
    · have named := registered step (by rw [found]; exact Option.some_ne_none result)
      have same := known step named
      rw [found, Option.some.injEq] at same
      rw [← same]
      exact ⟨named, closedOnce_of_about own⟩

private theorem returned_closed_iff {run : Run Point}
    (held : Invariant settings run ∧ Streamed run) (returned : run.control = .returned) :
    StreamClosed settings.dag run.state.updates run.state.result ↔
      ∀ step, ¬ OpenStep run.state.updates step := by
  obtain ⟨invariant, streamed⟩ := held
  cases invariant with
  | returned state ended => exact sent_closed_iff streamed ended
  | _ => cases returned

/-- The stream of a run that returned is closed exactly if no timeout of the run
was delivered while a step was open. -/
theorem stream_closed_iff (executor : Executor Point Input) (settings : Settings)
    (valid : settings.dag.validate = .ok ()) (positive : 1 ≤ settings.maxConcurrency)
    (ctx : Context) (workflowId : String) (events : List (Event Input)) (finish : Run Point)
    (run : replay (next executor settings) (start settings ctx workflowId) events =
      some finish) (returned : finish.control = .returned) :
    StreamClosed settings.dag finish.state.updates finish.state.result ↔
      Transition.Along (next executor settings) NothingOpen (start settings ctx workflowId)
        events := by
  have first : Invariant settings (start settings ctx workflowId : Run Point) ∧
      Streamed (start settings ctx workflowId : Run Point) :=
    ⟨start_invariant ctx workflowId, start_streamed ctx workflowId⟩
  have last := replay_invariant (next_streamed valid positive) first run
  rw [returned_closed_iff last returned]
  constructor
  · intro clean
    by_contra left
    obtain ⟨before, event, later, state, stopping, _, toState, _, taken, forbidden, toFinish⟩ :=
      exists_first_disallowed run left
    have held := replay_invariant (next_streamed valid positive) first toState
    simp only [NothingOpen, not_forall, not_not] at forbidden
    obtain ⟨same, step, opened⟩ := forbidden
    subst same
    have stops : Stopped stopping.control ∧ OpenStep stopping.state.updates step := by
      rcases next_cases taken with move | ⟨other, turn, _⟩
      · cases move with
        | timeout limited allBegun suspended => exact ⟨trivial, opened⟩
      · cases turn
    have stuck : ∀ (run : Run Point) (event : Event Input) (after : Run Point),
        Invariant settings run ∧ Stopped run.control ∧ OpenStep run.state.updates step →
        next executor settings run event = some after →
        Invariant settings after ∧ Stopped after.control ∧ OpenStep after.state.updates step := by
      intro run event after held taken
      have kept := stopped_next held.1 held.2.1 taken
      exact ⟨next_invariant valid positive run event after held.1 taken, kept.1,
        (kept.2 step).mpr held.2.2⟩
    have stays := replay_invariant stuck
      ⟨next_invariant valid positive state _ stopping held.1 taken, stops⟩ toFinish
    exact clean step stays.2.2
  · intro along
    have clean : Clean (start settings ctx workflowId : Run Point) := by
      intro impossible
      cases impossible
    have held := replay_invariant_along (next_clean valid positive) ⟨first, clean⟩ along run
    apply held.2
    rw [returned]
    trivial

def releaseDag : DAG :=
  { name := "release"
    steps := [{ name := "build" }, { name := "publish", dependsOn := ["build"] }]
    distinct := by decide }

def releaseSettings : Settings := { dag := releaseDag, maxConcurrency := 10, timeout := some "30" }

def releaseScript (step : StepName) : TaskOutcome :=
  .returned { stepName := step, status := .success }

/-- The timeout falls while the end of `build` is being sent: nothing is open. -/
theorem stream_closed_between_steps : ∃ finish : Run Unit,
    replay (next (Executor.scripted releaseScript) releaseSettings)
      (start releaseSettings {} "run")
      [.resume false, .begin "build", .observed "build" false (), .advance "build" (),
        .wake ["build"], .timeout, .recover [] ["publish"], .resume false] = some finish ∧
      finish.control = .returned ∧
      StreamClosed releaseDag finish.state.updates finish.state.result := by
  refine ⟨_, rfl, ?_⟩
  refine ⟨rfl, ?_⟩
  apply (stream_closed_iff (Executor.scripted releaseScript) releaseSettings rfl (by decide) {}
    "run" [.resume false, .begin "build", .observed "build" false (), .advance "build" (),
      .wake ["build"], .timeout, .recover [] ["publish"], .resume false] _ rfl rfl).mpr
  refine ⟨nofun, nofun, nofun, nofun, nofun, ?_, nofun, nofun, trivial⟩
  intro _ step opened
  have announced : stepStart step ∈
      [.workflowStart, .stepStart "build", .stepEnd "build" .success none] := opened.1
  have same : step = "build" := by simpa using announced
  subst same
  exact opened.2 .success none (by decide)

/-- The timeout falls while `build` runs: its start was sent and its end never is. -/
theorem stream_open_after_timeout : ∃ finish : Run Unit,
    replay (next (Executor.scripted releaseScript) releaseSettings)
      (start releaseSettings {} "run")
      [.resume false, .begin "build", .observed "build" false (), .timeout, .cancel "build" (),
        .recover ["build"] [], .resume false] = some finish ∧
      finish.control = .returned ∧
      ¬ StreamClosed releaseDag finish.state.updates finish.state.result := by
  refine ⟨_, rfl, ?_⟩
  refine ⟨rfl, ?_⟩
  intro closed
  obtain ⟨recorded, _, paired⟩ := closed.paired
  have sent : OpenStep [.workflowStart, .stepStart "build", .workflowEnd .failed] "build" := by
    simp [OpenStep]
  exact not_closedOnce_of_open sent (paired "build" sent.1).2

end

end DAGExecutor

end AgenticRuntime
