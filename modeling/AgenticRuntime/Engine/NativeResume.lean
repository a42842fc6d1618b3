/-
`NativeEngine.resume`: the checkpoint rows of a thread, what the `on_update` wrapper
writes, what a resumed run starts from, and that it runs checkpointed steps again.

The scheduler starts from the dependency counts alone, and the gate of a step asks for
the steps it depends on, never for the step itself.
-/

import AgenticRuntime.Engine.StepData
import AgenticRuntime.Engine.BodyReached
import AgenticRuntime.Engine.GateAgreement

namespace AgenticRuntime

open Python StepExecutor List DAGExecutor

namespace NativeEngine

/-! ### adapters/native/_checkpoint_store.py -/

/-- A row of the `checkpoints` table without its time stamp. The output data is the
object its JSON text stands for. -/
structure CheckpointRow where
  threadId : String
  workflowName : String
  stepName : StepName
  status : String
  outputData : List (String × Json)

abbrev CheckpointStore := List CheckpointRow

/-- `INSERT OR REPLACE` under the key of thread and step. -/
def CheckpointStore.write (store : CheckpointStore) (row : CheckpointRow) : CheckpointStore :=
  store.filter (fun old => ¬ (old.threadId = row.threadId ∧ old.stepName = row.stepName)) ++ [row]

def CheckpointStore.read (store : CheckpointStore) (threadId : String) : List CheckpointRow :=
  store.filter fun row => row.threadId = threadId

/-! ### adapters/native/engine.py -/

/-- The `step_end` event of a step. -/
structure StepEnd where
  step : StepName
  status : StepStatus
  output : Dict PyValue

/-- The items of an output as `json.dumps` sees them. -/
def jsonItems (output : Dict PyValue) : List (PyKey × PyValue) :=
  output.items.map fun item => (.str item.1, item.2)

section

variable (floatRepr : PyFloat → String) (workflowName threadId : String)

/-- `_wrap_on_update`. An output that has no JSON text is not written. -/
def wrapOnUpdate (store : CheckpointStore) (event : StepEnd) : CheckpointStore :=
  if event.status = .success then
    match dumpsMembers floatRepr (jsonItems event.output) with
    | none => store
    | some outputData =>
        store.write
          { threadId := threadId
            workflowName := workflowName
            stepName := event.step
            status := StepStatus.success.value
            outputData := outputData }
  else store

end

/-- The turn of the loop of `_restore_checkpoint_state`. -/
def restoreStep (ctx : ExecutionContext) (row : CheckpointRow) :
    Except VariableKeyError ExecutionContext :=
  if row.status ≠ StepStatus.success.value then .ok ctx
  else
    let marked :=
      if row.stepName ∈ ctx.completedSteps then ctx
      else { ctx with completedSteps := ctx.completedSteps ++ [row.stepName] }
    (Items.update [] (loadsMembers row.outputData)).foldlM
      (fun ctx item => ctx.set item.1 item.2) marked

def restoreCheckpointState (ctx : ExecutionContext) (saved : List CheckpointRow) :
    Except VariableKeyError ExecutionContext :=
  saved.foldlM restoreStep ctx

/-- `resume`; `execute` on a fresh context is the case of an empty `saved`. -/
def resume (settings : Settings) (ctx : ExecutionContext) (saved : List CheckpointRow) :
    Except VariableKeyError DataRun :=
  (restoreCheckpointState ctx saved).map (DataRun.start settings)

/-! ### The rows of an interrupted run -/

section

variable {floatRepr : PyFloat → String} {workflowName threadId : String}

/-- What the wrapper leaves in a store: rows with distinct keys, each for an event of a
step that succeeded. -/
structure Recorded (floatRepr : PyFloat → String) (threadId : String) (events : List StepEnd)
    (store : CheckpointStore) : Prop where
  distinct : (store.map CheckpointRow.stepName).Nodup
  thread : ∀ row, row ∈ store → row.threadId = threadId
  source : ∀ row, row ∈ store → row.status = StepStatus.success.value ∧
    ∃ event, event ∈ events ∧ event.status = .success ∧ event.step = row.stepName ∧
      dumpsMembers floatRepr (jsonItems event.output) = some row.outputData

theorem Recorded.wrap {events : List StepEnd} {store : CheckpointStore}
    (recorded : Recorded floatRepr threadId events store) (event : StepEnd) :
    Recorded floatRepr threadId (events ++ [event])
      (wrapOnUpdate floatRepr workflowName threadId store event) := by
  have kept : Recorded floatRepr threadId (events ++ [event]) store := by
    refine ⟨recorded.distinct, recorded.thread, fun row member => ?_⟩
    obtain ⟨status, old, known, rest⟩ := recorded.source row member
    exact ⟨status, old, mem_append_left _ known, rest⟩
  unfold wrapOnUpdate
  split
  · rename_i succeeded
    split
    · exact kept
    · rename_i outputData dumped
      constructor
      · rw [CheckpointStore.write, map_append, nodup_append]
        refine ⟨kept.distinct.sublist (filter_sublist.map _), nodup_singleton _, ?_⟩
        intro name old last new same
        obtain ⟨row, member, named⟩ := mem_map.mp old
        rw [mem_filter] at member
        rw [map_singleton, mem_singleton] at new
        have differs := of_decide_eq_true member.2
        apply differs
        exact ⟨kept.thread row member.1, named.trans (same.trans new)⟩
      · intro row member
        rcases mem_append.mp member with old | new
        · exact kept.thread row (mem_filter.mp old).1
        · rw [mem_singleton] at new
          rw [new]
      · intro row member
        rcases mem_append.mp member with old | new
        · exact kept.source row (mem_filter.mp old).1
        · rw [mem_singleton] at new
          subst new
          exact ⟨rfl, event, mem_append_right _ mem_cons_self, succeeded, rfl, dumped⟩
  · exact kept

theorem recorded_of_events (events : List StepEnd) :
    Recorded floatRepr threadId events
      (events.foldl (wrapOnUpdate floatRepr workflowName threadId) []) := by
  induction events using List.reverseRecOn with
  | nil => exact ⟨nodup_nil, nofun, nofun⟩
  | append_singleton events event ih =>
      rw [foldl_append]
      exact ih.wrap event

end

/-! ### Resumed against uninterrupted -/

/-- The step was given the same inputs, and has the same status and output. -/
structure SameStep (left right : DataRun) (step : StepName) : Prop where
  inputs : left.inputs step = right.inputs step
  status : (left.run.state.results step).map StepResult.status =
    (right.run.state.results step).map StepResult.status
  output : left.outputs step = right.outputs step

def Attained (floatRepr : PyFloat → String) (programs : StepName → StepProgram)
    (saved : List CheckpointRow) : Prop :=
  ∀ row, row ∈ saved → ∃ inputs raw output, (programs row.stepName).body inputs = .ok raw ∧
    (programs row.stepName).settleOutput raw = (output, none) ∧
    dumpsMembers floatRepr (jsonItems output) = some row.outputData

/-- The resumed run starts, and in each of its states no checkpointed step is in its body
and an uninterrupted run shows the same variables and the same of all the other steps. -/
def Faithful (programs : StepName → StepProgram) (settings : Settings)
    (workflowId runId : String) (saved : List CheckpointRow) : Prop :=
  ∃ start, resume settings { workflowId, runId } saved = .ok start ∧
    ∀ events state, Transition.replay (DataRun.next programs settings) start events = some state →
      (∀ step, step ∈ saved.map CheckpointRow.stepName → ¬ state.run.InBody step) ∧
      ∃ uninterrupted other, Transition.replay (DataRun.next programs settings)
          (DataRun.start settings { workflowId, runId }) uninterrupted = some other ∧
        state.ctx.variableMap = other.ctx.variableMap ∧
        ∀ step, step ∉ saved.map CheckpointRow.stepName → SameStep state other step

/-- Whatever its steps compute and however it is run, resuming the DAG from the rows is as
good as an uninterrupted run. -/
def ResumesFaithfully (floatRepr : PyFloat → String) (dag : DAG) (saved : List CheckpointRow) :
    Prop :=
  ∀ programs, Attained floatRepr programs saved → ∀ settings, settings.dag = dag →
    1 ≤ settings.maxConcurrency → ∀ workflowId runId,
      Faithful programs settings workflowId runId saved

/-- The rows of steps that succeeded in a run of the DAG, closed under dependencies. -/
structure Checkpoints (floatRepr : PyFloat → String) (dag : DAG) (saved : List CheckpointRow) :
    Prop where
  distinct : (saved.map CheckpointRow.stepName).Nodup
  succeeded : ∀ row, row ∈ saved → row.status = StepStatus.success.value
  written : ∀ row, row ∈ saved →
    ∃ output, dumpsMembers floatRepr (jsonItems output) = some row.outputData
  ran : ∀ row, row ∈ saved → ∃ definition, dag.lookup row.stepName = some definition ∧
    definition.func = true ∧ 0 ≤ definition.maxRetries
  closed : ∀ row, row ∈ saved → ∀ dep, dep ∈ dag.dependsOn row.stepName →
    dep ∈ saved.map CheckpointRow.stepName

variable {floatRepr : PyFloat → String} {saved : List CheckpointRow}

theorem Recorded.checkpoints {threadId : String} {dag : DAG} {events : List StepEnd}
    {store : CheckpointStore} (recorded : Recorded floatRepr threadId events store)
    (ran : ∀ event, event ∈ events → event.status = .success →
      ∃ definition, dag.lookup event.step = some definition ∧
        definition.func = true ∧ 0 ≤ definition.maxRetries)
    (closed : ∀ row, row ∈ store → ∀ dep, dep ∈ dag.dependsOn row.stepName →
      dep ∈ store.map CheckpointRow.stepName) : Checkpoints floatRepr dag store := by
  refine ⟨recorded.distinct, fun row member => (recorded.source row member).1, ?_, ?_, closed⟩
  · intro row member
    obtain ⟨_, event, _, _, _, dumped⟩ := recorded.source row member
    exact ⟨event.output, dumped⟩
  · intro row member
    obtain ⟨_, event, known, succeeded, named, _⟩ := recorded.source row member
    rw [← named]
    exact ran event known succeeded

/-! ### A checkpointed step reaches its body -/

/-- The step asks for nothing: its conditions hold and no input is mapped. -/
structure Plain (program : StepProgram) : Prop where
  whenHolds : program.whenHolds = fun _ => .value true
  unlessHolds : program.unlessHolds = fun _ => .value false
  inputMapping : program.inputMapping = []
  inputContracts : program.inputContracts = .ok

theorem Plain.permits {program : StepProgram} (plain : Plain program) (ctx : ExecutionContext)
    {input : Input} (returned : input.signal = .returned) :
    (DataRun.answer program ctx input).Permits := by
  refine ⟨returned, ?_, ?_⟩
  · simp only [ownConditions, DataRun.answer, plain.whenHolds, plain.unlessHolds, Bool.not_false]
  · change program.inputCount ctx = .value 0
    rw [StepProgram.inputCount, StepProgram.prepareInputs, plain.inputMapping, plain.inputContracts]
    rfl

theorem Plain.carries {programs : StepName → StepProgram} (settings : Settings)
    {step : StepName} {definition : StepDefinition} (plain : Plain (programs step))
    (known : settings.dag.lookup step = some definition) :
    DAGExecutor.Carries settings step (DataRun.next programs settings) DataRun.run := by
  have lifts : ∀ state event after, next StepExecutor.executor settings
      state.run (state.determine programs settings.dag event).1 = some after →
      ∃ later, DataRun.next programs settings state event = some later ∧ later.run = after := by
    intro state event after taken
    refine ⟨{ (state.determine programs settings.dag event).2 with run := after }, ?_, rfl⟩
    rw [DataRun.next]
    simp only [taken, Option.map_some]
  constructor
  · intro state event plainEvent after taken
    apply lifts state event after
    rcases plainEvent with same | same
    · subst same
      exact taken
    · subst same
      exact taken
  · intro state
    exact ⟨DataRun.answer (programs step) state.ctx {}, plain.permits state.ctx rfl,
      fun after taken => lifts state (.observed step false {}) after taken⟩
  · intro state point hook here
    refine ⟨(state.compute (programs step) step definition point {}).1, ?_, ?_⟩
    · cases point with
      | markingStart frame | preHook left frame => exact plain.permits state.ctx rfl
      | _ => cases hook
    · intro after taken
      apply lifts state (.advance step {}) after
      simp only [DataRun.determine, here.task, known]
      exact taken

/-! ### When resuming is faithful -/

theorem Checkpoints.exists_root {dag : DAG} (valid : dag.validate = .ok ())
    (checkpoints : Checkpoints floatRepr dag saved) (some_saved : saved ≠ []) :
    ∃ row, row ∈ saved ∧ dag.dependsOn row.stepName = [] := by
  obtain ⟨_, _, acyclic⟩ := dag.validate_ok_iff.mp valid
  obtain ⟨first, rest, split⟩ := exists_cons_of_ne_nil some_saved
  obtain ⟨step, ⟨row, member, same⟩, least⟩ :=
    acyclic.has_min {step | ∃ row, row ∈ saved ∧ row.stepName = step}
      ⟨first.stepName, first, by rw [split]; exact mem_cons_self, rfl⟩
  refine ⟨row, member, ?_⟩
  apply eq_nil_iff_forall_not_mem.mpr
  intro dep edge
  obtain ⟨source, stored, named⟩ := mem_map.mp (checkpoints.closed row member dep edge)
  apply least dep ⟨source, stored, named⟩
  rw [← same]
  exact edge

theorem Checkpoints.exists_programs {dag : DAG} (checkpoints : Checkpoints floatRepr dag saved) :
    ∃ programs : StepName → StepProgram, Attained floatRepr programs saved ∧
      ∀ step, Plain (programs step) := by
  have chosen : ∀ step, ∃ output : Dict PyValue, ∀ row, row ∈ saved → row.stepName = step →
      dumpsMembers floatRepr (jsonItems output) = some row.outputData := by
    intro step
    by_cases stored : ∃ row, row ∈ saved ∧ row.stepName = step
    · obtain ⟨row, member, named⟩ := stored
      obtain ⟨output, dumped⟩ := checkpoints.written row member
      refine ⟨output, fun other otherMember otherNamed => ?_⟩
      have same : other = row :=
        inj_on_of_nodup_map checkpoints.distinct otherMember member
          (otherNamed.trans named.symm)
      rw [same]
      exact dumped
    · exact ⟨Dict.empty, fun row member named => absurd ⟨row, member, named⟩ stored⟩
  choose output dumped using chosen
  refine ⟨fun step => { body := fun _ => .ok (output step) }, ?_, fun step => ⟨rfl, rfl, rfl, rfl⟩⟩
  intro row member
  exact ⟨Dict.empty, output row.stepName, output row.stepName, rfl, rfl,
    dumped row.stepName row member rfl⟩

theorem Checkpoints.not_faithful {dag : DAG} (checkpoints : Checkpoints floatRepr dag saved)
    (valid : dag.validate = .ok ()) (some_saved : saved ≠ []) :
    ¬ ResumesFaithfully floatRepr dag saved := by
  intro faithful
  obtain ⟨row, member, root⟩ := checkpoints.exists_root valid some_saved
  obtain ⟨programs, attained, plain⟩ := checkpoints.exists_programs
  obtain ⟨definition, known, func, tries⟩ := checkpoints.ran row member
  have found := mem_of_find?_eq_some known
  have same := DAG.name_of_lookup known
  have noDependencies : definition.dependsOn = [] := by
    rw [← dag.dependsOn_of_mem found, same]
    exact root
  have positive : (1 : Int) ≤ dag.steps.length := by
    have nonempty := length_pos_of_mem found
    omega
  let settings : Settings := { dag := dag, maxConcurrency := dag.steps.length }
  obtain ⟨start, resumed, safe⟩ := faithful programs attained settings rfl positive "w" "r"
  obtain ⟨ctx, begun⟩ : ∃ ctx, start = DataRun.start settings ctx := by
    unfold resume at resumed
    cases restored : restoreCheckpointState { workflowId := "w", runId := "r" } saved with
    | error failure =>
        rw [restored] at resumed
        cases resumed
    | ok ctx =>
        rw [restored] at resumed
        cases resumed
        exact ⟨ctx, rfl⟩
  subst begun
  have queued : row.stepName ∈ (dag.stepNames.filter
      fun name => (dag.dependsOn name).length = 0).take settings.maxConcurrency.toNat := by
    rw [take_of_length_le]
    · rw [mem_filter, root]
      exact ⟨same ▸ mem_map_of_mem found, rfl⟩
    · have shorter := length_filter_le
        (fun name => decide ((dag.dependsOn name).length = 0)) dag.stepNames
      rw [DAG.stepNames, length_map] at shorter
      exact shorter
  obtain ⟨events, after, replayed, body⟩ :=
    DAGExecutor.Carries.reaches_body ((plain row.stepName).carries settings known)
      known noDependencies func tries queued (DataRun.start settings ctx) ctx.marks
      ctx.workflowId rfl
  exact (safe events after replayed).1 row.stepName (mem_map_of_mem member) body

/-- Resuming is as good as an uninterrupted run exactly when nothing is checkpointed. -/
theorem resumes_faithfully_iff (floatRepr : PyFloat → String) (dag : DAG)
    (valid : dag.validate = .ok ()) (saved : List CheckpointRow)
    (checkpoints : Checkpoints floatRepr dag saved) :
    ResumesFaithfully floatRepr dag saved ↔ saved = [] := by
  constructor
  · intro faithful
    by_contra some_saved
    exact checkpoints.not_faithful valid some_saved faithful
  · intro nothing
    subst nothing
    intro programs attained settings same positive workflowId runId
    refine ⟨_, rfl, ?_⟩
    intro events state replayed
    refine ⟨nofun, events, state, replayed, rfl, ?_⟩
    intro step _
    exact ⟨rfl, rfl, rfl⟩

def draftEnd : StepEnd :=
  { step := "draft", status := .success, output := Dict.empty.insert "text" (.str "v1") }

/-- The store after `draft` has ended and `review` has not. -/
def draftRows : CheckpointStore :=
  wrapOnUpdate (fun _ => "") "chain" "thread" [] draftEnd

theorem draftRows_checkpoints :
    Checkpoints (fun _ => "") chainDag (draftRows.read "thread") := by
  have recorded : Recorded (fun _ => "") "thread" [draftEnd] draftRows :=
    recorded_of_events [draftEnd]
  have whole : draftRows.read "thread" = draftRows := rfl
  rw [whole]
  apply recorded.checkpoints
  · intro event member _
    rw [mem_singleton] at member
    subst member
    exact ⟨{ name := "draft" }, rfl, rfl, by decide⟩
  · intro row member dep edge
    obtain ⟨_, event, known, _, named, _⟩ := recorded.source row member
    rw [mem_singleton] at known
    subst known
    rw [← named] at edge
    cases edge

theorem resumes_faithfully_iff_draft :
    ResumesFaithfully (fun _ => "") chainDag (draftRows.read "thread") ↔
      draftRows.read "thread" = [] :=
  resumes_faithfully_iff (fun _ => "") chainDag rfl (draftRows.read "thread")
    draftRows_checkpoints

/-- `draft` has succeeded and is checkpointed; the resumed run executes it again. -/
theorem resumed_run_repeats_draft :
    ¬ ResumesFaithfully (fun _ => "") chainDag (draftRows.read "thread") := by
  apply draftRows_checkpoints.not_faithful rfl
  exact cons_ne_nil _ _

end NativeEngine

end AgenticRuntime
