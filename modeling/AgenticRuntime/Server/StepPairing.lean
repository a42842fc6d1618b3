/-
When the broadcast events of a streamed step are paired.

What is sent about one step depends only on the statuses reported of it: its events are
those of a small machine that reads these statuses one by one. The machine starts the
step once and ends it once exactly when the first terminal status is also the last word.
-/

import AgenticRuntime.Server.StepEvents
import Mathlib.Data.List.TakeWhile

namespace AgenticRuntime

open Python List

/-! ### The events of one step -/

inductive StepMark where
  | start
  | finish (status : String)
deriving DecidableEq

def StepEvent.mark : StepEvent → StepMark
  | .stepStart _ _ => .start
  | .stepEnd _ status _ => .finish status

def StepMark.isFinish : StepMark → Bool
  | .start => false
  | .finish _ => true

def knownStatuses : List String := ["running", "pending"] ++ endedStatuses

/-- What is promised about the events of a step for which `reports` were streamed. -/
structure PairedOnce (marks : List StepMark) (reports : List String) : Prop where
  startsOnce : marks.count .start ≤ 1
  endsOnce : marks.countP StepMark.isFinish ≤ 1
  ordered : ∀ before status after,
    marks = before ++ .finish status :: after → StepMark.start ∈ before
  final : ∀ status, .finish status ∈ marks → reports.getLast? = some status

/-- The first terminal status reported stands: nothing known that is reported later
differs from it, and it is the last one reported. -/
def SettlesOnce (reports : List String) : Prop :=
  ∀ status rest, reports.dropWhile (· ∉ endedStatuses) = status :: rest →
    (∀ later ∈ rest, later ∈ knownStatuses → later = status) ∧
      (status :: rest).getLast? = some status

/-! ### The machine -/

variable (previous : Option String) (status : String)

def respond : Option String × List StepMark :=
  if status ∈ ["running", "pending"] then
    if previous = some "running" then (previous, []) else (some "running", [.start])
  else if status ∉ endedStatuses then (previous, [])
  else if previous = some status then (previous, [])
  else (some status, (if previous = .none then [.start] else []) ++ [.finish status])

def respondAll (previous : Option String) : List String → List StepMark
  | [] => []
  | status :: rest =>
      (respond previous status).2 ++ respondAll (respond previous status).1 rest

def lastAfter (reports : List String) : Option String :=
  reports.foldl (fun previous status => (respond previous status).1) previous

theorem respondAll_append (earlier later : List String) :
    respondAll previous (earlier ++ later) =
      respondAll previous earlier ++ respondAll (lastAfter previous earlier) later := by
  induction earlier generalizing previous with
  | nil => rfl
  | cons status rest ih =>
      rw [cons_append, respondAll, respondAll, ih, append_assoc]
      rfl

theorem lastAfter_append (earlier later : List String) :
    lastAfter previous (earlier ++ later) = lastAfter (lastAfter previous earlier) later :=
  foldl_append

theorem respond_unknown (unknown : status ∉ knownStatuses) :
    respond previous status = (previous, []) := by
  have neither := not_or.mp (fun either => unknown (mem_append.mpr either))
  rw [respond, if_neg neither.1, if_pos neither.2]

theorem terminal_not_started (terminal : status ∈ endedStatuses) :
    status ∉ ["running", "pending"] := by
  revert status
  decide

/-! ### Before the first terminal status -/

theorem respond_quiet (quiet : status ∉ endedStatuses) :
    respond previous status = (previous, []) ∨
      respond previous status = (some "running", [.start]) ∧ previous ≠ some "running" := by
  by_cases started : status ∈ ["running", "pending"]
  · rw [respond, if_pos started]
    by_cases running : previous = some "running"
    · rw [if_pos running]
      left
      rfl
    · rw [if_neg running]
      right
      exact ⟨rfl, running⟩
  · left
    rw [respond, if_neg started, if_pos quiet]

theorem respondAll_quiet_running (reports : List String)
    (quiet : ∀ status ∈ reports, status ∉ endedStatuses) :
    respondAll (some "running") reports = [] ∧
      lastAfter (some "running") reports = some "running" := by
  induction reports with
  | nil => exact ⟨rfl, rfl⟩
  | cons status rest ih =>
      have restQuiet := ih fun later within => quiet later (mem_cons_of_mem _ within)
      have stays : respond (some "running") status = (some "running", []) := by
        rcases respond_quiet (some "running") status (quiet status mem_cons_self)
          with same | started
        · exact same
        · exact absurd rfl started.2
      rw [respondAll, lastAfter, foldl_cons, stays]
      exact restQuiet

theorem respondAll_quiet (reports : List String)
    (quiet : ∀ status ∈ reports, status ∉ endedStatuses) :
    respondAll .none reports = [] ∧ lastAfter .none reports = .none ∨
      respondAll .none reports = [.start] ∧ lastAfter .none reports = some "running" := by
  induction reports with
  | nil =>
      left
      exact ⟨rfl, rfl⟩
  | cons status rest ih =>
      have restQuiet : ∀ later ∈ rest, later ∉ endedStatuses :=
        fun later within => quiet later (mem_cons_of_mem _ within)
      rw [respondAll, lastAfter, foldl_cons]
      rcases respond_quiet .none status (quiet status mem_cons_self) with same | started
      · rw [same]
        exact ih restQuiet
      · rw [started.1]
        have running := respondAll_quiet_running rest restQuiet
        right
        rw [running.1]
        exact ⟨rfl, running.2⟩

theorem respond_first_terminal (terminal : status ∈ endedStatuses)
    (differs : previous ≠ some status) :
    respond previous status =
      (some status, (if previous = .none then [.start] else []) ++ [.finish status]) := by
  rw [respond, if_neg (terminal_not_started status terminal), if_neg (not_not.mpr terminal),
    if_neg differs]

theorem respondAll_ended (quietReports : List String) (status : String) (rest : List String)
    (quiet : ∀ earlier ∈ quietReports, earlier ∉ endedStatuses)
    (terminal : status ∈ endedStatuses) :
    respondAll .none (quietReports ++ status :: rest) =
      .start :: .finish status :: respondAll (some status) rest := by
  have notRunning : some "running" ≠ some status := by
    intro same
    cases same
    revert terminal
    decide
  rw [respondAll_append, respondAll]
  rcases respondAll_quiet quietReports quiet with ⟨marks, last⟩ | ⟨marks, last⟩
  · rw [marks, last, respond_first_terminal _ _ terminal (Option.some_ne_none status).symm]
    rfl
  · rw [marks, last, respond_first_terminal _ _ terminal notRunning]
    rfl

/-! ### After the first terminal status -/

theorem respondAll_silent_iff (terminal : status ∈ endedStatuses) (rest : List String) :
    respondAll (some status) rest = [] ↔
      ∀ later ∈ rest, later ∈ knownStatuses → later = status := by
  induction rest with
  | nil => exact iff_of_true rfl fun later within => absurd within not_mem_nil
  | cons next rest ih =>
      rw [forall_mem_cons, respondAll]
      by_cases known : next ∈ knownStatuses
      · by_cases same : next = status
        · subst next
          have stays : respond (some status) status = (some status, []) := by
            rw [respond, if_neg (terminal_not_started status terminal),
              if_neg (not_not.mpr terminal), if_pos rfl]
          rw [stays, nil_append, ih]
          exact ⟨fun tail => ⟨fun _ => rfl, tail⟩, fun both => both.2⟩
        · have sends : (respond (some status) next).2 ≠ [] := by
            have notRunning : some status ≠ some "running" := by
              intro running
              cases running
              revert terminal
              decide
            rcases mem_append.mp known with started | ended
            · rw [respond, if_pos started, if_neg notRunning]
              exact cons_ne_nil _ _
            · rw [respond_first_terminal _ _ ended fun equal => same (Option.some.inj equal).symm]
              exact append_ne_nil_of_right_ne_nil _ (cons_ne_nil _ _)
          constructor
          · intro silent
            exact absurd (append_eq_nil_iff.mp silent).1 sends
          · intro repeated
            exact absurd (repeated.1 known) same
      · rw [respond_unknown _ _ known, nil_append, ih]
        exact ⟨fun tail => ⟨fun within => absurd within known, tail⟩, fun both => both.2⟩

theorem paired_of_start_only (reports : List String) (marks : List StepMark)
    (few : marks = [] ∨ marks = [.start]) : PairedOnce marks reports := by
  have noFinish : ∀ status, StepMark.finish status ∉ marks := by
    intro status within
    rcases few with none | one
    · rw [none] at within
      cases within
    · rw [one] at within
      cases mem_singleton.mp within
  refine ⟨?_, ?_, ?_, fun status within => absurd within (noFinish status)⟩
  · rcases few with none | one
    · rw [none, count_nil]
      exact Nat.zero_le 1
    · rw [one, count_singleton_self]
  · rcases few with none | one
    · rw [none, countP_nil]
      exact Nat.zero_le 1
    · rw [one]
      decide
  · intro before status after split
    refine absurd ?_ (noFinish status)
    rw [split]
    exact mem_append_right _ mem_cons_self

theorem paired_of_ended (reports : List String) (status : String) (more : List StepMark) :
    PairedOnce (.start :: .finish status :: more) reports ↔
      more = [] ∧ reports.getLast? = some status := by
  constructor
  · intro paired
    constructor
    · cases more with
      | nil => rfl
      | cons mark more =>
          cases mark with
          | start =>
              have twice := paired.startsOnce
              simp only [count_cons_self, count_cons, reduceCtorEq, beq_iff_eq] at twice
              omega
          | finish other =>
              have twice := paired.endsOnce
              simp only [countP_cons, StepMark.isFinish] at twice
              simp only [if_true] at twice
              omega
    · exact paired.final status (mem_cons_of_mem _ mem_cons_self)
  · intro ⟨alone, last⟩
    subst more
    refine ⟨by simp, by simp [StepMark.isFinish], ?_, ?_⟩
    · intro before other after split
      cases before with
      | nil => cases split
      | cons mark before =>
          rw [cons_append] at split
          rw [(List.cons.inj split).1]
          exact mem_cons_self
    · intro other within
      simp only [List.mem_cons, reduceCtorEq, false_or, not_mem_nil, or_false] at within
      cases within
      exact last

theorem respondAll_paired_iff (reports : List String) :
    PairedOnce (respondAll .none reports) reports ↔ SettlesOnce reports := by
  have quiet : ∀ status ∈ reports.takeWhile (· ∉ endedStatuses), status ∉ endedStatuses :=
    fun status within => by
      have kept := mem_takeWhile_imp within
      exact of_decide_eq_true kept
  have whole := @List.takeWhile_append_dropWhile _ (· ∉ endedStatuses) reports
  rw [SettlesOnce]
  cases ended : reports.dropWhile (· ∉ endedStatuses) with
  | nil =>
      rw [ended, append_nil] at whole
      rw [whole] at quiet
      constructor
      · intro _ status rest impossible
        cases impossible
      · intro _
        apply paired_of_start_only
        rcases respondAll_quiet reports quiet with ⟨none, _⟩ | ⟨one, _⟩
        · left
          exact none
        · right
          exact one
  | cons status rest =>
      rw [ended] at whole
      have terminal : status ∈ endedStatuses := by
        have stopped := List.head?_dropWhile_not (· ∉ endedStatuses) reports
        rw [ended] at stopped
        simpa using stopped
      have last : reports.getLast? = (status :: rest).getLast? := by
        rw [← whole, List.getLast?_append_of_ne_nil _ (cons_ne_nil _ _)]
      rw [← whole, respondAll_ended _ status rest quiet terminal, whole, paired_of_ended,
        respondAll_silent_iff status terminal, last]
      constructor
      · intro both other others same
        cases same
        exact both
      · intro settles
        exact settles status rest rfl

/-! ### The stream -/

namespace StepBroadcast

variable (settings : Settings) (state : StepBroadcast) (nodeUpdates : List Mapping)

variable (step : String) (event : StepEvent)

def marksOf : List StepMark :=
  (state.events.filter (·.step = step)).map StepEvent.mark

def reportsIn (entries : List (PyKey × Mapping)) (step : String) : List String :=
  (entries.filter (settings.nameText ·.1 = step)).map fun entry => statusOf settings entry.2

def reports : List String :=
  reportsIn settings (nodeUpdates.flatMap stepsOf) step

/-- `_step_channel_enabled` of the websocket. -/
def shown : Bool := stepChannelEnabled settings.stepObservers step "websocket"

def visible (marks : List StepMark) : List StepMark :=
  if shown settings step then marks else []

/-- What a step of the stream did to `step`: the machine read `statuses`. -/
structure Follows (before after : StepBroadcast) (step : String) (statuses : List String) :
    Prop where
  last : after.lastStatusByStep step = lastAfter (before.lastStatusByStep step) statuses
  marks : after.marksOf step = before.marksOf step ++
    visible settings step (respondAll (before.lastStatusByStep step) statuses)

/-- `name` got a new last status and sent `marks`; nothing else changed. -/
structure Advances (before after : StepBroadcast) (name : String) (last : Option String)
    (marks : List StepMark) : Prop where
  ownLast : after.lastStatusByStep name = last
  ownMarks : after.marksOf name = before.marksOf name ++ visible settings name marks
  otherLast : ∀ step, name ≠ step → after.lastStatusByStep step = before.lastStatusByStep step
  otherMarks : ∀ step, name ≠ step → after.marksOf step = before.marksOf step

variable {settings}

theorem broadcast_last :
    (state.broadcast settings event).lastStatusByStep = state.lastStatusByStep := by
  rw [broadcast]
  split <;> rfl

theorem score_last (step status : String) (data : Mapping) :
    (state.score settings step status data).lastStatusByStep = state.lastStatusByStep := by
  rw [score]
  split <;> rfl

theorem score_marks (step status : String) (data : Mapping) (other : String) :
    (state.score settings step status data).marksOf other = state.marksOf other := by
  rw [score]
  split <;> rfl

theorem broadcast_own_marks :
    (state.broadcast settings event).marksOf event.step =
      state.marksOf event.step ++ visible settings event.step [event.mark] := by
  rw [broadcast, visible, shown]
  split
  · simp only [marksOf, filter_append, map_append, filter_cons, decide_true, if_true, filter_nil,
      map_cons, map_nil]
  · rw [append_nil]

theorem broadcast_other_marks (step : String) (other : event.step ≠ step) :
    (state.broadcast settings event).marksOf step = state.marksOf step := by
  rw [broadcast]
  split
  · simp only [marksOf, filter_append, filter_cons, decide_eq_true_eq, if_neg other, filter_nil,
      append_nil]
  · rfl

theorem visible_append (name : String) (earlier later : List StepMark) :
    visible settings name (earlier ++ later) =
      visible settings name earlier ++ visible settings name later := by
  simp only [visible]
  split
  · rfl
  · rw [append_nil]

theorem visible_nil (name : String) : visible settings name [] = [] := by
  rw [visible, ite_self]

theorem Advances.refl (name : String) :
    Advances settings state state name (state.lastStatusByStep name) [] where
  ownLast := rfl
  ownMarks := by rw [visible_nil, append_nil]
  otherLast _ _ := rfl
  otherMarks _ _ := rfl

theorem Advances.trans {first second third : StepBroadcast} {name : String}
    {middle last : Option String} {earlier later : List StepMark}
    (left : Advances settings first second name middle earlier)
    (right : Advances settings second third name last later) :
    Advances settings first third name last (earlier ++ later) where
  ownLast := right.ownLast
  ownMarks := by rw [right.ownMarks, left.ownMarks, visible_append, append_assoc]
  otherLast step other := (right.otherLast step other).trans (left.otherLast step other)
  otherMarks step other := (right.otherMarks step other).trans (left.otherMarks step other)

theorem announce_advances (status : String) :
    Advances settings state ((state.setStatus event.step status).broadcast settings event)
      event.step (some status) [event.mark] where
  ownLast := by
    rw [broadcast_last]
    exact Function.update_self ..
  ownMarks := broadcast_own_marks _ event
  otherLast step other := by
    rw [broadcast_last]
    exact Function.update_of_ne other.symm _ _
  otherMarks step other := broadcast_other_marks _ event step other

theorem processStreamedStep_advances (stepNameRaw : PyKey) (stepData : Mapping) :
    Advances settings state (state.processStreamedStep settings stepNameRaw stepData)
      (settings.nameText stepNameRaw)
      (respond (state.lastStatusByStep (settings.nameText stepNameRaw))
        (statusOf settings stepData)).1
      (respond (state.lastStatusByStep (settings.nameText stepNameRaw))
        (statusOf settings stepData)).2 := by
  rw [processStreamedStep, respond]
  dsimp only
  by_cases started : statusOf settings stepData ∈ ["running", "pending"]
  · rw [if_pos started, if_pos started]
    by_cases running : state.lastStatusByStep (settings.nameText stepNameRaw) = some "running"
    · rw [if_pos running, if_pos running]
      exact Advances.refl state _
    · rw [if_neg running, if_neg running]
      exact announce_advances state (.stepStart _ _) "running"
  · rw [if_neg started, if_neg started]
    by_cases ignored : statusOf settings stepData ∉ endedStatuses
    · rw [if_pos ignored, if_pos ignored]
      exact Advances.refl state _
    · rw [if_neg ignored, if_neg ignored]
      by_cases again : state.lastStatusByStep (settings.nameText stepNameRaw) =
          some (statusOf settings stepData)
      · rw [if_pos again, if_pos again]
        exact Advances.refl state _
      · rw [if_neg again, if_neg again]
        -- A step that ends unannounced is started first.
        have begun : ∃ middle, Advances settings state
            (if state.lastStatusByStep (settings.nameText stepNameRaw) = .none then
              (state.setStatus (settings.nameText stepNameRaw) "running").broadcast settings
                (.stepStart (settings.nameText stepNameRaw)
                  (((Items.get? state.aggregatedSteps stepNameRaw).bind asMapping?).getD stepData))
            else state) (settings.nameText stepNameRaw) middle
            (if state.lastStatusByStep (settings.nameText stepNameRaw) = .none then [.start]
            else []) := by
          by_cases unseen : state.lastStatusByStep (settings.nameText stepNameRaw) = .none
          · rw [if_pos unseen, if_pos unseen]
            exact ⟨_, announce_advances state (.stepStart _ _) "running"⟩
          · rw [if_neg unseen, if_neg unseen]
            exact ⟨_, Advances.refl state _⟩
        obtain ⟨middle, begun⟩ := begun
        have ended := begun.trans (announce_advances _ (.stepEnd (settings.nameText stepNameRaw)
          (statusOf settings stepData)
          (((Items.get? state.aggregatedSteps stepNameRaw).bind asMapping?).getD stepData))
          (statusOf settings stepData))
        constructor
        · rw [score_last]
          exact ended.ownLast
        · rw [score_marks]
          exact ended.ownMarks
        · intro step other
          rw [score_last]
          exact ended.otherLast step other
        · intro step other
          rw [score_marks]
          exact ended.otherMarks step other

theorem Follows.refl :
    Follows settings state state step [] where
  last := rfl
  marks := by rw [respondAll, visible_nil, append_nil]

theorem Follows.trans {first second third : StepBroadcast} {step : String}
    {earlier later : List String} (left : Follows settings first second step earlier)
    (right : Follows settings second third step later) :
    Follows settings first third step (earlier ++ later) where
  last := by rw [right.last, left.last, lastAfter_append]
  marks := by
    rw [right.marks, left.marks, left.last, respondAll_append, visible_append, append_assoc]

theorem processStreamedStep_follows (entry : PyKey × Mapping) (step : String) :
    Follows settings state (state.processStreamedStep settings entry.1 entry.2) step
      (reportsIn settings [entry] step) := by
  have advances : Advances settings _ _ _ _ _ := processStreamedStep_advances state entry.1 entry.2
  by_cases own : settings.nameText entry.1 = step
  · subst step
    simp only [reportsIn, filter_cons, decide_true, if_true, filter_nil, map_cons, map_nil]
    constructor
    · exact advances.ownLast
    · rw [respondAll, respondAll, append_nil]
      exact advances.ownMarks
  · simp only [reportsIn, filter_cons, own, decide_false, Bool.false_eq_true, if_false, filter_nil,
      map_nil]
    constructor
    · exact advances.otherLast step own
    · rw [respondAll, visible_nil, append_nil]
      exact advances.otherMarks step own

theorem walk_follows (entries : List (PyKey × Mapping)) (step : String) (state : StepBroadcast) :
    Follows settings state
      (entries.foldl (fun state entry => state.processStreamedStep settings entry.1 entry.2) state)
      step (reportsIn settings entries step) := by
  induction entries generalizing state with
  | nil => exact Follows.refl state step
  | cons entry entries ih =>
      have split : reportsIn settings (entry :: entries) step =
          reportsIn settings [entry] step ++ reportsIn settings entries step := by
        rw [reportsIn, reportsIn, reportsIn, ← map_append, ← filter_append]
        rfl
      rw [split]
      exact (processStreamedStep_follows state entry step).trans (ih _)

theorem receive_follows (nodeUpdate : Mapping) (step : String) (state : StepBroadcast) :
    Follows settings state (receive settings state nodeUpdate) step
      (reportsIn settings (stepsOf nodeUpdate) step) := by
  have walked : Follows settings _ _ _ _ := walk_follows (stepsOf nodeUpdate) step
    { state with aggregatedSteps := mergeStreamState state.aggregatedSteps nodeUpdate }
  exact ⟨walked.last, walked.marks⟩

theorem receiveAll_follows (state : StepBroadcast) :
    Follows settings state (nodeUpdates.foldl (receive settings) state) step
      (reports settings nodeUpdates step) := by
  induction nodeUpdates generalizing state with
  | nil => exact Follows.refl state step
  | cons nodeUpdate nodeUpdates ih =>
      have split : reports settings (nodeUpdate :: nodeUpdates) step =
          reportsIn settings (stepsOf nodeUpdate) step ++ reports settings nodeUpdates step := by
        rw [reports, reports, reportsIn, reportsIn, reportsIn, flatMap_cons, filter_append,
          map_append]
      rw [split]
      exact (receive_follows nodeUpdate step state).trans (ih _)

variable (settings)

theorem stream_marks :
    (stream settings nodeUpdates).marksOf step =
      visible settings step (respondAll .none (reports settings nodeUpdates step)) :=
  (receiveAll_follows nodeUpdates step {}).marks

/-- The events of a step are paired exactly when the step is not shown on the websocket or
its first terminal status stands. -/
theorem stream_paired_iff (nodeUpdates : List Mapping) (step : String) :
    PairedOnce ((stream settings nodeUpdates).marksOf step) (reports settings nodeUpdates step) ↔
      (shown settings step = true → SettlesOnce (reports settings nodeUpdates step)) := by
  rw [stream_marks, visible]
  split
  · case isTrue enabled =>
      rw [respondAll_paired_iff]
      exact ⟨fun settles _ => settles, fun settles => settles enabled⟩
  · case isFalse disabled =>
      exact iff_of_true (paired_of_start_only _ _ (.inl rfl)) fun enabled =>
        absurd enabled disabled

/-! A looping step that fails in its first round and succeeds in its second. -/

def plainText : PyValue → String
  | .str text => text
  | _ => ""

def keyText : PyKey → String
  | .str name => name
  | _ => ""

def everyChannel : Settings where
  nameText := keyText
  valueText := plainText
  stepObservers := .none
  scoring := false

def draftUpdate (status : String) : Mapping :=
  [(.str "draft", .dict [(.str "steps", .dict [(.str "draft",
    .dict [(.str "status", .str status)])])])]

/-- The second round ends the step again. -/
theorem retried_step_ends_twice :
    (stream everyChannel [draftUpdate "failed", draftUpdate "success"]).marksOf "draft" =
        [.start, .finish "failed", .finish "success"] ∧
      ¬ PairedOnce
        ((stream everyChannel [draftUpdate "failed", draftUpdate "success"]).marksOf "draft")
        (reports everyChannel [draftUpdate "failed", draftUpdate "success"] "draft") := by
  have sent : (stream everyChannel [draftUpdate "failed", draftUpdate "success"]).marksOf "draft" =
      [.start, .finish "failed", .finish "success"] := by decide
  constructor
  · exact sent
  · intro paired
    have once := paired.endsOnce
    rw [sent] at once
    revert once
    decide

end StepBroadcast

end AgenticRuntime
