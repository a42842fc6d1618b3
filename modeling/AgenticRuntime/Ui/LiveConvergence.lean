/-
The live view converges, or a reconnect has restored the wrong status.

Events that come in again are dropped, so what a view folds from events is what the
longest delivered prefix gives. Status and error have other writers: a loss and a
reconnect. They come right with the last event that sets the status and go wrong
with a reconnect behind it that restores another one, for good.
-/

import AgenticRuntime.Ui.LogPhases

namespace AgenticRuntime

open List StreamState Transition StreamEvent

/-! ### One event for two views -/

section

variable {left right : StreamState} {event : StreamEvent}

theorem handleEvent_failed (like : FoldsLike left right)
    (failed : left.workflowStatus = .failed → right.workflowStatus = .failed)
    (shown : (left.handleEvent event).workflowStatus = .failed) :
    (right.handleEvent event).workflowStatus = .failed := by
  by_cases seen : event.identity ∈ left.seenEvents
  · rw [handleEvent_seen seen] at shown
    rw [handleEvent_seen (like.seenEvents ▸ seen)]
    exact failed shown
  · rw [handleEvent_new seen] at shown
    rw [handleEvent_new (like.seenEvents ▸ seen)]
    cases body : event.body with
    | evaluationComplete scores =>
        rw [body] at shown
        simp only [apply] at shown ⊢
        split at shown
        · rename_i before
          rw [if_pos (failed before)]
        · cases shown
    | workflowStart | evaluationStart | error =>
        rw [body] at shown
        cases shown
    | workflowEnd status evaluationEnabled =>
        rw [body] at shown
        exact shown
    | stepStart | stepEnd | stepComplete | stepError | tokenDelta | approvalRequired
    | approvalDecision =>
        rw [body] at shown
        exact failed shown

theorem handleEvent_error (like : FoldsLike left right)
    (error : right.error = none → left.error = none)
    (clear : (right.handleEvent event).error = none) : (left.handleEvent event).error = none := by
  by_cases seen : event.identity ∈ left.seenEvents
  · rw [handleEvent_seen (like.seenEvents ▸ seen)] at clear
    rw [handleEvent_seen seen]
    exact error clear
  · rw [handleEvent_new (like.seenEvents ▸ seen)] at clear
    rw [handleEvent_new seen]
    cases body : event.body <;> rw [body] at clear <;>
      first | exact error clear | cases clear

def Agree (left right : StreamState) : Prop :=
  left.workflowStatus = right.workflowStatus ∧ left.error = right.error

theorem agree_of_setsStatus {phase later : RunPhase} {before : List StreamEvent}
    (shows' : PhaseShows phase before) (move : phase.Moves event.body.type later)
    (like : FoldsLike left (received before))
    (failed : left.workflowStatus = .failed → (received before).workflowStatus = .failed)
    (error : (received before).error = none → left.error = none)
    (new : event.identity ∉ left.seenEvents) (sets : event.body.setsStatus = true) :
    Agree (left.handleEvent event) ((received before).handleEvent event) := by
  rw [handleEvent_new new, handleEvent_new (like.seenEvents ▸ new)]
  have clear (calm : phase ≠ .evaluationFailed) (running : phase ≠ .failed) :
      left.error = (received before).error := by
    have none := shows'.error calm running
    rw [none, error none]
  obtain ⟨identity, body⟩ := event
  generalize same : body.type = type at move
  cases move with
  | starts | ends enabled | evaluates =>
      cases body <;> cases same
      exact ⟨rfl, clear (by decide) (by decide)⟩
  | scores =>
      cases body <;> cases same
      have evaluating : (received before).workflowStatus = .evaluating := shows'.status
      have unfailed : left.workflowStatus ≠ .failed := by
        intro isFailed
        have shown := failed isFailed
        rw [evaluating] at shown
        cases shown
      constructor
      · simp only [apply, evaluating, if_neg unfailed]
        exact rfl
      · exact clear (by decide) (by decide)
  | unscored | fails =>
      cases body <;> cases same
      exact ⟨rfl, rfl⟩
  | steps ofStep =>
      subst same
      cases body <;>
        first | exact absurd ofStep Bool.false_ne_true | exact absurd sets Bool.false_ne_true

end

/-! ### Runs of the connection -/

def LiveStatus.inFlight : LiveStatus → Bool
  | .connecting | .running | .evaluating => true
  | .completed | .failed | .error => false

namespace LiveView

variable {log : EmittedLog} {live after : LiveView} {action : StreamAction}

def told (log : EmittedLog) (live : LiveView) : StreamState :=
  received (log.events.take live.delivered)

structure Follows (log : EmittedLog) (live : LiveView) : Prop where
  bounded : live.delivered ≤ log.events.length
  position : ∀ position, live.socket = .opened position → position ≤ live.delivered
  folds : FoldsLike live.view (live.told log)
  saved : live.view.statusBeforeLoss.inFlight = true
  failed : live.view.workflowStatus = .failed → (live.told log).workflowStatus = .failed
  error : live.socket ≠ .dead → (live.told log).error = none → live.view.error = none

structure Fresh (log : EmittedLog) (live after : LiveView) (event : StreamEvent) : Prop where
  listed : log.events.drop live.delivered = event :: log.events.drop after.delivered
  taken : log.events.take after.delivered = log.events.take live.delivered ++ [event]
  view : after.view = live.view.handleEvent event

theorem Fresh.told {event : StreamEvent} (fresh : Fresh log live after event) :
    after.told log = (live.told log).handleEvent event := by
  rw [LiveView.told, fresh.taken, received_concat]
  rfl

inductive Moves (log : EmittedLog) (live after : LiveView) : StreamAction → Prop where
  /-- A message that has been delivered before, and every step of the socket but the last loss. -/
  | quiet (action : StreamAction) (view : after.view = live.view)
      (delivered : after.delivered = live.delivered) (alive : live.socket ≠ .dead)
      (stays : after.socket ≠ .dead) (other : action ≠ .reconnect) : Moves log live after action
  | fresh (event : StreamEvent) (fresh : Fresh log live after event) (alive : live.socket ≠ .dead)
      (stays : after.socket ≠ .dead) : Moves log live after .message
  | lost (view : after.view = live.view.onRetriesExhausted)
      (delivered : after.delivered = live.delivered) (alive : live.socket ≠ .dead)
      (dies : after.socket = .dead) : Moves log live after .closed
  | reconnected (view : after.view = live.view.reconnect)
      (delivered : after.delivered = live.delivered) (revives : after.socket ≠ .dead) :
      Moves log live after .reconnect

theorem Follows.replayed (follows : Follows log live) {position : Nat} {event : StreamEvent}
    (below : position < live.delivered) (found : log.events[position]? = some event) :
    live.view.handleEvent event = live.view := by
  apply handleEvent_seen
  rw [follows.folds.seenEvents, told, mem_received_seenEvents]
  apply mem_map_of_mem
  apply mem_iff_getElem?.mpr
  exact ⟨position, (List.getElem?_take_of_lt below).trans found⟩

theorem fresh_of_found {event : StreamEvent} (found : log.events[live.delivered]? = some event)
    (delivered : after.delivered = live.delivered + 1)
    (view : after.view = live.view.handleEvent event) : Fresh log live after event := by
  obtain ⟨inside, same⟩ := List.getElem?_eq_some_iff.mp found
  constructor
  · rw [delivered, drop_eq_getElem_cons inside, same]
  · rw [delivered, take_succ_eq_append_getElem inside, same]
  · exact view

theorem next_moves (follows : Follows log live) (taken : live.next log.events action = some after) :
    Moves log live after action ∧
      (∀ position, after.socket = .opened position → position ≤ after.delivered) ∧
      after.delivered ≤ log.events.length := by
  cases action with
  | opened =>
      simp only [next] at taken
      split at taken <;> cases taken
      rename_i connecting
      refine ⟨.quiet _ rfl rfl ?_ nofun nofun, ?_, follows.bounded⟩
      · rw [connecting]
        exact nofun
      · intro position opened
        cases opened
        exact Nat.zero_le _
  | message =>
      simp only [next] at taken
      split at taken
      · rename_i position opened
        obtain ⟨event, found, same⟩ := Option.map_eq_some_iff.mp taken
        have reached := follows.position position opened
        obtain ⟨inside, -⟩ := List.getElem?_eq_some_iff.mp found
        have alive : live.socket ≠ .dead := by
          rw [opened]
          exact nofun
        subst same
        rcases Nat.lt_or_eq_of_le reached with below | atEnd
        · have delivered : max live.delivered (position + 1) = live.delivered := by omega
          refine ⟨.quiet _ (follows.replayed below found) delivered alive nofun nofun, ?_, ?_⟩
          · intro other same
            cases same
            exact le_max_right _ _
          · exact max_le follows.bounded inside
        · have delivered : max live.delivered (position + 1) = live.delivered + 1 := by omega
          rw [atEnd] at found
          refine ⟨.fresh event (fresh_of_found found delivered rfl) alive nofun, ?_, ?_⟩
          · intro other same
            cases same
            exact le_max_right _ _
          · exact max_le follows.bounded inside
      · cases taken
  | closed =>
      simp only [next] at taken
      split at taken
      · rename_i connecting
        have alive : live.socket ≠ .dead := by
          rw [connecting]
          exact nofun
        split at taken <;> cases taken
        · exact ⟨.quiet _ rfl rfl alive nofun nofun, nofun, follows.bounded⟩
        · exact ⟨.lost rfl rfl alive rfl, nofun, follows.bounded⟩
      · rename_i position opened
        have alive : live.socket ≠ .dead := by
          rw [opened]
          exact nofun
        split at taken <;> cases taken
        · exact ⟨.quiet _ rfl rfl alive nofun nofun, nofun, follows.bounded⟩
        · exact ⟨.lost rfl rfl alive rfl, nofun, follows.bounded⟩
      · cases taken
  | retry =>
      simp only [next] at taken
      split at taken <;> cases taken
      rename_i retrying
      refine ⟨.quiet _ rfl rfl ?_ nofun nofun, nofun, follows.bounded⟩
      rw [retrying]
      exact nofun
  | reconnect =>
      cases taken
      exact ⟨.reconnected rfl rfl nofun, nofun, follows.bounded⟩

theorem told_same (delivered : after.delivered = live.delivered) :
    after.told log = live.told log := by
  rw [told, told, delivered]

theorem inFlight_lost {view : StreamState} (saved : view.statusBeforeLoss.inFlight = true) :
    view.onRetriesExhausted.statusBeforeLoss.inFlight = true := by
  unfold onRetriesExhausted
  split
  · exact saved
  · rename_i unfinished
    cases status : view.workflowStatus <;> rw [status] at unfinished <;>
      first | rfl | exact absurd (by decide) unfinished

theorem next_follows (follows : Follows log live)
    (taken : live.next log.events action = some after) : Follows log after := by
  obtain ⟨moves, position, bounded⟩ := next_moves follows taken
  refine ⟨bounded, position, ?_, ?_, ?_, ?_⟩
  · -- folds
    cases moves with
    | quiet action view delivered =>
        rw [view, told_same delivered]
        exact follows.folds
    | fresh event fresh =>
        rw [fresh.view, fresh.told]
        exact follows.folds.handleEvent event
    | lost view delivered =>
        rw [view, told_same delivered]
        unfold onRetriesExhausted
        split
        · exact follows.folds
        · exact ⟨follows.folds.stepStates, follows.folds.events, follows.folds.evaluation,
            follows.folds.seenEvents⟩
    | reconnected view delivered =>
        rw [view, told_same delivered]
        exact ⟨follows.folds.stepStates, follows.folds.events, follows.folds.evaluation,
          follows.folds.seenEvents⟩
  · -- saved
    cases moves with
    | quiet action view | reconnected view =>
        rw [view]
        exact follows.saved
    | fresh event fresh =>
        rw [fresh.view, handleEvent_statusBeforeLoss]
        exact follows.saved
    | lost view =>
        rw [view]
        exact inFlight_lost follows.saved
  · -- failed
    intro shown
    cases moves with
    | quiet action view delivered =>
        rw [view] at shown
        rw [told_same delivered]
        exact follows.failed shown
    | fresh event fresh =>
        rw [fresh.view] at shown
        rw [fresh.told]
        exact handleEvent_failed follows.folds follows.failed shown
    | lost view delivered =>
        rw [view] at shown
        rw [told_same delivered]
        unfold onRetriesExhausted at shown
        split at shown
        · exact follows.failed shown
        · cases shown
    | reconnected view delivered =>
        rw [view] at shown
        have saved := follows.saved
        rw [show live.view.statusBeforeLoss = .failed from shown] at saved
        cases saved
  · -- error
    intro stays clear
    cases moves with
    | quiet action view delivered alive =>
        rw [told_same delivered] at clear
        rw [view]
        exact follows.error alive clear
    | fresh event fresh alive =>
        rw [fresh.told] at clear
        rw [fresh.view]
        exact handleEvent_error follows.folds (follows.error alive) clear
    | lost view delivered alive dies => exact absurd dies stays
    | reconnected view =>
        rw [view]
        rfl

/-! ### Right and wrong -/

/-- No new status is to come and the view shows what it should, unless a loss is pending. -/
def Right (log : EmittedLog) (live : LiveView) : Prop :=
  StatusSettled log.events live.delivered → live.socket ≠ .dead → Agree live.view (live.told log)

/-- No new status is to come, and what a reconnect restores is not what should be shown. -/
structure Wrong (log : EmittedLog) (live : LiveView) : Prop where
  settled : StatusSettled log.events live.delivered
  saved : live.view.statusBeforeLoss ≠ (live.told log).workflowStatus ∨ (live.told log).error ≠ none
  shown : live.socket ≠ .dead →
    live.view.workflowStatus = live.view.statusBeforeLoss ∧ live.view.error = none

theorem Wrong.not_agree (wrong : Wrong log live) (alive : live.socket ≠ .dead) :
    ¬ Agree live.view (live.told log) := by
  rintro ⟨status, error⟩
  obtain ⟨restored, clear⟩ := wrong.shown alive
  rcases wrong.saved with other | reported
  · exact other (restored.symm.trans status)
  · exact reported (error.symm.trans clear)

section

variable {event : StreamEvent}

theorem Fresh.identified (fresh : Fresh log live after event) {other : StreamEvent}
    (later : other ∈ log.events.drop after.delivered) (same : other.identity = event.identity) :
    other.body = event.body := by
  apply log.identified other _ event _ same
  · exact mem_of_mem_drop later
  · apply mem_of_mem_drop
    rw [fresh.listed]
    exact mem_cons_self

theorem Fresh.settled_before (fresh : Fresh log live after event)
    (settled : StatusSettled log.events after.delivered)
    (idle : event.identity ∈ (log.events.take live.delivered).map identity ∨
      event.body.setsStatus = false) : StatusSettled log.events live.delivered := by
  intro other listed sets
  rw [fresh.listed] at listed
  rcases List.mem_cons.mp listed with same | later
  · subst same
    rcases idle with seen | quiet
    · exact seen
    · rw [sets] at quiet
      cases quiet
  · have seen := settled other later sets
    rw [fresh.taken, map_append, mem_append] at seen
    rcases seen with before | last
    · exact before
    · have same : other.identity = event.identity := mem_singleton.mp last
      rcases idle with seen | quiet
      · rw [same]
        exact seen
      · rw [fresh.identified later same, quiet] at sets
        cases sets

theorem Fresh.settled_after (fresh : Fresh log live after event)
    (settled : StatusSettled log.events live.delivered) :
    StatusSettled log.events after.delivered := by
  intro other listed sets
  rw [fresh.taken, map_append, mem_append]
  left
  apply settled other _ sets
  rw [fresh.listed]
  exact mem_cons_of_mem event listed

theorem Fresh.split (fresh : Fresh log live after event) :
    ∃ phase later, PhaseShows phase (log.events.take live.delivered) ∧
      phase.Moves event.body.type later := by
  apply log.split
  rw [← fresh.listed]
  exact (take_append_drop live.delivered log.events).symm

theorem Fresh.idle (fresh : Fresh log live after event) (follows : Follows log live)
    (idle : event.identity ∈ (log.events.take live.delivered).map identity ∨
      event.body.setsStatus = false) :
    after.view.workflowStatus = live.view.workflowStatus ∧ after.view.error = live.view.error ∧
      (after.told log).workflowStatus = (live.told log).workflowStatus ∧
      (after.told log).error = (live.told log).error := by
  rw [fresh.view, fresh.told]
  rcases idle with seen | quiet
  · have known : event.identity ∈ (live.told log).seenEvents :=
      (mem_received_seenEvents _ _).mpr seen
    rw [handleEvent_seen known, handleEvent_seen (follows.folds.seenEvents ▸ known)]
    exact ⟨rfl, rfl, rfl, rfl⟩
  · have left := live.view.handleEvent_quiet quiet
    have right := (live.told log).handleEvent_quiet quiet
    exact ⟨left.1, left.2, right.1, right.2⟩

end

theorem next_right (follows : Follows log live) (right : Right log live)
    (restores : Restores log.events live action)
    (taken : live.next log.events action = some after) : Right log after := by
  intro settled alive
  cases (next_moves follows taken).1 with
  | quiet action view delivered before =>
      rw [delivered] at settled
      rw [view, told_same delivered]
      exact right settled before
  | lost view delivered before dies => exact absurd dies alive
  | reconnected view delivered =>
      rw [delivered] at settled
      obtain ⟨saved, clear⟩ := restores settled
      rw [view, told_same delivered]
      exact ⟨saved, clear.symm⟩
  | fresh event fresh before =>
      by_cases idle : event.identity ∈ (log.events.take live.delivered).map identity ∨
          event.body.setsStatus = false
      · have same := fresh.idle follows idle
        have agree := right (fresh.settled_before settled idle) before
        exact ⟨same.1.trans (agree.1.trans same.2.2.1.symm),
          same.2.1.trans (agree.2.trans same.2.2.2.symm)⟩
      · -- The status event that settles the log.
        rw [not_or, Bool.not_eq_false] at idle
        obtain ⟨phase, later, shows', move⟩ := fresh.split
        have new : event.identity ∉ live.view.seenEvents := by
          rw [follows.folds.seenEvents]
          exact fun seen => idle.1 ((mem_received_seenEvents _ _).mp seen)
        rw [fresh.view, fresh.told]
        exact agree_of_setsStatus shows' move follows.folds follows.failed (follows.error before)
          new idle.2

theorem next_wrong (follows : Follows log live) (wrong : Wrong log live)
    (taken : live.next log.events action = some after) : Wrong log after := by
  cases (next_moves follows taken).1 with
  | quiet action view delivered alive =>
      refine ⟨?_, ?_, fun _ => ?_⟩
      · rw [delivered]
        exact wrong.settled
      · rw [view, told_same delivered]
        exact wrong.saved
      · rw [view]
        exact wrong.shown alive
  | reconnected view delivered =>
      refine ⟨?_, ?_, fun _ => ?_⟩
      · rw [delivered]
        exact wrong.settled
      · rw [view, told_same delivered]
        exact wrong.saved
      · rw [view]
        exact ⟨rfl, rfl⟩
  | lost view delivered alive dies =>
      -- The status shown is the saved one, so it is saved again.
      obtain ⟨restored, clear⟩ := wrong.shown alive
      have kept : live.view.onRetriesExhausted.statusBeforeLoss = live.view.statusBeforeLoss := by
        have saved := follows.saved
        unfold onRetriesExhausted
        split
        · rfl
        · rw [restored]
          split
          · rename_i isError
            rw [isError] at saved
            cases saved
          · rfl
      refine ⟨?_, ?_, fun revives => absurd dies revives⟩
      · rw [delivered]
        exact wrong.settled
      · rw [view, kept, told_same delivered]
        exact wrong.saved
  | fresh event fresh alive =>
      have idle : event.identity ∈ (log.events.take live.delivered).map identity ∨
          event.body.setsStatus = false := by
        cases sets : event.body.setsStatus with
        | false => exact .inr rfl
        | true =>
            left
            apply wrong.settled event _ sets
            rw [fresh.listed]
            exact mem_cons_self
      obtain ⟨status, error, toldStatus, toldError⟩ := fresh.idle follows idle
      have saved : after.view.statusBeforeLoss = live.view.statusBeforeLoss := by
        rw [fresh.view, handleEvent_statusBeforeLoss]
      refine ⟨fresh.settled_after wrong.settled, ?_, fun _ => ?_⟩
      · rw [saved, toldStatus, toldError]
        exact wrong.saved
      · rw [status, error, saved]
        exact wrong.shown alive

theorem wrong_of_not_restores (bad : ¬ Restores log.events live action)
    (taken : live.next log.events action = some after) : Wrong log after := by
  cases action with
  | opened | message | closed | retry => exact absurd trivial bad
  | reconnect =>
      cases taken
      simp only [Restores, Classical.not_imp, not_and_or] at bad
      exact ⟨bad.1, bad.2, fun _ => ⟨rfl, rfl⟩⟩

theorem start_follows (log : EmittedLog) : Follows log {} :=
  ⟨Nat.zero_le _, nofun, ⟨rfl, rfl, rfl, rfl⟩, rfl, nofun, fun _ _ => rfl⟩

theorem start_right (log : EmittedLog) : Right log {} := fun _ _ => ⟨rfl, rfl⟩

theorem sameView_iff {actions : List StreamAction}
    (run : replay (next log.events) {} actions = some live)
    (whole : live.delivered = log.events.length) (alive : live.socket ≠ .dead) :
    SameView live.view (received log.events) ↔
      Transition.Along (next log.events) (Restores log.events) {} actions := by
  have all : log.events.take live.delivered = log.events := by
    rw [whole, take_length]
  have settled : StatusSettled log.events live.delivered := by
    intro event listed
    rw [whole, drop_length] at listed
    cases listed
  have told : live.told log = received log.events := by rw [LiveView.told, all]
  have preserved (state : LiveView) (event : StreamAction) (next' : LiveView)
      (held : Follows log state) (taken : state.next log.events event = some next') :
      Follows log next' := next_follows held taken
  have follows : Follows log live := replay_invariant preserved (start_follows log) run
  constructor
  · intro same
    by_contra left
    obtain ⟨before, bad, later, state, next', shape, toState, -, taken, forbidden, rest⟩ :=
      exists_first_disallowed run left
    have reached : Follows log state := replay_invariant preserved (start_follows log) toState
    have stays (state : LiveView) (event : StreamAction) (next' : LiveView)
        (held : Follows log state ∧ Wrong log state)
        (taken : state.next log.events event = some next') :
        Follows log next' ∧ Wrong log next' :=
      ⟨next_follows held.1 taken, next_wrong held.1 held.2 taken⟩
    have wrong : Follows log live ∧ Wrong log live :=
      replay_invariant stays
        ⟨next_follows reached taken, wrong_of_not_restores forbidden taken⟩ rest
    apply wrong.2.not_agree alive
    rw [told]
    exact ⟨same.workflowStatus, same.error⟩
  · intro along
    have stays (state : LiveView) (event : StreamAction) (next' : LiveView)
        (held : Follows log state ∧ Right log state) (restores : Restores log.events state event)
        (taken : state.next log.events event = some next') :
        Follows log next' ∧ Right log next' :=
      ⟨next_follows held.1 taken, next_right held.1 held.2 restores taken⟩
    have right : Follows log live ∧ Right log live :=
      replay_invariant_along stays ⟨start_follows log, start_right log⟩ along run
    have agree := right.2 settled alive
    have folds := follows.folds
    rw [told] at agree folds
    exact ⟨folds.stepStates, folds.events, agree.1, folds.evaluation, agree.2⟩

end LiveView

/-! ### A failed run -/

theorem RunPhase.Moves.evaluated_iff {phase later : RunPhase} {type : EventType}
    (move : phase.Moves type later) : later = .evaluated ↔ type = .evaluationComplete := by
  cases move with
  | steps ofStep =>
      constructor
      · exact nofun
      · intro same
        rw [same] at ofStep
        cases ofStep
  | scores => exact iff_of_true rfl rfl
  | starts | ends | evaluates | unscored | fails => exact iff_of_false nofun nofun

namespace EmittedLog

theorem endsEvaluated_iff (log : EmittedLog) :
    EndsEvaluated log.events ↔ log.phase = .evaluated := by
  obtain ⟨events, phase, emitted, -⟩ := log
  rcases eq_nil_or_concat events with empty | ⟨before, event, parts⟩
  · subst empty
    cases emitted
    constructor
    · rintro ⟨event, member, -⟩
      cases member
    · intro same
      cases same
  · rw [concat_eq_append] at parts
    subst parts
    rw [phaseAfter_append] at emitted
    obtain ⟨earlier, -, advanced⟩ := Option.bind_eq_some_iff.mp emitted
    rw [phaseAfter_singleton] at advanced
    rw [(RunPhase.advance_moves advanced).evaluated_iff]
    simp only [EndsEvaluated, List.getLast?_concat, Option.mem_def, Option.some.injEq,
      exists_eq_left']

theorem completed_iff (log : EmittedLog) (failure : ReportsFailure log.events) :
    (received log.events).workflowStatus = .completed ↔ EndsEvaluated log.events := by
  rw [endsEvaluated_iff]
  obtain ⟨event, member, rawStatus, evaluationEnabled, body, failed⟩ := failure
  have shown := log.shows'.status
  have past := log.shows'.past event member
  rw [body] at past
  cases phase : log.phase with
  | submitted | executing =>
      rw [phase] at past
      cases past
  | ended enabled =>
      rw [phase] at shown
      rw [shown event member rawStatus evaluationEnabled body, failed]
      exact iff_of_false nofun nofun
  | evaluated =>
      rw [phase] at shown
      exact iff_of_true shown rfl
  | evaluating | evaluationFailed | failed =>
      rw [phase] at shown
      rw [show (received log.events).workflowStatus = _ from shown]
      exact iff_of_false nofun nofun

end EmittedLog

namespace LiveView

variable {log : EmittedLog} {live : LiveView}

def ofDistinct (events : List StreamEvent) (phase : RunPhase)
    (emitted : phaseAfter .submitted events = some phase)
    (distinct : (events.map identity).Nodup) : EmittedLog :=
  { events, phase, emitted
    identified := by
      intro first firstIn second secondIn same
      rw [inj_on_of_nodup_map distinct firstIn secondIn same] }

def succeedingRun : EmittedLog :=
  ofDistinct [⟨"1", .workflowStart⟩, ⟨"2", .workflowEnd "success" false⟩] (.ended false) rfl
    (by decide)

def scoredFailure : EmittedLog :=
  ofDistinct
    [⟨"1", .workflowStart⟩, ⟨"2", .workflowEnd "failed" true⟩, ⟨"3", .evaluationStart⟩,
      ⟨"4", .evaluationComplete {}⟩] .evaluated rfl (by decide)

def crashedRun : EmittedLog :=
  ofDistinct [⟨"1", .workflowStart⟩, ⟨"2", .error "boom"⟩] .failed rfl (by decide)

end LiveView

end AgenticRuntime
