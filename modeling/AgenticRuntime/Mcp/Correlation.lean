/-
MCP calls and answers, one to one.

A call gets the first answer that carries its id and no other, in every run.
That the table names the open calls and that no deadline comes early holds in
the runs that leave the source's two gaps alone: a cancellation finds its call's
entry in the table, and `request` puts its own default deadline on a tool call.
-/

import AgenticRuntime.Mcp.CallSteps
import AgenticRuntime.Transition
import Mathlib.Data.List.Induction
import Mathlib.Tactic.Linarith

namespace AgenticRuntime.Mcp

open Python Transition Option
open List hiding not_le

namespace ClientState

variable {client after : ClientState} {event : ClientEvent} {id : RequestId} {call : Call}

/-! ### The clock and the transport -/

theorem settle_now : (client.settle id call).now = client.now := by
  unfold settle
  cases call.future <;> rfl

theorem settle_transportClosed :
    (client.settle id call).transportClosed = client.transportClosed := by
  unfold settle
  cases call.future <;> rfl

theorem resume_clock : (client.resume id call).now = client.now ∧
    (client.resume id call).transportClosed = client.transportClosed := by
  unfold resume
  cases call.callerCancelled with
  | true => exact ⟨rfl, rfl⟩
  | false =>
      cases call.toolExpired with
      | true => exact ⟨rfl, rfl⟩
      | false =>
          cases call.requestExpired with
          | true => exact ⟨rfl, rfl⟩
          | false => exact ⟨settle_now, settle_transportClosed⟩

theorem receive_clock (data : Option PyValue) (failure : String) :
    (client.receive data failure).now = client.now ∧
      (client.receive data failure).transportClosed = client.transportClosed := by
  unfold receive
  cases data.bind parseJsonRpc with
  | none => exact ⟨rfl, rfl⟩
  | some message =>
      cases message with
      | request request | notification notification => exact ⟨rfl, rfl⟩
      | response response =>
          dsimp only [handleMessage, handleResponse]
          split
          · exact ⟨rfl, rfl⟩
          · exact ⟨rfl, rfl⟩

theorem makeCall_clock (client : ClientState) (id : RequestId) (kind : CallKind) : (client.makeCall id kind).now = client.now ∧
    (client.makeCall id kind).transportClosed = client.transportClosed := by
  unfold makeCall
  dsimp only
  cases client.ensureStarted <;> exact ⟨rfl, rfl⟩

theorem step_clock (taken : client.step event = some after) :
    client.now ≤ after.now ∧
      (after.transportClosed = client.transportClosed ∨ event = .transportClose) := by
  cases event with
  | start =>
      simp only [step] at taken
      split at taken
      · cases taken
      · cases taken
        exact ⟨le_rfl, .inl rfl⟩
  | call uuid kind =>
      simp only [step] at taken
      split at taken
      · cases taken
      · cases taken
        have kept := client.makeCall_clock (.text uuid) kind
        exact ⟨kept.1.ge, .inl kept.2⟩
  | sent target =>
      obtain ⟨call, -, rfl⟩ := map_eq_some_iff.mp taken
      exact ⟨settle_now.ge, .inl settle_transportClosed⟩
  | sendFailed target error | requestDeadline target | toolDeadline target | cancel target =>
      obtain ⟨call, -, rfl⟩ := map_eq_some_iff.mp taken
      exact ⟨le_rfl, .inl rfl⟩
  | incoming data failure =>
      cases taken
      exact ⟨(receive_clock data failure).1.ge, .inl (receive_clock data failure).2⟩
  | transportError error | close =>
      cases taken
      exact ⟨le_rfl, .inl rfl⟩
  | transportClose =>
      cases taken
      refine ⟨?_, .inr rfl⟩
      unfold emitClose
      cases client.transportClosed <;> exact le_rfl
  | resume target =>
      obtain ⟨call, -, rfl⟩ := map_eq_some_iff.mp taken
      exact ⟨resume_clock.1.ge, .inl resume_clock.2⟩
  | pass seconds =>
      simp only [step] at taken
      split at taken
      · rename_i forward
        cases taken
        exact ⟨le_add_of_nonneg_right forward, .inl rfl⟩
      · cases taken

end ClientState

open ClientState

variable {client after : ClientState} {event : ClientEvent} {id : RequestId} {call : Call}

/-! ### Every entry has its call -/

structure ClientState.Sound (client : ClientState) : Prop where
  filed : client.Filed
  shut : client.Shut

theorem ClientState.initial_sound : initial.Sound :=
  ⟨fun id entry => absurd entry (Finset.notMem_empty id), fun _ => rfl⟩

theorem Moves.filed (moves : Moves client after event id) (filed : client.Filed)
    (entry : id ∈ after.pendingRequests) : ∃ call, after.calls id = some call := by
  cases moves with
  | still same listed unheard deaf =>
      obtain ⟨call, held⟩ := filed id (listed.mp entry)
      exact ⟨call, same.trans held⟩
  | made uuid kind asked named fresh now listed alive
  | refused uuid kind error asked named fresh now listed
  | ended call ending outcome popped silent before how origin now listed
  | written call sent before waits now listed
  | rejected call error kept unheard own entry before now listed cleared
  | answered call response heard entry before now gone
  | interrupted call flagged before cause now listed => exact ⟨_, now⟩

theorem Moves.entry_before (moves : Moves client after event id)
    (closed : client.transportClosed = true) (entry : id ∈ after.pendingRequests) :
    id ∈ client.pendingRequests := by
  cases moves with
  | still same listed unheard deaf | refused uuid kind error asked named fresh now listed
  | written call sent before waits now listed
  | interrupted call flagged before cause now listed => exact listed.mp entry
  | made uuid kind asked named fresh now listed alive =>
      rw [closed] at alive
      cases alive
  | ended call ending outcome popped silent before how origin now listed =>
      exact (listed.mp entry).1
  | rejected call error kept unheard own listedBefore before now listed cleared =>
      exact listedBefore
  | answered call response heard listedBefore before now gone => exact listedBefore

theorem Moves.no_entry_of_closes (moves : Moves client after event id)
    (closing : event.closes = true) : id ∉ after.pendingRequests := by
  intro entry
  cases moves with
  | still same listed unheard deaf => exact deaf closing (listed.mp entry)
  | made uuid kind asked named fresh now listed alive
  | refused uuid kind error asked named fresh now listed =>
      subst asked
      cases closing
  | ended call ending outcome popped silent before how origin now listed =>
      rcases silent with rfl | rfl | ⟨error, rfl⟩
      · cases closing
      · cases closing
      · cases closing
  | written call sent before waits now listed =>
      subst sent
      cases closing
  | rejected call error kept unheard own listedBefore before now listed cleared =>
      rw [cleared closing] at listed
      exact Bool.false_ne_true (listed.mp entry)
  | answered call response heard listedBefore before now gone => exact gone entry
  | interrupted call flagged before cause now listed =>
      cases cause with
      | requestDeadline since awaiting settled | toolDeadline timeout own passed | caller =>
          cases closing

theorem ClientState.step_sound (sound : client.Sound) (taken : client.step event = some after) :
    after.Sound := by
  constructor
  · intro id entry
    exact (step_moves sound.filed sound.shut taken id).filed sound.filed entry
  · intro closed
    apply Finset.eq_empty_of_forall_notMem
    intro id entry
    have moves := step_moves sound.filed sound.shut taken id
    rcases (step_clock taken).2 with same | rfl
    · rw [closed] at same
      have before := moves.entry_before same.symm entry
      rw [sound.shut same.symm] at before
      exact Finset.notMem_empty id before
    · exact moves.no_entry_of_closes rfl entry

/-! ### A call ends once -/

theorem ClientState.answer_ended (response : JsonRpcResponse) (call : Call) :
    (answer response call).ended = call.ended := by
  unfold answer
  cases call.future <;> rfl

theorem Moves.ended_kept {ending : Ending} (moves : Moves client after event id)
    (before : client.calls id = some call) (settled : call.ended = some ending) :
    ∃ later, after.calls id = some later ∧ later.ended = some ending := by
  have running {held : Call} (unfinished : client.unfinished? id = some held) : False := by
    obtain ⟨found, open_⟩ := unfinished?_eq_some.mp unfinished
    rw [before, some.injEq] at found
    rw [← found, settled] at open_
    cases open_
  cases moves with
  | still same listed unheard deaf => exact ⟨call, same.trans before, settled⟩
  | made uuid kind asked named fresh now listed alive
  | refused uuid kind error asked named fresh now listed =>
      rw [before] at fresh
      cases fresh
  | ended held ending outcome popped silent unfinished how origin now listed =>
      exact (running unfinished).elim
  | written held sent found waits now listed =>
      exact (running (sending?_eq_some.mp found).1).elim
  | rejected held error kept unheard own entry found now listed cleared =>
      rw [before, some.injEq] at found
      subst found
      exact ⟨_, now, settled⟩
  | answered held response heard entry found now gone =>
      rw [before, some.injEq] at found
      subst found
      exact ⟨_, now, (answer_ended response call).trans settled⟩
  | interrupted held flagged unfinished cause now listed => exact (running unfinished).elim

/-! ### Which answer a call gets -/

/-- The answers to `id` that a stretch of events brings in, in their order. -/
def responsesTo (id : RequestId) (events : List ClientEvent) : List JsonRpcResponse :=
  events.filterMap (ClientEvent.answerTo id)

def answeredFuture : Future PyValue McpProtocolError → Bool
  | .result _ => true
  | .exception error => error.answered
  | _ => false

/-- The future whose outcome is what the server answered, if that is how the call ended. -/
def Outcome.answered? : Outcome → Option (Future PyValue McpProtocolError)
  | .returned value => some (.result value)
  | .protocolError error => if error.answered then some (.exception error) else none
  | _ => none

def FromFirst (heard : List JsonRpcResponse) (future : Future PyValue McpProtocolError) : Prop :=
  ∃ response, heard.head? = some response ∧ response.settlement = future

variable {heard : List JsonRpcResponse} {future : Future PyValue McpProtocolError}
  {outcome : Outcome}

theorem FromFirst.more (first : FromFirst heard future) (later : List JsonRpcResponse) :
    FromFirst (heard ++ later) future := by
  obtain ⟨response, head, same⟩ := first
  refine ⟨response, ?_, same⟩
  rw [List.head?_append, head, some_or]

/-- What a call knows after the answers `heard` to its id. -/
structure Told (client : ClientState) (id : RequestId) (heard : List JsonRpcResponse)
    (call : Call) : Prop where
  entry : id ∈ client.pendingRequests → heard = []
  future : answeredFuture call.future = true → FromFirst heard call.future
  outcome : ∀ ending, call.ended = some ending → ∀ future, ending.outcome.answered? = some future →
    FromFirst heard future

theorem reject_not_answered {error : McpProtocolError} (own : error.answered = false)
    (held : answeredFuture (future.reject error) = true) :
    answeredFuture future = true ∧ future.reject error = future := by
  cases future with
  | pending =>
      change error.answered = true at held
      rw [own] at held
      cases held
  | result value => exact ⟨rfl, rfl⟩
  | exception old => exact ⟨held, rfl⟩
  | cancelled => cases held

theorem cancel_not_answered (held : answeredFuture future.cancel = true) :
    answeredFuture future = true ∧ future.cancel = future := by
  cases future with
  | pending => cases held
  | result value => exact ⟨rfl, rfl⟩
  | exception old => exact ⟨held, rfl⟩
  | cancelled => cases held

theorem Interrupt.flagged_eq {flagged : Call} (cause : Interrupt client id call event flagged) :
    (flagged.future = call.future ∨ flagged.future = call.future.cancel) ∧
      flagged.ended = call.ended := by
  have cancelled : (call.cancelAwaited.future = call.future ∨
      call.cancelAwaited.future = call.future.cancel) ∧
      call.cancelAwaited.ended = call.ended := by
    unfold Call.cancelAwaited
    cases call.awaiting with
    | send => exact ⟨.inl rfl, rfl⟩
    | response since => exact ⟨.inr rfl, rfl⟩
  cases cause with
  | requestDeadline since awaiting settled | toolDeadline timeout own passed | caller =>
      exact cancelled

theorem Interrupt.unheard {flagged : Call} (cause : Interrupt client id call event flagged)
    (other : RequestId) : event.answerTo other = none := by
  cases cause <;> rfl

theorem Ends.answered {popped : Bool} (how : Ends call outcome popped)
    (shown : outcome.answered? = some future) :
    answeredFuture call.future = true ∧ call.future = future := by
  cases how with
  | returned value held =>
      cases shown
      exact ⟨congrArg answeredFuture held, held⟩
  | protocolError error held =>
      simp only [Outcome.answered?, ite_none_right_eq_some, some.injEq] at shown
      obtain ⟨own, rfl⟩ := shown
      rw [held]
      exact ⟨own, rfl⟩
  | sendFailed error sending => cases shown
  | caller cancelled => cases shown
  | future cancelled unasked => cases shown
  | tool expired => cases shown
  | request expired alone => cases shown

theorem Told.unheard (told : Told client id heard call) {later : Call}
    (quiet : event.answerTo id = none)
    (entry : id ∈ after.pendingRequests → id ∈ client.pendingRequests)
    (future : answeredFuture later.future = true →
      answeredFuture call.future = true ∧ later.future = call.future)
    (outcome : ∀ ending, later.ended = some ending → ∀ future,
      ending.outcome.answered? = some future →
      call.ended = some ending ∨ answeredFuture call.future = true ∧ call.future = future) :
    Told after id (heard ++ responsesTo id [event]) later := by
  have same : heard ++ responsesTo id [event] = heard := by
    simp only [responsesTo, filterMap_cons, quiet, filterMap_nil, append_nil]
  rw [same]
  constructor
  · exact fun listed => told.entry (entry listed)
  · intro held
    obtain ⟨before, equal⟩ := future held
    rw [equal]
    exact told.future before
  · intro ending settled shown answered
    rcases outcome ending settled shown answered with before | ⟨held, rfl⟩
    · exact told.outcome ending before shown answered
    · exact told.future held

theorem Moves.told (moves : Moves client after event id) (before : client.calls id = some call)
    (told : Told client id heard call) :
    ∃ later, after.calls id = some later ∧
      Told after id (heard ++ responsesTo id [event]) later := by
  have known {held : Call} (found : client.calls id = some held) : held = call := by
    rw [before, some.injEq] at found
    exact found.symm
  cases moves with
  | still same listed unheard deaf =>
      refine ⟨call, same.trans before, ?_⟩
      rcases unheard with quiet | unlisted
      · exact told.unheard quiet listed.mp (fun held => ⟨held, rfl⟩) fun _ settled _ _ => .inl settled
      · constructor
        · exact fun entry => absurd (listed.mp entry) unlisted
        · exact fun held => (told.future held).more _
        · exact fun ending settled shown answered => (told.outcome ending settled shown answered).more _
  | made uuid kind asked named fresh now listed alive
  | refused uuid kind error asked named fresh now listed =>
      rw [before] at fresh
      cases fresh
  | ended held ending outcome popped silent unfinished how origin now listed =>
      have same := known (unfinished?_eq_some.mp unfinished).1
      subst same
      have quiet : event.answerTo id = none := by
        rcases silent with rfl | rfl | ⟨error, rfl⟩ <;> rfl
      have future : ending.future = held.future := by
        rcases origin with rfl | rfl <;> rfl
      refine ⟨_, now, told.unheard quiet (fun entry => (listed.mp entry).1) ?_ ?_⟩
      · intro answered
        rw [← future]
        exact ⟨answered, rfl⟩
      · intro last settled shown answered
        obtain rfl := some.inj settled
        rw [← future]
        exact .inr (how.answered answered)
  | written held sent found waits now listed =>
      have same := known (unfinished?_eq_some.mp (sending?_eq_some.mp found).1).1
      subst same
      subst sent
      exact ⟨_, now, told.unheard rfl listed.mp (fun answered => ⟨answered, rfl⟩)
        fun _ settled _ _ => .inl settled⟩
  | rejected held error kept unheard own entry found now listed cleared =>
      have same := known found
      subst same
      exact ⟨_, now, told.unheard unheard (fun _ => entry) (reject_not_answered own)
        fun _ settled _ _ => .inl settled⟩
  | answered held response heardNow entry found now gone =>
      have same := known found
      subst same
      have none_yet := told.entry entry
      subst none_yet
      have first : responsesTo id [event] = [response] := by
        simp only [responsesTo, filterMap_cons, heardNow, filterMap_nil]
      rw [first, nil_append]
      have empty {future : Future PyValue McpProtocolError} : ¬ FromFirst [] future := by
        rintro ⟨response, head, -⟩
        cases head
      refine ⟨_, now, fun listed => absurd listed gone, ?_, ?_⟩
      · intro answered
        unfold answer at answered ⊢
        cases waits : held.future with
        | pending => exact ⟨response, rfl, rfl⟩
        | result value =>
            exact absurd (told.future (by rw [waits]; rfl)) empty
        | exception error =>
            rw [waits] at answered
            exact absurd (told.future (by rw [waits] at answered ⊢; exact answered)) empty
        | cancelled =>
            simp only [waits] at answered
            cases answered
      · intro ending settled shown answered
        rw [answer_ended] at settled
        exact absurd (told.outcome ending settled shown answered) empty
  | interrupted held flagged unfinished cause now listed =>
      have same := known (unfinished?_eq_some.mp unfinished).1
      subst same
      obtain ⟨future, ended⟩ := cause.flagged_eq
      refine ⟨_, now, told.unheard (cause.unheard id) listed.mp ?_ ?_⟩
      · intro answered
        rcases future with same | cancelled
        · rw [same] at answered ⊢
          exact ⟨answered, rfl⟩
        · rw [cancelled] at answered ⊢
          exact cancel_not_answered answered
      · intro ending settled shown answered
        rw [ended] at settled
        exact .inl settled

/-! ### What the runs that spare the two gaps keep -/

/-- No cancellation finds its call's entry in the table, no deadline of `request` ends a tool call
before the tool call's own timeout has passed, and no close finds a call still writing. -/
def ClientState.Spares (client : ClientState) : ClientEvent → Prop
  | .cancel id => id ∉ client.pendingRequests
  | .toolDeadline id => id ∉ client.pendingRequests
  | .requestDeadline id =>
      ∀ call timeout, client.calls id = some call → call.kind = .callTool timeout →
        call.madeAt + call.kind.requested ≤ client.now
  | .close | .transportClose =>
      ∀ id call, client.unfinished? id = some call → call.awaiting ≠ .send
  | _ => True

structure CallKept (client : ClientState) (id : RequestId) (call : Call) : Prop where
  /-- a cancelled task's entry is gone -/
  cancelled : call.toolExpired = true ∨ call.callerCancelled = true → id ∉ client.pendingRequests
  result : ∀ value, call.future = .result value → id ∉ client.pendingRequests
  unasked : call.future = .cancelled → call.interrupted = true
  ended : call.ended.isSome → id ∉ client.pendingRequests
  listed : call.ended = none → call.future = .pending → id ∈ client.pendingRequests
  made : call.madeAt ≤ client.now
  since : ∀ since, call.awaiting = .response since → call.madeAt ≤ since
  expired : call.requestExpired = true ∨ call.toolExpired = true →
    call.madeAt + call.kind.requested ≤ client.now
  timedOut : ∀ time, call.ended = some ⟨time, .timedOut⟩ →
    call.madeAt + call.kind.requested ≤ time
  closed : client.transportClosed = true → call.ended = none → call.due = true

theorem CallKind.requested_le_request (timeout : Option ℚ) :
    (CallKind.request timeout).requested ≤ (CallKind.request timeout).requestTimeout := by
  unfold requested requestTimeout timeoutOr
  cases timeout with
  | none => exact le_rfl
  | some value =>
      dsimp only [getD_some]
      split
      · rename_i zero
        rw [zero]
        exact (by decide : (0 : ℚ) ≤ defaultRequestTimeout)
      · exact le_rfl

theorem CallKind.requested_le_tool {kind : CallKind} {timeout : ℚ}
    (own : kind.toolTimeout? = some timeout) : kind.requested ≤ timeout := by
  cases kind with
  | request given => cases own
  | callTool given =>
      obtain rfl := some.inj own
      unfold requested timeoutOr
      cases given with
      | none => exact le_rfl
      | some value =>
          dsimp only [getD_some]
          split
          · rename_i zero
            rw [zero]
            exact (by decide : (0 : ℚ) ≤ toolCallTimeout)
          · exact le_rfl

theorem Call.due_of_done (done : call.future.done = true) (waiting : call.awaiting ≠ .send) :
    call.due = true := by
  unfold due
  cases awaiting : call.awaiting with
  | send => exact absurd awaiting waiting
  | response since =>
      dsimp only
      rw [done, Bool.or_true]

theorem CallKept.still (kept : CallKept client id call)
    (listed : id ∈ after.pendingRequests ↔ id ∈ client.pendingRequests)
    (later : client.now ≤ after.now)
    (closed : after.transportClosed = true → call.ended = none → call.due = true) :
    CallKept after id call := by
  constructor
  · exact fun flagged entry => kept.cancelled flagged (listed.mp entry)
  · exact fun value held entry => kept.result value held (listed.mp entry)
  · exact kept.unasked
  · exact fun settled entry => kept.ended settled (listed.mp entry)
  · exact fun running waits => listed.mpr (kept.listed running waits)
  · exact kept.made.trans later
  · exact kept.since
  · exact fun flagged => (kept.expired flagged).trans later
  · exact kept.timedOut
  · exact closed

theorem CallKept.fresh {kind : CallKind} (listed : id ∈ after.pendingRequests)
    (now : client.now ≤ after.now) (alive : after.transportClosed = false) :
    CallKept after id (Call.made kind client.now) := by
  constructor
  · rintro (flagged | flagged)
    · cases flagged
    · cases flagged
  · intro value held
    cases held
  · intro held
    cases held
  · intro settled
    cases settled
  · exact fun _ _ => listed
  · exact now
  · intro since awaiting
    cases awaiting
  · rintro (flagged | flagged)
    · cases flagged
    · cases flagged
  · intro time settled
    cases settled
  · intro closed
    rw [alive] at closed
    cases closed

theorem CallKept.refused {kind : CallKind} {error : String} (unlisted : id ∉ after.pendingRequests)
    (now : client.now ≤ after.now) :
    CallKept after id
      { Call.made kind client.now with ended := some ⟨client.now, .sendFailed error⟩ } := by
  constructor
  · exact fun _ => unlisted
  · exact fun _ _ => unlisted
  · intro held
    cases held
  · exact fun _ => unlisted
  · intro running
    cases running
  · exact now
  · intro since awaiting
    cases awaiting
  · rintro (flagged | flagged)
    · cases flagged
    · cases flagged
  · intro time settled
    cases settled
  · intro _ running
    cases running

theorem Ends.unlisted {popped : Bool} (how : Ends call outcome popped)
    (kept : CallKept client id call)
    (listed : id ∈ after.pendingRequests ↔ id ∈ client.pendingRequests ∧ popped = false) :
    id ∉ after.pendingRequests := by
  intro entry
  obtain ⟨before, stays⟩ := listed.mp entry
  cases how with
  | returned value held => exact kept.result value held before
  | protocolError error held => cases stays
  | sendFailed error sending => cases stays
  | caller cancelled => exact kept.cancelled (.inr cancelled) before
  | future cancelled unasked =>
      rw [kept.unasked cancelled] at unasked
      cases unasked
  | tool expired => exact kept.cancelled (.inl expired) before
  | request expired alone => cases stays

theorem Ends.expired {popped : Bool} (how : Ends call outcome popped)
    (timeout : outcome = .timedOut) : call.requestExpired = true ∨ call.toolExpired = true := by
  cases how with
  | tool expired => exact .inr expired
  | request expired alone => exact .inl expired
  | returned value held | protocolError error held | sendFailed error sending
  | caller cancelled | future cancelled unasked => cases timeout

theorem CallKept.ends {popped : Bool} (kept : CallKept client id call)
    (how : Ends call outcome popped)
    (listed : id ∈ after.pendingRequests ↔ id ∈ client.pendingRequests ∧ popped = false)
    (later : client.now ≤ after.now) :
    CallKept after id { call with ended := some ⟨client.now, outcome⟩ } := by
  have unlisted := how.unlisted kept listed
  constructor
  · exact fun _ => unlisted
  · exact fun _ _ => unlisted
  · exact kept.unasked
  · exact fun _ => unlisted
  · intro running
    cases running
  · exact kept.made.trans later
  · exact kept.since
  · exact fun flagged => (kept.expired flagged).trans later
  · intro time settled
    obtain ⟨rfl, timeout⟩ := Ending.mk.inj (some.inj settled)
    exact kept.expired (how.expired timeout)
  · intro _ running
    cases running

theorem Call.due_response (due : call.due = true) (since : ℚ) :
    { call with awaiting := .response since }.due = true := by
  unfold Call.due at due ⊢
  rw [Bool.or_eq_true] at due ⊢
  rcases due with asked | settled
  · exact .inl asked
  · right
    cases awaiting : call.awaiting with
    | send =>
        rw [awaiting] at settled
        cases settled
    | response earlier =>
        rw [awaiting] at settled
        exact settled

/-- The deadline of `request` starts when the write is done. -/
theorem CallKept.waiting (kept : CallKept client id call) :
    CallKept client id { call with awaiting := .response client.now } := by
  constructor
  · exact kept.cancelled
  · exact kept.result
  · exact kept.unasked
  · exact kept.ended
  · exact kept.listed
  · exact kept.made
  · intro since awaiting
    obtain rfl := Awaiting.response.inj awaiting
    exact kept.made
  · exact kept.expired
  · exact kept.timedOut
  · exact fun closed running => Call.due_response (kept.closed closed running) client.now

theorem CallKept.settled (kept : CallKept client id call) (entry : id ∈ client.pendingRequests)
    (done : future.done = true) (result : ∀ value, future = .result value →
      call.future = .result value ∨ id ∉ after.pendingRequests)
    (cancelled : future = .cancelled → call.future = .cancelled) (later : client.now ≤ after.now)
    (closed : after.transportClosed = true → call.ended = none → call.awaiting ≠ .send) :
    CallKept after id { call with future } := by
  constructor
  · exact fun flagged => absurd entry (kept.cancelled flagged)
  · intro value held
    rcases result value held with before | gone
    · exact absurd entry (kept.result value before)
    · exact gone
  · exact fun held => kept.unasked (cancelled held)
  · exact fun settled => absurd entry (kept.ended settled)
  · intro running waits
    rw [show future = .pending from waits] at done
    cases done
  · exact kept.made.trans later
  · exact kept.since
  · exact fun flagged => (kept.expired flagged).trans later
  · exact kept.timedOut
  · exact fun shut running => Call.due_of_done done (closed shut running)

theorem answer_eq (response : JsonRpcResponse) (call : Call) :
    ∃ future, answer response call = { call with future } ∧ future.done = true ∧
      (future = .cancelled → call.future = .cancelled) := by
  obtain ⟨kind, madeAt, awaiting, future, byRequest, byTool, byCaller, ended⟩ := call
  cases future with
  | pending =>
      refine ⟨response.settlement, rfl, ?_, ?_⟩
      · unfold JsonRpcResponse.settlement
        cases response.failed <;> rfl
      · unfold JsonRpcResponse.settlement
        cases response.failed <;> exact nofun
  | result value => exact ⟨.result value, rfl, rfl, nofun⟩
  | exception error => exact ⟨.exception error, rfl, rfl, nofun⟩
  | cancelled => exact ⟨.cancelled, rfl, rfl, fun _ => rfl⟩

theorem Call.cancelAwaited_eq (call : Call) :
    ∃ future, call.cancelAwaited = { call with future } ∧
      (∀ value, future = .result value → call.future = .result value) ∧
      (future = .pending → call.future = .pending) := by
  obtain ⟨kind, madeAt, awaiting, held, byRequest, byTool, byCaller, ended⟩ := call
  cases awaiting with
  | send => exact ⟨held, rfl, fun _ => id, id⟩
  | response since =>
      refine ⟨held.cancel, rfl, fun _ => Future.cancel_eq_result.mp, ?_⟩
      intro waits
      have done := held.cancel_done
      rw [waits] at done
      cases done

theorem CallKept.interrupted {byRequest byTool byCaller : Bool} (kept : CallKept client id call)
    (running : call.ended = none)
    (result : ∀ value, future = .result value → call.future = .result value)
    (pending : future = .pending → call.future = .pending)
    (asked : (byRequest || byTool || byCaller) = true)
    (spared : byTool = true ∨ byCaller = true → id ∉ client.pendingRequests)
    (expired : byRequest = true ∨ byTool = true →
      call.madeAt + call.kind.requested ≤ client.now) :
    CallKept client id
      { call with
        future, requestExpired := byRequest, toolExpired := byTool, callerCancelled := byCaller } := by
  constructor
  · exact spared
  · exact fun value held => kept.result value (result value held)
  · exact fun _ => asked
  · intro settled
    rw [show call.ended = none from running] at settled
    cases settled
  · exact fun running waits => kept.listed running (pending waits)
  · exact kept.made
  · exact kept.since
  · exact expired
  · exact kept.timedOut
  · intro _ _
    unfold Call.due Call.interrupted
    rw [asked, Bool.true_or]

theorem Interrupt.kept {flagged : Call} (cause : Interrupt client id call event flagged)
    (kept : CallKept client id call) (before : client.unfinished? id = some call)
    (spares : client.Spares event) : CallKept client id flagged := by
  obtain ⟨found, running⟩ := unfinished?_eq_some.mp before
  obtain ⟨future, cancelled, result, pending⟩ := call.cancelAwaited_eq
  cases cause with
  | requestDeadline since awaiting settled =>
      rw [cancelled]
      refine kept.interrupted running result pending ?_ kept.cancelled ?_
      · rfl
      · intro _
        cases kind : call.kind with
        | request timeout =>
            have start := kept.since since awaiting
            rw [kind] at settled
            have within := CallKind.requested_le_request timeout
            linarith only [start, settled, within]
        | callTool timeout =>
            rw [← kind]
            exact spares call timeout found kind
  | toolDeadline timeout own passed =>
      rw [cancelled]
      have within := CallKind.requested_le_tool own
      refine kept.interrupted running result pending ?_ (fun _ => spares) ?_
      · rw [Bool.or_true, Bool.true_or]
      · intro _
        linarith only [passed, within]
  | caller =>
      rw [cancelled]
      refine kept.interrupted running result pending ?_ (fun _ => spares) kept.expired
      rw [Bool.or_true]

theorem ClientEvent.answerTo_transportClose {response : JsonRpcResponse}
    (heard : event.answerTo id = some response) : event ≠ .transportClose := by
  rintro rfl
  cases heard

theorem Moves.kept (moves : Moves client after event id) (sound : client.Sound)
    (spares : client.Spares event) (taken : client.step event = some after)
    (before : ∀ call, client.calls id = some call → CallKept client id call) {later : Call}
    (held : after.calls id = some later) : CallKept after id later := by
  have clock := step_clock taken
  have closedBefore (closed : after.transportClosed = true) (other : event ≠ .transportClose) :
      client.transportClosed = true := by
    rcases clock.2 with same | closing
    · exact same.symm.trans closed
    · exact absurd closing other
  cases moves with
  | still same listed unheard deaf =>
      rw [same] at held
      have kept := before later held
      refine kept.still listed clock.1 ?_
      intro closed running
      by_cases closing : event = .transportClose
      · subst closing
        have unlisted := deaf rfl
        have settled : later.future ≠ .pending := fun waits => unlisted (kept.listed running waits)
        exact Call.due_of_done (Future.done_of_ne_pending settled)
          (spares id later (unfinished?_eq_some.mpr ⟨held, running⟩))
      · exact kept.closed (closedBefore closed closing) running
  | made uuid kind asked named fresh now listed alive =>
      obtain rfl := some.inj (held.symm.trans now)
      refine CallKept.fresh listed clock.1 ?_
      apply Bool.eq_false_iff.mpr
      intro closed
      rw [closedBefore closed (by rw [asked]; exact nofun)] at alive
      cases alive
  | refused uuid kind error asked named fresh now listed =>
      obtain rfl := some.inj (held.symm.trans now)
      refine CallKept.refused ?_ clock.1
      intro entry
      obtain ⟨call, found⟩ := sound.filed id (listed.mp entry)
      rw [fresh] at found
      cases found
  | ended call ending outcome popped silent unfinished how origin now listed =>
      obtain rfl := some.inj (held.symm.trans now)
      have kept := before call (unfinished?_eq_some.mp unfinished).1
      rcases origin with rfl | rfl
      · exact kept.ends how listed clock.1
      · exact kept.waiting.ends how listed clock.1
  | written call sent found waits now listed =>
      obtain rfl := some.inj (held.symm.trans now)
      subst sent
      have kept := (before call (unfinished?_eq_some.mp (sending?_eq_some.mp found).1).1).waiting
      exact kept.still listed clock.1 fun closed => kept.closed (closedBefore closed nofun)
  | rejected call error stays unheard own entry found now listed cleared =>
      obtain rfl := some.inj (held.symm.trans now)
      refine (before call found).settled entry (call.future.reject_done error) ?_ ?_ clock.1 ?_
      · exact fun value result => .inl (Future.reject_eq_result.mp result)
      · intro cancelled
        cases future : call.future with
        | cancelled => rfl
        | pending | result value | exception old => rw [future] at cancelled; cases cancelled
      · intro closed running
        by_cases closing : event = .transportClose
        · subst closing
          exact spares id call (unfinished?_eq_some.mpr ⟨found, running⟩)
        · rw [sound.shut (closedBefore closed closing)] at entry
          exact absurd entry (Finset.notMem_empty id)
  | answered call response heard entry found now gone =>
      obtain rfl := some.inj (held.symm.trans now)
      obtain ⟨future, equal, done, cancelled⟩ := answer_eq response call
      rw [equal]
      refine (before call found).settled entry done (fun _ _ => .inr gone) cancelled clock.1 ?_
      intro closed
      rw [sound.shut (closedBefore closed (ClientEvent.answerTo_transportClose heard))] at entry
      exact absurd entry (Finset.notMem_empty id)
  | interrupted call flagged unfinished cause now listed =>
      obtain rfl := some.inj (held.symm.trans now)
      have kept := cause.kept (before call (unfinished?_eq_some.mp unfinished).1) unfinished spares
      refine kept.still listed clock.1 fun closed => kept.closed (closedBefore closed ?_)
      rintro rfl
      cases cause

/-! ### Whole runs -/

theorem responsesTo_append (id : RequestId) (first second : List ClientEvent) :
    responsesTo id (first ++ second) = responsesTo id first ++ responsesTo id second :=
  filterMap_append

/-- The call was made by an event of the past and has been told what came since. -/
def Informed (past : List ClientEvent) (client : ClientState) : Prop :=
  ∀ id call, client.calls id = some call → ∃ before uuid kind later,
    past = before ++ .call uuid kind :: later ∧ id = .text uuid ∧
      Told client id (responsesTo id later) call

theorem Told.fresh {ended : Option Ending} {kind : CallKind} {now : ℚ}
    (silent : ∀ ending, ended = some ending → ending.outcome.answered? = none) :
    Told client id [] { Call.made kind now with ended } := by
  constructor
  · exact fun _ => rfl
  · intro answered
    cases answered
  · intro ending settled shown answered
    rw [silent ending settled] at answered
    cases answered

theorem Moves.informed {past : List ClientEvent} (moves : Moves client after event id)
    (informed : Informed past client) {later : Call} (held : after.calls id = some later) :
    ∃ before uuid kind since, past ++ [event] = before ++ .call uuid kind :: since ∧
      id = .text uuid ∧ Told after id (responsesTo id since) later := by
  cases found : client.calls id with
  | some call =>
      obtain ⟨before, uuid, kind, since, shape, named, told⟩ := informed id call found
      obtain ⟨reached, now, toldNow⟩ := moves.told found told
      obtain rfl := some.inj (held.symm.trans now)
      refine ⟨before, uuid, kind, since ++ [event], ?_, named, ?_⟩
      · rw [shape, append_assoc, cons_append]
      · rw [responsesTo_append]
        exact toldNow
  | none =>
      have absent {call : Call} (before : client.calls id = some call) : False := by
        rw [found] at before
        cases before
      cases moves with
      | still same listed unheard deaf => exact (absent (same.symm.trans held)).elim
      | made uuid kind asked named fresh now listed alive =>
          obtain rfl := some.inj (held.symm.trans now)
          exact ⟨past, uuid, kind, [], by rw [asked], named, Told.fresh nofun⟩
      | refused uuid kind error asked named fresh now listed =>
          obtain rfl := some.inj (held.symm.trans now)
          refine ⟨past, uuid, kind, [], by rw [asked], named, Told.fresh ?_⟩
          intro ending settled
          obtain rfl := some.inj settled
          rfl
      | ended call ending outcome popped silent unfinished how origin now listed
      | interrupted call flagged unfinished cause now listed =>
          exact (absent (unfinished?_eq_some.mp unfinished).1).elim
      | written call sent sending waits now listed =>
          exact (absent (unfinished?_eq_some.mp (sending?_eq_some.mp sending).1).1).elim
      | rejected call error stays unheard own entry before now listed cleared =>
          exact (absent before).elim
      | answered call response heard entry before now gone => exact (absent before).elim

section

variable {events : List ClientEvent}

theorem run_sound (run : replay step initial events = some client) : client.Sound :=
  replay_invariant (fun _ _ _ sound taken => step_sound sound taken) initial_sound run

theorem run_informed (run : replay step initial events = some client) :
    Informed events client := by
  apply replay_history ?_ ?_ run
  · intro id call held
    cases held
  · intro past state event after reached informed taken id later held
    have sound := run_sound reached
    exact (step_moves sound.filed sound.shut taken id).informed informed held

theorem run_ended {start finish : ClientState} {ending : Ending} (sound : start.Sound)
    (run : replay step start events = some finish)
    (held : start.calls id = some call) (settled : call.ended = some ending) :
    ∃ last, finish.calls id = some last ∧ last.ended = some ending := by
  induction events generalizing start call with
  | nil =>
      cases run
      exact ⟨call, held, settled⟩
  | cons event rest ih =>
      obtain ⟨after, taken, restRun⟩ := replay_cons run
      obtain ⟨later, heldLater, overLater⟩ :=
        (step_moves sound.filed sound.shut taken id).ended_kept held settled
      exact ih (step_sound sound taken) restRun heldLater overLater

structure ClientState.Kept (client : ClientState) : Prop where
  sound : client.Sound
  calls : ∀ id call, client.calls id = some call → CallKept client id call

theorem run_kept (along : Along step Spares initial events)
    (run : replay step initial events = some client) : client.Kept := by
  refine replay_invariant_along ?_ ⟨initial_sound, ?_⟩ along run
  · intro state event after kept spares taken
    refine ⟨step_sound kept.sound taken, fun id later held => ?_⟩
    exact (step_moves kept.sound.filed kept.sound.shut taken id).kept kept.sound spares taken
      (kept.calls id) held
  · intro id call held
    cases held

theorem due_of_close {middle : ClientState} (kept : middle.Kept) (spares : middle.Spares .close)
    (unfinished : middle.close.unfinished? id = some call) : call.due = true := by
  obtain ⟨held, running⟩ := unfinished?_eq_some.mp unfinished
  by_cases entry : id ∈ middle.pendingRequests
  · obtain ⟨before, found⟩ := kept.sound.filed id entry
    have now := rejectPending_calls entry found .connectionClosed
    obtain rfl := some.inj (held.symm.trans now)
    exact Call.due_of_done (before.future.reject_done _)
      (spares id before (unfinished?_eq_some.mpr ⟨found, running⟩))
  · have same : middle.close.calls id = middle.calls id := rejectPending_other entry .connectionClosed
    rw [same] at held
    have settled : call.future ≠ .pending :=
      fun waits => entry ((kept.calls id call held).listed running waits)
    exact Call.due_of_done (Future.done_of_ne_pending settled)
      (spares id call (unfinished?_eq_some.mpr ⟨held, running⟩))

end

/-! ### One to one -/

/-- In every run a call ends once, a server's answer ends it only as the first answer to its own
id, and answers to others pass it by.  In the runs that spare the two gaps a timeout comes only
after the time that was asked for, a close leaves no call waiting, and the table names the open
calls: at most those whose outcome is already settled are open and not in it. -/
theorem mcp_calls_correlated {events : List ClientEvent} {client : ClientState}
    (run : replay step initial events = some client) :
    (∀ before later middle id call ending, events = before ++ later →
      replay step initial before = some middle → middle.calls id = some call →
      call.ended = some ending →
      ∃ last, client.calls id = some last ∧ last.ended = some ending) ∧
    (∀ id call ending settled, client.calls id = some call → call.ended = some ending →
      ending.outcome.answered? = some settled →
      ∃ before uuid kind later response, events = before ++ .call uuid kind :: later ∧
        id = .text uuid ∧ (responsesTo id later).head? = some response ∧
        response.settlement = settled) ∧
    (∀ data failure response after, data.bind parseJsonRpc = some (.response response) →
      client.step (.incoming data failure) = some after → ∀ id, id ≠ response.id →
      after.calls id = client.calls id ∧
        (id ∈ after.pendingRequests ↔ id ∈ client.pendingRequests)) ∧
    (Along step Spares initial events →
      (∀ id call time, client.calls id = some call → call.ended = some ⟨time, .timedOut⟩ →
        call.madeAt + call.kind.requested ≤ time) ∧
      (client.transportClosed = true ∨ events.getLast? = some .close →
        ∀ id call, client.unfinished? id = some call → call.due = true) ∧
      (∀ id, id ∈ client.pendingRequests → ∃ call, client.unfinished? id = some call) ∧
      (∀ id call, client.unfinished? id = some call →
        id ∈ client.pendingRequests ∨ call.future.done = true)) := by
  refine ⟨?_, ?_, ?_, ?_⟩
  · intro before later middle id call ending shape reached held settled
    subst shape
    obtain ⟨between, toMiddle, fromMiddle⟩ := replay_split run
    obtain rfl := some.inj (toMiddle.symm.trans reached)
    exact run_ended (run_sound reached) fromMiddle held settled
  · intro id call ending settled held finished shown
    obtain ⟨before, uuid, kind, later, shape, named, told⟩ := run_informed run id call held
    obtain ⟨response, first, same⟩ := told.outcome ending finished settled shown
    exact ⟨before, uuid, kind, later, response, shape, named, first, same⟩
  · intro data failure response after typed taken id other
    cases taken
    simp only [receive, typed, handleMessage, handleResponse]
    split
    · exact ⟨Function.update_of_ne other .., mem_popPending.trans (and_iff_right other)⟩
    · exact ⟨rfl, Iff.rfl⟩
  · intro along
    have kept := run_kept along run
    have filed (id : RequestId) (entry : id ∈ client.pendingRequests) :
        ∃ call, client.unfinished? id = some call := by
      obtain ⟨call, held⟩ := kept.sound.filed id entry
      refine ⟨call, unfinished?_eq_some.mpr ⟨held, ?_⟩⟩
      by_contra settled
      exact (kept.calls id call held).ended (isSome_iff_ne_none.mpr settled) entry
    refine ⟨fun id call time held settled => (kept.calls id call held).timedOut time settled, ?_, filed, ?_⟩
    · rintro (closed | last) id call unfinished
      · obtain ⟨held, running⟩ := unfinished?_eq_some.mp unfinished
        exact (kept.calls id call held).closed closed running
      · obtain ⟨before, rfl⟩ := List.getLast?_eq_some_iff.mp last
        obtain ⟨middle, reached, rest⟩ := replay_split run
        obtain ⟨after, taken, done⟩ := replay_cons rest
        cases taken
        cases done
        obtain ⟨alongBefore, spares⟩ := along_split reached along
        exact due_of_close (run_kept alongBefore reached) spares.1 unfinished
    · intro id call unfinished
      obtain ⟨held, running⟩ := unfinished?_eq_some.mp unfinished
      cases waits : call.future with
      | pending => exact .inl ((kept.calls id call held).listed running waits)
      | result value | exception error | cancelled => exact .inr rfl

def unansweredToolCall : List ClientEvent :=
  [.start, .call "a" (.callTool (some 120)), .sent (.text "a"), .pass 60,
    .requestDeadline (.text "a"), .resume (.text "a")]

def shortToolCall : List ClientEvent :=
  [.start, .call "a" (.callTool (some 5)), .sent (.text "a"), .pass 5,
    .toolDeadline (.text "a"), .resume (.text "a")]

def ClientState.timedOutEarly (client : ClientState) (id : RequestId) : Bool :=
  match client.calls id with
  | none => false
  | some call =>
      match call.ended with
      | some ⟨time, .timedOut⟩ => time < call.madeAt + call.kind.requested
      | _ => false

theorem ClientState.timedOutEarly_eq_true (early : client.timedOutEarly id = true) :
    ∃ call time, client.calls id = some call ∧ call.ended = some ⟨time, .timedOut⟩ ∧
      time < call.madeAt + call.kind.requested := by
  unfold timedOutEarly at early
  cases held : client.calls id with
  | none =>
      rw [held] at early
      cases early
  | some call =>
      simp only [held] at early
      split at early
      · rename_i time settled
        exact ⟨call, time, rfl, settled, of_decide_eq_true early⟩
      · cases early

/-- The first is ended after 60 seconds by the deadline of `request`; the second is ended by its
own deadline and its id stays in the table. -/
theorem tool_calls_cut_short_and_left :
    (¬ ∀ events client, replay step initial events = some client →
      ∀ id call time, client.calls id = some call → call.ended = some ⟨time, .timedOut⟩ →
        call.madeAt + call.kind.requested ≤ time) ∧
    (¬ ∀ events client, replay step initial events = some client →
      ∀ id, id ∈ client.pendingRequests → ∃ call, client.unfinished? id = some call) := by
  constructor
  · intro patient
    have observed : (replay step initial unansweredToolCall).map
        (fun client => client.timedOutEarly (.text "a")) = some true := by decide +kernel
    obtain ⟨client, run, early⟩ := map_eq_some_iff.mp observed
    obtain ⟨call, time, held, settled, before⟩ := timedOutEarly_eq_true early
    exact absurd (patient _ client run _ call time held settled) (not_le.mpr before)
  · intro exactly
    have observed : (replay step initial shortToolCall).map
        (fun client => (decide (.text "a" ∈ client.pendingRequests),
          (client.unfinished? (.text "a")).isNone)) = some (true, true) := by decide +kernel
    obtain ⟨client, run, left⟩ := map_eq_some_iff.mp observed
    obtain ⟨listed, settled⟩ := Prod.mk.inj left
    obtain ⟨call, unfinished⟩ := exactly _ client run _ (of_decide_eq_true listed)
    rw [unfinished] at settled
    cases settled

def answeredToolCall : List ClientEvent :=
  [.start, .call "a" (.callTool none), .sent (.text "a"), .pass 5,
    .incoming (some (.dict [(.str "id", .str "a"), (.str "result", .int 7)])) "",
    .resume (.text "a")]

theorem answeredToolCall_along : Along step Spares initial answeredToolCall := by
  have each : ∀ event ∈ answeredToolCall, ∀ client, ClientState.Spares client event := by
    intro event listed client
    simp only [answeredToolCall, List.mem_cons, not_mem_nil, or_false] at listed
    rcases listed with rfl | rfl | rfl | rfl | rfl | rfl <;> trivial
  exact (Along.of_forall each).mono fun client event spared => spared client

/-- The answered call and a close after it. -/
theorem answered_call_correlated :
    ∃ client, replay step initial (answeredToolCall ++ [.close]) = some client ∧
      (∀ id call, client.unfinished? id = some call → call.due = true) ∧
      ∀ id, id ∈ client.pendingRequests → ∃ call, client.unfinished? id = some call := by
  have observed : (replay step initial answeredToolCall).map
      (fun client => (client.unfinished? (.text "a")).isNone) = some true := by decide +kernel
  obtain ⟨middle, reached, settled⟩ := map_eq_some_iff.mp observed
  have idle (id : RequestId) (call : Call) (unfinished : middle.unfinished? id = some call) :
      False := by
    obtain ⟨before, uuid, kind, later, shape, named, -⟩ :=
      run_informed reached id call (unfinished?_eq_some.mp unfinished).1
    have asked : ClientEvent.call uuid kind ∈ answeredToolCall := by
      rw [shape]
      exact mem_append_right _ mem_cons_self
    simp only [answeredToolCall, List.mem_cons, not_mem_nil, or_false, reduceCtorEq, false_or,
      ClientEvent.call.injEq] at asked
    obtain ⟨rfl, -⟩ := asked
    subst named
    rw [unfinished] at settled
    cases settled
  have spared : Along step Spares middle [.close] :=
    ⟨fun id call unfinished => (idle id call unfinished).elim, trivial⟩
  have closing : replay step middle [.close] = some middle.close := replay_single rfl
  have run := replay_append reached closing
  have along := along_append reached answeredToolCall_along spared
  obtain ⟨-, -, -, kept⟩ := mcp_calls_correlated run
  obtain ⟨-, closed, table, -⟩ := kept along
  exact ⟨_, run, closed (.inr rfl), table⟩

end AgenticRuntime.Mcp
