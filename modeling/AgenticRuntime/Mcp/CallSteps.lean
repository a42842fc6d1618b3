/-
What one step of the client does to one call and to its entry of the table.

Every later argument about a call goes through `Moves`; nothing after this file
looks at the thirteen events one by one.
-/

import AgenticRuntime.Mcp.ProtocolClient

namespace AgenticRuntime.Mcp

open Python Function Option

/-- The answer to the call `id` that an event brings in. -/
def ClientEvent.answerTo (id : RequestId) : ClientEvent → Option JsonRpcResponse
  | .incoming data _ =>
      match data.bind parseJsonRpc with
      | some (.response response) => if response.id = id then some response else none
      | _ => none
  | _ => none

def ClientEvent.closes : ClientEvent → Bool
  | .close | .transportClose => true
  | _ => false

def McpProtocolError.answered : McpProtocolError → Bool
  | .mcpError _ _ => true
  | _ => false

inductive Interrupt (client : ClientState) (id : RequestId) (call : Call) :
    ClientEvent → Call → Prop
  | requestDeadline (since : ℚ) (awaiting : call.awaiting = .response since)
      (settled : since + call.kind.requestTimeout ≤ client.now) :
      Interrupt client id call (.requestDeadline id)
        { call.cancelAwaited with requestExpired := true }
  | toolDeadline (timeout : ℚ) (own : call.kind.toolTimeout? = some timeout)
      (passed : call.madeAt + timeout ≤ client.now) :
      Interrupt client id call (.toolDeadline id) { call.cancelAwaited with toolExpired := true }
  | caller : Interrupt client id call (.cancel id)
      { call.cancelAwaited with callerCancelled := true }

/-- How a call ends, and whether its entry is taken out of the table with it. -/
inductive Ends (call : Call) : Outcome → (popped : Bool) → Prop
  | returned (value : PyValue) (held : call.future = .result value) : Ends call (.returned value) false
  | protocolError (error : McpProtocolError) (held : call.future = .exception error) :
      Ends call (.protocolError error) true
  | sendFailed (error : String) (sending : call.awaiting = .send) : Ends call (.sendFailed error) true
  | caller (cancelled : call.callerCancelled = true) : Ends call .cancelled false
  | future (cancelled : call.future = .cancelled) (unasked : call.interrupted = false) :
      Ends call .cancelled false
  | tool (expired : call.toolExpired = true) : Ends call .timedOut false
  | request (expired : call.requestExpired = true) (alone : call.toolExpired = false) :
      Ends call .timedOut true

inductive Moves (client after : ClientState) (event : ClientEvent) (id : RequestId) : Prop
  | still (same : after.calls id = client.calls id)
      (listed : id ∈ after.pendingRequests ↔ id ∈ client.pendingRequests)
      (unheard : event.answerTo id = none ∨ id ∉ client.pendingRequests)
      (deaf : event.closes = true → id ∉ client.pendingRequests)
  | made (uuid : String) (kind : CallKind) (asked : event = .call uuid kind) (named : id = .text uuid)
      (fresh : client.calls id = none) (now : after.calls id = some (Call.made kind client.now))
      (listed : id ∈ after.pendingRequests) (alive : client.transportClosed = false)
  | refused (uuid : String) (kind : CallKind) (error : String) (asked : event = .call uuid kind)
      (named : id = .text uuid) (fresh : client.calls id = none)
      (now : after.calls id =
        some { Call.made kind client.now with ended := some ⟨client.now, .sendFailed error⟩ })
      (listed : id ∈ after.pendingRequests ↔ id ∈ client.pendingRequests)
  | ended (call ending : Call) (outcome : Outcome) (popped : Bool)
      (silent : event = .sent id ∨ event = .resume id ∨ ∃ error, event = .sendFailed id error)
      (before : client.unfinished? id = some call) (how : Ends ending outcome popped)
      (origin : ending = call ∨ ending = { call with awaiting := .response client.now })
      (now : after.calls id = some { ending with ended := some ⟨client.now, outcome⟩ })
      (listed : id ∈ after.pendingRequests ↔ id ∈ client.pendingRequests ∧ popped = false)
  | written (call : Call) (sent : event = .sent id) (before : client.sending? id = some call)
      (waits : call.future = .pending)
      (now : after.calls id = some { call with awaiting := .response client.now })
      (listed : id ∈ after.pendingRequests ↔ id ∈ client.pendingRequests)
  | rejected (call : Call) (error : McpProtocolError) (kept : Bool)
      (unheard : event.answerTo id = none) (own : error.answered = false)
      (entry : id ∈ client.pendingRequests) (before : client.calls id = some call)
      (now : after.calls id = some { call with future := call.future.reject error })
      (listed : id ∈ after.pendingRequests ↔ kept = true)
      (cleared : event.closes = true → kept = false)
  | answered (call : Call) (response : JsonRpcResponse) (heard : event.answerTo id = some response)
      (entry : id ∈ client.pendingRequests) (before : client.calls id = some call)
      (now : after.calls id = some (ClientState.answer response call))
      (gone : id ∉ after.pendingRequests)
  | interrupted (call flagged : Call) (before : client.unfinished? id = some call)
      (cause : Interrupt client id call event flagged) (now : after.calls id = some flagged)
      (listed : id ∈ after.pendingRequests ↔ id ∈ client.pendingRequests)

namespace ClientState

def OnlyAt (client after : ClientState) (id : RequestId) : Prop :=
  ∀ other, other ≠ id → after.calls other = client.calls other ∧
    (other ∈ after.pendingRequests ↔ other ∈ client.pendingRequests)

variable {client after : ClientState} {id : RequestId} {call : Call}

theorem setCall_self : (client.setCall id call).calls id = some call :=
  update_self ..

theorem setCall_onlyAt (client : ClientState) (id : RequestId) (call : Call) :
    client.OnlyAt (client.setCall id call) id := by
  intro other apart
  exact ⟨update_of_ne apart .., Iff.rfl⟩

theorem mem_popPending {other : RequestId} :
    other ∈ (client.popPending id).pendingRequests ↔
      other ≠ id ∧ other ∈ client.pendingRequests := Finset.mem_erase

theorem popPending_onlyAt (client : ClientState) (id : RequestId) :
    client.OnlyAt (client.popPending id) id := by
  intro other apart
  exact ⟨rfl, mem_popPending.trans (and_iff_right apart)⟩

theorem OnlyAt.trans {middle : ClientState} (first : client.OnlyAt middle id)
    (second : middle.OnlyAt after id) : client.OnlyAt after id := by
  intro other apart
  have early := first other apart
  have late := second other apart
  exact ⟨late.1.trans early.1, late.2.trans early.2⟩

theorem popPending_setCall_onlyAt (client : ClientState) (id : RequestId) (call : Call) :
    client.OnlyAt ((client.popPending id).setCall id call) id :=
  (client.popPending_onlyAt id).trans (setCall_onlyAt _ id call)

theorem settle_onlyAt (client : ClientState) (id : RequestId) (call : Call) :
    client.OnlyAt (client.settle id call) id := by
  unfold settle
  cases call.future with
  | pending => exact client.setCall_onlyAt id call
  | result value | cancelled => exact client.setCall_onlyAt id _
  | exception error => exact client.popPending_setCall_onlyAt id _

theorem resume_onlyAt (client : ClientState) (id : RequestId) (call : Call) :
    client.OnlyAt (client.resume id call) id := by
  unfold resume
  split
  · exact client.setCall_onlyAt id _
  · split
    · exact client.setCall_onlyAt id _
    · split
      · exact client.popPending_setCall_onlyAt id _
      · exact client.settle_onlyAt id call

theorem makeCall_onlyAt (client : ClientState) (id : RequestId) (kind : CallKind) :
    client.OnlyAt (client.makeCall id kind) id := by
  intro other apart
  unfold makeCall
  dsimp only
  cases client.ensureStarted with
  | some error => exact client.setCall_onlyAt id _ other apart
  | none =>
      constructor
      · exact update_of_ne apart ..
      · exact Finset.mem_insert.trans (or_iff_right apart)

theorem unfinished?_eq_some :
    client.unfinished? id = some call ↔ client.calls id = some call ∧ call.ended = none := by
  unfold unfinished?
  cases client.calls id with
  | none => simp
  | some held =>
      simp only [bind_some, ite_none_right_eq_some, some.injEq, isNone_iff_eq_none]
      constructor
      · rintro ⟨running, rfl⟩
        exact ⟨rfl, running⟩
      · rintro ⟨rfl, running⟩
        exact ⟨running, rfl⟩

theorem sending?_eq_some :
    client.sending? id = some call ↔
      client.unfinished? id = some call ∧ call.awaiting = .send ∧ call.interrupted = false := by
  simp only [sending?, bind_eq_some_iff, ite_none_right_eq_some, some.injEq]
  constructor
  · rintro ⟨held, found, writing, rfl⟩
    exact ⟨found, writing⟩
  · rintro ⟨found, writing⟩
    exact ⟨call, found, writing, rfl⟩

theorem due?_eq_some :
    client.due? id = some call ↔ client.unfinished? id = some call ∧ call.due = true := by
  simp only [due?, bind_eq_some_iff, ite_none_right_eq_some, some.injEq]
  constructor
  · rintro ⟨held, found, due, rfl⟩
    exact ⟨found, due⟩
  · rintro ⟨found, due⟩
    exact ⟨call, found, due, rfl⟩

theorem requestDeadline?_eq_some (found : client.requestDeadline? id = some call) :
    client.unfinished? id = some call ∧
      ∃ since, call.awaiting = .response since ∧
        since + call.kind.requestTimeout ≤ client.now := by
  simp only [requestDeadline?, bind_eq_some_iff] at found
  obtain ⟨held, running, expired⟩ := found
  cases awaiting : held.awaiting with
  | send => simp only [awaiting, reduceCtorEq] at expired
  | response since =>
      simp only [awaiting, ite_none_right_eq_some, some.injEq] at expired
      obtain ⟨⟨-, settled⟩, rfl⟩ := expired
      exact ⟨running, since, awaiting, settled⟩

theorem toolDeadline?_eq_some (found : client.toolDeadline? id = some call) :
    client.unfinished? id = some call ∧
      ∃ timeout, call.kind.toolTimeout? = some timeout ∧ call.madeAt + timeout ≤ client.now := by
  simp only [toolDeadline?, bind_eq_some_iff] at found
  obtain ⟨held, running, expired⟩ := found
  cases own : held.kind.toolTimeout? with
  | none => simp only [own, reduceCtorEq] at expired
  | some timeout =>
      simp only [own, ite_none_right_eq_some, some.injEq] at expired
      obtain ⟨⟨-, settled⟩, rfl⟩ := expired
      exact ⟨running, timeout, own, settled⟩

/-! ### Event by event -/

def Filed (client : ClientState) : Prop :=
  ∀ id ∈ client.pendingRequests, ∃ call, client.calls id = some call

variable {event : ClientEvent}

theorem OnlyAt.still {other : RequestId} (only : client.OnlyAt after id) (apart : other ≠ id)
    (unheard : event.answerTo other = none ∨ other ∉ client.pendingRequests)
    (ordinary : event.closes = false) : Moves client after event other := by
  obtain ⟨same, listed⟩ := only other apart
  refine .still same listed unheard fun closing => ?_
  rw [ordinary] at closing
  cases closing

theorem makeCall_moves (fresh : client.calls id = none) {uuid : String} {kind : CallKind}
    (named : id = .text uuid) :
    Moves client (client.makeCall id kind) (.call uuid kind) id := by
  unfold makeCall
  dsimp only
  cases started : client.ensureStarted with
  | some error =>
      exact .refused uuid kind error rfl named fresh (update_self ..) Iff.rfl
  | none =>
      have alive : client.transportClosed = false := by
        unfold ensureStarted at started
        cases closed : client.transportClosed with
        | false => rfl
        | true =>
            rw [closed, if_pos rfl] at started
            split at started
            · cases started
            · cases started
      exact .made uuid kind rfl named fresh (update_self ..)
        (Finset.mem_insert_self ..) alive

theorem settle_moves {ending : Call}
    (silent : event = .sent id ∨ event = .resume id ∨ ∃ error, event = .sendFailed id error)
    (before : client.unfinished? id = some call)
    (origin : ending = call ∨ ending = { call with awaiting := .response client.now })
    (settled : ending.future ≠ .pending) (unasked : ending.interrupted = false) :
    Moves client (client.settle id ending) event id := by
  unfold settle
  cases held : ending.future with
  | pending => exact absurd held settled
  | result value =>
      exact .ended call ending (.returned value) false silent before (.returned value held) origin
        setCall_self (by simp [endCall, setCall])
  | exception error =>
      exact .ended call ending (.protocolError error) true silent before (.protocolError error held)
        origin setCall_self (by simp [endCall, setCall, popPending])
  | cancelled =>
      exact .ended call ending .cancelled false silent before (.future held unasked) origin
        setCall_self (by simp [endCall, setCall])

theorem sent_moves (found : client.sending? id = some call) :
    Moves client (client.sent id call) (.sent id) id := by
  obtain ⟨before, writing, unasked⟩ := sending?_eq_some.mp found
  by_cases waits : call.future = .pending
  · refine .written call rfl found waits ?_ ?_
    · simp only [sent, settle, waits]
      exact setCall_self
    · simp only [sent, settle, waits]
      rfl
  · exact settle_moves (.inl rfl) before (.inr rfl) waits unasked

theorem due_settled (due : call.due = true) (unasked : call.interrupted = false) :
    call.future ≠ .pending := by
  intro waits
  unfold Call.due at due
  rw [unasked, Bool.false_or] at due
  cases awaiting : call.awaiting with
  | send => simp only [awaiting, Bool.false_eq_true] at due
  | response since => simp only [awaiting, waits, Future.done, Bool.false_eq_true] at due

theorem resume_moves (found : client.due? id = some call) :
    Moves client (client.resume id call) (.resume id) id := by
  obtain ⟨before, due⟩ := due?_eq_some.mp found
  unfold resume
  cases caller : call.callerCancelled with
  | true =>
      exact .ended call call .cancelled false (.inr (.inl rfl)) before (.caller caller) (.inl rfl)
        setCall_self (by simp [endCall, setCall])
  | false =>
      cases tool : call.toolExpired with
      | true =>
          exact .ended call call .timedOut false (.inr (.inl rfl)) before (.tool tool) (.inl rfl)
            setCall_self (by simp [endCall, setCall])
      | false =>
          cases request : call.requestExpired with
          | true =>
              exact .ended call call .timedOut true (.inr (.inl rfl)) before (.request request tool)
                (.inl rfl) setCall_self (by simp [endCall, setCall, popPending])
          | false =>
              have unasked : call.interrupted = false := by
                simp only [Call.interrupted, request, tool, caller, Bool.or_false]
              exact settle_moves (.inr (.inl rfl)) before (.inl rfl) (due_settled due unasked)
                unasked

theorem rejectPending_calls (entry : id ∈ client.pendingRequests)
    (before : client.calls id = some call) (error : McpProtocolError) :
    (client.rejectPending error).calls id =
      some { call with future := call.future.reject error } := by
  simp only [rejectPending, if_pos entry, before, map_some]

theorem rejectPending_other (unlisted : id ∉ client.pendingRequests) (error : McpProtocolError) :
    (client.rejectPending error).calls id = client.calls id := by
  simp only [rejectPending, if_neg unlisted]

theorem reject_moves (error : McpProtocolError) (kept : Bool) (filed : client.Filed)
    (own : error.answered = false) (unheard : event.answerTo id = none)
    (calls : after.calls = (client.rejectPending error).calls)
    (listed : id ∈ after.pendingRequests ↔ id ∈ client.pendingRequests ∧ kept = true)
    (cleared : event.closes = true → kept = false) :
    Moves client after event id := by
  by_cases entry : id ∈ client.pendingRequests
  · obtain ⟨call, before⟩ := filed id entry
    refine .rejected call error kept unheard own entry before ?_ (listed.trans (and_iff_right entry))
      cleared
    rw [calls, rejectPending_calls entry before]
  · refine .still ?_ ?_ (.inl unheard) fun _ => entry
    · rw [calls, rejectPending_other entry]
    · rw [listed]
      constructor
      · exact And.left
      · exact fun listed => absurd listed entry

theorem handleResponse_moves (filed : client.Filed) {response : JsonRpcResponse}
    (heard : ∀ other, event.answerTo other = if response.id = other then some response else none)
    (ordinary : event.closes = false) (id : RequestId) :
    Moves client (client.handleResponse response) event id := by
  have quiet : ¬ event.closes = true := Bool.eq_false_iff.mp ordinary
  unfold handleResponse
  by_cases entry : response.id ∈ client.pendingRequests
  · rw [if_pos entry]
    by_cases same : id = response.id
    · subst same
      obtain ⟨call, before⟩ := filed _ entry
      refine .answered call response ?_ entry before ?_ ?_
      · rw [heard, if_pos rfl]
      · simp only [update_self, before, map_some]
      · simp [popPending]
    · refine .still (update_of_ne same ..) ?_ (.inl ?_) fun closing => absurd closing quiet
      · exact mem_popPending.trans (and_iff_right same)
      · rw [heard, if_neg (Ne.symm same)]
  · rw [if_neg entry]
    refine .still rfl Iff.rfl ?_ fun closing => absurd closing quiet
    by_cases same : response.id = id
    · subst same
      exact .inr entry
    · exact .inl (by rw [heard, if_neg same])

theorem receive_moves (filed : client.Filed) (data : Option PyValue) (failure : String)
    (id : RequestId) : Moves client (client.receive data failure) (.incoming data failure) id := by
  unfold receive
  cases typed : data.bind parseJsonRpc with
  | none =>
      refine reject_moves (.transportError failure) true filed rfl ?_ rfl
        (by simp [handleTransportError, rejectPending]) nofun
      simp only [ClientEvent.answerTo, typed]
  | some message =>
      cases message with
      | response response =>
          apply handleResponse_moves filed _ rfl
          intro other
          simp only [ClientEvent.answerTo, typed]
      | request request | notification notification =>
          refine .still rfl Iff.rfl (.inl ?_) nofun
          simp only [ClientEvent.answerTo, typed]

theorem emitClose_moves (filed : client.Filed) (shut : client.transportClosed = true →
    client.pendingRequests = ∅) (id : RequestId) :
    Moves client client.emitClose .transportClose id := by
  unfold emitClose
  cases closed : client.transportClosed with
  | true =>
      rw [if_pos rfl]
      refine .still rfl Iff.rfl (.inl rfl) fun _ => ?_
      rw [shut closed]
      exact Finset.notMem_empty id
  | false =>
      rw [if_neg Bool.false_ne_true]
      exact reject_moves .transportClosed false filed rfl rfl rfl (by simp) fun _ => rfl

theorem close_moves (filed : client.Filed) (id : RequestId) :
    Moves client client.close .close id :=
  reject_moves .connectionClosed false filed rfl rfl rfl (by simp [close]) fun _ => rfl

theorem moves_of_onlyAt (only : client.OnlyAt after id)
    (quiet : ∀ other, event.answerTo other = none) (ordinary : event.closes = false)
    (own : Moves client after event id) (other : RequestId) : Moves client after event other := by
  by_cases same : other = id
  · subst same
    exact own
  · exact only.still same (.inl (quiet other)) ordinary

def Shut (client : ClientState) : Prop :=
  client.transportClosed = true → client.pendingRequests = ∅

theorem step_moves (filed : client.Filed) (shut : client.Shut)
    (taken : client.step event = some after) (id : RequestId) : Moves client after event id := by
  cases event with
  | start =>
      simp only [step] at taken
      split at taken
      · cases taken
      · cases taken
        exact .still rfl Iff.rfl (.inl rfl) nofun
  | call uuid kind =>
      simp only [step] at taken
      split at taken
      · cases taken
      · cases taken
        rename_i absent
        have fresh : client.calls (.text uuid) = none := not_isSome_iff_eq_none.mp absent
        exact moves_of_onlyAt (client.makeCall_onlyAt _ kind) (fun _ => rfl) rfl
          (makeCall_moves fresh rfl) id
  | sent target =>
      obtain ⟨call, found, rfl⟩ := map_eq_some_iff.mp taken
      exact moves_of_onlyAt (client.settle_onlyAt target _) (fun _ => rfl) rfl
        (sent_moves found) id
  | sendFailed target error =>
      obtain ⟨call, found, rfl⟩ := map_eq_some_iff.mp taken
      obtain ⟨before, writing, -⟩ := sending?_eq_some.mp found
      refine moves_of_onlyAt (client.popPending_setCall_onlyAt target _) (fun _ => rfl) rfl ?_ id
      exact .ended call call (.sendFailed error) true (.inr (.inr ⟨error, rfl⟩)) before
        (.sendFailed error writing) (.inl rfl) setCall_self (by simp [setCall, popPending])
  | incoming data failure =>
      cases taken
      exact receive_moves filed data failure id
  | transportError error =>
      cases taken
      exact reject_moves (.transportError error) true filed rfl rfl rfl
        (by simp [handleTransportError, rejectPending]) nofun
  | transportClose =>
      cases taken
      exact emitClose_moves filed shut id
  | close =>
      cases taken
      exact close_moves filed id
  | requestDeadline target =>
      obtain ⟨call, found, rfl⟩ := map_eq_some_iff.mp taken
      obtain ⟨before, since, awaiting, passed⟩ := requestDeadline?_eq_some found
      exact moves_of_onlyAt (client.setCall_onlyAt target _) (fun _ => rfl) rfl
        (.interrupted call _ before (.requestDeadline since awaiting passed) setCall_self Iff.rfl) id
  | toolDeadline target =>
      obtain ⟨call, found, rfl⟩ := map_eq_some_iff.mp taken
      obtain ⟨before, timeout, own, passed⟩ := toolDeadline?_eq_some found
      exact moves_of_onlyAt (client.setCall_onlyAt target _) (fun _ => rfl) rfl
        (.interrupted call _ before (.toolDeadline timeout own passed) setCall_self Iff.rfl) id
  | cancel target =>
      obtain ⟨call, found, rfl⟩ := map_eq_some_iff.mp taken
      exact moves_of_onlyAt (client.setCall_onlyAt target _) (fun _ => rfl) rfl
        (.interrupted call _ found .caller setCall_self Iff.rfl) id
  | resume target =>
      obtain ⟨call, found, rfl⟩ := map_eq_some_iff.mp taken
      exact moves_of_onlyAt (client.resume_onlyAt target call) (fun _ => rfl) rfl
        (resume_moves found) id
  | pass seconds =>
      simp only [step] at taken
      split at taken
      · cases taken
        exact .still rfl Iff.rfl (.inl rfl) nofun
      · cases taken

end ClientState

end AgenticRuntime.Mcp
