/-
When the SSE streams of a run end.

A listener gets what is broadcast while it is registered and nothing from the
buffer.  Its generator ends with the first event that closes a stream, whatever
the run broadcasts after it.
-/

import AgenticRuntime.Server.RunEvents

namespace AgenticRuntime

open List Function Option Transition

variable {Client Listener Tenant : Type}

namespace Hub

variable (hub : Hub Client Listener Tenant)

def Landed (message : Message Tenant) : Prop :=
  message ∈ hub.log ∧ hub.flights message.number = none

def Unclosed : Prop :=
  ∀ message, message ∈ hub.log → message.isTerminalStreamEvent = false

def StillOpen : Prop :=
  ∀ message, hub.Landed message → message.isTerminalStreamEvent = false

/-- A registered listener still has every closing event in its queue. -/
structure Streaming (hub : Hub Client Listener Tenant) : Prop where
  logged : ∀ listener stream, hub.streams listener = some stream →
    ∀ message, message ∈ stream.sent ++ stream.queue → message ∈ hub.log
  listening : ∀ listener stream, hub.streams listener = some stream →
    stream.phase = .registered → listener ∈ hub.sseListeners
  waiting : ∀ listener stream, hub.streams listener = some stream →
    stream.phase = .registered → ∀ message, hub.Landed message →
    message.isTerminalStreamEvent = true → message ∈ stream.queue

section

variable [DecidableEq Client] [DecidableEq Listener] {settings : StreamSettings}
  {hub after : Hub Client Listener Tenant} {event : ChannelEvent Client Listener Tenant}

omit [DecidableEq Client] [DecidableEq Listener] in
private theorem Streaming.same (streaming : hub.Streaming) (log : after.log = hub.log)
    (streams : after.streams = hub.streams) (listeners : after.sseListeners = hub.sseListeners)
    (landed : ∀ message, after.Landed message → hub.Landed message) : after.Streaming := by
  constructor
  · rw [log, streams]
    exact streaming.logged
  · rw [streams, listeners]
    exact streaming.listening
  · rw [streams]
    exact fun listener stream known registered message arrived =>
      streaming.waiting listener stream known registered message (landed message arrived)

private theorem Streaming.deliver (streaming : hub.Streaming) (listed : hub.Listed)
    (numbered : hub.Numbered) {message : Message Tenant}
    (known : ∃ phase, hub.flights message.number = some { message := message, phase := phase })
    (remaining dead : List Client) : (hub.deliver message remaining dead).Streaming := by
  obtain ⟨phase, flight⟩ := known
  have own := (numbered.flight _ _ flight).1
  have streams := deliver_streams hub message remaining dead listed.listeners
  constructor
  · intro listener stream there other member
    rw [deliver_log]
    rw [streams] at there
    split at there
    · obtain ⟨earlier, before, rfl⟩ := map_eq_some_iff.mp there
      rw [← append_assoc] at member
      rcases mem_append.mp member with old | new
      · exact streaming.logged listener earlier before other old
      · rw [mem_singleton.mp new]
        exact own
    · exact streaming.logged listener stream there other member
  · intro listener stream there registered
    rw [deliver_sseListeners]
    rw [streams] at there
    split at there
    · rename_i reached
      exact reached.2
    · exact streaming.listening listener stream there registered
  · intro listener stream there registered other arrived closing
    have logged : other ∈ hub.log := by
      have member := arrived.1
      rw [deliver_log] at member
      exact member
    have flown := arrived.2
    rw [deliver_flights] at flown
    rw [streams] at there
    by_cases same : other.number = message.number
    · have equal := numbered.distinct other logged message own same
      subst equal
      rw [update_self] at flown
      have done : remaining = [] := by
        by_contra sending
        rw [if_neg sending] at flown
        cases flown
      split at there
      · obtain ⟨earlier, before, rfl⟩ := map_eq_some_iff.mp there
        exact mem_append_right _ (mem_singleton_self _)
      · rename_i missed
        exact absurd ⟨done, streaming.listening listener stream there registered⟩ missed
    · rw [update_of_ne same] at flown
      split at there
      · obtain ⟨earlier, before, rfl⟩ := map_eq_some_iff.mp there
        exact mem_append_left _
          (streaming.waiting listener earlier before registered other ⟨logged, flown⟩ closing)
      · exact streaming.waiting listener stream there registered other ⟨logged, flown⟩ closing

omit [DecidableEq Client] in
private theorem Streaming.setStream (streaming : hub.Streaming) {listener : Listener}
    {later : SseStream Tenant} (log : after.log = hub.log) (flights : after.flights = hub.flights)
    (streams : after.streams = update hub.streams listener (some later))
    (others : ∀ other, other ≠ listener → other ∈ hub.sseListeners → other ∈ after.sseListeners)
    (logged : ∀ message, message ∈ later.sent ++ later.queue → message ∈ hub.log)
    (own : later.phase = .registered → listener ∈ after.sseListeners ∧
      ∀ message, hub.Landed message → message.isTerminalStreamEvent = true →
        message ∈ later.queue) : after.Streaming := by
  have landed (message : Message Tenant) (arrived : after.Landed message) : hub.Landed message := by
    rw [Landed, log, flights] at arrived
    exact arrived
  constructor
  · intro other stream there
    rw [log]
    rw [streams] at there
    by_cases same : other = listener
    · subst same
      rw [update_self] at there
      cases there
      exact logged
    · rw [update_of_ne same] at there
      exact streaming.logged other stream there
  · intro other stream there registered
    rw [streams] at there
    by_cases same : other = listener
    · subst same
      rw [update_self] at there
      cases there
      exact (own registered).1
    · rw [update_of_ne same] at there
      exact others other same (streaming.listening other stream there registered)
  · intro other stream there registered message arrived closing
    rw [streams] at there
    by_cases same : other = listener
    · subst same
      rw [update_self] at there
      cases there
      exact (own registered).2 message (landed message arrived) closing
    · rw [update_of_ne same] at there
      exact streaming.waiting other stream there registered message (landed message arrived) closing

omit [DecidableEq Client] [DecidableEq Listener] in
private theorem landed_of_flight {number : Nat} {flight : Option (Flight Client Tenant)}
    {flown : Flight Client Tenant} (log : after.log = hub.log)
    (flights : after.flights = update hub.flights number flight)
    (under_way : flight = some flown) (message : Message Tenant) (arrived : after.Landed message) :
    hub.Landed message := by
  obtain ⟨member, landed⟩ := arrived
  rw [log] at member
  rw [flights, under_way] at landed
  by_cases same : message.number = number
  · rw [same, update_self] at landed
    cases landed
  · rw [update_of_ne same] at landed
    exact ⟨member, landed⟩

theorem Streaming.step (streaming : hub.Streaming) (listed : hub.Listed) (numbered : hub.Numbered)
    (unclosed : ∀ task type evaluationEnabled, event = .broadcast task type evaluationEnabled →
      hub.Unclosed)
    (stillOpen : ∀ listener, event = .registerStream listener → hub.StillOpen)
    (step : HubStep settings hub event after) : after.Streaming := by
  cases step with
  | @called run message last =>
      have quiet := unclosed _ _ _ rfl
      constructor
      · intro listener stream known other member
        exact mem_append_left _ (streaming.logged listener stream known other member)
      · exact streaming.listening
      · intro listener stream known registered other arrived closing
        rcases mem_append.mp arrived.1 with old | new
        · rw [quiet other old] at closing
          cases closing
        · have landed := arrived.2
          rw [mem_singleton.mp new, broadcast_flights, if_pos rfl] at landed
          cases landed
  | appended flight =>
      exact streaming.same rfl rfl rfl (landed_of_flight rfl rfl rfl)
  | resumed flight | failed flight =>
      exact streaming.deliver listed numbered ⟨_, numbered.own flight⟩ _ _
  | @sent number message client remaining dead flight =>
      have received : (hub.receive client .live message).Streaming := by
        rw [receive_eq]
        exact streaming.same rfl rfl rfl fun _ arrived => arrived
      have own : (hub.receive client .live message).Numbered := by
        rw [receive_eq]
        exact ⟨numbered.bounded, numbered.distinct, numbered.flight⟩
      refine received.deliver (listed.receive client .live message) own
        ⟨.sending (client :: remaining) dead, ?_⟩ remaining dead
      rw [receive_eq]
      exact numbered.own flight
  | resumedReplay known read | replayed known replaying =>
      rw [replay_eq]
      exact streaming.same rfl rfl rfl fun _ arrived => arrived
  | @streamOpened listener tenant phase fresh opening =>
      refine streaming.setStream rfl rfl rfl (fun _ _ member => member) ?_ ?_
      · intro message member
        cases member
      · intro registered
        rcases opening with same | same | same
        · exact absurd (same.symm.trans registered) nofun
        · exact absurd (same.symm.trans registered) nofun
        · exact absurd (same.symm.trans registered) nofun
  | @streamResolved listener stream phase known resolving decided =>
      refine streaming.setStream rfl rfl rfl (fun _ _ member => member)
        (streaming.logged listener stream known) ?_
      intro registered
      rcases decided with same | same
      · exact absurd (same.symm.trans registered) nofun
      · exact absurd (same.symm.trans registered) nofun
  | @streamRegistered listener stream known admitted =>
      refine streaming.setStream rfl rfl rfl
        (fun _ _ member => mem_append_left _ member) (streaming.logged listener stream known) ?_
      intro _
      refine ⟨mem_append_right _ (mem_singleton_self _), ?_⟩
      intro message arrived closing
      rw [stillOpen listener rfl message arrived] at closing
      cases closing
  | @streamYielded listener stream event queue known registered waiting open_ended =>
      refine streaming.setStream rfl rfl rfl (fun _ _ member => member) ?_ ?_
      · intro message member
        apply streaming.logged listener stream known message
        rw [waiting]
        rw [append_assoc] at member
        exact member
      · intro _
        refine ⟨streaming.listening listener stream known registered, ?_⟩
        intro message arrived closing
        have queued := streaming.waiting listener stream known registered message arrived closing
        rw [waiting] at queued
        rcases List.mem_cons.mp queued with taken | later
        · rw [taken, open_ended] at closing
          cases closing
        · exact later
  | @streamEnded listener stream event queue known registered waiting last =>
      refine streaming.setStream rfl rfl rfl
        (fun _ apart member => (mem_erase_of_ne apart).mpr member) ?_ nofun
      intro message member
      apply streaming.logged listener stream known message
      rw [waiting]
      rw [append_assoc] at member
      exact member
  | @streamClosed listener stream known =>
      exact streaming.setStream rfl rfl rfl
        (fun _ apart member => (mem_erase_of_ne apart).mpr member)
        (streaming.logged listener stream known) nofun
  | opened | resolved | accepted | began | readStore | interrupted | closed | cleared
  | storeCleared | idle => exact streaming.same rfl rfl rfl fun _ arrived => arrived

end

end Hub

namespace EmittedRun

/-- No listener registers once a closing event has reached the others, and nothing is broadcast
after a closing event. -/
def SparesStreams (run : EmittedRun Client Listener Tenant)
    (event : Nat × ChannelEvent Client Listener Tenant) : Prop :=
  match event.2 with
  | .registerStream _ => run.channel.hub.StillOpen
  | .broadcast _ _ _ => run.channel.hub.Unclosed
  | _ => True

instance decidableSparesStreams (run : EmittedRun Client Listener Tenant) :
    ∀ event, Decidable (run.SparesStreams event)
  | (_, .registerStream _) => decidable_of_iff
      (∀ message, message ∈ run.channel.hub.log →
        (run.channel.hub.flights message.number).isNone = true →
        message.isTerminalStreamEvent = false)
      ⟨fun spared message landed => spared message landed.1 (isNone_iff_eq_none.mpr landed.2),
        fun spared message logged landed =>
          spared message ⟨logged, isNone_iff_eq_none.mp landed⟩⟩
  | (_, .broadcast _ _ _) => inferInstanceAs (Decidable
      (∀ message, message ∈ run.channel.hub.log → message.isTerminalStreamEvent = false))
  | (_, .submit _) | (_, .startRun _) | (_, .finishRun _) | (_, .persist _) | (_, .stored _ _)
  | (_, .resumeBroadcast _) | (_, .sent _ _ _) | (_, .openSocket _ _) | (_, .resolveSocket _)
  | (_, .accepted _) | (_, .beginReplay _) | (_, .readStore _ _) | (_, .resumeReplay _)
  | (_, .replayed _ _) | (_, .closeSocket _) | (_, .openStream _ _) | (_, .resolveStream _)
  | (_, .takeEvent _) | (_, .closeStream _) | (_, .startTimer _) | (_, .fireTimer _)
  | (_, .cancelTimer _) | (_, .timerDone _) | (_, .storeCleared _) => isTrue trivial

structure Closing (run : EmittedRun Client Listener Tenant) : Prop where
  numbered : run.channel.hub.Numbered
  listed : run.channel.hub.Listed
  streaming : run.channel.hub.Streaming
  unclosed : run.phase.final = false → run.channel.hub.Unclosed
  closed : run.phase.final = true → ∃ earlier last, run.channel.hub.log = earlier ++ [last] ∧
    last.isTerminalStreamEvent = true ∧
    ∀ message, message ∈ earlier → message.isTerminalStreamEvent = false

theorem start_closing (records : List Tenant) :
    (start records : EmittedRun Client Listener Tenant).Closing := by
  constructor
  · exact ⟨nofun, nofun, nofun⟩
  · exact ⟨nodup_nil, nofun, nodup_nil, nofun⟩
  · exact ⟨nofun, nofun, nofun⟩
  · exact fun _ => nofun
  · intro final
    cases final

variable [DecidableEq Client] [DecidableEq Listener] [DecidableEq Tenant]
  {settings : StreamSettings} {run after : EmittedRun Client Listener Tenant}
  {event : Nat × ChannelEvent Client Listener Tenant}

theorem Closing.step (closing : run.Closing) (spares : run.SparesStreams event)
    (taken : run.next settings event = some after) : after.Closing := by
  obtain ⟨moved, phase, -⟩ := next_some taken
  have step := RunChannel.next_hub moved
  constructor
  · exact closing.numbered.step step
  · exact closing.listed.step step
  · refine closing.streaming.step closing.listed closing.numbered ?_ ?_ step
    · intro task type evaluationEnabled same
      rw [SparesStreams, same] at spares
      exact spares
    · intro listener same
      rw [SparesStreams, same] at spares
      exact spares
  · intro running
    rcases phase with ⟨same, other⟩ | ⟨task, type, evaluationEnabled, same, advanced, -⟩
    · rw [Hub.Unclosed, RunChannel.next_log moved other]
      rw [same] at running
      exact closing.unclosed running
    · obtain ⟨now, happened⟩ := event
      cases same
      obtain ⟨tenant, -, grown⟩ := RunChannel.next_broadcast moved
      rw [grown]
      intro message member
      rcases mem_append.mp member with old | new
      · exact spares message old
      · rw [mem_singleton.mp new]
        rw [← running]
        exact (advance_final advanced).symm
  · intro final
    rcases phase with ⟨same, other⟩ | ⟨task, type, evaluationEnabled, same, advanced, -⟩
    · rw [RunChannel.next_log moved other]
      rw [same] at final
      exact closing.closed final
    · obtain ⟨now, happened⟩ := event
      cases same
      obtain ⟨tenant, -, grown⟩ := RunChannel.next_broadcast moved
      rw [grown]
      refine ⟨run.channel.hub.log, _, rfl, ?_, spares⟩
      rw [← final]
      exact (advance_final advanced).symm

def endedRun : List (Nat × ChannelEvent String String String) :=
  [(0, .submit "acme"), (0, .startRun 0), (0, .broadcast 0 .workflowStart false), (0, .stored 0 true),
    (0, .resumeBroadcast 0), (0, .openStream "early" "acme"), (0, .registerStream "early"),
    (1, .broadcast 0 .workflowEnd false), (1, .stored 1 true), (1, .resumeBroadcast 1)]

def unread (run : EmittedRun String String String) (listener : String) :
    Option (List (Message String)) :=
  (run.channel.hub.streams listener).bind fun stream =>
    if stream.phase = .registered then some stream.queue else none

theorem unread_eq_some {run : EmittedRun String String String} {listener : String}
    {queue : List (Message String)} (found : run.unread listener = some queue) :
    ∃ stream, run.channel.hub.streams listener = some stream ∧ stream.phase = .registered ∧
      stream.queue = queue := by
  obtain ⟨stream, known, registered⟩ := bind_eq_some_iff.mp found
  simp only [ite_none_right_eq_some, some.injEq] at registered
  exact ⟨stream, known, registered⟩

end EmittedRun

end AgenticRuntime
