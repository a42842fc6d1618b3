/-
What holds of the broadcasts and the registrations under any run id.
-/

import AgenticRuntime.Server.HubStep

namespace AgenticRuntime

open List

variable {Client Listener Tenant : Type}

namespace Hub

structure Numbered (hub : Hub Client Listener Tenant) : Prop where
  bounded : ∀ message, message ∈ hub.log → message.number < hub.log.length
  distinct : ∀ first, first ∈ hub.log → ∀ second, second ∈ hub.log →
    first.number = second.number → first = second
  flight : ∀ number flight, hub.flights number = some flight →
    flight.message ∈ hub.log ∧ flight.message.number = number

section

variable [DecidableEq Client] [DecidableEq Listener] {settings : StreamSettings}
  {hub after : Hub Client Listener Tenant} {event : ChannelEvent Client Listener Tenant}

section

omit [DecidableEq Client] [DecidableEq Listener]

private theorem Numbered.of_flights (numbered : hub.Numbered) (log : after.log = hub.log)
    {message : Message Tenant} {flight : Option (Flight Client Tenant)}
    (known : ∃ phase, hub.flights message.number = some { message := message, phase := phase })
    (flights : after.flights = Function.update hub.flights message.number flight)
    (own : ∀ other, flight = some other → other.message = message) : after.Numbered := by
  obtain ⟨phase, present⟩ := known
  constructor
  case bounded => exact log ▸ numbered.bounded
  case distinct => exact log ▸ numbered.distinct
  case flight =>
    intro number other there
    rw [flights] at there
    rw [log]
    by_cases same : number = message.number
    · subst same
      rw [Function.update_self] at there
      rw [own other there]
      exact ⟨(numbered.flight _ _ present).1, rfl⟩
    · rw [Function.update_of_ne same] at there
      exact numbered.flight number other there

theorem Numbered.own (numbered : hub.Numbered) {number : Nat} {flight : Flight Client Tenant}
    (known : hub.flights number = some flight) :
    hub.flights flight.message.number = some flight := by
  rw [(numbered.flight number flight known).2]
  exact known

end

theorem Numbered.deliver (numbered : hub.Numbered) {message : Message Tenant}
    (known : ∃ phase, hub.flights message.number = some { message := message, phase := phase })
    (remaining dead : List Client) : (hub.deliver message remaining dead).Numbered := by
  refine numbered.of_flights (deliver_log hub message remaining dead) known
    (deliver_flights hub message remaining dead) ?_
  intro other there
  split at there
  · cases there
  · cases there
    rfl

theorem Numbered.step (numbered : hub.Numbered) (step : HubStep settings hub event after) :
    after.Numbered := by
  cases step with
  | @called run message last =>
      have fresh : ∀ other, other ∈ hub.log → other.number ≠ message.number := by
        intro other member same
        have bound := numbered.bounded other member
        omega
      constructor
      case bounded =>
        intro other member
        rw [broadcast_log_length]
        rcases mem_append.mp member with old | new
        · exact Nat.lt_succ_of_lt (numbered.bounded other old)
        · rw [mem_singleton.mp new, last]
          exact Nat.lt_succ_self _
      case distinct =>
        intro first firstMember second secondMember same
        rcases mem_append.mp firstMember with firstOld | firstNew
        · rcases mem_append.mp secondMember with secondOld | secondNew
          · exact numbered.distinct first firstOld second secondOld same
          · rw [mem_singleton.mp secondNew] at same
            exact absurd same (fresh first firstOld)
        · rcases mem_append.mp secondMember with secondOld | secondNew
          · rw [mem_singleton.mp firstNew] at same
            exact absurd same.symm (fresh second secondOld)
          · rw [mem_singleton.mp firstNew, mem_singleton.mp secondNew]
      case flight =>
        intro number flight there
        rw [broadcast_flights] at there
        split at there
        · rename_i same
          cases there
          exact ⟨mem_append_right _ (mem_singleton_self _), same.symm⟩
        · obtain ⟨member, own⟩ := numbered.flight number flight there
          exact ⟨mem_append_left _ member, own⟩
  | appended flight =>
      refine numbered.of_flights rfl ⟨_, numbered.own flight⟩ rfl ?_
      intro other there
      cases there
      rfl
  | resumed flight | failed flight => exact numbered.deliver ⟨_, numbered.own flight⟩ _ _
  | @sent number message client remaining dead flight =>
      have received : (hub.receive client .live message).Numbered := by
        rw [receive_eq]
        exact ⟨numbered.bounded, numbered.distinct, numbered.flight⟩
      refine received.deliver ⟨.sending (client :: remaining) dead, ?_⟩ remaining dead
      rw [receive_eq]
      exact numbered.own flight
  | resumedReplay known read | replayed known replaying =>
      rw [replay_eq]
      exact ⟨numbered.bounded, numbered.distinct, numbered.flight⟩
  | opened | resolved | accepted | began | readStore | interrupted | closed | streamOpened
  | streamResolved | streamRegistered | streamYielded | streamEnded | streamClosed | cleared
  | storeCleared | idle => exact ⟨numbered.bounded, numbered.distinct, numbered.flight⟩

end

/-- The connection list and the listener list hold each receiver once, and none
that has not been registered or has left. -/
structure Listed (hub : Hub Client Listener Tenant) : Prop where
  clients : hub.connections.Nodup
  connected : ∀ client, client ∈ hub.connections → ∃ socket,
    hub.sockets client = some socket ∧ socket.phase.connected = true
  listeners : hub.sseListeners.Nodup
  registered : ∀ listener, listener ∈ hub.sseListeners → ∃ stream,
    hub.streams listener = some stream ∧ stream.phase = .registered

section

structure Registry {Key Entry : Type} (active : Entry → Prop) (keys : List Key)
    (entry : Key → Option Entry) : Prop where
  distinct : keys.Nodup
  held : ∀ key, key ∈ keys → ∃ value, entry key = some value ∧ active value

namespace Registry

variable {Key Entry : Type} [DecidableEq Key] {active : Entry → Prop} {keys : List Key}
  {entry : Key → Option Entry} {key : Key} {old new : Entry}

theorem update (registry : Registry active keys entry) (known : entry key = some old)
    (kept : active old → active new) :
    Registry active keys (Function.update entry key (some new)) := by
  refine ⟨registry.distinct, ?_⟩
  intro other member
  obtain ⟨own, there, running⟩ := registry.held other member
  by_cases same : other = key
  · subst same
    cases known.symm.trans there
    exact ⟨new, Function.update_self _ _ _, kept running⟩
  · exact ⟨own, (Function.update_of_ne same _ _).trans there, running⟩

omit [DecidableEq Key] in
theorem absent (registry : Registry active keys entry)
    (idle : ∀ value, entry key = some value → ¬ active value) : key ∉ keys := by
  intro member
  obtain ⟨own, there, running⟩ := registry.held key member
  exact idle own there running

theorem fresh (registry : Registry active keys entry) (idle : key ∉ keys) (value : Option Entry) :
    Registry active keys (Function.update entry key value) := by
  refine ⟨registry.distinct, ?_⟩
  intro other member
  obtain ⟨own, there, running⟩ := registry.held other member
  have different : other ≠ key := fun same => idle (same ▸ member)
  exact ⟨own, (Function.update_of_ne different _ _).trans there, running⟩

theorem concat (registry : Registry active keys entry) (idle : key ∉ keys) (running : active new) :
    Registry active (keys ++ [key]) (Function.update entry key (some new)) := by
  constructor
  · refine nodup_append.mpr ⟨registry.distinct, pairwise_singleton _ key, ?_⟩
    intro left member right same equal
    rw [mem_singleton.mp same] at equal
    exact idle (equal ▸ member)
  · intro other member
    rcases mem_append.mp member with earlier | last
    · exact (registry.fresh idle (some new)).held other earlier
    · rw [mem_singleton.mp last]
      exact ⟨new, Function.update_self _ _ _, running⟩

theorem erase (registry : Registry active keys entry) (key : Key) (value : Option Entry) :
    Registry active (keys.erase key) (Function.update entry key value) := by
  have fewer : Registry active (keys.erase key) entry :=
    ⟨registry.distinct.erase key, fun other member =>
      registry.held other (mem_of_mem_erase member)⟩
  exact fewer.fresh registry.distinct.not_mem_erase value

end Registry

variable {settings : StreamSettings} {hub after : Hub Client Listener Tenant}
  {event : ChannelEvent Client Listener Tenant}

private theorem Listed.sockets (listed : hub.Listed) :
    Registry (fun socket => socket.phase.connected = true) hub.connections hub.sockets :=
  ⟨listed.clients, listed.connected⟩

private theorem Listed.streams (listed : hub.Listed) :
    Registry (fun stream => stream.phase = .registered) hub.sseListeners hub.streams :=
  ⟨listed.listeners, listed.registered⟩

private theorem Listed.of_registries
    (sockets : Registry (fun socket => socket.phase.connected = true) hub.connections hub.sockets)
    (streams : Registry (fun stream => stream.phase = .registered) hub.sseListeners hub.streams) :
    hub.Listed :=
  ⟨sockets.distinct, sockets.held, streams.distinct, streams.held⟩

variable [DecidableEq Client] [DecidableEq Listener]

private theorem Listed.deliver (listed : hub.Listed) (message : Message Tenant)
    (remaining dead : List Client) : (hub.deliver message remaining dead).Listed := by
  have fewer := deliver_connections hub message remaining dead
  constructor
  case clients => exact listed.clients.sublist fewer
  case connected =>
    intro client member
    rw [deliver_sockets]
    exact listed.connected client (fewer.subset member)
  case listeners =>
    rw [deliver_sseListeners]
    exact listed.listeners
  case registered =>
    intro listener member
    rw [deliver_sseListeners] at member
    obtain ⟨stream, known, registered⟩ := listed.registered listener member
    rw [deliver_streams hub message remaining dead listed.listeners, known]
    split
    · exact ⟨_, rfl, registered⟩
    · exact ⟨stream, rfl, registered⟩

section

omit [DecidableEq Listener]

private theorem Listed.setSocket (listed : hub.Listed) {client : Client}
    {socket later : Socket Tenant} (known : hub.sockets client = some socket)
    (kept : socket.phase.connected = true → later.phase.connected = true) :
    (hub.setSocket client later).Listed :=
  .of_registries (listed.sockets.update known kept) listed.streams

theorem Listed.receive (listed : hub.Listed) (client : Client) (path : DeliveryPath)
    (message : Message Tenant) : (hub.receive client path message).Listed := by
  unfold Hub.receive
  split
  · exact listed
  · rename_i socket known
    exact listed.setSocket known id

end

section

omit [DecidableEq Client]

private theorem Listed.setStream (listed : hub.Listed) {listener : Listener}
    {stream later : SseStream Tenant} (known : hub.streams listener = some stream)
    (kept : stream.phase = .registered → later.phase = .registered) :
    (hub.setStream listener later).Listed :=
  .of_registries listed.sockets (listed.streams.update known kept)

private theorem Listed.unregister (listed : hub.Listed) (listener : Listener)
    (stream : SseStream Tenant) : (hub.unregisterSseListener listener stream).Listed :=
  .of_registries listed.sockets (listed.streams.erase listener _)

end

theorem Listed.step (listed : hub.Listed) (step : HubStep settings hub event after) :
    after.Listed := by
  cases step with
  | resumed flight | failed flight => exact listed.deliver _ _ _
  | @sent number message client remaining dead flight =>
      exact (listed.receive client .live message).deliver message remaining dead
  | @opened client tenant phase unknown opening =>
      have idle : client ∉ hub.connections := by
        apply listed.sockets.absent
        intro socket there
        cases unknown.symm.trans there
      exact .of_registries (listed.sockets.fresh idle _) listed.streams
  | resolved known resolving decided =>
      refine listed.setSocket known ?_
      rw [resolving]
      exact nofun
  | @accepted client socket known accepting =>
      have idle : client ∉ hub.connections := by
        apply listed.sockets.absent
        intro own there
        cases known.symm.trans there
        rw [accepting]
        exact nofun
      exact .of_registries (listed.sockets.concat idle rfl) listed.streams
  | began known registered | readStore known reading | interrupted known replaying =>
      exact listed.setSocket known fun _ => rfl
  | @resumedReplay client socket events known read =>
      rw [replay_eq]
      refine listed.setSocket known fun _ => ?_
      generalize (if events.isEmpty then hub.eventBuffer else events) = pending
      cases pending with
      | nil => rfl
      | cons event remaining => rfl
  | @replayed client socket event remaining known replaying =>
      rw [replay_eq]
      refine listed.setSocket known fun _ => ?_
      cases remaining with
      | nil => rfl
      | cons event remaining => rfl
  | @closed client socket known =>
      exact .of_registries (listed.sockets.erase client _) listed.streams
  | @streamOpened listener tenant phase unknown opening =>
      have idle : listener ∉ hub.sseListeners := by
        apply listed.streams.absent
        intro stream there
        cases unknown.symm.trans there
      exact .of_registries listed.sockets (listed.streams.fresh idle _)
  | streamResolved known resolving decided =>
      refine listed.setStream known ?_
      rw [resolving]
      exact nofun
  | @streamRegistered listener stream known admitted =>
      have idle : listener ∉ hub.sseListeners := by
        apply listed.streams.absent
        intro own there
        cases known.symm.trans there
        rw [admitted]
        exact nofun
      exact .of_registries listed.sockets (listed.streams.concat idle rfl)
  | streamYielded known registered waiting open_ended =>
      exact listed.setStream known fun _ => registered
  | streamEnded known registered waiting last | streamClosed known => exact listed.unregister _ _
  | called | appended | cleared | storeCleared | idle =>
      exact ⟨listed.clients, listed.connected, listed.listeners, listed.registered⟩

end

end Hub

end AgenticRuntime
