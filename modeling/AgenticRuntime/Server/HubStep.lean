/-
What an event of a run id can do to its broadcasts and their receivers.
-/

import AgenticRuntime.Server.ConnectionManager

namespace AgenticRuntime

open List Function Option

section

variable {Client Listener Tenant : Type} [DecidableEq Client] [DecidableEq Listener]

namespace Hub

variable (hub : Hub Client Listener Tenant) (message : Message Tenant)

variable (settings : StreamSettings)

section

omit [DecidableEq Client] [DecidableEq Listener]

theorem broadcast_flights (number : Nat) :
    (hub.broadcast settings message).flights number =
      if number = message.number then some { message := message, phase := .appending }
      else hub.flights number :=
  update_apply _ _ _ _

theorem broadcast_log_length :
    (hub.broadcast settings message).log.length = hub.log.length + 1 :=
  length_append

theorem append_flights (success : Bool) (number : Nat) :
    (hub.append settings message success).flights number =
      if number = message.number then some { message := message, phase := .appended }
      else hub.flights number :=
  update_apply _ _ _ _

theorem append_stored (success : Bool) :
    (hub.append settings message success).stored =
      if success then pushBounded settings.maxEvents hub.stored message else hub.stored :=
  rfl

end

section

omit [DecidableEq Listener]

theorem replay_eq (client : Client) (socket : Socket Tenant) (remaining : List (Message Tenant)) :
    hub.replay client socket remaining = hub.setSocket client { socket with
      phase := if remaining = [] then .live else .replaying remaining } := by
  cases remaining with
  | nil => rfl
  | cons event remaining => rfl

theorem receive_eq (client : Client) (path : DeliveryPath) : hub.receive client path message =
    { hub with
      sockets := update hub.sockets client ((hub.sockets client).map fun socket =>
        { socket with received := socket.received ++ [(path, message)] }) } := by
  unfold receive
  split
  · rename_i unknown
    rw [unknown, map_none, ← unknown, update_eq_self]
  · rename_i socket known
    rw [known]
    rfl

theorem receive_sockets_self (client : Client) (path : DeliveryPath) :
    (hub.receive client path message).sockets client = (hub.sockets client).map fun socket =>
      { socket with received := socket.received ++ [(path, message)] } := by
  rw [receive_eq]
  exact update_self _ _ _

theorem receive_sockets_of_ne {client other : Client} (different : other ≠ client)
    (path : DeliveryPath) :
    (hub.receive client path message).sockets other = hub.sockets other := by
  rw [receive_eq]
  exact update_of_ne different _ _

theorem foldl_disconnect (dead : List Client) :
    dead.foldl disconnect hub = { hub with connections := dead.foldl List.erase hub.connections } := by
  induction dead generalizing hub with
  | nil => rfl
  | cons client dead ih => exact ih (hub.disconnect client)

end

omit [DecidableEq Client] in
theorem foldl_putNowait (listeners : List Listener) : ∃ streams,
    listeners.foldl (putNowait message) hub = { hub with streams := streams } := by
  induction listeners generalizing hub with
  | nil => exact ⟨hub.streams, rfl⟩
  | cons listener listeners ih =>
      obtain ⟨streams, same⟩ := ih (hub.putNowait message listener)
      refine ⟨streams, same.trans ?_⟩
      unfold putNowait
      split
      · rfl
      · rfl

theorem finishBroadcast_eq (dead : List Client) : ∃ streams,
    hub.finishBroadcast message dead = { hub with
      connections := dead.foldl List.erase hub.connections
      streams := streams
      flights := update hub.flights message.number none } := by
  rw [finishBroadcast, foldl_disconnect]
  obtain ⟨streams, same⟩ := foldl_putNowait
    ({ hub with connections := dead.foldl List.erase hub.connections }) message hub.sseListeners
  refine ⟨streams, ?_⟩
  change (hub.sseListeners.foldl (putNowait message) _).setFlight message.number none = _
  rw [same]
  rfl

variable (remaining dead : List Client)

theorem deliver_eq : ∃ streams, hub.deliver message remaining dead = { hub with
    connections := if remaining = [] then dead.foldl List.erase hub.connections else hub.connections
    streams := streams
    flights := update hub.flights message.number
      (if remaining = [] then none
        else some { message := message, phase := .sending remaining dead }) } := by
  cases remaining with
  | nil => exact finishBroadcast_eq hub message dead
  | cons client remaining => exact ⟨hub.streams, rfl⟩

@[simp]
theorem deliver_sockets : (hub.deliver message remaining dead).sockets = hub.sockets := by
  obtain ⟨streams, same⟩ := deliver_eq hub message remaining dead
  rw [same]

@[simp]
theorem deliver_log : (hub.deliver message remaining dead).log = hub.log := by
  obtain ⟨streams, same⟩ := deliver_eq hub message remaining dead
  rw [same]

@[simp]
theorem deliver_stored : (hub.deliver message remaining dead).stored = hub.stored := by
  obtain ⟨streams, same⟩ := deliver_eq hub message remaining dead
  rw [same]

@[simp]
theorem deliver_eventBuffer :
    (hub.deliver message remaining dead).eventBuffer = hub.eventBuffer := by
  obtain ⟨streams, same⟩ := deliver_eq hub message remaining dead
  rw [same]

@[simp]
theorem deliver_sseListeners :
    (hub.deliver message remaining dead).sseListeners = hub.sseListeners := by
  obtain ⟨streams, same⟩ := deliver_eq hub message remaining dead
  rw [same]

theorem deliver_flights : (hub.deliver message remaining dead).flights =
    update hub.flights message.number
      (if remaining = [] then none
        else some { message := message, phase := .sending remaining dead }) := by
  obtain ⟨streams, same⟩ := deliver_eq hub message remaining dead
  rw [same]

omit [DecidableEq Client] in
theorem foldl_putNowait_streams {listeners : List Listener} (distinct : listeners.Nodup)
    (listener : Listener) : (listeners.foldl (putNowait message) hub).streams listener =
      if listener ∈ listeners then (hub.streams listener).map fun stream =>
        { stream with queue := stream.queue ++ [message] }
      else hub.streams listener := by
  induction listeners generalizing hub with
  | nil => rfl
  | cons first rest ih =>
      obtain ⟨fresh, others⟩ := nodup_cons.mp distinct
      rw [foldl_cons, ih (putNowait message hub first) others]
      have first_only : (putNowait message hub first).streams listener =
          if listener = first then (hub.streams listener).map fun stream =>
            { stream with queue := stream.queue ++ [message] }
          else hub.streams listener := by
        unfold putNowait
        split
        · rename_i unknown
          split
          · rename_i same
            rw [same, unknown]
            rfl
          · rfl
        · rename_i stream known
          by_cases same : listener = first
          · rw [if_pos same, same, known]
            exact update_self _ _ _
          · rw [if_neg same]
            exact update_of_ne same _ _
      rw [first_only]
      by_cases same : listener = first
      · subst same
        simp [fresh]
      · simp [same]

theorem deliver_streams (distinct : hub.sseListeners.Nodup) (listener : Listener) :
    (hub.deliver message remaining dead).streams listener =
      if remaining = [] ∧ listener ∈ hub.sseListeners then
        (hub.streams listener).map fun stream =>
          { stream with queue := stream.queue ++ [message] }
      else hub.streams listener := by
  cases remaining with
  | nil =>
      change (hub.finishBroadcast message dead).streams listener = _
      rw [finishBroadcast, foldl_disconnect]
      change (hub.sseListeners.foldl (putNowait message) _).streams listener = _
      rw [foldl_putNowait_streams _ message distinct listener]
      simp
  | cons client remaining => simp [deliver, setFlight]

private theorem erased_sublist (clients connections : List Client) :
    (clients.foldl List.erase connections).Sublist connections := by
  induction clients generalizing connections with
  | nil => exact List.Sublist.refl connections
  | cons client clients ih => exact (ih (connections.erase client)).trans List.erase_sublist

theorem deliver_connections :
    (hub.deliver message remaining dead).connections.Sublist hub.connections := by
  obtain ⟨streams, same⟩ := deliver_eq hub message remaining dead
  rw [same]
  change (if _ then _ else _ : List Client).Sublist _
  split
  · exact erased_sublist dead hub.connections
  · exact List.Sublist.refl hub.connections

private theorem mem_erased {client : Client} {clients connections : List Client}
    (member : client ∈ connections) (alive : client ∉ clients) :
    client ∈ clients.foldl List.erase connections := by
  induction clients generalizing connections with
  | nil => exact member
  | cons other clients ih =>
      have different : client ≠ other := fun same => alive (same ▸ mem_cons_self)
      exact ih ((mem_erase_of_ne different).mpr member)
        fun later => alive (mem_cons_of_mem other later)

theorem mem_deliver_connections {client : Client} (member : client ∈ hub.connections)
    (alive : client ∉ dead) : client ∈ (hub.deliver message remaining dead).connections := by
  obtain ⟨streams, same⟩ := deliver_eq hub message remaining dead
  rw [same]
  change client ∈ (if _ then _ else _ : List Client)
  split
  · exact mem_erased member alive
  · exact member

end Hub

end

section

variable {Client Listener Tenant : Type} [DecidableEq Client] [DecidableEq Listener]

/-- The endpoint has been through `connect`. -/
def SocketPhase.connected {Tenant : Type} : SocketPhase Tenant → Bool
  | .resolving | .accepting | .closed => false
  | .registered | .reading | .read _ | .replaying _ | .live => true

def SocketPhase.pending {Tenant : Type} : SocketPhase Tenant → List (Message Tenant)
  | .read events => events
  | .replaying remaining => remaining
  | _ => []

/-- One constructor a kind of change; `idle` are the events that leave the hub
alone. -/
inductive HubStep (settings : StreamSettings) (hub : Hub Client Listener Tenant) :
    ChannelEvent Client Listener Tenant → Hub Client Listener Tenant → Prop where
  | called {run : Nat} {message : Message Tenant} (numbered : message.number = hub.log.length) :
      HubStep settings hub (.broadcast run message.type message.evaluationEnabled)
        (hub.broadcast settings message)
  | appended {number : Nat} {message : Message Tenant} {success : Bool}
      (flight : hub.flights number = some { message := message, phase := .appending }) :
      HubStep settings hub (.stored number success) (hub.append settings message success)
  | resumed {number : Nat} {message : Message Tenant}
      (flight : hub.flights number = some { message := message, phase := .appended }) :
      HubStep settings hub (.resumeBroadcast number) (hub.deliver message hub.connections [])
  | sent {number : Nat} {message : Message Tenant} {client : Client} {remaining dead : List Client}
      (flight : hub.flights number =
        some { message := message, phase := .sending (client :: remaining) dead }) :
      HubStep settings hub (.sent number client true)
        ((hub.receive client .live message).deliver message remaining dead)
  | failed {number : Nat} {message : Message Tenant} {client : Client}
      {remaining dead : List Client}
      (flight : hub.flights number =
        some { message := message, phase := .sending (client :: remaining) dead }) :
      HubStep settings hub (.sent number client false)
        (hub.deliver message remaining (dead ++ [client]))
  | opened {client : Client} {tenant : Tenant} {phase : SocketPhase Tenant}
      (fresh : hub.sockets client = none)
      (opening : phase = .resolving ∨ phase = .accepting ∨ phase = .closed) :
      HubStep settings hub (.openSocket client tenant)
        (hub.setSocket client { tenant := tenant, phase := phase })
  | resolved {client : Client} {socket : Socket Tenant} {phase : SocketPhase Tenant}
      (known : hub.sockets client = some socket) (resolving : socket.phase = .resolving)
      (decided : phase = .accepting ∨ phase = .closed) :
      HubStep settings hub (.resolveSocket client)
        (hub.setSocket client { socket with phase := phase })
  | accepted {client : Client} {socket : Socket Tenant}
      (known : hub.sockets client = some socket) (accepting : socket.phase = .accepting) :
      HubStep settings hub (.accepted client) (hub.connect client socket)
  | began {client : Client} {socket : Socket Tenant}
      (known : hub.sockets client = some socket) (registered : socket.phase = .registered) :
      HubStep settings hub (.beginReplay client)
        (hub.setSocket client { socket with phase := .reading })
  | readStore {client : Client} {socket : Socket Tenant} {success : Bool}
      (known : hub.sockets client = some socket) (reading : socket.phase = .reading) :
      HubStep settings hub (.readStore client success)
        (hub.setSocket client { socket with phase := .read (if success then hub.stored else []) })
  | resumedReplay {client : Client} {socket : Socket Tenant} {events : List (Message Tenant)}
      (known : hub.sockets client = some socket) (read : socket.phase = .read events) :
      HubStep settings hub (.resumeReplay client)
        (hub.replay client socket (if events.isEmpty then hub.eventBuffer else events))
  | replayed {client : Client} {socket : Socket Tenant} {event : Message Tenant}
      {remaining : List (Message Tenant)} (known : hub.sockets client = some socket)
      (replaying : socket.phase = .replaying (event :: remaining)) :
      HubStep settings hub (.replayed client true)
        (hub.replay client { socket with received := socket.received ++ [(.replay, event)] }
          remaining)
  | interrupted {client : Client} {socket : Socket Tenant} {event : Message Tenant}
      {remaining : List (Message Tenant)} (known : hub.sockets client = some socket)
      (replaying : socket.phase = .replaying (event :: remaining)) :
      HubStep settings hub (.replayed client false)
        (hub.setSocket client { socket with phase := .live })
  | closed {client : Client} {socket : Socket Tenant} (known : hub.sockets client = some socket) :
      HubStep settings hub (.closeSocket client)
        ((hub.setSocket client { socket with phase := .closed }).disconnect client)
  | streamOpened {listener : Listener} {tenant : Tenant} {phase : StreamPhase}
      (fresh : hub.streams listener = none)
      (opening : phase = .resolving ∨ phase = .admitted ∨ phase = .closed) :
      HubStep settings hub (.openStream listener tenant)
        (hub.setStream listener { tenant := tenant, phase := phase })
  | streamResolved {listener : Listener} {stream : SseStream Tenant} {phase : StreamPhase}
      (known : hub.streams listener = some stream) (resolving : stream.phase = .resolving)
      (decided : phase = .admitted ∨ phase = .closed) :
      HubStep settings hub (.resolveStream listener)
        (hub.setStream listener { stream with phase := phase })
  | streamRegistered {listener : Listener} {stream : SseStream Tenant}
      (known : hub.streams listener = some stream) (admitted : stream.phase = .admitted) :
      HubStep settings hub (.registerStream listener) (hub.registerSseListener listener stream)
  | streamYielded {listener : Listener} {stream : SseStream Tenant} {event : Message Tenant}
      {queue : List (Message Tenant)} (known : hub.streams listener = some stream)
      (registered : stream.phase = .registered) (waiting : stream.queue = event :: queue)
      (open_ended : event.isTerminalStreamEvent = false) :
      HubStep settings hub (.takeEvent listener)
        (hub.setStream listener { stream with queue := queue, sent := stream.sent ++ [event] })
  | streamEnded {listener : Listener} {stream : SseStream Tenant} {event : Message Tenant}
      {queue : List (Message Tenant)} (known : hub.streams listener = some stream)
      (registered : stream.phase = .registered) (waiting : stream.queue = event :: queue)
      (last : event.isTerminalStreamEvent = true) :
      HubStep settings hub (.takeEvent listener)
        (hub.unregisterSseListener listener
          { stream with queue := queue, sent := stream.sent ++ [event] })
  | streamClosed {listener : Listener} {stream : SseStream Tenant}
      (known : hub.streams listener = some stream) :
      HubStep settings hub (.closeStream listener) (hub.unregisterSseListener listener stream)
  | cleared (id : Nat) : HubStep settings hub (.fireTimer id) { hub with eventBuffer := [] }
  | storeCleared : HubStep settings hub (.storeCleared true) { hub with stored := [] }
  | idle (event : ChannelEvent Client Listener Tenant) : HubStep settings hub event hub

end

namespace RunChannel

variable {Client Listener Tenant : Type} [DecidableEq Client] [DecidableEq Listener]
  [DecidableEq Tenant] {settings : StreamSettings} {channel after : RunChannel Client Listener Tenant}

section

omit [DecidableEq Client] [DecidableEq Listener] [DecidableEq Tenant]

theorem onHub_some {hub : Option (Hub Client Listener Tenant)}
    (taken : channel.onHub hub = some after) :
    ∃ own, hub = some own ∧ after = { channel with hub := own } := by
  obtain ⟨own, known, same⟩ := map_eq_some_iff.mp taken
  exact ⟨own, known, same.symm⟩

theorem onOwnership_some {ownership : Option (Ownership Tenant)}
    (taken : channel.onOwnership ownership = some after) :
    ∃ own, ownership = some own ∧ after = { channel with ownership := own } := by
  obtain ⟨own, known, same⟩ := map_eq_some_iff.mp taken
  exact ⟨own, known, same.symm⟩

theorem onRetention_some {retention : Option Retention}
    (taken : channel.onRetention retention = some after) :
    ∃ own, retention = some own ∧ after = { channel with retention := own } := by
  obtain ⟨own, known, same⟩ := map_eq_some_iff.mp taken
  exact ⟨own, known, same.symm⟩

end

section

omit [DecidableEq Client] [DecidableEq Listener]

private theorem openingSocket_cases (channel : RunChannel Client Listener Tenant) (tenant : Tenant) :
    channel.openingSocket tenant = .resolving ∨ channel.openingSocket tenant = .accepting ∨
      channel.openingSocket tenant = .closed := by
  unfold openingSocket
  split
  · exact .inl rfl
  · exact .inr (.inl rfl)
  · exact .inr (.inr rfl)

private theorem openingStream_cases (channel : RunChannel Client Listener Tenant) (tenant : Tenant) :
    channel.openingStream tenant = .resolving ∨ channel.openingStream tenant = .admitted ∨
      channel.openingStream tenant = .closed := by
  unfold openingStream
  split
  · exact .inl rfl
  · exact .inr (.inl rfl)
  · exact .inr (.inr rfl)

end

omit [DecidableEq Client] [DecidableEq Listener] [DecidableEq Tenant] in
private theorem onSocket_some {client : Client}
    {step : Socket Tenant → Option (Hub Client Listener Tenant)}
    (taken : channel.onHub (channel.hub.advanceSocket client step) = some after) :
    ∃ socket own, channel.hub.sockets client = some socket ∧ step socket = some own ∧
      after = { channel with hub := own } := by
  obtain ⟨own, known, same⟩ := onHub_some taken
  obtain ⟨socket, present, stepped⟩ := bind_eq_some_iff.mp known
  exact ⟨socket, own, present, stepped, same⟩

theorem take_hub {event : ChannelEvent Client Listener Tenant}
    (taken : channel.take settings event = some after) :
    HubStep settings channel.hub event after.hub := by
  cases event with
  | submit tenant | persist tenant =>
      cases taken
      exact .idle _
  | startRun run | finishRun run =>
      obtain ⟨own, known, same⟩ := onOwnership_some taken
      subst same
      exact .idle _
  | broadcast run type evaluationEnabled =>
      simp only [take] at taken
      split at taken
      · rename_i owner _
        cases taken
        let message : Message Tenant := {
          number := channel.hub.log.length
          tenant := owner
          type := type
          evaluationEnabled := evaluationEnabled }
        have numbered : message.number = channel.hub.log.length := rfl
        exact .called numbered
      · cases taken
  | stored number success =>
      simp only [take] at taken
      split at taken
      · rename_i message flight
        cases taken
        exact .appended flight
      · cases taken
  | resumeBroadcast number =>
      simp only [take] at taken
      split at taken
      · rename_i message flight
        cases taken
        exact .resumed flight
      · cases taken
  | sent number client success =>
      simp only [take] at taken
      split at taken
      · rename_i message target remaining dead flight
        split at taken
        · rename_i same
          subst same
          cases success with
          | true =>
              cases taken
              exact .sent flight
          | false =>
              cases taken
              exact .failed flight
        · cases taken
      · cases taken
  | openSocket client tenant =>
      simp only [take] at taken
      split at taken
      · rename_i fresh
        cases taken
        exact .opened fresh (openingSocket_cases channel tenant)
      · cases taken
  | resolveSocket client =>
      obtain ⟨socket, own, known, stepped, same⟩ := onSocket_some taken
      subst same
      split at stepped
      · rename_i resolving
        cases stepped
        refine .resolved known resolving ?_
        split
        · exact .inl rfl
        · exact .inr rfl
      · cases stepped
  | accepted client =>
      obtain ⟨socket, own, known, stepped, same⟩ := onSocket_some taken
      subst same
      split at stepped
      · rename_i accepting
        cases stepped
        exact .accepted known accepting
      · cases stepped
  | beginReplay client =>
      obtain ⟨socket, own, known, stepped, same⟩ := onSocket_some taken
      subst same
      split at stepped
      · rename_i registered
        cases stepped
        exact .began known registered
      · cases stepped
  | readStore client success =>
      obtain ⟨socket, own, known, stepped, same⟩ := onSocket_some taken
      subst same
      split at stepped
      · rename_i reading
        cases stepped
        exact .readStore known reading
      · cases stepped
  | resumeReplay client =>
      obtain ⟨socket, own, known, stepped, same⟩ := onSocket_some taken
      subst same
      split at stepped
      · rename_i events read
        cases stepped
        exact .resumedReplay known read
      · cases stepped
  | replayed client success =>
      obtain ⟨socket, own, known, stepped, same⟩ := onSocket_some taken
      subst same
      split at stepped
      · rename_i message remaining replaying
        cases success with
        | true =>
            cases stepped
            exact .replayed known replaying
        | false =>
            cases stepped
            exact .interrupted known replaying
      · cases stepped
  | closeSocket client =>
      obtain ⟨socket, own, known, stepped, same⟩ := onSocket_some taken
      subst same
      split at stepped
      · cases stepped
      · cases stepped
        exact .closed known
  | openStream listener tenant =>
      simp only [take] at taken
      split at taken
      · rename_i fresh
        cases taken
        exact .streamOpened fresh (openingStream_cases channel tenant)
      · cases taken
  | resolveStream listener =>
      obtain ⟨own, known, same⟩ := onHub_some taken
      obtain ⟨stream, present, stepped⟩ := bind_eq_some_iff.mp known
      subst same
      split at stepped
      · rename_i resolving
        cases stepped
        refine .streamResolved present resolving ?_
        split
        · exact .inl rfl
        · exact .inr rfl
      · cases stepped
  | registerStream listener =>
      obtain ⟨own, known, same⟩ := onHub_some taken
      obtain ⟨stream, present, stepped⟩ := bind_eq_some_iff.mp known
      subst same
      split at stepped
      · rename_i admitted
        cases stepped
        exact .streamRegistered present admitted
      · cases stepped
  | takeEvent listener =>
      obtain ⟨own, known, same⟩ := onHub_some taken
      obtain ⟨stream, present, stepped⟩ := bind_eq_some_iff.mp known
      subst same
      split at stepped
      · rename_i message queue registered waiting
        cases stepped
        split
        · rename_i last
          exact .streamEnded present registered waiting last
        · rename_i open_ended
          exact .streamYielded present registered waiting (Bool.eq_false_iff.mpr open_ended)
      · cases stepped
  | closeStream listener =>
      obtain ⟨own, known, same⟩ := onHub_some taken
      obtain ⟨stream, present, stepped⟩ := bind_eq_some_iff.mp known
      subst same
      split at stepped
      · cases stepped
      · cases stepped
        exact .streamClosed present
  | startTimer id | cancelTimer id | timerDone id =>
      obtain ⟨own, known, same⟩ := onRetention_some taken
      subst same
      exact .idle _
  | fireTimer id =>
      obtain ⟨fired, took, same⟩ := map_eq_some_iff.mp taken
      obtain ⟨own, known, equal⟩ := onRetention_some took
      subst same
      subst equal
      exact .cleared id
  | storeCleared success =>
      simp only [take] at taken
      split at taken
      · cases taken
      · cases taken
        cases success with
        | true => exact .storeCleared
        | false => exact .idle _

theorem next_take {event : Nat × ChannelEvent Client Listener Tenant}
    (taken : channel.next settings event = some after) : channel.clock ≤ event.1 ∧
      ({ channel with clock := event.1 } : RunChannel Client Listener Tenant).take settings
        event.2 = some after := by
  simp only [next] at taken
  split at taken
  · rename_i later
    exact ⟨later, taken⟩
  · cases taken

theorem next_hub {event : Nat × ChannelEvent Client Listener Tenant}
    (taken : channel.next settings event = some after) :
    HubStep settings channel.hub event.2 after.hub := by
  have step := take_hub (next_take taken).2
  exact step

end RunChannel

end AgenticRuntime
