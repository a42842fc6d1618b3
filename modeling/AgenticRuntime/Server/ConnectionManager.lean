/-
`ConnectionManager`, as the entries of its maps under one run id.

Each `await` ends an event, so the coroutines of the broadcasts, of the sockets
and of the timers interleave at every one of them. A command of the store is two
events, its effect and the resumption of the coroutine that awaits it.
-/

import AgenticRuntime.Server.ReplayStore
import AgenticRuntime.Server.Retention
import AgenticRuntime.Transition

namespace AgenticRuntime

open Function

/-- `delay` is the resolved `replay_store_retention_seconds`. -/
structure StreamSettings where
  maxBufferSize : Nat := 500
  maxEvents : Nat := 500
  delay : Nat := 3600

/-- Where `broadcast` awaits. `remaining` is what is left of the snapshot of the
connection list, its head being sent to. -/
inductive FlightPhase (Client : Type) where
  | appending
  | appended
  | sending (remaining dead : List Client)
  deriving DecidableEq

structure Flight (Client Tenant : Type) where
  message : Message Tenant
  phase : FlightPhase Client

/-- Where `websocket_endpoint` is, from the ownership check on. `resolving` looks
for a run record, `accepting` awaits `accept`, and `registered` may still send
the trace context before it reads the store. -/
inductive SocketPhase (Tenant : Type) where
  | resolving
  | accepting
  | registered
  | reading
  | read (events : List (Message Tenant))
  | replaying (remaining : List (Message Tenant))
  | live
  | closed
  deriving DecidableEq

inductive DeliveryPath where
  | live
  | replay
  deriving DecidableEq, Repr

structure Socket (Tenant : Type) where
  tenant : Tenant
  phase : SocketPhase Tenant
  received : List (DeliveryPath × Message Tenant) := []

/-- Where `stream_run_events` and its generator are. -/
inductive StreamPhase where
  | resolving
  | admitted
  | registered
  | closed
  deriving DecidableEq, Repr

structure SseStream (Tenant : Type) where
  tenant : Tenant
  phase : StreamPhase
  queue : List (Message Tenant) := []
  sent : List (Message Tenant) := []

/-- What the broadcasts and their receivers share. `log` is every message that
has been broadcast, which no code reads. -/
structure Hub (Client Listener Tenant : Type) where
  connections : List Client := []
  sockets : Client → Option (Socket Tenant) := fun _ => none
  sseListeners : List Listener := []
  streams : Listener → Option (SseStream Tenant) := fun _ => none
  eventBuffer : List (Message Tenant) := []
  stored : List (Message Tenant) := []
  flights : Nat → Option (Flight Client Tenant) := fun _ => none
  log : List (Message Tenant) := []

/-- A background task of `run_workflow`. -/
structure RunTask (Tenant : Type) where
  tenant : Tenant
  started : Bool

/-- `records` are the tenants in whose own store a record of the run id exists. -/
structure Ownership (Tenant : Type) where
  runTenant : Option Tenant := none
  records : List Tenant := []
  runs : Nat → Option (RunTask Tenant) := fun _ => none
  submissions : Nat := 0

/-- `storeClears` counts the `_clear_store` tasks that have not reached the store. -/
structure RunChannel (Client Listener Tenant : Type) where
  clock : Nat := 0
  hub : Hub Client Listener Tenant := {}
  ownership : Ownership Tenant := {}
  retention : Retention := {}
  storeClears : Nat := 0

inductive ChannelEvent (Client Listener Tenant : Type) where
  | submit (tenant : Tenant)
  | startRun (run : Nat)
  | finishRun (run : Nat)
  | persist (tenant : Tenant)
  | broadcast (run : Nat) (type : EventType) (evaluationEnabled : Bool)
  | stored (number : Nat) (success : Bool)
  | resumeBroadcast (number : Nat)
  | sent (number : Nat) (client : Client) (success : Bool)
  | openSocket (client : Client) (tenant : Tenant)
  | resolveSocket (client : Client)
  | accepted (client : Client)
  | beginReplay (client : Client)
  | readStore (client : Client) (success : Bool)
  | resumeReplay (client : Client)
  | replayed (client : Client) (success : Bool)
  | closeSocket (client : Client)
  | openStream (listener : Listener) (tenant : Tenant)
  | resolveStream (listener : Listener)
  | registerStream (listener : Listener)
  | takeEvent (listener : Listener)
  | closeStream (listener : Listener)
  | startTimer (id : Nat)
  | fireTimer (id : Nat)
  | cancelTimer (id : Nat)
  | timerDone (id : Nat)
  | storeCleared (success : Bool)

section

variable {Tenant : Type} [DecidableEq Tenant]

namespace Ownership

variable (ownership : Ownership Tenant)

/-- `bind_run_tenant`: `setdefault`, and whether the owner is the caller. -/
def bindRunTenant (tenant : Tenant) : Ownership Tenant × Bool :=
  let owner := ownership.runTenant.getD tenant
  ({ ownership with runTenant := some owner }, owner = tenant)

/-- The end of `run_workflow`: a refused submit is a 409. -/
def submit (tenant : Tenant) : Ownership Tenant :=
  let bound := ownership.bindRunTenant tenant
  if bound.2 then
    { bound.1 with
      runs := update bound.1.runs bound.1.submissions
        (some { tenant := tenant, started := false })
      submissions := bound.1.submissions + 1 }
  else bound.1

/-- `_run_and_evaluate` binds again and does not look at the answer. -/
def startRun (run : Nat) : Option (Ownership Tenant) :=
  match ownership.runs run with
  | some { tenant := tenant, started := false } =>
      some { (ownership.bindRunTenant tenant).1 with
        runs := update ownership.runs run (some { tenant := tenant, started := true }) }
  | _ => none

def finishRun (run : Nat) : Option (Ownership Tenant) :=
  match ownership.runs run with
  | some _ => some { ownership with runs := update ownership.runs run none }
  | none => none

end Ownership

end

namespace Hub

variable {Client Listener Tenant : Type} [DecidableEq Client] [DecidableEq Listener]
  (hub : Hub Client Listener Tenant)

variable (client : Client) (message : Message Tenant)

def setSocket (socket : Socket Tenant) :
    Hub Client Listener Tenant :=
  { hub with sockets := update hub.sockets client (some socket) }

def setStream (listener : Listener) (stream : SseStream Tenant) : Hub Client Listener Tenant :=
  { hub with streams := update hub.streams listener (some stream) }

def setFlight (number : Nat) (flight : Option (Flight Client Tenant)) :
    Hub Client Listener Tenant :=
  { hub with flights := update hub.flights number flight }

/-- The end of `connect` -/
def connect (socket : Socket Tenant) :
    Hub Client Listener Tenant :=
  { hub.setSocket client { socket with phase := .registered } with
    connections := hub.connections ++ [client] }

def disconnect :
    Hub Client Listener Tenant :=
  { hub with connections := hub.connections.erase client }

/-- `broadcast` up to the call of `append`. -/
def broadcast (settings : StreamSettings) (hub : Hub Client Listener Tenant)
    (message : Message Tenant) : Hub Client Listener Tenant :=
  { hub with
    eventBuffer := pushBounded settings.maxBufferSize hub.eventBuffer message
    flights := update hub.flights message.number
      (some { message := message, phase := .appending })
    log := hub.log ++ [message] }

/-- `append` has reached the store, or it has failed and the failure is logged. -/
def append (settings : StreamSettings) (hub : Hub Client Listener Tenant)
    (message : Message Tenant) (success : Bool) : Hub Client Listener Tenant :=
  { hub.setFlight message.number (some { message := message, phase := .appended }) with
    stored := if success then pushBounded settings.maxEvents hub.stored message else hub.stored }

/-- `queue.put_nowait` -/
def putNowait (hub : Hub Client Listener Tenant) (listener : Listener) :
    Hub Client Listener Tenant :=
  match hub.streams listener with
  | none => hub
  | some stream => hub.setStream listener { stream with queue := stream.queue ++ [message] }

/-- What is left of `broadcast` after its last send, the retention aside. -/
def finishBroadcast (dead : List Client) : Hub Client Listener Tenant :=
  let closed := dead.foldl disconnect hub
  (closed.sseListeners.foldl (putNowait message) closed).setFlight message.number none

def deliver :
    List Client → List Client → Hub Client Listener Tenant
  | [], dead => hub.finishBroadcast message dead
  | client :: remaining, dead => hub.setFlight message.number
      (some { message := message, phase := .sending (client :: remaining) dead })

/-- A `send_json` to the client has returned. -/
def receive (path : DeliveryPath) (message : Message Tenant) :
    Hub Client Listener Tenant :=
  match hub.sockets client with
  | none => hub
  | some socket => hub.setSocket client
      { socket with received := socket.received ++ [(path, message)] }

/-- The loop of `replay`. -/
def replay (socket : Socket Tenant) :
    List (Message Tenant) → Hub Client Listener Tenant
  | [] => hub.setSocket client { socket with phase := .live }
  | event :: remaining => hub.setSocket client
      { socket with phase := .replaying (event :: remaining) }

def registerSseListener (listener : Listener) (stream : SseStream Tenant) :
    Hub Client Listener Tenant :=
  { hub.setStream listener { stream with phase := .registered } with
    sseListeners := hub.sseListeners ++ [listener] }

/-- `unregister_sse_listener`, with which the generator ends. -/
def unregisterSseListener (listener : Listener) (stream : SseStream Tenant) :
    Hub Client Listener Tenant :=
  { hub.setStream listener { stream with phase := .closed } with
    sseListeners := hub.sseListeners.erase listener }

def advanceSocket (step : Socket Tenant → Option (Hub Client Listener Tenant)) :
    Option (Hub Client Listener Tenant) :=
  (hub.sockets client).bind step

end Hub

namespace RunChannel

variable {Client Listener Tenant : Type} [DecidableEq Client] [DecidableEq Listener]
  [DecidableEq Tenant]

variable (channel : RunChannel Client Listener Tenant)

def onHub (hub : Option (Hub Client Listener Tenant)) :
    Option (RunChannel Client Listener Tenant) :=
  hub.map fun after => { channel with hub := after }

def onOwnership (ownership : Option (Ownership Tenant)) :
    Option (RunChannel Client Listener Tenant) :=
  ownership.map fun after => { channel with ownership := after }

def onRetention (retention : Option Retention) : Option (RunChannel Client Listener Tenant) :=
  retention.map fun after => { channel with retention := after }

/-- Sends on, and after the last send schedules the clear of a terminal event. -/
def deliver (channel : RunChannel Client Listener Tenant) (message : Message Tenant)
    (remaining dead : List Client) : RunChannel Client Listener Tenant :=
  { channel with
    hub := channel.hub.deliver message remaining dead
    retention :=
      if remaining.isEmpty && message.terminal then
        channel.retention.scheduleDelayedClear channel.clock
      else channel.retention }

def clearBuffer :
    RunChannel Client Listener Tenant :=
  { channel with
    hub := { channel.hub with eventBuffer := [] }
    ownership := { channel.ownership with runTenant := none }
    storeClears := channel.storeClears + 1 }

/-- The first half of `is_run_accessible`, the look at `_run_tenants`: `none` when
the run is not bound and its record decides. -/
def ownerAllows (tenant : Tenant) : Option Bool :=
  channel.ownership.runTenant.map fun owner => owner = tenant

def hasRecord (tenant : Tenant) : Bool :=
  tenant ∈ channel.ownership.records

def openingSocket (tenant : Tenant) :
    SocketPhase Tenant :=
  match channel.ownerAllows tenant with
  | none => .resolving
  | some true => .accepting
  | some false => .closed

def openingStream (tenant : Tenant) :
    StreamPhase :=
  match channel.ownerAllows tenant with
  | none => .resolving
  | some true => .admitted
  | some false => .closed

def take (settings : StreamSettings) (channel : RunChannel Client Listener Tenant) :
    ChannelEvent Client Listener Tenant → Option (RunChannel Client Listener Tenant)
  | .submit tenant => channel.onOwnership (some (channel.ownership.submit tenant))
  | .startRun run => channel.onOwnership (channel.ownership.startRun run)
  | .finishRun run => channel.onOwnership (channel.ownership.finishRun run)
  | .persist tenant =>
      channel.onOwnership (some { channel.ownership with
        records := tenant :: channel.ownership.records })
  | .broadcast run type evaluationEnabled =>
      match channel.ownership.runs run with
      | some { tenant := tenant, started := true } =>
          channel.onHub (some (channel.hub.broadcast settings {
            number := channel.hub.log.length
            tenant := tenant
            type := type
            evaluationEnabled := evaluationEnabled }))
      | _ => none
  | .stored number success =>
      match channel.hub.flights number with
      | some { message := message, phase := .appending } =>
          channel.onHub (some (channel.hub.append settings message success))
      | _ => none
  | .resumeBroadcast number =>
      match channel.hub.flights number with
      | some { message := message, phase := .appended } =>
          some (channel.deliver message channel.hub.connections [])
      | _ => none
  | .sent number client success =>
      match channel.hub.flights number with
      | some { message := message, phase := .sending (target :: remaining) dead } =>
          if target = client then
            if success then
              some (({ channel with hub := channel.hub.receive client .live message } :
                RunChannel Client Listener Tenant).deliver message remaining dead)
            else some (channel.deliver message remaining (dead ++ [client]))
          else none
      | _ => none
  | .openSocket client tenant =>
      match channel.hub.sockets client with
      | none => channel.onHub (some (channel.hub.setSocket client
          { tenant := tenant, phase := channel.openingSocket tenant }))
      | some _ => none
  | .resolveSocket client =>
      channel.onHub (channel.hub.advanceSocket client fun socket =>
        match socket.phase with
        | .resolving => some (channel.hub.setSocket client { socket with
            phase := if channel.hasRecord socket.tenant then .accepting else .closed })
        | _ => none)
  | .accepted client =>
      channel.onHub (channel.hub.advanceSocket client fun socket =>
        match socket.phase with
        | .accepting => some (channel.hub.connect client socket)
        | _ => none)
  | .beginReplay client =>
      channel.onHub (channel.hub.advanceSocket client fun socket =>
        match socket.phase with
        | .registered => some (channel.hub.setSocket client { socket with phase := .reading })
        | _ => none)
  | .readStore client success =>
      channel.onHub (channel.hub.advanceSocket client fun socket =>
        match socket.phase with
        | .reading => some (channel.hub.setSocket client { socket with
            phase := .read (if success then channel.hub.stored else []) })
        | _ => none)
  | .resumeReplay client =>
      channel.onHub (channel.hub.advanceSocket client fun socket =>
        match socket.phase with
        | .read events => some (channel.hub.replay client socket
            (if events.isEmpty then channel.hub.eventBuffer else events))
        | _ => none)
  | .replayed client success =>
      channel.onHub (channel.hub.advanceSocket client fun socket =>
        match socket.phase with
        | .replaying (event :: remaining) =>
            some (if success then
              channel.hub.replay client
                { socket with received := socket.received ++ [(.replay, event)] } remaining
            else channel.hub.setSocket client { socket with phase := .live })
        | _ => none)
  | .closeSocket client =>
      channel.onHub (channel.hub.advanceSocket client fun socket =>
        match socket.phase with
        | .closed => none
        | _ => some ((channel.hub.setSocket client { socket with phase := .closed }).disconnect
            client))
  | .openStream listener tenant =>
      match channel.hub.streams listener with
      | none => channel.onHub (some (channel.hub.setStream listener
          { tenant := tenant, phase := channel.openingStream tenant }))
      | some _ => none
  | .resolveStream listener =>
      channel.onHub ((channel.hub.streams listener).bind fun stream =>
        match stream.phase with
        | .resolving => some (channel.hub.setStream listener { stream with
            phase := if channel.hasRecord stream.tenant then .admitted else .closed })
        | _ => none)
  | .registerStream listener =>
      channel.onHub ((channel.hub.streams listener).bind fun stream =>
        match stream.phase with
        | .admitted => some (channel.hub.registerSseListener listener stream)
        | _ => none)
  | .takeEvent listener =>
      channel.onHub ((channel.hub.streams listener).bind fun stream =>
        match stream.phase, stream.queue with
        | .registered, event :: queue =>
            let yielded := { stream with queue := queue, sent := stream.sent ++ [event] }
            some (if event.isTerminalStreamEvent then
              channel.hub.unregisterSseListener listener yielded
            else channel.hub.setStream listener yielded)
        | _, _ => none)
  | .closeStream listener =>
      channel.onHub ((channel.hub.streams listener).bind fun stream =>
        match stream.phase with
        | .closed => none
        | _ => some (channel.hub.unregisterSseListener listener stream))
  | .startTimer id =>
      channel.onRetention (channel.retention.startTimer settings.delay channel.clock id)
  | .fireTimer id =>
      (channel.onRetention (channel.retention.fireTimer channel.clock id)).map clearBuffer
  | .cancelTimer id => channel.onRetention (channel.retention.cancelTimer id)
  | .timerDone id => channel.onRetention (channel.retention.timerDone id)
  | .storeCleared success =>
      if channel.storeClears = 0 then none
      else some { channel with
        hub := if success then { channel.hub with stored := [] } else channel.hub
        storeClears := channel.storeClears - 1 }

def next (settings : StreamSettings) (channel : RunChannel Client Listener Tenant)
    (event : Nat × ChannelEvent Client Listener Tenant) :
    Option (RunChannel Client Listener Tenant) :=
  if channel.clock ≤ event.1 then
    ({ channel with clock := event.1 } : RunChannel Client Listener Tenant).take settings event.2
  else none

def start (records : List Tenant) : RunChannel Client Listener Tenant :=
  { ownership := { records := records } }

end RunChannel

end AgenticRuntime
