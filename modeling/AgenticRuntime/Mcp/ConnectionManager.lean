/-
The MCP connection manager, one lock holder at a time.

A link is a transport with the client that was made for it.  Operations hold the
lock over their awaits; between two steps of one a transport may close by itself
and `get_connection`, which takes no lock, may be called.  What a server does
with the handshake comes with the event.
-/

import AgenticRuntime.Python.Values
import Mathlib.Algebra.Order.Field.Rat
import Mathlib.Logic.Function.Basic

namespace AgenticRuntime.Mcp

open Python

inductive McpConnectionState where
  | connecting
  | connected
  | reconnecting
  | disconnected
  | needsAuth
  | failed
  deriving DecidableEq, Repr

inductive TransportType where
  | stdio
  | websocket
  | sse
  | http
  deriving DecidableEq, Repr

/-- What `_build_transport` reads: the command of `stdio` and the url of `websocket`. -/
structure McpServerConfig where
  name : String
  transportType : TransportType
  stdio : Option String
  websocket : Option String

def authFailureCacheDuration : ℚ := 15 * 60

/-- `ExponentialBackoff(max_attempts=5)` -/
def maxAttempts : Nat := 5

/-- `needle in text` -/
def occursIn (needle text : String) : Bool :=
  text.toList.tails.any fun rest => needle.toList.isPrefixOf rest

structure Link where
  name : String
  started : Bool
  closed : Bool
  initialized : Bool
  deriving DecidableEq, Repr

def Link.live (link : Link) : Bool := link.started && !link.closed

def Link.fresh (name : String) : Link :=
  { name, started := false, closed := false, initialized := false }

/-- `attempts` is the count of the backoff. -/
structure ConnectionMetadata where
  link : Nat
  state : McpConnectionState
  attempts : Nat
  authFailureAt : Option ℚ
  deriving DecidableEq, Repr

def ConnectionMetadata.isAuthSuppressed (metadata : ConnectionMetadata) (now : ℚ) : Bool :=
  match metadata.authFailureAt with
  | none => false
  | some failed => failed ≠ 0 ∧ now - failed < authFailureCacheDuration

/-- How the `initialize` request of a handshake settles: with a result that `initialize` can
read, with an `McpProtocolError`, or with any other exception, a timeout among them. -/
inductive Handshake where
  | accepted
  | refused (error : String)
  | failed (error : String)
  deriving DecidableEq, Repr

inductive ConnectPhase where
  | starting
  | waiting
  | settled (handshake : Handshake)
  | sleeping (lastError : String)
  deriving DecidableEq, Repr

inductive Operation where
  | connecting (name : String) (link : Nat) (phase : ConnectPhase)
  | disconnecting (name : String) (link : Nat)
  | disconnectingAll (link : Nat) (rest : List Nat)
  deriving DecidableEq, Repr

structure Manager where
  now : ℚ
  links : Nat → Link
  made : Nat
  connections : Dict ConnectionMetadata
  active : Option Operation

def Manager.initial : Manager :=
  { now := 0, links := fun _ => Link.fresh "", made := 0, connections := Dict.empty
    active := none }

inductive Reply where
  | client (link : Nat)
  | noClient
  | raised (error : String)
  | finished
  deriving DecidableEq, Repr

namespace Manager

variable (manager : Manager)

def setLink (index : Nat) (change : Link → Link) : Manager :=
  { manager with links := Function.update manager.links index (change (manager.links index)) }

variable (name : String)

def setMetadata (change : ConnectionMetadata → ConnectionMetadata) : Manager :=
  match manager.connections.get? name with
  | none => manager
  | some metadata =>
      { manager with connections := manager.connections.insert name (change metadata) }

def attempts (manager : Manager) (name : String) : Nat :=
  match manager.connections.get? name with
  | none => 0
  | some metadata => metadata.attempts

def hold (operation : Operation) : Manager :=
  { manager with active := some operation }

def release : Manager := { manager with active := none }

/-! ### Connecting -/

/-- The error of `_build_transport`, with that of the WebSocket transport's constructor. -/
def buildTransport (config : McpServerConfig) : Option String :=
  match config.transportType, config.stdio, config.websocket with
  | .stdio, some _, _ => none
  | .websocket, _, some url =>
      if "ws://".toList.isPrefixOf url.toList || "wss://".toList.isPrefixOf url.toList then none
      else some "WebSocket URL must start with ws:// or wss://"
  | .stdio, none, _ => some "Unsupported or misconfigured transport: TransportType.STDIO"
  | .websocket, _, none => some "Unsupported or misconfigured transport: TransportType.WEBSOCKET"
  | .sse, _, _ => some "Unsupported or misconfigured transport: TransportType.SSE"
  | .http, _, _ => some "Unsupported or misconfigured transport: TransportType.HTTP"

def failConnect (name error : String) : Manager × Option Reply :=
  let text := s!"Failed to connect to {name} after {manager.attempts name} attempts: {error}"
  ((manager.setMetadata name fun metadata => { metadata with state := .failed }).release,
    some (.raised text))

/-- `transport.start`, up to where it awaits the process or the socket. -/
def attemptConnect (index : Nat) : Manager × Option Reply :=
  if (manager.links index).started then manager.failConnect name "Transport already started"
  else if (manager.links index).closed then manager.failConnect name "Transport is closed"
  else (manager.hold (.connecting name index .starting), none)

/-- `_create_connection`: the metadata is stored before the first attempt. -/
def createConnection (config : McpServerConfig) :
    Manager × Option Reply :=
  match buildTransport config with
  | some error => (manager, some (.raised error))
  | none =>
      let index := manager.made
      let stored : Manager :=
        { manager.setLink index (fun _ => Link.fresh name) with
          made := index + 1
          connections := manager.connections.insert name
            { link := index, state := .connecting, attempts := 0, authFailureAt := none } }
      stored.attemptConnect name index

def connect (config : McpServerConfig) (forceNew : Bool) :
    Manager × Option Reply :=
  match manager.connections.get? name with
  | none => manager.createConnection name config
  | some metadata =>
      if forceNew then manager.createConnection name config
      else if metadata.isAuthSuppressed manager.now then
        (manager, some (.raised s!"Auth failures suppressed for {name} (retry after 900s)"))
      else if metadata.state = .connected then (manager, some (.client metadata.link))
      else manager.createConnection name config

/-- `_schedule_retry`, and the end of the loop when there is no delay left. -/
def scheduleRetry (index : Nat) (error : String) :
    Manager × Option Reply :=
  let marked := manager.setMetadata name fun metadata => { metadata with state := .reconnecting }
  if maxAttempts ≤ manager.attempts name then marked.failConnect name error
  else
    ((marked.setMetadata name fun metadata =>
        { metadata with attempts := metadata.attempts + 1 }).hold
      (.connecting name index (.sleeping error)), none)

/-- The test of `_raise_if_auth_failure`. -/
def isAuthFailure (error : String) : Bool := occursIn "401" error || occursIn "Unauthorized" error

def resume (index : Nat) :
    Handshake → Manager × Option Reply
  | .accepted =>
      let up := manager.setLink index fun link => { link with initialized := true }
      ((up.setMetadata name fun metadata =>
          { metadata with state := .connected, attempts := 0 }).release,
        some (.client index))
  | .refused error =>
      if isAuthFailure error then
        ((manager.setMetadata name fun metadata =>
            { metadata with state := .needsAuth, authFailureAt := some manager.now }).release,
          some (.raised s!"Auth failure for {name}: {error}"))
      else manager.scheduleRetry name index error
  | .failed error => manager.failConnect name error

def wake (index : Nat) (lastError : String) :
    Manager × Option Reply :=
  if maxAttempts ≤ manager.attempts name then manager.failConnect name lastError
  else manager.attemptConnect name index

/-! ### Disconnecting -/

/-- `client.close()` up to where it awaits the transport. -/
def beginClose (index : Nat) : Manager :=
  manager.setLink index fun link => { link with initialized := false }

/-- `transport.close()` has come back. -/
def endClose (index : Nat) : Manager :=
  manager.setLink index fun link => { link with closed := true, initialized := false }

def disconnect : Manager × Option Reply :=
  match manager.connections.get? name with
  | none => (manager, some .finished)
  | some metadata =>
      ((manager.beginClose metadata.link).hold (.disconnecting name metadata.link), none)

/-- The next client of the loop in `disconnect_all`. -/
def closeNext : List Nat → Manager × Option Reply
  | [] => ({ manager with connections := Dict.empty, active := none }, some .finished)
  | index :: rest => ((manager.beginClose index).hold (.disconnectingAll index rest), none)

def storedLinks : List Nat :=
  manager.connections.items.map fun item => item.2.link

/-- The active disconnect runs on after its `transport.close()`. -/
def closed : Operation → Option (Manager × Option Reply)
  | .connecting _ _ _ => none
  | .disconnecting name index =>
      some ({ (manager.endClose index).release with
        connections := manager.connections.erase name }, some .finished)
  | .disconnectingAll index rest => some ((manager.endClose index).closeNext rest)

def getConnection : Reply :=
  match manager.connections.get? name with
  | none => .noClient
  | some metadata => if metadata.state = .connected then .client metadata.link else .noClient

/-! ### A transport's own close -/

/-- `_handle_transport_close` rejects a handshake that waits. -/
def transportClosed (index : Nat) : Manager :=
  let shut := manager.setLink index fun link => { link with closed := true, initialized := false }
  match manager.active with
  | some (.connecting name link .waiting) =>
      if link = index then
        shut.hold (.connecting name link (.settled (.refused "Transport closed unexpectedly")))
      else shut
  | _ => shut

end Manager

inductive ManagerEvent where
  | connect (name : String) (config : McpServerConfig) (forceNew : Bool)
  | started (error : Option String)
  | answer (handshake : Handshake)
  | resume
  | wake
  | disconnect (name : String)
  | disconnectAll
  | closed
  | transportClosed (link : Nat)
  | getConnection (name : String)
  | pass (seconds : ℚ)

namespace Manager

def act (manager : Manager) : ManagerEvent → Option (Manager × Option Reply)
  | .connect name config forceNew =>
      match manager.active with
      | some _ => none
      | none => some (manager.connect name config forceNew)
  | .started error =>
      match manager.active with
      | some (.connecting name index .starting) =>
          match error with
          | some text => some (manager.failConnect name text)
          | none =>
              some ((manager.setLink index fun link => { link with started := true }).hold
                (.connecting name index .waiting), none)
      | _ => none
  | .answer handshake =>
      match manager.active with
      | some (.connecting name index .waiting) =>
          some (manager.hold (.connecting name index (.settled handshake)), none)
      | _ => none
  | .resume =>
      match manager.active with
      | some (.connecting name index (.settled handshake)) =>
          some (manager.resume name index handshake)
      | _ => none
  | .wake =>
      match manager.active with
      | some (.connecting name index (.sleeping lastError)) =>
          some (manager.wake name index lastError)
      | _ => none
  | .disconnect name =>
      match manager.active with
      | some _ => none
      | none => some (manager.disconnect name)
  | .disconnectAll =>
      match manager.active with
      | some _ => none
      | none => some (manager.closeNext manager.storedLinks)
  | .closed => manager.active.bind manager.closed
  | .transportClosed index =>
      if (manager.links index).live then some (manager.transportClosed index, none) else none
  | .getConnection name => some (manager, some (manager.getConnection name))
  | .pass seconds =>
      if 0 ≤ seconds then some ({ manager with now := manager.now + seconds }, none) else none

def step (manager : Manager) (event : ManagerEvent) : Option Manager :=
  (manager.act event).map Prod.fst

end Manager

end AgenticRuntime.Mcp
