/-
The calls of one MCP protocol client and the table that correlates them.

A call registers its future before it writes the request, so what the server,
the transport or a deadline does may find it while the write is still suspended.
The table is the set of its keys: an entry stands for the future that the call of
that id made, and the future is kept with the call.  A cancellation, also the one by which
`asyncio.timeout` ends its block, is thrown where the task next runs.
-/

import AgenticRuntime.Mcp.Messages
import AgenticRuntime.Python.Future
import Mathlib.Algebra.Order.Field.Rat
import Mathlib.Data.Finset.Basic
import Mathlib.Logic.Function.Basic

namespace AgenticRuntime.Mcp

open Python

def defaultRequestTimeout : ℚ := 60

def toolCallTimeout : ℚ := 120

/-- `timeout or DEFAULT`, so that a timeout of zero is none. -/
def timeoutOr (timeout : Option ℚ) (fallback : ℚ) : ℚ :=
  match timeout with
  | none => fallback
  | some value => if value = 0 then fallback else value

/-! ### One call -/

/-- Which of the two entry points was called, with the `timeout` it was given. -/
inductive CallKind where
  | request (timeout : Option ℚ)
  | callTool (timeout : Option ℚ)
  deriving DecidableEq, Repr

/-- The deadline inside `request`; `call_tool` hands no timeout on to it. -/
def CallKind.requestTimeout : CallKind → ℚ
  | request timeout => timeoutOr timeout defaultRequestTimeout
  | callTool _ => timeoutOr none defaultRequestTimeout

/-- The deadline that `call_tool` puts around `request`. -/
def CallKind.toolTimeout? : CallKind → Option ℚ
  | request _ => none
  | callTool timeout => some (timeoutOr timeout toolCallTimeout)

def CallKind.requested : CallKind → ℚ
  | request timeout => timeout.getD defaultRequestTimeout
  | callTool timeout => timeout.getD toolCallTimeout

/-- The messages of `McpProtocolError`, one constructor for each text. -/
inductive McpProtocolError where
  /-- `MCP error {code}: {message}` -/
  | mcpError (code message : Option PyValue)
  /-- `Transport error: {error}` -/
  | transportError (error : String)
  /-- `Transport closed unexpectedly` -/
  | transportClosed
  /-- `Connection closed while request pending` -/
  | connectionClosed

/-- How a call ended; `sendFailed` is the exception of `transport.send`. -/
inductive Outcome where
  | returned (result : PyValue)
  | protocolError (error : McpProtocolError)
  | sendFailed (error : String)
  | timedOut
  | cancelled

structure Ending where
  time : ℚ
  outcome : Outcome

inductive Awaiting where
  | send
  | response (since : ℚ)
  deriving DecidableEq, Repr

structure Call where
  kind : CallKind
  madeAt : ℚ
  awaiting : Awaiting
  future : Future PyValue McpProtocolError
  /-- the deadline of `request` has cancelled the task -/
  requestExpired : Bool
  /-- the deadline of `call_tool` has cancelled the task -/
  toolExpired : Bool
  /-- the caller has cancelled the task -/
  callerCancelled : Bool
  ended : Option Ending

def Call.made (kind : CallKind) (now : ℚ) : Call :=
  { kind, madeAt := now, awaiting := .send, future := .pending, requestExpired := false
    toolExpired := false, callerCancelled := false, ended := none }

def Call.interrupted (call : Call) : Bool :=
  call.requestExpired || call.toolExpired || call.callerCancelled

def Call.due (call : Call) : Bool :=
  call.interrupted ||
    match call.awaiting with
    | .send => false
    | .response _ => call.future.done

/-- `task.cancel()` cancels the future too when the task awaits it. -/
def Call.cancelAwaited (call : Call) : Call :=
  match call.awaiting with
  | .send => call
  | .response _ => { call with future := call.future.cancel }

/-- What `_handle_response` makes of a pending future. -/
def JsonRpcResponse.settlement (response : JsonRpcResponse) : Future PyValue McpProtocolError :=
  if response.failed then
    let error := response.error.getD []
    .exception (.mcpError (Items.get? error (.str "code")) (Items.get? error (.str "message")))
  else .result response.result

/-! ### The client -/

structure ClientState where
  now : ℚ
  transportStarted : Bool
  transportClosed : Bool
  pendingRequests : Finset RequestId
  calls : RequestId → Option Call

def ClientState.initial : ClientState :=
  { now := 0, transportStarted := false, transportClosed := false, pendingRequests := ∅
    calls := fun _ => none }

namespace ClientState

variable (client : ClientState) (id : RequestId)

def setCall (call : Call) : ClientState :=
  { client with calls := Function.update client.calls id (some call) }

/-- `self._pending_requests.pop(request_id, None)` -/
def popPending : ClientState :=
  { client with pendingRequests := client.pendingRequests.erase id }

def endCall (call : Call) (outcome : Outcome) :
    ClientState :=
  client.setCall id { call with ended := some ⟨client.now, outcome⟩ }

/-- `set_exception` on every future of the table that is not done. -/
def rejectPending (error : McpProtocolError) : ClientState :=
  { client with
    calls := fun id =>
      if id ∈ client.pendingRequests then
        (client.calls id).map fun call => { call with future := call.future.reject error }
      else client.calls id }

/-- `_ensure_started`, with the texts of its errors. -/
def ensureStarted : Option String :=
  if !client.transportStarted then some "Transport not started. Call start() first."
  else if client.transportClosed then some "Transport is closed. Cannot operate."
  else none

/-- `request` and `call_tool` up to where the write is under way. -/
def makeCall (kind : CallKind) : ClientState :=
  let call := Call.made kind client.now
  match client.ensureStarted with
  | some error => client.endCall id call (.sendFailed error)
  | none => { client.setCall id call with pendingRequests := insert id client.pendingRequests }

/-- What `await future` and the `except` clauses of `request` make of the settled
future, and what the block of `call_tool` makes of that. -/
def settle (call : Call) : ClientState :=
  match call.future with
  | .result value => client.endCall id call (.returned value)
  | .exception error => (client.popPending id).endCall id call (.protocolError error)
  | .cancelled => client.endCall id call .cancelled
  | .pending => client.setCall id call

def sent (call : Call) : ClientState :=
  client.settle id { call with awaiting := .response client.now }

/-- The task runs on.  `CancelledError` is no `Exception`: only a `TimeoutError` made in
`request` is cleaned up there, and it is made only of a cancellation no one else asked for. -/
def resume (call : Call) : ClientState :=
  if call.callerCancelled then client.endCall id call .cancelled
  else if call.toolExpired then client.endCall id call .timedOut
  else if call.requestExpired then (client.popPending id).endCall id call .timedOut
  else client.settle id call

def answer (response : JsonRpcResponse) (call : Call) : Call :=
  match call.future with
  | .pending => { call with future := response.settlement }
  | _ => call

def handleResponse (response : JsonRpcResponse) : ClientState :=
  if response.id ∈ client.pendingRequests then
    { client.popPending response.id with
      calls := Function.update client.calls response.id
        ((client.calls response.id).map (answer response)) }
  else client

/-- `_handle_message`: notifications go to their handlers, requests are only logged. -/
def handleMessage : JsonRpcMessage → ClientState
  | .response response => client.handleResponse response
  | .notification _ => client
  | .request _ => client

def handleTransportError (error : String) : ClientState :=
  client.rejectPending (.transportError error)

/-- One incoming text; `none` is no JSON.  `failure` is the text of the exception that reading
it raised, if it raised one. -/
def receive (data : Option PyValue) (failure : String) : ClientState :=
  match data.bind parseJsonRpc with
  | some message => client.handleMessage message
  | none => client.handleTransportError failure

/-- `_emit_close` with `_handle_transport_close` -/
def emitClose : ClientState :=
  if client.transportClosed then client
  else
    { client.rejectPending .transportClosed with
      transportClosed := true, pendingRequests := ∅ }

/-- `close` up to where it awaits the transport. -/
def close : ClientState :=
  { client.rejectPending .connectionClosed with pendingRequests := ∅ }

end ClientState

/-! ### What can happen next -/

inductive ClientEvent where
  | start
  | call (uuid : String) (kind : CallKind)
  | sent (id : RequestId)
  | sendFailed (id : RequestId) (error : String)
  | incoming (data : Option PyValue) (failure : String)
  | transportError (error : String)
  | transportClose
  | close
  | requestDeadline (id : RequestId)
  | toolDeadline (id : RequestId)
  | cancel (id : RequestId)
  | resume (id : RequestId)
  | pass (seconds : ℚ)

namespace ClientState

variable (client : ClientState) (id : RequestId)

def unfinished? : Option Call :=
  (client.calls id).bind fun call => if call.ended.isNone then some call else none

/-- The call of this id while it is suspended in `transport.send`. -/
def sending? : Option Call :=
  (client.unfinished? id).bind fun call =>
    if call.awaiting = .send ∧ call.interrupted = false then some call else none

/-- `asyncio.timeout` in `request`, entered when the write was done. -/
def requestDeadline? : Option Call :=
  (client.unfinished? id).bind fun call =>
    match call.awaiting with
    | .send => none
    | .response since =>
        if call.requestExpired = false ∧ since + call.kind.requestTimeout ≤ client.now then
          some call
        else none

/-- `asyncio.timeout` in `call_tool`, entered when the call was made. -/
def toolDeadline? : Option Call :=
  (client.unfinished? id).bind fun call =>
    match call.kind.toolTimeout? with
    | none => none
    | some timeout =>
        if call.toolExpired = false ∧ call.madeAt + timeout ≤ client.now then some call else none

def due? : Option Call :=
  (client.unfinished? id).bind fun call => if call.due then some call else none

/-- Ids are `uuid4` texts and so never repeat. -/
def step : ClientEvent → Option ClientState
  | .start =>
      if client.transportStarted || client.transportClosed then none
      else some { client with transportStarted := true }
  | .call uuid kind =>
      if (client.calls (.text uuid)).isSome then none
      else some (client.makeCall (.text uuid) kind)
  | .sent id => (client.sending? id).map (client.sent id)
  | .sendFailed id error =>
      (client.sending? id).map fun call =>
        (client.popPending id).endCall id call (.sendFailed error)
  | .incoming data failure => some (client.receive data failure)
  | .transportError error => some (client.handleTransportError error)
  | .transportClose => some client.emitClose
  | .close => some client.close
  | .requestDeadline id =>
      (client.requestDeadline? id).map fun call =>
        client.setCall id { call.cancelAwaited with requestExpired := true }
  | .toolDeadline id =>
      (client.toolDeadline? id).map fun call =>
        client.setCall id { call.cancelAwaited with toolExpired := true }
  | .cancel id =>
      (client.unfinished? id).map fun call =>
        client.setCall id { call.cancelAwaited with callerCancelled := true }
  | .resume id => (client.due? id).map (client.resume id)
  | .pass seconds => if 0 ≤ seconds then some { client with now := client.now + seconds } else none

end ClientState

end AgenticRuntime.Mcp
