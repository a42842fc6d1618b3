/-
Tool discovery over several MCP servers, one step of the event loop at a time.

A call that finds no cached list is suspended in its request; what the server answers and
when comes with an event.  The cache is a `TTLCache`: an entry may be gone at any time,
expired or as the least recently used, so its loss is an event of its own.
-/

import AgenticRuntime.Mcp.Messages
import AgenticRuntime.Transition
import Mathlib.Logic.Function.Basic

namespace AgenticRuntime.Mcp

open Python Transition

/-- `McpCapabilities`, of which the tools are read here. -/
structure McpCapabilities where
  tools : Bool

structure McpToolDescriptor where
  name : String
  description : Option String
  inputSchema : Mapping

namespace ToolDiscovery

/-! ### One descriptor -/

/-- `description: str | None`; the outer `none` is a refusal. -/
def descriptionField (value : PyValue) : Option (Option String) :=
  match value with
  | .none => some none
  | .str text => some (some text)
  | _ => none

/-- The descriptor of an object; `none` where its construction raises. -/
def describe (data : Mapping) : Option McpToolDescriptor := do
  let name ← (Items.get? data (.str "name")).bind PyValue.asStr?
  let description ← descriptionField ((Items.get? data (.str "description")).getD .none)
  let inputSchema ← asMapping? ((Items.get? data (.str "inputSchema")).getD (.dict []))
  return { name, description, inputSchema }

/-- A bad object is left out.  What is no object has no `get` either, so the warning about it
raises and ends the whole fetch. -/
def collect : List PyValue → Option (List McpToolDescriptor)
  | [] => some []
  | toolData :: rest => do
      let data ← asMapping? toolData
      let tools ← collect rest
      return (describe data).toList ++ tools

/-- What a fetch makes of the response; `none` where it raises. -/
def parseTools (response : PyValue) : Option (List McpToolDescriptor) := do
  let data ← asMapping? response
  let toolsData ← ((Items.get? data (.str "tools")).getD (.list [])).iterate?
  collect toolsData

/-! ### The service -/

/-- A cached list, with the moment at which its request was sent. -/
structure CachedTools where
  tools : List McpToolDescriptor
  sentAt : Nat

/-- A call that awaits its response; it sent its request when it started. -/
structure Fetch where
  serverName : String
  sentAt : Nat

structure Answer where
  serverName : String
  startedAt : Nat
  cached : CachedTools

structure Notice where
  serverName : String
  handledAt : Nat

/-- A handler of notifications: the one of this service for a server, or any other. -/
inductive Handler where
  | onToolsListChanged (serverName : String)
  | other

structure Client where
  capabilities : Option McpCapabilities
  notificationHandlers : Dict Handler

/-- `now` counts the steps, `answers` and `notices` are what the run has shown so far. -/
structure State where
  now : Nat
  cache : Dict CachedTools
  clients : Nat → Client
  fetches : List Fetch
  answers : List Answer
  notices : List Notice

def State.initial : State :=
  { now := 0, cache := Dict.empty, clients := fun _ => ⟨none, Dict.empty⟩
    fetches := [], answers := [], notices := [] }

inductive Event where
  /-- A call of `discover_tools`; `lapses` when the entry it has found expires before it is
  read. -/
  | discover (serverName : String) (client : Nat) (lapses : Bool)
  /-- A suspended call goes on, with the response or with an exception of the request. -/
  | resume (position : Nat) (response : Option PyValue)
  | invalidateCache (serverName : String)
  | invalidateAll
  | lost (serverName : String)
  | initialized (client : Nat) (capabilities : Option McpCapabilities)
  | registerClientNotificationHandlers (serverName : String) (client : Nat)
  | registerNotificationHandler (client : Nat) (method : String)
  | notification (client : Nat) (message : JsonRpcNotification)

def toolsListChanged : String := "notifications/tools/list_changed"

/-- `not client.capabilities or not client.capabilities.tools` -/
def Client.lacksTools (client : Client) : Bool :=
  match client.capabilities with
  | none => true
  | some capabilities => !capabilities.tools

namespace State

variable (state : State)

/-- `discover_tools` up to its return, its error or its request. -/
def discoverTools (serverName : String) (client : Client) (lapses : Bool) : State :=
  if client.lacksTools then state
  else
    match state.cache.get? serverName with
    | some cached =>
        if lapses then { state with cache := state.cache.erase serverName }
        else { state with answers := ⟨serverName, state.now, cached⟩ :: state.answers }
    | none => { state with fetches := ⟨serverName, state.now⟩ :: state.fetches }

/-- `discover_tools` after its request. -/
def finish (fetch : Fetch) (response : Option PyValue) : State :=
  match response.bind parseTools with
  | none => state
  | some tools =>
      { state with
        cache := state.cache.insert fetch.serverName ⟨tools, fetch.sentAt⟩
        answers := ⟨fetch.serverName, fetch.sentAt, ⟨tools, fetch.sentAt⟩⟩ :: state.answers }

def invalidateCache (serverName : String) : State :=
  { state with cache := state.cache.erase serverName }

/-- `register_notification_handler`: one handler for a method. -/
def setHandler (client : Nat) (method : String) (handler : Handler) : State :=
  let old := state.clients client
  { state with
    clients := Function.update state.clients client
      { old with notificationHandlers := old.notificationHandlers.insert method handler } }

/-- The server that a message of a client stands for a change of, as `_handle_notification` and
the handler see it. -/
def changed? (client : Nat) (message : JsonRpcNotification) : Option String :=
  match (state.clients client).notificationHandlers.get? message.method with
  | some (.onToolsListChanged serverName) => some serverName
  | _ => none

def handleNotification (client : Nat) (message : JsonRpcNotification) : State :=
  match state.changed? client message with
  | some serverName =>
      { state.invalidateCache serverName with
        notices := ⟨serverName, state.now⟩ :: state.notices }
  | none => state

def tick : State := { state with now := state.now + 1 }

end State

def next (state : State) : Event → Option State
  | .discover serverName client lapses =>
      some (state.discoverTools serverName (state.clients client) lapses).tick
  | .resume position response =>
      match state.fetches[position]? with
      | none => none
      | some fetch =>
          some ({ state with fetches := state.fetches.eraseIdx position }.finish fetch response).tick
  | .invalidateCache serverName => some (state.invalidateCache serverName).tick
  | .invalidateAll => some { state with cache := Dict.empty }.tick
  | .lost serverName => some { state with cache := state.cache.erase serverName }.tick
  | .initialized client capabilities =>
      some { state with
        clients := Function.update state.clients client
          { state.clients client with capabilities } }.tick
  | .registerClientNotificationHandlers serverName client =>
      some (state.setHandler client toolsListChanged (.onToolsListChanged serverName)).tick
  | .registerNotificationHandler client method => some (state.setHandler client method .other).tick
  | .notification client message => some (state.handleNotification client message).tick

/-! ### What the calls return -/

/-- The list is not older than any change of its server handled before `startedAt`. -/
def After (notices : List Notice) (serverName : String) (startedAt sentAt : Nat) : Prop :=
  ∀ notice ∈ notices, notice.serverName = serverName → notice.handledAt < startedAt →
    notice.handledAt < sentAt

/-- No change is lost: a call that started after one was handled returns a list whose request
was sent after it. -/
def NeverOlder (state : State) : Prop :=
  ∀ answer ∈ state.answers,
    After state.notices answer.serverName answer.startedAt answer.cached.sentAt

/-- A fetch does not bring back a list after a change of its server that was handled since it
sent its request. -/
def NotOvertaken (state : State) : Event → Prop
  | .resume position response =>
      (response.bind parseTools).isSome = true → ∀ fetch ∈ state.fetches[position]?,
        After state.notices fetch.serverName state.now fetch.sentAt
  | _ => True

structure Coherent (state : State) : Prop where
  answers : NeverOlder state
  started : ∀ answer ∈ state.answers, answer.startedAt < state.now
  handled : ∀ notice ∈ state.notices, notice.handledAt < state.now
  sent : ∀ fetch ∈ state.fetches, fetch.sentAt < state.now
  cached : ∀ serverName entry, state.cache.get? serverName = some entry →
    After state.notices serverName state.now entry.sentAt

theorem coherent_initial : Coherent State.initial where
  answers := fun _ listed => nomatch listed
  started := fun _ listed => nomatch listed
  handled := fun _ listed => nomatch listed
  sent := fun _ listed => nomatch listed
  cached := fun _ _ found => nomatch found

variable {state : State}

theorem Coherent.of_fewer (coherent : Coherent state) {cache : Dict CachedTools}
    {clients : Nat → Client} (fewer : ∀ serverName entry, cache.get? serverName = some entry →
      state.cache.get? serverName = some entry) :
    Coherent { state with cache, clients }.tick where
  answers := coherent.answers
  started answer listed := Nat.lt_succ_of_lt (coherent.started answer listed)
  handled notice listed := Nat.lt_succ_of_lt (coherent.handled notice listed)
  sent fetch listed := Nat.lt_succ_of_lt (coherent.sent fetch listed)
  cached serverName entry found notice listed same _ :=
    coherent.cached serverName entry (fewer serverName entry found) notice listed same
      (coherent.handled notice listed)

theorem get?_of_erase {cache : Dict CachedTools} {erased serverName : String} {entry : CachedTools}
    (found : (cache.erase erased).get? serverName = some entry) :
    erased ≠ serverName ∧ cache.get? serverName = some entry := by
  rw [Dict.get?_erase] at found
  by_cases same : erased = serverName
  · rw [if_pos same] at found
    cases found
  · rw [if_neg same] at found
    exact ⟨same, found⟩

theorem Coherent.erased (coherent : Coherent state) (serverName : String) :
    Coherent (state.invalidateCache serverName).tick :=
  coherent.of_fewer fun _ _ found => (get?_of_erase found).2

theorem Coherent.discoverTools (coherent : Coherent state) (serverName : String) (client : Client)
    (lapses : Bool) :
    Coherent (state.discoverTools serverName client lapses).tick := by
  have unchanged : Coherent state.tick := coherent.of_fewer fun _ _ found => found
  unfold State.discoverTools
  split
  · exact unchanged
  · split
    · rename_i cached found
      split
      · exact coherent.erased serverName
      · refine { unchanged with answers := ?_, started := ?_ }
        · intro answer listed
          rcases List.mem_cons.mp listed with rfl | older
          · exact coherent.cached serverName cached found
          · exact coherent.answers answer older
        · intro answer listed
          rcases List.mem_cons.mp listed with rfl | older
          · exact Nat.lt_succ_self state.now
          · exact unchanged.started answer older
    · refine { unchanged with sent := ?_ }
      intro fetch listed
      rcases List.mem_cons.mp listed with rfl | older
      · exact Nat.lt_succ_self state.now
      · exact unchanged.sent fetch older

theorem Coherent.finish (coherent : Coherent state) {fetch : Fetch}
    (past : fetch.sentAt < state.now) (response : Option PyValue)
    (current : (response.bind parseTools).isSome = true →
      After state.notices fetch.serverName state.now fetch.sentAt) :
    Coherent (state.finish fetch response).tick := by
  have unchanged : Coherent state.tick := coherent.of_fewer fun _ _ found => found
  unfold State.finish
  split
  · exact unchanged
  · rename_i tools parsed
    have latest := current (Option.isSome_of_eq_some parsed)
    refine { unchanged with answers := ?_, started := ?_, cached := ?_ }
    · intro answer listed
      rcases List.mem_cons.mp listed with rfl | older
      · exact fun notice _ _ before => before
      · exact coherent.answers answer older
    · intro answer listed
      rcases List.mem_cons.mp listed with rfl | older
      · exact Nat.lt_succ_of_lt past
      · exact unchanged.started answer older
    · intro serverName entry found notice noticed same _
      have handled := coherent.handled notice noticed
      change (state.cache.insert _ _).get? serverName = some entry at found
      rw [Dict.get?_insert] at found
      by_cases own : fetch.serverName = serverName
      · rw [if_pos own] at found
        cases found
        exact latest notice noticed (same.trans own.symm) handled
      · rw [if_neg own] at found
        exact coherent.cached serverName entry found notice noticed same handled

theorem Coherent.handleNotification (coherent : Coherent state) (client : Nat)
    (message : JsonRpcNotification) :
    Coherent (state.handleNotification client message).tick := by
  unfold State.handleNotification
  split
  · rename_i serverName known
    have erased := coherent.erased serverName
    refine { erased with answers := ?_, handled := ?_, cached := ?_ }
    · intro answer listed notice noticed same before
      rcases List.mem_cons.mp noticed with rfl | older
      -- a call on record started before this step
      · exact absurd (coherent.started answer listed) (Nat.lt_asymm before)
      · exact coherent.answers answer listed notice older same before
    · intro notice noticed
      rcases List.mem_cons.mp noticed with rfl | older
      · exact Nat.lt_succ_self state.now
      · exact erased.handled notice older
    · intro other entry found notice noticed same before
      rcases List.mem_cons.mp noticed with rfl | older
      · exact absurd same (get?_of_erase found).1
      · exact erased.cached other entry found notice older same before
  · exact coherent.of_fewer fun _ _ found => found

theorem next_coherent (state : State) (event : Event) (after : State) (coherent : Coherent state)
    (allowed : NotOvertaken state event) (taken : next state event = some after) :
    Coherent after := by
  cases event with
  | discover serverName client lapses =>
      cases taken
      exact coherent.discoverTools serverName (state.clients client) lapses
  | resume position response =>
      cases there : state.fetches[position]? with
      | none =>
          simp only [next, there] at taken
          cases taken
      | some fetch =>
          simp only [next, there] at taken
          cases taken
          have rest : Coherent { state with fetches := state.fetches.eraseIdx position } :=
            { coherent with
              sent := fun other listed => coherent.sent other (List.mem_of_mem_eraseIdx listed) }
          exact rest.finish (coherent.sent fetch (List.mem_of_getElem? there)) response
            fun parsed => allowed parsed fetch there
  | invalidateCache serverName | lost serverName =>
      cases taken
      exact coherent.erased serverName
  | invalidateAll =>
      cases taken
      exact coherent.of_fewer fun _ _ found => nomatch found
  | initialized client capabilities | registerClientNotificationHandlers serverName client
  | registerNotificationHandler client method =>
      cases taken
      exact coherent.of_fewer fun _ _ found => found
  | notification client message =>
      cases taken
      exact coherent.handleNotification client message

/-- In a run in which no fetch is overtaken by a change, no change is lost. -/
theorem change_never_lost {events : List Event} {finish : State}
    (run : replay next State.initial events = some finish)
    (along : Along next NotOvertaken State.initial events) : NeverOlder finish :=
  (replay_invariant_along next_coherent coherent_initial along run).answers

/-! ### A change during a fetch -/

/-- The result of `tools/list` with one tool of a name. -/
def oneTool (name : String) : PyValue :=
  .dict [(.str "tools", .list [.dict [(.str "name", .str name)]])]

def listChanged : JsonRpcNotification := ⟨toolsListChanged, none⟩

def connected : List Event :=
  [.initialized 0 (some ⟨true⟩), .registerClientNotificationHandlers "files" 0,
    .discover "files" 0 false]

def changedBetween : List Event :=
  connected ++ [.resume 0 (some (oneTool "read")), .notification 0 listChanged,
    .discover "files" 0 false, .resume 0 (some (oneTool "write"))]

theorem change_never_lost_between :
    ∃ finish, replay next State.initial changedBetween = some finish ∧ NeverOlder finish := by
  refine ⟨_, rfl, @change_never_lost changedBetween _ rfl ?_⟩
  refine ⟨trivial, trivial, trivial, ?_, trivial, trivial, ?_, trivial⟩
  · intro _ fetch _ notice noticed
    cases noticed
  · intro _ fetch there notice noticed same before
    cases there
    cases noticed with
    | head => exact Nat.lt_succ_self 4
    | tail _ older => cases older

/-- The list that was under way when the change was handled is cached after it, and a later
call returns it. -/
theorem overtaken_list_returned :
    ¬ ∀ (events : List Event) (finish : State),
      replay next State.initial events = some finish → NeverOlder finish := by
  intro always
  have older := always
    (connected ++ [.notification 0 listChanged, .resume 0 (some (oneTool "read")),
      .discover "files" 0 false]) _ rfl _ List.mem_cons_self ⟨"files", 3⟩ List.mem_cons_self rfl
  exact absurd (older (by decide)) (by decide)

end ToolDiscovery

end AgenticRuntime.Mcp
