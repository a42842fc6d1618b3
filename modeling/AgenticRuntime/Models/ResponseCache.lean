/-
The response cache of the client.

A call carries the times at which it reads and writes the cache, and how it ends when the
cache does not answer it: with nothing where it raises.
-/

import AgenticRuntime.Models.TierSelection
import AgenticRuntime.Server.AuditLog
import Mathlib.Data.Rat.Cast.Order

namespace AgenticRuntime

namespace ResponseCache

open Python

/-- What the client uses of Python: `sha256` gives the hexadecimal digest, and `write` and `read`
are the texts of `json`. -/
structure Runtime where
  repr : PyValue → String
  sha256 : String → String
  floatRepr : PyFloat → String
  write : Json → String
  read : String → Option Json

structure Client where
  runtime : Runtime
  enableCache : Bool := true
  cacheTtlSeconds : Rat := 300
  sanitizeMessages : PyValue → Option PyValue := some

/-! ### Requests -/

inductive Asked where
  | text (prompt : String)
  | chat (messages tools : PyValue)

structure Request where
  asked : Asked
  tier : ModelTier
  model : Option String
  kwargs : List (String × PyValue)

/-- The keyword arguments of `_cache_key`. -/
def Request.keyItems (request : Request) : List (String × PyValue) :=
  let model : PyValue := match request.model with
    | some name => .str name
    | none => .none
  match request.asked with
  | .text _ => ("model", model) :: request.kwargs
  | .chat _ tools => ("tools", tools) :: ("model", model) :: request.kwargs

/-- `sorted(kwargs.items())` -/
def sortedItems (items : List (String × PyValue)) : PyValue :=
  .list ((items.insertionSort fun first second => first.1 ≤ second.1).map fun item =>
    .tuple [.str item.1, item.2])

variable (client : Client)

/-- What `_cache_key` hashes; nothing where the messages are blocked before. -/
def Client.keyData (request : Request) : Option String :=
  let prompt := match request.asked with
    | .text prompt => some prompt
    | .chat messages _ => (client.sanitizeMessages messages).map client.runtime.repr
  prompt.map fun prompt => prompt ++ ":" ++ toString request.tier.value ++ ":" ++
    client.runtime.repr (sortedItems request.keyItems)

def Client.cacheKey (request : Request) : Option String :=
  (client.keyData request).map fun data =>
    String.ofList ((client.runtime.sha256 data).toList.take 16)

/-! ### The store -/

structure CachedResponse where
  response : String
  model : Option String
  timestamp : Rat
  tokensUsed : Int
  deriving DecidableEq, Repr

abbrev Cache := Dict CachedResponse

variable (cache : Cache)

def getCached (key : String) (now : Rat) :
    Option CachedResponse × Cache :=
  if ¬ client.enableCache then (none, cache)
  else
    match cache.get? key with
    | none => (none, cache)
    | some cached =>
        if client.cacheTtlSeconds < now - cached.timestamp then (none, cache.erase key)
        else (some cached, cache)

def prune : Cache :=
  if 1000 < cache.items.length then
    let sorted := cache.items.insertionSort fun first second =>
      first.2.timestamp ≤ second.2.timestamp
    (sorted.take 100).foldl (fun kept item => kept.erase item.1) cache
  else cache

def setCached (key : String) (entry : CachedResponse) : Cache :=
  if ¬ client.enableCache then cache else prune (cache.insert key entry)

/-! ### Calls -/

inductive Response where
  | text (content : String)
  | chat (message : PyValue)

structure Answer where
  response : Response
  model : Option String
  tokens : Int

structure Setting where
  useCache : Bool := true
  now : Rat
  done : Rat

structure Outcome (Content : Type) where
  content : Content
  selected : String
  tokens : Int

/-- A call of `complete`, on the EK path or the legacy one, or of `complete_chat`. -/
inductive Call where
  | complete (setting : Setting) (ek : Bool) (prompt : String) (tier : ModelTier)
      (model : Option String) (kwargs : List (String × PyValue)) (outcome : Option (Outcome String))
  | completeChat (setting : Setting) (messages tools : PyValue) (tier : ModelTier)
      (model : Option String) (kwargs : List (String × PyValue)) (outcome : Option (Outcome PyValue))

def Call.setting : Call → Setting
  | .complete setting _ _ _ _ _ _ => setting
  | .completeChat setting _ _ _ _ _ _ => setting

def Call.request : Call → Request
  | .complete _ _ prompt tier model kwargs _ => ⟨.text prompt, tier, model, kwargs⟩
  | .completeChat _ messages tools tier model kwargs _ => ⟨.chat messages tools, tier, model, kwargs⟩

def Call.fresh : Call → Option Answer
  | .complete _ _ _ _ _ _ outcome =>
      outcome.map fun given => ⟨.text given.content, some given.selected, given.tokens⟩
  | .completeChat _ _ _ _ _ _ outcome =>
      outcome.map fun given => ⟨.chat given.content, some given.selected, given.tokens⟩

/-- The entry that the call stores; nothing where `json.dumps` raises. -/
def Call.entry : Call → Option CachedResponse
  | .complete setting ek _ _ model _ outcome =>
      outcome.map fun given =>
        -- the legacy path stores the override, not the model that was selected
        ⟨given.content, if ek then some given.selected else model, setting.done, given.tokens⟩
  | .completeChat setting _ _ _ _ _ outcome =>
      outcome.bind fun given =>
        if AuditLog.dumpable given.content then
          (given.content.dumps client.runtime.floatRepr).map fun json =>
            ⟨client.runtime.write json, some given.selected, setting.done, given.tokens⟩
        else none

/-- The answer that a cached entry gives; `_get_cached_chat` passes over what is not JSON. -/
def Client.answer (asked : Asked) (cached : CachedResponse) : Option Answer :=
  match asked with
  | .text _ => some ⟨.text cached.response, cached.model, cached.tokensUsed⟩
  | .chat _ _ => (client.runtime.read cached.response).map fun json =>
      ⟨.chat json.loads, cached.model, cached.tokensUsed⟩

structure Record where
  call : Call
  answer : Option Answer
  hit : Bool

def Client.caches (call : Call) : Bool :=
  call.setting.useCache && client.enableCache

def finish (key : String) (call : Call) : Record × Cache :=
  if client.caches call then
    match call.entry client with
    | none => (⟨call, none, false⟩, cache)
    | some entry => (⟨call, call.fresh, false⟩, setCached client cache key entry)
  else (⟨call, call.fresh, false⟩, cache)

/-- `complete` and `complete_chat` -/
def perform (call : Call) : Record × Cache :=
  match client.cacheKey call.request with
  | none => (⟨call, none, false⟩, cache)
  | some key =>
      let found := if client.caches call then getCached client cache key call.setting.now
        else (none, cache)
      match found.1.bind (client.answer call.request.asked) with
      | some answer => (⟨call, some answer, true⟩, found.2)
      | none => finish client found.2 key call

def run (client : Client) : Cache → List Call → List Record × Cache
  | cache, [] => ([], cache)
  | cache, call :: rest =>
      let performed := perform client cache call
      let later := run client performed.2 rest
      (performed.1 :: later.1, later.2)

end ResponseCache

end AgenticRuntime
