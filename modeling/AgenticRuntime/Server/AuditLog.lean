/-
The audit logger over its file store and its Redis store.

A stored record is the tree of its text. One process writes at a time; a restart is a new
logger over the same store. What the disk and the Redis server do at a call is part of
the event.
-/

import AgenticRuntime.Python.RereadJson
import AgenticRuntime.Server.AuditChain
import AgenticRuntime.Transition

namespace AuditLog

open Python

/-! ### Records -/

inductive AuditOutcome where
  | success
  | failure
  | denied
  | error
  | unknown
  deriving DecidableEq, Repr

def AuditOutcome.text : AuditOutcome → String
  | .success => "success"
  | .failure => "failure"
  | .denied => "denied"
  | .error => "error"
  | .unknown => "unknown"

/-- The arguments of a call, with the `id` and the `timestamp` that it draws. -/
structure AuditEvent where
  eventType : String
  outcome : AuditOutcome
  actor : Option Mapping
  target : Option Mapping
  tenantId : Option String
  runId : Option String
  requestId : Option String
  metadata : Option Mapping
  id : String
  timestamp : String

mutual

/-- `json.dumps(value)` raises no `TypeError`. -/
def dumpable : PyValue → Bool
  | .list items => dumpableItems items
  | .tuple items => dumpableItems items
  | .dict items => dumpableEntries items
  | .datetime _ => false
  | .path _ => false
  | .object _ => false
  | _ => true

def dumpableItems : List PyValue → Bool
  | [] => true
  | item :: rest => dumpable item && dumpableItems rest

def dumpableEntries : List (PyKey × PyValue) → Bool
  | [] => true
  | (key, value) :: rest =>
      (key.jsonName fun _ => "").isSome && dumpable value && dumpableEntries rest

end

/-- `str(key)` -/
def keyText (format : FloatFormat) : PyKey → String
  | .none => "None"
  | .bool true => "True"
  | .bool false => "False"
  | .int value => Int.repr value
  | .float (.finite value) => format.text (.finite value)
  | .float .inf => "inf"
  | .float .negInf => "-inf"
  | .float .nan => "nan"
  | .str text => text
  | .other text => text

mutual

/-- `_json_safe`: what `json.dumps` takes stays as it is. -/
def jsonSafe (format : FloatFormat) (value : PyValue) : PyValue :=
  if dumpable value then value
  else
    match value with
    | .dict items => .dict (ofMembers (jsonSafeEntries format items))
    | .list items => .list (jsonSafeItems format items)
    | .tuple items => .list (jsonSafeItems format items)
    | other => .str other.defaultStr

def jsonSafeItems (format : FloatFormat) : List PyValue → List PyValue
  | [] => []
  | item :: rest => jsonSafe format item :: jsonSafeItems format rest

def jsonSafeEntries (format : FloatFormat) : List (PyKey × PyValue) → List (String × PyValue)
  | [] => []
  | (key, value) :: rest => (keyText format key, jsonSafe format value) :: jsonSafeEntries format rest

end

/-- `value or {}` -/
def orEmpty (value : Option Mapping) : PyValue := .dict (value.getD [])

def optionalText : Option String → PyValue
  | some text => .str text
  | none => .none

theorem record_names : ["schema_version", "id", "timestamp", "event_type", "outcome", "actor",
    "target", "tenant_id", "run_id", "request_id", "metadata", "prev_hash"].Nodup := by
  decide

section

variable (format : FloatFormat) (sha256 : String → String)

def unhashedRecord (event : AuditEvent) (prevHash : String) : AuditRecord where
  items := [
    ("schema_version", .str "audit.v1"),
    ("id", .str event.id),
    ("timestamp", .str event.timestamp),
    ("event_type", .str event.eventType),
    ("outcome", .str event.outcome.text),
    ("actor", jsonSafe format (orEmpty event.actor)),
    ("target", jsonSafe format (orEmpty event.target)),
    ("tenant_id", optionalText event.tenantId),
    ("run_id", optionalText event.runId),
    ("request_id", optionalText event.requestId),
    ("metadata", jsonSafe format (orEmpty event.metadata)),
    ("prev_hash", .str prevHash)]
  distinct := record_names

/-- `none` is the `TypeError` of hashing a dict whose keys have no order. -/
def buildRecord (event : AuditEvent) (prevHash : String) : Option (AuditRecord × String) :=
  let record := unhashedRecord format event prevHash
  (computeAuditHash format sha256 record).map fun digest =>
    (record.insert "hash" (.str digest), digest)

/-! ### The store and the logger -/

inductive Backend where
  | file
  | redis (maxEvents : Nat)

inductive TailRead where
  | read
  | failed (disconnected : Bool)
  deriving DecidableEq, Repr

/-- How `append` ends. It returns, or raises, with the record in the store or without; Redis
may drop the oldest records, and an error that `append` catches may cost the connection. -/
inductive AppendOutcome where
  | returned (kept : Bool) (trimmed : Nat) (disconnected : Bool)
  | raised (kept : Bool)
  deriving DecidableEq, Repr

/-- `stored` is what can be read from the store and `trimmed` what Redis dropped of it;
`answered` are the records of the calls that returned while logging was enabled. -/
structure LogState where
  stored : List Json
  trimmed : List Json
  answered : List Json
  head : Option String
  enabled : Bool
  connected : Bool

inductive Event where
  | restart (enabled : Bool)
  | audit (event : AuditEvent) (tail : TailRead) (append : AppendOutcome)

def emptyLog : LogState where
  stored := []
  trimmed := []
  answered := []
  head := none
  enabled := true
  connected := true

/-- `json.loads` of a stored line. -/
def readRecord : Json → AuditRecord
  | .object members => Dict.ofItems (loadsMembers members)
  | _ => Dict.empty

def LogState.records (state : LogState) : List AuditRecord := state.stored.map readRecord

variable (backend : Backend)

def getLastHash (state : LogState) (tail : TailRead) :
    Option String × LogState :=
  match backend, tail with
  | .file, .read => ((lastHash state.records).filter (· ≠ ""), state)
  | .file, .failed _ => (none, state)
  | .redis _, .read => (if state.connected then lastHash state.records else none, state)
  | .redis _, .failed disconnected =>
      (none, { state with connected := state.connected && !disconnected })

def chainHead (state : LogState) (tail : TailRead) : String × LogState :=
  match state.head with
  | some head => (head, state)
  | none =>
      let found := getLastHash backend state tail
      let head := (found.1.filter (· ≠ "")).getD genesisHash
      (head, { found.2 with head := some head })

def possible (state : LogState) : AppendOutcome → Bool
  | .returned kept trimmed disconnected =>
      match backend with
      | .file => kept && trimmed = 0 && !disconnected
      | .redis maxEvents =>
          if state.connected then
            (kept || trimmed = 0) && (trimmed = 0 ||
              (trimmed ≤ state.stored.length + 1 && maxEvents ≤ state.stored.length + 1 - trimmed))
          else !kept && trimmed = 0 && !disconnected
  | .raised _ =>
      match backend with
      | .file => true
      | .redis _ => state.connected

/-- The store behind `append`. -/
def LogState.appended (state : LogState) (line : Json) : AppendOutcome → LogState
  | .returned kept trimmed disconnected =>
      let whole := if kept then state.stored ++ [line] else state.stored
      { state with
        stored := whole.drop trimmed
        trimmed := state.trimmed ++ whole.take trimmed
        connected := state.connected && !disconnected }
  | .raised kept =>
      { state with stored := if kept then state.stored ++ [line] else state.stored }

/-- The logger behind a call of `append`; where it raised the head stays. -/
def LogState.acknowledged (state : LogState) (line : Json) (digest : String) :
    AppendOutcome → LogState
  | .returned _ _ _ => { state with head := some digest, answered := state.answered ++ [line] }
  | .raised _ => state

/-- One call of `audit`. -/
def auditStep (state : LogState) (event : AuditEvent) (tail : TailRead) (append : AppendOutcome)
    : Option LogState :=
  let (prevHash, state) := chainHead backend state tail
  match buildRecord format sha256 event prevHash with
  | none => some state
  | some (record, digest) =>
      if state.enabled then
        match record.toValue.canonical format.text with
        | none => some state
        | some line =>
            if possible backend state append then
              some ((state.appended line append).acknowledged line digest append)
            else none
      else some { state with head := some digest }

def step (state : LogState) : Event → Option LogState
  | .restart enabled => some { state with head := none, enabled := enabled, connected := true }
  | .audit event tail append => auditStep format sha256 backend state event tail append

end

end AuditLog
