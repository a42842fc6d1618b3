/-
The three stores that `build_replay_store` chooses from, and the calls they take.

The databases are modelled by what the stores use of them: a table with a primary
key, ordered selection and deletion, and lists with `RPUSH`, `LTRIM`, `LRANGE`,
`EXPIRE` and `DEL`. A stored text is the syntax tree of its JSON. No command fails
here, except that an INSERT finds its primary key taken.
-/

import AgenticRuntime.Python.Json
import AgenticRuntime.Server.ReplayStore
import Mathlib.Data.List.Sort
import Mathlib.Data.List.DropRight
import Mathlib.Algebra.Order.Group.Defs

namespace AgenticRuntime

open Python Function

/-- An event that `json` writes and reads back unchanged. -/
structure JsonEvent where
  value : PyValue
  plain : Plain value

/-- A call and the clock when it is served; `append` reads the time of its row first. -/
inductive ReplayCall (Time : Type) where
  | append (runId : String) (event : JsonEvent) (created now : Time)
  | getEvents (runId : String) (now : Time)
  | clear (runId : String) (now : Time)

def ReplayCall.runId {Time : Type} : ReplayCall Time → String
  | .append runId _ _ _ => runId
  | .getEvents runId _ => runId
  | .clear runId _ => runId

def ReplayCall.now {Time : Type} : ReplayCall Time → Time
  | .append _ _ _ now => now
  | .getEvents _ now => now
  | .clear _ now => now

/-- What the three classes have in common. `listed` is what is stored for a run,
before anything is purged, and `noExpiry` says that a call purges nothing. -/
structure ReplayBackend (Time Store : Type) where
  append : Store → String → JsonEvent → Time → Time → Store
  getEvents : Store → String → Time → Store × List PyValue
  clear : Store → String → Time → Store
  listed : Store → String → List PyValue
  noExpiry : Store → ReplayCall Time → Prop

namespace ReplayBackend

variable {Time Store : Type} (backend : ReplayBackend Time Store)

/-- The store after a call and, for `get_events`, the answer. -/
def call (store : Store) : ReplayCall Time → Store × Option (List PyValue)
  | .append runId event created now => (backend.append store runId event created now, none)
  | .getEvents runId now =>
      let answer := backend.getEvents store runId now
      (answer.1, some answer.2)
  | .clear runId now => (backend.clear store runId now, none)

def after : Store → List (ReplayCall Time) → Store
  | store, [] => store
  | store, call :: rest => after (backend.call store call).1 rest

/-- The answers of the `get_events` calls, in order. -/
def answers : Store → List (ReplayCall Time) → List (List PyValue)
  | _, [] => []
  | store, call :: rest =>
      (backend.call store call).2.toList ++ answers (backend.call store call).1 rest

def Unexpired : Store → List (ReplayCall Time) → Prop
  | _, [] => True
  | store, call :: rest =>
      backend.noExpiry store call ∧ Unexpired (backend.call store call).1 rest

end ReplayBackend

/-! ### InMemoryReplayStore -/

/-- `_buffers` -/
abbrev ReplayBuffers := String → Option (List PyValue)

namespace InMemoryReplayStore

variable {Time : Type}

def append (maxEvents : Nat) (buffers : ReplayBuffers) (runId : String) (event : JsonEvent) :
    ReplayBuffers :=
  update buffers runId
    (some (pushBounded maxEvents ((buffers runId).getD []) event.value))

def backend (maxEvents : Nat) : ReplayBackend Time ReplayBuffers where
  append buffers runId event _ _ := append maxEvents buffers runId event
  getEvents buffers runId _ := (buffers, (buffers runId).getD [])
  clear buffers runId _ := update buffers runId none
  listed buffers runId := (buffers runId).getD []
  noExpiry _ _ := True

end InMemoryReplayStore

/-! ### SqliteReplayStore -/

/-- A row of `replay_events`. -/
structure ReplayRow (Time : Type) where
  runId : String
  seq : Int
  event : Json
  createdAt : Time

namespace SqliteReplayStore

variable {Time : Type} (rows : List (ReplayRow Time))

/-- `WHERE run_id = ?` -/
def ofRun (runId : String) : List (ReplayRow Time) :=
  rows.filter fun row => row.runId = runId

/-- `SELECT COALESCE(MAX(seq), -1) + 1 ... WHERE run_id = ?` -/
def nextSeq (runId : String) : Int :=
  (((ofRun rows runId).map ReplayRow.seq).max?).getD (-1) + 1

/-- `none` when the primary key `(run_id, seq)` is taken. -/
def insertRow (row : ReplayRow Time) :
    Option (List (ReplayRow Time)) :=
  if rows.any fun other => other.runId = row.runId ∧ other.seq = row.seq then none
  else some (rows ++ [row])

/-- `SELECT seq ... WHERE run_id = ? ORDER BY seq DESC LIMIT 1 OFFSET ?`; a negative
offset counts as zero. -/
def capBound (maxEvents : Nat) (rows : List (ReplayRow Time)) (runId : String) : Option Int :=
  let newestFirst := (ofRun rows runId).insertionSort fun first second => second.seq ≤ first.seq
  ((newestFirst.drop ((maxEvents : Int) - 1).toNat).head?).map ReplayRow.seq

/-- `DELETE ... WHERE run_id = ? AND seq < (...)`; nothing is below a NULL. -/
def enforceCap (maxEvents : Nat) (rows : List (ReplayRow Time)) (runId : String) :
    List (ReplayRow Time) :=
  rows.filter fun row => !(row.runId = runId &&
    match capBound maxEvents rows runId with
    | none => false
    | some bound => row.seq < bound)

section

variable [LinearOrder Time] [AddCommGroup Time]

/-- `created_at < time.time() - retention_seconds`, and nothing expires without a retention. -/
def expired (retentionSeconds now : Time) (row : ReplayRow Time) : Bool :=
  0 < retentionSeconds ∧ row.createdAt < now - retentionSeconds

def purgeExpired (retentionSeconds now : Time) (rows : List (ReplayRow Time)) :
    List (ReplayRow Time) :=
  rows.filter fun row => !expired retentionSeconds now row

/-- `append`: a failed INSERT is logged and leaves the table as it is. -/
def append (maxEvents : Nat) (retentionSeconds : Time) (floatRepr : PyFloat → String)
    (rows : List (ReplayRow Time)) (runId : String) (event : JsonEvent) (created now : Time) :
    List (ReplayRow Time) :=
  match event.value.dumps floatRepr with
  | none => rows
  | some serialized =>
      match insertRow rows ⟨runId, nextSeq rows runId, serialized, created⟩ with
      | none => rows
      | some inserted => purgeExpired retentionSeconds now (enforceCap maxEvents inserted runId)

/-- `SELECT event ... WHERE run_id = ? ORDER BY seq ASC`, read with `json.loads`. -/
def selectEvents (rows : List (ReplayRow Time)) (runId : String) : List PyValue :=
  ((ofRun rows runId).insertionSort fun first second => first.seq ≤ second.seq).map
    fun row => row.event.loads

def backend (maxEvents : Nat) (retentionSeconds : Time) (floatRepr : PyFloat → String) :
    ReplayBackend Time (List (ReplayRow Time)) where
  append := append maxEvents retentionSeconds floatRepr
  getEvents rows runId now :=
    let kept := purgeExpired retentionSeconds now rows
    (kept, selectEvents kept runId)
  clear rows runId _ := rows.filter fun row => !(row.runId = runId)
  listed := selectEvents
  noExpiry rows
    | .append _ _ created now =>
        (∀ row ∈ rows, expired retentionSeconds now row = false) ∧
          (0 < retentionSeconds → now - retentionSeconds ≤ created)
    | .getEvents _ now => ∀ row ∈ rows, expired retentionSeconds now row = false
    | .clear _ _ => True

end

end SqliteReplayStore

/-! ### RedisReplayStore -/

/-- A list key; `deadline` is when it expires. -/
structure RedisList (Time : Type) where
  items : List Json
  deadline : Option Time

abbrev RedisLists (Time : Type) := String → Option (RedisList Time)

namespace RedisReplayStore

variable {Time : Type}

def makeKey (runId : String) : String := "agentic:replay:" ++ runId

/-- An index of `LTRIM` or `LRANGE`, negative ones counting from the end. -/
def index (length : Nat) (position : Int) : Int :=
  if position < 0 then max 0 (length + position) else position

/-- The items from index `start` to index `stop`, both included. -/
def range {Item : Type} (start stop : Int) (items : List Item) : List Item :=
  let first := (index items.length start).toNat
  let last := if stop < 0 then items.length + stop else stop
  (items.take (last + 1).toNat).drop first

variable (lists : RedisLists Time)

def store (key : String) (list : RedisList Time) : RedisLists Time :=
  update lists key (if list.items.isEmpty then none else some list)

def rpush (key : String) (item : Json) : RedisLists Time :=
  match lists key with
  | none => store lists key ⟨[item], none⟩
  | some list => store lists key { list with items := list.items ++ [item] }

def ltrim (key : String) (start stop : Int) : RedisLists Time :=
  match lists key with
  | none => lists
  | some list => store lists key { list with items := range start stop list.items }

def lrange (key : String) (start stop : Int) : List Json :=
  match lists key with
  | none => []
  | some list => range start stop list.items

def del (key : String) : RedisLists Time :=
  update lists key none

section

variable [LinearOrder Time] [AddCommGroup Time] (lists : RedisLists Time)

def expire (key : String) (ttlSeconds now : Time) : RedisLists Time :=
  match lists key with
  | none => lists
  | some list =>
      if 0 < ttlSeconds then store lists key { list with deadline := some (now + ttlSeconds) }
      else del lists key

def expired (now : Time) (list : RedisList Time) : Bool :=
  match list.deadline with
  | none => false
  | some deadline => deadline ≤ now

/-- The database as a command that comes in at `now` finds it. -/
def live (now : Time) : RedisLists Time := fun key =>
  (lists key).filter fun list => !expired now list

/-- The pipeline of `append`. -/
def append (maxEvents : Nat) (ttlSeconds : Time) (floatRepr : PyFloat → String)
    (lists : RedisLists Time) (runId : String) (event : JsonEvent) (now : Time) :
    RedisLists Time :=
  match event.value.dumps floatRepr with
  | none => lists
  | some serialized =>
      let key := makeKey runId
      let pushed := rpush (live lists now) key serialized
      expire (ltrim pushed key (-(maxEvents : Int)) (-1)) key ttlSeconds now

def readEvents (runId : String) : List PyValue :=
  (lrange lists (makeKey runId) 0 (-1)).map Json.loads

def backend (maxEvents : Nat) (ttlSeconds : Time) (floatRepr : PyFloat → String) :
    ReplayBackend Time (RedisLists Time) where
  append lists runId event _ now := append maxEvents ttlSeconds floatRepr lists runId event now
  getEvents lists runId now := (live lists now, readEvents (live lists now) runId)
  clear lists runId now := del (live lists now) (makeKey runId)
  listed := readEvents
  noExpiry lists
    | .append _ _ _ now =>
        (∀ key list, lists key = some list → expired now list = false) ∧ 0 < ttlSeconds
    | .getEvents _ now => ∀ key list, lists key = some list → expired now list = false
    | .clear _ now => ∀ key list, lists key = some list → expired now list = false

end

end RedisReplayStore

end AgenticRuntime
