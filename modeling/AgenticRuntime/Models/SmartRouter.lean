/-
The statistics of `SmartModelRouter` and the task that saves them to Redis, as
one worker process sees it: its own calls and the replies of Redis are events.

A command takes two events, its execution (or its failure) and the resumption of
the task that awaits it, so other code of the worker runs in between.
-/

import AgenticRuntime.Models.RedisState

namespace AgenticRuntime

/-- Where `save_stats_cas` awaits. -/
inductive CasPhase (Rest : Type) where
  | reading
  | read (current : Option (StoredStats Rest))
  | swapping (expected : Option (StoredStats Rest))
  | swapped (success : Bool)
  deriving DecidableEq

/-- The locals of one call of `save_stats_cas`: `stats.to_dict()`, the baseline
it was passed, and how many attempts are left after this one. -/
structure CasCall (Model Rest : Type) where
  model : Model
  localStats : StoredStats Rest
  baseline : Counters
  retries : Nat
  phase : CasPhase Rest

/-- A save task that holds the lock. `present` are the models when it took the
lock, which fixes the size its iterator expects, and `advanced` those whose
baseline it has moved. -/
structure Save (Model Rest : Type) where
  present : List Model
  remaining : List Model
  advanced : List Model
  allPersisted : Bool
  call : CasCall Model Rest

structure SaveReport (Model : Type) where
  present : List Model
  advanced : List Model
  raised : Option String
  fileWritten : Bool
  deriving DecidableEq, Repr

/-- `models` are the keys of `model_stats` in insertion order; `queued` counts
the save tasks that have not taken the lock yet. -/
structure SmartRouter (Model Rest : Type) where
  models : List Model := []
  counters : Model → Counters := fun _ _ => 0
  baselines : Model → Option Counters := fun _ => none
  statsFile : Bool := false
  autoSave : Bool := true
  connected : Bool := true
  loading : Option (List (Model × Counters)) := none
  hasRecorded : Bool := false
  queued : Nat := 0
  active : Option (Save Model Rest) := none
  reports : List (SaveReport Model) := []

inductive RouterEvent (Model Rest : Type) where
  | record (model : Model) (kind : RecordKind)
  | touch (model : Model)
  | beginLoad
  | scanned (model : Model) (stats : StoredStats Rest)
  | loadFailed (lost : Bool)
  | loaded
  | acquire (rest : Model → Rest)
  | read (current : Option (StoredStats Rest))
  | readFailed (lost : Bool)
  | swapped (model : Model) (success : Bool)
  | swapFailed (lost : Bool)
  | resume (rest : Model → Rest)
  | close

namespace SmartRouter

variable {Model Rest : Type} [DecidableEq Model] (router : SmartRouter Model Rest)

/-- `_redis_counter_baselines.get(model)`, where nothing counts as zero. -/
def baseline (model : Model) : Counters :=
  (router.baselines model).getD fun _ => 0

def getStats (model : Model) : SmartRouter Model Rest :=
  if model ∈ router.models then router
  else { router with
    models := router.models ++ [model]
    counters := Function.update router.counters model fun _ => 0 }

def shouldPersist : Bool := router.statsFile || router.connected

/-- `_save_stats`: the file fallback of a router without a connection leaves
nothing any other code here reads. -/
def saveStats : SmartRouter Model Rest :=
  if router.connected then { router with queued := router.queued + 1 } else router

/-- `record_success`, `record_failure`, `record_rate_limit` and `record_timeout`. -/
def record (model : Model) (kind : RecordKind) :
    SmartRouter Model Rest :=
  let known := router.getStats model
  let counted := { known with
    counters := Function.update known.counters model fun field =>
      known.counters model field + kind.increments field
    hasRecorded := true }
  if counted.autoSave && counted.shouldPersist then counted.saveStats else counted

/-- One entry of the dict `_load_stats_from_redis` has read. -/
def loadOne (entry : Model × Counters) :
    SmartRouter Model Rest :=
  { router with
    models := if entry.1 ∈ router.models then router.models else router.models ++ [entry.1]
    counters := Function.update router.counters entry.1 entry.2
    baselines := Function.update router.baselines entry.1 (some entry.2) }

/-- The save task leaves the lock and, if it raised nothing, may write the file. -/
def endSave (present advanced : List Model) (allPersisted : Bool) (raised : Option String) :
    SmartRouter Model Rest :=
  { router with
    active := none
    reports := router.reports ++ [{
      present := present
      advanced := advanced
      raised := raised
      fileWritten := raised.isNone && !allPersisted && router.statsFile }] }

/-- The loop of `_save_stats_to_redis` from the next step of its iterator on. The
iterator looks at the size of the dict before anything else. -/
def iterate (router : SmartRouter Model Rest) (rest : Model → Rest) (present advanced : List Model)
    (allPersisted : Bool) : List Model → SmartRouter Model Rest
  | [] =>
      if router.models.length = present.length then
        router.endSave present advanced allPersisted none
      else router.endSave present advanced allPersisted
        (some "RuntimeError: dictionary changed size during iteration")
  | model :: remaining =>
      if router.models.length = present.length then
        if router.connected then
          { router with active := some {
              present := present
              remaining := remaining
              advanced := advanced
              allPersisted := allPersisted
              call := {
                model := model
                localStats := { counters := router.counters model, rest := rest model }
                baseline := router.baseline model
                retries := casMaxRetries - 1
                phase := .reading } } }
        else iterate router rest present advanced false remaining
      else router.endSave present advanced allPersisted
        (some "RuntimeError: dictionary changed size during iteration")

def acquire (rest : Model → Rest) : SmartRouter Model Rest :=
  ({ router with queued := router.queued - 1 } : SmartRouter Model Rest).iterate rest router.models []
    true router.models

def setPhase (save : Save Model Rest) (phase : CasPhase Rest) :
    SmartRouter Model Rest :=
  { router with active := some { save with call := { save.call with phase := phase } } }

/-- `cas` returned false: without a connection every further attempt does too. -/
def conflict (save : Save Model Rest) (rest : Model → Rest) :
    SmartRouter Model Rest :=
  match save.call.retries with
  | 0 => router.iterate rest save.present save.advanced false save.remaining
  | retries + 1 =>
      if router.connected then
        { router with active := some { save with
            call := { save.call with retries := retries, phase := .reading } } }
      else router.iterate rest save.present save.advanced false save.remaining

/-- `cas` returned true: the snapshot, not the merged value, is the new baseline. -/
def persisted (save : Save Model Rest) (rest : Model → Rest) :
    SmartRouter Model Rest :=
  ({ router with baselines :=
      Function.update router.baselines save.call.model (some save.call.localStats.counters) } :
    SmartRouter Model Rest).iterate rest save.present (save.advanced ++ [save.call.model])
      save.allPersisted save.remaining

def resume (rest : Model → Rest) :
    Option (SmartRouter Model Rest) :=
  match router.active with
  | none => none
  | some save =>
      match save.call.phase with
      | .read current =>
          some (if router.connected then router.setPhase save (.swapping current)
            else router.conflict save rest)
      | .swapped true => some (router.persisted save rest)
      | .swapped false => some (router.conflict save rest)
      | _ => none

def reply (phase : CasCall Model Rest → Option (CasPhase Rest)) : Option (SmartRouter Model Rest) :=
  match router.active with
  | none => none
  | some save => (phase save.call).map (router.setPhase save)

def handleConnectionLoss (lost : Bool) :
    SmartRouter Model Rest :=
  if lost then { router with connected := false } else router

/-- A router is handed out once `create_with_redis` has loaded it, so no call
comes in while it loads, and it loads only before it has recorded anything. -/
def next :
    RouterEvent Model Rest → Option (SmartRouter Model Rest)
  | .record model kind => if router.loading.isSome then none else some (router.record model kind)
  | .touch model => if router.loading.isSome then none else some (router.getStats model)
  | .beginLoad =>
      if router.loading.isSome || router.hasRecorded || !router.connected then none
      else some { router with loading := some [] }
  | .scanned model stats =>
      router.loading.map fun entries =>
        { router with loading := some (entries ++ [(model, stats.counters)]) }
  | .loadFailed lost =>
      router.loading.map fun _ => ({ router with loading := none } :
        SmartRouter Model Rest).handleConnectionLoss lost
  | .loaded =>
      router.loading.map fun entries =>
        { entries.foldl loadOne router with loading := none }
  | .acquire rest =>
      if router.active.isNone ∧ 0 < router.queued then some (router.acquire rest) else none
  | .read current =>
      router.reply fun call => if call.phase matches .reading then some (.read current) else none
  | .readFailed lost =>
      (router.handleConnectionLoss lost).reply fun call =>
        if call.phase matches .reading then some (.read none) else none
  | .swapped model success =>
      router.reply fun call =>
        if call.model = model then
          match call.phase with
          | .swapping _ => some (.swapped success)
          | _ => none
        else none
  | .swapFailed lost =>
      (router.handleConnectionLoss lost).reply fun call =>
        match call.phase with
        | .swapping _ => some (.swapped false)
        | _ => none
  | .resume rest => router.resume rest
  | .close => some { router with connected := false }

end SmartRouter

end AgenticRuntime
