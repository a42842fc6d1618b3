/-
Any number of workers that save the same models to one Redis.

`History` is what each worker has loaded, recorded and persisted so far; no code
reads it. The stored counters and the shares of the workers form a ledger, and a
successful compare-and-swap is the only deposit.
-/

import AgenticRuntime.Ledger
import AgenticRuntime.Models.SmartRouter
import AgenticRuntime.Transition

namespace AgenticRuntime

open Function Option

structure History (Model : Type) where
  loaded : Model → Counters := fun _ _ => 0
  recorded : Model → Counters := fun _ _ => 0
  persisted : Model → Counters := fun _ _ => 0

structure Cluster (Worker Model Rest : Type) where
  store : Model → Option (StoredStats Rest)
  router : Worker → SmartRouter Model Rest
  history : Worker → History Model

section

variable {Worker Model Rest : Type} [DecidableEq Model]

def History.next (history : History Model) (router : SmartRouter Model Rest) :
    RouterEvent Model Rest → History Model
  | .record model kind =>
      { history with recorded := update history.recorded model fun field =>
          history.recorded model field + kind.increments field }
  | .loaded =>
      { history with
        loaded := (router.loading.getD []).foldl
          (fun loaded entry => update loaded entry.1 entry.2) history.loaded }
  | .swapped _ true =>
      match router.active with
      | none => history
      | some save =>
          let call := save.call
          { history with persisted := update history.persisted call.model fun field =>
              history.persisted call.model field +
                (call.localStats.counters field - call.baseline field) }
  | _ => history

namespace Cluster

variable [DecidableEq Worker] [DecidableEq Rest]

/-- Redis answers a command that executes with what it holds: a read returns the
value of the key, and the script succeeds exactly on the expected value. -/
def answers (store : Model → Option (StoredStats Rest)) (router : SmartRouter Model Rest) :
    RouterEvent Model Rest → Bool
  | .scanned model stats => store model = some stats
  | .read current => router.active.any fun save => store save.call.model = current
  | .swapped model success =>
      router.active.any fun save =>
        match save.call.phase with
        | .swapping expected => success = decide (store model = expected)
        | _ => false
  | _ => true

/-- `SET` in the script, with the value merged from the one that was read. -/
def write (store : Model → Option (StoredStats Rest)) (router : SmartRouter Model Rest) :
    RouterEvent Model Rest → Model → Option (StoredStats Rest)
  | .swapped model true =>
      match router.active with
      | none => store
      | some save =>
          match save.call.phase with
          | .swapping expected => update store model
              (some (mergeStatsDicts expected save.call.localStats save.call.baseline))
          | _ => store
  | _ => store

def next (cluster : Cluster Worker Model Rest) (event : Worker × RouterEvent Model Rest) :
    Option (Cluster Worker Model Rest) :=
  let router := cluster.router event.1
  if answers cluster.store router event.2 then
    (router.next event.2).map fun after =>
      { store := write cluster.store router event.2
        router := update cluster.router event.1 after
        history := update cluster.history event.1
          ((cluster.history event.1).next router event.2) }
  else none

def start : Cluster Worker Model Rest :=
  { store := fun _ => none, router := fun _ => {}, history := fun _ => {} }

def ledger (cluster : Cluster Worker Model Rest) (model : Model) : Ledger Worker Counters :=
  { total := storedCounters (cluster.store model)
    share := fun worker => (cluster.history worker).persisted model }

end Cluster

end

/-! ### One worker -/

namespace SmartRouter

variable {Model Rest : Type} [DecidableEq Model] (router : SmartRouter Model Rest)

/-- The counters the worker has persisted, as far as it can know: between a
successful script and the resumption of the task, the snapshot it sent. -/
def settled (model : Model) : Counters :=
  match router.active with
  | none => router.baseline model
  | some save =>
      match save.call.phase with
      | .swapped true =>
          if save.call.model = model then save.call.localStats.counters else router.baseline model
      | _ => router.baseline model

def unlocked : SmartRouter Model Rest :=
  { router with active := none }

omit [DecidableEq Model] in
theorem unlocked_baseline :
    router.unlocked.baseline = router.baseline := rfl

theorem unlocked_settled :
    router.unlocked.settled = router.baseline := rfl

theorem settled_of_phase {router : SmartRouter Model Rest} {save : Save Model Rest}
    (active : router.active = some save) (unswapped : save.call.phase ≠ .swapped true) :
    router.settled = router.baseline := by
  funext model field
  simp only [settled, active]

theorem settled_of_swapped {router : SmartRouter Model Rest} {save : Save Model Rest}
    (active : router.active = some save) (swapped : save.call.phase = .swapped true)
    (model : Model) : router.settled model =
      if save.call.model = model then save.call.localStats.counters else router.baseline model := by
  simp only [settled, active, swapped]

structure Tracked (router : SmartRouter Model Rest) (history : History Model) : Prop where
  live : ∀ model field,
    router.counters model field = history.loaded model field + history.recorded model field
  unknown : ∀ model, model ∉ router.models → ∀ field, router.counters model field = 0
  behind : ∀ model field, router.baseline model field ≤ router.counters model field
  settled : ∀ model field,
    history.loaded model field + history.persisted model field = router.settled model field
  call : ∀ save, router.active = some save →
    save.call.baseline = router.baseline save.call.model ∧
    ∀ field, router.baseline save.call.model field ≤ save.call.localStats.counters field ∧
      save.call.localStats.counters field ≤ router.counters save.call.model field
  fresh : router.hasRecorded = false → router.queued = 0 ∧ router.active = none ∧
    ∀ model field, history.recorded model field = 0
  loading : router.loading.isSome = true → router.hasRecorded = false

section

variable {router : SmartRouter Model Rest}

omit [DecidableEq Model] in
theorem iterate_spec (router : SmartRouter Model Rest) (rest : Model → Rest)
    (present advanced : List Model) (allPersisted : Bool) (remaining : List Model) :
    ∃ active reports, router.iterate rest present advanced allPersisted remaining =
        { router with active := active, reports := reports } ∧
      ∀ save, active = some save → save.call.phase = .reading ∧
        save.call.baseline = router.baseline save.call.model ∧
        save.call.localStats.counters = router.counters save.call.model := by
  induction remaining generalizing allPersisted with
  | nil =>
      unfold iterate
      split
      · exact ⟨none, _, rfl, nofun⟩
      · exact ⟨none, _, rfl, nofun⟩
  | cons model remaining ih =>
      unfold iterate
      split
      · split
        · refine ⟨_, router.reports, rfl, ?_⟩
          intro save same
          cases same
          exact ⟨rfl, rfl, rfl⟩
        · exact ih false
      · exact ⟨none, _, rfl, nofun⟩

theorem getStats_counters (unknown : ∀ model, model ∉ router.models →
    ∀ field, router.counters model field = 0) (model : Model) :
    (router.getStats model).counters = router.counters := by
  unfold getStats
  split
  · rfl
  · rename_i missing
    funext other field
    by_cases same : other = model
    · subst same
      simp [unknown other missing field]
    · simp [same]

theorem getStats_models (router : SmartRouter Model Rest) (model other : Model) :
    other ∈ (router.getStats model).models ↔ other ∈ router.models ∨ other = model := by
  unfold getStats
  split
  · rename_i known
    constructor
    · exact Or.inl
    · rintro (member | same)
      · exact member
      · exact same ▸ known
  · simp

end

namespace Tracked

variable {router : SmartRouter Model Rest} {history : History Model}
  {after : SmartRouter Model Rest} {save : Save Model Rest}

theorem congr (tracked : Tracked router history) (counters : after.counters = router.counters)
    (models : after.models = router.models) (baselines : after.baselines = router.baselines)
    (active : after.active = router.active) (hasRecorded : after.hasRecorded = router.hasRecorded)
    (queued : router.hasRecorded = false → after.queued = 0)
    (loading : after.loading.isSome = true → router.hasRecorded = false) :
    Tracked after history := by
  obtain ⟨live, unknown, behind, settled, call, fresh, _⟩ := tracked
  simp only [baseline, SmartRouter.settled] at behind settled call
  constructor
  case live => rw [counters]; exact live
  case unknown => rw [counters, models]; exact unknown
  case behind => simp only [baseline, counters, baselines]; exact behind
  case settled => simp only [SmartRouter.settled, baseline, active, baselines]; exact settled
  case call => simp only [baseline, counters, baselines, active]; exact call
  case fresh =>
    intro unrecorded
    rw [hasRecorded] at unrecorded
    obtain ⟨_, idle, none⟩ := fresh unrecorded
    exact ⟨queued unrecorded, active.trans idle, none⟩
  case loading => rw [hasRecorded]; exact loading

theorem getStats (tracked : Tracked router history) (model : Model) :
    Tracked (router.getStats model) history := by
  have counters := getStats_counters tracked.unknown model
  have members := getStats_models router model
  obtain ⟨live, unknown, behind, settled, call, fresh, loading⟩ := tracked
  have frame : (router.getStats model).baselines = router.baselines ∧
      (router.getStats model).active = router.active ∧
      (router.getStats model).hasRecorded = router.hasRecorded ∧
      (router.getStats model).queued = router.queued ∧
      (router.getStats model).loading = router.loading := by
    unfold SmartRouter.getStats
    split
    · exact ⟨rfl, rfl, rfl, rfl, rfl⟩
    · exact ⟨rfl, rfl, rfl, rfl, rfl⟩
  obtain ⟨baselines, active, hasRecorded, queued, loads⟩ := frame
  simp only [baseline, SmartRouter.settled] at behind settled call
  constructor
  case live => rw [counters]; exact live
  case unknown =>
    intro other missing
    rw [members, not_or] at missing
    rw [counters]
    exact unknown other missing.1
  case behind => simp only [baseline, counters, baselines]; exact behind
  case settled => simp only [SmartRouter.settled, baseline, active, baselines]; exact settled
  case call => simp only [baseline, counters, baselines, active]; exact call
  case fresh => rw [hasRecorded, queued, active]; exact fresh
  case loading => rw [hasRecorded, loads]; exact loading

theorem count (tracked : Tracked router history) (model : Model) (amount : Counters)
    (known : model ∈ router.models) (unloaded : router.loading = none) :
    Tracked
      { router with
        counters := update router.counters model fun field =>
          router.counters model field + amount field
        hasRecorded := true }
      { history with recorded := update history.recorded model fun field =>
          history.recorded model field + amount field } := by
  obtain ⟨live, unknown, behind, settled, call, fresh, loading⟩ := tracked
  have grows : ∀ other field, router.counters other field ≤
      update router.counters model (fun field =>
        router.counters model field + amount field) other field := by
    intro other field
    by_cases same : other = model
    · subst same
      simp
    · simp [same]
  constructor
  case live =>
    intro other field
    by_cases same : other = model
    · subst same
      have now := live other field
      simp only [update_self]
      omega
    · simp only [update_of_ne same]
      exact live other field
  case unknown =>
    intro other missing
    have differs : other ≠ model := fun same => missing (same ▸ known)
    simp only [update_of_ne differs]
    exact unknown other missing
  case behind => exact fun other field => Nat.le_trans (behind other field) (grows other field)
  case settled => exact settled
  case call =>
    intro save active
    obtain ⟨captured, between⟩ := call save active
    refine ⟨captured, ?_⟩
    intro field
    exact ⟨(between field).1, Nat.le_trans (between field).2 (grows _ field)⟩
  case fresh => exact fun impossible => nomatch impossible
  case loading =>
    intro loads
    change router.loading.isSome = true at loads
    rw [unloaded] at loads
    cases loads

theorem unpersisted (tracked : Tracked router history) (unrecorded : router.hasRecorded = false)
    (model : Model) (field : Counter) : history.persisted model field = 0 := by
  obtain ⟨_, idle, none⟩ := tracked.fresh unrecorded
  have live := tracked.live model field
  have behind := tracked.behind model field
  have settled := tracked.settled model field
  have nothing := none model field
  simp only [SmartRouter.settled, idle] at settled
  omega

theorem loadOne (tracked : Tracked router history) (unrecorded : router.hasRecorded = false)
    (entry : Model × Counters) :
    Tracked (router.loadOne entry)
      { history with loaded := update history.loaded entry.1 entry.2 } := by
  have unpersisted := tracked.unpersisted unrecorded
  obtain ⟨queued, idle, unrecordedCounts⟩ := tracked.fresh unrecorded
  have settled := tracked.settled
  simp only [SmartRouter.settled, idle] at settled
  constructor
  case live =>
    intro model field
    by_cases same : model = entry.1
    · subst same
      simp [SmartRouter.loadOne, unrecordedCounts]
    · simp only [SmartRouter.loadOne, update_of_ne same]
      exact tracked.live model field
  case unknown =>
    intro model missing field
    have outside : model ∉ router.models ∧ model ≠ entry.1 := by
      simp only [SmartRouter.loadOne] at missing
      split at missing
      · rename_i known
        exact ⟨missing, fun same => missing (same ▸ known)⟩
      · rw [List.mem_append, List.mem_singleton, not_or] at missing
        exact missing
    simp only [SmartRouter.loadOne, update_of_ne outside.2]
    exact tracked.unknown model outside.1 field
  case behind =>
    intro model field
    by_cases same : model = entry.1
    · subst same
      simp [SmartRouter.loadOne, baseline]
    · have behind := tracked.behind model field
      simp only [SmartRouter.loadOne, baseline, update_of_ne same] at behind ⊢
      exact behind
  case settled =>
    intro model field
    have nothing := unpersisted model field
    by_cases same : model = entry.1
    · subst same
      simp [SmartRouter.loadOne, SmartRouter.settled, idle, baseline, nothing]
    · have before := settled model field
      simp only [SmartRouter.loadOne, SmartRouter.settled, idle, baseline,
        update_of_ne same] at before ⊢
      exact before
  case call =>
    intro save active
    change router.active = some save at active
    rw [idle] at active
    cases active
  case fresh => exact fun _ => ⟨queued, idle, unrecordedCounts⟩
  case loading => exact tracked.loading

theorem load (tracked : Tracked router history) (unrecorded : router.hasRecorded = false)
    (entries : List (Model × Counters)) :
    Tracked (entries.foldl SmartRouter.loadOne router)
      { history with
        loaded := entries.foldl (fun loaded entry => update loaded entry.1 entry.2)
          history.loaded } := by
  induction entries generalizing router history with
  | nil => exact tracked
  | cons entry rest ih => exact ih (tracked.loadOne unrecorded entry) unrecorded

theorem iterate (tracked : Tracked router.unlocked history)
    (recorded : router.hasRecorded = true) (rest : Model → Rest) (present advanced : List Model)
    (allPersisted : Bool) (remaining : List Model) :
    Tracked (router.iterate rest present advanced allPersisted remaining) history := by
  obtain ⟨active, reports, iterated, calls⟩ :=
    iterate_spec router rest present advanced allPersisted remaining
  rw [iterated]
  constructor
  case live => exact tracked.live
  case unknown => exact tracked.unknown
  case behind => exact tracked.behind
  case settled =>
    intro model field
    refine (tracked.settled model field).trans ?_
    rw [unlocked_settled]
    cases active with
    | none => rfl
    | some save =>
        rw [settled_of_phase rfl (by rw [(calls save rfl).1]; exact nofun)]
        rfl
  case call =>
    intro save same
    obtain ⟨_, captured, snapshot⟩ := calls save same
    refine ⟨captured, ?_⟩
    intro field
    rw [snapshot]
    exact ⟨tracked.behind save.call.model field, Nat.le_refl _⟩
  case fresh =>
    intro unrecorded
    change router.hasRecorded = false at unrecorded
    rw [recorded] at unrecorded
    cases unrecorded
  case loading => exact tracked.loading

theorem hasRecorded_of_active (tracked : Tracked router history)
    (active : router.active = some save) : router.hasRecorded = true := by
  by_contra unrecorded
  have idle := (tracked.fresh (Bool.eq_false_iff.mpr unrecorded)).2.1
  rw [active] at idle
  cases idle

theorem release (tracked : Tracked router history) (active : router.active = some save)
    (unswapped : save.call.phase ≠ .swapped true) :
    Tracked router.unlocked history := by
  have recorded := tracked.hasRecorded_of_active active
  constructor
  case live => exact tracked.live
  case unknown => exact tracked.unknown
  case behind => exact tracked.behind
  case settled =>
    intro model field
    have settled := tracked.settled model field
    rw [settled_of_phase active unswapped] at settled
    exact settled
  case call => exact fun save impossible => nomatch impossible
  case fresh =>
    intro unrecorded
    change router.hasRecorded = false at unrecorded
    rw [recorded] at unrecorded
    cases unrecorded
  case loading => exact tracked.loading

theorem carry (tracked : Tracked router history) {later : Save Model Rest}
    (active : router.active = some save) (unswapped : save.call.phase ≠ .swapped true)
    (stays : later.call.phase ≠ .swapped true) (model : later.call.model = save.call.model)
    (localStats : later.call.localStats = save.call.localStats)
    (baseline : later.call.baseline = save.call.baseline) :
    Tracked ({ router with active := some later } : SmartRouter Model Rest) history := by
  have released := tracked.release active unswapped
  have recorded := tracked.hasRecorded_of_active active
  constructor
  case live => exact tracked.live
  case unknown => exact tracked.unknown
  case behind => exact tracked.behind
  case settled =>
    intro model field
    rw [settled_of_phase rfl stays]
    exact released.settled model field
  case call =>
    intro other same
    cases same
    rw [model, localStats, baseline]
    exact tracked.call save active
  case fresh =>
    intro unrecorded
    change router.hasRecorded = false at unrecorded
    rw [recorded] at unrecorded
    cases unrecorded
  case loading => exact tracked.loading

theorem swap (tracked : Tracked router history) (active : router.active = some save)
    (unswapped : save.call.phase ≠ .swapped true) :
    Tracked (router.setPhase save (.swapped true))
      { history with
        persisted := update history.persisted save.call.model fun field =>
          history.persisted save.call.model field +
            (save.call.localStats.counters field - save.call.baseline field) } := by
  have released := tracked.release active unswapped
  have recorded := tracked.hasRecorded_of_active active
  obtain ⟨captured, between⟩ := tracked.call save active
  constructor
  case live => exact tracked.live
  case unknown => exact tracked.unknown
  case behind => exact tracked.behind
  case settled =>
    intro model field
    have settled := released.settled model field
    rw [unlocked_settled] at settled
    rw [settled_of_swapped rfl rfl]
    by_cases same : save.call.model = model
    · subst same
      have order := between field
      rw [if_pos rfl, captured]
      simp only [update_self]
      omega
    · rw [if_neg same]
      simp only [update_of_ne (Ne.symm same)]
      exact settled
  case call =>
    intro other same
    cases same
    exact ⟨captured, between⟩
  case fresh =>
    intro unrecorded
    change router.hasRecorded = false at unrecorded
    rw [recorded] at unrecorded
    cases unrecorded
  case loading => exact tracked.loading

theorem advance (tracked : Tracked router history) (active : router.active = some save)
    (swapped : save.call.phase = .swapped true) :
    Tracked
      ({ router with
        baselines := update router.baselines save.call.model
          (some save.call.localStats.counters) } : SmartRouter Model Rest).unlocked history := by
  have recorded := tracked.hasRecorded_of_active active
  obtain ⟨captured, between⟩ := tracked.call save active
  constructor
  case live => exact tracked.live
  case unknown => exact tracked.unknown
  case behind =>
    intro model field
    by_cases same : model = save.call.model
    · subst same
      rw [unlocked_baseline]
      simp only [baseline, update_self, getD_some]
      exact (between field).2
    · have behind := tracked.behind model field
      rw [unlocked_baseline]
      simp only [baseline, update_of_ne same] at behind ⊢
      exact behind
  case settled =>
    intro model field
    have settled := tracked.settled model field
    rw [settled_of_swapped active swapped] at settled
    rw [unlocked_settled]
    by_cases same : model = save.call.model
    · subst same
      rw [if_pos rfl] at settled
      simp only [baseline, update_self, getD_some]
      exact settled
    · rw [if_neg (Ne.symm same)] at settled
      simp only [baseline, update_of_ne same] at settled ⊢
      exact settled
  case call => exact fun save impossible => nomatch impossible
  case fresh =>
    intro unrecorded
    change router.hasRecorded = false at unrecorded
    rw [recorded] at unrecorded
    cases unrecorded
  case loading => exact tracked.loading

theorem conflict (tracked : Tracked router history) (active : router.active = some save)
    (unswapped : save.call.phase ≠ .swapped true) (rest : Model → Rest) :
    Tracked (router.conflict save rest) history := by
  have recorded := tracked.hasRecorded_of_active active
  have released := tracked.release active unswapped
  unfold SmartRouter.conflict
  split
  · exact released.iterate recorded rest _ _ _ _
  · split
    · exact tracked.carry active unswapped nofun rfl rfl rfl
    · exact released.iterate recorded rest _ _ _ _

theorem connectionLoss (tracked : Tracked router history) (lost : Bool) :
    Tracked (router.handleConnectionLoss lost) history := by
  unfold handleConnectionLoss
  split
  · exact tracked.congr rfl rfl rfl rfl rfl (fun unrecorded => (tracked.fresh unrecorded).1)
      tracked.loading
  · exact tracked

theorem reply (tracked : Tracked router history)
    {phase : CasCall Model Rest → Option (CasPhase Rest)}
    (waits : ∀ call later, phase call = some later →
      call.phase ≠ .swapped true ∧ later ≠ .swapped true)
    (replied : router.reply phase = some after) : Tracked after history := by
  unfold SmartRouter.reply at replied
  split at replied
  · cases replied
  · rename_i save active
    obtain ⟨later, known, same⟩ := map_eq_some_iff.mp replied
    obtain ⟨unswapped, stays⟩ := waits save.call later known
    exact same ▸ tracked.carry active unswapped stays rfl rfl rfl

theorem resume (tracked : Tracked router history) (rest : Model → Rest)
    (resumed : router.resume rest = some after) : Tracked after history := by
  unfold SmartRouter.resume at resumed
  split at resumed
  · cases resumed
  · rename_i save active
    have recorded := tracked.hasRecorded_of_active active
    split at resumed
    · rename_i current reads
      have unswapped : save.call.phase ≠ .swapped true := by
        rw [reads]
        exact nofun
      cases resumed
      split
      · exact tracked.carry active unswapped nofun rfl rfl rfl
      · exact tracked.conflict active unswapped rest
    · rename_i swapped
      cases resumed
      exact (tracked.advance active swapped).iterate recorded rest _ _ _ _
    · rename_i failed
      cases resumed
      exact tracked.conflict active (by rw [failed]; exact nofun) rest
    · cases resumed

theorem record (tracked : Tracked router history) (unloaded : router.loading = none)
    (model : Model) (kind : RecordKind) : Tracked (router.record model kind)
      { history with recorded := update history.recorded model fun field =>
          history.recorded model field + kind.increments field } := by
  have known : model ∈ (router.getStats model).models :=
    (getStats_models router model model).mpr (.inr rfl)
  have loading : (router.getStats model).loading = none := by
    unfold SmartRouter.getStats
    split
    · exact unloaded
    · exact unloaded
  have counted := (tracked.getStats model).count model kind.increments known loading
  have saved : ∀ queued, Tracked
      ({ router.getStats model with
        counters := update (router.getStats model).counters model fun field =>
          (router.getStats model).counters model field + kind.increments field
        hasRecorded := true
        queued := queued } : SmartRouter Model Rest)
      { history with recorded := update history.recorded model fun field =>
          history.recorded model field + kind.increments field } := by
    intro queued
    exact counted.congr rfl rfl rfl rfl rfl nofun counted.loading
  simp only [SmartRouter.record, saveStats]
  split
  · split
    · exact saved _
    · exact counted
  · exact counted

theorem next (tracked : Tracked router history) {event : RouterEvent Model Rest}
    (taken : router.next event = some after) :
    Tracked after (history.next router event) := by
  cases event with
  | record model kind =>
      simp only [SmartRouter.next] at taken
      split at taken
      · cases taken
      · rename_i unloaded
        cases taken
        exact tracked.record (by simpa using unloaded) model kind
  | touch model =>
      simp only [SmartRouter.next] at taken
      split at taken
      · cases taken
      · cases taken
        exact tracked.getStats model
  | beginLoad =>
      simp only [SmartRouter.next] at taken
      split at taken
      · cases taken
      · rename_i allowed
        cases taken
        have unrecorded : router.hasRecorded = false := by
          cases recorded : router.hasRecorded with
          | false => rfl
          | true => simp [recorded] at allowed
        exact tracked.congr rfl rfl rfl rfl rfl (fun _ => (tracked.fresh unrecorded).1)
          fun _ => unrecorded
  | scanned model stats =>
      obtain ⟨entries, loads, same⟩ := map_eq_some_iff.mp taken
      subst same
      have unrecorded := tracked.loading (by rw [loads]; rfl)
      exact tracked.congr rfl rfl rfl rfl rfl (fun _ => (tracked.fresh unrecorded).1)
        fun _ => unrecorded
  | loadFailed lost =>
      obtain ⟨entries, loads, same⟩ := map_eq_some_iff.mp taken
      subst same
      have unrecorded := tracked.loading (by rw [loads]; rfl)
      have ended : Tracked ({ router with loading := none } : SmartRouter Model Rest) history :=
        tracked.congr rfl rfl rfl rfl rfl (fun _ => (tracked.fresh unrecorded).1) nofun
      exact ended.connectionLoss lost
  | loaded =>
      obtain ⟨entries, loads, same⟩ := map_eq_some_iff.mp taken
      subst same
      have unrecorded := tracked.loading (by rw [loads]; rfl)
      have applied := tracked.load unrecorded entries
      simp only [History.next, loads, getD_some]
      exact applied.congr rfl rfl rfl rfl rfl (fun early => (applied.fresh early).1) nofun
  | acquire rest =>
      simp only [SmartRouter.next] at taken
      split at taken
      · rename_i enabled
        cases taken
        have recorded : router.hasRecorded = true := by
          by_contra unrecorded
          have none := (tracked.fresh (Bool.eq_false_iff.mpr unrecorded)).1
          omega
        have idle : router.active = none := isNone_iff_eq_none.mp enabled.1
        have unlocked : Tracked
            ({ router with queued := router.queued - 1 } : SmartRouter Model Rest).unlocked
            history := by
          refine tracked.congr rfl rfl rfl idle.symm rfl ?_ tracked.loading
          intro unrecorded
          rw [recorded] at unrecorded
          cases unrecorded
        exact unlocked.iterate recorded rest _ _ _ _
      · cases taken
  | read current =>
      simp only [SmartRouter.next] at taken
      refine tracked.reply ?_ taken
      intro call later known
      split at known
      · rename_i reading
        cases known
        refine ⟨?_, nofun⟩
        intro swapped
        simp [swapped] at reading
      · cases known
  | readFailed lost =>
      simp only [SmartRouter.next] at taken
      refine (tracked.connectionLoss lost).reply ?_ taken
      intro call later known
      split at known
      · rename_i reading
        cases known
        refine ⟨?_, nofun⟩
        intro swapped
        simp [swapped] at reading
      · cases known
  | swapped model success =>
      cases success with
      | false =>
          simp only [SmartRouter.next] at taken
          refine tracked.reply ?_ taken
          intro call later known
          split at known
          · split at known
            · rename_i expected swapping
              cases known
              refine ⟨?_, nofun⟩
              rw [swapping]
              exact nofun
            · cases known
          · cases known
      | true =>
          simp only [SmartRouter.next, SmartRouter.reply] at taken
          split at taken
          · cases taken
          · rename_i save active
            split at taken
            · split at taken
              · rename_i expected swapping
                cases taken
                simp only [History.next, active]
                refine tracked.swap active ?_
                rw [swapping]
                exact nofun
              · cases taken
            · cases taken
  | swapFailed lost =>
      simp only [SmartRouter.next] at taken
      refine (tracked.connectionLoss lost).reply ?_ taken
      intro call later known
      split at known
      · rename_i expected swapping
        cases known
        refine ⟨?_, nofun⟩
        rw [swapping]
        exact nofun
      · cases known
  | resume rest => exact tracked.resume rest taken
  | close =>
      cases taken
      exact tracked.congr rfl rfl rfl rfl rfl (fun unrecorded => (tracked.fresh unrecorded).1)
        tracked.loading

end Tracked

theorem next_swapped {router after : SmartRouter Model Rest} {model : Model} {success : Bool}
    (taken : router.next (.swapped model success) = some after) :
    ∃ save expected, router.active = some save ∧ save.call.model = model ∧
      save.call.phase = .swapping expected := by
  simp only [next, reply] at taken
  split at taken
  · cases taken
  · rename_i save active
    split at taken
    · rename_i same
      split at taken
      · rename_i expected swapping
        exact ⟨save, expected, active, same, swapping⟩
      · cases taken
    · cases taken

end SmartRouter

/-! ### All workers -/

namespace Cluster

variable {Worker Model Rest : Type} [DecidableEq Worker] [DecidableEq Model] [DecidableEq Rest]
  {cluster after : Cluster Worker Model Rest} {event : Worker × RouterEvent Model Rest}

theorem next_some (taken : cluster.next event = some after) :
    ∃ router, (cluster.router event.1).next event.2 = some router ∧
      answers cluster.store (cluster.router event.1) event.2 = true ∧
      after = { store := write cluster.store (cluster.router event.1) event.2
                router := update cluster.router event.1 router
                history := update cluster.history event.1
                  ((cluster.history event.1).next (cluster.router event.1) event.2) } := by
  simp only [next] at taken
  split at taken
  · rename_i answered
    obtain ⟨router, stepped, same⟩ := map_eq_some_iff.mp taken
    exact ⟨router, stepped, answered, same.symm⟩
  · cases taken

omit [DecidableEq Rest] in
private theorem untouched {store : Model → Option (StoredStats Rest)}
    {router : SmartRouter Model Rest} {history : History Model} {event : RouterEvent Model Rest}
    (quiet : ∀ model, event ≠ .swapped model true) :
    write store router event = store ∧ (history.next router event).persisted = history.persisted := by
  cases event with
  | swapped model success =>
      cases success with
      | true => exact absurd rfl (quiet model)
      | false => exact ⟨rfl, rfl⟩
  | _ => exact ⟨rfl, rfl⟩

theorem next_extends (taken : cluster.next event = some after) (model : Model) :
    (cluster.ledger model).Extends (after.ledger model) := by
  obtain ⟨router, stepped, answered, same⟩ := next_some taken
  subst same
  by_cases quiet : ∀ model, event.2 ≠ .swapped model true
  · have frame : write cluster.store (cluster.router event.1) event.2 = cluster.store ∧
        ((cluster.history event.1).next (cluster.router event.1) event.2).persisted =
          (cluster.history event.1).persisted := untouched quiet
    obtain ⟨store, persisted⟩ := frame
    left
    simp only [ledger, store]
    congr 1
    funext worker
    by_cases own : worker = event.1
    · subst own
      rw [update_self, persisted]
    · rw [update_of_ne own]
  · simp only [not_forall, not_not] at quiet
    obtain ⟨key, swaps⟩ := quiet
    rw [swaps] at stepped answered
    obtain ⟨save, expected, active, target, swapping⟩ := SmartRouter.next_swapped stepped
    have current : cluster.store key = expected := by
      simp only [answers, active, any_some, swapping] at answered
      simpa using answered
    by_cases own : model = key
    · right
      subst own
      refine ⟨event.1, fun field =>
        save.call.localStats.counters field - save.call.baseline field, ?_⟩
      simp only [ledger, Ledger.deposit, swaps, write, History.next, active, swapping, target]
      congr 1
      · funext field
        simp [storedCounters, mergeStatsDicts, current]
      · funext worker
        by_cases acting : worker = event.1
        · subst acting
          simp only [update_self]
          rfl
        · simp only [update_of_ne acting]
    · left
      simp only [ledger, swaps, write, History.next, active, swapping, target, update_of_ne own]
      congr 1
      funext worker
      by_cases acting : worker = event.1
      · subst acting
        simp only [update_self, update_of_ne own]
      · simp only [update_of_ne acting]

def Tracked (cluster : Cluster Worker Model Rest) : Prop :=
  ∀ worker, (cluster.router worker).Tracked (cluster.history worker)

theorem next_tracked (tracked : cluster.Tracked) (taken : cluster.next event = some after) :
    after.Tracked := by
  obtain ⟨router, stepped, _, same⟩ := next_some taken
  subst same
  intro worker
  by_cases own : worker = event.1
  · subst own
    simp only [update_self]
    exact (tracked event.1).next stepped
  · simp only [update_of_ne own]
    exact tracked worker

omit [DecidableEq Worker] [DecidableEq Rest] in
theorem start_tracked : (start : Cluster Worker Model Rest).Tracked := by
  intro worker
  constructor
  case live => exact fun _ _ => rfl
  case unknown => exact fun _ _ _ => rfl
  case behind => exact fun _ _ => Nat.le_refl 0
  case settled => exact fun _ _ => rfl
  case call => exact fun _ impossible => nomatch impossible
  case fresh => exact fun _ => ⟨rfl, rfl, fun _ _ => rfl⟩
  case loading => exact fun impossible => nomatch impossible

variable [Fintype Worker]

/-- What each worker has added to Redis is what Redis holds; what it has not
added yet is what its next save will add. -/
structure ExactlyOnce (cluster : Cluster Worker Model Rest) : Prop where
  stored : ∀ model field, storedCounters (cluster.store model) field =
    ∑ worker, (cluster.history worker).persisted model field
  quiet : (∀ worker, (cluster.router worker).active = none) → ∀ model field,
    storedCounters (cluster.store model) field =
      ∑ worker, ((cluster.router worker).baseline model field -
        (cluster.history worker).loaded model field)
  covered : ∀ worker model field,
    (cluster.history worker).persisted model field ≤ (cluster.history worker).recorded model field
  pending : ∀ worker, (cluster.router worker).active = none → ∀ model field,
    (cluster.history worker).loaded model field + (cluster.history worker).persisted model field =
        (cluster.router worker).baseline model field ∧
      (cluster.history worker).persisted model field +
          ((cluster.router worker).counters model field -
            (cluster.router worker).baseline model field) =
        (cluster.history worker).recorded model field

omit [DecidableEq Worker] in
theorem exactlyOnce_of_tracked (tracked : cluster.Tracked)
    (balanced : ∀ model, (cluster.ledger model).Balanced) : cluster.ExactlyOnce := by
  have stored : ∀ model field, storedCounters (cluster.store model) field =
      ∑ worker, (cluster.history worker).persisted model field := by
    intro model field
    have total := congrFun (balanced model) field
    rw [Finset.sum_apply] at total
    exact total
  have idle : ∀ worker, (cluster.router worker).active = none → ∀ model field,
      (cluster.history worker).loaded model field + (cluster.history worker).persisted model field =
        (cluster.router worker).baseline model field := by
    intro worker free model field
    have settled := (tracked worker).settled model field
    simp only [SmartRouter.settled, free] at settled
    exact settled
  constructor
  case stored => exact stored
  case quiet =>
    intro free model field
    rw [stored]
    refine Finset.sum_congr rfl ?_
    intro worker _
    have known := idle worker (free worker) model field
    omega
  case covered =>
    intro worker model field
    have settled := (tracked worker).settled model field
    have live := (tracked worker).live model field
    have reached : (cluster.router worker).settled model field ≤
        (cluster.router worker).counters model field := by
      cases active : (cluster.router worker).active with
      | none =>
          simp only [SmartRouter.settled, active]
          exact (tracked worker).behind model field
      | some save =>
          by_cases swapped : save.call.phase = .swapped true
          · rw [SmartRouter.settled_of_swapped active swapped]
            split
            · rename_i same
              subst same
              exact (((tracked worker).call save active).2 field).2
            · exact (tracked worker).behind model field
          · rw [SmartRouter.settled_of_phase active swapped]
            exact (tracked worker).behind model field
    omega
  case pending =>
    intro worker free model field
    have known := idle worker free model field
    have live := (tracked worker).live model field
    have behind := (tracked worker).behind model field
    refine ⟨known, ?_⟩
    omega

/-- From empty keys on, whatever the workers do and however their commands
interleave, no increment is lost from Redis or counted twice. -/
theorem counters_exactly_once (events : List (Worker × RouterEvent Model Rest))
    (finish : Cluster Worker Model Rest)
    (run : Transition.replay next start events = some finish) :
    finish.ExactlyOnce ∧ ∀ event after, finish.next event = some after → ∀ model,
      storedCounters (finish.store model) ≤ storedCounters (after.store model) := by
  have balanced : ∀ model, ((start : Cluster Worker Model Rest).ledger model).Balanced := by
    intro model
    funext field
    simp [start, ledger, storedCounters]
  have preserved : ∀ (cluster : Cluster Worker Model Rest) event after,
      (cluster.Tracked ∧ ∀ model, (cluster.ledger model).Balanced) →
      cluster.next event = some after →
      after.Tracked ∧ ∀ model, (after.ledger model).Balanced := by
    intro cluster event after before taken
    exact ⟨next_tracked before.1 taken, fun model => (next_extends taken model).balanced (before.2 model)⟩
  have held := Transition.replay_invariant preserved ⟨start_tracked, balanced⟩ run
  refine ⟨exactlyOnce_of_tracked held.1 held.2, ?_⟩
  intro event after taken model
  exact (next_extends taken model).total_le

/-- Two workers read the empty key, the first one swaps, and the second merges on
top of what it finds when it tries again. -/
def contention : List (Bool × RouterEvent String Unit) :=
  let written : StoredStats Unit :=
    { counters := fun field => if field = .success then 1 else 0, rest := () }
  [(false, .record "phi4" .success), (true, .record "phi4" .timeout),
    (false, .acquire fun _ => ()), (true, .acquire fun _ => ()),
    (false, .read none), (true, .read none),
    (false, .resume fun _ => ()), (true, .resume fun _ => ()),
    (false, .swapped "phi4" true), (true, .swapped "phi4" false),
    (true, .resume fun _ => ()), (true, .read (some written)), (true, .resume fun _ => ()),
    (true, .swapped "phi4" true), (true, .resume fun _ => ()), (false, .resume fun _ => ())]

theorem counters_exactly_once_contention : ∃ finish : Cluster Bool String Unit,
    Transition.replay next start contention = some finish ∧
      (∀ field, storedCounters (finish.store "phi4") field =
        if field = .rateLimit then 0 else 1) ∧ finish.ExactlyOnce := by
  have whole : ∃ finish : Cluster Bool String Unit,
      Transition.replay next start contention = some finish ∧
        ∀ field, storedCounters (finish.store "phi4") field = if field = .rateLimit then 0 else 1 := by
    refine ⟨_, rfl, ?_⟩
    intro field
    cases field <;> rfl
  obtain ⟨finish, run, stored⟩ := whole
  exact ⟨finish, run, stored, (counters_exactly_once contention finish run).1⟩

end Cluster

end AgenticRuntime
