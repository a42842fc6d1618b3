/-
Single probe, and no call while the circuit is open.

The probe lock gives the first in every interleaving. The second hangs on what a
caller finds when it comes out of the semaphore: `execute_with_bulkhead` looks for a
half-open circuit there, not for an open one.
-/

import AgenticRuntime.Models.Bulkhead

namespace AgenticRuntime

open List Function Transition

namespace Bulkhead

variable {Caller Model Provider : Type}

variable (router : Bulkhead Caller Model Provider)

/-- At most one of the callers inside entered a half-open circuit of the model. -/
def SingleProbe : Prop :=
  ∀ first second model firstProbe secondProbe,
    router.callers first = some (model, .inside .halfOpen firstProbe) →
    router.callers second = some (model, .inside .halfOpen secondProbe) → first = second

def NoneWhileOpen : Prop :=
  ∀ entrance ∈ router.entrances, entrance.circuitState ≠ .isOpen

/-- Whoever comes out of the wait for the semaphore finds the circuit of its model
not open. -/
def FindsNotOpen :
    BulkheadEvent Caller Model → Prop
  | .acquire caller => ∀ model, router.callers caller = some (model, .waiting) →
      (router.stats model).circuitState ≠ .isOpen
  | _ => True

/-- A probe holds the lock of its provider, and who entered half open is a probe. -/
structure Guarded (provider : Model → Provider) (router : Bulkhead Caller Model Provider) :
    Prop where
  holds : ∀ caller model entered, router.callers caller = some (model, .inside entered true) →
    router.probeLocks (provider model) = some caller
  probes : ∀ caller model probe, router.callers caller = some (model, .inside .halfOpen probe) →
    probe = true

def NeedsNoLock (place : Option (Model × CallPhase)) : Prop :=
  ∀ model entered probe, place = some (model, .inside entered probe) →
    probe = false ∧ entered ≠ .halfOpen

section

variable {provider : Model → Provider} {router after : Bulkhead Caller Model Provider}
  {caller : Caller} {model : Model} {place : Option (Model × CallPhase)}

theorem Guarded.singleProbe (guarded : router.Guarded provider) : router.SingleProbe := by
  intro first second model firstProbe secondProbe firstIn secondIn
  have isFirst := guarded.probes first model firstProbe firstIn
  have isSecond := guarded.probes second model secondProbe secondIn
  subst firstProbe secondProbe
  have firstHolds := guarded.holds first model .halfOpen firstIn
  have secondHolds := guarded.holds second model .halfOpen secondIn
  exact Option.some.inj (firstHolds.symm.trans secondHolds)

theorem Guarded.congr (guarded : router.Guarded provider) (phases : after.callers = router.callers)
    (locks : after.probeLocks = router.probeLocks) : after.Guarded provider := by
  constructor
  · intro caller model entered inside
    rw [phases] at inside
    rw [locks]
    exact guarded.holds caller model entered inside
  · intro caller model probe inside
    rw [phases] at inside
    exact guarded.probes caller model probe inside

variable [DecidableEq Caller]

theorem Guarded.move (guarded : router.Guarded provider) (caller : Caller)
    (free : NeedsNoLock place)
    (phases : after.callers = update router.callers caller place)
    (locks : after.probeLocks = router.probeLocks) : after.Guarded provider := by
  constructor
  · intro other model entered inside
    rw [phases] at inside
    rw [locks]
    by_cases same : other = caller
    · rw [same, update_self] at inside
      cases (free model entered true inside).1
    · rw [update_of_ne same] at inside
      exact guarded.holds other model entered inside
  · intro other model probe inside
    rw [phases] at inside
    by_cases same : other = caller
    · rw [same, update_self] at inside
      exact absurd rfl (free model .halfOpen probe inside).2
    · rw [update_of_ne same] at inside
      exact guarded.probes other model probe inside

variable [DecidableEq Provider]

theorem Guarded.probe (guarded : router.Guarded provider)
    (free : router.probeLocks (provider model) = none) {entered : CircuitState}
    (phases : after.callers =
      update router.callers caller (some (model, .inside entered true)))
    (locks : after.probeLocks =
      update router.probeLocks (provider model) (some caller)) :
    after.Guarded provider := by
  constructor
  · intro other otherModel otherEntered inside
    rw [phases] at inside
    rw [locks]
    by_cases same : other = caller
    · rw [same, update_self] at inside
      cases inside
      rw [same, update_self]
    · rw [update_of_ne same] at inside
      have held := guarded.holds other otherModel otherEntered inside
      have apart : provider otherModel ≠ provider model := by
        intro equal
        rw [equal, free] at held
        cases held
      rw [update_of_ne apart]
      exact held
  · intro other otherModel probe inside
    rw [phases] at inside
    by_cases same : other = caller
    · rw [same, update_self] at inside
      cases inside
      rfl
    · rw [update_of_ne same] at inside
      exact guarded.probes other otherModel probe inside

theorem Guarded.release (guarded : router.Guarded provider) {entered : CircuitState}
    (inside : router.callers caller = some (model, .inside entered true))
    (phases : after.callers = update router.callers caller none)
    (locks : after.probeLocks = update router.probeLocks (provider model) none) :
    after.Guarded provider := by
  have own := guarded.holds caller model entered inside
  constructor
  · intro other otherModel otherEntered otherInside
    rw [phases] at otherInside
    rw [locks]
    by_cases same : other = caller
    · rw [same, update_self] at otherInside
      cases otherInside
    · rw [update_of_ne same] at otherInside
      have held := guarded.holds other otherModel otherEntered otherInside
      have apart : provider otherModel ≠ provider model := by
        intro equal
        rw [equal, own] at held
        exact same (Option.some.inj held).symm
      rw [update_of_ne apart]
      exact held
  · intro other otherModel probe otherInside
    rw [phases] at otherInside
    by_cases same : other = caller
    · rw [same, update_self] at otherInside
      cases otherInside
    · rw [update_of_ne same] at otherInside
      exact guarded.probes other otherModel probe otherInside

end

theorem needsNoLock_none : NeedsNoLock (none : Option (Model × CallPhase)) := nofun

theorem needsNoLock_waiting (model : Model) : NeedsNoLock (some (model, CallPhase.waiting)) := by
  intro other entered probe same
  cases same

theorem needsNoLock_acquiring (model : Model) :
    NeedsNoLock (some (model, CallPhase.acquiring)) := by
  intro other entered probe same
  cases same

theorem needsNoLock_inside (model : Model) {entered : CircuitState}
    (notHalfOpen : entered ≠ .halfOpen) :
    NeedsNoLock (some (model, CallPhase.inside entered false)) := by
  intro other otherEntered probe same
  cases same
  exact ⟨rfl, notHalfOpen⟩

section

variable {router after : Bulkhead Caller Model Provider}

theorem noneWhileOpen_same (same : after.entrances = router.entrances) :
    after.NoneWhileOpen ↔ router.NoneWhileOpen := by
  unfold NoneWhileOpen
  rw [same]

theorem noneWhileOpen_kept {event : BulkheadEvent Caller Model}
    (same : after.entrances = router.entrances) (finds : router.FindsNotOpen event) :
    after.NoneWhileOpen ↔ router.NoneWhileOpen ∧ router.FindsNotOpen event :=
  (noneWhileOpen_same same).trans (and_iff_left finds).symm

theorem noneWhileOpen_entered {entrance : Entrance Caller Model}
    (entered : after.entrances = router.entrances ++ [entrance]) :
    after.NoneWhileOpen ↔ router.NoneWhileOpen ∧ entrance.circuitState ≠ .isOpen := by
  unfold NoneWhileOpen
  rw [entered]
  constructor
  · intro safe
    constructor
    · intro other member
      exact safe other (mem_append_left _ member)
    · exact safe entrance (mem_append_right _ (mem_singleton_self _))
  · intro both other member
    rcases mem_append.mp member with old | new
    · exact both.1 other old
    · rw [mem_singleton.mp new]
      exact both.2

end

section

variable [DecidableEq Caller] [DecidableEq Provider] {provider : Model → Provider}
  {router after : Bulkhead Caller Model Provider} {caller : Caller} {model : Model}

theorem Guarded.pass (guarded : router.Guarded provider) :
    (router.pass provider caller model).Guarded provider := by
  unfold Bulkhead.pass
  dsimp only
  split
  · split
    · exact guarded.move caller needsNoLock_none rfl rfl
    · exact guarded.move caller (needsNoLock_acquiring model) rfl rfl
  · rename_i notHalfOpen
    exact guarded.move caller (needsNoLock_inside model notHalfOpen) rfl rfl

theorem pass_noneWhileOpen : (router.pass provider caller model).NoneWhileOpen ↔
    router.NoneWhileOpen ∧ (router.stats model).circuitState ≠ .isOpen := by
  unfold Bulkhead.pass
  dsimp only
  split
  · rename_i halfOpen
    have notOpen : (router.stats model).circuitState ≠ .isOpen := by
      rw [halfOpen]
      nofun
    split
    · exact (noneWhileOpen_same rfl).trans (and_iff_left notOpen).symm
    · exact (noneWhileOpen_same rfl).trans (and_iff_left notOpen).symm
  · have entered : ((router.takeSlot provider model).enter caller model false).entrances =
        router.entrances ++ [⟨caller, model, (router.stats model).circuitState⟩] := rfl
    exact noneWhileOpen_entered entered

variable [DecidableEq Model]

theorem Guarded.locked (guarded : router.Guarded provider)
    (free : router.probeLocks (provider model) = none) :
    (router.locked provider caller model).Guarded provider := by
  unfold Bulkhead.locked
  split
  · exact guarded.probe free rfl rfl
  · exact guarded.move caller needsNoLock_none rfl rfl

theorem Guarded.leaveBody (guarded : router.Guarded provider) {entered : CircuitState}
    {probe : Bool} (inside : router.callers caller = some (model, .inside entered probe)) :
    (router.leaveBody provider caller model probe).Guarded provider := by
  cases probe with
  | true => exact guarded.release inside rfl rfl
  | false => exact guarded.move caller needsNoLock_none rfl rfl

variable {limit : Provider → Nat} {event : BulkheadEvent Caller Model}

theorem next_guarded (guarded : router.Guarded provider)
    (taken : router.next provider limit event = some after) : after.Guarded provider := by
  cases event with
  | attempt caller model =>
      simp only [next] at taken
      split at taken
      · cases taken
      · split at taken
        · cases taken
          exact guarded.move caller (needsNoLock_waiting model) rfl rfl
        · cases taken
          exact guarded
  | execute caller model =>
      simp only [next] at taken
      split at taken
      · cases taken
      · cases taken
        exact guarded.move caller (needsNoLock_waiting model) rfl rfl
  | acquire caller =>
      simp only [next] at taken
      split at taken
      · split at taken
        · cases taken
          exact guarded.pass
        · cases taken
      · cases taken
  | lock caller =>
      simp only [next] at taken
      split at taken
      · split at taken
        · cases taken
        · rename_i model _ free
          cases taken
          exact guarded.locked (Option.not_isSome_iff_eq_none.mp free)
      · cases taken
  | leave caller =>
      simp only [next] at taken
      split at taken
      · rename_i inside
        cases taken
        exact guarded.leaveBody inside
      · cases taken
  | cancel caller =>
      simp only [next] at taken
      split at taken
      · cases taken
        exact guarded.move caller needsNoLock_none rfl rfl
      · cases taken
        exact guarded.move caller needsNoLock_none rfl rfl
      · cases taken
  | record model event =>
      simp only [next] at taken
      split at taken
      · cases taken
      · cases taken
        exact guarded.congr rfl rfl

/-! ### Who enters -/

theorem locked_noneWhileOpen :
    (router.locked provider caller model).NoneWhileOpen ↔ router.NoneWhileOpen := by
  unfold Bulkhead.locked
  split
  · rename_i halfOpen
    have probing : (((router.holdLock provider model (some caller)).setProbe model true).stats
        model).circuitState = .halfOpen := by
      simp only [setProbe, update_self]
      exact halfOpen
    have entered : (((router.holdLock provider model (some caller)).setProbe model true).enter
        caller model true).entrances = router.entrances ++ [⟨caller, model, .halfOpen⟩] := by
      rw [← probing]
      rfl
    exact (noneWhileOpen_entered entered).trans (and_iff_left nofun)
  · exact noneWhileOpen_same rfl

theorem next_noneWhileOpen (taken : router.next provider limit event = some after) :
    after.NoneWhileOpen ↔ router.NoneWhileOpen ∧ router.FindsNotOpen event := by
  cases event with
  | attempt caller model =>
      simp only [next] at taken
      split at taken
      · cases taken
      · split at taken
        · cases taken
          exact noneWhileOpen_kept rfl trivial
        · cases taken
          exact noneWhileOpen_kept rfl trivial
  | execute caller model | record model event =>
      simp only [next] at taken
      split at taken
      · cases taken
      · cases taken
        exact noneWhileOpen_kept rfl trivial
  | acquire caller =>
      simp only [next] at taken
      split at taken
      · rename_i model waits
        split at taken
        · cases taken
          rw [pass_noneWhileOpen]
          apply and_congr_right
          intro _
          constructor
          · intro notOpen other otherWaits
            rw [waits] at otherWaits
            cases otherWaits
            exact notOpen
          · intro finds
            exact finds model waits
        · cases taken
      · cases taken
  | lock caller =>
      simp only [next] at taken
      split at taken
      · split at taken
        · cases taken
        · cases taken
          exact locked_noneWhileOpen.trans (and_iff_left trivial).symm
      · cases taken
  | leave caller =>
      simp only [next] at taken
      split at taken
      · rename_i probe _
        cases taken
        cases probe with
        | true | false => exact noneWhileOpen_kept rfl trivial
      · cases taken
  | cancel caller =>
      simp only [next] at taken
      split at taken
      · cases taken
        exact noneWhileOpen_kept rfl trivial
      · cases taken
        exact noneWhileOpen_kept rfl trivial
      · cases taken

end

/-! ### Whole runs -/

section

variable [DecidableEq Caller] [DecidableEq Provider] [DecidableEq Model]
  {provider : Model → Provider} {limit : Provider → Nat}

theorem replay_noneWhileOpen {start finish : Bulkhead Caller Model Provider}
    {events : List (BulkheadEvent Caller Model)}
    (run : replay (next provider limit) start events = some finish) :
    finish.NoneWhileOpen ↔
      start.NoneWhileOpen ∧ Transition.Along (next provider limit) FindsNotOpen start events := by
  induction events generalizing start with
  | nil =>
      cases run
      exact (and_iff_left trivial).symm
  | cons event rest ih =>
      obtain ⟨after, taken, restRun⟩ := replay_cons run
      rw [ih restRun, next_noneWhileOpen taken, Transition.Along, taken, and_assoc]

/-- Callers and their outcomes from any statistics on. -/
theorem bulkhead_safe_iff (stats : Model → ModelStats) {finish : Bulkhead Caller Model Provider}
    {events : List (BulkheadEvent Caller Model)}
    (run : replay (next provider limit) { stats := stats } events = some finish) :
    finish.SingleProbe ∧
      (finish.NoneWhileOpen ↔
        Transition.Along (next provider limit) FindsNotOpen { stats := stats } events) := by
  have initial : ({ stats := stats } : Bulkhead Caller Model Provider).Guarded provider :=
    ⟨nofun, nofun⟩
  constructor
  · have guarded : finish.Guarded provider :=
      replay_invariant (fun _ _ _ guarded taken => next_guarded guarded taken) initial
        run
    exact guarded.singleProbe
  · rw [replay_noneWhileOpen run]
    exact and_iff_right nofun

/-- A second caller meets the probe of the first and is turned away. -/
theorem bulkhead_safe_iff_probing :
    ∃ finish : Bulkhead Nat String String,
      replay (next (fun _ => "openai") fun _ => 50)
        { stats := fun _ => { circuitState := .halfOpen } }
        [.execute 0 "gpt-4o", .execute 1 "gpt-4o", .acquire 0, .lock 0, .acquire 1, .leave 0] =
          some finish ∧ finish.SingleProbe := by
  have whole : ∃ finish : Bulkhead Nat String String,
      replay (next (fun _ => "openai") fun _ => 50)
        { stats := fun _ => { circuitState := .halfOpen } }
        [.execute 0 "gpt-4o", .execute 1 "gpt-4o", .acquire 0, .lock 0, .acquire 1, .leave 0] =
          some finish := ⟨_, rfl⟩
  obtain ⟨finish, run⟩ := whole
  exact ⟨finish, run, (bulkhead_safe_iff _ run).1⟩

/-- Ten callers fill the slots and an eleventh waits; five calls fail and open the
circuit before the eleventh wakes. -/
def queuedBehindFailures : List (BulkheadEvent Nat String) :=
  (List.range 10).map (fun caller => .attempt caller "ollama:phi4") ++
    (List.range 10).map (fun caller => .acquire caller) ++ [.execute 10 "ollama:phi4"] ++
    (List.range 5).flatMap (fun caller =>
      [.leave caller, .record "ollama:phi4" (.failure ⟨0, 0⟩)]) ++ [.acquire 10]

theorem queued_caller_enters_open :
    ∃ finish : Bulkhead Nat String String,
      replay (next (fun _ => "ollama") fun _ => 10) { stats := fun _ => {} }
        queuedBehindFailures = some finish ∧
      ⟨10, "ollama:phi4", .isOpen⟩ ∈ finish.entrances ∧ ¬ finish.NoneWhileOpen := by
  have whole : ∃ finish : Bulkhead Nat String String,
      replay (next (fun _ => "ollama") fun _ => 10) { stats := fun _ => {} }
        queuedBehindFailures = some finish ∧
      finish.entrances.getLast? = some ⟨10, "ollama:phi4", .isOpen⟩ := ⟨_, rfl, rfl⟩
  obtain ⟨finish, run, last⟩ := whole
  have entered : ⟨10, "ollama:phi4", .isOpen⟩ ∈ finish.entrances := mem_of_getLast? last
  exact ⟨finish, run, entered, fun safe => safe _ entered rfl⟩

end

end Bulkhead

end AgenticRuntime
