/-
What the calls do to the router below them.

Every step of a call is a series of steps of the bulkhead, so what holds of the
bulkhead holds here, and the counters of the router grow with the log.
-/

import AgenticRuntime.Models.CallMatching
import Mathlib.Data.Finset.Card

namespace AgenticRuntime

open List Function Option Transition

def StatsEvent.counts : StatsEvent → Counter → Bool
  | .success _, .success => true
  | .failure _, .failure => true
  | .rateLimit _ _, .failure | .rateLimit _ _, .rateLimit => true
  | .timeout _, .failure | .timeout _, .timeout => true
  | _, _ => false

theorem ModelStats.count_counters (stats : ModelStats) (field other : Counter) :
    (stats.count field).counters other = stats.counters other + if other = field then 1 else 0 := by
  by_cases same : other = field
  · subst same
    simp only [count, update_self, if_true]
  · simp only [count, update_of_ne same, if_neg same, Nat.add_zero]

theorem ModelStats.recordFailure_counters (stats : ModelStats) (now : Clock) (other : Counter) :
    (stats.recordFailure now).counters other =
      stats.counters other + if other = .failure then 1 else 0 := by
  rw [← count_counters]
  simp only [recordFailure]
  split
  · rfl
  · split <;> rfl

theorem ModelStats.step_counters (stats : ModelStats) (event : StatsEvent) (field : Counter) :
    (stats.step event).counters field =
      stats.counters field + if event.counts field then 1 else 0 := by
  cases event with
  | success now =>
      have same : (stats.recordSuccess now).counters = (stats.count .success).counters := by
        simp only [recordSuccess]
        split
        · split <;> rfl
        · rfl
      rw [step, same, count_counters]
      cases field <;> rfl
  | failure now =>
      rw [step, recordFailure_counters]
      cases field <;> rfl
  | rateLimit now retryAfterSeconds =>
      have same : (stats.recordRateLimit now retryAfterSeconds).counters =
          ((stats.count .rateLimit).recordFailure now).counters := rfl
      rw [step, same, recordFailure_counters, count_counters]
      cases field <;> rfl
  | timeout now =>
      rw [step, recordTimeout, recordFailure_counters, count_counters]
      cases field <;> rfl
  | check now =>
      have same : (stats.checkCircuit now).2.counters = stats.counters := by
        unfold checkCircuit
        split
        · rfl
        · split
          · split <;> rfl
          · split <;> rfl
          · rfl
        · rfl
      rw [step, same]
      cases field <;> rfl
  | restore now => cases field <;> rfl

def BulkheadEvent.isRecord {Caller Model : Type} : BulkheadEvent Caller Model → Bool
  | .record _ _ => true
  | .attempt _ _ | .execute _ _ | .acquire _ | .lock _ | .leave _ | .cancel _ => false

namespace Bulkhead

variable {Caller Model Provider : Type} [DecidableEq Model]

theorem setProbe_counters (router : Bulkhead Caller Model Provider) (model other : Model)
    (probing : Bool) :
    ((router.setProbe model probing).stats other).counters = (router.stats other).counters := by
  by_cases same : other = model
  · subst same
    simp only [setProbe, update_self]
  · simp only [setProbe, update_of_ne same]

theorem recorded_counters (router : Bulkhead Caller Model Provider) (model other : Model)
    (event : StatsEvent) (field : Counter) :
    ((router.recorded model event).stats other).counters field =
      (router.stats other).counters field +
        if (model = other && event.counts field) = true then 1 else 0 := by
  by_cases same : other = model
  · subst same
    simp only [recorded, update_self, ModelStats.step_counters, decide_true, Bool.true_and]
  · simp only [recorded, update_of_ne same, Ne.symm same, decide_false, Bool.false_and,
      Bool.false_eq_true, if_false, Nat.add_zero]

theorem foldl_recorded_counters (model other : Model) (events : List StatsEvent) (field : Counter)
    (router : Bulkhead Caller Model Provider) :
    ((events.foldl (fun router => router.recorded model) router).stats other).counters field =
      (router.stats other).counters field +
        events.countP fun event => model = other && event.counts field := by
  induction events generalizing router with
  | nil => rfl
  | cons event rest ih =>
      rw [foldl_cons, ih, recorded_counters, countP_cons]
      omega

variable [DecidableEq Caller] [DecidableEq Provider] {provider : Model → Provider}
  {limit : Provider → Nat}

theorem next_counters {router moved : Bulkhead Caller Model Provider}
    {event : BulkheadEvent Caller Model} (quiet : event.isRecord = false)
    (taken : router.next provider limit event = some moved) (model : Model) :
    (moved.stats model).counters = (router.stats model).counters := by
  cases event with
  | record target stats => cases quiet
  | attempt caller target =>
      simp only [next] at taken
      split at taken
      · cases taken
      · split at taken <;> cases taken <;> rfl
  | execute caller target =>
      simp only [next] at taken
      split at taken <;> cases taken
      rfl
  | cancel caller =>
      simp only [next] at taken
      split at taken <;> cases taken <;> rfl
  | acquire caller =>
      simp only [next] at taken
      split at taken
      case h_2 => cases taken
      split at taken <;> cases taken
      unfold pass
      split
      · split <;> rfl
      · rfl
  | lock caller =>
      simp only [next] at taken
      split at taken
      case h_2 => cases taken
      split at taken <;> cases taken
      unfold locked
      split
      · exact setProbe_counters _ _ _ _
      · rfl
  | leave caller =>
      simp only [next] at taken
      split at taken <;> cases taken
      rename_i target entered probe inside
      cases probe with
      | false => rfl
      | true => exact setProbe_counters _ _ _ _

end Bulkhead

/-! ### The slots of a semaphore -/

namespace Bulkhead

variable {Caller Model Provider : Type} [DecidableEq Caller] [DecidableEq Provider]

/-- The provider of whose semaphore a caller in this place has a slot. -/
def slot (provider : Model → Provider) : Option (Model × CallPhase) → Option Provider
  | none | some (_, .waiting) => none
  | some (model, .acquiring) | some (model, .inside _ _) => some (provider model)

/-- The slots in use are those of the callers that have one, and no more than there are. -/
def Slotted (provider : Model → Provider) (limit : Provider → Nat)
    (router : Bulkhead Caller Model Provider) : Prop :=
  ∀ name, router.taken name ≤ limit name ∧ ∃ holders : Finset Caller,
    (∀ caller, caller ∈ holders ↔ slot provider (router.callers caller) = some name) ∧
      holders.card = router.taken name

variable {provider : Model → Provider} {limit : Provider → Nat}
  {router after : Bulkhead Caller Model Provider} {caller : Caller} {model : Model}
  {place old : Option (Model × CallPhase)}

theorem Slotted.move (slotted : router.Slotted provider limit)
    (moved : after.callers = update router.callers caller place)
    (counted : ∀ name, (after.taken name ≤ router.taken name ∨ after.taken name ≤ limit name) ∧
      after.taken name + (if slot provider (router.callers caller) = some name then 1 else 0) =
        router.taken name + if slot provider place = some name then 1 else 0) :
    after.Slotted provider limit := by
  intro name
  obtain ⟨bounded, holders, held, card⟩ := slotted name
  obtain ⟨within, changed⟩ := counted name
  simp only [← card, ← held caller] at changed
  refine ⟨within.elim (fun fewer => fewer.trans bounded) id, ?_⟩
  have others (other : Caller) (apart : other ≠ caller) :
      other ∈ holders ↔ slot provider (after.callers other) = some name := by
    rw [moved, update_of_ne apart, held]
  have here : after.callers caller = place := by rw [moved, update_self]
  by_cases holds : slot provider place = some name
  · refine ⟨insert caller holders, fun other => ?_, ?_⟩
    · rw [Finset.mem_insert]
      by_cases same : other = caller
      · simp only [same, here, holds, true_or]
      · rw [← others other same, or_iff_right same]
    · rw [Finset.card_insert_eq_ite]
      split_ifs at changed ⊢ <;> omega
  · refine ⟨holders.erase caller, fun other => ?_, ?_⟩
    · rw [Finset.mem_erase]
      by_cases same : other = caller
      · simp only [same, here, holds, ne_eq, not_true, false_and]
      · rw [← others other same, and_iff_right same]
    · have positive : caller ∈ holders → 0 < holders.card := fun member =>
        Finset.card_pos.mpr ⟨caller, member⟩
      rw [Finset.card_erase_eq_ite]
      split_ifs at changed ⊢ <;> omega

theorem Slotted.keep (slotted : router.Slotted provider limit)
    (found : router.callers caller = old)
    (moved : after.callers = update router.callers caller place)
    (kept : after.taken = router.taken) (same : slot provider place = slot provider old) :
    after.Slotted provider limit := by
  refine slotted.move moved fun name => ?_
  rw [kept, found, same]
  exact ⟨.inl le_rfl, rfl⟩

theorem Slotted.take (slotted : router.Slotted provider limit)
    (waiting : router.callers caller = some (model, .waiting))
    (room : router.taken (provider model) < limit (provider model))
    (holds : slot provider place = some (provider model))
    (moved : after.callers = update router.callers caller place)
    (counted : after.taken = (router.takeSlot provider model).taken) :
    after.Slotted provider limit := by
  refine slotted.move moved fun name => ?_
  rw [counted, waiting, holds]
  rcases eq_or_ne name (provider model) with rfl | apart
  · simp [takeSlot, slot, Nat.succ_le_of_lt room]
  · simp [takeSlot, slot, apart, apart.symm]

theorem Slotted.release (slotted : router.Slotted provider limit)
    (found : router.callers caller = old) (held : slot provider old = some (provider model))
    (moved : after.callers = update router.callers caller none)
    (counted : after.taken = (router.releaseSlot provider model).taken) :
    after.Slotted provider limit := by
  obtain ⟨_, holders, mem, card⟩ := slotted (provider model)
  have positive : 0 < router.taken (provider model) :=
    card ▸ Finset.card_pos.mpr ⟨caller, (mem caller).mpr (found ▸ held)⟩
  refine slotted.move moved fun name => ?_
  rw [counted, found, held]
  rcases eq_or_ne name (provider model) with rfl | apart
  · simp [releaseSlot, slot, Nat.sub_add_cancel positive]
  · simp [releaseSlot, slot, apart, apart.symm]

variable [DecidableEq Model] {event : BulkheadEvent Caller Model}

theorem next_slotted (slotted : router.Slotted provider limit)
    (taken : router.next provider limit event = some after) : after.Slotted provider limit := by
  cases event with
  | attempt caller model =>
      simp only [next] at taken
      split at taken
      · cases taken
      · rename_i idle
        split at taken <;> cases taken
        · exact slotted.keep (not_isSome_iff_eq_none.mp idle) rfl rfl rfl
        · exact slotted
  | execute caller model =>
      simp only [next] at taken
      split at taken <;> cases taken
      rename_i idle
      exact slotted.keep (not_isSome_iff_eq_none.mp idle) rfl rfl rfl
  | acquire caller =>
      simp only [next] at taken
      split at taken
      case h_2 => cases taken
      rename_i model waiting
      split at taken <;> cases taken
      rename_i room
      unfold pass
      dsimp only
      split
      · split
        · refine slotted.keep waiting rfl ?_ rfl
          simp only [done, releaseSlot, takeSlot, update_self, update_idem, Nat.add_sub_cancel,
            update_eq_self]
        · exact slotted.take waiting room rfl rfl rfl
      · exact slotted.take waiting room rfl rfl rfl
  | lock caller =>
      simp only [next] at taken
      split at taken
      case h_2 => cases taken
      rename_i model acquiring
      split at taken <;> cases taken
      unfold locked
      split
      · exact slotted.keep acquiring rfl rfl rfl
      · exact slotted.release acquiring rfl rfl rfl
  | leave caller =>
      simp only [next] at taken
      split at taken <;> cases taken
      rename_i model entered probe inside
      cases probe with
      | false | true => exact slotted.release inside rfl rfl rfl
  | cancel caller =>
      simp only [next] at taken
      split at taken <;> cases taken
      · rename_i waiting
        exact slotted.keep waiting rfl rfl rfl
      · rename_i acquiring
        exact slotted.release acquiring rfl rfl rfl
  | record model event =>
      simp only [next] at taken
      split at taken <;> cases taken
      exact slotted

end Bulkhead

namespace CallRecords

variable {Caller Model Provider : Type} [DecidableEq Caller]

/-! ### The router below -/

section

variable [DecidableEq Model] [DecidableEq Provider] {provider : Model → Provider}
  {limit : Provider → Nat} {resolvedError : Model → CircuitState → CallError}
  {state after : CallRecords Caller Model Provider} {caller : Caller}
  {attempt : ModelAttempt Model} {books : Bookkeeping}

def Genuine (books : Bookkeeping) : Prop :=
  ∀ event ∈ books.records, event.isSuccess = true ∨ event.failedAt.isSome = true

theorem genuine_nil {reported : Bool} : Genuine { reported := reported } := nofun

theorem genuine_success {now : Clock} {reported : Bool} :
    Genuine { records := [.success now], reported := reported } :=
  forall_mem_singleton.mpr (.inl rfl)

theorem genuine_onException (path : CallPath) (error : CallError) (now : Clock) :
    Genuine (path.onException error now) := by
  unfold CallPath.onException
  split
  · exact genuine_nil
  · exact forall_mem_singleton.mpr (.inr (error.classify_failedAt now))

theorem genuine_onReturn (path : CallPath) (counting : Option CallError) (now : Clock) :
    Genuine (path.onReturn counting now) := by
  cases path with
  | ekComplete | ekStream | callWithFallback => exact genuine_success
  | completeChat => exact genuine_nil
  | complete | completeStream =>
      cases counting with
      | none => exact genuine_success
      | some error => exact genuine_onException _ error now

theorem genuine_onSanitized (path : CallPath) (outcome : SanitizerOutcome)
    (counting storing : Option CallError) (now : Clock) :
    Genuine (path.onSanitized outcome counting storing now) := by
  cases outcome with
  | raised error => exact genuine_onException path error now
  | cancelled => exact genuine_nil
  | passed =>
      simp only [CallPath.onSanitized]
      split
      · cases counting with
        | some error => exact genuine_onException path error now
        | none =>
            cases storing with
            | none => exact genuine_success
            | some error =>
                exact forall_mem_cons.mpr ⟨.inl rfl, genuine_onException path error now⟩
      · exact genuine_nil

theorem next_recorded {router : Bulkhead Caller Model Provider} {model : Model} {event : StatsEvent}
    (genuine : event.isSuccess = true ∨ event.failedAt.isSome = true) :
    router.next provider limit (.record model event) = some (router.recorded model event) := by
  cases event with
  | restore now => rcases genuine with success | failure <;> contradiction
  | success | failure | rateLimit | timeout | check => rfl

theorem reachable_recorded (model : Model) {events : List StatsEvent}
    (genuine : ∀ event ∈ events, event.isSuccess = true ∨ event.failedAt.isSome = true)
    (router : Bulkhead Caller Model Provider) :
    Reachable (Bulkhead.next provider limit) router
      (events.foldl (fun router => router.recorded model) router) := by
  induction events generalizing router with
  | nil => exact Reachable.refl router
  | cons event rest ih =>
      have taken : router.next provider limit (.record model event) =
          some (router.recorded model event) := next_recorded (genuine event mem_cons_self)
      have later := ih (fun other member => genuine other (mem_cons_of_mem _ member))
        (router.recorded model event)
      exact ((Reachable.refl router).tail taken).trans later

theorem reachable_keep (genuine : Genuine books) (state : CallRecords Caller Model Provider) :
    Reachable (Bulkhead.next provider limit) state.router
      (state.keep caller attempt books).router :=
  reachable_recorded attempt.model genuine state.router

theorem reachable_resume {now : Clock} (state : CallRecords Caller Model Provider) :
    Reachable (Bulkhead.next provider limit) state.router
      (state.resume resolvedError caller attempt now).router := by
  unfold resume
  split
  · exact reachable_keep (genuine_onException _ _ _) state
  · exact reachable_keep genuine_nil state
  · exact Reachable.refl _

theorem reachable_leaveCall {outcome : BackendOutcome} {counting : Option CallError} {now : Clock}
    (state : CallRecords Caller Model Provider) :
    Reachable (Bulkhead.next provider limit) state.router
      (state.leaveCall caller attempt outcome counting now).router := by
  cases outcome with
  | returned => exact reachable_keep (genuine_onReturn _ _ _) state
  | raised error => exact reachable_keep (genuine_onException _ _ _) state
  | cancelled | closed => exact reachable_keep genuine_nil state

theorem reachable_withRouter {event : BulkheadEvent Caller Model}
    {follow : CallRecords Caller Model Provider → CallRecords Caller Model Provider}
    (follows : ∀ moved, Reachable (Bulkhead.next provider limit) moved.router
      (follow moved).router)
    (taken : state.withRouter provider limit event follow = some after) :
    Reachable (Bulkhead.next provider limit) state.router after.router := by
  obtain ⟨router, moved, same⟩ := map_eq_some_iff.mp taken
  subst same
  exact ((Reachable.refl state.router).tail moved).trans
    (follows { state with router := router })

theorem next_router {event : CallEvent Caller Model}
    (taken : state.next provider limit resolvedError event = some after) :
    Reachable (Bulkhead.next provider limit) state.router after.router := by
  cases event with
  | begin caller path model =>
      simp only [next] at taken
      split at taken
      · cases taken
      · exact reachable_withRouter (fun begun => reachable_keep genuine_nil begun) taken
  | acquire caller now | lock caller now =>
      obtain ⟨attempt, found, taken⟩ := bind_eq_some_iff.mp taken
      exact reachable_withRouter (fun freed => reachable_resume freed) taken
  | cancel caller =>
      obtain ⟨attempt, found, taken⟩ := bind_eq_some_iff.mp taken
      exact reachable_withRouter (fun left => reachable_keep genuine_nil left) taken
  | leave caller outcome counting now =>
      obtain ⟨attempt, found, taken⟩ := bind_eq_some_iff.mp taken
      split at taken
      · cases taken
      · exact reachable_withRouter (fun left => reachable_leaveCall left) taken
  | sanitize caller outcome counting storing now =>
      obtain ⟨attempt, found, same⟩ := map_eq_some_iff.mp taken
      subst same
      exact reachable_keep (genuine_onSanitized _ _ _ _ _) state
  | check model now =>
      exact reachable_withRouter (fun checked => Reachable.refl _) taken

/-- In every run of calls at most one caller probes a half-open model, and the slots in use of a
provider are those of its callers, no more than there are. -/
theorem calls_guarded (stats : Model → ModelStats) {events : List (CallEvent Caller Model)}
    {finish : CallRecords Caller Model Provider}
    (run : replay (next provider limit resolvedError) (start stats) events = some finish) :
    finish.router.SingleProbe ∧ finish.router.Slotted provider limit := by
  have unused : (start stats : CallRecords Caller Model Provider).router.Guarded provider ∧
      (start stats : CallRecords Caller Model Provider).router.Slotted provider limit :=
    ⟨⟨nofun, nofun⟩, fun _ =>
      ⟨Nat.zero_le _, ∅, fun _ => iff_of_false (Finset.notMem_empty _) nofun, rfl⟩⟩
  have kept : finish.router.Guarded provider ∧ finish.router.Slotted provider limit :=
    replay_invariant
      (fun _ _ _ held taken => reachable_invariant
        (fun _ _ _ both moved =>
          And.intro (Bulkhead.next_guarded both.1 moved) (Bulkhead.next_slotted both.2 moved))
        held (next_router taken))
      unused run
  exact ⟨kept.1.singleProbe, kept.2⟩

def probed : Option (CallRecords Nat String String) :=
  replay (next (fun _ => "openai") (fun _ => 50) fun _ _ => {}) (start recovering) probeBesideChat

theorem calls_guarded_probing : ∃ finish, probed = some finish ∧
    finish.router.SingleProbe ∧ finish.router.Slotted (fun _ => "openai") fun _ => 50 := by
  obtain ⟨finish, run⟩ : ∃ finish, probed = some finish := ⟨_, rfl⟩
  exact ⟨finish, run, calls_guarded recovering run⟩

def Counted (stats : Model → ModelStats) (state : CallRecords Caller Model Provider) : Prop :=
  ∀ model field, (state.router.stats model).counters field =
    (stats model).counters field +
      state.log.countP fun record => record.2.1 = model && record.2.2.counts field

variable {stats : Model → ModelStats}

section

omit [DecidableEq Provider]

theorem Counted.keep (counted : state.Counted stats) :
    (state.keep caller attempt books).Counted stats := by
  intro model field
  simp only [CallRecords.keep, Bulkhead.foldl_recorded_counters, countP_append, countP_map,
    comp_def]
  rw [counted model field, Nat.add_assoc]

theorem Counted.resume {now : Clock} (counted : state.Counted stats) :
    (state.resume resolvedError caller attempt now).Counted stats := by
  unfold CallRecords.resume
  split
  · exact counted.keep
  · exact counted.keep
  · exact counted

theorem Counted.leaveCall {outcome : BackendOutcome} {counting : Option CallError} {now : Clock}
    (counted : state.Counted stats) :
    (state.leaveCall caller attempt outcome counting now).Counted stats := by
  cases outcome with
  | returned | raised | cancelled | closed => exact counted.keep

end

theorem Counted.withRouter {event : BulkheadEvent Caller Model}
    {follow : CallRecords Caller Model Provider → CallRecords Caller Model Provider}
    (counted : state.Counted stats) (quiet : event.isRecord = false)
    (follows : ∀ moved : CallRecords Caller Model Provider, moved.Counted stats →
      (follow moved).Counted stats)
    (taken : state.withRouter provider limit event follow = some after) : after.Counted stats := by
  obtain ⟨router, moved, same⟩ := map_eq_some_iff.mp taken
  subst same
  apply follows
  intro model field
  rw [Bulkhead.next_counters quiet moved model]
  exact counted model field

theorem next_counted {event : CallEvent Caller Model} (counted : state.Counted stats)
    (taken : state.next provider limit resolvedError event = some after) :
    after.Counted stats := by
  cases event with
  | begin caller path model =>
      simp only [next] at taken
      split at taken
      · cases taken
      · refine counted.withRouter ?_ (fun _ held => held.keep) taken
        cases path.gated <;> rfl
  | acquire caller now | lock caller now =>
      obtain ⟨attempt, found, taken⟩ := bind_eq_some_iff.mp taken
      exact counted.withRouter rfl (fun _ held => held.resume) taken
  | cancel caller =>
      obtain ⟨attempt, found, taken⟩ := bind_eq_some_iff.mp taken
      exact counted.withRouter rfl (fun _ held => held.keep) taken
  | leave caller outcome counting now =>
      obtain ⟨attempt, found, taken⟩ := bind_eq_some_iff.mp taken
      split at taken
      · cases taken
      · exact counted.withRouter rfl (fun _ held => held.leaveCall) taken
  | sanitize caller outcome counting storing now =>
      obtain ⟨attempt, found, same⟩ := map_eq_some_iff.mp taken
      subst same
      exact counted.keep
  | check model now =>
      simp only [next, CallRecords.withRouter, Bulkhead.next, map_some, id] at taken
      cases taken
      intro other field
      have same := Bulkhead.recorded_counters state.router model other (.check now) field
      have quiet : (StatsEvent.check now).counts field = false := by cases field <;> rfl
      rw [quiet, Bool.and_false, if_neg Bool.false_ne_true, Nat.add_zero] at same
      rw [← counted other field, ← same]
      rfl

end

end CallRecords

end AgenticRuntime
