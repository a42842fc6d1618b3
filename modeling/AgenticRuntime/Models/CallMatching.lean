/-
Records and calls agree exactly in the runs whose steps all spare them.

An attempt that goes on holds back its books: nothing is recorded for it yet, or
the one success of a text completion whose response is being sanitized. So an attempt
is in order when it ends exactly if its last step is.
-/

import AgenticRuntime.Models.CallRecords

namespace AgenticRuntime

open List CallPath Transition
open Option (map_eq_some_iff all_some)

section

variable {path : CallPath} {error : CallError} {now : Clock}

theorem CallError.classify_failedAt (error : CallError) (now : Clock) :
    (error.classify now).failedAt.isSome = true := by
  unfold CallError.classify
  repeat' split
  all_goals rfl

namespace CallPath

theorem onException_skipped (skipped : (error.resolved && path.skipsResolved) = true) :
    path.onException error now = {} := by
  simp only [onException, skipped, if_true]

theorem onException_recorded (recorded : (error.resolved && path.skipsResolved) = false) :
    path.onException error now = { records := [error.classify now], reported := path.reports } := by
  simp only [onException, recorded, Bool.false_eq_true, if_false]

theorem skipsResolved_of_reports (reports : path.reports = true) : path.skipsResolved = false := by
  cases path <;> first | rfl | cases reports

end CallPath

end

namespace Bulkhead

variable {Caller Model Provider : Type} [DecidableEq Caller] [DecidableEq Model]
  [DecidableEq Provider] {provider : Model → Provider} {limit : Provider → Nat}
  {router after : Bulkhead Caller Model Provider} {caller : Caller}

theorem acquire_callers (taken : router.next provider limit (.acquire caller) = some after) :
    (after.callers caller = none ∧ router.turnsAway provider caller = true) ∨
      ((after.callers caller).isSome ∧ router.turnsAway provider caller = false) := by
  simp only [next] at taken
  split at taken
  case h_2 => cases taken
  rename_i model waiting
  split at taken
  case isFalse => cases taken
  cases taken
  by_cases half : (router.stats model).circuitState = .halfOpen
  · cases held : (router.probeLocks (provider model)).isSome with
    | true =>
        left
        simp [pass, turnsAway, waiting, half, held, done]
    | false =>
        right
        simp [pass, turnsAway, waiting, half, held, setPhase]
  · right
    simp [pass, turnsAway, waiting, half, enter, setPhase]

theorem lock_callers (taken : router.next provider limit (.lock caller) = some after) :
    (after.callers caller = none ∧ router.turnsAway provider caller = true) ∨
      ((after.callers caller).isSome ∧ router.turnsAway provider caller = false) := by
  simp only [next] at taken
  split at taken
  case h_2 => cases taken
  rename_i model acquiring
  split at taken
  case isTrue => cases taken
  cases taken
  by_cases half : (router.stats model).circuitState = .halfOpen
  · right
    simp [locked, turnsAway, acquiring, half, enter, setPhase]
  · left
    simp [locked, turnsAway, acquiring, half, done]

end Bulkhead

namespace CallRecords

variable {Caller Model Provider : Type} [DecidableEq Caller]

/-! ### Books -/

section

variable {state base : CallRecords Caller Model Provider} {caller other : Caller}
  {attempt : ModelAttempt Model} {books : Bookkeeping} {model : Model}

def Blank (state : CallRecords Caller Model Provider) (caller : Caller) : Prop :=
  state.recordsOf caller = [] ∧ state.reported.count caller = 0

def Pending (state : CallRecords Caller Model Provider) (caller : Caller)
    (attempt : ModelAttempt Model) : Prop :=
  match attempt.call with
  | .notStarted | .running => state.Blank caller
  | .returned =>
      (attempt.path = .complete ∧
          ∃ now, state.recordsOf caller = [(attempt.model, .success now)]) ∨
        attempt.path = .completeChat ∧ state.Blank caller
  | .raised | .cancelled => False

/-- Whoever has no attempt, or one that goes on, has books that fit. -/
structure Consistent (state : CallRecords Caller Model Provider) : Prop where
  absent : ∀ caller, state.attempts caller = none → state.Blank caller
  pending : ∀ caller attempt, state.attempts caller = some attempt → attempt.ended = false →
    state.Pending caller attempt

/-- The step keeps consistency, and agreement exactly if it is spared. -/
structure Settles (state after : CallRecords Caller Model Provider) (spared : Bool) : Prop where
  consistent : after.Consistent
  matched : after.AllMatched ↔ state.AllMatched ∧ spared = true

structure Fits (state : CallRecords Caller Model Provider) (caller : Caller)
    (attempt : ModelAttempt Model) (spared : Bool) : Prop where
  going : attempt.ended = false → state.Pending caller attempt ∧ spared = true
  ended : attempt.ended = true → (state.Matched caller attempt ↔ spared = true)

theorem Blank.congr (blank : state.Blank caller)
    (records : base.recordsOf caller = state.recordsOf caller)
    (reports : base.reported.count caller = state.reported.count caller) : base.Blank caller := by
  constructor
  · rw [records]
    exact blank.1
  · rw [reports]
    exact blank.2

theorem Pending.congr (pending : state.Pending caller attempt)
    (records : base.recordsOf caller = state.recordsOf caller)
    (reports : base.reported.count caller = state.reported.count caller) :
    base.Pending caller attempt := by
  unfold Pending Blank at *
  rw [records, reports]
  exact pending

theorem matched_congr (records : base.recordsOf caller = state.recordsOf caller)
    (reports : base.reported.count caller = state.reported.count caller) :
    base.Matched caller attempt ↔ state.Matched caller attempt := by
  constructor
  · intro matched
    constructor
    · rw [← records]
      exact matched.records
    · rw [← reports]
      exact matched.reports
  · intro matched
    constructor
    · rw [records]
      exact matched.records
    · rw [reports]
      exact matched.reports

theorem Settles.same (consistent : state.Consistent) (attempts : base.attempts = state.attempts)
    (log : base.log = state.log) (reported : base.reported = state.reported) :
    Settles state base true := by
  have records : ∀ caller, base.recordsOf caller = state.recordsOf caller := by
    intro caller
    rw [recordsOf, recordsOf, log]
  have reports : ∀ caller, base.reported.count caller = state.reported.count caller := by
    intro caller
    rw [reported]
  constructor
  · constructor
    · intro caller absent
      rw [attempts] at absent
      exact (consistent.absent caller absent).congr (records caller) (reports caller)
    · intro caller attempt found going
      rw [attempts] at found
      exact (consistent.pending caller attempt found going).congr (records caller) (reports caller)
  · unfold AllMatched
    rw [attempts]
    simp only [matched_congr (records _) (reports _), and_true]

theorem Fits.of_ended {spared : Bool} (ended : attempt.ended = true)
    (matched : state.Matched caller attempt ↔ spared = true) :
    state.Fits caller attempt spared := by
  constructor
  · intro going
    rw [ended] at going
    cases going
  · exact fun _ => matched

theorem Fits.of_going (going : attempt.ended = false) (pending : state.Pending caller attempt) :
    state.Fits caller attempt true := by
  constructor
  · exact fun _ => ⟨pending, rfl⟩
  · intro ended
    rw [going] at ended
    cases ended

omit [DecidableEq Caller] in
theorem going_of_found (found : state.attempts caller = some attempt)
    (going : attempt.ended = false) :
    ∀ old, state.attempts caller = some old → old.ended = false := by
  intro old same
  rw [found] at same
  cases same
  exact going

theorem Consistent.blank (consistent : state.Consistent)
    (found : state.attempts caller = some attempt) (going : attempt.ended = false)
    (unsettled : attempt.call = .notStarted ∨ attempt.call = .running) :
    state.Blank caller := by
  have pending := consistent.pending caller attempt found going
  unfold Pending at pending
  rcases unsettled with call | call
  · rw [call] at pending
    exact pending
  · rw [call] at pending
    exact pending

theorem Consistent.withRouter (consistent : state.Consistent)
    (router : Bulkhead Caller Model Provider) :
    ({ state with router := router } : CallRecords Caller Model Provider).Consistent :=
  ⟨consistent.absent, consistent.pending⟩

theorem Settles.ofRouter {router : Bulkhead Caller Model Provider} {spared : Bool}
    (settles : Settles { state with router := router } base spared) :
    Settles state base spared := by
  constructor
  · exact settles.consistent
  · rw [settles.matched]
    exact and_congr_left fun _ => forall_congr' fun _ => forall_congr' fun _ =>
      forall_congr' fun _ => forall_congr' fun _ => matched_congr rfl rfl

omit [DecidableEq Caller] in
theorem attemptWith_some {call : BackendCall}
    (found : state.attemptWith caller call = some attempt) :
    state.attempts caller = some attempt ∧ attempt.call = call ∧ attempt.ended = false := by
  obtain ⟨stored, holds⟩ := Option.filter_eq_some_iff.mp found
  rw [Bool.and_eq_true, decide_eq_true_eq, Bool.not_eq_true'] at holds
  exact ⟨stored, holds⟩

variable [DecidableEq Model]

@[simp]
theorem keep_attempts_self : (state.keep caller attempt books).attempts caller = some attempt :=
  Function.update_self ..

theorem keep_attempts_of_ne (apart : other ≠ caller) :
    (state.keep caller attempt books).attempts other = state.attempts other :=
  Function.update_of_ne apart ..

theorem recordsOf_keep_self :
    (state.keep caller attempt books).recordsOf caller =
      state.recordsOf caller ++ books.records.map (Prod.mk attempt.model) := by
  have own : (books.records.map fun event => (caller, attempt.model, event)).filter
      (fun record => record.1 = caller) =
      books.records.map fun event => (caller, attempt.model, event) := by
    rw [filter_eq_self]
    simp
  simp only [recordsOf, keep, filter_append, own, map_append, map_map]
  rfl

theorem recordsOf_keep_of_ne (apart : other ≠ caller) :
    (state.keep caller attempt books).recordsOf other = state.recordsOf other := by
  simp [recordsOf, keep, filter_map, Function.comp_def, Ne.symm apart]

theorem reported_keep_self :
    (state.keep caller attempt books).reported.count caller =
      state.reported.count caller + if books.reported then 1 else 0 := by
  cases reports : books.reported <;> simp [keep, reports]

theorem reported_keep_of_ne (apart : other ≠ caller) :
    (state.keep caller attempt books).reported.count other = state.reported.count other := by
  cases reports : books.reported
  · simp [keep, reports]
  · simp [keep, reports, Ne.symm apart]

theorem Settles.keep {spared : Bool} (consistent : state.Consistent)
    (going : ∀ old, state.attempts caller = some old → old.ended = false)
    (fits : (state.keep caller attempt books).Fits caller attempt spared) :
    Settles state (state.keep caller attempt books) spared := by
  constructor
  · constructor
    · intro other absent
      by_cases same : other = caller
      · subst same
        rw [keep_attempts_self] at absent
        cases absent
      · rw [keep_attempts_of_ne same] at absent
        exact (consistent.absent other absent).congr (recordsOf_keep_of_ne same)
          (reported_keep_of_ne same)
    · intro other otherAttempt found open'
      by_cases same : other = caller
      · subst same
        rw [keep_attempts_self] at found
        cases found
        exact (fits.going open').1
      · rw [keep_attempts_of_ne same] at found
        exact (consistent.pending other otherAttempt found open').congr
          (recordsOf_keep_of_ne same) (reported_keep_of_ne same)
  · have others : ∀ other otherAttempt, other ≠ caller →
        ((state.keep caller attempt books).Matched other otherAttempt ↔
          state.Matched other otherAttempt) :=
      fun other otherAttempt apart =>
        matched_congr (recordsOf_keep_of_ne apart) (reported_keep_of_ne apart)
    constructor
    · intro all
      constructor
      · intro other otherAttempt found ended
        have apart : other ≠ caller := by
          intro same
          subst same
          rw [going otherAttempt found] at ended
          cases ended
        rw [← others other otherAttempt apart]
        exact all other otherAttempt (by rw [keep_attempts_of_ne apart]; exact found) ended
      · cases ended : attempt.ended with
        | false => exact (fits.going ended).2
        | true => exact (fits.ended ended).mp (all caller attempt keep_attempts_self ended)
    · rintro ⟨all, spares⟩ other otherAttempt found ended
      by_cases same : other = caller
      · subst same
        rw [keep_attempts_self] at found
        cases found
        exact (fits.ended ended).mpr spares
      · rw [keep_attempts_of_ne same] at found
        rw [others other otherAttempt same]
        exact all other otherAttempt found ended

end

/-! ### What a handler writes -/

section

variable {Model : Type} {model : Model} {call : BackendCall} {now : Clock} {error : CallError}

theorem tells_nil : Tells model [] call ↔ call ≠ .returned ∧ call ≠ .raised := by
  cases call <;> simp [Tells]

theorem tells_success : Tells model [(model, .success now)] call ↔ call = .returned := by
  cases call <;> simp [Tells, StatsEvent.failedAt]

theorem tells_failure : Tells model [(model, error.classify now)] call ↔ call = .raised := by
  have failed := error.classify_failedAt now
  cases call with
  | returned =>
      have other : ∀ later, error.classify now ≠ .success later := by
        intro later same
        rw [same] at failed
        cases failed
      simp [Tells, other]
  | notStarted | running | cancelled => simp [Tells]
  | raised => simp [Tells, failed]

theorem not_tells_two {first second : Model × StatsEvent} :
    ¬ Tells model [first, second] call := by
  cases call <;> simp [Tells]

end

section

variable [DecidableEq Model] {state : CallRecords Caller Model Provider} {caller : Caller}
  {attempt : ModelAttempt Model} {books : Bookkeeping} {now : Clock} {error : CallError}

theorem Blank.matched_iff (blank : state.Blank caller) :
    (state.keep caller attempt books).Matched caller attempt ↔
      Tells attempt.model (books.records.map (Prod.mk attempt.model)) attempt.call ∧
        (attempt.path.reports = true →
          (books.reported = true ↔ attempt.call ≠ .notStarted)) := by
  have records : (state.keep caller attempt books).recordsOf caller =
      books.records.map (Prod.mk attempt.model) := by
    rw [recordsOf_keep_self, blank.1, nil_append]
  have reports : (state.keep caller attempt books).reported.count caller =
      if books.reported then 1 else 0 := by
    rw [reported_keep_self, blank.2, Nat.zero_add]
  have counts :
      ((if books.reported then 1 else 0) = if attempt.call = .notStarted then 0 else 1) ↔
      (books.reported = true ↔ attempt.call ≠ .notStarted) := by
    by_cases unsent : attempt.call = .notStarted <;> cases books.reported <;> simp [unsent]
  constructor
  · rintro ⟨told, counted⟩
    rw [records] at told
    rw [reports, counts] at counted
    exact ⟨told, counted⟩
  · rintro ⟨told, counted⟩
    constructor
    · rw [records]
      exact told
    · rw [reports, counts]
      exact counted

theorem Blank.matched_onException (blank : state.Blank caller) :
    (state.keep caller attempt (attempt.path.onException error now)).Matched caller attempt ↔
      if (error.resolved && attempt.path.skipsResolved) = true then
        attempt.call ≠ .returned ∧ attempt.call ≠ .raised
      else attempt.call = .raised := by
  rw [blank.matched_iff]
  cases skipped : error.resolved && attempt.path.skipsResolved with
  | true =>
      rw [onException_skipped skipped]
      simp only [map_nil, tells_nil, if_true]
      constructor
      · exact fun both => both.1
      · intro told
        refine ⟨told, fun reports => ?_⟩
        rw [skipsResolved_of_reports reports, Bool.and_false] at skipped
        cases skipped
  | false =>
      rw [onException_recorded skipped]
      simp only [map_cons, map_nil, tells_failure, Bool.false_eq_true, if_false]
      constructor
      · exact fun both => both.1
      · intro raised
        refine ⟨raised, fun reports => ?_⟩
        simp [reports, raised]

theorem Blank.keep_nil (blank : state.Blank caller) :
    (state.keep caller attempt {}).Blank caller := by
  constructor
  · rw [recordsOf_keep_self, blank.1]
    rfl
  · rw [reported_keep_self, blank.2]
    rfl

theorem Blank.fits_unsent (blank : state.Blank caller) (unsent : attempt.call = .notStarted) :
    (state.keep caller attempt {}).Fits caller attempt true := by
  cases ended : attempt.ended with
  | false =>
      apply Fits.of_going ended
      unfold Pending
      rw [unsent]
      exact blank.keep_nil
  | true =>
      apply Fits.of_ended ended
      simp [blank.matched_iff, tells_nil, unsent]

/-- `CircuitResolvedError`: a path without a clause for it takes the model for failed. -/
theorem Blank.fits_turnedAway (blank : state.Blank caller) (unsent : attempt.call = .notStarted)
    (ended : attempt.ended = true) (resolved : error.resolved = true) :
    (state.keep caller attempt (attempt.path.onException error now)).Fits caller attempt
      attempt.path.skipsResolved := by
  apply Fits.of_ended ended
  rw [blank.matched_onException, resolved, Bool.true_and, unsent]
  cases attempt.path.skipsResolved <;> simp

theorem Blank.fits_cancelled (blank : state.Blank caller) (unsent : attempt.call = .notStarted)
    (ended : attempt.ended = true) :
    (state.keep caller attempt attempt.path.onBaseException).Fits caller attempt
      (!attempt.path.reports) := by
  apply Fits.of_ended ended
  rw [blank.matched_iff]
  cases reports : attempt.path.reports <;>
    simp [onBaseException, tells_nil, unsent, reports]

theorem Blank.fits_raised (blank : state.Blank caller) (raised : attempt.call = .raised)
    (ended : attempt.ended = true) :
    (state.keep caller attempt (attempt.path.onException error now)).Fits caller attempt
      (!(error.resolved && attempt.path.skipsResolved)) := by
  apply Fits.of_ended ended
  rw [blank.matched_onException, raised]
  cases error.resolved && attempt.path.skipsResolved <;> simp

theorem Blank.fits_abandoned (blank : state.Blank caller) (cancelled : attempt.call = .cancelled)
    (ended : attempt.ended = true) :
    (state.keep caller attempt attempt.path.onBaseException).Fits caller attempt true := by
  apply Fits.of_ended ended
  simp [blank.matched_iff, onBaseException, tells_nil, cancelled]

theorem Blank.fits_success (blank : state.Blank caller) (returned : attempt.call = .returned)
    (ended : attempt.ended = true) (reports : attempt.path.reports = true → books.reported = true)
    (records : books.records = [.success now]) :
    (state.keep caller attempt books).Fits caller attempt true := by
  apply Fits.of_ended ended
  rw [blank.matched_iff, records]
  simp only [map_cons, map_nil, tells_success, returned, true_and, iff_true]
  intro reporting
  simp [reports reporting]

theorem Blank.fits_uncounted (blank : state.Blank caller) (returned : attempt.call = .returned)
    (ended : attempt.ended = true) :
    (state.keep caller attempt (attempt.path.onException error now)).Fits caller attempt false := by
  apply Fits.of_ended ended
  rw [blank.matched_onException, returned]
  cases error.resolved && attempt.path.skipsResolved <;> simp

/-! ### Steps -/

theorem Consistent.leaveCall {outcome : BackendOutcome} {counting : Option CallError}
    (consistent : state.Consistent) (found : state.attempts caller = some attempt)
    (going : attempt.ended = false) (running : attempt.call = .running) :
    Settles state (state.leaveCall caller attempt outcome counting now)
      (attempt.path.sparesReturn counting outcome) := by
  have blank := consistent.blank found going (.inr running)
  have mine := going_of_found found going
  cases outcome with
  | raised error => exact Settles.keep consistent mine (blank.fits_raised rfl rfl)
  | cancelled | closed => exact Settles.keep consistent mine (blank.fits_abandoned rfl rfl)
  | returned =>
      obtain ⟨path, model, call, ended⟩ := attempt
      cases path with
      | ekComplete | ekStream =>
          exact Settles.keep consistent mine (blank.fits_success rfl rfl (fun _ => rfl) rfl)
      | callWithFallback =>
          exact Settles.keep consistent mine (blank.fits_success rfl rfl nofun rfl)
      | completeStream =>
          cases counting with
          | none => exact Settles.keep consistent mine (blank.fits_success rfl rfl nofun rfl)
          | some error => exact Settles.keep consistent mine (blank.fits_uncounted rfl rfl)
      | complete =>
          cases counting with
          | none =>
              apply Settles.keep consistent mine
              apply Fits.of_going rfl
              left
              refine ⟨rfl, now, ?_⟩
              rw [recordsOf_keep_self, blank.1]
              rfl
          | some error => exact Settles.keep consistent mine (blank.fits_uncounted rfl rfl)
      | completeChat =>
          apply Settles.keep consistent mine
          apply Fits.of_going rfl
          right
          exact ⟨rfl, blank.keep_nil⟩

theorem matched_recorded {earlier : Clock} (returned : attempt.call = .returned)
    (path : attempt.path = .complete)
    (recorded : state.recordsOf caller = [(attempt.model, .success earlier)]) :
    (state.keep caller attempt books).Matched caller attempt ↔ books.records = [] := by
  have records : (state.keep caller attempt books).recordsOf caller =
      (attempt.model, .success earlier) :: books.records.map (Prod.mk attempt.model) := by
    rw [recordsOf_keep_self, recorded]
    rfl
  constructor
  · intro matched
    have told := matched.records
    rw [records, returned] at told
    obtain ⟨later, same⟩ := told
    exact map_eq_nil_iff.mp (List.cons.inj same).2
  · intro nothing
    constructor
    · rw [records, nothing, returned]
      exact ⟨earlier, rfl⟩
    · intro reports
      rw [path] at reports
      cases reports

theorem Consistent.sanitized {outcome : SanitizerOutcome} {counting storing : Option CallError}
    (consistent : state.Consistent) (found : state.attempts caller = some attempt)
    (going : attempt.ended = false) (returned : attempt.call = .returned) :
    Settles state
      (state.keep caller { attempt with ended := true }
        (attempt.path.onSanitized outcome counting storing now))
      (attempt.path.sparesSanitized outcome counting storing) := by
  apply Settles.keep consistent (going_of_found found going)
  have pending := consistent.pending caller attempt found going
  unfold Pending at pending
  rw [returned] at pending
  obtain ⟨path, model, call, ended⟩ := attempt
  cases returned
  rcases pending with ⟨complete, earlier, recorded⟩ | ⟨chat, blank⟩
  · -- The success is recorded already.
    cases complete
    apply Fits.of_ended rfl
    refine Iff.trans (matched_recorded rfl rfl recorded) ?_
    cases outcome with
    | passed | cancelled => exact iff_of_true rfl rfl
    | raised error =>
        cases resolved : error.resolved <;>
          simp [onSanitized, onException, skipsResolved, sparesSanitized, resolved]
  · cases chat
    cases outcome with
    | raised error => exact blank.fits_uncounted rfl rfl
    | cancelled =>
        apply Fits.of_ended rfl
        simp [blank.matched_iff, onSanitized, onBaseException, tells_nil, sparesSanitized]
    | passed =>
        cases counting with
        | some error => exact blank.fits_uncounted rfl rfl
        | none =>
            cases storing with
            | none => exact blank.fits_success rfl rfl nofun rfl
            | some error =>
                -- `json.dumps` has raised behind the success record.
                apply Fits.of_ended rfl
                cases resolved : error.resolved <;>
                  simp [blank.matched_iff, onSanitized, onStored, onException, skipsResolved,
                    reports,
                    sparesSanitized, resolved, tells_success, not_tells_two]

end

section

variable [DecidableEq Model] {provider : Model → Provider}
  {limit : Provider → Nat} {resolvedError : Model → CircuitState → CallError}
  {state after : CallRecords Caller Model Provider} {caller : Caller}
  {attempt : ModelAttempt Model} {now : Clock}

theorem Consistent.resume (consistent : state.Consistent)
    (found : state.attempts caller = some attempt) (going : attempt.ended = false)
    (unsent : attempt.call = .notStarted) {turnedAway : Bool}
    (decided : (state.router.callers caller = none ∧ turnedAway = true) ∨
      ((state.router.callers caller).isSome ∧ turnedAway = false)) :
    Settles state (state.resume resolvedError caller attempt now)
      (!turnedAway || attempt.path.skipsResolved) := by
  have blank := consistent.blank found going (.inl unsent)
  have mine := going_of_found found going
  unfold CallRecords.resume
  rcases decided with ⟨out, isTurnedAway⟩ | ⟨kept, isNot⟩
  · rw [out, isTurnedAway]
    exact Settles.keep consistent mine (blank.fits_turnedAway unsent rfl rfl)
  · obtain ⟨⟨model, phase⟩, place⟩ := Option.isSome_iff_exists.mp kept
    rw [place, isNot]
    cases phase with
    | waiting | acquiring => exact Settles.same consistent rfl rfl rfl
    | inside entered probe =>
        exact Settles.keep consistent mine (Fits.of_going going blank.keep_nil)

variable [DecidableEq Provider]

theorem next_settles {event : CallEvent Caller Model} (consistent : state.Consistent)
    (taken : state.next provider limit resolvedError event = some after) :
    Settles state after (state.spares provider event) := by
  cases event with
  | begin caller path model =>
      simp only [next] at taken
      split at taken
      · cases taken
      · rename_i absent
        obtain ⟨router, moved, same⟩ := map_eq_some_iff.mp taken
        rw [Option.not_isSome_iff_eq_none] at absent
        subst same
        apply Settles.ofRouter
        apply Settles.keep (consistent.withRouter router)
        · intro old found
          cases absent.symm.trans found
        · exact Blank.fits_unsent ((consistent.withRouter router).absent caller absent) rfl
  | acquire caller now | lock caller now =>
      obtain ⟨attempt, found, taken⟩ := Option.bind_eq_some_iff.mp taken
      obtain ⟨router, moved, same⟩ := map_eq_some_iff.mp taken
      obtain ⟨stored, unsent, going⟩ := attemptWith_some found
      subst same
      simp only [spares, stored, all_some]
      apply Settles.ofRouter
      apply (consistent.withRouter router).resume stored going unsent
      first | exact Bulkhead.acquire_callers moved | exact Bulkhead.lock_callers moved
  | cancel caller =>
      obtain ⟨attempt, found, taken⟩ := Option.bind_eq_some_iff.mp taken
      obtain ⟨router, moved, same⟩ := map_eq_some_iff.mp taken
      obtain ⟨stored, unsent, going⟩ := attemptWith_some found
      subst same
      simp only [spares, stored, all_some]
      have blank := (consistent.withRouter router).blank stored going (.inl unsent)
      apply Settles.ofRouter
      apply Settles.keep (consistent.withRouter router) (going_of_found stored going)
      exact blank.fits_cancelled unsent rfl
  | leave caller outcome counting now =>
      obtain ⟨attempt, found, taken⟩ := Option.bind_eq_some_iff.mp taken
      obtain ⟨stored, running, going⟩ := attemptWith_some found
      split at taken
      · cases taken
      · obtain ⟨router, moved, same⟩ := map_eq_some_iff.mp taken
        subst same
        simp only [spares, stored, all_some]
        exact ((consistent.withRouter router).leaveCall stored going running).ofRouter
  | sanitize caller outcome counting storing now =>
      obtain ⟨attempt, found, same⟩ := map_eq_some_iff.mp taken
      obtain ⟨stored, returned, going⟩ := attemptWith_some found
      subst same
      simp only [spares, stored, all_some]
      exact consistent.sanitized stored going returned
  | check model now =>
      simp only [next, withRouter] at taken
      obtain ⟨router, moved, same⟩ := map_eq_some_iff.mp taken
      subst same
      exact Settles.same consistent rfl rfl rfl

omit [DecidableEq Model] [DecidableEq Provider] in
theorem start_consistent (stats : Model → ModelStats) :
    (start stats : CallRecords Caller Model Provider).Consistent := by
  constructor
  · exact fun _ _ => ⟨rfl, rfl⟩
  · exact fun _ _ found => nomatch found

end

/-! ### Runs -/

section

def recovering : String → ModelStats := fun _ => { circuitState := .halfOpen }

def noon : Clock := ⟨0, 0⟩

/-- A text completion probes a half-open circuit while a chat completion is turned away. -/
def probeBesideChat : List (CallEvent Nat String) :=
  [.begin 0 .complete "gpt-4o", .begin 1 .completeChat "gpt-4o", .acquire 0 noon, .lock 0 noon,
    .acquire 1 noon, .leave 0 .returned none noon, .sanitize 0 .passed none none noon]

def probeBesideStream : List (CallEvent Nat String) :=
  [.begin 0 .ekStream "gpt-4o", .begin 1 .ekStream "gpt-4o", .acquire 0 noon, .lock 0 noon,
    .acquire 1 noon]

end

end CallRecords

end AgenticRuntime
