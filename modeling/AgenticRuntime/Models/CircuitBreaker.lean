/-
The run law of the circuit breaker.

The law is read off the history alone: how many failures in a row it ends with,
when the latest failure was and on which clock it can be timed, and what happened
since the circuit went half open. The invariant ties the fields to these.
-/

import AgenticRuntime.Models.ModelStats
import Mathlib.Data.List.Induction

namespace AgenticRuntime

open List
open ModelStats (after after_snoc)

/-! ### What the history says -/

def countInRow (row : Nat) : StatsEvent → Nat
  | .success _ => 0
  | .restore _ => 0
  | .check _ => row
  | .failure _ => row + 1
  | .rateLimit _ _ => row + 1
  | .timeout _ => row + 1

def failuresInRow (history : List StatsEvent) : Nat := history.foldl countInRow 0

/-- The latest failure; after a restore it can be timed by the wall clock only. -/
structure LastFailure where
  clock : Clock
  restored : Bool

def LastFailure.elapsed (failed : LastFailure) (now : Clock) : ℚ :=
  if failed.restored then now.wall - failed.clock.wall else now.mono - failed.clock.mono

def noteFailure (latest : Option LastFailure) : StatsEvent → Option LastFailure
  | .success _ => latest
  | .check _ => latest
  | .restore _ => latest.map fun failed => { failed with restored := true }
  | .failure now => some ⟨now, false⟩
  | .rateLimit now _ => some ⟨now, false⟩
  | .timeout now => some ⟨now, false⟩

def latestFailure (history : List StatsEvent) : Option LastFailure :=
  history.foldl noteFailure none

/-- `since` is what happened since a check let the circuit go half open. -/
structure HalfOpenSince (history since : List StatsEvent) : Prop where
  opened : ∃ before now, history = before ++ .check now :: since ∧
    (after before).circuitState = .isOpen ∧
    ∀ earlier later, since = earlier ++ later →
      (after (before ++ .check now :: earlier)).circuitState = .halfOpen
  unfailed : ∀ event ∈ since, event.failedAt = none

/-- What the circuit may do on `event` after `history`. -/
structure CircuitLaw (history : List StatsEvent) (event : StatsEvent) : Prop where
  opens : (after history).circuitState ≠ .isOpen →
    (after (history ++ [event])).circuitState = .isOpen →
      event.failedAt.isSome ∧ ((after history).circuitState = .halfOpen ∨
        5 ≤ failuresInRow (history ++ [event]))
  admits : (after history).circuitState = .isOpen →
    ∃ failed, latestFailure history = some failed ∧
      ∀ now, ((after history).checkCircuit now).1 = decide (60 ≤ failed.elapsed now)
  closes : (after history).circuitState ≠ .closed →
    (after (history ++ [event])).circuitState = .closed →
      ∃ since, HalfOpenSince history since ∧ event.isSuccess ∧
        2 ≤ (since ++ [event]).countP StatsEvent.isSuccess
  counts : (after history).circuitState ≠ .halfOpen →
    (after history).halfOpenSuccesses = 0

section

variable {history : List StatsEvent} {event : StatsEvent}

theorem failuresInRow_snoc :
    failuresInRow (history ++ [event]) = countInRow (failuresInRow history) event := by
  rw [failuresInRow, foldl_append]
  rfl

theorem latestFailure_snoc :
    latestFailure (history ++ [event]) = noteFailure (latestFailure history) event := by
  rw [latestFailure, foldl_append]
  rfl

theorem StatsEvent.noted_of_failed (event : StatsEvent) {now : Clock}
    (failed : event.failedAt = some now) (row : Nat) (latest : Option LastFailure) :
    countInRow row event = row + 1 ∧ noteFailure latest event = some ⟨now, false⟩ := by
  cases event with
  | success _ | check _ | restore _ => cases failed
  | failure _ | rateLimit _ _ | timeout _ =>
      cases failed
      exact ⟨rfl, rfl⟩

end

/-! ### What the fields say -/

def ModelStats.Dates (stats : ModelStats) (latest : Option LastFailure) : Prop :=
  stats.lastFailure = latest.map (fun failed => failed.clock.wall) ∧
    stats.lastFailureTime = latest.map (fun failed => failed.clock.wall) ∧
    stats.lastFailureMono =
      latest.bind fun failed => if failed.restored then none else some failed.clock.mono

structure Lawful (history : List StatsEvent) : Prop where
  threshold : (after history).failureThreshold = 5
  required : (after history).halfOpenSuccessRequired = 2
  timeout : (after history).recoveryTimeoutSeconds = 60
  inRow : (after history).consecutiveFailures = failuresInRow history
  dates : (after history).Dates (latestFailure history)
  failed : (after history).circuitState ≠ .closed → (latestFailure history).isSome
  idle : (after history).circuitState ≠ .halfOpen →
    (after history).halfOpenSuccesses = 0
  probing : (after history).circuitState = .halfOpen →
    ∃ since, HalfOpenSince history since ∧
      (after history).halfOpenSuccesses ≤ since.countP StatsEvent.isSuccess

/-! ### One step -/

def ModelStats.SameSettings (stats after : ModelStats) : Prop :=
  after.failureThreshold = stats.failureThreshold ∧
    after.halfOpenSuccessRequired = stats.halfOpenSuccessRequired ∧
    after.recoveryTimeoutSeconds = stats.recoveryTimeoutSeconds

def ModelStats.SameDates (stats after : ModelStats) : Prop :=
  after.lastFailure = stats.lastFailure ∧ after.lastFailureTime = stats.lastFailureTime ∧
    after.lastFailureMono = stats.lastFailureMono

structure ModelStats.Fails (stats after : ModelStats) (now : Clock) : Prop where
  settings : stats.SameSettings after
  inRow : after.consecutiveFailures = stats.consecutiveFailures + 1
  dates : after.Dates (some ⟨now, false⟩)
  moved : stats.circuitState = .halfOpen ∧ after.circuitState = .isOpen ∧
      after.halfOpenSuccesses = 0 ∨
    stats.circuitState ≠ .halfOpen ∧ after.halfOpenSuccesses = stats.halfOpenSuccesses ∧
      (after.circuitState = .isOpen ∧ stats.failureThreshold ≤ stats.consecutiveFailures + 1 ∨
        after.circuitState = stats.circuitState)

structure ModelStats.Succeeds (stats after : ModelStats) : Prop where
  settings : stats.SameSettings after
  inRow : after.consecutiveFailures = 0
  dates : stats.SameDates after
  moved : stats.circuitState ≠ .halfOpen ∧ after.circuitState = stats.circuitState ∧
      after.halfOpenSuccesses = stats.halfOpenSuccesses ∨
    stats.circuitState = .halfOpen ∧ after.circuitState = .closed ∧ after.halfOpenSuccesses = 0 ∧
      stats.halfOpenSuccessRequired ≤ stats.halfOpenSuccesses + 1 ∨
    stats.circuitState = .halfOpen ∧ after.circuitState = .halfOpen ∧
      after.halfOpenSuccesses = stats.halfOpenSuccesses + 1

structure ModelStats.Checks (stats after : ModelStats) : Prop where
  settings : stats.SameSettings after
  inRow : after.consecutiveFailures = stats.consecutiveFailures
  dates : stats.SameDates after
  successes : after.halfOpenSuccesses = stats.halfOpenSuccesses
  moved : after.circuitState = stats.circuitState ∨
    stats.circuitState = .isOpen ∧ after.circuitState = .halfOpen

namespace ModelStats

variable (stats : ModelStats) (now : Clock)

theorem recordFailure_fails : stats.Fails (stats.recordFailure now) now := by
  unfold recordFailure
  by_cases probing : stats.circuitState = .halfOpen
  · have counting : (stats.count .failure).circuitState = .halfOpen := probing
    simp only [counting, if_true]
    exact ⟨⟨rfl, rfl, rfl⟩, rfl, ⟨rfl, rfl, rfl⟩, .inl ⟨probing, rfl, rfl⟩⟩
  · have counting : (stats.count .failure).circuitState ≠ .halfOpen := probing
    simp only [counting, if_false]
    split
    · rename_i tripped
      exact ⟨⟨rfl, rfl, rfl⟩, rfl, ⟨rfl, rfl, rfl⟩, .inr ⟨probing, rfl, .inl ⟨rfl, tripped⟩⟩⟩
    · exact ⟨⟨rfl, rfl, rfl⟩, rfl, ⟨rfl, rfl, rfl⟩, .inr ⟨probing, rfl, .inr rfl⟩⟩

theorem step_fails {event : StatsEvent} (failed : event.failedAt = some now) :
    stats.Fails (stats.step event) now := by
  cases event with
  | success _ | check _ | restore _ => cases failed
  | failure _ =>
      cases failed
      exact recordFailure_fails stats now
  | rateLimit _ retryAfterSeconds =>
      cases failed
      obtain ⟨settings, inRow, dates, moved⟩ := recordFailure_fails (stats.count .rateLimit) now
      exact ⟨settings, inRow, dates, moved⟩
  | timeout _ =>
      cases failed
      obtain ⟨settings, inRow, dates, moved⟩ := recordFailure_fails (stats.count .timeout) now
      exact ⟨settings, inRow, dates, moved⟩

theorem recordSuccess_succeeds : stats.Succeeds (stats.recordSuccess now) := by
  unfold recordSuccess
  by_cases probing : stats.circuitState = .halfOpen
  · have counting : (stats.count .success).circuitState = .halfOpen := probing
    simp only [counting, if_true]
    split
    · rename_i enough
      exact ⟨⟨rfl, rfl, rfl⟩, rfl, ⟨rfl, rfl, rfl⟩, .inr (.inl ⟨probing, rfl, rfl, enough⟩)⟩
    · exact ⟨⟨rfl, rfl, rfl⟩, rfl, ⟨rfl, rfl, rfl⟩, .inr (.inr ⟨probing, rfl, rfl⟩)⟩
  · have counting : (stats.count .success).circuitState ≠ .halfOpen := probing
    simp only [counting, if_false]
    exact ⟨⟨rfl, rfl, rfl⟩, rfl, ⟨rfl, rfl, rfl⟩, .inl ⟨probing, rfl, rfl⟩⟩

theorem checkCircuit_checks : stats.Checks (stats.checkCircuit now).2 := by
  have same : stats.Checks stats := ⟨⟨rfl, rfl, rfl⟩, rfl, ⟨rfl, rfl, rfl⟩, rfl, .inl rfl⟩
  unfold checkCircuit
  cases state : stats.circuitState with
  | closed => exact same
  | halfOpen => exact same
  | isOpen =>
      have probes : stats.Checks { stats with circuitState := .halfOpen } :=
        ⟨⟨rfl, rfl, rfl⟩, rfl, ⟨rfl, rfl, rfl⟩, rfl, .inr ⟨state, rfl⟩⟩
      dsimp only
      split
      · split
        · exact probes
        · exact same
      · split
        · exact probes
        · exact same
      · exact same

end ModelStats

/-! ### Whole runs -/

theorem HalfOpenSince.snoc {history since : List StatsEvent} {event : StatsEvent}
    (probing : HalfOpenSince history since) (passed : event.failedAt = none)
    (state : (after (history ++ [event])).circuitState = .halfOpen) :
    HalfOpenSince (history ++ [event]) (since ++ [event]) := by
  obtain ⟨⟨before, now, shape, wasOpen, stayed⟩, unfailed⟩ := probing
  constructor
  · refine ⟨before, now, ?_, wasOpen, ?_⟩
    · rw [shape, append_assoc, cons_append]
    · intro earlier later split
      rcases eq_nil_or_concat later with done | ⟨rest, last, more⟩
      · have whole : before ++ .check now :: earlier = history ++ [event] := by
          rw [done, append_nil] at split
          rw [← split, shape, append_assoc, cons_append]
        rw [whole]
        exact state
      · rw [more, concat_eq_append, ← append_assoc] at split
        exact stayed earlier rest (append_inj_left' split rfl)
  · intro other member
    rcases mem_append.mp member with old | new
    · exact unfailed other old
    · rw [mem_singleton.mp new]
      exact passed

namespace Lawful

variable {history : List StatsEvent} {event : StatsEvent}

theorem initial : Lawful [] where
  threshold := rfl
  required := rfl
  timeout := rfl
  inRow := rfl
  dates := ⟨rfl, rfl, rfl⟩
  failed := fun broken => absurd rfl broken
  idle := fun _ => rfl
  probing := nofun

theorem fail (lawful : Lawful history) {now : Clock} (failed : event.failedAt = some now) :
    Lawful (history ++ [event]) := by
  have fails := (after history).step_fails now failed
  rw [← after_snoc] at fails
  have row : failuresInRow (history ++ [event]) = failuresInRow history + 1 := by
    rw [failuresInRow_snoc, (event.noted_of_failed failed _ none).1]
  have latest : latestFailure (history ++ [event]) = some ⟨now, false⟩ := by
    rw [latestFailure_snoc, (event.noted_of_failed failed 0 _).2]
  obtain ⟨settings, inRow, dates, moved⟩ := fails
  have idle : (after (history ++ [event])).halfOpenSuccesses = 0 := by
    rcases moved with ⟨_, _, reset⟩ | ⟨notProbing, kept, _⟩
    · exact reset
    · exact kept.trans (lawful.idle notProbing)
  have notHalfOpen : (after (history ++ [event])).circuitState ≠ .halfOpen := by
    rcases moved with ⟨_, opened, _⟩ | ⟨notProbing, _, ⟨opened, _⟩ | same⟩
    · rw [opened]
      nofun
    · rw [opened]
      nofun
    · rw [same]
      exact notProbing
  exact {
    threshold := settings.1.trans lawful.threshold
    required := settings.2.1.trans lawful.required
    timeout := settings.2.2.trans lawful.timeout
    inRow := by rw [inRow, row, lawful.inRow]
    dates := latest ▸ dates
    failed := fun _ => latest ▸ rfl
    idle := fun _ => idle
    probing := fun state => absurd state notHalfOpen }

theorem succeed (lawful : Lawful history) (now : Clock) :
    Lawful (history ++ [.success now]) := by
  have succeeds := (after history).recordSuccess_succeeds now
  have moves : (ModelStats.after (history ++ [.success now])) =
      (after history).recordSuccess now := after_snoc history _
  rw [← moves] at succeeds
  have latest : latestFailure (history ++ [.success now]) = latestFailure history :=
    latestFailure_snoc
  obtain ⟨settings, inRow, dates, moved⟩ := succeeds
  refine {
    threshold := settings.1.trans lawful.threshold
    required := settings.2.1.trans lawful.required
    timeout := settings.2.2.trans lawful.timeout
    inRow := by rw [inRow, failuresInRow_snoc]; rfl
    dates := ?_
    failed := ?_
    idle := ?_
    probing := ?_ }
  · rw [latest]
    exact ⟨dates.1.trans lawful.dates.1, dates.2.1.trans lawful.dates.2.1,
      dates.2.2.trans lawful.dates.2.2⟩
  · intro broken
    rw [latest]
    apply lawful.failed
    rcases moved with ⟨_, same, _⟩ | ⟨_, closed, _⟩ | ⟨probing, _⟩
    · rw [← same]
      exact broken
    · exact absurd closed broken
    · rw [probing]
      nofun
  · intro notProbing
    rcases moved with ⟨wasIdle, _, kept⟩ | ⟨_, _, reset, _⟩ | ⟨_, still, _⟩
    · exact kept.trans (lawful.idle wasIdle)
    · exact reset
    · exact absurd still notProbing
  · intro state
    rcases moved with ⟨wasIdle, same, _⟩ | ⟨_, closed, _⟩ | ⟨probing, _, one⟩
    · exact absurd (same.symm.trans state) wasIdle
    · rw [closed] at state
      cases state
    · obtain ⟨since, halfOpen, counted⟩ := lawful.probing probing
      refine ⟨since ++ [.success now], halfOpen.snoc rfl state, ?_⟩
      rw [one, countP_append]
      exact Nat.add_le_add_right counted 1

theorem check (lawful : Lawful history) (now : Clock) : Lawful (history ++ [.check now]) := by
  have checks := (after history).checkCircuit_checks now
  have moves : (ModelStats.after (history ++ [.check now])) =
      ((after history).checkCircuit now).2 := after_snoc history _
  rw [← moves] at checks
  have latest : latestFailure (history ++ [.check now]) = latestFailure history :=
    latestFailure_snoc
  obtain ⟨settings, inRow, dates, successes, moved⟩ := checks
  refine {
    threshold := settings.1.trans lawful.threshold
    required := settings.2.1.trans lawful.required
    timeout := settings.2.2.trans lawful.timeout
    inRow := by rw [inRow, failuresInRow_snoc]; exact lawful.inRow
    dates := ?_
    failed := ?_
    idle := ?_
    probing := ?_ }
  · rw [latest]
    exact ⟨dates.1.trans lawful.dates.1, dates.2.1.trans lawful.dates.2.1,
      dates.2.2.trans lawful.dates.2.2⟩
  · intro broken
    rw [latest]
    apply lawful.failed
    rcases moved with same | ⟨wasOpen, _⟩
    · rw [← same]
      exact broken
    · rw [wasOpen]
      nofun
  · intro notProbing
    rw [successes]
    apply lawful.idle
    rcases moved with same | ⟨_, probing⟩
    · rw [← same]
      exact notProbing
    · exact absurd probing notProbing
  · intro state
    rcases moved with same | ⟨wasOpen, _⟩
    · obtain ⟨since, halfOpen, counted⟩ := lawful.probing (same.symm.trans state)
      refine ⟨since ++ [.check now], halfOpen.snoc rfl state, ?_⟩
      rw [successes, countP_append]
      exact Nat.le_add_right_of_le counted
    · have reset : (after history).halfOpenSuccesses = 0 :=
        lawful.idle (by rw [wasOpen]; nofun)
      refine ⟨[], ⟨⟨history, now, rfl, wasOpen, ?_⟩, nofun⟩, ?_⟩
      · intro earlier later split
        rw [(append_eq_nil_iff.mp split.symm).1]
        exact state
      · rw [successes, reset]
        exact Nat.zero_le _

theorem restore (lawful : Lawful history) (now : Clock) : Lawful (history ++ [.restore now]) := by
  have moves : (ModelStats.after (history ++ [.restore now])) =
      ModelStats.fromDict (after history).toDict now := after_snoc history _
  have latest : latestFailure (history ++ [.restore now]) =
      (latestFailure history).map fun failed => { failed with restored := true } :=
    latestFailure_snoc
  have state : (ModelStats.after (history ++ [.restore now])).circuitState =
      (after history).circuitState := by rw [moves]; rfl
  have successes : (ModelStats.after (history ++ [.restore now])).halfOpenSuccesses = 0 := by
    rw [moves]
    rfl
  refine {
    threshold := by rw [moves]; rfl
    required := by rw [moves]; rfl
    timeout := by rw [moves]; rfl
    inRow := by rw [moves, failuresInRow_snoc]; rfl
    dates := ?_
    failed := ?_
    idle := fun _ => successes
    probing := ?_ }
  · have dated := lawful.dates.1
    rw [latest, moves]
    refine ⟨?_, ?_, ?_⟩
    · rw [Option.map_map]
      exact dated
    · rw [Option.map_map]
      exact dated
    · cases latestFailure history with
      | none => rfl
      | some failed => rfl
  · intro broken
    rw [latest, Option.isSome_map]
    rw [state] at broken
    exact lawful.failed broken
  · intro probing
    rw [state] at probing
    obtain ⟨since, halfOpen, _⟩ := lawful.probing probing
    refine ⟨since ++ [.restore now], halfOpen.snoc rfl (state.trans probing), ?_⟩
    rw [successes]
    exact Nat.zero_le _

theorem step (lawful : Lawful history) (event : StatsEvent) : Lawful (history ++ [event]) := by
  cases event with
  | success now => exact lawful.succeed now
  | failure now | rateLimit now retryAfterSeconds | timeout now => exact lawful.fail rfl
  | check now => exact lawful.check now
  | restore now => exact lawful.restore now

theorem run (history : List StatsEvent) : Lawful history := by
  induction history using List.reverseRecOn with
  | nil => exact initial
  | append_singleton history event ih => exact ih.step event

theorem admits (lawful : Lawful history)
    (isOpen : (after history).circuitState = .isOpen) :
    ∃ failed, latestFailure history = some failed ∧
      ∀ now, ((after history).checkCircuit now).1 = decide (60 ≤ failed.elapsed now) := by
  have some_failure : (latestFailure history).isSome := lawful.failed (by rw [isOpen]; nofun)
  obtain ⟨failed, latest⟩ := Option.isSome_iff_exists.mp some_failure
  have dates := lawful.dates
  rw [latest] at dates
  obtain ⟨_, wall, mono⟩ := dates
  refine ⟨failed, latest, ?_⟩
  intro now
  unfold ModelStats.checkCircuit
  rw [isOpen, wall, mono, lawful.timeout]
  cases timed : failed.restored with
  | true =>
      simp only [Option.bind_some, timed, if_true, Option.map_some, LastFailure.elapsed]
      by_cases waited : now.wall - failed.clock.wall ≥ 60
      · rw [if_pos waited]
        exact (decide_eq_true waited).symm
      · rw [if_neg waited]
        exact (decide_eq_false waited).symm
  | false =>
      simp only [Option.bind_some, timed, Bool.false_eq_true, if_false, LastFailure.elapsed]
      by_cases waited : now.mono - failed.clock.mono ≥ 60
      · rw [if_pos waited]
        exact (decide_eq_true waited).symm
      · rw [if_neg waited]
        exact (decide_eq_false waited).symm

theorem opens (lawful : Lawful history)
    (notOpen : (after history).circuitState ≠ .isOpen)
    (opened : (after (history ++ [event])).circuitState = .isOpen) :
    event.failedAt.isSome ∧ ((after history).circuitState = .halfOpen ∨
      5 ≤ failuresInRow (history ++ [event])) := by
  cases failed : event.failedAt with
  | some now =>
      have fails := (after history).step_fails now failed
      rw [← after_snoc] at fails
      refine ⟨rfl, ?_⟩
      rcases fails.moved with ⟨probing, _⟩ | ⟨_, _, ⟨_, tripped⟩ | same⟩
      · exact .inl probing
      · rw [lawful.threshold, lawful.inRow] at tripped
        rw [failuresInRow_snoc, (event.noted_of_failed failed _ none).1]
        exact .inr tripped
      · exact absurd (same.symm.trans opened) notOpen
  | none =>
      exfalso
      rw [after_snoc] at opened
      cases event with
      | success now =>
          rcases ((after history).recordSuccess_succeeds now).moved with
            ⟨_, same, _⟩ | ⟨_, closed, _⟩ | ⟨_, still, _⟩
          · exact notOpen (same.symm.trans opened)
          · cases closed.symm.trans opened
          · cases still.symm.trans opened
      | failure now | rateLimit now retryAfterSeconds | timeout now => cases failed
      | check now =>
          rcases ((after history).checkCircuit_checks now).moved with
            same | ⟨wasOpen, _⟩
          · exact notOpen (same.symm.trans opened)
          · exact notOpen wasOpen
      | restore now => exact notOpen opened

theorem closes (lawful : Lawful history)
    (notClosed : (after history).circuitState ≠ .closed)
    (closed : (after (history ++ [event])).circuitState = .closed) :
    ∃ since, HalfOpenSince history since ∧ event.isSuccess ∧
      2 ≤ (since ++ [event]).countP StatsEvent.isSuccess := by
  rw [after_snoc] at closed
  have failing : ∀ now, event.failedAt = some now → False := by
    intro now failed
    rcases ((after history).step_fails now failed).moved with
      ⟨_, opened, _⟩ | ⟨_, _, ⟨opened, _⟩ | same⟩
    · cases opened.symm.trans closed
    · cases opened.symm.trans closed
    · exact notClosed (same.symm.trans closed)
  cases event with
  | success now =>
      rcases ((after history).recordSuccess_succeeds now).moved with
        ⟨_, same, _⟩ | ⟨probing, _, _, enough⟩ | ⟨_, still, _⟩
      · exact absurd (same.symm.trans closed) notClosed
      · obtain ⟨since, halfOpen, counted⟩ := lawful.probing probing
        refine ⟨since, halfOpen, rfl, ?_⟩
        have one : [StatsEvent.success now].countP StatsEvent.isSuccess = 1 := rfl
        rw [lawful.required] at enough
        rw [countP_append, one]
        omega
      · cases still.symm.trans closed
  | failure now | rateLimit now retryAfterSeconds | timeout now => exact (failing now rfl).elim
  | check now =>
      rcases ((after history).checkCircuit_checks now).moved with same | ⟨_, probing⟩
      · exact absurd (same.symm.trans closed) notClosed
      · cases probing.symm.trans closed
  | restore now => exact absurd closed notClosed

end Lawful

/-- The law holds after every history, whatever the clocks do. -/
theorem circuit_breaker_law (history : List StatsEvent) (event : StatsEvent) :
    CircuitLaw history event where
  opens := (Lawful.run history).opens
  admits := (Lawful.run history).admits
  closes := (Lawful.run history).closes
  counts := (Lawful.run history).idle

end AgenticRuntime
