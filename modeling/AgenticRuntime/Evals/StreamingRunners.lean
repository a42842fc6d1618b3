/-
The runners of evaluations: the two synchronous loops with their counters, and the
asynchronous one with its pool of tasks.

A callback is given by the exception it raises, if it does.  In the asynchronous runner a task is
the position of its case; when a task starts, when it completes, in which order a batch of
completed tasks is drained and when the consumer asks for the next result come with the events.
-/

import AgenticRuntime.Python.Values
import AgenticRuntime.Transition
import Mathlib.Data.List.Perm.Basic

namespace AgenticRuntime.Evals

open Transition List Option

variable {T R E : Type}

def Raises (outcome : Except E R) : Bool :=
  match outcome with
  | .ok _ => false
  | .error _ => true

theorem folded_counts {S A : Type} {step : S → A → Except E S} (fails : A → Bool)
    (seen failed : S → Nat)
    (one : ∀ before item after, step before item = .ok after →
      seen after = seen before + 1 ∧ failed after = failed before + if fails item then 1 else 0)
    {items : List A} {start finish : S} (done : items.foldlM step start = .ok finish) :
    seen finish = seen start + items.length ∧
      failed finish = failed start + items.countP fails := by
  induction items generalizing start with
  | nil =>
      cases done
      exact ⟨rfl, rfl⟩
  | cons item rest ih =>
      rw [foldlM_cons] at done
      obtain ⟨middle, stepped, left⟩ := Python.bind_ok done
      obtain ⟨seenOne, failedOne⟩ := one start item middle stepped
      obtain ⟨seenRest, failedRest⟩ := ih left
      rw [length_cons, countP_cons]
      omega

/-! ### The synchronous runners -/

structure StreamingStats where
  processed : Nat := 0
  successful : Nat := 0
  failed : Nat := 0

structure StreamingRunner (T R E : Type) where
  evaluator : T → Except E R
  onResult : R → Option E
  onError : T → E → Option E
  continueOnError : Bool

structure BatchResult (R E : Type) where
  results : List R
  errors : List (Nat × E)
  total : Nat
  successful : Nat
  failed : Nat

structure BatchRunner (T R E : Type) where
  evaluator : T → Except E R
  onProgress : Nat → Nat → Option E
  onError : Nat → T → E → Option E
  continueOnError : Bool

namespace StreamingRunner

variable (runner : StreamingRunner T R E)

/-- The `except` clause of the loop. -/
def caught (stats : StreamingStats) (case : T) (error : E) : Except E StreamingStats :=
  match runner.onError case error with
  | some other => .error other
  | none =>
      if runner.continueOnError then .ok { stats with failed := stats.failed + 1 } else .error error

def round (stats : StreamingStats) (case : T) : Except E StreamingStats :=
  let stats := { stats with processed := stats.processed + 1 }
  match runner.evaluator case with
  | .error error => runner.caught stats case error
  | .ok result =>
      let stats := { stats with successful := stats.successful + 1 }
      match runner.onResult result with
      | some error => runner.caught stats case error
      | none => .ok stats

def run (cases : List T) : Except E StreamingStats := cases.foldlM runner.round {}

/-- The counters add up, and those that failed are those whose evaluator raised. -/
def Accounts (cases : List T) (stats : StreamingStats) : Prop :=
  stats.processed = stats.successful + stats.failed ∧
    stats.failed = cases.countP fun case => Raises (runner.evaluator case)

/-- Where `on_result` raises, the exception ends the run. -/
def CallbackEnds : Prop :=
  ∀ case result error, runner.evaluator case = .ok result → runner.onResult result = some error →
    runner.continueOnError = false ∨ runner.onError case error ≠ none

variable {runner}

theorem round_ok (ends : runner.CallbackEnds) {stats after : StreamingStats} {case : T}
    (done : runner.round stats case = .ok after) :
    after.processed = stats.processed + 1 ∧
      after.successful + after.failed = stats.successful + stats.failed + 1 ∧
      after.failed = stats.failed + if Raises (runner.evaluator case) then 1 else 0 := by
  unfold round at done
  cases evaluated : runner.evaluator case with
  | error error =>
      rw [evaluated] at done
      unfold caught at done
      dsimp only at done
      split at done
      · cases done
      · split at done
        · cases done
          exact ⟨rfl, rfl, rfl⟩
        · cases done
  | ok result =>
      rw [evaluated] at done
      dsimp only at done
      split at done
      · rename_i error raised
        -- the exception of the callback would be counted as a failure
        unfold caught at done
        split at done
        · cases done
        · rename_i returned
          rcases ends case result error evaluated raised with stops | reraised
          · rw [stops] at done
            cases done
          · exact absurd returned reraised
      · cases done
        exact ⟨rfl, Nat.add_right_comm _ _ _, rfl⟩

theorem accounts_iff :
    (∀ cases stats, runner.run cases = .ok stats → runner.Accounts cases stats) ↔
      runner.CallbackEnds := by
  constructor
  · intro accounts case result error evaluated raised
    by_contra left
    rw [not_or, not_not, Bool.not_eq_false] at left
    have caught : runner.round {} case = .ok ⟨1, 1, 1⟩ := by
      simp [round, caught, evaluated, raised, left.1, left.2]
    have done : runner.run [case] = .ok ⟨1, 1, 1⟩ := by
      rw [run, foldlM_cons, caught]
      rfl
    have adds := (accounts [case] _ done).1
    cases adds
  · intro ends cases stats done
    have seen := folded_counts (fun case => Raises (runner.evaluator case)) StreamingStats.processed
      StreamingStats.failed (fun _ _ _ stepped =>
        ⟨(round_ok ends stepped).1, (round_ok ends stepped).2.2⟩) done
    have both := folded_counts (fun case => Raises (runner.evaluator case))
      (fun stats => stats.successful + stats.failed) StreamingStats.failed
      (fun _ _ _ stepped => (round_ok ends stepped).2) done
    exact ⟨seen.1.trans both.1.symm, seen.2.trans (Nat.zero_add _)⟩

end StreamingRunner

namespace BatchRunner

variable (runner : BatchRunner T R E)

/-- The `try` statement of the loop. -/
def attempt (result : BatchResult R E) (item : T × Nat) : Except E (BatchResult R E) :=
  match runner.evaluator item.1 with
  | .ok value =>
      .ok { result with results := result.results ++ [value], successful := result.successful + 1 }
  | .error error =>
      match runner.onError item.2 item.1 error with
      | some other => .error other
      | none =>
          if runner.continueOnError then
            .ok { result with
              errors := result.errors ++ [(item.2, error)], failed := result.failed + 1 }
          else .error error

def round (result : BatchResult R E) (item : T × Nat) : Except E (BatchResult R E) :=
  match runner.attempt result item with
  | .error error => .error error
  | .ok after =>
      match runner.onProgress (item.2 + 1) after.total with
      | some error => .error error
      | none => .ok after

def run (cases : List T) : Except E (BatchResult R E) :=
  cases.zipIdx.foldlM runner.round ⟨[], [], cases.length, 0, 0⟩

variable {runner}

theorem round_ok {before after : BatchResult R E} {item : T × Nat}
    (done : runner.round before item = .ok after) :
    after.successful + after.failed = before.successful + before.failed + 1 ∧
      after.failed = before.failed + if Raises (runner.evaluator item.1) then 1 else 0 := by
  have attempted : runner.attempt before item = .ok after := by
    unfold round at done
    split at done
    · cases done
    · split at done
      · cases done
      · cases done
        assumption
  unfold attempt at attempted
  split at attempted
  · rename_i value evaluated
    cases attempted
    rw [evaluated]
    exact ⟨Nat.add_right_comm _ _ _, rfl⟩
  · rename_i error evaluated
    split at attempted
    · cases attempted
    · split at attempted
      · cases attempted
        rw [evaluated]
        exact ⟨rfl, rfl⟩
      · cases attempted

theorem run_accounts {cases : List T} {result : BatchResult R E}
    (done : runner.run cases = .ok result) : cases.length = result.successful + result.failed ∧
      result.failed = cases.countP fun case => Raises (runner.evaluator case) := by
  obtain ⟨both, failed⟩ := folded_counts (fun item => Raises (runner.evaluator item.1))
    (fun result => result.successful + result.failed) BatchResult.failed
    (fun _ _ _ stepped => round_ok stepped) done
  have cases_of_items : cases = cases.zipIdx.map Prod.fst := (zipIdx_map_fst 0 cases).symm
  constructor
  · rw [both, length_zipIdx]
    exact (Nat.zero_add _).symm
  · rw [failed, cases_of_items, countP_map, ← cases_of_items]
    exact Nat.zero_add _

end BatchRunner

/-! ### The asynchronous runner -/

structure AsyncStreamingRunner (T R E : Type) where
  evaluator : T → Except E R
  onResult : R → Option E
  continueOnError : Bool
  maxConcurrency : Int

namespace AsyncStreamingRunner

/-- Where `iter_results` is: at its next case, in `asyncio.wait`, in a batch of completed tasks,
at its end, or out of it by an exception. -/
inductive Phase where
  | filling
  | waiting
  | draining (done : List Nat)
  | ended
  | raised

/-- `queued` are the tasks that the semaphore has not let in; `queued`, `running` and
`finished` make up `pending`. -/
structure State (R : Type) where
  taken : Nat
  queued : List Nat
  running : List Nat
  finished : List Nat
  drained : List Nat
  started : List Nat
  yielded : List (Nat × R)
  phase : Phase

inductive Event where
  | pull
  | start (task : Nat)
  | complete (task : Nat)
  | wake (done : List Nat)
  | drain

variable (runner : AsyncStreamingRunner T R E) (cases : List T)

def State.initial : State R :=
  { taken := 0, queued := [], running := [], finished := [], drained := [], started := []
    yielded := [], phase := .filling }

/-- `max(1, int(max_concurrency))` -/
def limit : Nat := max 1 runner.maxConcurrency.toNat

variable (state : State R)

def State.pending : Nat :=
  state.queued.length + state.running.length + state.finished.length

/-- One round of `async for test_case`, or of `while pending` when there are no more cases. -/
def pulled : State R :=
  if state.taken < cases.length then
    let added := { state with queued := state.taken :: state.queued, taken := state.taken + 1 }
    { added with phase := if runner.limit ≤ added.pending then .waiting else .filling }
  else { state with phase := if state.pending = 0 then .ended else .waiting }

/-- What `_drain_results` does with the outcome of a task. -/
def report (task : Nat) (rest : List Nat) (outcome : Except E R) : State R :=
  match outcome with
  | .ok result =>
      match runner.onResult result with
      | some _ => { state with phase := .raised }
      | none => { state with yielded := (task, result) :: state.yielded, phase := .draining rest }
  | .error _ => { state with phase := if runner.continueOnError then .draining rest else .raised }

/-- One round of `_drain_one`, with the outcome that `_eval_one` makes of the case. -/
def drainOne (task : Nat) (rest : List Nat) : Option (State R) :=
  cases[task]?.map fun case =>
    runner.report
      { state with finished := state.finished.erase task, drained := task :: state.drained }
      task rest (runner.evaluator case)

def next : Event → Option (State R)
  | .pull =>
      match state.phase with
      | .filling => some (runner.pulled cases state)
      | _ => none
  | .start task =>
      if task ∈ state.queued ∧ state.running.length < runner.limit then
        some { state with
          queued := state.queued.erase task
          running := task :: state.running
          started := task :: state.started }
      else none
  | .complete task =>
      if task ∈ state.running then
        some { state with
          running := state.running.erase task
          finished := task :: state.finished }
      else none
  | .wake done =>
      match state.phase with
      | .waiting =>
          if state.finished ≠ [] ∧ done.isPerm state.finished then
            some { state with phase := .draining done }
          else none
      | _ => none
  | .drain =>
      match state.phase with
      | .draining [] => some { state with phase := .filling }
      | .draining (task :: rest) => runner.drainOne cases state task rest
      | _ => none

def success? (task : Nat) : Option (Nat × R) :=
  match cases[task]?.map runner.evaluator with
  | some (.ok result) => some (task, result)
  | _ => none

/-- Each case is evaluated at most once and at most `limit` at a time; when nothing is left to
happen, each has been evaluated and each success has been yielded, once. -/
structure Once (state : State R) : Prop where
  started : state.started.Nodup
  bounded : state.running.length ≤ runner.limit
  complete : Stuck (runner.next cases) state →
    state.started.Perm (List.range cases.length) ∧
      state.yielded.Perm ((List.range cases.length).filterMap (runner.success? cases))

/-- An iterator that raised leaves no evaluation behind and no success undrained. -/
def Contained : Prop :=
  state.phase = .raised → state.queued = [] ∧ state.running = [] ∧
    ∀ task ∈ state.finished, runner.success? cases task = none

def raisesOn (outcome : Except E R) : Bool :=
  match outcome with
  | .ok result => (runner.onResult result).isSome
  | .error _ => !runner.continueOnError

/-! ### What every run keeps -/

def Room : Phase → Prop
  | .filling => state.pending < runner.limit
  | .waiting => 0 < state.pending ∧ state.pending ≤ runner.limit
  | .draining rest => state.pending ≤ runner.limit ∧ state.pending < runner.limit + rest.length ∧
      ∃ other, state.finished.Perm (rest ++ other)
  | .ended => state.pending = 0 ∧ state.taken = cases.length
  | .raised => runner.limit = 1 → state.pending = 0

structure Sound (state : State R) : Prop where
  fewer : state.taken ≤ cases.length
  bounded : state.running.length ≤ runner.limit
  tracked : (state.queued ++ (state.running ++ (state.finished ++ state.drained))).Perm
    (List.range state.taken)
  begun : state.started.Perm (state.running ++ (state.finished ++ state.drained))
  yields : state.phase ≠ .raised →
    state.yielded.Perm (state.drained.filterMap (runner.success? cases))
  room : runner.Room cases state state.phase

theorem moved {task : Nat} {source : List Nat} (member : task ∈ source) (target : List Nat) :
    (source.erase task ++ task :: target).Perm (source ++ target) :=
  perm_middle.trans ((perm_cons_erase member).symm.append_right target)

variable {runner cases}

theorem sound_initial : runner.Sound cases ((State.initial : State R)) where
  fewer := Nat.zero_le _
  bounded := Nat.zero_le _
  tracked := List.Perm.refl _
  begun := List.Perm.refl _
  yields := fun _ => List.Perm.refl _
  room := Nat.lt_of_lt_of_le Nat.one_pos (Nat.le_max_left _ _)

theorem Sound.pull {state : State R} (sound : runner.Sound cases state)
    (filling : state.phase = .filling) : runner.Sound cases (runner.pulled cases state) := by
  have room : state.pending < runner.limit := by
    have room := sound.room
    rw [filling] at room
    exact room
  have yields := sound.yields (filling ▸ nofun)
  unfold pulled
  split
  · rename_i more
    refine ⟨more, sound.bounded, ?_, sound.begun, fun _ => yields, ?_⟩
    · rw [range_succ]
      exact (perm_append_singleton state.taken _).symm.trans (sound.tracked.append_right _)
    · dsimp only
      split
      · rename_i full
        simp only [Room, State.pending, length_cons] at room full ⊢
        omega
      · rename_i less
        exact Nat.lt_of_not_le less
  · rename_i exhausted
    refine ⟨sound.fewer, sound.bounded, sound.tracked, sound.begun, fun _ => yields, ?_⟩
    dsimp only
    split
    · rename_i empty
      exact ⟨empty, Nat.le_antisymm sound.fewer (Nat.not_lt.mp exhausted)⟩
    · rename_i some
      exact ⟨Nat.pos_of_ne_zero some, Nat.le_of_lt room⟩

/-- A step that moves a task within `pending` leaves the phase its room. -/
theorem Sound.room_of_moved {state after : State R} (sound : runner.Sound cases state)
    (phase : after.phase = state.phase) (taken : after.taken = state.taken)
    (pending : after.pending = state.pending)
    (finished : ∀ rest other, state.finished.Perm (rest ++ other) →
      ∃ more, after.finished.Perm (rest ++ more)) :
    runner.Room cases after after.phase := by
  have room := sound.room
  rw [phase]
  cases known : state.phase with
  | draining rest =>
      rw [known] at room
      obtain ⟨most, less, other, listed⟩ := room
      exact ⟨pending.trans_le most, pending.trans_lt less, finished rest other listed⟩
  | filling =>
      rw [known] at room
      exact pending.trans_lt room
  | waiting =>
      rw [known] at room
      exact ⟨room.1.trans_eq pending.symm, pending.trans_le room.2⟩
  | ended =>
      rw [known] at room
      exact ⟨pending.trans room.1, taken.trans room.2⟩
  | raised =>
      rw [known] at room
      exact fun alone => pending.trans (room alone)

theorem Sound.drained {state after : State R} {task : Nat} {rest : List Nat}
    (sound : runner.Sound cases state) (phase : state.phase = .draining (task :: rest))
    (stepped : runner.drainOne cases state task rest = some after) :
    runner.Sound cases after := by
  have room := sound.room
  rw [phase] at room
  obtain ⟨most, less, other, listed⟩ := room
  have member : task ∈ state.finished := listed.mem_iff.mpr mem_cons_self
  have left : (state.finished.erase task).Perm (rest ++ other) := by
    have erased := listed.erase task
    rw [cons_append, erase_cons_head] at erased
    exact erased
  have moves := (moved member state.drained).append_left state.running
  have tracked := (moves.append_left state.queued).trans sound.tracked
  have begun := sound.begun.trans moves.symm
  have yields := sound.yields (phase ▸ nofun)
  have shorter : (state.finished.erase task).length + 1 = state.finished.length := by
    rw [length_erase_of_mem member]
    exact Nat.succ_pred_eq_of_pos (length_pos_of_mem member)
  unfold State.pending at most less
  rw [length_cons] at less
  have goes : runner.Room cases { state with
      finished := state.finished.erase task, drained := task :: state.drained } (.draining rest) := by
    refine ⟨?_, ?_, other, left⟩
    · simp only [State.pending]
      omega
    · simp only [State.pending]
      omega
  have stops : runner.Room cases { state with
      finished := state.finished.erase task, drained := task :: state.drained } .raised := by
    intro alone
    simp only [State.pending]
    omega
  obtain ⟨case, known, rfl⟩ := map_eq_some_iff.mp stepped
  cases outcome : runner.evaluator case with
  | ok result =>
      have succeeded : runner.success? cases task = some (task, result) := by
        rw [success?, known, map_some, outcome]
      unfold report
      dsimp only
      split
      · exact ⟨sound.fewer, sound.bounded, tracked, begun, fun calm => absurd rfl calm, stops⟩
      · refine ⟨sound.fewer, sound.bounded, tracked, begun, fun _ => ?_, goes⟩
        rw [filterMap_cons, succeeded]
        exact yields.cons _
  | error error =>
      have failed : runner.success? cases task = none := by
        rw [success?, known, map_some, outcome]
      refine ⟨sound.fewer, sound.bounded, tracked, begun, fun _ => ?_, ?_⟩
      · unfold report
        rw [filterMap_cons, failed]
        exact yields
      · unfold report
        dsimp only
        split
        · exact goes
        · exact stops

theorem next_sound (event : Event) (after : State R) (sound : runner.Sound cases state)
    (taken : runner.next cases state event = some after) :
    runner.Sound cases after := by
  cases event with
  | pull =>
      simp only [next] at taken
      split at taken
      · rename_i filling
        cases taken
        exact sound.pull filling
      · cases taken
  | start task =>
      simp only [next] at taken
      split at taken
      · rename_i guard
        cases taken
        obtain ⟨member, free⟩ := guard
        refine ⟨sound.fewer, free, ?_, sound.begun.cons task, sound.yields, ?_⟩
        · exact (moved member _).trans sound.tracked
        · apply sound.room_of_moved
          · rfl
          · rfl
          · have some := length_pos_of_mem member
            simp only [State.pending, length_erase_of_mem member, length_cons]
            omega
          · exact fun _ other listed => ⟨other, listed⟩
      · cases taken
  | complete task =>
      simp only [next] at taken
      split at taken
      · rename_i member
        cases taken
        have some := length_pos_of_mem member
        have shorter := length_erase_of_mem member
        have moves := moved member (state.finished ++ state.drained)
        refine ⟨sound.fewer, ?_, ?_, sound.begun.trans moves.symm, sound.yields, ?_⟩
        · have bounded := sound.bounded
          dsimp only
          omega
        · exact (moves.append_left state.queued).trans sound.tracked
        · apply sound.room_of_moved
          · rfl
          · rfl
          · simp only [State.pending, shorter, length_cons]
            omega
          · exact fun rest other listed =>
              ⟨task :: other, (listed.cons task).trans perm_middle.symm⟩
      · cases taken
  | wake done =>
      simp only [next] at taken
      split at taken
      · rename_i waiting
        split at taken
        · rename_i guard
          cases taken
          have room := sound.room
          rw [waiting] at room
          have order : state.finished.Perm done := (isPerm_iff.mp guard.2).symm
          have some := length_pos_of_ne_nil guard.1
          have same := order.length_eq
          refine ⟨sound.fewer, sound.bounded, sound.tracked, sound.begun,
            fun _ => sound.yields (waiting ▸ nofun), room.2, ?_, [], ?_⟩
          · exact Nat.lt_of_le_of_lt room.2 (Nat.lt_add_of_pos_right (same ▸ some))
          · rw [append_nil]
            exact order
        · cases taken
      · cases taken
  | drain =>
      simp only [next] at taken
      split at taken
      · rename_i empty
        cases taken
        have room := sound.room
        rw [empty] at room
        exact ⟨sound.fewer, sound.bounded, sound.tracked, sound.begun,
          fun _ => sound.yields (empty ▸ nofun), room.2.1⟩
      · rename_i task rest more
        exact sound.drained more taken
      · cases taken

theorem Sound.lt_of_finished {state : State R} (sound : runner.Sound cases state) {task : Nat}
    (member : task ∈ state.finished) : task < cases.length := by
  have listed : task ∈ List.range state.taken :=
    sound.tracked.mem_iff.mp (mem_append_right _ (mem_append_right _
      (mem_append_left _ member)))
  exact Nat.lt_of_lt_of_le (mem_range.mp listed) sound.fewer

theorem Sound.ended {state : State R} (sound : runner.Sound cases state)
    (calm : state.phase ≠ .raised) (stuck : Stuck (runner.next cases) state) :
    state.phase = .ended := by
  have room := sound.room
  cases known : state.phase with
  | filling =>
      have pull := stuck .pull
      simp only [next, known] at pull
      cases pull
  | waiting =>
      rw [known] at room
      by_cases idle : state.finished = []
      · cases active : state.running with
        | nil =>
            cases tasks : state.queued with
            | nil =>
                have some := room.1
                simp only [State.pending, idle, active, tasks, length_nil] at some
                omega
            | cons task rest =>
                have start := stuck (.start task)
                have free : 0 < runner.limit := Nat.lt_of_lt_of_le Nat.one_pos (Nat.le_max_left _ _)
                simp only [next, tasks, active, mem_cons_self, length_nil, free, and_self,
                  if_true] at start
                cases start
        | cons task rest =>
            have complete := stuck (.complete task)
            simp only [next, active, mem_cons_self, if_true] at complete
            cases complete
      · have wake := stuck (.wake state.finished)
        have order := isPerm_iff.mpr (List.Perm.refl state.finished)
        simp only [next, known, order, ne_eq, idle, not_false_eq_true, and_self, if_true] at wake
        cases wake
  | draining tasks =>
      have drain := stuck .drain
      cases tasks with
      | nil =>
          simp only [next, known] at drain
          cases drain
      | cons task rest =>
          rw [known] at room
          obtain ⟨_, _, other, listed⟩ := room
          have inside := sound.lt_of_finished (listed.mem_iff.mpr mem_cons_self)
          simp only [next, known, drainOne, List.getElem?_eq_getElem inside] at drain
          cases drain
  | ended => rfl
  | raised => exact absurd known calm

theorem Sound.once {state : State R} (sound : runner.Sound cases state)
    (calm : state.phase ≠ .raised) : runner.Once cases state := by
  have distinct := (sound.tracked.nodup_iff.mpr nodup_range).of_append_right
  refine ⟨sound.begun.nodup_iff.mpr distinct, sound.bounded, ?_⟩
  intro stuck
  have room := sound.room
  rw [sound.ended calm stuck] at room
  obtain ⟨empty, whole⟩ := room
  have tracked := sound.tracked
  have begun := sound.begun
  unfold State.pending at empty
  rw [eq_nil_of_length_eq_zero (by omega : state.queued.length = 0),
    eq_nil_of_length_eq_zero (by omega : state.running.length = 0),
    eq_nil_of_length_eq_zero (by omega : state.finished.length = 0), whole] at tracked
  rw [eq_nil_of_length_eq_zero (by omega : state.running.length = 0),
    eq_nil_of_length_eq_zero (by omega : state.finished.length = 0)] at begun
  exact ⟨begun.trans tracked, (sound.yields calm).trans (tracked.filterMap _)⟩

/-! ### When the iterator raises -/

theorem report_of_raises (task : Nat) (rest : List Nat) {outcome : Except E R}
    (raises : runner.raisesOn outcome = true) :
    runner.report state task rest outcome = { state with phase := .raised } := by
  cases outcome with
  | ok result =>
      obtain ⟨error, raised⟩ := isSome_iff_exists.mp raises
      simp only [report, raised]
  | error error =>
      have stops : runner.continueOnError = false := (Bool.not_eq_true' _).mp raises
      simp only [report, stops, Bool.false_eq_true, if_false]

theorem report_of_safe (task : Nat) (rest : List Nat) {outcome : Except E R}
    (safe : runner.raisesOn outcome = false) :
    (runner.report state task rest outcome).phase = .draining rest := by
  cases outcome with
  | ok result =>
      have returned := isSome_eq_false_iff.mp safe
      rw [isNone_iff_eq_none] at returned
      simp only [report, returned]
  | error error =>
      have continues : runner.continueOnError = true := (Bool.not_eq_false' _).mp safe
      simp only [report, continues, if_true]

variable (runner) in
def Safe : Prop := ∀ case, runner.raisesOn (runner.evaluator case) = false

theorem next_calm (safe : runner.Safe) (state : State R) (event : Event) (after : State R)
    (calm : state.phase ≠ .raised) (taken : runner.next cases state event = some after) :
    after.phase ≠ .raised := by
  cases event with
  | pull =>
      simp only [next] at taken
      split at taken
      · cases taken
        unfold pulled
        split
        · dsimp only
          split
          · exact Phase.noConfusion
          · exact Phase.noConfusion
        · dsimp only
          split
          · exact Phase.noConfusion
          · exact Phase.noConfusion
      · cases taken
  | start task | complete task =>
      simp only [next] at taken
      split at taken
      · cases taken
        exact calm
      · cases taken
  | wake done =>
      simp only [next] at taken
      split at taken
      · split at taken
        · cases taken
          exact Phase.noConfusion
        · cases taken
      · cases taken
  | drain =>
      simp only [next] at taken
      split at taken
      · cases taken
        exact Phase.noConfusion
      · obtain ⟨case, _, rfl⟩ := map_eq_some_iff.mp taken
        rw [report_of_safe _ _ _ (safe case)]
        exact Phase.noConfusion
      · cases taken

theorem Sound.contained {state : State R} (sound : runner.Sound cases state)
    (alone : runner.limit = 1) : runner.Contained cases state := by
  intro raised
  have room := sound.room
  rw [raised] at room
  have empty := room alone
  unfold State.pending at empty
  refine ⟨eq_nil_of_length_eq_zero (by omega), eq_nil_of_length_eq_zero (by omega), ?_⟩
  rw [eq_nil_of_length_eq_zero (by omega : state.finished.length = 0)]
  exact fun _ member => nomatch member

/-! ### Runs that raise -/

/-- The iterator waits for the first case and has made `later` tasks beside it. -/
def State.waitingFor (taken : Nat) (later : List Nat) : State R :=
  { State.initial with taken, queued := later ++ [0], phase := .waiting }

def failRun : List Event := [.start 0, .complete 0, .wake [0], .drain]

/-- The first case has made the iterator raise beside `later`. -/
def State.raisedBeside (taken : Nat) (later : List Nat) : State R :=
  { State.initial with taken, queued := later, drained := [0], started := [0], phase := .raised }

theorem replay_failRun {case : T} {rest : List T} {taken : Nat} {later : List Nat}
    (other : 0 ∉ later) (raises : runner.raisesOn (runner.evaluator case) = true) :
    replay (runner.next (case :: rest)) (State.waitingFor taken later) failRun =
      some (State.raisedBeside taken later) := by
  have free : 0 < runner.limit := Nat.lt_of_lt_of_le Nat.one_pos (Nat.le_max_left _ _)
  have order : [0].isPerm [0] = true := rfl
  simp [failRun, replay, next, State.waitingFor, State.initial, free, order, drainOne,
    erase_append_right _ other, report_of_raises _ _ _ raises, State.raisedBeside]

theorem raised_alone {case : T} (raises : runner.raisesOn (runner.evaluator case) = true) :
    ∃ events, replay (runner.next [case]) State.initial events =
      some (State.raisedBeside 1 []) := by
  have toWaiting : ∃ events, replay (runner.next [case]) State.initial events =
      some (State.waitingFor 1 []) := by
    by_cases full : runner.limit ≤ 1
    · exact ⟨[.pull], by simp [replay, next, pulled, State.initial, State.pending, full,
        State.waitingFor]⟩
    · exact ⟨[.pull, .pull], by simp [replay, next, pulled, State.initial, State.pending, full,
        State.waitingFor]⟩
  obtain ⟨events, run⟩ := toWaiting
  exact ⟨events ++ failRun, replay_append run (replay_failRun not_mem_nil raises)⟩

theorem raised_beside {case : T} (wide : runner.limit ≠ 1)
    (raises : runner.raisesOn (runner.evaluator case) = true) :
    ∃ events, replay (runner.next [case, case]) State.initial events =
      some (State.raisedBeside 2 [1]) := by
  have least : 1 ≤ runner.limit := Nat.le_max_left _ _
  have more : ¬ runner.limit ≤ 1 := by omega
  have toWaiting : ∃ events, replay (runner.next [case, case]) State.initial events =
      some (State.waitingFor 2 [1]) := by
    by_cases full : runner.limit ≤ 2
    · exact ⟨[.pull, .pull], by simp [replay, next, pulled, State.initial, State.pending, full,
        more, State.waitingFor]⟩
    · exact ⟨[.pull, .pull, .pull], by simp [replay, next, pulled, State.initial, State.pending,
        full, more, State.waitingFor]⟩
  obtain ⟨events, run⟩ := toWaiting
  exact ⟨events ++ failRun, replay_append run (replay_failRun (by decide) raises)⟩

theorem once_iff (continues : runner.continueOnError = true) :
    (∀ cases events state, replay (runner.next cases) State.initial events = some state →
      runner.Once cases state) ↔ runner.Safe := by
  constructor
  · intro once case
    by_contra raises
    rw [Bool.not_eq_false] at raises
    obtain ⟨events, run⟩ := raised_alone raises
    have stuck : Stuck (runner.next [case]) (State.raisedBeside 1 []) := by
      intro event
      cases event with
      | pull => rfl
      | start task => simp [next, State.raisedBeside]
      | complete task => simp [next, State.raisedBeside, State.initial]
      | wake done => rfl
      | drain => rfl
    have yields := ((once _ events _ run).complete stuck).2
    cases evaluated : runner.evaluator case with
    | ok result =>
        have succeeded : runner.success? [case] 0 = some (0, result) := by
          rw [success?, List.getElem?_cons_zero, map_some, evaluated]
        rw [length_singleton, range_one, filterMap_cons, succeeded] at yields
        exact absurd yields.length_eq (Nat.succ_ne_zero _).symm
    | error error =>
        rw [evaluated, raisesOn, continues] at raises
        cases raises
  · intro safe cases events state run
    have sound := replay_invariant next_sound sound_initial run
    exact sound.once (replay_invariant (next_calm safe) Phase.noConfusion run)

theorem contained_iff :
    (∀ cases events state, replay (runner.next cases) State.initial events = some state →
      runner.Contained cases state) ↔ runner.limit = 1 ∨ runner.Safe := by
  constructor
  · intro contained
    by_contra left
    rw [not_or] at left
    obtain ⟨wide, unsound⟩ := left
    apply unsound
    intro case
    by_contra raises
    rw [Bool.not_eq_false] at raises
    obtain ⟨events, run⟩ := raised_beside wide raises
    have empty := (contained _ events _ run rfl).1
    cases empty
  · rintro (alone | safe) cases events state run
    · exact (replay_invariant next_sound sound_initial run).contained alone
    · intro raised
      exact absurd raised (replay_invariant (next_calm safe) Phase.noConfusion run)

/-- Until its iterator raises, the runner has read at most `limit` cases more than it has
drained. -/
theorem taken_le_drained {events : List Event} {state : State R}
    (run : replay (runner.next cases) State.initial events = some state)
    (calm : state.phase ≠ .raised) : state.taken ≤ state.drained.length + runner.limit := by
  have sound := replay_invariant next_sound sound_initial run
  have few : state.pending ≤ runner.limit := by
    have room := sound.room
    cases known : state.phase with
    | filling =>
        rw [known] at room
        exact Nat.le_of_lt room
    | waiting =>
        rw [known] at room
        exact room.2
    | draining rest =>
        rw [known] at room
        exact room.1
    | ended =>
        rw [known] at room
        exact room.1.trans_le (Nat.zero_le _)
    | raised => exact absurd known calm
  have listed := sound.tracked.length_eq
  simp only [length_append, length_range] at listed
  unfold State.pending at few
  omega

end AsyncStreamingRunner

/-- The synchronous runners count every case once, but for a streaming run in which an exception
of `on_result` is caught; the asynchronous one accounts for every case, if it goes on after
errors, exactly when `on_result` never raises, and leaves nothing behind when it raises exactly
when it has one task at a time or nothing to raise. -/
theorem runners_account_iff (streaming : StreamingRunner T R E) (batch : BatchRunner T R E)
    (runner : AsyncStreamingRunner T R E) :
    ((∀ cases stats, streaming.run cases = .ok stats → streaming.Accounts cases stats) ↔
      streaming.CallbackEnds) ∧
    (∀ cases result, batch.run cases = .ok result →
      cases.length = result.successful + result.failed ∧
        result.failed = cases.countP fun case => Raises (batch.evaluator case)) ∧
    (runner.continueOnError = true →
      ((∀ cases events state, replay (runner.next cases) AsyncStreamingRunner.State.initial events =
        some state → runner.Once cases state) ↔ runner.Safe)) ∧
    (runner.continueOnError = false →
      ((∀ cases events state, replay (runner.next cases) AsyncStreamingRunner.State.initial events =
        some state → runner.Contained cases state) ↔ runner.limit = 1 ∨ runner.Safe)) :=
  ⟨streaming.accounts_iff, fun _ _ => BatchRunner.run_accounts,
    AsyncStreamingRunner.once_iff, fun _ => AsyncStreamingRunner.contained_iff⟩

def firstFails : AsyncStreamingRunner Nat Nat String where
  evaluator case := if case = 0 then .error "timeout" else .ok case
  onResult _ := none
  continueOnError := false
  maxConcurrency := 2

theorem taken_le_drained_waiting : ∃ state, replay (firstFails.next [0, 1])
    AsyncStreamingRunner.State.initial [.pull, .pull] = some state ∧
    state.taken ≤ state.drained.length + 2 := by
  have run : replay (firstFails.next [0, 1]) AsyncStreamingRunner.State.initial [.pull, .pull] =
      some (.waitingFor 2 [1]) := rfl
  exact ⟨_, run, AsyncStreamingRunner.taken_le_drained run nofun⟩

theorem evaluation_left_running :
    ¬ ∀ (runner : AsyncStreamingRunner Nat Nat String) (cases : List Nat)
      (events : List AsyncStreamingRunner.Event) (state : AsyncStreamingRunner.State Nat),
      runner.continueOnError = false →
        replay (runner.next cases) AsyncStreamingRunner.State.initial events = some state →
          runner.Contained cases state := by
  intro always
  have left := always firstFails [0, 1]
    [.pull, .pull, .start 0, .start 1, .complete 0, .wake [0], .drain] _ rfl rfl rfl
  cases left.2.1

end AgenticRuntime.Evals
