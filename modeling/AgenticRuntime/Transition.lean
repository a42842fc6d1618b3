/-
Replayable transition systems.

A system is a partial function from a state and an event to the next state, so
all nondeterminism sits in the events. A run is a list of events that replays.
Nothing here depends on what the states or the events are.
-/

import Mathlib.Order.Basic
import Mathlib.Logic.Relation

namespace Transition

open List

variable {State Event : Type*}

/-- Take the events in order; `none` as soon as one of them is not enabled. -/
def replay (next : State → Event → Option State) : State → List Event → Option State
  | state, [] => some state
  | state, event :: rest =>
      match next state event with
      | none => none
      | some after => replay next after rest

def Along (next : State → Event → Option State) (allowed : State → Event → Prop) :
    State → List Event → Prop
  | _, [] => True
  | state, event :: rest =>
      allowed state event ∧
        match next state event with
        | none => True
        | some after => Along next allowed after rest

instance decidableAlong (next : State → Event → Option State) (allowed : State → Event → Prop)
    [∀ state event, Decidable (allowed state event)] :
    ∀ state events, Decidable (Along next allowed state events)
  | _, [] => isTrue trivial
  | state, event :: rest =>
      have : Decidable (match next state event with
          | none => True
          | some after => Along next allowed after rest) :=
        match next state event with
        | none => isTrue trivial
        | some after => decidableAlong next allowed after rest
      inferInstanceAs (Decidable (_ ∧ _))

def Reachable (next : State → Event → Option State) (start finish : State) : Prop :=
  ∃ events, replay next start events = some finish

def Stuck (next : State → Event → Option State) (state : State) : Prop :=
  ∀ event, next state event = none

section

variable {next : State → Event → Option State}

@[simp]
theorem replay_nil (state : State) : replay next state [] = some state := rfl

theorem replay_cons_of_next {state after : State} {event : Event} {rest : List Event}
    (taken : next state event = some after) :
    replay next state (event :: rest) = replay next after rest := by
  simp only [replay, taken]

theorem replay_cons {state finish : State} {event : Event} {rest : List Event}
    (run : replay next state (event :: rest) = some finish) :
    ∃ after, next state event = some after ∧ replay next after rest = some finish := by
  simp only [replay] at run
  split at run
  · cases run
  · rename_i after taken
    exact ⟨after, taken, run⟩

theorem replay_append {start middle finish : State} {first second : List Event}
    (firstRun : replay next start first = some middle)
    (secondRun : replay next middle second = some finish) :
    replay next start (first ++ second) = some finish := by
  induction first generalizing start with
  | nil =>
      cases firstRun
      exact secondRun
  | cons event rest ih =>
      obtain ⟨after, taken, restRun⟩ := replay_cons firstRun
      rw [cons_append, replay_cons_of_next taken]
      exact ih restRun

theorem replay_split {start finish : State} {first second : List Event}
    (run : replay next start (first ++ second) = some finish) :
    ∃ middle, replay next start first = some middle ∧
      replay next middle second = some finish := by
  induction first generalizing start with
  | nil => exact ⟨start, rfl, run⟩
  | cons event rest ih =>
      obtain ⟨after, taken, restRun⟩ := replay_cons run
      obtain ⟨middle, toMiddle, fromMiddle⟩ := ih restRun
      exact ⟨middle, (replay_cons_of_next taken).trans toMiddle, fromMiddle⟩

theorem replay_single {state after : State} {event : Event}
    (taken : next state event = some after) : replay next state [event] = some after :=
  replay_cons_of_next taken

theorem Reachable.refl (state : State) : Reachable next state state := ⟨[], rfl⟩

theorem Reachable.tail {start middle finish : State} {event : Event}
    (reached : Reachable next start middle) (taken : next middle event = some finish) :
    Reachable next start finish := by
  obtain ⟨events, run⟩ := reached
  exact ⟨events ++ [event], replay_append run (replay_single taken)⟩

theorem Reachable.trans {start middle finish : State}
    (first : Reachable next start middle) (second : Reachable next middle finish) :
    Reachable next start finish := by
  obtain ⟨events, run⟩ := first
  obtain ⟨more, rest⟩ := second
  exact ⟨events ++ more, replay_append run rest⟩

end

section

variable {next : State → Event → Option State} {inv : State → Prop}

theorem replay_invariant
    (preserved : ∀ state event after, inv state → next state event = some after → inv after)
    {start finish : State} {events : List Event} (initial : inv start)
    (run : replay next start events = some finish) : inv finish := by
  induction events generalizing start with
  | nil =>
      cases run
      exact initial
  | cons event rest ih =>
      obtain ⟨after, taken, restRun⟩ := replay_cons run
      exact ih (preserved start event after initial taken) restRun

theorem reachable_invariant
    (preserved : ∀ state event after, inv state → next state event = some after → inv after)
    {start finish : State} (initial : inv start) (reached : Reachable next start finish) :
    inv finish := by
  obtain ⟨events, run⟩ := reached
  exact replay_invariant preserved initial run

theorem replay_invariant_along {allowed : State → Event → Prop}
    (preserved : ∀ state event after, inv state → allowed state event →
      next state event = some after → inv after)
    {start finish : State} {events : List Event} (initial : inv start)
    (along : Along next allowed start events)
    (run : replay next start events = some finish) : inv finish := by
  induction events generalizing start with
  | nil =>
      cases run
      exact initial
  | cons event rest ih =>
      obtain ⟨after, taken, restRun⟩ := replay_cons run
      simp only [Along, taken] at along
      exact ih (preserved start event after initial along.1 taken) along.2 restRun

theorem replay_history {holds : List Event → State → Prop} {start finish : State}
    {events : List Event} (initial : holds [] start)
    (extended : ∀ past state event after, replay next start past = some state →
      holds past state → next state event = some after → holds (past ++ [event]) after)
    (run : replay next start events = some finish) : holds events finish := by
  have along (past rest : List Event) (state : State) (reached : replay next start past = some state)
      (held : holds past state) (later : replay next state rest = some finish) :
      holds (past ++ rest) finish := by
    induction rest generalizing past state with
    | nil =>
        cases later
        rw [append_nil]
        exact held
    | cons event rest ih =>
        obtain ⟨after, taken, restRun⟩ := replay_cons later
        have longer := ih (past ++ [event]) after
          (replay_append reached (replay_single taken))
          (extended past state event after reached held taken) restRun
        rw [append_assoc] at longer
        exact longer
  exact along [] events start rfl initial run

end

section

variable {next : State → Event → Option State}
  {allowed : State → Event → Prop} {start : State} {events : List Event}

theorem Along.cons {after : State} {event : Event} {rest : List Event}
    (taken : next start event = some after) (first : allowed start event)
    (later : Along next allowed after rest) : Along next allowed start (event :: rest) := by
  constructor
  · exact first
  · rw [taken]
    exact later

theorem Along.strengthen {inv : State → Prop} {weak strong : State → Event → Prop}
    (preserved : ∀ state event after, inv state → next state event = some after → inv after)
    (implies : ∀ state event, inv state → weak state event → strong state event)
    (initial : inv start) (along : Along next weak start events) :
    Along next strong start events := by
  induction events generalizing start with
  | nil => trivial
  | cons event rest ih =>
      refine ⟨implies start event initial along.1, ?_⟩
      have later := along.2
      cases taken : next start event with
      | none => trivial
      | some after =>
          rw [taken] at later
          exact ih (preserved start event after initial taken) later

theorem Along.of_forall {allowed : Event → Prop} (each : ∀ event ∈ events, allowed event) :
    Along next (fun _ event => allowed event) start events := by
  induction events generalizing start with
  | nil => trivial
  | cons event rest ih =>
      constructor
      · exact each event mem_cons_self
      · cases next start event with
        | none => trivial
        | some after => exact ih fun other member => each other (mem_cons_of_mem _ member)

theorem Along.mono {weak strong : State → Event → Prop} (along : Along next strong start events)
    (implies : ∀ state event, strong state event → weak state event) :
    Along next weak start events :=
  along.strengthen (fun _ _ _ _ _ => trivial) (fun state event _ => implies state event) trivial

theorem Along.and {first second : State → Event → Prop} (left : Along next first start events)
    (right : Along next second start events) :
    Along next (fun state event => first state event ∧ second state event) start events := by
  induction events generalizing start with
  | nil => trivial
  | cons event rest ih =>
      refine ⟨⟨left.1, right.1⟩, ?_⟩
      have leftLater := left.2
      have rightLater := right.2
      cases taken : next start event with
      | none => trivial
      | some after =>
          rw [taken] at leftLater rightLater
          exact ih leftLater rightLater

theorem replay_holds_iff {inv holds : State → Prop}
    (preserved : ∀ state event after, inv state → next state event = some after → inv after)
    (step : ∀ state event after, inv state → next state event = some after →
      (holds after ↔ holds state ∧ allowed state event)) {finish : State} (initial : inv start)
    (run : replay next start events = some finish) :
    holds finish ↔ holds start ∧ Along next allowed start events := by
  induction events generalizing start with
  | nil =>
      cases run
      exact (and_iff_left trivial).symm
  | cons event rest ih =>
      obtain ⟨after, taken, restRun⟩ := replay_cons run
      rw [ih (preserved start event after initial taken) restRun,
        step start event after initial taken, and_assoc]
      simp only [Along, taken]

theorem along_iff {inv : State → Prop} {first second : State → Event → Prop}
    (same : ∀ state event, inv state → (first state event ↔ second state event))
    (preserved : ∀ state event after, inv state → second state event →
      next state event = some after → inv after) (initial : inv start) :
    Along next first start events ↔ Along next second start events := by
  induction events generalizing start with
  | nil => exact Iff.rfl
  | cons event rest ih =>
      simp only [Along]
      rw [same start event initial]
      apply and_congr_right
      intro allowed
      cases taken : next start event with
      | none => exact Iff.rfl
      | some after => exact ih (preserved start event after initial allowed taken)

theorem along_append {middle : State} {first second : List Event}
    (run : replay next start first = some middle) (firstAlong : Along next allowed start first)
    (secondAlong : Along next allowed middle second) :
    Along next allowed start (first ++ second) := by
  induction first generalizing start with
  | nil =>
      cases run
      exact secondAlong
  | cons event rest ih =>
      obtain ⟨after, taken, restRun⟩ := replay_cons run
      simp only [Along, taken, cons_append] at firstAlong ⊢
      exact ⟨firstAlong.1, ih restRun firstAlong.2⟩

theorem along_split {middle : State} {first second : List Event}
    (run : replay next start first = some middle)
    (along : Along next allowed start (first ++ second)) :
    Along next allowed start first ∧ Along next allowed middle second := by
  induction first generalizing start with
  | nil =>
      cases run
      exact ⟨trivial, along⟩
  | cons event rest ih =>
      obtain ⟨after, taken, restRun⟩ := replay_cons run
      simp only [Along, taken, cons_append] at along ⊢
      exact ⟨⟨along.1, (ih restRun along.2).1⟩, (ih restRun along.2).2⟩

theorem exists_first_disallowed {finish : State} (run : replay next start events = some finish)
    (left : ¬ Along next allowed start events) :
    ∃ before event after state next', events = before ++ event :: after ∧
      replay next start before = some state ∧ Along next allowed start before ∧
      next state event = some next' ∧ ¬ allowed state event ∧
      replay next next' after = some finish := by
  induction events generalizing start with
  | nil => exact absurd trivial left
  | cons event rest ih =>
      obtain ⟨after, taken, restRun⟩ := replay_cons run
      by_cases permitted : allowed start event
      · have restLeft : ¬ Along next allowed after rest := by
          intro restAlong
          apply left
          simp only [Along, taken]
          exact ⟨permitted, restAlong⟩
        obtain ⟨before, bad, later, state, next', shape, toState, alongBefore, badTaken, forbidden,
          toFinish⟩ := ih restRun restLeft
        refine ⟨event :: before, bad, later, state, next', ?_, ?_, ?_, badTaken, forbidden,
          toFinish⟩
        · rw [shape, cons_append]
        · rw [replay_cons_of_next taken]
          exact toState
        · simp only [Along, taken]
          exact ⟨permitted, alongBefore⟩
      · exact ⟨[], event, rest, start, after, rfl, rfl, trivial, taken, permitted, restRun⟩

end

/-! ### Keeping a log -/

section

variable {Entry : Type*}

/-- The system beside a log; a step adds what `emit` makes of it. -/
def logged (next : State → Event → Option State) (emit : State → Event → State → List Entry)
    (state : State × List Entry) (event : Event) : Option (State × List Entry) :=
  (next state.1 event).map fun after => (after, state.2 ++ emit state.1 event after)

variable {next : State → Event → Option State} {emit : State → Event → State → List Entry}

theorem logged_some {state after : State × List Entry} {event : Event}
    (taken : logged next emit state event = some after) :
    next state.1 event = some after.1 ∧ after.2 = state.2 ++ emit state.1 event after.1 := by
  obtain ⟨reached, moved, same⟩ := Option.map_eq_some_iff.mp taken
  subst same
  exact ⟨moved, rfl⟩

theorem replay_of_logged {start finish : State × List Entry} {events : List Event}
    (run : replay (logged next emit) start events = some finish) :
    replay next start.1 events = some finish.1 := by
  induction events generalizing start with
  | nil =>
      cases run
      rfl
  | cons event rest ih =>
      obtain ⟨after, taken, restRun⟩ := replay_cons run
      rw [replay_cons_of_next (logged_some taken).1]
      exact ih restRun

theorem exists_logged {start finish : State} {events : List Event}
    (run : replay next start events = some finish) (log : List Entry) :
    ∃ whole, replay (logged next emit) (start, log) events = some (finish, whole) := by
  induction events generalizing start log with
  | nil =>
      cases run
      exact ⟨log, rfl⟩
  | cons event rest ih =>
      obtain ⟨after, taken, restRun⟩ := replay_cons run
      obtain ⟨whole, replayed⟩ := ih restRun (log ++ emit start event after)
      refine ⟨whole, ?_⟩
      rw [← replayed]
      apply replay_cons_of_next
      simp only [logged, taken, Option.map_some]

end

section

variable {next : State → Event → Option State} {inv : State → Prop} {measure : State → Nat}

theorem replay_length_le
    (preserved : ∀ state event after, inv state → next state event = some after → inv after)
    (lowers : ∀ state event after, inv state → next state event = some after →
      measure after < measure state)
    {start finish : State} {events : List Event} (initial : inv start)
    (run : replay next start events = some finish) :
    events.length + measure finish ≤ measure start := by
  induction events generalizing start with
  | nil =>
      cases run
      simp only [length_nil, Nat.zero_add, Nat.le_refl]
  | cons event rest ih =>
      obtain ⟨after, taken, restRun⟩ := replay_cons run
      have shorter := ih (preserved start event after initial taken) restRun
      have lower := lowers start event after initial taken
      simp only [length_cons]
      omega

theorem exists_stuck
    (preserved : ∀ state event after, inv state → next state event = some after → inv after)
    (lowers : ∀ state event after, inv state → next state event = some after →
      measure after < measure state)
    {start : State} (initial : inv start) :
    ∃ finish, Reachable next start finish ∧ Stuck next finish := by
  induction bound : measure start using Nat.strongRecOn generalizing start with
  | ind bound ih =>
      by_cases stuck : Stuck next start
      · exact ⟨start, Reachable.refl start, stuck⟩
      · simp only [Stuck, not_forall] at stuck
        obtain ⟨event, enabled⟩ := stuck
        obtain ⟨after, taken⟩ := Option.ne_none_iff_exists'.mp enabled
        have lower := lowers start event after initial taken
        obtain ⟨finish, reached, done⟩ :=
          ih (measure after) (bound ▸ lower) (preserved start event after initial taken) rfl
        obtain ⟨events, run⟩ := reached
        exact ⟨finish, ⟨event :: events, (replay_cons_of_next taken).trans run⟩, done⟩

end

end Transition
