/-
When the timers of a run clear its state.

Each terminal event cancels the timer that `_pending_clears` names, and the
done-callback of a timer that has ended empties the entry, whichever timer it
names by then.
-/

import AgenticRuntime.Server.HubInvariant

namespace AgenticRuntime

open Function Transition

variable {Client Listener Tenant : Type}

namespace Retention

variable (retention : Retention)

def AtMostOnePending : Prop :=
  ∀ first second left right, retention.timers first = some left → left.pending = true →
    retention.timers second = some right → right.pending = true → first = second

def Numbered : Prop :=
  ∀ id timer, retention.timers id = some timer → id < retention.scheduled

/-- No pending timer is due before the delay after the latest terminal event. -/
def Timely (delay clock : Nat) : Prop :=
  ∀ last, retention.lastTerminal = some last → last ≤ clock ∧
    ∀ id due, retention.timers id = some { phase := .sleeping due, cancelled := false } →
      last + delay ≤ due

/-- The entry of `_pending_clears` is the pending timer, if there is one. -/
def Tracked : Prop :=
  ∀ id timer, retention.timers id = some timer → timer.pending = true →
    retention.pendingClear = some id

inductive Moves (delay now : Nat) (before after : Retention) : Prop where
  | start (id : Nat) (moved : before.startTimer delay now id = some after)
  | fire (id : Nat) (moved : before.fireTimer now id = some after)
  | cancel (id : Nat) (moved : before.cancelTimer id = some after)
  | callback (id : Nat) (moved : before.timerDone id = some after)

section

variable {retention after : Retention} {delay clock now id : Nat}

theorem startTimer_some (moved : retention.startTimer delay now id = some after) :
    retention.timers id = some { phase := .created, cancelled := false } ∧
      after = retention.setTimer id (some { phase := .sleeping (now + delay), cancelled := false }) := by
  unfold startTimer at moved
  split at moved
  · rename_i known
    cases moved
    exact ⟨known, rfl⟩
  · cases moved

theorem fireTimer_some (moved : retention.fireTimer now id = some after) : ∃ due, due ≤ now ∧
    retention.timers id = some { phase := .sleeping due, cancelled := false } ∧
      after = retention.setTimer id (some { phase := .ended, cancelled := false }) := by
  unfold fireTimer at moved
  split at moved
  · rename_i due known
    split at moved
    · rename_i late
      cases moved
      exact ⟨due, late, known, rfl⟩
    · cases moved
  · cases moved

theorem cancelTimer_some (moved : retention.cancelTimer id = some after) : ∃ timer,
    retention.timers id = some timer ∧
      after = retention.setTimer id (some { timer with phase := .ended }) := by
  unfold cancelTimer at moved
  split at moved
  · rename_i timer known
    split at moved
    · cases moved
      exact ⟨timer, known, rfl⟩
    · cases moved
  · cases moved

theorem timerDone_some (moved : retention.timerDone id = some after) : ∃ timer,
    retention.timers id = some timer ∧
      after = { retention.setTimer id none with pendingClear := none } := by
  unfold timerDone at moved
  split at moved
  · rename_i timer known
    split at moved
    · cases moved
      exact ⟨timer, known, rfl⟩
    · cases moved
  · cases moved

theorem Moves.frame (moves : Moves delay now retention after) :
    after.scheduled = retention.scheduled ∧ after.lastTerminal = retention.lastTerminal ∧
      ∀ other later, after.timers other = some later → ∃ timer,
        retention.timers other = some timer ∧ (later.pending = true → timer.pending = true) ∧
        ∀ due, later = { phase := .sleeping due, cancelled := false } →
          timer = later ∨ due = now + delay := by
  have update : ∀ {moved : Nat} {before : Timer} {value : Option Timer},
      retention.timers moved = some before →
      (∀ later, value = some later → (later.pending = true → before.pending = true) ∧
        ∀ due, later = { phase := .sleeping due, cancelled := false } →
          before = later ∨ due = now + delay) →
      ∀ other later, update retention.timers moved value other = some later →
        ∃ timer, retention.timers other = some timer ∧
          (later.pending = true → timer.pending = true) ∧
          ∀ due, later = { phase := .sleeping due, cancelled := false } →
            timer = later ∨ due = now + delay := by
    intro moved before value known own other later there
    by_cases same : other = moved
    · subst same
      rw [update_self] at there
      exact ⟨before, known, own later there⟩
    · rw [update_of_ne same] at there
      exact ⟨later, there, fun held => held, fun _ _ => .inl rfl⟩
  cases moves with
  | start moved step =>
      obtain ⟨known, same⟩ := startTimer_some step
      subst same
      refine ⟨rfl, rfl, update known ?_⟩
      intro later equal
      cases equal
      refine ⟨fun _ => rfl, ?_⟩
      intro due sleeps
      cases sleeps
      exact .inr rfl
  | fire moved step =>
      obtain ⟨due, late, known, same⟩ := fireTimer_some step
      subst same
      refine ⟨rfl, rfl, update known ?_⟩
      intro later equal
      cases equal
      exact ⟨nofun, nofun⟩
  | cancel moved step =>
      obtain ⟨timer, known, same⟩ := cancelTimer_some step
      subst same
      refine ⟨rfl, rfl, update known ?_⟩
      intro later equal
      cases equal
      exact ⟨nofun, nofun⟩
  | callback moved step =>
      obtain ⟨timer, known, same⟩ := timerDone_some step
      subst same
      exact ⟨rfl, rfl, update known nofun⟩

theorem cancelExisting_frame (retention : Retention) :
    retention.cancelExisting.scheduled = retention.scheduled ∧
      ∀ id, (retention.cancelExisting.timers id = none ↔ retention.timers id = none) := by
  unfold cancelExisting
  split
  · exact ⟨rfl, fun _ => Iff.rfl⟩
  · rename_i existing entry
    split
    · exact ⟨rfl, fun _ => Iff.rfl⟩
    · rename_i timer known
      split
      · exact ⟨rfl, fun _ => Iff.rfl⟩
      · refine ⟨rfl, fun id => ?_⟩
        by_cases same : id = existing
        · subst same
          simp [setTimer, known]
        · simp [setTimer, same]

theorem cancelExisting_pending (retention : Retention) {id : Nat} {timer : Timer}
    (pending : timer.pending = true) : retention.cancelExisting.timers id = some timer ↔
      retention.timers id = some timer ∧ retention.pendingClear ≠ some id := by
  unfold cancelExisting
  split
  · rename_i entry
    rw [entry]
    exact ⟨fun known => ⟨known, nofun⟩, And.left⟩
  · rename_i existing entry
    rw [entry]
    have untouched : ∀ {held : Timer}, retention.timers existing = some held →
        held.done = true → (retention.timers id = some timer ↔
          retention.timers id = some timer ∧ some existing ≠ some id) := by
      intro held known done
      refine ⟨fun there => ⟨there, ?_⟩, And.left⟩
      intro same
      cases same
      cases known.symm.trans there
      rw [Timer.pending, done] at pending
      cases pending
    split
    · rename_i gone
      refine ⟨fun there => ⟨there, ?_⟩, And.left⟩
      intro same
      cases same
      cases gone.symm.trans there
    · rename_i held known
      split
      · rename_i done
        exact untouched known done
      · by_cases same : id = existing
        · subst same
          refine ⟨?_, fun both => absurd rfl both.2⟩
          intro there
          cases (update_self _ _ _).symm.trans there
          simp [Timer.pending] at pending
        · simp only [setTimer, update_of_ne same]
          exact ⟨fun there => ⟨there, fun equal => same (Option.some.inj equal).symm⟩, And.left⟩

theorem Numbered.moves (numbered : retention.Numbered) (moves : Moves delay now retention after) :
    after.Numbered := by
  intro id later there
  obtain ⟨scheduled, _, frame⟩ := moves.frame
  obtain ⟨timer, known, _⟩ := frame id later there
  rw [scheduled]
  exact numbered id timer known

theorem Numbered.schedule (numbered : retention.Numbered) :
    (retention.scheduleDelayedClear now).Numbered := by
  obtain ⟨scheduled, exactly⟩ := cancelExisting_frame retention
  intro id later there
  change update _ _ _ id = _ at there
  change id < retention.cancelExisting.scheduled + 1
  by_cases new : id = retention.cancelExisting.scheduled
  · omega
  · rw [update_of_ne new] at there
    cases known : retention.timers id with
    | none =>
        rw [(exactly id).mpr known] at there
        cases there
    | some timer =>
        have bound := numbered id timer known
        omega

theorem AtMostOnePending.moves (single : retention.AtMostOnePending)
    (moves : Moves delay now retention after) : after.AtMostOnePending := by
  intro first second left right leftKnown leftPending rightKnown rightPending
  obtain ⟨_, _, frame⟩ := moves.frame
  obtain ⟨before, known, held, _⟩ := frame first left leftKnown
  obtain ⟨other, there, kept, _⟩ := frame second right rightKnown
  exact single first second before other known (held leftPending) there (kept rightPending)

theorem Timely.moves (timely : retention.Timely delay clock) (later : clock ≤ now)
    (moves : Moves delay now retention after) : after.Timely delay now := by
  obtain ⟨_, last, frame⟩ := moves.frame
  intro terminal known
  rw [last] at known
  obtain ⟨past, due_after⟩ := timely terminal known
  refine ⟨Nat.le_trans past later, ?_⟩
  intro id due sleeping
  obtain ⟨timer, there, _, set_at⟩ := frame id _ sleeping
  rcases set_at due rfl with same | now_due
  · exact due_after id due (same ▸ there)
  · omega

theorem schedule_single (numbered : retention.Numbered) :
    (retention.scheduleDelayedClear now).AtMostOnePending ↔ retention.Tracked := by
  obtain ⟨scheduled, _⟩ := cancelExisting_frame retention
  have new : (retention.scheduleDelayedClear now).timers retention.scheduled =
      some { phase := .created, cancelled := false } := by
    change update _ retention.cancelExisting.scheduled _ _ = _
    rw [scheduled]
    exact update_self _ _ _
  constructor
  · intro single id timer known pending
    by_contra untracked
    have bound := numbered id timer known
    have different : id ≠ retention.cancelExisting.scheduled := by omega
    have still : (retention.scheduleDelayedClear now).timers id = some timer :=
      (update_of_ne different _ _).trans
        ((cancelExisting_pending retention pending).mpr ⟨known, untracked⟩)
    have same := single id retention.scheduled timer _ still pending new rfl
    omega
  · intro tracked
    have only : ∀ id timer, (retention.scheduleDelayedClear now).timers id = some timer →
        timer.pending = true → id = retention.scheduled := by
      intro id timer known pending
      by_contra different
      change update _ retention.cancelExisting.scheduled _ id = _ at known
      rw [scheduled, update_of_ne different] at known
      obtain ⟨there, untracked⟩ := (cancelExisting_pending retention pending).mp known
      exact untracked (tracked id timer there pending)
    intro first second left right leftKnown leftPending rightKnown rightPending
    rw [only first left leftKnown leftPending, only second right rightKnown rightPending]

theorem schedule_timely (tracked : retention.Tracked) :
    (retention.scheduleDelayedClear now).Timely delay now := by
  intro last known
  cases known
  refine ⟨Nat.le_refl now, ?_⟩
  intro id due sleeping
  change update _ retention.cancelExisting.scheduled _ id = _ at sleeping
  by_cases new : id = retention.cancelExisting.scheduled
  · rw [new, update_self] at sleeping
    cases sleeping
  · rw [update_of_ne new] at sleeping
    obtain ⟨there, untracked⟩ := (cancelExisting_pending retention rfl).mp sleeping
    exact absurd (tracked id _ there rfl) untracked

end

end Retention

namespace RunChannel

def Arms (channel : RunChannel Client Listener Tenant) : ChannelEvent Client Listener Tenant → Prop
  | .resumeBroadcast number => channel.hub.connections = [] ∧ ∃ message,
      channel.hub.flights number = some { message := message, phase := .appended } ∧
        message.terminal = true
  | .sent number client _ => ∃ message dead, channel.hub.flights number =
      some { message := message, phase := .sending [client] dead } ∧ message.terminal = true
  | _ => False

/-- A timer that clears the buffer does so no earlier than the delay after the
latest terminal event. -/
def Punctual (settings : StreamSettings) (channel : RunChannel Client Listener Tenant) :
    Nat × ChannelEvent Client Listener Tenant → Prop
  | (now, .fireTimer _) => ∀ last, channel.retention.lastTerminal = some last →
      last + settings.delay ≤ now
  | _ => True

variable [DecidableEq Client] [DecidableEq Listener] [DecidableEq Tenant]
  {settings : StreamSettings} {channel after : RunChannel Client Listener Tenant}

omit [DecidableEq Tenant] in
private theorem deliver_retention (message : Message Tenant) (remaining dead : List Client) :
    (channel.deliver message remaining dead).retention =
      if remaining = [] ∧ message.terminal = true then
        channel.retention.scheduleDelayedClear channel.clock
      else channel.retention := by
  unfold deliver
  cases remaining with
  | nil => simp
  | cons client remaining => simp

variable {event : Nat × ChannelEvent Client Listener Tenant}

theorem next_retention (taken : channel.next settings event = some after) : after.clock = event.1 ∧
      ((channel.Arms event.2 ∧
          after.retention = channel.retention.scheduleDelayedClear event.1) ∨
        (¬ channel.Arms event.2 ∧ (after.retention = channel.retention ∨
          Retention.Moves settings.delay event.1 channel.retention after.retention))) := by
  obtain ⟨_, took⟩ := next_take taken
  obtain ⟨now, event⟩ := event
  have idle : ∀ {hub : Option (Hub Client Listener Tenant)},
      ({ channel with clock := now } : RunChannel Client Listener Tenant).onHub hub = some after →
      after.clock = now ∧ after.retention = channel.retention := by
    intro hub onHub
    obtain ⟨own, _, same⟩ := onHub_some onHub
    subst same
    exact ⟨rfl, rfl⟩
  have owned : ∀ {ownership : Option (Ownership Tenant)},
      ({ channel with clock := now } : RunChannel Client Listener Tenant).onOwnership ownership =
        some after → after.clock = now ∧ after.retention = channel.retention := by
    intro ownership onOwnership
    obtain ⟨own, _, same⟩ := onOwnership_some onOwnership
    subst same
    exact ⟨rfl, rfl⟩
  have unarmed : ¬ channel.Arms event → after.clock = now ∧ after.retention = channel.retention →
      after.clock = now ∧ ((channel.Arms event ∧
          after.retention = channel.retention.scheduleDelayedClear now) ∨
        (¬ channel.Arms event ∧ (after.retention = channel.retention ∨
          Retention.Moves settings.delay now channel.retention after.retention))) :=
    fun not_armed same => ⟨same.1, .inr ⟨not_armed, .inl same.2⟩⟩
  cases event with
  | submit | startRun | finishRun | persist => exact unarmed not_false (owned took)
  | openSocket | broadcast | stored | openStream =>
      simp only [take] at took
      split at took
      · exact unarmed not_false (idle took)
      · cases took
  | resolveSocket | accepted | beginReplay | readStore | resumeReplay | replayed | closeSocket
  | resolveStream | registerStream | takeEvent | closeStream => exact unarmed not_false (idle took)
  | resumeBroadcast number =>
      simp only [take] at took
      split at took
      · rename_i message flight
        cases took
        refine ⟨rfl, ?_⟩
        rw [deliver_retention]
        by_cases armed : channel.hub.connections = [] ∧ message.terminal = true
        · left
          exact ⟨⟨armed.1, message, flight, armed.2⟩, if_pos armed⟩
        · right
          refine ⟨?_, .inl (if_neg armed)⟩
          rintro ⟨none_listed, other, known, terminal⟩
          cases flight.symm.trans known
          exact armed ⟨none_listed, terminal⟩
      · cases took
  | sent number client success =>
      simp only [take] at took
      split at took
      · rename_i message target remaining dead flight
        split at took
        · rename_i same
          subst same
          have armed_iff : channel.Arms (.sent number target success) ↔
              remaining = [] ∧ message.terminal = true := by
            constructor
            · rintro ⟨other, gone, known, terminal⟩
              cases flight.symm.trans known
              exact ⟨rfl, terminal⟩
            · rintro ⟨last, terminal⟩
              subst last
              exact ⟨message, dead, flight, terminal⟩
          have shape : after.clock = now ∧ after.retention =
              if remaining = [] ∧ message.terminal = true then
                channel.retention.scheduleDelayedClear now
              else channel.retention := by
            split at took
            · cases took
              exact ⟨rfl, deliver_retention _ _ _⟩
            · cases took
              exact ⟨rfl, deliver_retention _ _ _⟩
          refine ⟨shape.1, ?_⟩
          rw [shape.2, armed_iff]
          by_cases armed : remaining = [] ∧ message.terminal = true
          · exact .inl ⟨armed, if_pos armed⟩
          · exact .inr ⟨armed, .inl (if_neg armed)⟩
        · cases took
      · cases took
  | startTimer id =>
      obtain ⟨own, moved, same⟩ := onRetention_some took
      subst same
      exact ⟨rfl, .inr ⟨not_false, .inr (.start id moved)⟩⟩
  | fireTimer id =>
      obtain ⟨fired, onRetention, same⟩ := Option.map_eq_some_iff.mp took
      obtain ⟨own, moved, equal⟩ := onRetention_some onRetention
      subst same
      subst equal
      exact ⟨rfl, .inr ⟨not_false, .inr (.fire id moved)⟩⟩
  | cancelTimer id =>
      obtain ⟨own, moved, same⟩ := onRetention_some took
      subst same
      exact ⟨rfl, .inr ⟨not_false, .inr (.cancel id moved)⟩⟩
  | timerDone id =>
      obtain ⟨own, moved, same⟩ := onRetention_some took
      subst same
      exact ⟨rfl, .inr ⟨not_false, .inr (.callback id moved)⟩⟩
  | storeCleared success =>
      simp only [take] at took
      split at took
      · cases took
      · cases took
        exact unarmed id ⟨rfl, rfl⟩

/-- What a run keeps as long as every terminal event finds the entry right. -/
structure Timed (settings : StreamSettings) (channel : RunChannel Client Listener Tenant) :
    Prop where
  numbered : channel.retention.Numbered
  single : channel.retention.AtMostOnePending
  timely : channel.retention.Timely settings.delay channel.clock

private theorem Timed.step (timed : channel.Timed settings)
    (tracked : channel.Arms event.2 → channel.retention.Tracked)
    (taken : channel.next settings event = some after) : after.Timed settings := by
  obtain ⟨clock, arms | ⟨_, still | moves⟩⟩ := next_retention taken
  · obtain ⟨armed, same⟩ := arms
    constructor
    case numbered => exact same ▸ timed.numbered.schedule
    case single => exact same ▸ (Retention.schedule_single timed.numbered).mpr (tracked armed)
    case timely =>
      rw [same, clock]
      exact Retention.schedule_timely (tracked armed)
  · constructor
    case numbered => exact still ▸ timed.numbered
    case single => exact still ▸ timed.single
    case timely =>
      intro last known
      rw [still] at known ⊢
      obtain ⟨past, due⟩ := timed.timely last known
      exact ⟨Nat.le_trans past (clock ▸ (next_take taken).1), due⟩
  · constructor
    case numbered => exact timed.numbered.moves moves
    case single => exact timed.single.moves moves
    case timely =>
      rw [clock]
      exact timed.timely.moves (next_take taken).1 moves

private theorem Timed.punctual (timed : channel.Timed settings)
    (taken : channel.next settings event = some after) : channel.Punctual settings event := by
  obtain ⟨now, event⟩ := event
  cases event with
  | fireTimer id =>
      intro last known
      obtain ⟨fired, onRetention, _⟩ := Option.map_eq_some_iff.mp (next_take taken).2
      obtain ⟨own, moved, _⟩ := onRetention_some onRetention
      obtain ⟨due, late, sleeping, _⟩ := Retention.fireTimer_some moved
      exact Nat.le_trans ((timed.timely last known).2 id due sleeping) late
  | _ => exact trivial

def endedTwice : List (Nat × ChannelEvent String String String) :=
  [(0, .submit "acme"), (0, .startRun 0), (0, .broadcast 0 .workflowEnd true), (0, .stored 0 true),
    (0, .resumeBroadcast 0), (0, .startTimer 0), (1, .broadcast 0 .error false),
    (1, .stored 1 true), (1, .resumeBroadcast 1), (1, .cancelTimer 0), (1, .timerDone 0),
    (1, .startTimer 1)]

/-- The done-callback of the first timer has emptied the entry of the second, so
the third terminal event does not cancel it. -/
def endedThrice : List (Nat × ChannelEvent String String String) :=
  endedTwice ++ [(2, .broadcast 0 .error false), (2, .stored 2 true), (2, .resumeBroadcast 2),
    (2, .startTimer 2)]

end RunChannel

end AgenticRuntime
