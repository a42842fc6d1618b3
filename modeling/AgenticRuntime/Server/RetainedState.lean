/-
What is kept for a run whose broadcasts have finished.

`workflow_end` and `error` arm a clear of the run's state.  Every broadcast
re-creates the state, `evaluation_complete` too, which arms nothing.
-/

import AgenticRuntime.Server.RunEvents
import AgenticRuntime.Server.RetentionTimers

namespace AgenticRuntime

open Function RunChannel Transition

variable {Client Listener Tenant : Type}

namespace Retention

def Pending (retention : Retention) : Prop :=
  ∃ id timer, retention.timers id = some timer ∧ timer.pending = true

variable {retention after : Retention} {delay now id : Nat}

theorem Pending.schedule (retention : Retention) (now : Nat) :
    (retention.scheduleDelayedClear now).Pending :=
  ⟨retention.cancelExisting.scheduled, { phase := .created, cancelled := false }, update_self ..,
    rfl⟩

private theorem Pending.set {timer : Option Timer} (pending : retention.Pending)
    (own : ∀ held, retention.timers id = some held → held.pending = true →
      ∃ later, timer = some later ∧ later.pending = true)
    (timers : after.timers = update retention.timers id timer) : after.Pending := by
  obtain ⟨other, held, known, waits⟩ := pending
  by_cases same : other = id
  · subst same
    obtain ⟨later, set_to, still⟩ := own held known waits
    refine ⟨other, later, ?_, still⟩
    rw [timers, update_self, set_to]
  · refine ⟨other, held, ?_, waits⟩
    rw [timers, update_of_ne same, known]

theorem Pending.startTimer (pending : retention.Pending)
    (moved : retention.startTimer delay now id = some after) : after.Pending := by
  obtain ⟨-, rfl⟩ := startTimer_some moved
  exact pending.set (fun _ _ _ => ⟨_, rfl, rfl⟩) rfl

theorem Pending.cancelTimer (pending : retention.Pending)
    (moved : retention.cancelTimer id = some after) : after.Pending := by
  unfold Retention.cancelTimer at moved
  split at moved
  · rename_i timer known
    split at moved
    · rename_i thrown
      cases moved
      refine pending.set ?_ rfl
      intro held there waits
      cases known.symm.trans there
      simp only [Timer.pending, Bool.and_eq_true, Bool.not_eq_true'] at waits thrown
      rw [waits.2] at thrown
      cases thrown.1
    · cases moved
  · cases moved

theorem Pending.timerDone (pending : retention.Pending)
    (moved : retention.timerDone id = some after) : after.Pending := by
  unfold Retention.timerDone at moved
  split at moved
  · rename_i timer known
    split at moved
    · rename_i over_with
      cases moved
      refine pending.set ?_ rfl
      intro held there waits
      cases known.symm.trans there
      rw [Timer.pending, over_with] at waits
      cases waits
    · cases moved
  · cases moved

end Retention

theorem Ownership.submit_cases [DecidableEq Tenant] (ownership : Ownership Tenant)
    (tenant : Tenant) :
    ((ownership.submit tenant).submissions = ownership.submissions + 1 ∧
      (ownership.submit tenant).runs = update ownership.runs ownership.submissions
        (some { tenant := tenant, started := false })) ∨
    ((ownership.submit tenant).submissions = ownership.submissions ∧
      (ownership.submit tenant).runs = ownership.runs) := by
  by_cases accepted : ownership.runTenant.getD tenant = tenant
  · left
    simp only [submit, bindRunTenant, accepted, decide_true, if_true, and_self]
  · right
    simp only [submit, bindRunTenant, accepted, decide_false, Bool.false_eq_true, if_false, and_self]

namespace RunChannel

variable (channel : RunChannel Client Listener Tenant)

/-- `clear_buffer` has run since the last event was stored. -/
def Cleared : Prop :=
  channel.hub.eventBuffer = [] ∧ channel.ownership.runTenant = none ∧
    (0 < channel.storeClears ∨ channel.hub.stored = [])

def Safe : Prop :=
  channel.retention.Pending ∨ channel.Cleared

/-- A broadcast under way is going to arm a timer, or it has still to reach the store. -/
def Owing : Prop :=
  ∃ number flight, channel.hub.flights number = some flight ∧
    (flight.message.terminal = true ∨
      flight.message.type = .evaluationComplete ∧ flight.phase = .appending)

structure Settled (channel : RunChannel Client Listener Tenant) : Prop where
  submitted : 0 < channel.ownership.submissions
  begun : ∀ id task, channel.ownership.runs id = some task → task.started = true
  latest : ∀ number flight, channel.hub.flights number = some flight →
    number + 1 = channel.hub.log.length
  storing : ∀ number flight, channel.hub.flights number = some flight →
    flight.phase = .appending →
      flight.message.terminal = true ∨ flight.message.type = .evaluationComplete
  safe : channel.Safe ∨ channel.Owing

section

variable [DecidableEq Client] [DecidableEq Listener]
  {channel after : RunChannel Client Listener Tenant}

structure Same (channel after : RunChannel Client Listener Tenant) : Prop where
  eventBuffer : after.hub.eventBuffer = channel.hub.eventBuffer
  stored : after.hub.stored = channel.hub.stored
  flights : after.hub.flights = channel.hub.flights
  log : after.hub.log = channel.hub.log
  runTenant : after.ownership.runTenant = channel.ownership.runTenant
  submissions : after.ownership.submissions = channel.ownership.submissions
  runs : ∀ id task, after.ownership.runs id = some task → channel.ownership.runs id = some task
  retention : after.retention = channel.retention
  storeClears : after.storeClears = channel.storeClears

section

omit [DecidableEq Client] [DecidableEq Listener]

theorem Safe.same (safe : channel.Safe) (same : channel.Same after) : after.Safe := by
  rcases safe with pending | cleared
  · left
    rw [same.retention]
    exact pending
  · right
    rw [Cleared, same.eventBuffer, same.runTenant, same.storeClears, same.stored]
    exact cleared

theorem Settled.same (settled : channel.Settled) (same : channel.Same after) : after.Settled := by
  constructor
  · rw [same.submissions]
    exact settled.submitted
  · exact fun id task known => settled.begun id task (same.runs id task known)
  · rw [same.flights, same.log]
    exact settled.latest
  · rw [same.flights]
    exact settled.storing
  · rcases settled.safe with safe | owing
    · exact .inl (safe.same same)
    · right
      rw [Owing, same.flights]
      exact owing

end

variable {message : Message Tenant} {event : Nat × ChannelEvent Client Listener Tenant}

theorem Settled.deliver (settled : channel.Settled) {phase : FlightPhase Client}
    (flight : channel.hub.flights message.number = some { message := message, phase := phase })
    (appended : phase ≠ .appending) (remaining dead : List Client) :
    (channel.deliver message remaining dead).Settled := by
  have flights := Hub.deliver_flights channel.hub message remaining dead
  have sending : ∀ number flown,
      (channel.deliver message remaining dead).hub.flights number = some flown →
      channel.hub.flights number = some flown ∨
        (number = message.number ∧ flown.phase ≠ .appending) := by
    intro number flown there
    change (channel.hub.deliver message remaining dead).flights number = _ at there
    rw [flights] at there
    by_cases same : number = message.number
    · rw [same, update_self] at there
      split at there
      · cases there
      · cases there
        exact .inr ⟨same, nofun⟩
    · rw [update_of_ne same] at there
      exact .inl there
  constructor
  · exact settled.submitted
  · exact settled.begun
  · intro number flown there
    change number + 1 = (channel.hub.deliver message remaining dead).log.length
    rw [Hub.deliver_log]
    rcases sending number flown there with old | ⟨same, -⟩
    · exact settled.latest number flown old
    · rw [same]
      exact settled.latest _ _ flight
  · intro number flown there appending
    rcases sending number flown there with old | ⟨-, sent⟩
    · exact settled.storing number flown old appending
    · exact absurd appending sent
  · by_cases terminal : message.terminal = true
    · by_cases last : remaining = []
      · left
        left
        change Retention.Pending (if remaining.isEmpty && message.terminal then _ else _)
        rw [last, terminal]
        exact Retention.Pending.schedule ..
      · right
        refine ⟨message.number, { message := message, phase := .sending remaining dead }, ?_,
          .inl terminal⟩
        change (channel.hub.deliver message remaining dead).flights _ = _
        rw [flights, update_self, if_neg last]
    · have idle : (channel.deliver message remaining dead).retention = channel.retention := by
        change (if remaining.isEmpty && message.terminal then _ else _) = _
        rw [if_neg]
        simp only [Bool.and_eq_true, not_and]
        exact fun _ => terminal
      rcases settled.safe with (pending | ⟨buffer, tenant, store⟩) | ⟨number, flown, known, owes⟩
      · left
        left
        rw [idle]
        exact pending
      · left
        right
        refine ⟨?_, tenant, ?_⟩
        · exact (Hub.deliver_eventBuffer ..).trans buffer
        · rcases store with clearing | empty
          · exact .inl clearing
          · exact .inr ((Hub.deliver_stored ..).trans empty)
      · -- The broadcast that owes a timer is the latest, and so is this one.
        have last := settled.latest number flown known
        have own := settled.latest _ _ flight
        have same : number = message.number := by omega
        rw [same, flight] at known
        cases known
        rcases owes with closes | ⟨-, appending⟩
        · exact absurd closes terminal
        · exact absurd appending appended

section

omit [DecidableEq Client] [DecidableEq Listener]

theorem Settled.append (settled : channel.Settled) {settings : StreamSettings}
    (flight : channel.hub.flights message.number = some { message := message, phase := .appending })
    (spares : message.type = .evaluationComplete → channel.retention.Pending ∨
      (channel.hub.eventBuffer = [] ∧ channel.ownership.runTenant = none ∧
        0 < channel.storeClears)) :
    ({ channel with hub := channel.hub.append settings message true } :
      RunChannel Client Listener Tenant).Settled := by
  have flights := Hub.append_flights channel.hub message settings true
  have stays : ∀ number flown, (channel.hub.append settings message true).flights number =
      some flown → channel.hub.flights number = some flown ∨
        (number = message.number ∧ flown = { message := message, phase := .appended }) := by
    intro number flown there
    rw [flights] at there
    by_cases same : number = message.number
    · rw [if_pos same] at there
      cases there
      exact .inr ⟨same, rfl⟩
    · rw [if_neg same] at there
      exact .inl there
  constructor
  · exact settled.submitted
  · exact settled.begun
  · intro number flown there
    rcases stays number flown there with old | ⟨same, -⟩
    · exact settled.latest number flown old
    · rw [same]
      exact settled.latest _ _ flight
  · intro number flown there appending
    rcases stays number flown there with old | ⟨-, same⟩
    · exact settled.storing number flown old appending
    · rw [same] at appending
      cases appending
  · rcases settled.storing _ _ flight rfl with terminal | evaluated
    · right
      refine ⟨message.number, { message := message, phase := .appended }, ?_, .inl terminal⟩
      change (channel.hub.append settings message true).flights _ = _
      rw [flights, if_pos rfl]
    · rcases spares evaluated with pending | ⟨buffer, tenant, clearing⟩
      · exact .inl (.inl pending)
      · exact .inl (.inr ⟨buffer, tenant, .inl clearing⟩)

theorem Settled.onRetention (settled : channel.Settled) {retention : Retention}
    (pending : channel.retention.Pending → retention.Pending) :
    ({ channel with retention := retention } : RunChannel Client Listener Tenant).Settled := by
  constructor
  · exact settled.submitted
  · exact settled.begun
  · exact settled.latest
  · exact settled.storing
  · rcases settled.safe with (waits | cleared) | owing
    · exact .inl (.inl (pending waits))
    · exact .inl (.inr cleared)
    · exact .inr owing

/-- A `_clear_store` task has emptied the store. -/
theorem Settled.storeCleared (settled : channel.Settled) (clears : Nat) :
    ({ channel with hub := { channel.hub with stored := [] }, storeClears := clears } :
      RunChannel Client Listener Tenant).Settled := by
  constructor
  · exact settled.submitted
  · exact settled.begun
  · exact settled.latest
  · exact settled.storing
  · rcases settled.safe with (waits | ⟨buffer, tenant, -⟩) | owing
    · exact .inl (.inl waits)
    · exact .inl (.inr ⟨buffer, tenant, .inr rfl⟩)
    · exact .inr owing

end

variable [DecidableEq Tenant] {settings : StreamSettings}

def ofClients : ChannelEvent Client Listener Tenant → Bool
  | .finishRun _ | .persist _ | .openSocket _ _ | .resolveSocket _ | .accepted _ | .beginReplay _
  | .readStore _ _ | .resumeReplay _ | .replayed _ _ | .closeSocket _ | .openStream _ _
  | .resolveStream _ | .registerStream _ | .takeEvent _ | .closeStream _ => true
  | _ => false

omit [DecidableEq Client] [DecidableEq Listener] [DecidableEq Tenant] in
private theorem onHub_frame {own : Option (Hub Client Listener Tenant)}
    (taken : channel.onHub own = some after) : after.ownership = channel.ownership ∧
      after.retention = channel.retention ∧ after.storeClears = channel.storeClears := by
  obtain ⟨hub, -, rfl⟩ := onHub_some taken
  exact ⟨rfl, rfl, rfl⟩

theorem next_same (clients : ofClients event.2 = true)
    (taken : channel.next settings event = some after) :
    channel.Same after := by
  have hub : after.hub.eventBuffer = channel.hub.eventBuffer ∧
      after.hub.stored = channel.hub.stored ∧ after.hub.flights = channel.hub.flights ∧
      after.hub.log = channel.hub.log := by
    have step := next_hub taken
    generalize event.2 = happened at clients step
    generalize after.hub = hub at step ⊢
    cases step with
    | called | appended | resumed | sent | failed | cleared | storeCleared => cases clients
    | resumedReplay known read | replayed known replaying =>
        rw [Hub.replay_eq]
        exact ⟨rfl, rfl, rfl, rfl⟩
    | _ => exact ⟨rfl, rfl, rfl, rfl⟩
  have rest : after.ownership.runTenant = channel.ownership.runTenant ∧
      after.ownership.submissions = channel.ownership.submissions ∧
      (∀ id task, after.ownership.runs id = some task → channel.ownership.runs id = some task) ∧
      after.retention = channel.retention ∧ after.storeClears = channel.storeClears := by
    obtain ⟨now, event⟩ := event
    obtain ⟨-, took⟩ := next_take taken
    have idle : ∀ {own : Option (Hub Client Listener Tenant)},
        ({ channel with clock := now } : RunChannel Client Listener Tenant).onHub own = some after →
        after.ownership.runTenant = channel.ownership.runTenant ∧
        after.ownership.submissions = channel.ownership.submissions ∧
        (∀ id task, after.ownership.runs id = some task → channel.ownership.runs id = some task) ∧
        after.retention = channel.retention ∧ after.storeClears = channel.storeClears := by
      intro own onHub
      obtain ⟨ownership, retention, clears⟩ := onHub_frame onHub
      rw [ownership]
      exact ⟨rfl, rfl, fun _ _ known => known, retention, clears⟩
    cases event with
    | finishRun run =>
        obtain ⟨own, finished, rfl⟩ := onOwnership_some took
        simp only [Ownership.finishRun] at finished
        split at finished
        · cases finished
          refine ⟨rfl, rfl, ?_, rfl, rfl⟩
          intro id task known
          change update _ _ _ _ = _ at known
          by_cases same : id = run
          · subst same
            rw [update_self] at known
            cases known
          · rw [update_of_ne same] at known
            exact known
        · cases finished
    | persist tenant =>
        obtain ⟨own, kept, rfl⟩ := onOwnership_some took
        cases kept
        exact ⟨rfl, rfl, fun _ _ known => known, rfl, rfl⟩
    | openSocket client tenant | openStream listener tenant =>
        simp only [take] at took
        split at took
        · exact idle took
        · cases took
    | resolveSocket | accepted | beginReplay | readStore | resumeReplay | replayed | closeSocket
    | resolveStream | registerStream | takeEvent | closeStream => exact idle took
    | submit | startRun | broadcast | stored | resumeBroadcast | sent | startTimer | fireTimer
    | cancelTimer | timerDone | storeCleared => cases clients
  exact ⟨hub.1, hub.2.1, hub.2.2.1, hub.2.2.2, rest.1, rest.2.1, rest.2.2.1, rest.2.2.2.1,
    rest.2.2.2.2⟩

omit [DecidableEq Client] [DecidableEq Listener] [DecidableEq Tenant] in
private theorem Settled.later (settled : channel.Settled) (now : Nat) :
    ({ channel with clock := now } : RunChannel Client Listener Tenant).Settled :=
  settled.same ⟨rfl, rfl, rfl, rfl, rfl, rfl, fun _ _ known => known, rfl, rfl⟩

def storeFails : ChannelEvent Client Listener Tenant → Bool
  | .stored _ success | .storeCleared success => !success
  | _ => false

/-- The append of `evaluation_complete` takes effect while a timer is pending, or after a clear of
the event and before that of the store. -/
def SparesRetention (channel : RunChannel Client Listener Tenant) :
    ChannelEvent Client Listener Tenant → Prop
  | .stored number _ => ∀ flight, channel.hub.flights number = some flight →
      flight.message.type = .evaluationComplete → channel.retention.Pending ∨
        (channel.hub.eventBuffer = [] ∧ channel.ownership.runTenant = none ∧
          0 < channel.storeClears)
  | _ => True

section

omit [DecidableEq Client]

private theorem appended_stored : (.appended : FlightPhase Client) ≠ .appending := nofun

private theorem sending_stored {remaining dead : List Client} :
    (.sending remaining dead : FlightPhase Client) ≠ .appending := nofun

end

theorem Settled.step (settled : channel.Settled) (numbered : channel.hub.Numbered)
    (stores : storeFails event.2 = false) (spares : channel.SparesRetention event.2)
    (unsubmitted : ∀ tenant, event.2 ≠ .submit tenant)
    (silent : ∀ task type evaluationEnabled, event.2 ≠ .broadcast task type evaluationEnabled)
    (taken : channel.next settings event = some after) : after.Settled := by
  cases clients : ofClients event.2 with
  | true => exact settled.same (next_same clients taken)
  | false =>
      obtain ⟨-, took⟩ := next_take taken
      obtain ⟨now, event⟩ := event
      have current := settled.later now
      cases event with
      | submit tenant => exact absurd rfl (unsubmitted tenant)
      | broadcast task type evaluationEnabled =>
          exact absurd rfl (silent task type evaluationEnabled)
      | startRun run =>
          obtain ⟨own, started, rfl⟩ := onOwnership_some took
          simp only [Ownership.startRun] at started
          split at started
          · rename_i known
            cases settled.begun run _ known
          · cases started
      | stored number success =>
          cases success with
          | false => cases stores
          | true =>
          simp only [take] at took
          split at took
          · rename_i message flight
            cases took
            have own := (numbered.flight _ _ flight).2
            cases own
            exact current.append flight (spares _ flight)
          · cases took
      | resumeBroadcast number =>
          simp only [take] at took
          split at took
          · rename_i message flight
            cases took
            exact current.deliver (numbered.own flight) appended_stored _ _
          · cases took
      | sent number client success =>
          simp only [take] at took
          split at took
          · rename_i message target remaining dead flight
            split at took
            · rename_i same
              subst same
              split at took
              · cases took
                have received : ({ channel with
                    clock := now
                    hub := channel.hub.receive target .live message } :
                    RunChannel Client Listener Tenant).Settled := by
                  rw [Hub.receive_eq]
                  exact current.same ⟨rfl, rfl, rfl, rfl, rfl, rfl, fun _ _ known => known, rfl, rfl⟩
                have sending : (channel.hub.receive target .live message).flights message.number =
                    some { message := message, phase := .sending (target :: remaining) dead } := by
                  rw [Hub.receive_eq]
                  exact numbered.own flight
                exact received.deliver sending sending_stored _ _
              · cases took
                exact current.deliver (numbered.own flight) sending_stored _ _
            · cases took
          · cases took
      | startTimer id =>
          obtain ⟨own, moved, rfl⟩ := onRetention_some took
          exact current.onRetention fun pending => pending.startTimer moved
      | fireTimer id =>
          obtain ⟨fired, onRetention, rfl⟩ := Option.map_eq_some_iff.mp took
          obtain ⟨own, moved, rfl⟩ := onRetention_some onRetention
          exact {
            submitted := settled.submitted
            begun := settled.begun
            latest := settled.latest
            storing := settled.storing
            safe := .inl (.inr ⟨rfl, rfl, .inl (Nat.succ_pos _)⟩) }
      | cancelTimer id =>
          obtain ⟨own, moved, rfl⟩ := onRetention_some took
          exact current.onRetention fun pending => pending.cancelTimer moved
      | timerDone id =>
          obtain ⟨own, moved, rfl⟩ := onRetention_some took
          exact current.onRetention fun pending => pending.timerDone moved
      | storeCleared success =>
          cases success with
          | false => cases stores
          | true =>
          simp only [take] at took
          split at took
          · cases took
          · cases took
            exact current.storeCleared _
      | finishRun | persist | openSocket | resolveSocket | accepted | beginReplay | readStore
      | resumeReplay | replayed | closeSocket | openStream | resolveStream | registerStream
      | takeEvent | closeStream => cases clients

def SubmittedOnce (channel : RunChannel Client Listener Tenant) : Prop :=
  channel.ownership.submissions ≤ 1 ∧
    ∀ id task, channel.ownership.runs id = some task → id < channel.ownership.submissions

omit [DecidableEq Client] [DecidableEq Listener] [DecidableEq Tenant] in
private theorem SubmittedOnce.same (once : channel.SubmittedOnce)
    (ownership : after.ownership = channel.ownership) : after.SubmittedOnce := by
  rw [SubmittedOnce, ownership]
  exact once

theorem SubmittedOnce.step (once : channel.SubmittedOnce)
    (first : ∀ tenant, event.2 = .submit tenant → channel.ownership.submissions = 0)
    (taken : channel.next settings event = some after) : after.SubmittedOnce := by
  cases clients : ofClients event.2 with
  | true =>
      have same := next_same clients taken
      constructor
      · rw [same.submissions]
        exact once.1
      · intro id task known
        rw [same.submissions]
        exact once.2 id task (same.runs id task known)
  | false =>
      obtain ⟨-, took⟩ := next_take taken
      obtain ⟨now, event⟩ := event
      cases event with
      | submit tenant =>
          obtain ⟨own, submitted, rfl⟩ := onOwnership_some took
          cases submitted
          have none_yet := first tenant rfl
          change (channel.ownership.submit tenant).submissions ≤ 1 ∧ ∀ id task,
            (channel.ownership.submit tenant).runs id = some task →
              id < (channel.ownership.submit tenant).submissions
          rcases Ownership.submit_cases channel.ownership tenant with ⟨count, runs⟩ | ⟨count, runs⟩
          · rw [count, runs]
            constructor
            · omega
            · intro id task known
              by_cases same : id = channel.ownership.submissions
              · omega
              · rw [update_of_ne same] at known
                have bound := once.2 id task known
                omega
          · rw [count, runs]
            exact once
      | startRun run =>
          obtain ⟨own, started, rfl⟩ := onOwnership_some took
          simp only [Ownership.startRun] at started
          split at started
          · rename_i known
            cases started
            refine ⟨once.1, ?_⟩
            intro id task there
            change update channel.ownership.runs run _ id = _ at there
            change id < channel.ownership.submissions
            by_cases same : id = run
            · rw [same]
              exact once.2 run _ known
            · rw [update_of_ne same] at there
              exact once.2 id task there
          · cases started
      | broadcast task type evaluationEnabled =>
          obtain ⟨-, -, rfl⟩ := next_broadcast taken
          exact once
      | stored number success =>
          simp only [take] at took
          split at took
          · exact once.same (onHub_frame took).1
          · cases took
      | resumeBroadcast number =>
          simp only [take] at took
          split at took
          · cases took
            exact once
          · cases took
      | sent number client success =>
          simp only [take] at took
          split at took
          · split at took
            · split at took
              · cases took
                exact once
              · cases took
                exact once
            · cases took
          · cases took
      | startTimer id | cancelTimer id | timerDone id =>
          obtain ⟨own, moved, rfl⟩ := onRetention_some took
          exact once
      | fireTimer id =>
          obtain ⟨fired, onRetention, rfl⟩ := Option.map_eq_some_iff.mp took
          obtain ⟨own, moved, rfl⟩ := onRetention_some onRetention
          exact once
      | storeCleared success =>
          simp only [take] at took
          split at took
          · cases took
          · cases took
            exact once
      | finishRun | persist | openSocket | resolveSocket | accepted | beginReplay | readStore
      | resumeReplay | replayed | closeSocket | openStream | resolveStream | registerStream
      | takeEvent | closeStream => cases clients

section

omit [DecidableEq Client] [DecidableEq Listener] [DecidableEq Tenant]

theorem quiet_flights (numbered : channel.hub.Numbered) (quiet : channel.hub.quiet = true)
    (number : Nat) : channel.hub.flights number = none := by
  cases known : channel.hub.flights number with
  | none => rfl
  | some flight =>
      obtain ⟨member, own⟩ := numbered.flight number flight known
      have bound := numbered.bounded flight.message member
      rw [own] at bound
      have landed := List.all_eq_true.mp quiet number (List.mem_range.mpr bound)
      rw [known] at landed
      cases landed

theorem settled_broadcast (numbered : channel.hub.Numbered) (once : channel.SubmittedOnce)
    (quiet : channel.hub.quiet = true) {task : Nat} {tenant : Tenant}
    (started : channel.ownership.runs task = some { tenant := tenant, started := true })
    (number : message.number = channel.hub.log.length)
    (closes : message.isTerminalStreamEvent = true) (now : Nat) :
    ({ channel with clock := now, hub := channel.hub.broadcast settings message } :
      RunChannel Client Listener Tenant).Settled := by
  have bound := once.2 task _ started
  have kind : message.terminal = true ∨ message.type = .evaluationComplete := by
    obtain ⟨number, tenant, type, evaluationEnabled⟩ := message
    cases type with
    | workflowEnd | error => exact .inl rfl
    | evaluationComplete => exact .inr rfl
    | _ => cases closes
  have only : ∀ other flight, (channel.hub.broadcast settings message).flights other =
      some flight → other = message.number ∧
        flight = { message := message, phase := .appending } := by
    intro other flight known
    rw [Hub.broadcast_flights] at known
    by_cases same : other = message.number
    · rw [if_pos same] at known
      cases known
      exact ⟨same, rfl⟩
    · rw [if_neg same, quiet_flights numbered quiet other] at known
      cases known
  constructor
  · exact Nat.lt_of_le_of_lt (Nat.zero_le task) bound
  · intro id other known
    have below := once.2 id other known
    have atMost := once.1
    have same : id = task := by omega
    rw [same] at known
    cases started.symm.trans known
    rfl
  · intro other flight known
    change other + 1 = (channel.hub.broadcast settings message).log.length
    rw [Hub.broadcast_log_length, (only other flight known).1, number]
  · intro other flight known _
    rw [(only other flight known).2]
    exact kind
  · right
    refine ⟨message.number, { message := message, phase := .appending }, ?_, ?_⟩
    · exact update_self ..
    · rcases kind with terminal | evaluated
      · exact .inl terminal
      · exact .inr ⟨evaluated, rfl⟩

end

end

end RunChannel

namespace EmittedRun

variable [DecidableEq Client] [DecidableEq Listener] [DecidableEq Tenant]
  {settings : StreamSettings} {run after : EmittedRun Client Listener Tenant}
  {event : Nat × ChannelEvent Client Listener Tenant}

structure Retained (run : EmittedRun Client Listener Tenant) : Prop where
  numbered : run.channel.hub.Numbered
  once : run.channel.SubmittedOnce
  settled : run.phase.final = true → run.channel.Settled

theorem Retained.step (retained : run.Retained) (stores : storeFails event.2 = false)
    (spares : run.channel.SparesRetention event.2)
    (taken : run.next settings event = some after) : after.Retained := by
  obtain ⟨moved, phase, first⟩ := next_some taken
  constructor
  · exact retained.numbered.step (next_hub moved)
  · exact retained.once.step first moved
  · intro final
    rcases phase with ⟨same, silent⟩ | ⟨task, type, evaluationEnabled, same, advanced, turn⟩
    · rw [same] at final
      have settled := retained.settled final
      refine settled.step retained.numbered stores spares ?_ silent moved
      intro tenant submits
      have submitted := settled.submitted
      rw [first tenant submits] at submitted
      cases submitted
    · obtain ⟨now, happened⟩ := event
      cases same
      obtain ⟨tenant, started, grown⟩ := next_broadcast moved
      have closes : after.phase.final = Message.isTerminalStreamEvent
          { number := run.channel.hub.log.length, tenant, type, evaluationEnabled } :=
        advance_final advanced
      rw [final] at closes
      rw [grown]
      refine settled_broadcast retained.numbered retained.once ?_ started rfl
        closes.symm now
      rcases turn with step | quiet
      · cases type with
        | workflowEnd | error | evaluationComplete => cases step
        | _ => cases closes
      · exact quiet

omit [DecidableEq Client] [DecidableEq Listener] [DecidableEq Tenant] in
theorem start_retained (records : List Tenant) :
    (start records : EmittedRun Client Listener Tenant).Retained := by
  constructor
  · exact ⟨nofun, nofun, nofun⟩
  · exact ⟨Nat.zero_le 1, nofun⟩
  · intro final
    cases final

theorem replay_timers_numbered {records : List Tenant}
    {events : List (Nat × ChannelEvent Client Listener Tenant)}
    (ran : replay (next settings) (start records) events = some run) :
    run.channel.retention.Numbered := by
  have kept : ∀ (run : EmittedRun Client Listener Tenant)
      (event : Nat × ChannelEvent Client Listener Tenant) (after : EmittedRun Client Listener Tenant),
      run.channel.retention.Numbered → run.next settings event = some after →
      after.channel.retention.Numbered := by
    intro run event after numbered taken
    obtain ⟨-, ⟨-, arms⟩ | ⟨-, still | moves⟩⟩ := next_retention (next_some taken).1
    · rw [arms]
      exact numbered.schedule
    · rw [still]
      exact numbered
    · exact numbered.moves moves
  refine replay_invariant kept ?_ ran
  intro id timer known
  cases known

/-- A run with an evaluation, during which `clears` happens. -/
def scoredRun (clears : List (Nat × ChannelEvent String String String)) :
    List (Nat × ChannelEvent String String String) :=
  [(0, .submit "acme"), (0, .startRun 0), (0, .broadcast 0 .workflowStart false),
    (0, .stored 0 true), (0, .resumeBroadcast 0), (1, .broadcast 0 .workflowEnd true),
    (1, .stored 1 true), (1, .resumeBroadcast 1), (1, .startTimer 0),
    (1, .broadcast 0 .evaluationStart false), (1, .stored 2 true), (1, .resumeBroadcast 2)] ++
  clears ++
  [(4000, .broadcast 0 .evaluationComplete false), (4000, .stored 3 true),
    (4000, .resumeBroadcast 3)]

/-- The timer of `workflow_end` is pending, or it is not needed. -/
def firstTimerPending (run : EmittedRun String String String) :
    ChannelEvent String String String → Bool
  | .stored number success => success && (run.channel.hub.flights number).all fun flight =>
      flight.message.type ≠ .evaluationComplete || (run.channel.retention.timers 0).any Timer.pending
  | .storeCleared success => success
  | _ => true

theorem firstTimerPending_spares (run : EmittedRun String String String)
    (event : Nat × ChannelEvent String String String)
    (pending : run.firstTimerPending event.2 = true) :
    storeFails event.2 = false ∧ run.channel.SparesRetention event.2 := by
  obtain ⟨now, event⟩ := event
  cases event with
  | stored number success =>
      obtain ⟨stores, waits⟩ := (Bool.and_eq_true _ _).mp pending
      refine ⟨congrArg not stores, ?_⟩
      intro flight known evaluated
      rw [known, Option.all_some, evaluated] at waits
      obtain ⟨timer, there, going⟩ := (Option.any_eq_true _ _).mp waits
      exact .inl ⟨0, timer, there, going⟩
  | storeCleared success => exact ⟨congrArg not pending, trivial⟩
  | _ => exact ⟨rfl, trivial⟩

end EmittedRun

end AgenticRuntime
