/-
The events of one run, in the order in which its background task broadcasts them.

The task awaits each broadcast before the next, the step events of one execution
apart.  `error` comes from the `except` clause, at any point, or from an
evaluation that has no judge.
-/

import AgenticRuntime.Server.HubInvariant

namespace AgenticRuntime

/-- What an execution broadcasts between `workflow_start` and `workflow_end`. -/
def EventType.ofStep : EventType → Bool
  | .stepStart | .stepEnd | .tokenDelta | .stepComplete | .stepError | .approvalRequired
  | .approvalDecision => true
  | _ => false

/-- Where `_run_and_evaluate` is, by the last event it has called `broadcast` with. -/
inductive RunPhase where
  | submitted
  | executing
  | ended (evaluationEnabled : Bool)
  | evaluating
  | evaluationFailed
  | evaluated
  | failed
  deriving DecidableEq, Repr

namespace RunPhase

/-- The events that may come next.  After `workflow_end` and the events of an evaluation only the
`except` clause is left, for a run log that cannot be written. -/
def advance : RunPhase → EventType → Bool → Option RunPhase
  | .submitted, .workflowStart, _ => some .executing
  | .executing, .workflowEnd, evaluationEnabled => some (.ended evaluationEnabled)
  | .ended true, .evaluationStart, _ => some .evaluating
  | .evaluating, .evaluationComplete, _ => some .evaluated
  | .evaluating, .error, _ => some .evaluationFailed
  | .failed, _, _ => none
  | _, .error, _ => some .failed
  | .executing, type, _ => if type.ofStep then some .executing else none
  | _, _, _ => none

def final : RunPhase → Bool
  | .ended false | .evaluationFailed | .evaluated | .failed => true
  | _ => false

end RunPhase

structure EmittedRun (Client Listener Tenant : Type) where
  channel : RunChannel Client Listener Tenant
  phase : RunPhase

def Hub.quiet {Client Listener Tenant : Type} (hub : Hub Client Listener Tenant) : Bool :=
  (List.range hub.log.length).all fun number => (hub.flights number).isNone

namespace EmittedRun

variable {Client Listener Tenant : Type} [DecidableEq Client] [DecidableEq Listener]
  [DecidableEq Tenant]

def move (settings : StreamSettings) (run : EmittedRun Client Listener Tenant)
    (event : Nat × ChannelEvent Client Listener Tenant) (phase : RunPhase) :
    Option (EmittedRun Client Listener Tenant) :=
  (run.channel.next settings event).map fun channel => { channel, phase }

def next (settings : StreamSettings) (run : EmittedRun Client Listener Tenant)
    (event : Nat × ChannelEvent Client Listener Tenant) :
    Option (EmittedRun Client Listener Tenant) :=
  match event.2 with
  | .submit _ =>
      if run.channel.ownership.submissions = 0 then run.move settings event run.phase else none
  | .broadcast _ type evaluationEnabled =>
      match run.phase.advance type evaluationEnabled with
      | none => none
      | some phase =>
          if type.ofStep || run.channel.hub.quiet then run.move settings event phase else none
  | .finishRun _ =>
      if run.phase.final || run.phase = .submitted then run.move settings event run.phase
      else none
  | _ => run.move settings event run.phase

def start (records : List Tenant) : EmittedRun Client Listener Tenant :=
  { channel := RunChannel.start records, phase := .submitted }

variable {settings : StreamSettings} {run after : EmittedRun Client Listener Tenant}
  {event : Nat × ChannelEvent Client Listener Tenant}

theorem move_some {phase : RunPhase} (moved : run.move settings event phase = some after) :
    run.channel.next settings event = some after.channel ∧ after.phase = phase := by
  obtain ⟨channel, taken, rfl⟩ := Option.map_eq_some_iff.mp moved
  exact ⟨taken, rfl⟩

theorem next_some (taken : run.next settings event = some after) :
    run.channel.next settings event = some after.channel ∧
      ((after.phase = run.phase ∧ ∀ task type evaluationEnabled,
          event.2 ≠ .broadcast task type evaluationEnabled) ∨
        ∃ task type evaluationEnabled, event.2 = .broadcast task type evaluationEnabled ∧
          run.phase.advance type evaluationEnabled = some after.phase ∧
          (type.ofStep = true ∨ run.channel.hub.quiet = true)) ∧
      (∀ tenant, event.2 = .submit tenant → run.channel.ownership.submissions = 0) := by
  obtain ⟨now, event⟩ := event
  cases event with
  | submit tenant =>
      simp only [next] at taken
      split at taken
      · rename_i first
        obtain ⟨moved, same⟩ := move_some taken
        exact ⟨moved, .inl ⟨same, nofun⟩, fun _ _ => first⟩
      · cases taken
  | broadcast task type evaluationEnabled =>
      simp only [next] at taken
      split at taken
      · cases taken
      · rename_i phase advanced
        split at taken
        · rename_i turn
          obtain ⟨moved, same⟩ := move_some taken
          rw [same]
          exact ⟨moved, .inr ⟨task, type, evaluationEnabled, rfl, advanced,
            (Bool.or_eq_true _ _).mp turn⟩, nofun⟩
        · cases taken
  | finishRun task =>
      simp only [next] at taken
      split at taken
      · obtain ⟨moved, same⟩ := move_some taken
        exact ⟨moved, .inl ⟨same, nofun⟩, nofun⟩
      · cases taken
  | startRun | persist | stored | resumeBroadcast | sent | openSocket | resolveSocket | accepted
  | beginReplay | readStore | resumeReplay | replayed | closeSocket | openStream | resolveStream
  | registerStream | takeEvent | closeStream | startTimer | fireTimer | cancelTimer | timerDone
  | storeCleared =>
      obtain ⟨moved, same⟩ := move_some taken
      exact ⟨moved, .inl ⟨same, nofun⟩, nofun⟩

end EmittedRun

theorem HubStep.log {Client Listener Tenant : Type} [DecidableEq Client] [DecidableEq Listener]
    {settings : StreamSettings} {hub after : Hub Client Listener Tenant}
    {event : ChannelEvent Client Listener Tenant} (step : HubStep settings hub event after)
    (other : ∀ task type evaluationEnabled, event ≠ .broadcast task type evaluationEnabled) :
    after.log = hub.log := by
  cases step with
  | called numbered => exact absurd rfl (other _ _ _)
  | resumed flight | failed flight => exact Hub.deliver_log ..
  | sent flight => rw [Hub.deliver_log, Hub.receive_eq]
  | resumedReplay known read | replayed known replaying => rw [Hub.replay_eq]; rfl
  | _ => rfl

namespace RunChannel

variable {Client Listener Tenant : Type} [DecidableEq Client] [DecidableEq Listener]
  [DecidableEq Tenant] {settings : StreamSettings} {channel after : RunChannel Client Listener Tenant}

theorem next_broadcast {now task : Nat} {type : EventType} {evaluationEnabled : Bool}
    (taken : channel.next settings (now, .broadcast task type evaluationEnabled) = some after) :
    ∃ tenant, channel.ownership.runs task = some { tenant := tenant, started := true } ∧
      after = { channel with
        clock := now
        hub := channel.hub.broadcast settings
          { number := channel.hub.log.length, tenant, type, evaluationEnabled } } := by
  obtain ⟨-, took⟩ := next_take taken
  simp only [take] at took
  split at took
  · rename_i tenant started
    cases took
    exact ⟨tenant, started, rfl⟩
  · cases took

theorem next_log {event : Nat × ChannelEvent Client Listener Tenant}
    (taken : channel.next settings event = some after)
    (other : ∀ task type evaluationEnabled, event.2 ≠ .broadcast task type evaluationEnabled) :
    after.hub.log = channel.hub.log :=
  (next_hub taken).log other

end RunChannel

namespace EmittedRun

variable {Client Listener Tenant : Type} [DecidableEq Client] [DecidableEq Listener]
  [DecidableEq Tenant] {settings : StreamSettings} {run after : EmittedRun Client Listener Tenant}
  {event : Nat × ChannelEvent Client Listener Tenant}

/-! ### Phases and events -/

omit [DecidableEq Tenant] in
theorem advance_final {phase later : RunPhase} {message : Message Tenant}
    (advanced : phase.advance message.type message.evaluationEnabled = some later) :
    later.final = message.isTerminalStreamEvent := by
  obtain ⟨number, tenant, type, evaluationEnabled⟩ := message
  cases phase with
  | ended enabled =>
      cases enabled <;> cases type <;> cases advanced <;> rfl
  | executing =>
      cases type with
      | workflowEnd =>
          cases advanced
          cases evaluationEnabled <;> rfl
      | _ => cases advanced <;> rfl
  | _ => cases type <;> cases advanced <;> rfl

end EmittedRun

end AgenticRuntime
