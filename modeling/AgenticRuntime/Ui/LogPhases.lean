/-
What the uninterrupted client shows at each phase of a run.

A text that has come in is dropped when it comes in again. So the client tells the
phase of the run from the log as long as no two events of it share a text, and two
errors that do show the same.
-/

import AgenticRuntime.Ui.WorkflowStream
import Mathlib.Data.List.Induction

namespace AgenticRuntime

open List StreamState

/-! ### One event -/

namespace StreamState

variable {view : StreamState} {event : StreamEvent}

theorem handleEvent_seen (seen : event.identity ∈ view.seenEvents) :
    view.handleEvent event = view := if_pos seen

theorem handleEvent_new (new : event.identity ∉ view.seenEvents) :
    view.handleEvent event =
      { view with
        seenEvents := view.seenEvents ++ [event.identity]
        events := view.events ++ [event] }.apply event.body := if_neg new

theorem apply_seenEvents (body : EventBody) : (view.apply body).seenEvents = view.seenEvents := by
  cases body <;> rfl

theorem apply_statusBeforeLoss (body : EventBody) :
    (view.apply body).statusBeforeLoss = view.statusBeforeLoss := by
  cases body <;> rfl

theorem mem_handleEvent_seenEvents (identity : String) :
    identity ∈ (view.handleEvent event).seenEvents ↔
      identity ∈ view.seenEvents ∨ identity = event.identity := by
  by_cases seen : event.identity ∈ view.seenEvents
  · rw [handleEvent_seen seen]
    constructor
    · exact .inl
    · rintro (before | same)
      · exact before
      · rw [same]
        exact seen
  · rw [handleEvent_new seen, apply_seenEvents]
    simp

theorem handleEvent_statusBeforeLoss :
    (view.handleEvent event).statusBeforeLoss = view.statusBeforeLoss := by
  by_cases seen : event.identity ∈ view.seenEvents
  · rw [handleEvent_seen seen]
  · rw [handleEvent_new seen, apply_statusBeforeLoss]

theorem handleEvent_quiet (quiet : event.body.setsStatus = false) :
    (view.handleEvent event).workflowStatus = view.workflowStatus ∧
      (view.handleEvent event).error = view.error := by
  by_cases seen : event.identity ∈ view.seenEvents
  · rw [handleEvent_seen seen]
    exact ⟨rfl, rfl⟩
  · rw [handleEvent_new seen]
    cases body : event.body <;> rw [body] at quiet <;>
      first | exact ⟨rfl, rfl⟩ | cases quiet

end StreamState

structure FoldsLike (left right : StreamState) : Prop where
  stepStates : left.stepStates = right.stepStates
  events : left.events = right.events
  evaluation : left.evaluation = right.evaluation
  seenEvents : left.seenEvents = right.seenEvents

theorem FoldsLike.handleEvent {left right : StreamState} (like : FoldsLike left right)
    (event : StreamEvent) : FoldsLike (left.handleEvent event) (right.handleEvent event) := by
  by_cases seen : event.identity ∈ left.seenEvents
  · rw [handleEvent_seen seen, handleEvent_seen (like.seenEvents ▸ seen)]
    exact like
  · rw [handleEvent_new seen, handleEvent_new (like.seenEvents ▸ seen)]
    obtain ⟨stepStates, events, evaluation, seenEvents⟩ := like
    cases event.body <;>
      constructor <;>
      simp only [apply, setStep, stepStates, events, evaluation, seenEvents]

/-! ### The uninterrupted client -/

theorem received_concat (log : List StreamEvent) (event : StreamEvent) :
    received (log ++ [event]) = (received log).handleEvent event := by
  rw [received, foldl_append]
  rfl

theorem mem_received_seenEvents (log : List StreamEvent) (identity : String) :
    identity ∈ (received log).seenEvents ↔ identity ∈ log.map StreamEvent.identity := by
  induction log using List.reverseRecOn with
  | nil => exact Iff.rfl
  | append_singleton log event ih =>
      rw [received_concat, mem_handleEvent_seenEvents, ih]
      simp

/-! ### What a log shows at each phase -/

theorem phaseAfter_append (phase : RunPhase) (first second : List StreamEvent) :
    phaseAfter phase (first ++ second) =
      (phaseAfter phase first).bind fun later => phaseAfter later second := by
  induction first generalizing phase with
  | nil => rfl
  | cons head rest ih =>
      simp only [cons_append, phaseAfter, Option.bind_assoc]
      congr 1
      funext later
      exact ih later

theorem phaseAfter_singleton (phase : RunPhase) (event : StreamEvent) :
    phaseAfter phase [event] = phase.advance event.body.type event.body.evaluationEnabled := by
  simp only [phaseAfter, Option.bind_fun_some]

namespace RunPhase

def past : RunPhase → EventType → Bool
  | .submitted, _ => false
  | .executing, type => type.ofStep || type = .workflowStart
  | .ended _, type => type.ofStep || type = .workflowStart || type = .workflowEnd
  | .evaluating, type =>
      type.ofStep || type = .workflowStart || type = .workflowEnd || type = .evaluationStart
  | .evaluationFailed, type => type ≠ .evaluationComplete
  | .evaluated, type => type ≠ .error
  | .failed, _ => true

/-- The steps of `advance`, by what they are for. -/
inductive Moves : RunPhase → EventType → RunPhase → Prop where
  | starts : Moves .submitted .workflowStart .executing
  | steps {type : EventType} (ofStep : type.ofStep = true) : Moves .executing type .executing
  | ends (evaluationEnabled : Bool) : Moves .executing .workflowEnd (.ended evaluationEnabled)
  | evaluates : Moves (.ended true) .evaluationStart .evaluating
  | scores : Moves .evaluating .evaluationComplete .evaluated
  | unscored : Moves .evaluating .error .evaluationFailed
  | fails (phase : RunPhase) : Moves phase .error .failed

theorem advance_moves {phase later : RunPhase} {type : EventType} {evaluationEnabled : Bool}
    (advanced : phase.advance type evaluationEnabled = some later) : Moves phase type later := by
  cases phase with
  | submitted | evaluating | evaluationFailed | evaluated | failed =>
      cases type <;> cases advanced <;> constructor
  | executing =>
      cases type <;> cases advanced <;> first | exact .steps rfl | constructor
  | ended enabled => cases enabled <;> cases type <;> cases advanced <;> constructor

theorem Moves.past {phase later : RunPhase} {type : EventType} (move : Moves phase type later) :
    later.past type = true ∧ ∀ earlier, phase.past earlier = true → later.past earlier = true := by
  cases move with
  | steps ofStep =>
      constructor
      · simp only [RunPhase.past, ofStep, Bool.true_or]
      · exact fun _ known => known
  | fails => exact ⟨rfl, fun _ _ => rfl⟩
  | starts | ends | evaluates | scores | unscored =>
      constructor
      · rfl
      · intro earlier known
        cases earlier <;> first | rfl | cases known

end RunPhase

def RunPhase.Status (log : List StreamEvent) (status : LiveStatus) : RunPhase → Prop
  | .submitted => status = .connecting
  | .executing => status = .running
  | .ended _ => ∀ event ∈ log, ∀ rawStatus evaluationEnabled,
      event.body = .workflowEnd rawStatus evaluationEnabled →
        status = normaliseWorkflowTerminalStatus rawStatus
  | .evaluating => status = .evaluating
  | .evaluated => status = .completed
  | .evaluationFailed | .failed => status = .error

/-- What the uninterrupted client shows of a log that ends in a phase. -/
structure PhaseShows (phase : RunPhase) (log : List StreamEvent) : Prop where
  past : ∀ event ∈ log, phase.past event.body.type = true
  error : phase ≠ .evaluationFailed → phase ≠ .failed → (received log).error = none
  status : phase.Status log (received log).workflowStatus

theorem PhaseShows.concat {phase later : RunPhase} {log : List StreamEvent} {event : StreamEvent}
    (shows' : PhaseShows phase log)
    (move : phase.Moves event.body.type later)
    (identified : ∀ earlier ∈ log, event.identity = earlier.identity → event.body = earlier.body) :
    PhaseShows later (log ++ [event]) := by
  have past : ∀ earlier ∈ log ++ [event], later.past earlier.body.type = true := by
    intro earlier member
    have kept := move.past
    rcases mem_append.mp member with before | last
    · exact kept.2 _ (shows'.past earlier before)
    · rw [mem_singleton.mp last]
      exact kept.1
  -- A type that the phase does not know is new.
  have new : phase.past event.body.type = false → event.identity ∉ (received log).seenEvents := by
    intro unknown seen
    obtain ⟨earlier, member, same⟩ := mem_map.mp
      ((mem_received_seenEvents log event.identity).mp seen)
    have known := shows'.past earlier member
    rw [← identified earlier member same.symm, unknown] at known
    cases known
  have fresh : phase.past event.body.type = false →
      received (log ++ [event]) =
        ({ received log with
          seenEvents := (received log).seenEvents ++ [event.identity]
          events := (received log).events ++ [event] } : StreamState).apply event.body := by
    intro unknown
    rw [received_concat, handleEvent_new (new unknown)]
  obtain ⟨identity, body⟩ := event
  generalize same : body.type = type at move
  cases move with
  | starts | evaluates =>
      cases body <;> cases same
      refine ⟨past, fun _ _ => ?_, ?_⟩
      · rw [fresh rfl]
        exact shows'.error nofun nofun
      · rw [fresh rfl]
        exact rfl
  | steps ofStep =>
      have quiet : body.setsStatus = false := by
        cases body <;> first | rfl | (cases same; cases ofStep)
      have unchanged :
          (received (log ++ [⟨identity, body⟩])).workflowStatus = (received log).workflowStatus ∧
            (received (log ++ [⟨identity, body⟩])).error = (received log).error := by
        rw [received_concat]
        exact handleEvent_quiet quiet
      refine ⟨past, fun _ _ => ?_, ?_⟩
      · rw [unchanged.2]
        exact shows'.error nofun nofun
      · rw [unchanged.1]
        exact shows'.status
  | ends enabled =>
      cases body <;> cases same
      refine ⟨past, fun _ _ => ?_, ?_⟩
      · rw [fresh rfl]
        exact shows'.error nofun nofun
      · rw [fresh rfl]
        intro event member rawStatus evaluationEnabled ended
        rcases mem_append.mp member with before | last
        · -- No `workflow_end` comes before it.
          have known := shows'.past event before
          rw [ended] at known
          cases known
        · rw [mem_singleton.mp last] at ended
          cases ended
          rfl
  | scores =>
      cases body <;> cases same
      refine ⟨past, fun _ _ => ?_, ?_⟩
      · rw [fresh rfl]
        exact shows'.error nofun nofun
      · rw [fresh rfl]
        have evaluating : (received log).workflowStatus = .evaluating := shows'.status
        simp only [apply, evaluating]
        exact rfl
  | unscored =>
      cases body <;> cases same
      refine ⟨past, fun other => absurd rfl other, ?_⟩
      rw [fresh rfl]
      exact rfl
  | fails =>
      cases body <;> cases same
      refine ⟨past, fun _ other => absurd rfl other, ?_⟩
      cases known : phase.past .error with
      | false =>
          rw [fresh known]
          exact rfl
      | true =>
          -- The same error may have come before.
          have shown : (received log).workflowStatus = .error := by
            cases phase with
            | evaluationFailed | failed => exact shows'.status
            | submitted | executing | ended | evaluating | evaluated => cases known
          by_cases seen : identity ∈ (received log).seenEvents
          · rw [received_concat, handleEvent_seen seen]
            exact shown
          · rw [received_concat, handleEvent_new seen]
            exact rfl

theorem PhaseShows.of_emitted {log : List StreamEvent} {phase : RunPhase}
    (emitted : phaseAfter .submitted log = some phase)
    (identified : ∀ first ∈ log, ∀ second ∈ log,
      first.identity = second.identity → first.body = second.body) : PhaseShows phase log := by
  induction log using List.reverseRecOn generalizing phase with
  | nil =>
      cases emitted
      constructor
      · intro event member
        cases member
      · exact fun _ _ => rfl
      · exact (rfl : (received []).workflowStatus = .connecting)
  | append_singleton log event ih =>
      rw [phaseAfter_append] at emitted
      obtain ⟨before, reached, advanced⟩ := Option.bind_eq_some_iff.mp emitted
      rw [phaseAfter_singleton] at advanced
      have earlier := ih reached fun first firstIn second secondIn =>
        identified first (mem_append_left _ firstIn) second (mem_append_left _ secondIn)
      apply earlier.concat (RunPhase.advance_moves advanced)
      intro other member
      exact identified event (mem_append_right _ mem_cons_self) other
        (mem_append_left _ member)

namespace EmittedLog

theorem split (log : EmittedLog) {before after : List StreamEvent} {event : StreamEvent}
    (parts : log.events = before ++ event :: after) :
    ∃ phase later, PhaseShows phase before ∧ phase.Moves event.body.type later := by
  have emitted := log.emitted
  rw [parts, phaseAfter_append] at emitted
  obtain ⟨phase, reached, rest⟩ := Option.bind_eq_some_iff.mp emitted
  obtain ⟨later, advanced, -⟩ := Option.bind_eq_some_iff.mp rest
  refine ⟨phase, later, ?_, RunPhase.advance_moves advanced⟩
  apply PhaseShows.of_emitted reached
  intro first firstIn second secondIn
  apply log.identified first _ second
  · rw [parts]
    exact mem_append_left _ secondIn
  · rw [parts]
    exact mem_append_left _ firstIn

theorem shows' (log : EmittedLog) : PhaseShows log.phase log.events :=
  PhaseShows.of_emitted log.emitted log.identified

end EmittedLog

end AgenticRuntime
