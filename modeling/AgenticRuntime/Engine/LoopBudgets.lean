/-
The two budgets of the retry loop of `StepExecutor.execute`.

`attempt` counts what the error retries use, `loop_iteration` what the refinement rounds
use. A round gives back its attempt, so neither counter sees what the other one counts.
The loop ends because what is left of the two budgets comes before the stages of one
attempt in a lexicographic order.
-/

import AgenticRuntime.Engine.StepGate
import AgenticRuntime.Transition

namespace AgenticRuntime

namespace StepExecutor

/-! ### One call of `execute` -/

/-- `progress` is `none` until the call has been entered. -/
structure Execution where
  progress : Option (Progress Point) := none
  ctx : Context
  bodies : Nat := 0
  errorRetries : Nat := 0
  refinements : Nat := 0

def Progress.startsBody : Progress Point → Bool
  | .awaiting (.attempting .body _) => true
  | _ => false

def Point.isBackoff : Point → Bool
  | .backoff _ => true
  | _ => false

/-- A body started from within an attempt, or behind refreshed inputs, is a refinement round. -/
def Point.isRefinement : Point → Bool
  | .attempting _ _ => true
  | .preparing _ refresh _ => refresh
  | _ => false

def Execution.record (execution : Execution) (point : Point) (turn : Turn) : Execution :=
  let starts := Progress.startsBody turn.1
  { progress := some turn.1
    ctx := turn.2
    bodies := execution.bodies + if starts then 1 else 0
    errorRetries := execution.errorRetries + if starts && point.isBackoff then 1 else 0
    refinements := execution.refinements + if starts && point.isRefinement then 1 else 0 }

def Execution.next (definition : StepDefinition) (execution : Execution) (input : Input) :
    Option Execution :=
  match execution.progress with
  | none =>
      let turn := enter definition execution.ctx input
      some { execution with progress := some turn.1, ctx := turn.2 }
  | some (.awaiting point) =>
      (resume definition point execution.ctx input).map (execution.record point)
  | some (.finished _) => none

/-! ### Budgets -/

def Frame.iteration (frame : Frame) : Nat := frame.loopIteration.getD 1

structure Constant (definition : StepDefinition) : Prop where
  retries : 0 ≤ definition.maxRetries
  loop : definition.loopUntil = true → definition.loopMaxExpr = none ∧ 1 ≤ definition.loopMax

def loopBudget (definition : StepDefinition) : Nat :=
  if definition.loopUntil then definition.loopMax.toNat else 1

variable {definition : StepDefinition}

theorem Constant.loopBudget_pos (constant : Constant definition) :
    1 ≤ loopBudget definition := by
  unfold loopBudget
  split
  · rename_i loops
    have bound := (constant.loop loops).2
    omega
  · exact Nat.le_refl 1

theorem shouldLoopAgain_iff (constant : Constant definition) (frame : Frame) (input : Input) :
    shouldLoopAgain definition frame input = .value true ↔
      definition.loopUntil = true ∧ frame.iteration < loopBudget definition ∧
        input.satisfied = .value false := by
  unfold shouldLoopAgain
  by_cases loops : definition.loopUntil = true
  · obtain ⟨unresolved, positive⟩ := constant.loop loops
    have bound : resolveLoopMax definition input.loopMax = definition.loopMax := by
      unfold resolveLoopMax
      rw [unresolved]
      have nonzero : definition.loopMax ≠ 0 := by omega
      simp only [nonzero, if_false]
      omega
    have budget : loopBudget definition = definition.loopMax.toNat := if_pos loops
    rw [bound, budget]
    by_cases within : ((frame.loopIteration.getD 1 : Nat) : Int) < definition.loopMax
    · have inBudget : frame.iteration < definition.loopMax.toNat := by
        unfold Frame.iteration
        omega
      rw [if_pos ⟨loops, within⟩]
      cases input.satisfied with
      | value satisfied =>
          cases satisfied with
          | true => simp [loops]
          | false => simp [loops, inBudget]
      | raises error => simp
    · have spent : ¬ frame.iteration < definition.loopMax.toNat := by
        unfold Frame.iteration
        omega
      rw [if_neg fun both => within both.2]
      simp [spent]
  · rw [if_neg fun both => loops both.1]
    simp [loops]

/-! ### What one turn does -/

/-- The stage of an attempt, counted down to its end, and how much of the stage is left. -/
def Stage.rank : Stage → Nat × Nat
  | .body => (9, 0)
  | .mapping left => (8, left)
  | .storing => (7, 0)
  | .postHook left => (6, left)
  | .verifying => (5, 0)
  | .failingVerification | .markingComplete => (4, 0)

def Point.rank : Point → Nat × Nat
  | .markingStart _ => (12, 0)
  | .preHook left _ => (11, left)
  | .preparing left _ _ => (10, left)
  | .attempting stage _ => stage.rank
  | .backoff _ => (3, 0)
  | .rejecting left _ _ | .errorHook left _ => (2, left)
  | .markingFailed _ => (1, 0)

def Point.Failing : Point → Prop
  | .rejecting _ _ _ | .errorHook _ _ | .markingFailed _ => True
  | _ => False

def Point.Opening : Point → Prop
  | .markingStart _ | .preHook _ _ | .preparing _ false _ => True
  | _ => False

def RankLt (left right : Nat × Nat) : Prop := Prod.Lex (· < ·) (· < ·) left right

structure SameCounts (left right : Frame) : Prop where
  attempt : left.attempt = right.attempt
  iteration : left.iteration = right.iteration

theorem SameCounts.refl (frame : Frame) : SameCounts frame frame := ⟨rfl, rfl⟩

inductive Moves (definition : StepDefinition) : Point → Point → Prop
  | opens {point later : Point} (before : point.Opening) (after : later.Opening)
      (same : SameCounts later.frame point.frame) (lower : RankLt later.rank point.rank) :
      Moves definition point later
  | begins {point : Point} {frame : Frame} (before : point.Opening)
      (attempt : frame.attempt = point.frame.attempt + 1)
      (iteration : frame.iteration = point.frame.iteration) :
      Moves definition point (.attempting .body frame)
  | goesOn {stage later : Stage} {frame kept : Frame} (same : SameCounts kept frame)
      (lower : RankLt later.rank stage.rank) (inside : later ≠ .body) :
      Moves definition (.attempting stage frame) (.attempting later kept)
  | backsOff {stage : Stage} {frame kept : Frame} (same : SameCounts kept frame)
      (within : (frame.attempt : Int) ≤ definition.maxRetries) :
      Moves definition (.attempting stage frame) (.backoff kept)
  | retries {frame again : Frame} (attempt : again.attempt = frame.attempt + 1)
      (iteration : again.iteration = frame.iteration)
      (within : (frame.attempt : Int) ≤ definition.maxRetries) :
      Moves definition (.backoff frame) (.attempting .body again)
  | refreshes {stage : Stage} {frame again : Frame} {left : Nat}
      (attempt : again.attempt = frame.attempt) (iteration : again.iteration = frame.iteration + 1)
      (within : frame.iteration < loopBudget definition) :
      Moves definition (.attempting stage frame) (.preparing left true again)
  | prepares {left : Nat} {frame : Frame} :
      Moves definition (.preparing (left + 1) true frame) (.preparing left true frame)
  | refines {left : Nat} {frame again : Frame} (attempt : again.attempt = frame.attempt - 1 + 1)
      (iteration : again.iteration = frame.iteration) :
      Moves definition (.preparing left true frame) (.attempting .body again)
  | repeats {stage : Stage} {frame again : Frame} (attempt : again.attempt = frame.attempt - 1 + 1)
      (iteration : again.iteration = frame.iteration + 1)
      (within : frame.iteration < loopBudget definition) :
      Moves definition (.attempting stage frame) (.attempting .body again)
  | fails {point later : Point} (failing : later.Failing) (lower : RankLt later.rank point.rank) :
      Moves definition point later

def Turns (definition : StepDefinition) (point : Point) (turn : Turn) : Prop :=
  match turn.1 with
  | .awaiting later => Moves definition point later
  | .finished _ => True

theorem rankLt_of_stage {left right : Nat × Nat} (lower : left.1 < right.1) : RankLt left right := by
  obtain ⟨leftStage, leftRest⟩ := left
  obtain ⟨rightStage, rightRest⟩ := right
  exact Prod.Lex.left _ _ lower

theorem rankLt_of_left {stage left : Nat} : RankLt (stage, left) (stage, left + 1) :=
  Prod.Lex.right _ (Nat.lt_succ_self left)

theorem Stage.rank_ge (stage : Stage) : 4 ≤ stage.rank.1 := by
  cases stage <;> simp [Stage.rank]

section

variable {definition : StepDefinition} {point : Point} {ctx : Context} {input : Input}

theorem turns_finished {outcome : TaskOutcome} : Turns definition point (.finished outcome, ctx) :=
  trivial

theorem turns_markFailed {frame : Frame} (early : 1 < point.rank.1) :
    Turns definition point (markFailed definition frame ctx) :=
  Moves.fails trivial (rankLt_of_stage early)

theorem turns_failInputContract {frame : Frame} {error : StepError} (early : 2 < point.rank.1) :
    Turns definition point (failInputContract definition frame ctx error) := by
  unfold failInputContract
  cases definition.errorHooks with
  | zero => exact turns_markFailed (by omega)
  | succ left => exact Moves.fails trivial (rankLt_of_stage early)

theorem turns_failPreparation {frame : Frame} {raised : Raised} (early : 2 < point.rank.1) :
    Turns definition point (failPreparation definition frame ctx raised) := by
  unfold failPreparation
  cases raised with
  | cancelled | timeout message => exact turns_finished
  | error failure =>
      by_cases contract : failure.artifactContract = true
      · simp only [contract, if_true]
        exact turns_failInputContract early
      · simp only [contract]
        exact turns_finished

theorem turns_startAttempt {frame : Frame}
    (moves : (frame.attempt : Int) ≤ definition.maxRetries →
      Moves definition point (.attempting .body { frame with attempt := frame.attempt + 1 })) :
    Turns definition point (startAttempt definition frame ctx) := by
  unfold startAttempt
  by_cases within : (frame.attempt : Int) ≤ definition.maxRetries
  · rw [if_pos within]
    exact moves within
  · rw [if_neg within]
    exact turns_finished

/-! #### Before the first attempt -/

theorem turns_prepared_first {frame : Frame} (before : point.Opening)
    (same : SameCounts frame point.frame) :
    Turns definition point (prepared definition false frame ctx) := by
  apply turns_startAttempt
  intro within
  apply Moves.begins before
  · exact congrArg (· + 1) same.attempt
  · exact same.iteration

theorem turns_prepareInputs_first {frame : Frame} (before : point.Opening)
    (early : 10 < point.rank.1) (same : SameCounts frame point.frame) :
    Turns definition point (prepareInputs definition false frame ctx input) := by
  unfold prepareInputs
  cases input.inputs with
  | value inputs =>
      cases inputs with
      | zero => exact turns_prepared_first before same
      | succ left => exact Moves.opens before trivial same (rankLt_of_stage early)
  | raises error => exact turns_failPreparation (by omega)

/-! #### Within an attempt -/

variable {stage : Stage} {frame kept : Frame}

theorem turns_handleException {error : StepError} (same : SameCounts kept frame) :
    Turns definition (.attempting stage frame) (handleException definition kept ctx error) := by
  have early := stage.rank_ge
  unfold handleException
  by_cases again : (kept.attempt : Int) ≤ definition.maxRetries ∧ error.retryable = true
  · rw [if_pos again]
    apply Moves.backsOff
    · exact ⟨same.attempt, same.iteration⟩
    · rw [← same.attempt]
      exact again.1
  · rw [if_neg again]
    cases definition.errorHooks with
    | zero => exact turns_markFailed (Nat.lt_of_lt_of_le (by omega) early)
    | succ left =>
        have lower : 2 < 4 := by decide
        exact Moves.fails trivial (rankLt_of_stage (Nat.lt_of_lt_of_le lower early))

theorem turns_handleRaised {raised : Raised} (same : SameCounts kept frame) :
    Turns definition (.attempting stage frame) (handleRaised definition kept ctx raised) := by
  have early : 1 < (Point.attempting stage frame).rank.1 :=
    Nat.lt_of_lt_of_le (by decide) stage.rank_ge
  cases raised with
  | cancelled | timeout message => exact turns_markFailed early
  | error failure => exact turns_handleException same

theorem turns_prepareInputs_again {again : Frame} (attempt : again.attempt = frame.attempt)
    (iteration : again.iteration = frame.iteration + 1)
    (within : frame.iteration < loopBudget definition) :
    Turns definition (.attempting stage frame) (prepareInputs definition true again ctx input) := by
  have early : 2 < (Point.attempting stage frame).rank.1 :=
    Nat.lt_of_lt_of_le (by decide) stage.rank_ge
  unfold prepareInputs
  cases input.inputs with
  | value inputs =>
      cases inputs with
      | zero =>
          apply turns_startAttempt
          intro _
          apply Moves.repeats
          · simp only [if_true, attempt]
          · exact iteration
          · exact within
      | succ left => exact Moves.refreshes attempt iteration within
  | raises error => exact turns_failPreparation early

variable (constant : Constant definition)

include constant

theorem turns_settleAttempt (same : SameCounts kept frame) (early : 4 < stage.rank.1) :
    Turns definition (.attempting stage frame) (settleAttempt definition kept ctx input) := by
  unfold settleAttempt
  cases decided : shouldLoopAgain definition kept input with
  | raises error => exact turns_handleException same
  | value again =>
      cases again with
      | true =>
          have within := ((shouldLoopAgain_iff constant kept input).mp decided).2.1
          apply turns_prepareInputs_again
          · exact same.attempt
          · exact congrArg (· + 1) same.iteration
          · rw [← same.iteration]
            exact within
      | false =>
          refine Moves.goesOn ⟨same.attempt, ?_⟩ (rankLt_of_stage early) nofun
          rw [← same.iteration]
          cases definition.loopUntil with
          | true => rfl
          | false => rfl

theorem turns_runVerificationGate (same : SameCounts kept frame) (early : 5 < stage.rank.1) :
    Turns definition (.attempting stage frame) (runVerificationGate definition kept ctx input) := by
  unfold runVerificationGate
  cases definition.verify with
  | none => exact turns_settleAttempt constant same (by omega)
  | some strategy => exact Moves.goesOn same (rankLt_of_stage early) nofun

theorem turns_verified (same : SameCounts kept frame) (early : 4 < stage.rank.1) :
    Turns definition (.attempting stage frame) (verified definition kept ctx input) := by
  unfold verified
  cases input.failing with
  | none => exact turns_settleAttempt constant same early
  | some checks =>
      by_cases blocks : definition.verify = some .block
      · simp only [blocks, if_true]
        exact Moves.goesOn ⟨same.attempt, same.iteration⟩ (rankLt_of_stage early) nofun
      · simp only [blocks, if_false]
        exact turns_settleAttempt constant same early

theorem turns_resumeStage : Turns definition (.attempting stage frame)
    (resumeStage definition frame ctx input stage) := by
  have same := SameCounts.refl frame
  cases stage with
  | body =>
      change Turns definition _ (handleSuccess definition frame ctx input)
      unfold handleSuccess
      cases input.outputs with
      | raises error => exact turns_handleException same
      | value outputs =>
          cases outputs with
          | zero => exact Moves.goesOn ⟨rfl, rfl⟩ (rankLt_of_stage (by decide)) nofun
          | succ left => exact Moves.goesOn ⟨rfl, rfl⟩ (rankLt_of_stage (by simp [Stage.rank])) nofun
  | mapping left =>
      cases left with
      | zero => exact Moves.goesOn same (rankLt_of_stage (by decide)) nofun
      | succ left => exact Moves.goesOn same rankLt_of_left nofun
  | storing =>
      change Turns definition _ (runPostHooks definition frame ctx input)
      unfold runPostHooks
      cases definition.postHooks with
      | zero => exact turns_runVerificationGate constant same (by decide)
      | succ left => exact Moves.goesOn same (rankLt_of_stage (by simp [Stage.rank])) nofun
  | postHook left =>
      cases left with
      | zero => exact turns_runVerificationGate constant same (by decide)
      | succ left => exact Moves.goesOn same rankLt_of_left nofun
  | verifying => exact turns_verified constant same (by decide)
  | failingVerification | markingComplete => exact turns_finished

omit constant in
theorem turns_preparing_returned {left : Nat} {refresh : Bool} {frame : Frame} :
    Turns definition (.preparing left refresh frame)
      (resumeReturned definition ctx input (.preparing left refresh frame)) := by
  cases refresh with
  | false =>
      cases left with
      | zero => exact turns_prepared_first trivial (SameCounts.refl frame)
      | succ left => exact Moves.opens trivial trivial (SameCounts.refl frame) rankLt_of_left
  | true =>
      cases left with
      | zero =>
          apply turns_startAttempt
          intro _
          exact Moves.refines rfl rfl
      | succ left => exact Moves.prepares

theorem turns_resumeReturned (point : Point) :
    Turns definition point (resumeReturned definition ctx input point) := by
  cases point with
  | markingStart frame =>
      change Turns definition _ (runPreHooks definition frame ctx input)
      unfold runPreHooks
      cases definition.preHooks with
      | zero => exact turns_prepareInputs_first trivial (by simp [Point.rank]) (SameCounts.refl frame)
      | succ left =>
          exact Moves.opens trivial trivial (SameCounts.refl frame)
            (rankLt_of_stage (by simp [Point.rank]))
  | preHook left frame =>
      cases left with
      | zero => exact turns_prepareInputs_first trivial (by simp [Point.rank]) (SameCounts.refl frame)
      | succ left => exact Moves.opens trivial trivial (SameCounts.refl frame) rankLt_of_left
  | preparing left refresh frame => exact turns_preparing_returned
  | rejecting left error frame | errorHook left frame =>
      cases left with
      | zero => exact turns_markFailed (by simp [Point.rank])
      | succ left => exact Moves.fails trivial rankLt_of_left
  | attempting stage frame => exact turns_resumeStage constant
  | backoff frame =>
      apply turns_startAttempt
      intro within
      exact Moves.retries rfl rfl within
  | markingFailed frame => exact turns_finished

theorem turns_resumeRaised (point : Point) (raised : Raised) :
    Turns definition point (resumeRaised definition ctx input raised point) := by
  cases point with
  | markingStart frame | backoff frame | markingFailed frame => exact turns_finished
  | preHook left frame =>
      by_cases passes : raised = .cancelled
      · simp only [resumeRaised, passes, if_true]
        exact turns_finished
      · simp only [resumeRaised, passes, if_false]
        exact turns_markFailed (by simp [Point.rank])
  | preparing left refresh frame => exact turns_failPreparation (by simp [Point.rank])
  | rejecting left error frame | errorHook left frame =>
      by_cases passes : raised = .cancelled
      · simp only [resumeRaised, passes, if_true]
        exact turns_finished
      · simp only [resumeRaised, passes, if_false]
        exact turns_resumeReturned constant _
  | attempting stage frame => exact turns_handleRaised (SameCounts.refl frame)

theorem turns_resume {turn : Turn} (taken : resume definition point ctx input = some turn) :
    Turns definition point turn := by
  unfold resume at taken
  cases signal : input.signal with
  | returned =>
      simp only [signal, Option.some.injEq] at taken
      rw [← taken]
      exact turns_resumeReturned constant point
  | raised raised =>
      simp only [signal, Option.ite_none_left_eq_some, Option.some.injEq] at taken
      rw [← taken.2]
      exact turns_resumeRaised constant point raised
  | waits =>
      simp only [signal] at taken
      cases taken

end

/-! ### The loop ends -/

def Point.remaining (definition : StepDefinition) : Point → Nat
  | .markingStart frame | .preHook _ frame | .preparing _ _ frame | .attempting _ frame
  | .backoff frame =>
      (definition.maxRetries.toNat + 1 - frame.attempt) + (loopBudget definition - frame.iteration)
  | .rejecting _ _ _ | .errorHook _ _ | .markingFailed _ => 0

def MeasureLt : Nat × Nat × Nat → Nat × Nat × Nat → Prop := Prod.Lex (· < ·) RankLt

theorem measureLt_wellFounded : WellFounded MeasureLt :=
  WellFounded.prod_lex Nat.lt_wfRel.wf (WellFounded.prod_lex Nat.lt_wfRel.wf Nat.lt_wfRel.wf)

def Point.measure (definition : StepDefinition) (point : Point) : Nat × Nat × Nat :=
  (point.remaining definition, point.rank)

theorem measureLt_of_le {remaining more : Nat} {rank higher : Nat × Nat}
    (within : remaining ≤ more) (lower : RankLt rank higher) :
    MeasureLt (remaining, rank) (more, higher) := by
  rcases Nat.lt_or_eq_of_le within with less | same
  · exact Prod.Lex.left _ _ less
  · subst same
    exact Prod.Lex.right _ lower

theorem Point.remaining_of_opening {point : Point} (opening : point.Opening) :
    point.remaining definition =
      (definition.maxRetries.toNat + 1 - point.frame.attempt) +
        (loopBudget definition - point.frame.iteration) := by
  cases point with
  | markingStart frame => rfl
  | preHook left frame => rfl
  | preparing left refresh frame => rfl
  | _ => cases opening

theorem Point.rank_of_opening {point : Point} (opening : point.Opening) : 9 < point.rank.1 := by
  cases point with
  | markingStart frame => exact Nat.lt_add_of_pos_right (Nat.succ_pos 2)
  | preHook left frame => exact Nat.lt_add_of_pos_right (Nat.succ_pos 1)
  | preparing left refresh frame => exact Nat.lt_succ_self 9
  | _ => cases opening

theorem Moves.lowers {point later : Point} (moves : Moves definition point later) :
    MeasureLt (later.measure definition) (point.measure definition) := by
  cases moves with
  | opens before after same lower =>
      apply measureLt_of_le
      · rw [Point.remaining_of_opening before, Point.remaining_of_opening after, same.attempt,
          same.iteration]
      · exact lower
  | begins before attempt iteration =>
      apply measureLt_of_le
      · rw [Point.remaining_of_opening before]
        simp only [Point.remaining, attempt, iteration]
        omega
      · exact rankLt_of_stage (Point.rank_of_opening before)
  | goesOn same lower inside =>
      apply measureLt_of_le
      · simp only [Point.remaining, same.attempt, same.iteration, Nat.le_refl]
      · exact lower
  | backsOff same within =>
      apply measureLt_of_le
      · simp only [Point.remaining, same.attempt, same.iteration, Nat.le_refl]
      · exact rankLt_of_stage (Nat.lt_of_lt_of_le (Nat.lt_succ_self 3) (Stage.rank_ge _))
  | retries attempt iteration within | refreshes attempt iteration within
  | repeats attempt iteration within =>
      apply Prod.Lex.left
      simp only [Point.remaining, attempt, iteration]
      omega
  | prepares => exact measureLt_of_le (Nat.le_refl _) rankLt_of_left
  | refines attempt iteration =>
      apply measureLt_of_le
      · simp only [Point.remaining, attempt, iteration]
        omega
      · exact rankLt_of_stage (Nat.lt_succ_self 9)
  | fails failing lower =>
      apply measureLt_of_le
      · cases later with
        | rejecting left error frame | errorHook left frame | markingFailed frame =>
            exact Nat.zero_le _
        | _ => cases failing
      · exact lower

/-- `after` is one turn of the call behind `before`. -/
def Follows (definition : StepDefinition) (after before : Execution) : Prop :=
  ∃ input, before.next definition input = some after

section

variable {definition : StepDefinition} (constant : Constant definition)

include constant

theorem terminates_at (point : Point) (execution : Execution)
    (here : execution.progress = some (.awaiting point)) :
    Acc (Follows definition) execution := by
  induction shape : point.measure definition using measureLt_wellFounded.induction
    generalizing point execution with
  | _ measure ih =>
      constructor
      intro after follows
      obtain ⟨input, taken⟩ := follows
      simp only [Execution.next, here] at taken
      obtain ⟨turn, resumed, same⟩ := Option.map_eq_some_iff.mp taken
      have turns := turns_resume constant resumed
      unfold Turns at turns
      cases progress : turn.1 with
      | awaiting later =>
          rw [progress] at turns
          apply ih _ (shape ▸ turns.lowers) later after
          · rw [← same]
            exact congrArg some progress
          · rfl
      | finished outcome =>
          constructor
          intro further impossible
          obtain ⟨other, moved⟩ := impossible
          have ended : after.progress = some (.finished outcome) := by
            rw [← same]
            exact congrArg some progress
          simp only [Execution.next, ended] at moved
          cases moved

theorem terminates (execution : Execution) : Acc (Follows definition) execution := by
  constructor
  intro after follows
  obtain ⟨input, taken⟩ := follows
  cases progress : after.progress with
  | none =>
      exfalso
      unfold Execution.next at taken
      split at taken
      · cases taken
        cases progress
      · obtain ⟨turn, resumed, same⟩ := Option.map_eq_some_iff.mp taken
        rw [← same] at progress
        cases progress
      · cases taken
  | some reached =>
      cases reached with
      | awaiting point => exact terminates_at constant point after progress
      | finished outcome =>
          constructor
          intro further impossible
          obtain ⟨other, moved⟩ := impossible
          simp only [Execution.next, progress] at moved
          cases moved

end

/-! ### What has been used -/

/-- The counters of a frame say what the call has used, with `rounds` rounds decided. -/
structure Counted (execution : Execution) (frame : Frame) (rounds : Nat) : Prop where
  attempt : frame.attempt = execution.errorRetries + 1
  iteration : frame.iteration = rounds + 1
  bodies : execution.bodies = 1 + execution.errorRetries + execution.refinements

structure Unused (execution : Execution) (frame : Frame) : Prop where
  attempt : frame.attempt = 0
  iteration : frame.iteration = 1
  bodies : execution.bodies = 0
  errorRetries : execution.errorRetries = 0
  refinements : execution.refinements = 0

def Accounts (definition : StepDefinition) (execution : Execution) : Point → Prop
  | .markingStart frame | .preHook _ frame | .preparing _ false frame => Unused execution frame
  | .preparing _ true frame =>
      Counted execution frame (execution.refinements + 1) ∧ frame.iteration ≤ loopBudget definition
  | .attempting _ frame => Counted execution frame execution.refinements
  | .backoff frame =>
      Counted execution frame execution.refinements ∧
        (frame.attempt : Int) ≤ definition.maxRetries
  | .rejecting _ _ _ | .errorHook _ _ | .markingFailed _ => True

structure WithinBudgets (definition : StepDefinition) (execution : Execution) : Prop where
  errorRetries : (execution.errorRetries : Int) ≤ definition.maxRetries
  refinements : execution.refinements + 1 ≤ loopBudget definition
  bodies : execution.bodies ≤ 1 + execution.errorRetries + execution.refinements

structure Kept (definition : StepDefinition) (execution : Execution) : Prop where
  within : WithinBudgets definition execution
  accounts : ∀ point, execution.progress = some (.awaiting point) →
    Accounts definition execution point

section

variable {definition : StepDefinition} {execution : Execution} {point later : Point}
  {ctx : Context}

theorem accounts_of_opening (opening : point.Opening) :
    Accounts definition execution point ↔ Unused execution point.frame := by
  cases point with
  | markingStart frame | preHook left frame => exact Iff.rfl
  | preparing left refresh frame =>
      cases refresh with
      | true => cases opening
      | false => exact Iff.rfl
  | _ => cases opening

theorem accounts_of_failing (failing : point.Failing) : Accounts definition execution point := by
  cases point with
  | rejecting left error frame => trivial
  | errorHook left frame => trivial
  | markingFailed frame => trivial
  | _ => cases failing

theorem record_quiet (quiet : Progress.startsBody (.awaiting later) = false) :
    execution.record point (.awaiting later, ctx) =
      { execution with progress := some (.awaiting later), ctx := ctx } := by
  simp only [Execution.record, quiet, Bool.false_and, Bool.false_eq_true, if_false, Nat.add_zero]

theorem quiet_of_opening (opening : later.Opening) :
    Progress.startsBody (.awaiting later) = false := by
  cases later with
  | attempting stage frame => cases opening
  | _ => rfl

theorem quiet_of_failing (failing : later.Failing) :
    Progress.startsBody (.awaiting later) = false := by
  cases later with
  | attempting stage frame => cases failing
  | _ => rfl

theorem quiet_of_stage {stage : Stage} {frame : Frame} (inside : stage ≠ .body) :
    Progress.startsBody (.awaiting (.attempting stage frame)) = false := by
  cases stage with
  | body => exact absurd rfl inside
  | _ => rfl

theorem kept_quiet (within : WithinBudgets definition execution)
    (quiet : Progress.startsBody (.awaiting later) = false)
    (accounts : Accounts definition execution later) :
    Kept definition (execution.record point (.awaiting later, ctx)) := by
  rw [record_quiet quiet]
  constructor
  · exact ⟨within.errorRetries, within.refinements, within.bodies⟩
  · intro reached here
    cases here
    cases later with
    | preparing left refresh frame =>
        cases refresh with
        | false => exact ⟨accounts.1, accounts.2, accounts.3, accounts.4, accounts.5⟩
        | true => exact ⟨⟨accounts.1.1, accounts.1.2, accounts.1.3⟩, accounts.2⟩
    | markingStart frame | preHook left frame =>
        exact ⟨accounts.1, accounts.2, accounts.3, accounts.4, accounts.5⟩
    | attempting stage frame => exact ⟨accounts.1, accounts.2, accounts.3⟩
    | backoff frame => exact ⟨⟨accounts.1.1, accounts.1.2, accounts.1.3⟩, accounts.2⟩
    | rejecting left error frame => trivial
    | errorHook left frame => trivial
    | markingFailed frame => trivial

theorem kept_body {frame : Frame} (retried refined : Nat)
    (isRetry : (if point.isBackoff then 1 else 0) = retried)
    (isRound : (if point.isRefinement then 1 else 0) = refined)
    (errorRetries : ((execution.errorRetries + retried : Nat) : Int) ≤ definition.maxRetries)
    (refinements : execution.refinements + refined + 1 ≤ loopBudget definition)
    (attempt : frame.attempt = execution.errorRetries + retried + 1)
    (iteration : frame.iteration = execution.refinements + refined + 1)
    (bodies : execution.bodies + 1 =
      1 + (execution.errorRetries + retried) + (execution.refinements + refined)) :
    Kept definition (execution.record point (.awaiting (.attempting .body frame), ctx)) := by
  have recorded : execution.record point (.awaiting (.attempting .body frame), ctx) =
      { progress := some (.awaiting (.attempting .body frame))
        ctx := ctx
        bodies := execution.bodies + 1
        errorRetries := execution.errorRetries + retried
        refinements := execution.refinements + refined } := by
    rw [← isRetry, ← isRound]
    rfl
  rw [recorded]
  constructor
  · exact ⟨errorRetries, refinements, Nat.le_of_eq bodies⟩
  · intro reached here
    cases here
    exact ⟨attempt, iteration, bodies⟩

theorem Moves.kept (moves : Moves definition point later) (positive : 1 ≤ loopBudget definition)
    (retries : 0 ≤ definition.maxRetries) (kept : WithinBudgets definition execution)
    (accounts : Accounts definition execution point) :
    Kept definition (execution.record point (.awaiting later, ctx)) := by
  cases moves with
  | opens before after same lower =>
      apply kept_quiet kept (quiet_of_opening after)
      have unused := (accounts_of_opening before).mp accounts
      apply (accounts_of_opening after).mpr
      exact ⟨same.attempt.trans unused.attempt, same.iteration.trans unused.iteration,
        unused.bodies, unused.errorRetries, unused.refinements⟩
  | begins before attempt iteration =>
      have unused := (accounts_of_opening before).mp accounts
      have notRetry : (if point.isBackoff then 1 else 0) = 0 := by
        cases point with
        | backoff frame => cases before
        | _ => rfl
      have notRound : (if point.isRefinement then 1 else 0) = 0 := by
        cases point with
        | attempting stage frame => cases before
        | preparing left refresh frame =>
            cases refresh with
            | true => cases before
            | false => rfl
        | _ => rfl
      apply kept_body 0 0 notRetry notRound
      · rw [unused.errorRetries]
        exact retries
      · rw [unused.refinements]
        exact positive
      · rw [attempt, unused.attempt, unused.errorRetries]
      · rw [iteration, unused.iteration, unused.refinements]
      · rw [unused.bodies, unused.errorRetries, unused.refinements]
  | goesOn same lower inside =>
      apply kept_quiet kept (quiet_of_stage inside)
      exact ⟨same.attempt.trans accounts.attempt, same.iteration.trans accounts.iteration,
        accounts.bodies⟩
  | backsOff same within =>
      apply kept_quiet kept rfl
      refine ⟨⟨same.attempt.trans accounts.attempt, same.iteration.trans accounts.iteration,
        accounts.bodies⟩, ?_⟩
      rw [same.attempt]
      exact within
  | retries attempt iteration within =>
      obtain ⟨counted, _⟩ := accounts
      apply kept_body 1 0 rfl rfl
      · rw [← counted.attempt]
        exact within
      · exact kept.refinements
      · rw [attempt, counted.attempt]
      · rw [iteration, counted.iteration]
      · have bodies := counted.bodies
        omega
  | refreshes attempt iteration within =>
      apply kept_quiet kept rfl
      refine ⟨⟨attempt.trans accounts.attempt, ?_, accounts.bodies⟩, ?_⟩
      · rw [iteration, accounts.iteration]
      · rw [iteration]
        exact within
  | prepares => exact kept_quiet kept rfl accounts
  | refines attempt iteration =>
      obtain ⟨counted, within⟩ := accounts
      apply kept_body 0 1 rfl rfl
      · exact kept.errorRetries
      · rw [← counted.iteration]
        exact within
      · rw [attempt, counted.attempt]
        rfl
      · rw [iteration, counted.iteration]
      · have bodies := counted.bodies
        omega
  | repeats attempt iteration within =>
      apply kept_body 0 1 rfl rfl
      · exact kept.errorRetries
      · rw [← accounts.iteration]
        exact within
      · rw [attempt, accounts.attempt]
        rfl
      · rw [iteration, accounts.iteration]
      · have bodies := accounts.bodies
        omega
  | fails failing lower =>
      exact kept_quiet kept (quiet_of_failing failing) (accounts_of_failing failing)

end

/-! ### Every run of a call -/

def begin (ctx : Context) : Execution := { ctx := ctx }

theorem enter_opens {ctx : Context} {input : Input} {point : Point}
    (entered : (enter definition ctx input).1 = .awaiting point) :
    point = .markingStart { result := { stepName := definition.name, status := .running } } := by
  unfold enter at entered
  cases runs : shouldRun definition ctx input with
  | raises error =>
      rw [runs] at entered
      cases entered
  | value holds =>
      rw [runs] at entered
      cases holds with
      | false => cases entered
      | true =>
          simp only at entered
          by_cases missing : definition.func = false
          · rw [if_pos missing] at entered
            cases entered
          · rw [if_neg missing] at entered
            exact (Progress.awaiting.inj entered).symm

section

variable {definition : StepDefinition} (constant : Constant definition)

structure Entered (definition : StepDefinition) (execution : Execution) : Prop where
  unused : execution.progress = none →
    execution.bodies = 0 ∧ execution.errorRetries = 0 ∧ execution.refinements = 0
  kept : Kept definition execution

include constant

theorem begin_entered (ctx : Context) : Entered definition (begin ctx) := by
  constructor
  · intro _
    exact ⟨rfl, rfl, rfl⟩
  · constructor
    · exact ⟨constant.retries, constant.loopBudget_pos, Nat.zero_le _⟩
    · intro point here
      cases here

theorem next_entered {execution after : Execution} {input : Input}
    (entered : Entered definition execution) (taken : execution.next definition input = some after) :
    Entered definition after := by
  unfold Execution.next at taken
  split at taken
  · rename_i fresh
    obtain ⟨bodies, errorRetries, refinements⟩ := entered.unused fresh
    cases taken
    have within := entered.kept.within
    refine ⟨nofun, ⟨within.errorRetries, within.refinements, within.bodies⟩, ?_⟩
    intro point here
    have opens := enter_opens (Option.some.inj here)
    rw [opens]
    exact ⟨rfl, rfl, bodies, errorRetries, refinements⟩
  · rename_i point here
    obtain ⟨turn, resumed, same⟩ := Option.map_eq_some_iff.mp taken
    have turns := turns_resume constant resumed
    rw [← same]
    refine ⟨nofun, ?_⟩
    obtain ⟨progress, ctx⟩ := turn
    cases progress with
    | awaiting later =>
        exact Moves.kept turns constant.loopBudget_pos constant.retries entered.kept.within
          (entered.kept.accounts point here)
    | finished outcome =>
        have within := entered.kept.within
        constructor
        · exact ⟨within.errorRetries, within.refinements, within.bodies⟩
        · intro later reached
          cases reached
  · cases taken

omit constant in
theorem handleException_backoff_iff {frame : Frame} {ctx : Context} {error : StepError}
    (retryable : error.retryable = true) :
    (∃ later after, handleException definition frame ctx error = awaiting (.backoff later) after) ↔
      (frame.attempt : Int) ≤ definition.maxRetries := by
  unfold handleException
  by_cases within : (frame.attempt : Int) ≤ definition.maxRetries
  · rw [if_pos ⟨within, retryable⟩]
    exact iff_of_true ⟨_, _, rfl⟩ within
  · rw [if_neg fun both => within both.1]
    apply iff_of_false
    · rintro ⟨later, after, same⟩
      cases hooks : definition.errorHooks with
      | zero | succ left =>
          rw [hooks] at same
          cases same
    · exact within

/-- What a call has used of its budgets, and what it still has of each, whatever it has used of
the other. -/
structure BudgetsKept (definition : StepDefinition) (execution : Execution) : Prop where
  bodies : (execution.bodies : Int) ≤ loopBudget definition + definition.maxRetries
  errorRetries : (execution.errorRetries : Int) ≤ definition.maxRetries
  refinements : execution.refinements ≤ loopBudget definition - 1
  live : ∀ point, execution.progress = some (.awaiting point) →
    ∃ input after, execution.next definition input = some after
  retriesLeft : ∀ stage frame ctx error,
    execution.progress = some (.awaiting (.attempting stage frame)) → error.retryable = true →
      ((∃ later after, handleException definition frame ctx error =
        awaiting (.backoff later) after) ↔ (execution.errorRetries : Int) < definition.maxRetries)
  roundsLeft : ∀ stage frame input,
    execution.progress = some (.awaiting (.attempting stage frame)) →
      (shouldLoopAgain definition frame input = .value true ↔
        definition.loopUntil = true ∧ execution.refinements + 1 < loopBudget definition ∧
          input.satisfied = .value false)

theorem Entered.budgets {execution : Execution} (entered : Entered definition execution) :
    BudgetsKept definition execution := by
  have within := entered.kept.within
  have errorRetries := within.errorRetries
  have refinements := within.refinements
  have bodies := within.bodies
  refine ⟨by omega, errorRetries, by omega, ?_, ?_, ?_⟩
  · intro point here
    refine ⟨{}, execution.record point (resumeReturned definition execution.ctx {} point), ?_⟩
    simp only [Execution.next, here]
    rfl
  · intro stage frame ctx error here retryable
    have counted : Counted execution frame execution.refinements := entered.kept.accounts _ here
    rw [handleException_backoff_iff retryable, counted.attempt]
    omega
  · intro stage frame input here
    have counted : Counted execution frame execution.refinements := entered.kept.accounts _ here
    rw [shouldLoopAgain_iff constant, counted.iteration]

end

/-- Every run of a call ends, and at every point of it the two budgets are respected apart. -/
theorem retry_and_loop_budgets (definition : StepDefinition) (constant : Constant definition)
    (ctx : Context) :
    Acc (Follows definition) (begin ctx) ∧
      ∀ inputs execution,
        Transition.replay (Execution.next definition) (begin ctx) inputs = some execution →
          BudgetsKept definition execution := by
  constructor
  · exact terminates constant (begin ctx)
  · intro inputs execution run
    have preserved (state : Execution) (input : Input) (after : Execution)
        (entered : Entered definition state)
        (taken : state.next definition input = some after) : Entered definition after :=
      next_entered constant entered taken
    exact (Transition.replay_invariant preserved (begin_entered constant ctx) run).budgets constant

def draftStep : StepDefinition :=
  { name := "draft"
    maxRetries := 1
    loopUntil := true
    loopMax := 2 }

def draftInputs : List Input :=
  [{}, {}, { signal := .raised (.error ⟨"ValueError", "x", true, false⟩) }, {}, {},
    { satisfied := .value false }]

/-- An error, then a round: both budgets are used up after three bodies. -/
theorem retry_and_loop_budgets_used : ∃ execution,
    Transition.replay (Execution.next draftStep) (begin {}) draftInputs = some execution ∧
      execution.bodies = 3 ∧ execution.errorRetries = 1 ∧ execution.refinements = 1 ∧
      BudgetsKept draftStep execution :=
  ⟨_, rfl, rfl, rfl, rfl,
    (retry_and_loop_budgets draftStep ⟨by decide, fun _ => by decide⟩ {}).2 draftInputs _ rfl⟩

end StepExecutor

end AgenticRuntime
