/-
What `call_with_fallback` tries and how it ends.

The selection leaves out what was tried before in the tier that was asked for only, so
a failure that puts the last candidate of a tier into its cooldown makes the next
selection look for a model in the other tiers and raise when there is none.
-/

import AgenticRuntime.Models.FallbackLoop

namespace AgenticRuntime

open List FallbackRound

namespace FallbackOutcome

def answered : FallbackOutcome → Bool
  | .returned => true
  | .unrecorded _ _ => true
  | .circuitResolved => false
  | .raised _ _ => false
  | .cancelled => false

def failure : FallbackOutcome → Option ProviderError
  | .raised error _ => some error
  | _ => none

def Recorded : FallbackOutcome → Prop
  | .unrecorded _ _ => False
  | .raised _ recording => recording = none
  | _ => True

def ending (model : String) : FallbackOutcome → Option FallbackResult
  | .returned => some (.returned model)
  | .unrecorded _ recording => recording.map .recordingRaised
  | .circuitResolved => none
  | .raised _ recording => recording.map .recordingRaised
  | .cancelled => some .cancelled

end FallbackOutcome

def firstAnswer (attempts : List (String × FallbackOutcome)) : Option String :=
  (attempts.find? fun attempt => attempt.2.answered).map Prod.fst

def lastFailure (attempts : List (String × FallbackOutcome)) : Option ProviderError :=
  (attempts.filterMap fun attempt => attempt.2.failure).getLast?

/-- No model is tried twice, and none beyond those that the retries allow. -/
structure WithinBudget (budget : Nat) (state : FallbackState) : Prop where
  once : state.tried.Nodup
  bounded : state.tried.length ≤ budget
  attempted : (state.attempts.map Prod.fst).Sublist state.tried

/-- The first answer is what comes back, and without one the call fails with the models it has
tried and the last of their errors. A cancellation is neither. -/
structure Reports (state : FallbackState) (result : FallbackResult) : Prop where
  answer : ∀ model, result = .returned model ↔ firstAnswer state.attempts = some model
  failure : ∀ error, lastFailure state.attempts = some error →
    firstAnswer state.attempts = none →
    (∀ attempt ∈ state.attempts, attempt.2 ≠ .cancelled) →
    result = .allModelsFailed state.tried (some error)

structure FallsBack (budget : Nat) (ending : FallbackState × FallbackResult) : Prop where
  budget : WithinBudget budget ending.1
  reports : Reports ending.1 ending.2

namespace FallbackRound

def Attempts (round : FallbackRound) (tier : ModelTier) (state : FallbackState) : Prop :=
  round.ready = true ∧ ∃ model, round.selected tier state = .model model ∧ model ∉ state.tried

/-- After a failure some tier still has a model on offer, or the run may do without one; and the
outcome of an attempt is recorded. -/
def Spares (round : FallbackRound) (tier : ModelTier) (state : FallbackState) : Prop :=
  (state.lastError ≠ none → round.env.noLlm = true ∨
    state.router.HasOffer round.env round.now none (tier :: tier.eligible)) ∧
  (round.Attempts tier state → round.outcome.Recorded)

inductive Ran (round : FallbackRound) (tier : ModelTier) (state next : FallbackState) :
    Option FallbackResult → Prop where
  | unconfigured
      (choice : round.selected tier state = .noProviderConfigured)
      (tried : next.tried = state.tried)
      (attempts : next.attempts = state.attempts) :
      Ran round tier state next (some .noProviderConfigured)
  | exhausted
      (choice : round.selected tier state ≠ .noProviderConfigured)
      (idle : ¬ round.Attempts tier state)
      (tried : next.tried = state.tried)
      (attempts : next.attempts = state.attempts) :
      Ran round tier state next (some (.allModelsFailed state.tried state.lastError))
  | skipped (model : String)
      (choice : round.selected tier state = .model model)
      (fresh : model ∉ state.tried)
      (idle : ¬ round.Attempts tier state)
      (tried : next.tried = state.tried ++ [model])
      (attempts : next.attempts = state.attempts)
      (lastError : next.lastError = state.lastError) :
      Ran round tier state next none
  | attempted (model : String)
      (choice : round.selected tier state = .model model)
      (fresh : model ∉ state.tried)
      (ready : round.ready = true)
      (tried : next.tried = state.tried ++ [model])
      (attempts : next.attempts = state.attempts ++ [(model, round.outcome)])
      (lastError : round.outcome.Recorded →
        next.lastError = round.outcome.failure.or state.lastError) :
      Ran round tier state next (round.outcome.ending model)

end FallbackRound

def SparedFrom (tier : ModelTier) : List FallbackRound → FallbackState → Prop
  | [], _ => True
  | round :: rest, state => round.Spares tier state ∧
      ((round.run tier state).2 = none → SparedFrom tier rest (round.run tier state).1)

section

variable {tier : ModelTier} {round : FallbackRound} {state next : FallbackState}
  {result : Option FallbackResult} {model : String}

/-! ### One round -/

theorem attempt_attempts : (round.attempt model state).1.attempts =
    state.attempts ++ [(model, round.outcome)] := by
  unfold attempt
  cases known : round.outcome with
  | returned | circuitResolved | cancelled => rfl
  | unrecorded error recording | raised error recording =>
      cases recording with
      | none => rfl
      | some second => rfl

theorem attempt_tried : (round.attempt model state).1.tried = state.tried := by
  unfold attempt
  cases known : round.outcome with
  | returned | circuitResolved | cancelled => rfl
  | unrecorded error recording | raised error recording =>
      cases recording with
      | none => rfl
      | some second => rfl

theorem attempt_result : (round.attempt model state).2 = round.outcome.ending model := by
  unfold attempt
  cases known : round.outcome with
  | returned | circuitResolved | cancelled => rfl
  | unrecorded error recording | raised error recording =>
      cases recording with
      | none => rfl
      | some second => rfl

theorem attempt_lastError (recorded : round.outcome.Recorded) :
    (round.attempt model state).1.lastError = round.outcome.failure.or state.lastError := by
  unfold attempt
  cases known : round.outcome with
  | returned | circuitResolved | cancelled => rfl
  | unrecorded error recording =>
      rw [known] at recorded
      cases recorded
  | raised error recording =>
      rw [known] at recorded
      change recording = none at recorded
      subst recorded
      rfl

theorem run_ran : round.Ran tier state (round.run tier state).1 (round.run tier state).2 := by
  unfold run
  dsimp only
  split
  · rename_i choice
    exact .unconfigured choice rfl rfl
  · rename_i choice
    have idle : ¬ round.Attempts tier state := by
      rintro ⟨-, model, other, -⟩
      cases choice.symm.trans other
    exact .exhausted (fun other => nomatch choice.symm.trans other) idle rfl rfl
  · rename_i model choice
    split
    · rename_i repeated
      have idle : ¬ round.Attempts tier state := by
        rintro ⟨-, other, same, fresh⟩
        cases choice.symm.trans same
        exact fresh repeated
      exact .exhausted (fun other => nomatch choice.symm.trans other) idle rfl rfl
    · rename_i fresh
      split
      · rename_i ready
        rw [attempt_result]
        exact .attempted model choice fresh ready attempt_tried attempt_attempts
          (fun recorded => attempt_lastError recorded)
      · rename_i busy
        exact .skipped model choice fresh (fun made => busy made.1) rfl rfl rfl

/-! ### The models that are tried -/

theorem WithinBudget.ran {budget : Nat} (within : WithinBudget budget state)
    (ran : round.Ran tier state next result) : WithinBudget (budget + 1) next := by
  have kept (later : FallbackState) (tried : later.tried = state.tried)
      (attempts : later.attempts = state.attempts) : WithinBudget (budget + 1) later := by
    constructor
    · rw [tried]
      exact within.once
    · rw [tried]
      exact Nat.le_succ_of_le within.bounded
    · rw [tried, attempts]
      exact within.attempted
  have grown (later : FallbackState) (model : String) (fresh : model ∉ state.tried)
      (tried : later.tried = state.tried ++ [model])
      (attempted : (later.attempts.map Prod.fst).Sublist later.tried) :
      WithinBudget (budget + 1) later := by
    refine ⟨?_, ?_, attempted⟩
    · rw [tried]
      exact nodup_append.mpr ⟨within.once, nodup_singleton model, by
        intro first member second single same
        rw [mem_singleton.mp single] at same
        rw [same] at member
        exact fresh member⟩
    · rw [tried, length_append, length_singleton]
      exact Nat.succ_le_succ within.bounded
  cases ran with
  | unconfigured choice tried attempts | exhausted choice idle tried attempts =>
      exact kept _ tried attempts
  | skipped model choice fresh idle tried attempts lastError =>
      apply grown _ model fresh tried
      rw [tried, attempts]
      exact within.attempted.trans (sublist_append_left _ _)
  | attempted model choice fresh ready tried attempts lastError =>
      apply grown _ model fresh tried
      rw [tried, attempts, map_append]
      exact within.attempted.append (List.Sublist.refl _)

variable (rounds : List FallbackRound)

theorem withinBudget_call {budget : Nat} (state : FallbackState)
    (within : WithinBudget budget state) :
    WithinBudget (budget + rounds.length) (callWithFallback tier rounds state).1 := by
  induction rounds generalizing budget state with
  | nil => exact within
  | cons round rest ih =>
      have ran : WithinBudget (budget + 1) (round.run tier state).1 := within.ran run_ran
      simp only [callWithFallback]
      split
      · rename_i next continued
        rw [continued] at ran
        have later := ih next ran
        rw [length_cons, Nat.add_comm rest.length, ← Nat.add_assoc]
        exact later
      · rename_i last result ended
        rw [ended] at ran
        refine ⟨ran.once, ran.bounded.trans ?_, ran.attempted⟩
        rw [length_cons]
        omega

/-! ### The answers and the errors -/

theorem firstAnswer_append (attempts : List (String × FallbackOutcome)) (model : String)
    (outcome : FallbackOutcome) : firstAnswer (attempts ++ [(model, outcome)]) =
      (firstAnswer attempts).or (if outcome.answered then some model else none) := by
  unfold firstAnswer
  rw [List.find?_append]
  cases attempts.find? fun attempt => attempt.2.answered with
  | some earlier => rfl
  | none =>
      cases answered : outcome.answered with
      | true | false => simp [answered]

theorem lastFailure_append (attempts : List (String × FallbackOutcome)) (model : String)
    (outcome : FallbackOutcome) : lastFailure (attempts ++ [(model, outcome)]) =
      outcome.failure.or (lastFailure attempts) := by
  unfold lastFailure
  rw [filterMap_append]
  cases failed : outcome.failure with
  | none | some error => simp [failed]

/-- So far nothing has been answered or cancelled, and the last error is the last failure. -/
structure Unanswered (state : FallbackState) : Prop where
  unanswered : firstAnswer state.attempts = none
  uncancelled : ∀ attempt ∈ state.attempts, attempt.2 ≠ .cancelled
  lastError : state.lastError = lastFailure state.attempts

theorem FallbackRound.Ran.passedBy (ran : round.Ran tier state next result)
    (first : firstAnswer state.attempts = some model) (tried : model ∈ state.tried) :
    firstAnswer next.attempts = some model ∧ model ∈ next.tried ∧
      result ≠ some (.returned model) := by
  cases ran with
  | unconfigured choice same attempts | exhausted choice idle same attempts =>
      rw [same, attempts]
      exact ⟨first, tried, nofun⟩
  | skipped other choice fresh idle more attempts lastError =>
      rw [more, attempts]
      exact ⟨first, mem_append_left _ tried, nofun⟩
  | attempted other choice fresh ready more attempts lastError =>
      rw [more, attempts, firstAnswer_append, first]
      refine ⟨rfl, mem_append_left _ tried, ?_⟩
      intro returned
      cases outcome : round.outcome with
      | returned =>
          rw [outcome] at returned
          cases returned
          exact fresh tried
      | circuitResolved | cancelled =>
          rw [outcome] at returned
          cases returned
      | unrecorded error recording | raised error recording =>
          rw [outcome] at returned
          cases recording with
          | none | some second => cases returned

theorem passedBy_call (state : FallbackState) (first : firstAnswer state.attempts = some model)
    (tried : model ∈ state.tried) :
    firstAnswer (callWithFallback tier rounds state).1.attempts = some model ∧
      (callWithFallback tier rounds state).2 ≠ .returned model := by
  induction rounds generalizing state with
  | nil => exact ⟨first, nofun⟩
  | cons round rest ih =>
      have ran : round.Ran tier state (round.run tier state).1 (round.run tier state).2 := run_ran
      obtain ⟨later, listed, other⟩ := ran.passedBy first tried
      simp only [callWithFallback]
      split
      · rename_i next continued
        rw [continued] at later listed
        exact ih next later listed
      · rename_i last result ended
        rw [ended] at later other
        exact ⟨later, fun same => other (congrArg some same)⟩

/-! ### The rounds and their ending -/

theorem Unanswered.allModelsFailed (unanswered : Unanswered state) (tried : next.tried = state.tried)
    (attempts : next.attempts = state.attempts) :
    Reports next (.allModelsFailed state.tried state.lastError) := by
  constructor
  · intro model
    rw [attempts, unanswered.unanswered]
    exact ⟨nofun, nofun⟩
  · intro error failed _ _
    rw [attempts, ← unanswered.lastError] at failed
    rw [tried, failed]

theorem spared_of_choice (choice : round.selected tier state ≠ .noProviderConfigured) :
    round.env.noLlm = true ∨
      state.router.HasOffer round.env round.now none (tier :: tier.eligible) := by
  by_cases offer : state.router.HasOffer round.env round.now none (tier :: tier.eligible)
  · exact .inr offer
  · left
    by_contra strict
    exact choice (TierRouter.getModelForTier_noProviderConfigured.mpr
      ⟨offer, Bool.eq_false_iff.mpr strict⟩)

theorem spares_of_choice (choice : round.selected tier state ≠ .noProviderConfigured)
    (recorded : round.Attempts tier state → round.outcome.Recorded) : round.Spares tier state :=
  ⟨fun _ => spared_of_choice choice, recorded⟩

theorem Unanswered.unconfigured (unanswered : Unanswered state)
    (choice : round.selected tier state = .noProviderConfigured)
    (attempts : next.attempts = state.attempts) :
    Reports next .noProviderConfigured ↔ round.Spares tier state := by
  have bare := TierRouter.getModelForTier_noProviderConfigured.mp choice
  constructor
  · intro reports
    constructor
    · intro failed
      obtain ⟨error, known⟩ := Option.ne_none_iff_exists'.mp failed
      rw [unanswered.lastError, ← attempts] at known
      have raised := reports.failure error known
        (attempts ▸ unanswered.unanswered) (attempts ▸ unanswered.uncancelled)
      cases raised
    · rintro ⟨-, model, other, -⟩
      cases choice.symm.trans other
  · intro spares
    constructor
    · intro model
      rw [attempts, unanswered.unanswered]
      exact ⟨nofun, nofun⟩
    · intro error failed _ _
      rw [attempts, ← unanswered.lastError] at failed
      rcases spares.1 (by rw [failed]; exact nofun) with lenient | offer
      · rw [bare.2] at lenient
        cases lenient
      · exact absurd offer bare.1

theorem Unanswered.endedAttempt (unanswered : Unanswered state) {ending : FallbackResult}
    (attempts : next.attempts = state.attempts ++ [(model, round.outcome)])
    (ends : round.outcome.ending model = some ending) :
    Reports next ending ↔ round.outcome.Recorded := by
  have answer := firstAnswer_append state.attempts model round.outcome
  have failure := lastFailure_append state.attempts model round.outcome
  rw [← attempts, unanswered.unanswered, Option.none_or] at answer
  rw [← attempts] at failure
  cases outcome : round.outcome with
  | returned =>
      rw [outcome] at ends answer
      cases ends
      constructor
      · intro _
        exact trivial
      · intro _
        constructor
        · intro other
          rw [answer]
          constructor
          · intro same
            cases same
            rfl
          · intro same
            cases same
            rfl
        · intro error _ unreturned
          rw [answer] at unreturned
          cases unreturned
  | unrecorded error recording =>
      rw [outcome] at ends answer
      have ending_ne : ending ≠ .returned model := by
        cases recording with
        | none => cases ends
        | some second =>
            cases ends
            exact nofun
      constructor
      · intro reports
        exact absurd ((reports.answer model).mpr answer) ending_ne
      · intro recorded
        cases recorded
  | circuitResolved =>
      rw [outcome] at ends
      cases ends
  | raised error recording =>
      rw [outcome] at ends answer failure
      cases recording with
      | none => cases ends
      | some second =>
          cases ends
          constructor
          · intro reports
            have uncancelled : ∀ attempt ∈ next.attempts, attempt.2 ≠ .cancelled := by
              intro attempt member
              rw [attempts] at member
              rcases mem_append.mp member with earlier | own
              · exact unanswered.uncancelled attempt earlier
              · rw [mem_singleton.mp own, outcome]
                exact nofun
            have raised := reports.failure error failure answer uncancelled
            cases raised
          · intro recorded
            cases recorded
  | cancelled =>
      rw [outcome] at ends answer
      cases ends
      constructor
      · intro _
        exact trivial
      · intro _
        constructor
        · intro other
          rw [answer]
          exact ⟨nofun, nofun⟩
        · intro error _ _ uncancelled
          have own : (model, round.outcome) ∈ next.attempts := by
            rw [attempts]
            exact mem_append_right _ (mem_singleton_self _)
          exact absurd outcome (uncancelled _ own)

theorem Unanswered.ended (unanswered : Unanswered state) {ending : FallbackResult}
    (ran : round.Ran tier state next result) (ends : result = some ending) :
    Reports next ending ↔ round.Spares tier state := by
  cases ran with
  | unconfigured choice tried attempts =>
      cases ends
      exact unanswered.unconfigured choice attempts
  | exhausted choice idle tried attempts =>
      cases ends
      constructor
      · intro _
        exact spares_of_choice choice fun made => absurd made idle
      · intro _
        exact unanswered.allModelsFailed tried attempts
  | skipped model choice fresh idle tried attempts lastError => cases ends
  | attempted model choice fresh ready tried attempts lastError =>
      rw [unanswered.endedAttempt attempts ends]
      constructor
      · intro recorded
        exact spares_of_choice (fun other => nomatch choice.symm.trans other) fun _ => recorded
      · intro spares
        exact spares.2 ⟨ready, model, choice, fresh⟩

theorem Unanswered.continued (unanswered : Unanswered state)
    (ran : round.Ran tier state next result) (goes_on : result = none) :
    (round.Spares tier state ∧ Unanswered next) ∨
      (¬ round.Spares tier state ∧
        ∃ model, firstAnswer next.attempts = some model ∧ model ∈ next.tried) := by
  cases ran with
  | unconfigured choice tried attempts | exhausted choice idle tried attempts => cases goes_on
  | skipped model choice fresh idle tried attempts lastError =>
      left
      constructor
      · exact spares_of_choice (fun other => nomatch choice.symm.trans other)
          fun made => absurd made idle
      · constructor
        · rw [attempts]
          exact unanswered.unanswered
        · rw [attempts]
          exact unanswered.uncancelled
        · rw [attempts, lastError]
          exact unanswered.lastError
  | attempted model choice fresh ready tried attempts lastError =>
      have answer := firstAnswer_append state.attempts model round.outcome
      have failure := lastFailure_append state.attempts model round.outcome
      rw [← attempts, unanswered.unanswered, Option.none_or] at answer
      rw [← attempts] at failure
      by_cases recorded : round.outcome.Recorded
      · left
        constructor
        · exact spares_of_choice (fun other => nomatch choice.symm.trans other) fun _ => recorded
        · constructor
          · rw [answer]
            cases outcome : round.outcome with
            | returned | cancelled =>
                rw [outcome] at goes_on
                cases goes_on
            | unrecorded error recording =>
                rw [outcome] at recorded
                cases recorded
            | circuitResolved | raised error recording => rfl
          · intro attempt member cancelled
            rw [attempts] at member
            rcases mem_append.mp member with earlier | own
            · exact unanswered.uncancelled attempt earlier cancelled
            · rw [mem_singleton.mp own] at cancelled
              change round.outcome = .cancelled at cancelled
              rw [cancelled] at goes_on
              cases goes_on
          · rw [lastError recorded, failure, unanswered.lastError]
      · right
        constructor
        · exact fun spares => recorded (spares.2 ⟨ready, model, choice, fresh⟩)
        · refine ⟨model, ?_, ?_⟩
          · rw [answer]
            cases outcome : round.outcome with
            | unrecorded error recording => rfl
            | raised error recording =>
                rw [outcome] at goes_on recorded
                cases recording with
                | none => exact absurd rfl recorded
                | some second => cases goes_on
            | returned | circuitResolved | cancelled =>
                rw [outcome] at recorded
                exact absurd trivial recorded
          · rw [tried]
            exact mem_append_right _ (mem_singleton_self model)

theorem reports_call_iff (state : FallbackState) (unanswered : Unanswered state) :
    Reports (callWithFallback tier rounds state).1 (callWithFallback tier rounds state).2 ↔
      SparedFrom tier rounds state := by
  induction rounds generalizing state with
  | nil =>
      constructor
      · intro _
        exact trivial
      · intro _
        exact unanswered.allModelsFailed rfl rfl
  | cons round rest ih =>
      have ran : round.Ran tier state (round.run tier state).1 (round.run tier state).2 := run_ran
      unfold SparedFrom
      simp only [callWithFallback]
      split
      · rename_i next continued
        rw [continued] at ran ⊢
        rcases unanswered.continued ran rfl with ⟨spares, later⟩ | ⟨harmed, model, first, tried⟩
        · rw [ih next later]
          exact ⟨fun spared => ⟨spares, fun _ => spared⟩, fun spared => spared.2 rfl⟩
        · constructor
          · intro reports
            obtain ⟨answer, other⟩ := passedBy_call rest next first tried
            exact absurd ((reports.answer model).mpr answer) other
          · intro spared
            exact absurd spared.1 harmed
      · rename_i last ending ended
        rw [ended] at ran ⊢
        rw [unanswered.ended ran rfl]
        exact ⟨fun spares => ⟨spares, nofun⟩, fun spared => spared.1⟩

end

/-- A call falls back as it should if and only if, whenever it goes on after a failure, some
tier still has a model on offer or the run may do without one, and every attempt is recorded. -/
theorem call_with_fallback_exhausts_iff (tier : ModelTier) (rounds : List FallbackRound)
    (router : TierRouter) :
    FallsBack rounds.length (callWithFallback tier rounds { router := router }) ↔
      SparedFrom tier rounds { router := router } := by
  have fresh : WithinBudget 0 { router := router } := ⟨nodup_nil, Nat.le_refl 0, .refl []⟩
  have within : WithinBudget (0 + rounds.length)
      (callWithFallback tier rounds { router := router }).1 := withinBudget_call rounds _ fresh
  rw [Nat.zero_add] at within
  have unanswered : Unanswered { router := router } := ⟨rfl, nofun, rfl⟩
  rw [← reports_call_iff rounds _ unanswered]
  exact ⟨fun falls => falls.reports, fun reports => ⟨within, reports⟩⟩

def onlyModel : SelectionEnv where
  models := []
  defaultChains := {
    chain := fun _ => some ⟨["openai:gpt-4.1"], nofun⟩
    tier2 := ⟨["openai:gpt-4.1"], nofun⟩
    hasTier2 := rfl }

def failingRounds : List FallbackRound :=
  [{ env := onlyModel, outcome := .raised { text := "connection reset" } none },
    { env := onlyModel, now := ⟨1, 1⟩, outcome := .returned }]

/-- The failure empties every tier, and the next selection raises over the error of the call. -/
theorem failure_empties_the_tiers :
    (callWithFallback .tier2 failingRounds {}).2 = .noProviderConfigured ∧
      ¬ FallsBack failingRounds.length (callWithFallback .tier2 failingRounds {}) := by
  have raised : (callWithFallback .tier2 failingRounds {}).2 = .noProviderConfigured := by
    decide +kernel
  have attempts : (callWithFallback .tier2 failingRounds {}).1.attempts =
      [("openai:gpt-4.1", .raised { text := "connection reset" } none)] := by
    decide +kernel
  refine ⟨raised, ?_⟩
  intro falls
  have failed := falls.reports.failure { text := "connection reset" }
  rw [attempts, raised] at failed
  have impossible := failed rfl rfl (by decide)
  cases impossible

end AgenticRuntime
