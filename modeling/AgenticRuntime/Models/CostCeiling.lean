/-
No backend call above the cost ceiling.

A search only ever turns a usable model into one that is not, so a model that it
hands out was usable when the search began, and within the ceiling.
-/

import AgenticRuntime.Models.ClientCalls
import AgenticRuntime.Langchain.ModelCandidates

namespace AgenticRuntime

open List Function

namespace TierRouter

structure Follows (now : Clock) (earlier later : TierRouter) : Prop where
  available : ∀ model, (later.isModelAvailable model).1 = (earlier.isModelAvailable model).1
  closed : ∀ model, (later.checkCircuit now model).1 = true →
    (earlier.checkCircuit now model).1 = true
  cooldown : ∀ model, (later.modelStats model).isInCooldown now =
    (earlier.modelStats model).isInCooldown now
  costs : later.modelCosts = earlier.modelCosts
  chains : later.customChains = earlier.customChains

structure Usable (env : SelectionEnv) (router : TierRouter) (now : Clock) (maxCost : Option ℚ)
    (model : String) : Prop where
  live : env.isQuarantined model = false
  available : (router.isModelAvailable model).1 = true
  closed : (router.checkCircuit now model).1 = true
  cool : (router.modelStats model).isInCooldown now = false
  cheap : ∀ limit, maxCost = some limit → router.modelCosts model ≤ limit

variable {env : SelectionEnv} {router later : TierRouter} {now : Clock} {maxCost : Option ℚ}
  {model : String}

theorem Follows.refl (router : TierRouter) (now : Clock) : Follows now router router where
  available := fun _ => rfl
  closed := fun _ same => same
  cooldown := fun _ => rfl
  costs := rfl
  chains := rfl

theorem Follows.trans {middle : TierRouter} (first : Follows now router middle)
    (second : Follows now middle later) : Follows now router later where
  available := fun model => (second.available model).trans (first.available model)
  closed := fun model closed => first.closed model (second.closed model closed)
  cooldown := fun model => (second.cooldown model).trans (first.cooldown model)
  costs := second.costs.trans first.costs
  chains := second.chains.trans first.chains

theorem Usable.earlier (follows : Follows now router later)
    (usable : later.Usable env now maxCost model) : router.Usable env now maxCost model where
  live := usable.live
  available := (follows.available model).symm.trans usable.available
  closed := follows.closed model usable.closed
  cool := (follows.cooldown model).symm.trans usable.cool
  cheap := by
    rw [← follows.costs]
    exact usable.cheap

/-! ### One model -/

theorem isModelAvailable_fst (router : TierRouter) (model : String) :
    (router.isModelAvailable model).1 = (decide (model ∈ router.availableModels) ||
      (!decide (model ∈ router.unavailableModels) &&
        router.healthChecker.all fun checker => checker model)) := by
  unfold isModelAvailable
  by_cases listed : model ∈ router.availableModels
  · rw [if_pos listed, decide_eq_true listed, Bool.true_or]
  · rw [if_neg listed, decide_eq_false listed, Bool.false_or]
    by_cases unlisted : model ∈ router.unavailableModels
    · rw [if_pos unlisted, decide_eq_true unlisted]
      rfl
    · rw [if_neg unlisted, decide_eq_false unlisted]
      cases router.healthChecker with
      | none => rfl
      | some checker =>
          dsimp only [Option.all_some]
          cases checker model with
          | true => rfl
          | false => rfl

theorem isModelAvailable_snd (router : TierRouter) (model : String) :
    (router.isModelAvailable model).2 = router ∨
      ∃ checker, router.healthChecker = some checker ∧ model ∉ router.availableModels ∧
        model ∉ router.unavailableModels ∧
        ((checker model = true ∧ (router.isModelAvailable model).2 =
            { router with availableModels := model :: router.availableModels }) ∨
          (checker model = false ∧ (router.isModelAvailable model).2 =
            { router with unavailableModels := model :: router.unavailableModels })) := by
  unfold isModelAvailable
  by_cases listed : model ∈ router.availableModels
  · rw [if_pos listed]
    exact .inl rfl
  · by_cases unlisted : model ∈ router.unavailableModels
    · rw [if_neg listed, if_pos unlisted]
      exact .inl rfl
    · rw [if_neg listed, if_neg unlisted]
      cases known : router.healthChecker with
      | none => exact .inl rfl
      | some checker =>
          right
          refine ⟨checker, rfl, listed, unlisted, ?_⟩
          dsimp only
          cases checker model with
          | true => exact .inl ⟨rfl, rfl⟩
          | false => exact .inr ⟨rfl, rfl⟩

private theorem decide_mem_cons {other : String} {names : List String} (own : other ≠ model) :
    decide (other ∈ model :: names) = decide (other ∈ names) := by
  rw [decide_eq_decide, List.mem_cons, or_iff_right own]

theorem follows_isModelAvailable (router : TierRouter) (now : Clock) (model : String) :
    Follows now router (router.isModelAvailable model).2 := by
  rcases isModelAvailable_snd router model with
    same | ⟨checker, known, listed, unlisted, ⟨answer, grown⟩ | ⟨answer, grown⟩⟩
  · rw [same]
    exact .refl router now
  all_goals
    rw [grown]
    refine ⟨?_, fun _ closed => closed, fun _ => rfl, rfl, rfl⟩
    intro other
    rw [isModelAvailable_fst, isModelAvailable_fst]
    dsimp only
    by_cases own : other = model
    · rw [own, known, decide_eq_true mem_cons_self, decide_eq_false listed,
        decide_eq_false unlisted, Option.all_some, answer]
      rfl
    · rw [decide_mem_cons own]

theorem checkCircuit_twice (stats : ModelStats) (now : Clock)
    (closed : ((stats.checkCircuit now).2.checkCircuit now).1 = true) :
    (stats.checkCircuit now).1 = true := by
  cases answer : (stats.checkCircuit now).1 with
  | true => rfl
  | false =>
      have unchanged : (stats.checkCircuit now).2 = stats := by
        unfold ModelStats.checkCircuit at answer ⊢
        split
        · rfl
        · rename_i state
          rw [state] at answer
          dsimp only at answer ⊢
          split
          · split
            · rename_i failed elapsed
              rw [failed] at answer
              dsimp only at answer
              rw [if_pos elapsed] at answer
              cases answer
            · rfl
          · split
            · rename_i monotonic failed elapsed
              rw [monotonic, failed] at answer
              dsimp only at answer
              rw [if_pos elapsed] at answer
              cases answer
            · rfl
          · rfl
        · rfl
      rw [unchanged, answer] at closed
      cases closed

theorem checkCircuit_cooldown (stats : ModelStats) (now : Clock) :
    (stats.checkCircuit now).2.cooldownUntilMono = stats.cooldownUntilMono := by
  unfold ModelStats.checkCircuit
  split
  · rfl
  · split
    · split
      · rfl
      · rfl
    · split
      · rfl
      · rfl
    · rfl
  · rfl

theorem follows_checkCircuit (router : TierRouter) (now : Clock) (model : String) :
    Follows now router (router.checkCircuit now model).2 where
  available := by
    intro other
    rw [isModelAvailable_fst, isModelAvailable_fst]
    rfl
  closed := by
    intro other closed
    unfold checkCircuit at closed ⊢
    dsimp only at closed ⊢
    by_cases own : other = model
    · subst own
      rw [update_self] at closed
      exact checkCircuit_twice _ now closed
    · rw [update_of_ne own] at closed
      exact closed
  cooldown := by
    intro other
    unfold checkCircuit
    dsimp only
    by_cases own : other = model
    · subst own
      rw [update_self, ModelStats.isInCooldown, checkCircuit_cooldown, ModelStats.isInCooldown]
    · rw [update_of_ne own]
  costs := rfl
  chains := rfl

theorem follows_isCandidate (router : TierRouter) (now : Clock) (maxCost : Option ℚ)
    (model : String) : Follows now router (router.isCandidate env now maxCost model).2 := by
  have probed := follows_isModelAvailable router now model
  have checked := probed.trans
    (follows_checkCircuit (router.isModelAvailable model).2 now model)
  unfold isCandidate
  split
  · exact .refl router now
  · dsimp only
    split
    · exact probed
    · split
      · exact probed
      · split
        · exact checked
        · split
          · exact checked
          · split
            · exact checked
            · exact checked

theorem isCandidate_usable (found : (router.isCandidate env now maxCost model).1 = true) :
    router.Usable env now maxCost model ∧
      env.isWithinCostLane model env.maxCostLaneCeiling = true := by
  have probed := follows_isModelAvailable router now model
  have checked := probed.trans
    (follows_checkCircuit (router.isModelAvailable model).2 now model)
  unfold isCandidate at found
  split at found
  · cases found
  · rename_i live
    dsimp only at found
    split at found
    · cases found
    · rename_i available
      split at found
      · cases found
      · rename_i allowed
        split at found
        · cases found
        · rename_i closed
          split at found
          · cases found
          · rename_i warm
            simp only [Bool.not_eq_true', Bool.not_eq_false] at available allowed closed
            constructor
            · constructor
              · exact Bool.eq_false_iff.mpr live
              · exact available
              · exact probed.closed model closed
              · rw [← checked.cooldown model]
                exact Bool.eq_false_iff.mpr warm
              · intro limit bounded
                rw [bounded] at found
                rw [← checked.costs]
                exact of_decide_eq_true found
            · rw [← RoutingEnv.enforceCostLaneCeiling_eq]
              exact allowed

/-! ### A chain, a tier and the tiers -/

theorem follows_findCandidates (chain : List String) (router : TierRouter) :
    Follows now router (router.findCandidates env now maxCost chain).2 := by
  induction chain generalizing router with
  | nil => exact .refl router now
  | cons first rest ih => exact (follows_isCandidate router now maxCost first).trans (ih _)

theorem mem_findCandidates {chain : List String}
    (found : model ∈ (router.findCandidates env now maxCost chain).1) : model ∈ chain ∧
      router.Usable env now maxCost model ∧
      env.isWithinCostLane model env.maxCostLaneCeiling = true := by
  induction chain generalizing router with
  | nil => cases found
  | cons first rest ih =>
      have later : model ∈
          ((router.isCandidate env now maxCost first).2.findCandidates env now maxCost rest).1 →
          model ∈ first :: rest ∧ router.Usable env now maxCost model ∧
            env.isWithinCostLane model env.maxCostLaneCeiling = true := by
        intro listed
        obtain ⟨member, usable, within⟩ := ih listed
        exact ⟨mem_cons_of_mem _ member,
          usable.earlier (follows_isCandidate router now maxCost first), within⟩
      simp only [findCandidates] at found
      split at found
      · rename_i candidate
        rcases List.mem_cons.mp found with own | listed
        · subst own
          obtain ⟨usable, within⟩ := isCandidate_usable candidate
          exact ⟨mem_cons_self, usable, within⟩
        · exact later listed
      · exact later found

def Offers (env : SelectionEnv) (router : TierRouter) (now : Clock) (maxCost : Option ℚ)
    (tier : ModelTier) (model : String) : Prop :=
  model ∈ (router.getChain env tier).models ∧ router.Usable env now maxCost model

theorem getChain_follows (follows : Follows now router later) (tier : ModelTier) :
    later.getChain env tier = router.getChain env tier := by
  unfold getChain
  rw [follows.chains]

theorem mem_crossTierSearch {tiers : List ModelTier}
    (found : model ∈ (router.crossTierSearch env now maxCost tiers).1) :
    (∃ tier, tier ∈ tiers ∧ router.Offers env now maxCost tier model) ∧
      env.isWithinCostLane model env.maxCostLaneCeiling = true := by
  induction tiers generalizing router with
  | nil => cases found
  | cons tier rest ih =>
      simp only [crossTierSearch] at found
      split at found
      · obtain ⟨⟨other, member, chain, usable⟩, within⟩ := ih found
        have follows : Follows now router (router.findCandidatesInTier env now maxCost tier).2 :=
          follows_findCandidates _ router
        refine ⟨⟨other, mem_cons_of_mem _ member, ?_, usable.earlier follows⟩, within⟩
        rw [← getChain_follows follows other]
        exact chain
      · obtain ⟨chain, usable, within⟩ := mem_findCandidates found
        exact ⟨⟨tier, mem_cons_self, chain, usable⟩, within⟩

theorem mem_keepPinned {pinned : Option String} {candidates : List String}
    (kept : model ∈ keepPinned pinned candidates) : model ∈ candidates := by
  unfold keepPinned at kept
  split at kept
  · rename_i hit found
    rw [mem_singleton.mp kept]
    exact mem_of_find?_eq_some found
  · exact kept

theorem choose_mem {pinned : Option String} {preferHealthy : Bool} {candidates : List String}
    (chosen : router.choose env pinned preferHealthy candidates = .model model) :
    model ∈ candidates := by
  simp only [choose] at chosen
  split at chosen
  · rename_i selected known
    cases chosen
    apply mem_keepPinned
    split at known
    · exact mem_of_head? known
    · have sorted := mem_of_head? known
      exact (perm_insertionSort _ _).mem_iff.mp sorted
  · cases chosen

theorem mem_untried {exclude found : List String} (left : model ∈ untried exclude found) :
    model ∈ found := by
  unfold untried at left
  split at left
  · exact mem_of_mem_filter left
  · exact left

theorem getModelForTier_model {tier : ModelTier} {exclude : List String} {preferHealthy : Bool}
    {allowCrossTier : Bool} (selected : (router.getModelForTier env now tier exclude preferHealthy
      maxCost allowCrossTier).1 = .model model) :
    (∃ other, other ∈ tier :: tier.eligible ∧ router.Offers env now maxCost other model) ∧
      env.isWithinCostLane model env.maxCostLaneCeiling = true := by
  have first : Follows now router (router.findCandidatesInTier env now maxCost tier).2 :=
    follows_findCandidates _ router
  simp only [getModelForTier] at selected
  split at selected
  · cases selected
  · split at selected
    · split at selected
      · cases selected
      · cases selected
    · have listed := choose_mem selected
      unfold widen at listed
      split at listed
      · obtain ⟨⟨other, member, chain, usable⟩, within⟩ := mem_crossTierSearch listed
        refine ⟨⟨other, mem_cons_of_mem _ member, ?_, usable.earlier first⟩, within⟩
        rw [← getChain_follows first other]
        exact chain
      · obtain ⟨chain, usable, within⟩ := mem_findCandidates (mem_untried listed)
        exact ⟨⟨tier, mem_cons_self, chain, usable⟩, within⟩

end TierRouter

/-! ### Whole calls -/

section

variable {env : SelectionEnv} {request : ClientRequest} {found : Circumstances} {model : String}

def Allowed (env : SelectionEnv) (explicit : Option String) (model : String) : Prop :=
  (env.costLaneFor model).rank ≤ env.maxCostLaneCeiling.rank ∧
    (env.isQuarantined model = true → explicit = some model)

def AllAbove (env : SelectionEnv) (tier : ModelTier) (situation : Situation) : Prop :=
  ∀ other model, other ∈ tier :: tier.eligible →
    situation.router.Offers env situation.now none other model →
    env.maxCostLaneCeiling.rank < (env.costLaneFor model).rank

def CeilingExcludes (env : SelectionEnv) (explicit : Option String) (tier : ModelTier)
    (found : Circumstances) : Prop :=
  match explicit with
  | some model =>
      if model = "" then ∀ round number, AllAbove env tier ((found.rounds round).situations number)
      else env.maxCostLaneCeiling.rank < (env.costLaneFor model).rank
  | none => ∀ round number, AllAbove env tier ((found.rounds round).situations number)

variable {explicit : Option String} {situations : Nat → Situation}

theorem getModelForTier_allowed {router : TierRouter} {now : Clock} {tier : ModelTier}
    {exclude : List String}
    (selected : (router.getModelForTier env now tier exclude true none true).1 = .model model) :
    Allowed env explicit model := by
  obtain ⟨⟨other, -, -, usable⟩, within⟩ := TierRouter.getModelForTier_model selected
  constructor
  · exact of_decide_eq_true within
  · intro retired
    rw [usable.live] at retired
    cases retired

theorem selectModel_allowed {tier : ModelTier} {exclude : List String} {situation : Situation}
    (allowed : explicitAllowed env explicit = true)
    (selected : selectModel env explicit tier exclude situation = .model model) :
    Allowed env explicit model := by
  cases explicit with
  | none => exact getModelForTier_allowed selected
  | some named =>
      simp only [selectModel] at selected
      split at selected
      · exact getModelForTier_allowed selected
      · cases selected
        have within : env.enforceCostLaneCeiling model = true := allowed
        rw [RoutingEnv.enforceCostLaneCeiling_eq] at within
        exact ⟨of_decide_eq_true within, fun _ => rfl⟩

theorem selectModel_excluded {tier : ModelTier} {exclude : List String} {situation : Situation}
    (unnamed : explicit = none ∨ explicit = some "") (above : AllAbove env tier situation) :
    selectModel env explicit tier exclude situation ≠ .model model := by
  intro selected
  have own : (situation.router.getModelForTier env situation.now tier exclude true none true).1 =
      .model model := by
    rcases unnamed with same | same
    · rw [same] at selected
      exact selected
    · rw [same] at selected
      exact selected
  obtain ⟨⟨other, listed, offered⟩, within⟩ := TierRouter.getModelForTier_model own
  have outside := above other model listed offered
  have inside : (env.costLaneFor model).rank ≤ env.maxCostLaneCeiling.rank :=
    of_decide_eq_true within
  omega

theorem CallTrace.mem_cons {first : String} {called : Bool} {trace : CallTrace}
    (member : model ∈ (trace.cons first called).calls) : model = first ∨ model ∈ trace.calls := by
  unfold CallTrace.cons at member
  dsimp only at member
  split at member
  · exact List.mem_cons.mp member
  · exact .inr member

theorem fallbackAttempts_allowed (allowed : explicitAllowed env request.explicit = true)
    (situations : Nat → Situation) (remaining number : Nat) (tried : List String)
    (called : model ∈ (fallbackAttempts env request situations remaining number tried).calls) :
    Allowed env request.explicit model := by
  induction remaining generalizing number tried with
  | zero => cases called
  | succ remaining ih =>
      simp only [fallbackAttempts] at called
      split at called
      · cases called
      · cases called
      · rename_i selected choice
        have own := selectModel_allowed allowed choice
        split at called
        · cases called
        · split at called
          · rw [mem_singleton.mp called]
            exact own
          · cases called
          · rw [mem_singleton.mp called]
            exact own
          all_goals
            rcases CallTrace.mem_cons called with same | later
            · rw [same]
              exact own
            · exact ih _ _ later

theorem providerAttempts_allowed (allowed : explicitAllowed env request.explicit = true)
    (situations : Nat → Situation) (remaining number : Nat) (tried : List String)
    (called : model ∈ (providerAttempts env request situations remaining number tried).calls) :
    Allowed env request.explicit model := by
  induction remaining generalizing number tried with
  | zero => cases called
  | succ remaining ih =>
      simp only [providerAttempts] at called
      split at called
      · cases called
      · cases called
      · rename_i selected choice
        have own := selectModel_allowed allowed choice
        split at called
        · cases called
        · split at called
          · exact ih _ _ called
          · split at called
            · rw [mem_singleton.mp called]
              exact own
            · rw [mem_singleton.mp called]
              exact own
            · cases called
            · rw [mem_singleton.mp called]
              exact own
            all_goals
              split at called
              · rcases CallTrace.mem_cons called with same | later
                · rw [same]
                  exact own
                · cases later
              · rcases CallTrace.mem_cons called with same | later
                · rw [same]
                  exact own
                · exact ih _ _ later

theorem retryWithJitter_calls {round : Nat → CallTrace} {backoff : Nat → Backoff}
    (remaining number : Nat)
    (called : model ∈ (retryWithJitter round backoff remaining number).calls) :
    ∃ turn, model ∈ (round turn).calls := by
  induction remaining generalizing number with
  | zero => cases called
  | succ remaining ih =>
      simp only [retryWithJitter] at called
      split at called
      · split at called
        · exact ⟨number, called⟩
        · split at called
          · exact ⟨number, called⟩
          · exact ⟨number, called⟩
          · rcases mem_append.mp called with first | later
            · exact ⟨number, first⟩
            · exact ih _ later
      · exact ⟨number, called⟩

theorem runWithFallback_allowed (called : model ∈ (runWithFallback env request situations).calls) :
    Allowed env request.explicit model := by
  unfold runWithFallback at called
  split at called
  · rename_i allowed
    exact fallbackAttempts_allowed allowed _ _ _ _ called
  · cases called

theorem providerComplete_allowed
    (called : model ∈ (providerComplete env request situations).calls) :
    Allowed env request.explicit model := by
  unfold providerComplete at called
  split at called
  · rename_i allowed
    exact providerAttempts_allowed allowed _ _ _ _ called
  · cases called

theorem completeStream_allowed {tier : ModelTier}
    (called : model ∈ (completeStream env tier found).calls) : Allowed env none model := by
  simp only [completeStream] at called
  split at called
  · cases called
  · cases called
  · rename_i selected choice
    split at called
    · cases called
    · rcases CallTrace.mem_cons called with same | later
      · rw [same]
        exact selectModel_allowed rfl choice
      · cases later

theorem run_allowed (call : ClientCall) (called : model ∈ (call.run env request found).calls) :
    Allowed env (call.explicit request) model := by
  cases call with
  | complete viaEk =>
      cases viaEk with
      | true =>
          simp only [ClientCall.run, completeViaEk] at called
          split at called
          · cases called
          · split at called
            · cases called
            · split at called
              · exact providerComplete_allowed called
              · exact providerComplete_allowed called
      | false =>
          obtain ⟨turn, own⟩ := retryWithJitter_calls _ _ called
          simp only [completeLegacyRound] at own
          split at own
          · cases own
          · split at own
            · cases own
            · exact runWithFallback_allowed own
  | completeChat =>
      simp only [ClientCall.run, completeChat] at called
      split at called
      · cases called
      · obtain ⟨turn, own⟩ := retryWithJitter_calls _ _ called
        simp only [completeChatRound] at own
        split at own
        · cases own
        · exact runWithFallback_allowed own
  | completeStream viaEk => exact completeStream_allowed called

/-! ### Nothing within the ceiling -/

def CallTrace.Refused (trace : CallTrace) : Prop :=
  trace.calls = [] ∧ trace.result ≠ .returned

def RoundExcluded (env : SelectionEnv) (request : ClientRequest) (situations : Nat → Situation) :
    Prop :=
  explicitAllowed env request.explicit = false ∨
    ((request.explicit = none ∨ request.explicit = some "") ∧
      ∀ number, AllAbove env request.tier (situations number))

theorem fallbackAttempts_excluded {remaining number : Nat} {tried : List String}
    (unnamed : request.explicit = none ∨ request.explicit = some "")
    (above : AllAbove env request.tier (situations number)) :
    fallbackAttempts env request situations remaining number tried = .raised := by
  cases remaining with
  | zero => rfl
  | succ remaining =>
      simp only [fallbackAttempts]
      split
      · rfl
      · rfl
      · rename_i selected choice
        exact absurd choice (selectModel_excluded unnamed above)

theorem providerAttempts_excluded {remaining number : Nat} {tried : List String}
    (unnamed : request.explicit = none ∨ request.explicit = some "")
    (above : AllAbove env request.tier (situations number)) :
    providerAttempts env request situations remaining number tried = .raised := by
  cases remaining with
  | zero => rfl
  | succ remaining =>
      simp only [providerAttempts]
      split
      · rfl
      · rfl
      · rename_i selected choice
        exact absurd choice (selectModel_excluded unnamed above)

theorem runWithFallback_excluded (excluded : RoundExcluded env request situations) :
    runWithFallback env request situations = .raised := by
  unfold runWithFallback
  split
  · rename_i allowed
    rcases excluded with refused | ⟨unnamed, above⟩
    · rw [refused] at allowed
      cases allowed
    · exact fallbackAttempts_excluded unnamed (above 0)
  · rfl

theorem providerComplete_excluded (excluded : RoundExcluded env request situations) :
    providerComplete env request situations = .raised := by
  unfold providerComplete
  split
  · rename_i allowed
    rcases excluded with refused | ⟨unnamed, above⟩
    · rw [refused] at allowed
      cases allowed
    · exact providerAttempts_excluded unnamed (above 0)
  · rfl

theorem retryWithJitter_refused {round : Nat → CallTrace} {backoff : Nat → Backoff}
    (refused : ∀ turn, (round turn).Refused) (remaining number : Nat) :
    (retryWithJitter round backoff remaining number).Refused := by
  induction remaining generalizing number with
  | zero => exact ⟨rfl, nofun⟩
  | succ remaining ih =>
      simp only [retryWithJitter]
      split
      · split
        · exact refused number
        · split
          · exact refused number
          · exact ⟨(refused number).1, nofun⟩
          · obtain ⟨none_later, unreturned⟩ := ih (number + 1)
            refine ⟨?_, unreturned⟩
            rw [(refused number).1, none_later]
            rfl
      · exact refused number

theorem roundExcluded (excluded : CeilingExcludes env request.explicit request.tier found)
    (turn : Nat) : RoundExcluded env request (found.rounds turn).situations := by
  cases named : request.explicit with
  | none =>
      rw [named] at excluded
      exact .inr ⟨.inl named, excluded turn⟩
  | some model =>
      rw [named] at excluded
      simp only [CeilingExcludes] at excluded
      split at excluded
      · rename_i empty
        rw [empty] at named
        exact .inr ⟨.inr named, excluded turn⟩
      · left
        rw [named]
        change env.enforceCostLaneCeiling model = false
        rw [RoutingEnv.enforceCostLaneCeiling_eq]
        exact decide_eq_false (Nat.not_le.mpr excluded)

theorem run_excluded (call : ClientCall)
    (excluded : CeilingExcludes env (call.explicit request) request.tier found) :
    (call.run env request found).Refused := by
  cases call with
  | complete viaEk =>
      have rounds := roundExcluded excluded
      cases viaEk with
      | true =>
          simp only [ClientCall.run, completeViaEk]
          split
          · exact ⟨rfl, nofun⟩
          · split
            · exact ⟨rfl, nofun⟩
            · rw [providerComplete_excluded (rounds 0)]
              exact ⟨rfl, nofun⟩
      | false =>
          apply retryWithJitter_refused
          intro turn
          simp only [completeLegacyRound]
          split
          · exact ⟨rfl, nofun⟩
          · split
            · exact ⟨rfl, nofun⟩
            · rw [runWithFallback_excluded (rounds turn)]
              exact ⟨rfl, nofun⟩
  | completeChat =>
      have rounds := roundExcluded excluded
      simp only [ClientCall.run, completeChat]
      split
      · exact ⟨rfl, nofun⟩
      · apply retryWithJitter_refused
        intro turn
        simp only [completeChatRound]
        split
        · exact ⟨rfl, nofun⟩
        · rw [runWithFallback_excluded (rounds turn)]
          exact ⟨rfl, nofun⟩
  | completeStream viaEk =>
      simp only [ClientCall.run, completeStream]
      split
      · exact ⟨rfl, nofun⟩
      · exact ⟨rfl, nofun⟩
      · rename_i selected choice
        exact absurd choice (selectModel_excluded (.inl rfl) (excluded 0 0))

/-- The backend is only called with models within the ceiling that are not retired, unless the
caller has named one; with nothing within the ceiling it is not called and nothing but a cached
answer comes back. The candidates of the LangChain engine keep to the same ceiling. -/
theorem cost_ceiling_respected (env : SelectionEnv) (request : ClientRequest)
    (found : Circumstances) (call : ClientCall) (sources : Langchain.CandidateSources) (tier : Nat)
    (modelOverride : Option String) :
    (∀ model, model ∈ (call.run env request found).calls →
      (env.costLaneFor model).rank ≤ env.maxCostLaneCeiling.rank ∧
        (env.isQuarantined model = true → call.explicit request = some model)) ∧
    (CeilingExcludes env (call.explicit request) request.tier found →
      (call.run env request found).calls = [] ∧
        (call.run env request found).result ≠ .returned) ∧
    (∀ candidates, Langchain.getModelCandidatesForTier env.toRoutingEnv sources tier modelOverride
        none = .ok candidates → ∀ model, model ∈ candidates →
      (env.costLaneFor model).rank ≤ env.maxCostLaneCeiling.rank ∧
        env.isQuarantined model = false) ∧
    (∀ candidates, Langchain.unlimitedCandidates env.toRoutingEnv sources tier modelOverride =
        .ok candidates → candidates ≠ [] →
      (∀ model, model ∈ candidates →
        env.maxCostLaneCeiling.rank < (env.costLaneFor model).rank) →
      Langchain.getModelCandidatesForTier env.toRoutingEnv sources tier modelOverride none =
        .error .ceilingExceeded) := by
  refine ⟨?_, ?_, ?_, ?_⟩
  · exact fun model called => run_allowed call called
  · exact run_excluded call
  · intro candidates handed model member
    obtain ⟨within, live⟩ := Langchain.getModelCandidatesForTier_ok handed member
    exact ⟨of_decide_eq_true within, live⟩
  · intro candidates all left above
    apply Langchain.getModelCandidatesForTier_refused all left
    intro model member
    exact decide_eq_false (Nat.not_le.mpr (above model member))

/-- A registry with one model, which costs money, and a ceiling that excludes it. -/
def paidOnly : SelectionEnv where
  models := [{ id := "openai:gpt-4o", provider := "openai", costLane := some .paid }]
  maxCostLane := "local"
  defaultChains := {
    chain := fun _ => some ⟨["openai:gpt-4o"], nofun⟩
    tier2 := ⟨["openai:gpt-4o"], nofun⟩
    hasTier2 := rfl }

/-- A call whose answer is cached returns it without a look at the ceiling. -/
theorem cached_answer_above_ceiling :
    ¬ ∀ (env : SelectionEnv) (request : ClientRequest) (found : Circumstances) (call : ClientCall),
      CeilingExcludes env (call.explicit request) request.tier found →
      (call.run env request found).calls = [] ∧
        ((call.run env request found).result = .raised ∨
          (call.run env request found).result = .cancelled) := by
  intro raises
  have chains : ∀ tier, (TierRouter.getChain paidOnly {} tier).models = ["openai:gpt-4o"] := by
    intro tier
    cases tier with
    | tier0 | tier1 | tier2 | tier3 | tier4 | tier5 => rfl
  have above : paidOnly.maxCostLaneCeiling.rank < (paidOnly.costLaneFor "openai:gpt-4o").rank := by
    decide +kernel
  have excluded : CeilingExcludes paidOnly none .tier2
      { rounds := fun _ => { cached := true } } := by
    intro round number other model listed offered
    have chain := offered.1
    rw [chains other] at chain
    rw [mem_singleton.mp chain]
    exact above
  obtain ⟨-, outcome⟩ := raises paidOnly {} { rounds := fun _ => { cached := true } }
    (.complete true) excluded
  rcases outcome with raised | cancelled
  · cases raised
  · cases cancelled

end

end AgenticRuntime
