/-
A search of the tiers comes back empty exactly when no tier has anything on offer.

Asking about one model leaves what is known of another, so a usable model is still
usable when the search gets to it.
-/

import AgenticRuntime.Models.CostCeiling

namespace AgenticRuntime

open List

namespace TierRouter

variable {env : SelectionEnv} {router : TierRouter} {now : Clock} {maxCost : Option ℚ}
  {model other : String}

def HasOffer (env : SelectionEnv) (router : TierRouter) (now : Clock) (maxCost : Option ℚ)
    (tiers : List ModelTier) : Prop :=
  ∃ tier, tier ∈ tiers ∧ ∃ model, router.Offers env now maxCost tier model ∧
    env.isWithinCostLane model env.maxCostLaneCeiling = true

/-! ### What one question leaves -/

theorem isModelAvailable_modelStats (router : TierRouter) (model : String) :
    (router.isModelAvailable model).2.modelStats = router.modelStats := by
  rcases isModelAvailable_snd router model with same | ⟨checker, -, -, -, ⟨-, grown⟩ | ⟨-, grown⟩⟩
  · rw [same]
  · rw [grown]
  · rw [grown]

theorem checkCircuit_other (router : TierRouter) (now : Clock) (own : other ≠ model) :
    (router.checkCircuit now model).2.modelStats other = router.modelStats other := by
  unfold checkCircuit
  exact Function.update_of_ne own _ _

theorem isCandidate_other (router : TierRouter) (own : other ≠ model) :
    (router.isCandidate env now maxCost model).2.modelStats other = router.modelStats other := by
  have probed : (router.isModelAvailable model).2.modelStats other = router.modelStats other := by
    rw [isModelAvailable_modelStats]
  have checked := (checkCircuit_other (router.isModelAvailable model).2 now own).trans probed
  unfold isCandidate
  split
  · rfl
  · dsimp only
    split
    · exact probed
    · split
      · exact probed
      · split
        · exact checked
        · split
          · exact checked
          · split
            · exact checked
            · exact checked

theorem Usable.after_other (usable : router.Usable env now maxCost other) (own : other ≠ model) :
    (router.isCandidate env now maxCost model).2.Usable env now maxCost other where
  live := usable.live
  available := by
    rw [(follows_isCandidate router now maxCost model).available]
    exact usable.available
  closed := by
    have same : (router.isCandidate env now maxCost model).2.modelStats other =
        router.modelStats other := isCandidate_other router own
    unfold checkCircuit
    dsimp only
    rw [same]
    exact usable.closed
  cool := by
    rw [isCandidate_other router own]
    exact usable.cool
  cheap := by
    rw [(follows_isCandidate router now maxCost model).costs]
    exact usable.cheap

theorem Usable.isCandidate (usable : router.Usable env now maxCost model)
    (within : env.isWithinCostLane model env.maxCostLaneCeiling = true) :
    (router.isCandidate env now maxCost model).1 = true := by
  have probed := follows_isModelAvailable router now model
  have checked := probed.trans
    (follows_checkCircuit (router.isModelAvailable model).2 now model)
  have closed : ((router.isModelAvailable model).2.checkCircuit now model).1 = true := by
    unfold checkCircuit
    dsimp only
    rw [isModelAvailable_modelStats]
    exact usable.closed
  have cool := (checked.cooldown model).trans usable.cool
  unfold TierRouter.isCandidate
  rw [usable.live]
  dsimp only
  rw [usable.available, RoutingEnv.enforceCostLaneCeiling_eq, within, closed, cool]
  cases limited : maxCost with
  | none => rfl
  | some limit =>
      have cheap := usable.cheap limit limited
      rw [← checked.costs] at cheap
      exact decide_eq_true cheap

/-! ### A chain and the tiers -/

theorem findCandidates_ne_nil {chain : List String} (listed : model ∈ chain)
    (usable : router.Usable env now maxCost model)
    (within : env.isWithinCostLane model env.maxCostLaneCeiling = true) :
    (router.findCandidates env now maxCost chain).1 ≠ [] := by
  induction chain generalizing router with
  | nil => cases listed
  | cons first rest ih =>
      simp only [findCandidates]
      split
      · exact cons_ne_nil _ _
      · rename_i refused
        by_cases own : model = first
        · subst own
          exact absurd (usable.isCandidate within) refused
        · exact ih ((List.mem_cons.mp listed).resolve_left own) (usable.after_other own)

theorem Usable.after_chain {chain : List String} (usable : router.Usable env now maxCost model)
    (unlisted : model ∉ chain) :
    (router.findCandidates env now maxCost chain).2.Usable env now maxCost model := by
  induction chain generalizing router with
  | nil => exact usable
  | cons first rest ih =>
      rw [List.mem_cons, not_or] at unlisted
      exact ih (usable.after_other unlisted.1) unlisted.2

variable {tier : ModelTier} {tiers : List ModelTier}

theorem HasOffer.after_empty (offer : router.HasOffer env now maxCost tiers)
    (empty : (router.findCandidatesInTier env now maxCost tier).1 = []) :
    (router.findCandidatesInTier env now maxCost tier).2.HasOffer env now maxCost tiers := by
  obtain ⟨own, member, model, ⟨listed, usable⟩, within⟩ := offer
  have follows : Follows now router (router.findCandidatesInTier env now maxCost tier).2 :=
    follows_findCandidates _ router
  have unlisted : model ∉ (router.getChain env tier).models := by
    intro present
    exact findCandidates_ne_nil present usable within empty
  refine ⟨own, member, model, ⟨?_, usable.after_chain unlisted⟩, within⟩
  rw [getChain_follows follows own]
  exact listed

theorem HasOffer.of_after
    (offer : (router.findCandidatesInTier env now maxCost tier).2.HasOffer env now maxCost tiers) :
    router.HasOffer env now maxCost tiers := by
  obtain ⟨own, member, model, ⟨listed, usable⟩, within⟩ := offer
  have follows : Follows now router (router.findCandidatesInTier env now maxCost tier).2 :=
    follows_findCandidates _ router
  rw [getChain_follows follows own] at listed
  exact ⟨own, member, model, ⟨listed, usable.earlier follows⟩, within⟩

theorem findCandidatesInTier_eq_nil :
    (router.findCandidatesInTier env now maxCost tier).1 = [] ↔
      ¬ router.HasOffer env now maxCost [tier] := by
  constructor
  · intro empty offer
    obtain ⟨own, member, model, ⟨listed, usable⟩, within⟩ := offer
    rw [mem_singleton.mp member] at listed
    exact findCandidates_ne_nil listed usable within empty
  · intro nothing
    rw [eq_nil_iff_forall_not_mem]
    intro model found
    obtain ⟨listed, usable, within⟩ := mem_findCandidates found
    exact nothing ⟨tier, mem_singleton_self tier, model, ⟨listed, usable⟩, within⟩

theorem hasOffer_cons :
    router.HasOffer env now maxCost (tier :: tiers) ↔
      router.HasOffer env now maxCost [tier] ∨ router.HasOffer env now maxCost tiers := by
  constructor
  · intro offer
    obtain ⟨own, member, rest⟩ := offer
    rcases List.mem_cons.mp member with same | later
    · exact .inl ⟨own, mem_singleton.mpr same, rest⟩
    · exact .inr ⟨own, later, rest⟩
  · intro offer
    rcases offer with ⟨own, member, rest⟩ | ⟨own, member, rest⟩
    · exact ⟨own, List.mem_cons.mpr (.inl (mem_singleton.mp member)), rest⟩
    · exact ⟨own, mem_cons_of_mem _ member, rest⟩

theorem crossTierSearch_eq_nil :
    (router.crossTierSearch env now maxCost tiers).1 = [] ↔
      ¬ router.HasOffer env now maxCost tiers := by
  induction tiers generalizing router with
  | nil =>
      constructor
      · intro _ offer
        obtain ⟨own, member, -⟩ := offer
        cases member
      · intro _
        rfl
  | cons tier rest ih =>
      simp only [crossTierSearch]
      by_cases empty : (router.findCandidatesInTier env now maxCost tier).1 = []
      · rw [if_pos (List.isEmpty_iff.mpr empty), ih, hasOffer_cons, not_or,
          ← findCandidatesInTier_eq_nil]
        constructor
        · intro nothing
          exact ⟨empty, fun offer => nothing (offer.after_empty empty)⟩
        · intro nothing offer
          exact nothing.2 offer.of_after
      · rw [if_neg (fun found => empty (List.isEmpty_iff.mp found))]
        constructor
        · intro found
          exact absurd found empty
        · intro nothing
          rw [hasOffer_cons, not_or, ← findCandidatesInTier_eq_nil] at nothing
          exact absurd nothing.1 empty

/-! ### The selection -/

theorem choose_configured (pinned : Option String) (preferHealthy : Bool)
    (candidates : List String) :
    router.choose env pinned preferHealthy candidates ≠ .noProviderConfigured := by
  intro raised
  simp only [choose] at raised
  split at raised
  · cases raised
  · cases raised

theorem getModelForTier_noProviderConfigured {exclude : List String} {preferHealthy : Bool} :
    (router.getModelForTier env now tier exclude preferHealthy maxCost true).1 =
        .noProviderConfigured ↔
      ¬ router.HasOffer env now maxCost (tier :: tier.eligible) ∧ env.noLlm = false := by
  rw [hasOffer_cons, not_or, ← findCandidatesInTier_eq_nil]
  unfold getModelForTier
  dsimp only
  by_cases empty : (router.findCandidatesInTier env now maxCost tier).1 = []
  · have widened : ((router.findCandidatesInTier env now maxCost tier).2.crossTierSearch env now
        maxCost tier.eligible).1 = [] ↔ ¬ router.HasOffer env now maxCost tier.eligible := by
      rw [crossTierSearch_eq_nil]
      constructor
      · exact fun nothing offer => nothing (offer.after_empty empty)
      · exact fun nothing offer => nothing offer.of_after
    rw [← widened, empty]
    simp only [untried, widen, isEmpty_nil, Bool.not_true, Bool.and_false, Bool.and_true,
      Bool.false_eq_true, if_false, if_true, List.isEmpty_iff, true_and, Bool.true_and]
    by_cases swept : ((router.findCandidatesInTier env now maxCost tier).2.crossTierSearch env now
        maxCost tier.eligible).1 = []
    · rw [if_pos swept]
      cases noLlm : env.noLlm with
      | true => simp
      | false => simp [swept]
    · rw [if_neg swept]
      constructor
      · intro raised
        exact absurd raised (choose_configured _ _ _)
      · intro both
        exact absurd both.1 swept
  · constructor
    · intro raised
      split at raised
      · cases raised
      · rename_i left
        have own : (untried exclude
            (router.findCandidatesInTier env now maxCost tier).1).isEmpty = false := by
          simp only [Bool.and_eq_true, Bool.not_eq_true', List.isEmpty_iff, not_and] at left
          rw [Bool.eq_false_iff, ne_eq, List.isEmpty_iff]
          intro none_left
          exact absurd (left none_left) (by simp [empty])
        rw [widen, own] at raised
        simp only [Bool.false_and, Bool.false_eq_true, if_false, own] at raised
        exact absurd raised (choose_configured _ _ _)
    · intro both
      exact absurd both.1.1 empty

end TierRouter

end AgenticRuntime
