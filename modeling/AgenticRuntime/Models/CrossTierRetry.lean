/-
When a search of the other tiers hands out a model that was not tried.

The models already tried are left out of the tier that was asked for only. In another
tier they are ranked with the rest, so that the first of them may be one of those.
-/

import AgenticRuntime.Models.FallbackExhaustion

namespace AgenticRuntime

open List hiding not_le

/-! ### The first of the largest -/

theorem head?_insertionSort_eq_some {score : String → ℚ} {candidates : List String}
    {winner : String} (first : (candidates.insertionSort fun one other =>
      score other ≤ score one).head? = some winner) :
    ∃ front behind, candidates = front ++ winner :: behind ∧
      (∀ other, other ∈ front → score other < score winner) ∧
        ∀ other, other ∈ behind → score other ≤ score winner := by
  induction candidates generalizing winner with
  | nil => cases first
  | cons head rest ih =>
      rw [insertionSort_cons] at first
      cases sorted : rest.insertionSort fun one other => score other ≤ score one with
      | nil =>
          have empty : rest = [] := by
            have same := perm_insertionSort (fun one other => score other ≤ score one) rest
            rw [sorted] at same
            exact same.symm.eq_nil
          rw [sorted] at first
          cases first
          subst empty
          exact ⟨[], [], rfl, nofun, nofun⟩
      | cons best others =>
          have known : (rest.insertionSort fun one other => score other ≤ score one).head? =
              some best := by rw [sorted]; rfl
          obtain ⟨front, behind, split, lower, upper⟩ := ih known
          have bound : ∀ other, other ∈ rest → score other ≤ score best := by
            intro other listed
            rw [split] at listed
            rcases mem_append.mp listed with earlier | later
            · exact (lower other earlier).le
            · rcases List.mem_cons.mp later with same | later
              · rw [same]
              · exact upper other later
          rw [sorted, orderedInsert_cons] at first
          by_cases ahead : score best ≤ score head
          · rw [if_pos ahead] at first
            cases first
            exact ⟨[], rest, rfl, nofun, fun other listed => (bound other listed).trans ahead⟩
          · rw [if_neg ahead] at first
            cases first
            refine ⟨head :: front, behind, by rw [split]; rfl, ?_, upper⟩
            intro other listed
            rcases List.mem_cons.mp listed with same | earlier
            · rw [same]
              exact not_le.mp ahead
            · exact lower other earlier

theorem mem_front_of_append {known rest front behind : List String} {model winner : String}
    (split : known ++ rest = front ++ winner :: behind) (listed : model ∈ known)
    (absent : winner ∉ known) : model ∈ front := by
  rcases append_eq_append_iff.mp split with ⟨more, same, -⟩ | ⟨more, same, tail⟩
  · rw [same]
    exact mem_append_left more listed
  · cases more with
    | nil =>
        rw [append_nil] at same
        rwa [← same]
    | cons first others =>
        cases tail
        rw [same] at absent
        exact absurd (mem_append_right front mem_cons_self) absent

namespace TierRouter

variable {env : SelectionEnv} {router later : TierRouter} {now : Clock} {maxCost : Option ℚ}
  {model other : String}

def rank (env : SelectionEnv) (router : TierRouter) (now : Clock) (model : String) : ℚ :=
  env.score model ((router.modelStats model).checkCircuit now).2

def Offered (env : SelectionEnv) (router : TierRouter) (now : Clock) (maxCost : Option ℚ)
    (tier : ModelTier) (model : String) : Prop :=
  router.Offers env now maxCost tier model ∧
    env.isWithinCostLane model env.maxCostLaneCeiling = true

/-- Some model of the tier was not tried, and the tried ones of the tier rank behind it. A search
that does not ask for healthy models ranks by the place in the chain alone. -/
def FreshInTier (env : SelectionEnv) (router : TierRouter) (now : Clock) (maxCost : Option ℚ)
    (exclude : List String) (preferHealthy : Bool) (tier : ModelTier) : Prop :=
  ∃ front model behind, (router.getChain env tier).models = front ++ model :: behind ∧
    router.Offered env now maxCost tier model ∧ model ∉ exclude ∧
    (∀ other, other ∈ front → router.Offered env now maxCost tier other → other ∈ exclude →
      preferHealthy = true ∧ router.rank env now other < router.rank env now model) ∧
    ∀ other, other ∈ behind → router.Offered env now maxCost tier other → other ∈ exclude →
      preferHealthy = true → router.rank env now other ≤ router.rank env now model

def FreshInNearest (env : SelectionEnv) (router : TierRouter) (now : Clock) (maxCost : Option ℚ)
    (exclude : List String) (preferHealthy : Bool) : List ModelTier → Prop
  | [] => False
  | tier :: rest =>
      router.FreshInTier env now maxCost exclude preferHealthy tier ∨
        ((∀ model, ¬ router.Offered env now maxCost tier model) ∧
          FreshInNearest env router now maxCost exclude preferHealthy rest)

variable {tier : ModelTier} {preferHealthy : Bool} {exclude : List String}

theorem hasOffer_singleton : router.HasOffer env now maxCost [tier] ↔
    ∃ model, router.Offered env now maxCost tier model := by
  constructor
  · intro offer
    obtain ⟨own, member, model, offers, within⟩ := offer
    rw [mem_singleton.mp member] at offers
    exact ⟨model, offers, within⟩
  · intro offer
    obtain ⟨model, offers, within⟩ := offer
    exact ⟨tier, mem_singleton_self tier, model, offers, within⟩

/-! ### The statistics behind a search -/

theorem checkCircuit_idempotent (stats : ModelStats) (now : Clock) :
    ((stats.checkCircuit now).2.checkCircuit now).2 = (stats.checkCircuit now).2 := by
  cases known : stats.circuitState with
  | closed | halfOpen =>
      have same : (stats.checkCircuit now).2 = stats := by rw [ModelStats.checkCircuit, known]
      rw [same, same]
  | isOpen =>
      have either : (stats.checkCircuit now).2 = stats ∨
          (stats.checkCircuit now).2 = { stats with circuitState := .halfOpen } := by
        unfold ModelStats.checkCircuit
        rw [known]
        dsimp only
        split
        · split
          · exact .inr rfl
          · exact .inl rfl
        · split
          · exact .inr rfl
          · exact .inl rfl
        · exact .inl rfl
      rcases either with same | halved
      · rw [same, same]
      · rw [halved]
        rfl

theorem checkCircuit_modelStats (router : TierRouter) (now : Clock) (model : String) :
    (router.checkCircuit now model).2.modelStats model =
      ((router.modelStats model).checkCircuit now).2 :=
  Function.update_self _ _ _

theorem isCandidate_own (router : TierRouter) (model : String) :
    (router.isCandidate env now maxCost model).2.modelStats model = router.modelStats model ∨
      (router.isCandidate env now maxCost model).2.modelStats model =
        ((router.modelStats model).checkCircuit now).2 := by
  have probed := congrFun (isModelAvailable_modelStats router model) model
  have checked := checkCircuit_modelStats (router.isModelAvailable model).2 now model
  rw [probed] at checked
  unfold isCandidate
  split
  · exact .inl rfl
  · dsimp only
    split
    · exact .inl probed
    · split
      · exact .inl probed
      · split
        · exact .inr checked
        · split
          · exact .inr checked
          · split
            · exact .inr checked
            · exact .inr checked

theorem Usable.asked (usable : router.Usable env now maxCost model)
    (within : env.isWithinCostLane model env.maxCostLaneCeiling = true) :
    (router.isCandidate env now maxCost model).2.modelStats model =
      ((router.modelStats model).checkCircuit now).2 := by
  have probed := congrFun (isModelAvailable_modelStats router model) model
  have checked := checkCircuit_modelStats (router.isModelAvailable model).2 now model
  rw [probed] at checked
  unfold TierRouter.isCandidate
  rw [usable.live]
  dsimp only
  rw [usable.available, RoutingEnv.enforceCostLaneCeiling_eq, within]
  split
  · contradiction
  · split
    · contradiction
    · split
      · exact checked
      · split
        · exact checked
        · split
          · exact checked
          · exact checked

theorem isCandidate_checked {stats : ModelStats}
    (checked : router.modelStats other = (stats.checkCircuit now).2) :
    (router.isCandidate env now maxCost model).2.modelStats other =
      (stats.checkCircuit now).2 := by
  by_cases own : other = model
  · subst own
    rcases isCandidate_own router other with same | asked
    · rw [same, checked]
    · rw [asked, checked, checkCircuit_idempotent]
  · rw [isCandidate_other router own, checked]

theorem findCandidates_checked {stats : ModelStats} (chain : List String)
    (checked : router.modelStats other = (stats.checkCircuit now).2) :
    (router.findCandidates env now maxCost chain).2.modelStats other =
      (stats.checkCircuit now).2 := by
  induction chain generalizing router with
  | nil => exact checked
  | cons first rest ih => exact ih (isCandidate_checked checked)

theorem Usable.asked_chain {chain : List String} (usable : router.Usable env now maxCost model)
    (within : env.isWithinCostLane model env.maxCostLaneCeiling = true) (listed : model ∈ chain) :
    (router.findCandidates env now maxCost chain).2.modelStats model =
      ((router.modelStats model).checkCircuit now).2 := by
  induction chain generalizing router with
  | nil => cases listed
  | cons first rest ih =>
      by_cases own : model = first
      · subst own
        exact findCandidates_checked rest (usable.asked within)
      · have further := ih (usable.after_other own) ((List.mem_cons.mp listed).resolve_left own)
        rw [isCandidate_other router own] at further
        exact further

theorem findCandidates_unlisted {chain : List String} (unlisted : model ∉ chain) :
    (router.findCandidates env now maxCost chain).2.modelStats model = router.modelStats model := by
  induction chain generalizing router with
  | nil => rfl
  | cons first rest ih =>
      rw [List.mem_cons, not_or] at unlisted
      exact (ih unlisted.2).trans (isCandidate_other router unlisted.1)

/-! ### The candidates of a tier -/

theorem findCandidates_append (front rest : List String) :
    (router.findCandidates env now maxCost (front ++ rest)).1 =
      (router.findCandidates env now maxCost front).1 ++
        ((router.findCandidates env now maxCost front).2.findCandidates env now maxCost rest).1 := by
  induction front generalizing router with
  | nil => rfl
  | cons first others ih =>
      simp only [cons_append, findCandidates]
      rw [ih]
      split
      · rfl
      · rfl

theorem Usable.mem_findCandidates {chain : List String}
    (usable : router.Usable env now maxCost model)
    (within : env.isWithinCostLane model env.maxCostLaneCeiling = true) (listed : model ∈ chain) :
    model ∈ (router.findCandidates env now maxCost chain).1 := by
  induction chain generalizing router with
  | nil => cases listed
  | cons first rest ih =>
      simp only [findCandidates]
      by_cases own : model = first
      · subst own
        rw [if_pos (usable.isCandidate within)]
        exact mem_cons_self
      · have further := ih (usable.after_other own) ((List.mem_cons.mp listed).resolve_left own)
        split
        · exact mem_cons_of_mem first further
        · exact further

theorem keepPinned_none (candidates : List String) : keepPinned none candidates = candidates := by
  have nobody : (candidates.find? fun model => decide (some model = none)) = none := by
    rw [List.find?_eq_none]
    intro model _ same
    cases of_decide_eq_true same
  rw [keepPinned, nobody]

theorem choose_first {candidates : List String} {winner : String}
    (chosen : router.choose env none preferHealthy candidates = .model winner) :
    ∃ front behind, candidates = front ++ winner :: behind ∧
      (∀ other, other ∈ front → preferHealthy = true ∧
        env.score other (router.modelStats other) < env.score winner (router.modelStats winner)) ∧
      ∀ other, other ∈ behind → preferHealthy = true →
        env.score other (router.modelStats other) ≤ env.score winner (router.modelStats winner) := by
  simp only [choose, keepPinned_none] at chosen
  split at chosen
  · rename_i selected known
    cases chosen
    split at known
    · rename_i plain
      cases candidates with
      | nil => cases known
      | cons head rest =>
          cases known
          refine ⟨[], rest, rfl, fun _ listed => absurd listed not_mem_nil, ?_⟩
          intro other listed healthy
          rw [healthy] at plain
          simp only [Bool.not_true, Bool.false_or, decide_eq_true_eq, length_cons] at plain
          have empty : rest = [] := eq_nil_of_length_eq_zero (by omega)
          rw [empty] at listed
          cases listed
    · rename_i ranked
      have healthy : preferHealthy = true := by
        cases preferHealthy with
        | true => rfl
        | false => exact absurd rfl ranked
      obtain ⟨front, behind, split, lower, upper⟩ := @head?_insertionSort_eq_some
        (fun other => env.score other (router.modelStats other)) candidates winner known
      exact ⟨front, behind, split, fun other listed => ⟨healthy, lower other listed⟩,
        fun other listed _ => upper other listed⟩
  · cases chosen

theorem choose_of_candidates {candidates : List String} (filled : candidates ≠ []) :
    ∃ winner, router.choose env none preferHealthy candidates = .model winner := by
  have some_ : (if !preferHealthy || candidates.length = 1 then candidates.head?
      else router.best env candidates) ≠ none := by
    split
    · rw [ne_eq, List.head?_eq_none_iff]
      exact filled
    · rw [best, ne_eq, List.head?_eq_none_iff]
      intro empty
      exact filled (empty ▸ perm_insertionSort _ candidates).symm.eq_nil
  obtain ⟨winner, known⟩ := Option.ne_none_iff_exists'.mp some_
  refine ⟨winner, ?_⟩
  simp only [choose, keepPinned_none]
  rw [known]

theorem choose_untried_iff {winner : String}
    (chosen : (router.findCandidatesInTier env now maxCost tier).2.choose env none preferHealthy
      (router.findCandidatesInTier env now maxCost tier).1 = .model winner) :
    winner ∉ exclude ↔ router.FreshInTier env now maxCost exclude preferHealthy tier := by
  obtain ⟨ahead, after, split, lower, upper⟩ := choose_first chosen
  have member : winner ∈ (router.findCandidatesInTier env now maxCost tier).1 := by
    rw [split]
    exact mem_append_right ahead mem_cons_self
  have ranked : ∀ {other : String}, router.Offered env now maxCost tier other →
      env.score other ((router.findCandidatesInTier env now maxCost tier).2.modelStats other) =
        router.rank env now other := by
    intro other offered
    rw [rank, findCandidatesInTier, offered.1.2.asked_chain offered.2 offered.1.1]
  have found : ∀ {other : String}, router.Offered env now maxCost tier other →
      other ∈ ahead ++ winner :: after := by
    intro other offered
    rw [← split]
    exact offered.1.2.mem_findCandidates offered.2 offered.1.1
  obtain ⟨inChain, usable, within⟩ := mem_findCandidates member
  have own : router.Offered env now maxCost tier winner := ⟨⟨inChain, usable⟩, within⟩
  have bound : ∀ {other : String}, router.Offered env now maxCost tier other →
      preferHealthy = true → router.rank env now other ≤ router.rank env now winner := by
    intro other offered healthy
    rw [← ranked offered, ← ranked own]
    rcases mem_append.mp (found offered) with earlier | later
    · exact (lower other earlier).2.le
    · rcases List.mem_cons.mp later with same | later
      · rw [same]
      · exact upper other later healthy
  -- A model that the chain has in front of the winner is a candidate in front of it.
  have placed : ∀ {known rest : List String} {other : String},
      (router.getChain env tier).models = known ++ rest → winner ∉ known → other ∈ known →
        router.Offered env now maxCost tier other → other ∈ ahead := by
    intro known rest other chain absent listed offered
    have parts : (router.findCandidatesInTier env now maxCost tier).1 =
        (router.findCandidates env now maxCost known).1 ++
          ((router.findCandidates env now maxCost known).2.findCandidates env now maxCost rest).1 := by
      rw [findCandidatesInTier, chain, findCandidates_append]
    have early : other ∈ (router.findCandidates env now maxCost known).1 :=
      offered.1.2.mem_findCandidates offered.2 listed
    have without : winner ∉ (router.findCandidates env now maxCost known).1 :=
      fun there => absent (mem_findCandidates there).1
    exact mem_front_of_append (parts.symm.trans split) early without
  constructor
  · intro untried
    obtain ⟨front, behind, chain, absent⟩ := eq_append_cons_of_mem inChain
    refine ⟨front, winner, behind, chain, own, untried, ?_, ?_⟩
    · intro other listed offered _
      have early := lower other (placed chain absent listed offered)
      rw [ranked offered, ranked own] at early
      exact early
    · intro other _ offered _ healthy
      exact bound offered healthy
  · intro fresh tried
    obtain ⟨front, model, behind, chain, offered, untried, higher, notLower⟩ := fresh
    have different : winner ≠ model := fun same => untried (same ▸ tried)
    have listed : winner ∈ front ++ model :: behind := by
      rw [← chain]
      exact inChain
    by_cases inFront : winner ∈ front
    · obtain ⟨healthy, less⟩ := higher winner inFront own tried
      exact absurd (bound offered healthy) (not_le.mpr less)
    · have inBehind : winner ∈ behind := by
        rcases mem_append.mp listed with earlier | later
        · exact absurd earlier inFront
        · exact (List.mem_cons.mp later).resolve_left different
      have regrouped : (router.getChain env tier).models = (front ++ [model]) ++ behind := by
        rw [chain, append_assoc, singleton_append]
      have absent : winner ∉ front ++ [model] := by
        intro there
        rcases mem_append.mp there with earlier | last
        · exact inFront earlier
        · exact different (mem_singleton.mp last)
      have early := lower model (placed regrouped absent
        (mem_append_right front (mem_singleton_self model)) offered)
      rw [ranked offered, ranked own] at early
      exact absurd (notLower winner inBehind own tried early.1) (not_le.mpr early.2)

/-! ### The tiers in turn -/

/-- The later router has the same models on offer, with the same statistics. -/
structure Agrees (env : SelectionEnv) (now : Clock) (maxCost : Option ℚ)
    (router later : TierRouter) : Prop where
  follows : Follows now router later
  usable : ∀ model, router.Usable env now maxCost model →
    env.isWithinCostLane model env.maxCostLaneCeiling = true → later.Usable env now maxCost model
  stats : ∀ model, router.Usable env now maxCost model →
    env.isWithinCostLane model env.maxCostLaneCeiling = true →
      later.modelStats model = router.modelStats model

theorem agrees_of_empty (empty : (router.findCandidatesInTier env now maxCost tier).1 = []) :
    Agrees env now maxCost router (router.findCandidatesInTier env now maxCost tier).2 := by
  have unlisted : ∀ model, router.Usable env now maxCost model →
      env.isWithinCostLane model env.maxCostLaneCeiling = true →
        model ∉ (router.getChain env tier).models := by
    intro model usable within listed
    exact findCandidates_ne_nil listed usable within empty
  constructor
  · exact follows_findCandidates _ router
  · intro model usable within
    exact usable.after_chain (unlisted model usable within)
  · intro model usable within
    exact findCandidates_unlisted (unlisted model usable within)

theorem Agrees.offered (agrees : Agrees env now maxCost router later) :
    later.Offered env now maxCost tier model ↔ router.Offered env now maxCost tier model := by
  have chains : later.getChain env tier = router.getChain env tier :=
    getChain_follows agrees.follows tier
  constructor
  · intro offered
    obtain ⟨⟨listed, usable⟩, within⟩ := offered
    exact ⟨⟨chains ▸ listed, usable.earlier agrees.follows⟩, within⟩
  · intro offered
    obtain ⟨⟨listed, usable⟩, within⟩ := offered
    exact ⟨⟨chains.symm ▸ listed, agrees.usable model usable within⟩, within⟩

theorem Agrees.rank (agrees : Agrees env now maxCost router later)
    (offered : router.Offered env now maxCost tier model) :
    later.rank env now model = router.rank env now model := by
  rw [TierRouter.rank, TierRouter.rank, agrees.stats model offered.1.2 offered.2]

theorem Agrees.freshInTier (agrees : Agrees env now maxCost router later) :
    later.FreshInTier env now maxCost exclude preferHealthy tier ↔
      router.FreshInTier env now maxCost exclude preferHealthy tier := by
  have chains : later.getChain env tier = router.getChain env tier :=
    getChain_follows agrees.follows tier
  constructor
  · intro fresh
    obtain ⟨front, model, behind, chain, offered, untried, higher, notLower⟩ := fresh
    have own := agrees.offered.mp offered
    refine ⟨front, model, behind, chains ▸ chain, own, untried, ?_, ?_⟩
    · intro other listed there tried
      have less := higher other listed (agrees.offered.mpr there) tried
      rwa [agrees.rank there, agrees.rank own] at less
    · intro other listed there tried healthy
      have less := notLower other listed (agrees.offered.mpr there) tried healthy
      rwa [agrees.rank there, agrees.rank own] at less
  · intro fresh
    obtain ⟨front, model, behind, chain, own, untried, higher, notLower⟩ := fresh
    refine ⟨front, model, behind, (congrArg FallbackChain.models chains).trans chain,
      agrees.offered.mpr own, untried, ?_, ?_⟩
    · intro other listed offered tried
      have there := agrees.offered.mp offered
      rw [agrees.rank there, agrees.rank own]
      exact higher other listed there tried
    · intro other listed offered tried healthy
      have there := agrees.offered.mp offered
      rw [agrees.rank there, agrees.rank own]
      exact notLower other listed there tried healthy

theorem Agrees.freshInNearest (agrees : Agrees env now maxCost router later)
    {tiers : List ModelTier} :
    later.FreshInNearest env now maxCost exclude preferHealthy tiers ↔
      router.FreshInNearest env now maxCost exclude preferHealthy tiers := by
  induction tiers with
  | nil => exact Iff.rfl
  | cons tier rest ih =>
      have none_ : (∀ model, ¬ later.Offered env now maxCost tier model) ↔
          ∀ model, ¬ router.Offered env now maxCost tier model :=
        forall_congr' fun _ => not_congr agrees.offered
      exact or_congr agrees.freshInTier (and_congr none_ ih)

theorem findCandidatesInTier_empty_iff :
    (router.findCandidatesInTier env now maxCost tier).1 = [] ↔
      ∀ model, ¬ router.Offered env now maxCost tier model := by
  rw [findCandidatesInTier_eq_nil, hasOffer_singleton, not_exists]

theorem crossTierSearch_untried_iff {tiers : List ModelTier} {winner : String}
    (chosen : (router.crossTierSearch env now maxCost tiers).2.choose env none preferHealthy
      (router.crossTierSearch env now maxCost tiers).1 = .model winner) :
    winner ∉ exclude ↔
      router.FreshInNearest env now maxCost exclude preferHealthy tiers := by
  induction tiers generalizing router with
  | nil => cases choose_mem chosen
  | cons tier rest ih =>
      by_cases empty : (router.findCandidatesInTier env now maxCost tier).1 = []
      · have nothing := findCandidatesInTier_empty_iff.mp empty
        have agrees := agrees_of_empty empty
        simp only [crossTierSearch] at chosen
        rw [if_pos (List.isEmpty_iff.mpr empty)] at chosen
        rw [ih chosen, agrees.freshInNearest]
        constructor
        · exact fun fresh => .inr ⟨nothing, fresh⟩
        · intro fresh
          rcases fresh with ⟨_, model, _, _, offered, _⟩ | ⟨_, later⟩
          · exact absurd offered (nothing model)
          · exact later
      · simp only [crossTierSearch] at chosen
        rw [if_neg (fun found => empty (List.isEmpty_iff.mp found))] at chosen
        rw [choose_untried_iff chosen]
        constructor
        · exact Or.inl
        · intro fresh
          rcases fresh with own | ⟨nothing, _⟩
          · exact own
          · exact absurd (findCandidatesInTier_empty_iff.mpr nothing) empty

theorem getModelForTier_widened (nothing : ∀ model, ¬ router.Offered env now maxCost tier model)
    (some_ : router.HasOffer env now maxCost tier.eligible) :
    ∃ winner, (router.getModelForTier env now tier exclude preferHealthy maxCost true).1 =
        .model winner ∧
      ((router.findCandidatesInTier env now maxCost tier).2.crossTierSearch env now maxCost
        tier.eligible).2.choose env none preferHealthy
          ((router.findCandidatesInTier env now maxCost tier).2.crossTierSearch env now maxCost
            tier.eligible).1 = .model winner := by
  have empty := findCandidatesInTier_empty_iff.mpr nothing
  have filled : ((router.findCandidatesInTier env now maxCost tier).2.crossTierSearch env now
      maxCost tier.eligible).1 ≠ [] :=
    fun none_ => crossTierSearch_eq_nil.mp none_ (some_.after_empty empty)
  obtain ⟨winner, chosen⟩ : ∃ winner, ((router.findCandidatesInTier env now maxCost
      tier).2.crossTierSearch env now maxCost tier.eligible).2.choose env none preferHealthy
        ((router.findCandidatesInTier env now maxCost tier).2.crossTierSearch env now maxCost
          tier.eligible).1 = .model winner := choose_of_candidates filled
  refine ⟨winner, ?_, chosen⟩
  simp only [getModelForTier, empty, untried, widen, isEmpty_nil, Bool.not_true, Bool.and_false,
    Bool.and_true, Bool.false_eq_true, if_false, if_true, Bool.true_or]
  rw [if_neg (fun found => filled (List.isEmpty_iff.mp found))]
  exact chosen

theorem getModelForTier_selects (nothing : ∀ model, ¬ router.Offered env now maxCost tier model)
    (some_ : router.HasOffer env now maxCost tier.eligible) :
    ∃ winner, (router.getModelForTier env now tier exclude preferHealthy maxCost true).1 =
      .model winner := by
  obtain ⟨winner, selected, _⟩ := getModelForTier_widened nothing some_
  exact ⟨winner, selected⟩

theorem getModelForTier_untried_iff (nothing : ∀ model, ¬ router.Offered env now maxCost tier model)
    (some_ : router.HasOffer env now maxCost tier.eligible) :
    (∃ model, (router.getModelForTier env now tier exclude preferHealthy maxCost true).1 =
        .model model ∧ model ∉ exclude) ↔
      router.FreshInNearest env now maxCost exclude preferHealthy tier.eligible := by
  have agrees := agrees_of_empty (findCandidatesInTier_empty_iff.mpr nothing)
  obtain ⟨winner, selected, chosen⟩ : ∃ winner, (router.getModelForTier env now tier exclude
      preferHealthy maxCost true).1 = .model winner ∧ _ := getModelForTier_widened nothing some_
  rw [selected, ← agrees.freshInNearest, ← crossTierSearch_untried_iff chosen]
  constructor
  · intro retried
    obtain ⟨model, same, untried⟩ := retried
    cases same
    exact untried
  · intro untried
    exact ⟨winner, rfl, untried⟩

end TierRouter

/-! ### The rounds of a call -/

namespace FallbackRound

/-- The tier offers nothing, and another tier has a model on offer that was not tried. -/
def Stranded (round : FallbackRound) (tier : ModelTier) (state : FallbackState) : Prop :=
  (∀ model, ¬ state.router.Offered round.env round.now none tier model) ∧
    ∃ other, other ∈ tier.eligible ∧ ∃ model,
      state.router.Offered round.env round.now none other model ∧ model ∉ state.tried

def Stops (round : FallbackRound) (tier : ModelTier) (state : FallbackState) : Prop :=
  (round.run tier state).2 = some (.allModelsFailed state.tried state.lastError)

theorem stops_iff {round : FallbackRound} {tier : ModelTier} {state : FallbackState}
    {model : String} (choice : round.selected tier state = .model model) :
    round.Stops tier state ↔ model ∈ state.tried := by
  have selected : (state.router.getModelForTier round.env round.now tier state.tried true none
    true).1 = .model model := choice
  simp only [Stops, run, selected]
  by_cases repeated : model ∈ state.tried
  · rw [if_pos repeated]
    exact iff_of_true rfl repeated
  · rw [if_neg repeated]
    refine iff_of_false ?_ repeated
    by_cases ready : round.ready = true
    · rw [if_pos ready, attempt_result]
      cases round.outcome with
      | returned | circuitResolved | cancelled => exact nofun
      | unrecorded error recording | raised error recording =>
          cases recording with
          | none => exact nofun
          | some second => exact nofun
    · rw [if_neg ready]
      exact nofun

end FallbackRound

def EachReached (tier : ModelTier) (holds : FallbackRound → FallbackState → Prop) :
    List FallbackRound → FallbackState → Prop
  | [], _ => True
  | round :: rest, state => holds round state ∧
      ((round.run tier state).2 = none → EachReached tier holds rest (round.run tier state).1)

theorem EachReached.congr {tier : ModelTier} {left right : FallbackRound → FallbackState → Prop}
    (same : ∀ round state, left round state ↔ right round state) (rounds : List FallbackRound)
    (state : FallbackState) :
    EachReached tier left rounds state ↔ EachReached tier right rounds state := by
  induction rounds generalizing state with
  | nil => exact Iff.rfl
  | cons round rest ih => exact and_congr (same round state) (imp_congr Iff.rfl (ih _))

/-- With nothing on offer in the tier and an untried model on offer in another, the selection is
a model that was not tried exactly when the untried models lead the ranking of the nearest tier
with an offer; and no round of a call with a fallback stops short exactly when it is so in all. -/
theorem cross_tier_retry_iff (env : SelectionEnv) (router : TierRouter) (now : Clock)
    (tier : ModelTier) (exclude : List String) (preferHealthy : Bool) (maxCost : Option ℚ)
    (rounds : List FallbackRound) (state : FallbackState) :
    ((∀ model, ¬ router.Offered env now maxCost tier model) →
      (∃ other, other ∈ tier.eligible ∧ ∃ model, router.Offered env now maxCost other model ∧
        model ∉ exclude) →
      ((∃ model, (router.getModelForTier env now tier exclude preferHealthy maxCost true).1 =
          .model model ∧ model ∉ exclude) ↔
        router.FreshInNearest env now maxCost exclude preferHealthy tier.eligible)) ∧
    (EachReached tier (fun round state => round.Stranded tier state →
          ¬ round.Stops tier state) rounds state ↔
        EachReached tier (fun round state => round.Stranded tier state →
          state.router.FreshInNearest round.env round.now none state.tried true tier.eligible)
          rounds state) := by
  have selection : ∀ (env : SelectionEnv) (router : TierRouter) (now : Clock) (tier : ModelTier)
      (exclude : List String) (preferHealthy : Bool) (maxCost : Option ℚ),
      (∀ model, ¬ router.Offered env now maxCost tier model) →
      (∃ other, other ∈ tier.eligible ∧ ∃ model, router.Offered env now maxCost other model ∧
        model ∉ exclude) →
      ((∃ model, (router.getModelForTier env now tier exclude preferHealthy maxCost true).1 =
          .model model ∧ model ∉ exclude) ↔
        router.FreshInNearest env now maxCost exclude preferHealthy tier.eligible) := by
    intro env router now tier exclude preferHealthy maxCost nothing untried
    obtain ⟨other, member, model, offered, _⟩ := untried
    exact TierRouter.getModelForTier_untried_iff nothing ⟨other, member, model, offered⟩
  refine ⟨selection env router now tier exclude preferHealthy maxCost, ?_⟩
  apply EachReached.congr
  intro round state
  apply imp_congr_right
  intro stranded
  have retried := selection round.env state.router round.now tier state.tried true none
    stranded.1 stranded.2
  obtain ⟨other, member, model, offered, _⟩ := stranded.2
  obtain ⟨chosen, choice⟩ : ∃ chosen, round.selected tier state = .model chosen :=
    TierRouter.getModelForTier_selects stranded.1 ⟨other, member, model, offered⟩
  rw [FallbackRound.stops_iff choice, ← retried]
  constructor
  · intro untried
    exact ⟨chosen, choice, untried⟩
  · intro some_
    obtain ⟨found, selected, untried⟩ := some_
    cases choice.symm.trans selected
    exact untried

/-! ### One tier with two models -/

/-- Tier 1 has two models, ranked by `score`. -/
def spareTier (score : String → ℚ) : SelectionEnv where
  models := []
  defaultChains := {
    chain := fun tier =>
      if tier = .tier1 then some ⟨["gh:first", "gh:second"], nofun⟩ else some ⟨["gh:own"], nofun⟩
    tier2 := ⟨["gh:own"], nofun⟩
    hasTier2 := rfl }
  score := fun model _ => score model

def evicted : TierRouter where
  unavailableModels := ["gh:own"]

theorem spareTier_own (score : String → ℚ) (now : Clock) (model : String) :
    ¬ evicted.Offered (spareTier score) now none .tier2 model := by
  have empty : (evicted.findCandidatesInTier (spareTier score) now none .tier2).1 = [] := rfl
  exact TierRouter.findCandidatesInTier_empty_iff.mp empty model

theorem spareTier_second (score : String → ℚ) (now : Clock) :
    evicted.Offered (spareTier score) now none .tier1 "gh:second" := by
  have usable : evicted.Usable (spareTier score) now none "gh:second" := ⟨rfl, rfl, rfl, rfl, nofun⟩
  have listed : "gh:second" ∈ (evicted.getChain (spareTier score) .tier1).models :=
    mem_cons_of_mem "gh:first" mem_cons_self
  have paid : RoutingEnv.maxCostLaneCeiling { models := [] } = .paid := by decide +kernel
  have ceiling : (spareTier score).maxCostLaneCeiling = .paid := paid
  have within : (spareTier score).isWithinCostLane "gh:second" .paid = true := by
    rw [RoutingEnv.isWithinCostLane]
    cases (spareTier score).costLaneFor "gh:second" <;> rfl
  exact ⟨⟨listed, usable⟩, ceiling.symm ▸ within⟩

/-- The second model ranks before the first one, which was tried. -/
theorem second_selected : ∃ model,
    (evicted.getModelForTier (spareTier fun model => if model = "gh:second" then 1 else 0) ⟨0, 0⟩
      .tier2 ["gh:first"] true none true).1 = .model model ∧ model ∉ ["gh:first"] := by
  have second := spareTier_second (fun model => if model = "gh:second" then 1 else 0) ⟨0, 0⟩
  have apart : "gh:second" ∉ ["gh:first"] := by decide
  apply ((cross_tier_retry_iff _ evicted ⟨0, 0⟩ .tier2 ["gh:first"] true none [] {}).1
    (spareTier_own _ _) ⟨.tier1, by decide, "gh:second", second, apart⟩).mpr
  have eligible : ModelTier.eligible .tier2 = [.tier1, .tier3, .tier4, .tier5] := by decide
  rw [eligible]
  refine .inl ⟨["gh:first"], "gh:second", [], rfl, second, apart, ?_, nofun⟩
  intro other listed _ _
  rw [mem_singleton.mp listed]
  exact ⟨rfl, by decide⟩

/-- The first model is skipped, and selected again while the second has not been tried. -/
theorem tried_model_selected_again :
    (∀ model, ¬ evicted.Offered (spareTier fun _ => 0) ⟨0, 0⟩ none .tier2 model) ∧
    (∃ other, other ∈ ModelTier.eligible .tier2 ∧ ∃ model,
      evicted.Offered (spareTier fun _ => 0) ⟨0, 0⟩ none other model ∧ model ∉ ["gh:first"]) ∧
    (evicted.getModelForTier (spareTier fun _ => 0) ⟨0, 0⟩ .tier2 ["gh:first"] true none true).1 =
      .model "gh:first" ∧
    (callWithFallback .tier2
      [{ env := spareTier fun _ => 0, ready := false, outcome := .returned },
        { env := spareTier fun _ => 0, outcome := .returned }] { router := evicted }).2 =
      .allModelsFailed ["gh:first"] none := by
  refine ⟨spareTier_own _ _, ⟨.tier1, by decide, "gh:second", spareTier_second _ _, by decide⟩, ?_,
    ?_⟩
  · decide +kernel
  · decide +kernel

end AgenticRuntime
