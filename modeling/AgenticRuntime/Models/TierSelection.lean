/-
How a router selects a model for a tier.

Asking whether a model is available or its circuit lets a call through changes
the router, so a search hands the router on from one model to the next.
-/

import AgenticRuntime.Models.CostLane
import AgenticRuntime.Models.ModelStats

namespace AgenticRuntime

inductive ModelTier where
  | tier0
  | tier1
  | tier2
  | tier3
  | tier4
  | tier5
  deriving DecidableEq, Repr

namespace ModelTier

def value : ModelTier → Nat
  | .tier0 => 0
  | .tier1 => 1
  | .tier2 => 2
  | .tier3 => 3
  | .tier4 => 4
  | .tier5 => 5

def all : List ModelTier := [.tier0, .tier1, .tier2, .tier3, .tier4, .tier5]

/-- `tier_priority`: the distance first, then the lower tier. -/
def priority (original tier : ModelTier) : Nat × Nat :=
  ((tier.value - original.value) + (original.value - tier.value),
    if tier.value < original.value then 0 else 1)

/-- The tiers that `_cross_tier_search` goes through, in its order. -/
def eligible (original : ModelTier) : List ModelTier :=
  (all.filter fun tier => tier ≠ original ∧ tier ≠ .tier0).insertionSort fun first second =>
    let left := original.priority first
    let right := original.priority second
    left.1 < right.1 ∨ (left.1 = right.1 ∧ left.2 ≤ right.2)

end ModelTier

structure FallbackChain where
  models : List String
  nonempty : models ≠ []

/-- `DEFAULT_CHAINS`; the registry is refused without a chain for tier 2. -/
structure DefaultChains where
  chain : ModelTier → Option FallbackChain
  tier2 : FallbackChain
  hasTier2 : chain .tier2 = some tier2

/-- `DEFAULT_CHAINS.get(tier, DEFAULT_CHAINS[TIER_2])` -/
def DefaultChains.get (chains : DefaultChains) (tier : ModelTier) : FallbackChain :=
  (chains.chain tier).getD chains.tier2

/-- `score` stands for the health score of a model, and `tierPin` for the text of
`AGENTIC_MODEL_TIER_{N}`. -/
structure SelectionEnv extends RoutingEnv where
  defaultChains : DefaultChains
  tierPin : ModelTier → String := fun _ => ""
  noLlm : Bool := false
  score : String → ModelStats → ℚ := fun _ _ => 0

structure TierRouter where
  customChains : ModelTier → Option FallbackChain := fun _ => none
  availableModels : List String := []
  unavailableModels : List String := []
  healthChecker : Option (String → Bool) := none
  modelStats : String → ModelStats := fun _ => {}
  modelCosts : String → ℚ := fun _ => 0

/-- What `get_model_for_tier` gives back, or `NoProviderConfiguredError`. -/
inductive Selected where
  | model (name : String)
  | nothing
  | noProviderConfigured
  deriving DecidableEq, Repr

def ModelStats.isInCooldown (stats : ModelStats) (now : Clock) : Bool :=
  match stats.cooldownUntilMono with
  | none => false
  | some deadline => now.mono < deadline

namespace TierRouter

variable (env : SelectionEnv)

def envTierPin (tier : ModelTier) : Option String :=
  if tier = .tier0 then none
  else
    let value := strip (env.tierPin tier)
    if value = "" then none else some value

def pinnedChain (pinned : String) (rest : FallbackChain) : FallbackChain where
  models := pinned :: rest.models.filter fun model => model ≠ pinned
  nonempty := List.cons_ne_nil _ _

variable (router : TierRouter)

def getChain (tier : ModelTier) : FallbackChain :=
  match router.customChains tier with
  | some custom => custom
  | none =>
      match envTierPin env tier with
      | none => env.defaultChains.get tier
      | some pinned => pinnedChain pinned (env.defaultChains.get tier)

/-- `is_model_available`: the answer, and the caches with it. -/
def isModelAvailable (model : String) : Bool × TierRouter :=
  if model ∈ router.availableModels then (true, router)
  else if model ∈ router.unavailableModels then (false, router)
  else
    match router.healthChecker with
    | none => (true, router)
    | some checker =>
        if checker model then
          (true, { router with availableModels := model :: router.availableModels })
        else (false, { router with unavailableModels := model :: router.unavailableModels })

/-- `stats.check_circuit()`, which may half-open the circuit. -/
def checkCircuit (router : TierRouter) (now : Clock) (model : String) : Bool × TierRouter :=
  let checked := (router.modelStats model).checkCircuit now
  (checked.1, { router with modelStats := Function.update router.modelStats model checked.2 })

/-- One round of the loop of `_find_candidates_in_tier`: whether the model is a candidate. -/
def isCandidate (now : Clock) (maxCost : Option ℚ) (model : String) :
    Bool × TierRouter :=
  if env.isQuarantined model then (false, router)
  else
    let (available, probed) := router.isModelAvailable model
    if !available then (false, probed)
    else if !env.enforceCostLaneCeiling model then (false, probed)
    else
      let (closed, checked) := probed.checkCircuit now model
      if !closed then (false, checked)
      else if (checked.modelStats model).isInCooldown now then (false, checked)
      else
        match maxCost with
        | some limit => (checked.modelCosts model ≤ limit, checked)
        | none => (true, checked)

/-- `_find_candidates_in_tier`, over the chain of the tier. -/
def findCandidates (router : TierRouter) (now : Clock) (maxCost : Option ℚ) :
    List String → List String × TierRouter
  | [] => ([], router)
  | model :: rest =>
      let (candidate, next) := router.isCandidate env now maxCost model
      let (found, last) := findCandidates next now maxCost rest
      (if candidate then model :: found else found, last)

def findCandidatesInTier (now : Clock) (maxCost : Option ℚ) (tier : ModelTier) :
    List String × TierRouter :=
  router.findCandidates env now maxCost (router.getChain env tier).models

/-- `_cross_tier_search`: the first tier that has candidates. -/
def crossTierSearch (router : TierRouter) (now : Clock) (maxCost : Option ℚ) :
    List ModelTier → List String × TierRouter
  | [] => ([], router)
  | tier :: rest =>
      let (candidates, next) := router.findCandidatesInTier env now maxCost tier
      if candidates.isEmpty then crossTierSearch next now maxCost rest else (candidates, next)

def best (candidates : List String) : Option String :=
  (candidates.insertionSort fun first second =>
    env.score second (router.modelStats second) ≤ env.score first (router.modelStats first)).head?

def keepPinned (pinned : Option String) (candidates : List String) : List String :=
  match candidates.find? fun model => some model = pinned with
  | some hit => [hit]
  | none => candidates

/-- What `get_model_for_tier` does with the candidates it has found. `pinned` is the tier's own
pin, if it counts. -/
def choose (pinned : Option String) (preferHealthy : Bool) (candidates : List String) : Selected :=
  let kept := keepPinned pinned candidates
  let selected := if !preferHealthy || kept.length = 1 then kept.head? else router.best env kept
  match selected with
  | some model => .model model
  | none => .nothing

def untried (exclude found : List String) : List String :=
  if !exclude.isEmpty && !found.isEmpty then found.filter fun model => model ∉ exclude else found

def widen (now : Clock) (tier : ModelTier) (maxCost : Option ℚ) (allowCrossTier : Bool)
    (own : List String) : List String × TierRouter :=
  if own.isEmpty && allowCrossTier then router.crossTierSearch env now maxCost tier.eligible
  else (own, router)

/-- `SmartModelRouter.get_model_for_tier` -/
def getModelForTier (now : Clock) (tier : ModelTier) (exclude : List String) (preferHealthy : Bool)
    (maxCost : Option ℚ) (allowCrossTier : Bool) :
    Selected × TierRouter :=
  let (found, first) := router.findCandidatesInTier env now maxCost tier
  let own := untried exclude found
  if own.isEmpty && !found.isEmpty then (.nothing, first)
  else
    let (candidates, last) := first.widen env now tier maxCost allowCrossTier own
    if candidates.isEmpty then
      (if allowCrossTier && !env.noLlm then .noProviderConfigured else .nothing, last)
    else
      let degraded := own.isEmpty
      let pinned :=
        if degraded || (last.customChains tier).isSome then none else envTierPin env tier
      (last.choose env pinned preferHealthy candidates, last)

end TierRouter

end AgenticRuntime
