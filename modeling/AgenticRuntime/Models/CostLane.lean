/-
Cost lanes, the ceiling over them and the quarantine.

What a call reads of the registry, of the environment and of the quarantine set
stays the same during the call.
-/

import AgenticRuntime.Langchain.Config

namespace AgenticRuntime

inductive CostLane where
  | onDevice
  | free
  | paid
  deriving DecidableEq, Repr

namespace CostLane

/-- `_LANE_RANK`: the first lane is `"local"` in the source. -/
def rank : CostLane → Nat
  | .onDevice => 0
  | .free => 1
  | .paid => 2

theorem rank_le_paid (lane : CostLane) : lane.rank ≤ CostLane.paid.rank := by
  cases lane with
  | onDevice => exact Nat.zero_le 2
  | free => exact Nat.le_succ 1
  | paid => exact Nat.le_refl 2

end CostLane

structure RegisteredModel where
  id : String
  provider : String
  costLane : Option CostLane := none
  deriving DecidableEq, Repr

/-- `maxCostLane` is the text of `AGENTIC_MAX_COST_LANE`, and `ollamaBaseIsLoopback`,
`hasOllamaApiKey` and `isServedLocally` are what `cost_lane_for` asks about Ollama. -/
structure RoutingEnv where
  models : List RegisteredModel
  maxCostLane : String := ""
  quarantined : List String := []
  ollamaBaseIsLoopback : Bool := true
  hasOllamaApiKey : Bool := false
  isServedLocally : String → Bool := fun _ => true

namespace RoutingEnv

variable (env : RoutingEnv) (modelId : String)

/-- `load_registry().by_id().get(model_id)`, where the last entry of an id wins. -/
def byId : Option RegisteredModel :=
  env.models.reverse.find? fun entry => entry.id = modelId

def costLaneFor : CostLane :=
  let lane := ((env.byId modelId).bind RegisteredModel.costLane).getD .paid
  if lane = .onDevice ∧ "ollama:".toList.isPrefixOf modelId.toList then
    if !env.ollamaBaseIsLoopback then .free
    else if env.hasOllamaApiKey && !env.isServedLocally (String.ofList (modelId.toList.drop 7)) then
      .free
    else lane
  else lane

def isWithinCostLane (ceiling : CostLane) : Bool :=
  (env.costLaneFor modelId).rank ≤ ceiling.rank

/-- `max_cost_lane_ceiling`: an unrecognised value filters nothing. -/
def maxCostLaneCeiling : CostLane :=
  match String.ofList ((strip env.maxCostLane).toList.map Char.toLower) with
  | "local" => .onDevice
  | "free" => .free
  | _ => .paid

def isQuarantined : Bool := modelId ∈ env.quarantined

/-- `apply_cost_lane_ceiling`; `none` is the `CostLaneCeilingExceededError`. -/
def applyCostLaneCeiling (candidates : List String) (ceiling : Option CostLane) :
    Option (List String) :=
  let resolved := ceiling.getD env.maxCostLaneCeiling
  if resolved = .paid then some candidates
  else
    let withinCeiling := candidates.filter fun model => env.isWithinCostLane model resolved
    if !candidates.isEmpty && withinCeiling.isEmpty then none else some withinCeiling

/-- `enforce_cost_lane_ceiling` without a ceiling of its own raises nothing. -/
def enforceCostLaneCeiling : Bool :=
  env.maxCostLaneCeiling = .paid || env.isWithinCostLane modelId env.maxCostLaneCeiling

variable {env}

/-- The two guards that skip the test under `paid` test the same. -/
theorem within_of_guard {modelId : String}
    (allowed : env.maxCostLaneCeiling = .paid ∨
      env.isWithinCostLane modelId env.maxCostLaneCeiling = true) :
    env.isWithinCostLane modelId env.maxCostLaneCeiling = true := by
  rcases allowed with all | within
  · rw [all]
    exact decide_eq_true (CostLane.rank_le_paid _)
  · exact within

theorem enforceCostLaneCeiling_eq : env.enforceCostLaneCeiling modelId =
    env.isWithinCostLane modelId env.maxCostLaneCeiling := by
  unfold enforceCostLaneCeiling
  cases within : env.isWithinCostLane modelId env.maxCostLaneCeiling with
  | true => exact Bool.or_true _
  | false =>
      rw [Bool.or_false, decide_eq_false_iff_not]
      intro all
      rw [within_of_guard (.inl all)] at within
      cases within

theorem applyCostLaneCeiling_eq (candidates : List String) :
    env.applyCostLaneCeiling candidates none =
      if candidates ≠ [] ∧ ∀ model, model ∈ candidates →
          env.isWithinCostLane model env.maxCostLaneCeiling = false then none
      else some (candidates.filter fun model =>
        env.isWithinCostLane model env.maxCostLaneCeiling) := by
  have unlimited : env.maxCostLaneCeiling = .paid → ∀ model,
      env.isWithinCostLane model env.maxCostLaneCeiling = true :=
    fun all model => within_of_guard (.inl all)
  unfold applyCostLaneCeiling
  simp only [Option.getD_none]
  by_cases all : env.maxCostLaneCeiling = .paid
  · rw [if_pos all, if_neg]
    · rw [List.filter_eq_self.mpr fun model _ => unlimited all model]
    · rintro ⟨present, excluded⟩
      obtain ⟨model, member⟩ := List.exists_mem_of_ne_nil candidates present
      have outside := excluded model member
      rw [unlimited all model] at outside
      cases outside
  · rw [if_neg all]
    by_cases refused : candidates ≠ [] ∧ ∀ model, model ∈ candidates →
        env.isWithinCostLane model env.maxCostLaneCeiling = false
    · rw [if_pos refused, if_pos]
      have nothing : candidates.filter (fun model =>
          env.isWithinCostLane model env.maxCostLaneCeiling) = [] := by
        rw [List.filter_eq_nil_iff]
        intro model member within
        rw [refused.2 model member] at within
        cases within
      rw [nothing]
      cases candidates with
      | nil => exact absurd rfl refused.1
      | cons first rest => rfl
    · rw [if_neg refused, if_neg]
      intro stopped
      obtain ⟨present, nothing⟩ := (Bool.and_eq_true _ _).mp stopped
      refine refused ⟨?_, ?_⟩
      · rintro rfl
        cases present
      · intro model member
        have dropped := List.filter_eq_nil_iff.mp (List.isEmpty_iff.mp nothing) model member
        exact Bool.eq_false_iff.mpr dropped

end RoutingEnv

end AgenticRuntime
