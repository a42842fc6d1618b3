/-
The candidates of the LangChain engine for a tier, from five sources.
-/

import AgenticRuntime.Models.CostLane

namespace AgenticRuntime.Langchain

open Python List

/-- `os.environ` is a function, `tierOverrides` are the UI settings or the exception their store
raises, and `packChains` are the chains of the pack of the run. -/
structure CandidateSources where
  environ : String → Option String := fun _ => none
  tierOverrides : Except String (Nat → List String) := .ok fun _ => []
  packChains : Option (Nat → Option (List String)) := none
  tierDefaults : Nat → Option String := fun _ => none
  ultimateFallback : String := "ollama:qwen3:8b"
  tierFallbackChains : Nat → Option (List String) := fun _ => none
  providerEnvKeys : String → List String := fun _ => []

/-- `dedupe_keep_order`: the texts are stripped and blank ones left out. -/
def dedupeKeepOrder (items : List String) : List String :=
  items.foldl (fun out item =>
    let val := strip item
    if val = "" ∨ val ∈ out then out else out ++ [val]) []

/-- `env_val.strip()`, where an unset variable is an empty one. -/
def CandidateSources.getenv (sources : CandidateSources) (key : String) : String :=
  strip ((sources.environ key).getD "")

/-- `resolve_model_override`; an error is a `ValueError`. -/
def resolveModelOverride (sources : CandidateSources) (modelOverride : String) :
    Except String String :=
  match modelOverride.toList.dropPrefix? "env:".toList with
  | none => .ok modelOverride
  | some named =>
      let raw := strip (String.ofList named)
      if raw = "" then .error "Invalid model override 'env:' (missing variable name)."
      else
        let key := strip (String.ofList (raw.toList.takeWhile fun c => c ≠ '|'))
        let fallback := strip (String.ofList ((raw.toList.dropWhile fun c => c ≠ '|').drop 1))
        if key = "" then .error "Invalid model override: missing env var name."
        else
          let value := sources.getenv key
          if value ≠ "" then .ok value
          else if fallback ≠ "" ∨ '|' ∈ raw.toList then .ok fallback
          else
            .error s!"Model override requires environment variable '{key}', but it is not set."

/-- `tier_override_models`: the run's pack comes before the settings. -/
def tierOverrideModels (sources : CandidateSources) (tier : Nat) : Except String (List String) :=
  match sources.packChains.bind fun chains => chains tier with
  | some chain => .ok chain
  | none => sources.tierOverrides.map fun overrides => overrides tier

/-- `provider_for`: the curated provider, or the text in front of the first colon. -/
def providerFor (env : RoutingEnv) (modelId : String) : String :=
  match env.byId modelId with
  | some entry => entry.provider
  | none =>
      if ':' ∈ modelId.toList then String.ofList (modelId.toList.takeWhile fun c => c ≠ ':')
      else "ollama"

def isProviderAvailable (sources : CandidateSources) (provider : String) : Bool :=
  let keys := sources.providerEnvKeys provider
  keys.isEmpty || keys.any fun key => (sources.environ key).getD "" ≠ ""

/-- What is put in front of the fallback chain. The exception of the settings store is
swallowed. -/
def pinnedModels (sources : CandidateSources) (tier : Nat) (modelOverride : Option String) :
    Except String (List String) :=
  let own : Except String (List String) :=
    match modelOverride with
    | none => .ok []
    | some text =>
        if text = "" then .ok []
        else (resolveModelOverride sources text).map fun resolved =>
          if resolved = "" then [] else [resolved]
  own.map fun first =>
    let envVal := sources.getenv s!"AGENTIC_MODEL_TIER_{tier}"
    let settings := match tierOverrideModels sources tier with
      | .ok ranking => ranking
      | .error _ => []
    let fallback := (sources.tierDefaults tier).getD
      ((sources.tierDefaults 2).getD sources.ultimateFallback)
    first ++ (if envVal = "" then [] else [envVal]) ++ settings ++
      (if fallback = "" then [] else [fallback])

inductive CandidateError where
  | valueError (message : String)
  | ceilingExceeded
  deriving DecidableEq, Repr

/-- `get_model_candidates_for_tier` in front of the ceiling, without unavailable models. -/
def unlimitedCandidates (env : RoutingEnv) (sources : CandidateSources) (tier : Nat)
    (modelOverride : Option String) : Except String (List String) :=
  (pinnedModels sources tier modelOverride).map fun pinned =>
    let orderedPinned := (dedupeKeepOrder pinned).filter fun model => !env.isQuarantined model
    let fallback := (sources.tierFallbackChains tier).getD
      ((sources.tierFallbackChains 2).getD [])
    let filteredFallback := (dedupeKeepOrder fallback).filter fun model =>
      isProviderAvailable sources (providerFor env model) && !env.isQuarantined model
    dedupeKeepOrder (orderedPinned ++ filteredFallback)

def getModelCandidatesForTier (env : RoutingEnv) (sources : CandidateSources) (tier : Nat)
    (modelOverride : Option String) (maxCostLane : Option CostLane) :
    Except CandidateError (List String) :=
  match unlimitedCandidates env sources tier modelOverride with
  | .error message => .error (.valueError message)
  | .ok candidates =>
      match env.applyCostLaneCeiling candidates maxCostLane with
      | none => .error .ceilingExceeded
      | some kept => .ok kept

/-! ### What is handed out -/

theorem mem_dedupeKeepOrder {items : List String} {text : String}
    (member : text ∈ dedupeKeepOrder items) : ∃ item, item ∈ items ∧ text = strip item := by
  have collected : ∀ (rest out : List String), (∀ seen, seen ∈ out → ∃ item, item ∈ items ∧
      seen = strip item) → (∀ item, item ∈ rest → item ∈ items) →
      ∀ seen, seen ∈ rest.foldl (fun out item =>
        let val := strip item
        if val = "" ∨ val ∈ out then out else out ++ [val]) out →
      ∃ item, item ∈ items ∧ seen = strip item := by
    intro rest
    induction rest with
    | nil => exact fun out known _ => known
    | cons first rest ih =>
        intro out known within
        apply ih
        · intro seen there
          dsimp only at there
          split at there
          · exact known seen there
          · rcases mem_append.mp there with old | new
            · exact known seen old
            · exact ⟨first, within first mem_cons_self, mem_singleton.mp new⟩
        · exact fun item later => within item (mem_cons_of_mem _ later)
  exact collected items [] nofun (fun _ same => same) text member

variable {env : RoutingEnv} {sources : CandidateSources} {tier : Nat}
  {modelOverride : Option String} {candidates : List String}

theorem unlimitedCandidates_live
    (found : unlimitedCandidates env sources tier modelOverride = .ok candidates) {model : String}
    (member : model ∈ candidates) : env.isQuarantined model = false := by
  unfold unlimitedCandidates at found
  cases pinned : pinnedModels sources tier modelOverride with
  | error message =>
      rw [pinned] at found
      cases found
  | ok own =>
      rw [pinned] at found
      cases found
      obtain ⟨item, present, rfl⟩ := mem_dedupeKeepOrder member
      -- The texts were stripped before they were looked up.
      have stripped : ∀ {texts : List String}, item ∈ dedupeKeepOrder texts → strip item = item := by
        intro texts listed
        obtain ⟨text, -, rfl⟩ := mem_dedupeKeepOrder listed
        exact strip_strip text
      rcases mem_append.mp present with first | later
      · obtain ⟨listed, live⟩ := mem_filter.mp first
        rw [stripped listed]
        exact (Bool.not_eq_true' _).mp live
      · obtain ⟨listed, usable⟩ := mem_filter.mp later
        rw [stripped listed]
        exact (Bool.not_eq_true' _).mp ((Bool.and_eq_true _ _).mp usable).2

theorem getModelCandidatesForTier_ok
    (found : getModelCandidatesForTier env sources tier modelOverride none = .ok candidates)
    {model : String} (member : model ∈ candidates) :
    env.isWithinCostLane model env.maxCostLaneCeiling = true ∧ env.isQuarantined model = false := by
  unfold getModelCandidatesForTier at found
  cases all : unlimitedCandidates env sources tier modelOverride with
  | error message =>
      rw [all] at found
      cases found
  | ok before =>
      rw [all] at found
      dsimp only at found
      rw [RoutingEnv.applyCostLaneCeiling_eq] at found
      split at found
      · rename_i refused
        cases found
      · rename_i kept same
        cases found
        split at same
        · cases same
        · cases same
          obtain ⟨present, within⟩ := mem_filter.mp member
          exact ⟨within, unlimitedCandidates_live all present⟩

theorem getModelCandidatesForTier_refused
    (all : unlimitedCandidates env sources tier modelOverride = .ok candidates)
    (some_left : candidates ≠ [])
    (excluded : ∀ model, model ∈ candidates →
      env.isWithinCostLane model env.maxCostLaneCeiling = false) :
    getModelCandidatesForTier env sources tier modelOverride none = .error .ceilingExceeded := by
  unfold getModelCandidatesForTier
  rw [all]
  dsimp only
  rw [RoutingEnv.applyCostLaneCeiling_eq, if_pos ⟨some_left, excluded⟩]

end AgenticRuntime.Langchain
