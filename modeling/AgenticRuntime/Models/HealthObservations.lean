/-
What a router knows of the health of its models, and its scopes, over whole histories.

A model is observed when it is marked, when the health checker is first asked about it and when
a discovery probes it.  A state keeps the latest observation of each model beside the caches.
A checker that raises leaves the router as it was.
-/

import AgenticRuntime.Models.FallbackLoop
import AgenticRuntime.Transition

namespace AgenticRuntime

open List Function

namespace TierRouter

variable (router : TierRouter)

/-- One round of the second loop of `discover_models_async`. -/
def record (probe : String × Bool) : TierRouter :=
  if probe.2 then { router with availableModels := probe.1 :: router.availableModels }
  else { router with unavailableModels := probe.1 :: router.unavailableModels }

/-- `probes` are the models in their order, each with what the checker said of it. -/
def discoverModels (probes : List (String × Bool)) : TierRouter :=
  match router.healthChecker with
  | none => router
  | some _ => probes.foldl record router

/-- What the checker says when it is asked about the model for the first time. -/
def firstProbe? (model : String) : Option Bool :=
  if model ∈ router.availableModels ∨ model ∈ router.unavailableModels then none
  else router.healthChecker.map fun checker => checker model

def registerChain (tier : ModelTier) (chain : FallbackChain) : TierRouter :=
  { router with customChains := update router.customChains tier (some chain) }

/-- `ScopedRouter.__exit__`; a chain is never empty, so never false. -/
def restoreChain (tier : ModelTier) (originalChain : Option FallbackChain) :
    TierRouter :=
  match originalChain with
  | some chain => router.registerChain tier chain
  | none =>
      if (router.customChains tier).isSome then
        { router with customChains := update router.customChains tier none }
      else router

end TierRouter

namespace HealthObservations

open Transition

/-- An open `with router.scoped(…)`: what `__enter__` saved, the chain of the tier just before,
and whether `register_chain` was called for the tier since. -/
structure Scope where
  tier : ModelTier
  originalChain : Option FallbackChain
  before : FallbackChain
  registered : Bool

structure Left where
  before : FallbackChain
  after : FallbackChain
  registered : Bool

structure State where
  router : TierRouter
  latest : String → Option Bool
  scopes : List Scope
  left : List Left

inductive Event where
  | markAvailable (model : String)
  | markUnavailable (model : String)
  | isModelAvailable (model : String)
  | discoverModelsAsync (probes : List (String × Bool))
  | registerChain (tier : ModelTier) (chain : FallbackChain)
  | enter (tier : ModelTier) (models : FallbackChain)
  | exit
  /-- A checker is set, or the one there answers otherwise from now on. -/
  | answersChange (checker : String → Bool)

variable (env : SelectionEnv)

def State.initial (customChains : ModelTier → Option FallbackChain)
    (healthChecker : Option (String → Bool)) : State :=
  { router := { customChains, healthChecker }, latest := fun _ => none, scopes := [], left := [] }

def noteObserved (latest : String → Option Bool) (probe : String × Bool) : String → Option Bool :=
  update latest probe.1 (some probe.2)

def noteFirst (latest : String → Option Bool) (model : String) : Option Bool → String → Option Bool
  | none => latest
  | some available => noteObserved latest (model, available)

/-- A scope while `register_chain` is called for a tier. -/
def Scope.noteRegistered (tier : ModelTier) (scope : Scope) : Scope :=
  { scope with registered := scope.registered || scope.tier = tier }

def next (state : State) : Event → Option State
  | .markAvailable model =>
      some { state with
        router := state.router.markAvailable model
        latest := noteObserved state.latest (model, true) }
  | .markUnavailable model =>
      some { state with
        router := state.router.markUnavailable model
        latest := noteObserved state.latest (model, false) }
  | .isModelAvailable model =>
      some { state with
        router := (state.router.isModelAvailable model).2
        latest := noteFirst state.latest model (state.router.firstProbe? model) }
  | .discoverModelsAsync probes =>
      some { state with
        router := state.router.discoverModels probes
        latest := match state.router.healthChecker with
          | none => state.latest
          | some _ => probes.foldl noteObserved state.latest }
  | .registerChain tier chain =>
      some { state with
        router := state.router.registerChain tier chain
        scopes := state.scopes.map (Scope.noteRegistered tier) }
  | .enter tier models =>
      some { state with
        router := state.router.registerChain tier models
        scopes := ⟨tier, state.router.customChains tier, state.router.getChain env tier, false⟩ ::
          state.scopes }
  | .exit =>
      match state.scopes with
      | [] => none
      | scope :: outer =>
          let router := state.router.restoreChain scope.tier scope.originalChain
          some { state with
            router, scopes := outer
            left := ⟨scope.before, router.getChain env scope.tier, scope.registered⟩ :: state.left }
  | .answersChange checker =>
      some { state with router := { state.router with healthChecker := some checker } }

/-- The two sets are disjoint, the latest observation is the one that counts, and a scope that is
left has restored its chain. -/
structure Holds (state : State) : Prop where
  disjoint : ∀ model ∈ state.router.availableModels, model ∉ state.router.unavailableModels
  latest : ∀ model observed, state.latest model = some observed →
    (state.router.isModelAvailable model).1 = observed
  restored : ∀ scope ∈ state.left, scope.registered = false → scope.after = scope.before

/-- No answer contradicts what is on record of its model when it is recorded. -/
def Agrees (router : TierRouter) : List (String × Bool) → Prop
  | [] => True
  | probe :: rest =>
      probe.1 ∉ (if probe.2 then router.unavailableModels else router.availableModels) ∧
        Agrees (router.record probe) rest

def DiscoveryAgrees (state : State) : Event → Prop
  | .discoverModelsAsync probes => state.router.healthChecker ≠ none → Agrees state.router probes
  | _ => True

/-! ### The record of a model -/

/-- The sets hold the models whose latest observation is the one they stand for. -/
structure Recorded (router : TierRouter) (latest : String → Option Bool) : Prop where
  available : ∀ model, model ∈ router.availableModels ↔ latest model = some true
  unavailable : ∀ model, model ∈ router.unavailableModels ↔ latest model = some false

section

variable {router : TierRouter} {latest : String → Option Bool}

theorem Recorded.disjoint (recorded : Recorded router latest) :
    ∀ model ∈ router.availableModels, model ∉ router.unavailableModels := by
  intro model present absent
  rw [recorded.available] at present
  rw [recorded.unavailable, present] at absent
  cases absent

theorem Recorded.answer (recorded : Recorded router latest) {model : String} {observed : Bool}
    (known : latest model = some observed) : (router.isModelAvailable model).1 = observed := by
  unfold TierRouter.isModelAvailable
  cases observed with
  | true => rw [if_pos ((recorded.available model).mpr known)]
  | false =>
      have listed := (recorded.unavailable model).mpr known
      rw [if_neg fun present => recorded.disjoint model present listed, if_pos listed]

theorem Recorded.markAvailable (recorded : Recorded router latest) (model : String) :
    Recorded (router.markAvailable model) (noteObserved latest (model, true)) := by
  constructor
  · intro other
    by_cases own : other = model
    · simp [TierRouter.markAvailable, noteObserved, own]
    · simp [TierRouter.markAvailable, noteObserved, own, recorded.available]
  · intro other
    by_cases own : other = model
    · simp [TierRouter.markAvailable, noteObserved, own]
    · simp [TierRouter.markAvailable, noteObserved, own, recorded.unavailable]

theorem Recorded.markUnavailable (recorded : Recorded router latest) (model : String) :
    Recorded (router.markUnavailable model) (noteObserved latest (model, false)) := by
  constructor
  · intro other
    by_cases own : other = model
    · simp [TierRouter.markUnavailable, noteObserved, own]
    · simp [TierRouter.markUnavailable, noteObserved, own, recorded.available]
  · intro other
    by_cases own : other = model
    · simp [TierRouter.markUnavailable, noteObserved, own]
    · simp [TierRouter.markUnavailable, noteObserved, own, recorded.unavailable]

theorem Recorded.record (recorded : Recorded router latest) {probe : String × Bool}
    (agrees : probe.1 ∉ if probe.2 then router.unavailableModels else router.availableModels) :
    Recorded (router.record probe) (noteObserved latest probe) := by
  obtain ⟨model, healthy⟩ := probe
  cases healthy with
  | true =>
      have unlisted : latest model ≠ some false := (recorded.unavailable model).not.mp agrees
      constructor
      · intro other
        by_cases own : other = model
        · simp [TierRouter.record, noteObserved, own]
        · simp [TierRouter.record, noteObserved, own, recorded.available]
      · intro other
        by_cases own : other = model
        · simp [TierRouter.record, noteObserved, own, recorded.unavailable, unlisted]
        · simp [TierRouter.record, noteObserved, own, recorded.unavailable]
  | false =>
      have unlisted : latest model ≠ some true := (recorded.available model).not.mp agrees
      constructor
      · intro other
        by_cases own : other = model
        · simp [TierRouter.record, noteObserved, own, recorded.available, unlisted]
        · simp [TierRouter.record, noteObserved, own, recorded.available]
      · intro other
        by_cases own : other = model
        · simp [TierRouter.record, noteObserved, own]
        · simp [TierRouter.record, noteObserved, own, recorded.unavailable]

theorem Recorded.discovered {probes : List (String × Bool)} (recorded : Recorded router latest)
    (agrees : Agrees router probes) :
    Recorded (probes.foldl TierRouter.record router) (probes.foldl noteObserved latest) := by
  induction probes generalizing router latest with
  | nil => exact recorded
  | cons probe rest ih => exact ih (recorded.record agrees.1) agrees.2

theorem both_of_recorded {model : String} {probes : List (String × Bool)}
    (both : model ∈ router.availableModels ∧ model ∈ router.unavailableModels) :
    model ∈ (probes.foldl TierRouter.record router).availableModels ∧
      model ∈ (probes.foldl TierRouter.record router).unavailableModels := by
  induction probes generalizing router with
  | nil => exact both
  | cons probe rest ih =>
      apply ih
      unfold TierRouter.record
      split
      · exact ⟨mem_cons_of_mem _ both.1, both.2⟩
      · exact ⟨both.1, mem_cons_of_mem _ both.2⟩

theorem agrees_of_disjoint {probes : List (String × Bool)}
    (disjoint : ∀ model ∈ (probes.foldl TierRouter.record router).availableModels,
      model ∉ (probes.foldl TierRouter.record router).unavailableModels) :
    Agrees router probes := by
  induction probes generalizing router with
  | nil => trivial
  | cons probe rest ih =>
      refine ⟨?_, ih disjoint⟩
      intro listed
      have both : probe.1 ∈ (router.record probe).availableModels ∧
          probe.1 ∈ (router.record probe).unavailableModels := by
        unfold TierRouter.record
        split at listed
        · rename_i healthy
          rw [if_pos healthy]
          exact ⟨mem_cons_self, listed⟩
        · rename_i unhealthy
          rw [if_neg unhealthy]
          exact ⟨listed, mem_cons_self⟩
      have last := @both_of_recorded _ probe.1 rest both
      exact disjoint probe.1 last.1 last.2

theorem Recorded.probed (recorded : Recorded router latest) (model : String) :
    Recorded (router.isModelAvailable model).2
      (noteFirst latest model (router.firstProbe? model)) := by
  unfold TierRouter.isModelAvailable TierRouter.firstProbe?
  by_cases present : model ∈ router.availableModels
  · rw [if_pos present, if_pos (.inl present)]
    exact recorded
  · by_cases absent : model ∈ router.unavailableModels
    · rw [if_neg present, if_pos absent, if_pos (.inr absent)]
      exact recorded
    · rw [if_neg present, if_neg absent, if_neg (not_or.mpr ⟨present, absent⟩)]
      cases router.healthChecker with
      | none => exact recorded
      | some checker =>
          dsimp only [Option.map_some]
          cases checker model with
          | true =>
              have grown : Recorded (router.record (model, true)) _ := recorded.record absent
              exact ⟨grown.available, grown.unavailable⟩
          | false =>
              have grown : Recorded (router.record (model, false)) _ := recorded.record present
              exact ⟨grown.available, grown.unavailable⟩

end

/-! ### Scopes -/

variable {env}

theorem getChain_of_custom {first second : TierRouter} {tier : ModelTier}
    (same : first.customChains tier = second.customChains tier) :
    first.getChain env tier = second.getChain env tier := by
  unfold TierRouter.getChain
  rw [same]

theorem restoreChain_custom (router : TierRouter) (tier : ModelTier)
    (originalChain : Option FallbackChain) :
    (router.restoreChain tier originalChain).customChains tier = originalChain := by
  unfold TierRouter.restoreChain
  cases originalChain with
  | some chain => exact update_self _ _ _
  | none =>
      dsimp only
      split
      · exact update_self _ _ _
      · rename_i missing
        exact Option.not_isSome_iff_eq_none.mp missing

def Saved (env : SelectionEnv) (scope : Scope) : Prop :=
  ∀ router : TierRouter, router.customChains scope.tier = scope.originalChain →
    router.getChain env scope.tier = scope.before

/-! ### Every step -/

structure Sound (env : SelectionEnv) (state : State) : Prop where
  recorded : Recorded state.router state.latest
  saved : ∀ scope ∈ state.scopes, Saved env scope
  restored : ∀ scope ∈ state.left, scope.registered = false → scope.after = scope.before

theorem Sound.holds {state : State} (sound : Sound env state) : Holds state where
  disjoint := sound.recorded.disjoint
  latest := fun _ _ known => sound.recorded.answer known
  restored := sound.restored

theorem next_sound (state : State) (event : Event) (after : State) (sound : Sound env state)
    (agrees : DiscoveryAgrees state event) (taken : next env state event = some after) :
    Sound env after := by
  obtain ⟨recorded, saved, restored⟩ := sound
  cases event with
  | markAvailable model =>
      cases taken
      exact ⟨recorded.markAvailable model, saved, restored⟩
  | markUnavailable model =>
      cases taken
      exact ⟨recorded.markUnavailable model, saved, restored⟩
  | isModelAvailable model =>
      cases taken
      exact ⟨recorded.probed model, saved, restored⟩
  | discoverModelsAsync probes =>
      cases taken
      refine ⟨?_, saved, restored⟩
      unfold TierRouter.discoverModels
      cases known : state.router.healthChecker with
      | none => exact recorded
      | some checker =>
          refine recorded.discovered (agrees ?_)
          rw [known]
          exact Option.some_ne_none checker
  | registerChain tier chain =>
      cases taken
      refine ⟨⟨recorded.available, recorded.unavailable⟩, ?_, restored⟩
      intro scope listed
      obtain ⟨older, member, rfl⟩ := mem_map.mp listed
      exact saved older member
  | enter tier models =>
      cases taken
      refine ⟨⟨recorded.available, recorded.unavailable⟩, ?_, restored⟩
      intro scope listed
      rcases List.mem_cons.mp listed with rfl | older
      · exact fun router same => getChain_of_custom same
      · exact saved scope older
  | exit =>
      cases opened : state.scopes with
      | nil =>
          simp only [next, opened] at taken
          cases taken
      | cons scope outer =>
          simp only [next, opened] at taken
          cases taken
          rw [opened] at saved
          refine ⟨?_, fun other listed => saved other (mem_cons_of_mem _ listed), ?_⟩
          · unfold TierRouter.restoreChain
            split
            · exact ⟨recorded.available, recorded.unavailable⟩
            · split
              · exact ⟨recorded.available, recorded.unavailable⟩
              · exact recorded
          · intro other listed unregistered
            rcases List.mem_cons.mp listed with rfl | older
            · exact saved scope mem_cons_self _ (restoreChain_custom _ _ _)
            · exact restored other older unregistered
  | answersChange checker =>
      cases taken
      exact ⟨⟨recorded.available, recorded.unavailable⟩, saved, restored⟩

theorem agrees_of_holds {state : State} {event : Event}
    (kept : ∀ after, next env state event = some after → Holds after) :
    DiscoveryAgrees state event := by
  cases event with
  | discoverModelsAsync probes =>
      intro present
      have disjoint := (kept _ rfl).disjoint
      unfold TierRouter.discoverModels at disjoint
      cases known : state.router.healthChecker with
      | none => exact absurd known present
      | some checker =>
          rw [known] at disjoint
          exact agrees_of_disjoint disjoint
  | _ => trivial

/-- In every history of a router: each state it reaches has disjoint sets, answers with the latest
observation and has the chains of its left scopes restored, if and only if no discovery
contradicts what is on record of a model. -/
theorem latest_observation_wins_iff (env : SelectionEnv)
    (customChains : ModelTier → Option FallbackChain) (healthChecker : Option (String → Bool))
    (events : List Event) :
    Along (next env) (fun state event => ∀ after, next env state event = some after → Holds after)
        (State.initial customChains healthChecker) events ↔
      Along (next env) DiscoveryAgrees (State.initial customChains healthChecker) events := by
  have initial : Sound env (State.initial customChains healthChecker) := by
    refine ⟨⟨?_, ?_⟩, ?_, ?_⟩
    · intro model
      exact iff_of_false not_mem_nil (Option.some_ne_none true).symm
    · intro model
      exact iff_of_false not_mem_nil (Option.some_ne_none false).symm
    · intro scope listed
      cases listed
    · intro scope listed
      cases listed
  refine along_iff ?_ next_sound initial
  intro state event sound
  constructor
  · exact agrees_of_holds
  · intro agrees after taken
    exact (next_sound state event after sound agrees taken).holds

/-- A model is marked available and then found unhealthy by a discovery: it is in both sets, and
the answer is still that it is available. -/
theorem discovery_contradicts_mark :
    ¬ ∀ (env : SelectionEnv) (customChains : ModelTier → Option FallbackChain)
      (healthChecker : Option (String → Bool)) (events : List Event) (finish : State),
      replay (next env) (State.initial customChains healthChecker) events = some finish →
        Holds finish := by
  intro always
  have held := always paidOnly (fun _ => none) (some fun _ => false)
    [.markAvailable "ollama:phi4", .discoverModelsAsync [("ollama:phi4", false)]] _ rfl
  exact Bool.noConfusion (held.latest "ollama:phi4" false rfl)

end HealthObservations

end AgenticRuntime
