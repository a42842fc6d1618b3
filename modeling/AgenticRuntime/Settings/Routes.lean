/-
The settings routes that write: provider endpoints, tiers and model packs.

A handler loads the document, makes the document to save or refuses, and saves. What it
asks of its surroundings (registry, environment, workflow files, clock) comes with the
call, and so does whether the save fails.
-/

import AgenticRuntime.Settings.PackValidation
import Mathlib.Data.List.Dedup
import Mathlib.Data.String.Basic

namespace AgenticRuntime

open Python (Json Items.get? Items.insert Items.erase)

/-! ### Requests -/

/-- A field of an update: left out, `null`, or a value. -/
inductive Patch (α : Type) where
  | unset
  | null
  | value (given : α)

namespace Patch

/-- The field of the copy; a `null` is no value of it. -/
def onto {α : Type} (patch : Patch α) (previous : α) : Option α :=
  match patch with
  | unset => some previous
  | null => none
  | value given => some given

/-- The field of the copy where it may be `None`. -/
def ontoOptional {α : Type} (patch : Patch α) (previous : Option α) : Option α :=
  match patch with
  | unset => previous
  | null => none
  | value given => some given

end Patch

structure ModelPackCreateRequest where
  id : String
  name : String
  description : String := ""
  source : String := "explicit"
  tierChains : List (Int × List String) := []
  allowedProviders : List String := []
  capabilityRequirements : List (Int × List String) := []
  modelCapabilities : List (String × List String) := []
  judgeModel : Option String := none

structure ModelPackUpdateRequest where
  name : Patch String := .unset
  description : Patch String := .unset
  tierChains : Patch (List (Int × List String)) := .unset
  allowedProviders : Patch (List String) := .unset
  capabilityRequirements : Patch (List (Int × List String)) := .unset
  modelCapabilities : Patch (List (String × List String)) := .unset
  judgeModel : Patch String := .unset

structure ModelPackDuplicateRequest where
  source : ModelPackRef
  newId : String
  name : String
  description : Option String := none

/-- `invalid` is a `ValidationError` that is answered, `uncaught` one that no handler catches;
`body` is a request that does not parse. -/
inductive Refusal where
  | http (status : Nat) (detail : String)
  | packNotFound (ref : ModelPackRef)
  | unknownCapabilities (model : String) (unknown : List String)
  | body
  | invalid
  | uncaught
  deriving DecidableEq, Repr

def Refusal.status : Refusal → Nat
  | .http status _ => status
  | .packNotFound _ => 404
  | .unknownCapabilities _ _ | .body | .invalid => 422
  | .uncaught => 500

/-- `None` of a validator, as the refusal it leads to. -/
def orRefuse {α : Type} (refusal : Refusal) : Option α → Except Refusal α
  | some value => .ok value
  | none => .error refusal

/-- What the handlers ask of their surroundings; `envProviders` is `_env_configured_providers`. -/
structure Deployment where
  registry : ModelRegistry := {}
  envProviders : List String := []
  workflows : List String := []
  now : Nat := 0

/-! ### Tiers -/

structure TierChain where
  tier : Int
  defaultChain : List String
  chosen : List String
  effective : List String

/-- `_tier_settings_response(settings).tiers`; `chosen` is the override. -/
def tierChains (registry : ModelRegistry) (settings : UiSettings) : List TierChain :=
  ([0, 1, 2, 3, 4, 5] : List Int).map fun tier =>
    let defaultChain := (Items.get? registry.tiers tier).getD []
    let chosen := (Items.get? settings.tierOverrides tier).getD []
    ⟨tier, defaultChain, chosen, chosen ++ defaultChain.filter fun model => model ∉ chosen⟩

def derivedTierChains (registry : ModelRegistry) (source : String) (settings : UiSettings) :
    List (Int × List String) :=
  if source = "effective" then
    ((tierChains registry settings).filter fun tier => tier.effective ≠ []).map fun tier =>
      (tier.tier, tier.effective)
  else if source = "defaults" then
    ((tierChains registry settings).filter fun tier => tier.defaultChain ≠ []).map fun tier =>
      (tier.tier, tier.defaultChain)
  else []

/-- `[entry.strip() for entry in entries if entry.strip()]` -/
def stripped (entries : List String) : List String :=
  (entries.map strip).filter fun entry => entry ≠ ""

def mergeTierOverrides (current : List (Int × List String)) :
    List (Int × List String) → List (Int × List String)
  | [] => current
  | (tier, chain) :: rest =>
      if stripped chain = [] then mergeTierOverrides (Items.erase current tier) rest
      else mergeTierOverrides (Items.insert current tier (stripped chain)) rest

def mergeModelCapabilities (current : List (String × List String)) :
    List (String × List String) → Except Refusal (List (String × List String))
  | [] => .ok current
  | (model, capabilities) :: rest =>
      let unknown := (stripped capabilities).filter fun capability =>
        capability ∉ knownModelCapabilities
      if unknown ≠ [] then .error (.unknownCapabilities model unknown)
      else if stripped capabilities = [] then mergeModelCapabilities (Items.erase current model) rest
      else mergeModelCapabilities (Items.insert current model (stripped capabilities)) rest

section

variable (rejectsNetloc : List Char → Bool) (deployment : Deployment) (settings : UiSettings)

/-- The fields that `_updated` is given. -/
structure Replacement where
  modelPacks : Option (List ModelPack) := none
  activeModelPack : Option (Option ModelPackRef) := none
  workflowModelPacks : Option (List (String × ModelPackRef)) := none

/-- `_updated`: what is dumped is validated again, a pack given as an instance is not. -/
def updated (fields : Replacement) : Option UiSettings := do
  let providers ← settings.providers.mapM (ProviderConfig.validate rejectsNetloc)
  let modelPacks ← match fields.modelPacks with
    | some packs => some packs
    | none => settings.modelPacks.mapM ModelPack.validate
  let document : UiSettings :=
    { settings with
      providers := providers
      modelPacks := modelPacks
      activeModelPack := fields.activeModelPack.getD settings.activeModelPack
      workflowModelPacks := fields.workflowModelPacks.getD settings.workflowModelPacks }
  if document.refs.all ModelPackRef.valid then document.construct else none

/-! ### Handlers -/

def putProviderSettings (providers : List ProviderConfig) : Except Refusal UiSettings := do
  let providers ← orRefuse .body (providers.mapM (ProviderConfig.validate rejectsNetloc))
  if providers.any fun provider => provider.apiKeyEnv.any fun name => !isValidApiKeyEnv name then
    .error (.http 422 ("api_key_env must be an environment variable NAME " ++
      "(e.g. OLLAMA_API_KEY), never the credential itself"))
  else orRefuse .invalid ({ settings with providers := providers } : UiSettings).construct

def putTierSettings (tierOverrides : List (Int × List String))
    (modelCapabilities : List (String × List String)) : Except Refusal UiSettings := do
  let modelCapabilities ← mergeModelCapabilities settings.modelCapabilities modelCapabilities
  orRefuse .invalid
    ({ settings with
        tierOverrides := mergeTierOverrides settings.tierOverrides tierOverrides
        modelCapabilities := modelCapabilities } : UiSettings).construct

def namedProviders (chains : List (Int × List String)) : List String :=
  ((chains.flatMap fun item =>
    (item.2.filter fun model => model.toList.contains ':').map modelProvider).dedup).insertionSort
      fun first second => first ≤ second

def withPack (refusal : Refusal) (pack : ModelPack) : Except Refusal UiSettings := do
  let pack ← orRefuse refusal pack.validate
  orRefuse refusal
    (updated rejectsNetloc settings { modelPacks := some (settings.modelPacks ++ [pack]) })

def createModelPack (request : ModelPackCreateRequest) : Except Refusal UiSettings :=
  if (settings.latestModelPack request.id).isSome then
    .error (.http 409 "Model pack ID already exists")
  else
    let chains :=
      if request.tierChains = [] then
        derivedTierChains deployment.registry request.source settings
      else request.tierChains
    let allowed :=
      if request.allowedProviders = [] then namedProviders chains else request.allowedProviders
    withPack rejectsNetloc settings .invalid
      { id := request.id
        name := request.name
        description := request.description
        version := 1
        createdAt := deployment.now
        updatedAt := deployment.now
        tierChains := chains
        allowedProviders := allowed
        capabilityRequirements := request.capabilityRequirements
        modelCapabilities := request.modelCapabilities
        judgeModel := request.judgeModel
        source := request.source }

/-- `previous.model_copy(update=...)` as `version_model_pack` makes it. -/
def nextVersion (now : Nat) (previous : ModelPack) (request : ModelPackUpdateRequest) :
    Option ModelPack := do
  let name ← request.name.onto previous.name
  let description ← request.description.onto previous.description
  let tierChains ← request.tierChains.onto previous.tierChains
  let allowedProviders ← request.allowedProviders.onto previous.allowedProviders
  let requirements ← request.capabilityRequirements.onto previous.capabilityRequirements
  let modelCapabilities ← request.modelCapabilities.onto previous.modelCapabilities
  some
    { previous with
      name := name
      description := description
      version := previous.version + 1
      updatedAt := now
      archived := false
      tierChains := tierChains
      allowedProviders := allowedProviders
      capabilityRequirements := requirements
      modelCapabilities := modelCapabilities
      judgeModel := request.judgeModel.ontoOptional previous.judgeModel
      source := "explicit" }

def versionModelPack (id : String) (request : ModelPackUpdateRequest) :
    Except Refusal UiSettings :=
  match settings.latestModelPack id with
  | none => .error (.http 404 "Model pack not found")
  | some previous => do
      let pack ← orRefuse .invalid (nextVersion deployment.now previous request)
      withPack rejectsNetloc settings .invalid pack

variable (ref : ModelPackRef)

/-- The parameters of a call, `ModelPackRef(...)` of them, then `_require_pack` -/
def requirePack : Except Refusal ModelPack :=
  if ref.version < 1 then .error .body
  else if ref.valid then orRefuse (.packNotFound ref) (settings.getModelPack ref)
  else .error .uncaught

def duplicateModelPack (id : String) (request : ModelPackDuplicateRequest) :
    Except Refusal UiSettings :=
  if ¬ request.source.valid then .error .body
  else if request.source.id ≠ id then
    .error (.http 422 "Source pack ID does not match path")
  else do
    let source ← requirePack settings request.source
    if (settings.latestModelPack request.newId).isSome then
      .error (.http 409 "Model pack ID already exists")
    else
      withPack rejectsNetloc settings .uncaught
        { source with
          id := request.newId
          name := request.name
          description :=
            (request.description.filter fun text => text ≠ "").getD source.description
          version := 1
          createdAt := deployment.now
          updatedAt := deployment.now
          archived := false
          source := "duplicate" }

/-- `_validate_pack(pack, settings).valid` -/
def packIsValid (pack : ModelPack) : Bool :=
  let available := deployment.envProviders ++
    (settings.providers.filter ProviderConfig.enabled).map ProviderConfig.type
  !(validatePackIssues deployment.registry pack settings (some available)).any PackIssue.IsError

def activateModelPack : Except Refusal UiSettings := do
  let pack ← requirePack settings ref
  if pack.archived || !packIsValid deployment settings pack then
    .error (.http 409 "Only a valid, active pack can be activated")
  else orRefuse .uncaught (updated rejectsNetloc settings { activeModelPack := some (some ref) })

def deactivateModelPack : Except Refusal UiSettings :=
  orRefuse .uncaught (updated rejectsNetloc settings { activeModelPack := some none })

def bindModelPack (workflowName : String) : Except Refusal UiSettings := do
  let pack ← requirePack settings ref
  if pack.archived then .error (.http 409 "Archived packs cannot be bound")
  else if ¬ packIsValid deployment settings pack then
    .error (.http 409 "Only a valid pack can be bound to a workflow")
  else if workflowName ∉ deployment.workflows then .error (.http 404 "Workflow not found")
  else
    orRefuse .uncaught (updated rejectsNetloc settings
      { workflowModelPacks := some (Items.insert settings.workflowModelPacks workflowName ref) })

def clearModelPackBinding (workflowName : String) : Except Refusal UiSettings :=
  orRefuse .uncaught (updated rejectsNetloc settings
    { workflowModelPacks := some (Items.erase settings.workflowModelPacks workflowName) })

def archiveModelPack : Except Refusal UiSettings := do
  let pack ← requirePack settings ref
  if settings.activeModelPack = some ref ∨
      settings.workflowModelPacks.any fun binding => binding.2 = ref then
    .error (.http 409 "Remove global activation and workflow bindings before archiving.")
  else
    let archived := { pack with archived := true, updatedAt := deployment.now }
    orRefuse .uncaught (updated rejectsNetloc settings
      { modelPacks := some (settings.modelPacks.map fun item =>
          if item.id = pack.id ∧ item.version = pack.version then archived else item) })

def importModelPack (schemaVersion : Int) (request : ModelPackCreateRequest) :
    Except Refusal UiSettings :=
  if schemaVersion = 1 then
    createModelPack rejectsNetloc deployment settings { request with source := "imported" }
  else .error .body

end

/-! ### Calls -/

inductive SettingsCall where
  | putProviders (providers : List ProviderConfig)
  | putTiers (tierOverrides : List (Int × List String))
      (modelCapabilities : List (String × List String))
  | create (request : ModelPackCreateRequest)
  | version (id : String) (request : ModelPackUpdateRequest)
  | duplicate (id : String) (request : ModelPackDuplicateRequest)
  | activate (ref : ModelPackRef)
  | deactivate
  | bind (ref : ModelPackRef) (workflowName : String)
  | clearBinding (workflowName : String)
  | archive (ref : ModelPackRef)
  | importPack (schemaVersion : Int) (request : ModelPackCreateRequest)

/-- A call, what its handler finds around it, and where its save fails if it does. -/
structure PlacedCall where
  call : SettingsCall
  deployment : Deployment := {}
  failure : Option SaveFailure := none

section

variable (rejectsNetloc : List Char → Bool) (readBack : Json → Json)

def handle (deployment : Deployment) (settings : UiSettings) :
    SettingsCall → Except Refusal UiSettings
  | .putProviders providers => putProviderSettings rejectsNetloc settings providers
  | .putTiers overrides capabilities => putTierSettings settings overrides capabilities
  | .create request => createModelPack rejectsNetloc deployment settings request
  | .version id request => versionModelPack rejectsNetloc deployment settings id request
  | .duplicate id request => duplicateModelPack rejectsNetloc deployment settings id request
  | .activate ref => activateModelPack rejectsNetloc deployment settings ref
  | .deactivate => deactivateModelPack rejectsNetloc settings
  | .bind ref workflowName => bindModelPack rejectsNetloc deployment settings ref workflowName
  | .clearBinding workflowName => clearModelPackBinding rejectsNetloc settings workflowName
  | .archive ref => archiveModelPack rejectsNetloc deployment settings ref
  | .importPack schema request => importModelPack rejectsNetloc deployment settings schema request

/-- The document that a call saves; `none` when it is refused or its save fails. -/
def saves (file : Option UiSettings) (placed : PlacedCall) : Option UiSettings :=
  match handle rejectsNetloc placed.deployment (UiSettings.load rejectsNetloc readBack file)
      placed.call with
  | .error _ => none
  | .ok document => if placed.failure.isNone then some document else none

def afterCall (file : Option UiSettings) (placed : PlacedCall) : Option UiSettings :=
  match handle rejectsNetloc placed.deployment (UiSettings.load rejectsNetloc readBack file)
      placed.call with
  | .error _ => file
  | .ok document => saveUiSettings file document placed.failure

end

end AgenticRuntime
