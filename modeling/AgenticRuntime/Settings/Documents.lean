/-
The settings document of the UI: provider endpoints, tier overrides and model packs,
with the validators that a document passes when it is built and when it is read.

The file holds the JSON of a document and is kept as that document. What JSON makes of
the values in a provider's options is left open.
-/

import AgenticRuntime.Langchain.Config
import AgenticRuntime.Python.Json

namespace AgenticRuntime

open Python (Json)

/-! ### Provider endpoints -/

def lowerAndDigits (c : Char) : Bool := c.isLower || c.isDigit

/-- `_PROVIDER_ID_PATTERN` -/
def isSlug (text : String) : Bool :=
  match text.toList with
  | [] => false
  | first :: rest =>
      lowerAndDigits first && rest.length ≤ 63 &&
        rest.all fun c => lowerAndDigits c || c = '_' || c = '-'

/-- `_ENV_VAR_NAME_PATTERN` -/
def isEnvVarName (text : String) : Bool :=
  match text.toList with
  | [] => false
  | first :: rest =>
      (first.isAlpha || first = '_') && rest.length ≤ 127 &&
        rest.all fun c => c.isAlphanum || c = '_'

/-- `_SECRET_SHAPE_PATTERNS`: how a token starts, what follows, and how much of it at least. -/
def secretShapes : List (String × (Char → Bool) × Nat) :=
  [("sk-", fun c => c.isAlphanum || c = '_' || c = '-', 8)] ++
    (["ghp_", "gho_", "ghu_", "ghs_", "ghr_"].map fun head => (head, Char.isAlphanum, 16)) ++
    [("github_pat_", fun c => c.isAlphanum || c = '_', 20), ("hf_", Char.isAlphanum, 34),
      ("nvapi-", fun c => c.isAlphanum || c = '_' || c = '-', 16),
      ("AIza", fun c => c.isAlphanum || c = '_' || c = '-', 30),
      ("", fun c => c.isDigit || "abcdefABCDEF".toList.contains c, 32)]

def isValidApiKeyEnv (value : String) : Bool :=
  isEnvVarName value && !secretShapes.any fun shape =>
    let rest := value.toList.drop shape.1.length
    shape.1.toList.isPrefixOf value.toList && rest.all shape.2.1 && shape.2.2 ≤ rest.length

structure ProviderConfig where
  id : String
  type : String
  label : String := ""
  baseUrl : Option String := none
  apiKeyEnv : Option String := none
  defaultModel : Option String := none
  enabled : Bool := true
  options : List (String × Json) := []

def providerTypes : List String :=
  ["openai", "anthropic", "gh", "ollama", "foundry_local", "custom"]

/-- `key.lower()` as far as it meets ASCII letters; the Kelvin sign does. -/
def lowerKeyChar (c : Char) : Char := if c.toNat = 0x212a then 'k' else c.toLower

/-- `_FORBIDDEN_OPTION_KEYS` -/
def isForbiddenOption (key : String) : Bool :=
  let plain := key.toList.map fun c => if lowerKeyChar c = '-' then '_' else lowerKeyChar c
  ["api_key", "apikey", "token", "secret", "password"].any fun forbidden =>
    forbidden.toList = plain

/-- `urlsplit` of a URL, up to its network location. -/
def splitNetloc (url : String) : List Char × List Char :=
  let plain := (url.toList.dropWhile fun c => c.toNat ≤ 32).filter fun c =>
    c ≠ '\t' && c ≠ '\r' && c ≠ '\n'
  let scheme := plain.takeWhile fun c => c ≠ ':'
  let isScheme := plain.contains ':' && (scheme.head?.any Char.isAlpha) &&
    scheme.all fun c => c.isAlphanum || c = '+' || c = '-' || c = '.'
  let rest := if isScheme then plain.drop (scheme.length + 1) else plain
  let netloc :=
    if "//".toList.isPrefixOf rest then
      (rest.drop 2).takeWhile fun c => c ≠ '/' && c ≠ '?' && c ≠ '#'
    else []
  (if isScheme then scheme.map Char.toLower else [], netloc)

/-- What comes before the last `@` of a network location, and what behind it. -/
def splitUserinfo (netloc : List Char) : List Char × List Char :=
  let host := (netloc.reverse.takeWhile fun c => c ≠ '@').reverse
  if netloc.contains '@' then (netloc.take (netloc.length - host.length - 1), host) else ([], netloc)

/-- The part of a network location that `hostname` is made of. -/
def hostOf (netloc : List Char) : List Char :=
  let host := (splitUserinfo netloc).2
  if host.contains '[' then
    ((host.dropWhile fun c => c ≠ '[').drop 1).takeWhile fun c => c ≠ ']'
  else host.takeWhile fun c => c ≠ ':'

/-- `value.strip().rstrip("/")` -/
def cleanUrl (value : String) : String :=
  String.ofList (((strip value).toList.reverse.dropWhile fun c => c = '/').reverse)

section

/- `rejectsNetloc` are the checks of brackets and of compatibility characters that `urlsplit` makes
of a network location. -/
variable (rejectsNetloc : List Char → Bool) (readBack : Json → Json)

def validateBaseUrl (value : String) : Option String :=
  let cleaned := cleanUrl value
  let parsed := splitNetloc cleaned
  let userinfo := (splitUserinfo parsed.2).1
  if rejectsNetloc parsed.2 then none
  else if ¬ (parsed.1 = "http".toList ∨ parsed.1 = "https".toList) ∨ hostOf parsed.2 = [] then none
  else if userinfo ≠ [] ∧ userinfo ≠ [':'] then none
  else some cleaned

namespace ProviderConfig

variable (provider : ProviderConfig)

def validate : Option ProviderConfig :=
  if isSlug provider.id && providerTypes.contains provider.type &&
      provider.options.all (fun item => !isForbiddenOption item.1) then
    match provider.baseUrl with
    | none => some provider
    | some url =>
        (validateBaseUrl rejectsNetloc url).map fun cleaned =>
          { provider with baseUrl := some cleaned }
  else none

/-- A provider after `json.dumps` and `json.loads`. -/
def parsed : ProviderConfig :=
  { provider with
    options := provider.options.map fun (item : String × Json) => (item.1, readBack item.2) }

def reread : Option ProviderConfig :=
  (provider.parsed readBack).validate rejectsNetloc

/-- `_sanitize_loaded_provider` -/
def sanitizeLoaded : ProviderConfig :=
  match provider.apiKeyEnv with
  | none => provider
  | some name => if isValidApiKeyEnv name then provider else { provider with apiKeyEnv := none }

end ProviderConfig

/-! ### Model packs -/

structure ModelPackRef where
  id : String
  version : Nat
  deriving DecidableEq, Repr

/-- `source` is kept as its text. -/
structure ModelPack where
  id : String
  name : String
  description : String := ""
  version : Nat := 1
  createdAt : Nat
  updatedAt : Nat
  archived : Bool := false
  tierChains : List (Int × List String) := []
  allowedProviders : List String := []
  capabilityRequirements : List (Int × List String) := []
  modelCapabilities : List (String × List String) := []
  judgeModel : Option String := none
  source : String := "explicit"
  deriving DecidableEq, Repr

def packSources : List String := ["effective", "defaults", "explicit", "duplicate", "imported"]

/-- The tiers and entries that `_validate_tiers` asks for. -/
def validTiers (map : List (Int × List String)) : Bool :=
  map.all fun item => 0 ≤ item.1 && item.1 ≤ 5 && item.2.all fun entry => strip entry ≠ ""

/-- `_validate_tier_map` -/
def validTierMap (map : List (Int × List String)) : Bool :=
  validTiers map && map.all fun item => decide item.2.Nodup

namespace ModelPackRef

def valid (ref : ModelPackRef) : Bool := isSlug ref.id && 1 ≤ ref.version

end ModelPackRef

namespace ModelPack

def ref (pack : ModelPack) : ModelPackRef := ⟨pack.id, pack.version⟩

def validate (pack : ModelPack) : Option ModelPack :=
  let cleaned := pack.allowedProviders.map strip
  if isSlug pack.id && 1 ≤ pack.name.length && pack.name.length ≤ 80 &&
      pack.description.length ≤ 500 && 1 ≤ pack.version && validTierMap pack.tierChains &&
      validTierMap pack.capabilityRequirements && (cleaned.all fun provider => provider ≠ "") &&
      decide cleaned.Nodup && pack.judgeModel.all (fun model => model.length ≤ 200) &&
      packSources.contains pack.source then
    some { pack with allowedProviders := cleaned }
  else none

end ModelPack

/-! ### The document -/

structure UiSettings where
  version : Int := 1
  providers : List ProviderConfig := []
  tierOverrides : List (Int × List String) := []
  modelCapabilities : List (String × List String) := []
  modelPacks : List ModelPack := []
  activeModelPack : Option ModelPackRef := none
  workflowModelPacks : List (String × ModelPackRef) := []

namespace UiSettings

variable (settings : UiSettings)

def refs : List ModelPackRef :=
  settings.activeModelPack.toList ++ settings.workflowModelPacks.map Prod.snd

def check : Bool :=
  decide (settings.providers.map ProviderConfig.id).Nodup && validTiers settings.tierOverrides &&
    decide (settings.modelPacks.map ModelPack.ref).Nodup &&
    settings.refs.all fun ref => (settings.modelPacks.map ModelPack.ref).contains ref

/-- `UiSettings(...)` on parts that have been validated: they are not validated again. -/
def construct : Option UiSettings :=
  if settings.check then some settings else none

/-- `model_validate` on a dumped document. -/
def validate (settings : UiSettings) : Option UiSettings := do
  let providers ← settings.providers.mapM (ProviderConfig.validate rejectsNetloc)
  let modelPacks ← settings.modelPacks.mapM ModelPack.validate
  if settings.refs.all ModelPackRef.valid then
    construct { settings with providers := providers, modelPacks := modelPacks }
  else none

/-- `json.loads` of a document that has been written, validated. -/
def reread : Option UiSettings :=
  validate rejectsNetloc
    { settings with providers := settings.providers.map (ProviderConfig.parsed readBack) }

/-- `load_ui_settings`; the file, where there is one, can be read. -/
def load (file : Option UiSettings) : UiSettings :=
  match file with
  | none => {}
  | some document =>
      match document.reread rejectsNetloc readBack with
      | none => {}
      | some settings =>
          { settings with providers := settings.providers.map ProviderConfig.sanitizeLoaded }

end UiSettings

end

/-- Where `save_ui_settings` can raise. -/
inductive SaveFailure where
  | mkdir
  | dumps
  | mkstemp
  | write
  | replace
  deriving DecidableEq, Repr

/-- `save_ui_settings`: the file is replaced last. -/
def saveUiSettings (file : Option UiSettings) (settings : UiSettings) :
    Option SaveFailure → Option UiSettings
  | none => some settings
  | some .mkdir | some .dumps | some .mkstemp | some .write | some .replace => file

namespace UiSettings

def getModelPack (settings : UiSettings) (ref : ModelPackRef) : Option ModelPack :=
  settings.modelPacks.find? fun pack => pack.id = ref.id && pack.version = ref.version

/-- `max(versions, key=lambda pack: pack.version, default=None)` -/
def latest : List ModelPack → Option ModelPack
  | [] => none
  | pack :: rest =>
      match latest rest with
      | none => some pack
      | some later => if pack.version < later.version then some later else some pack

def latestModelPack (settings : UiSettings) (id : String) : Option ModelPack :=
  latest (settings.modelPacks.filter fun pack => pack.id = id)

inductive PackSource where
  | run
  | workflow
  | global
  | default
  deriving DecidableEq, Repr

inductive ResolveError where
  | unknown (ref : ModelPackRef)
  | archived (ref : ModelPackRef)
  deriving DecidableEq, Repr

/-- The loop of `resolve_model_pack`. -/
def resolveFrom (settings : UiSettings) :
    List (Option ModelPackRef × PackSource) → Except ResolveError (Option ModelPack × PackSource)
  | [] => .ok (none, .default)
  | (none, _) :: rest => resolveFrom settings rest
  | (some ref, source) :: _ =>
      match settings.getModelPack ref with
      | none => .error (.unknown ref)
      | some pack => if pack.archived then .error (.archived ref) else .ok (some pack, source)

def resolveModelPack (settings : UiSettings) (workflowName : String)
    (requested : Option ModelPackRef) : Except ResolveError (Option ModelPack × PackSource) :=
  settings.resolveFrom
    [(requested, .run), (Python.Items.get? settings.workflowModelPacks workflowName, .workflow),
      (settings.activeModelPack, .global)]

end UiSettings

end AgenticRuntime
