/-
What a settings document reads back as.

The validators rewrite two fields, `base_url` and `allowed_providers`. Stripping the
providers of a pack a second time changes nothing; cleaning a URL a second time can.
-/

import AgenticRuntime.Settings.Documents
import AgenticRuntime.Python.CanonicalJson

namespace AgenticRuntime

open List

open Python (Json isSpace mapM_eq_some_iff)

/-! ### Packs -/

namespace ModelPack

variable {pack validated : ModelPack}

theorem validate_some (accepted : pack.validate = some validated) :
    validated = { pack with allowedProviders := pack.allowedProviders.map strip } := by
  simp only [validate, Option.ite_none_right_eq_some, Option.some.injEq] at accepted
  exact accepted.2.symm

theorem validate_validated (accepted : pack.validate = some validated) :
    validated.validate = some validated := by
  have shape := validate_some accepted
  have again : (pack.allowedProviders.map strip).map strip = pack.allowedProviders.map strip := by
    rw [map_map]
    apply map_congr_left
    intro provider member
    exact strip_strip provider
  simp only [validate, Option.ite_none_right_eq_some] at accepted
  rw [validate, shape]
  simp only [again]
  exact if_pos accepted.1

theorem validate_archived (accepted : pack.validate = some pack) (archived : Bool) (now : Nat) :
    validate { pack with archived := archived, updatedAt := now } =
      some { pack with archived := archived, updatedAt := now } := by
  have same := validate_some accepted
  have stripped : pack.allowedProviders.map strip = pack.allowedProviders :=
    (congrArg ModelPack.allowedProviders same).symm
  simp only [validate, Option.ite_none_right_eq_some] at accepted
  simp only [validate, stripped] at accepted ⊢
  exact if_pos accepted.1

end ModelPack

/-! ### Providers -/

section

variable {rejectsNetloc : List Char → Bool} {readBack : Json → Json}

theorem validateBaseUrl_some {url cleaned : String}
    (accepted : validateBaseUrl rejectsNetloc url = some cleaned) : cleaned = cleanUrl url := by
  simp only [validateBaseUrl, Option.ite_none_left_eq_some, Option.some.injEq] at accepted
  exact accepted.2.2.2.symm

theorem validateBaseUrl_again {url cleaned : String}
    (accepted : validateBaseUrl rejectsNetloc url = some cleaned) :
    validateBaseUrl rejectsNetloc cleaned = some cleaned ↔ cleanUrl cleaned = cleaned := by
  constructor
  · intro again
    exact (validateBaseUrl_some again).symm
  · intro fixed
    have shape := validateBaseUrl_some accepted
    rw [← accepted]
    unfold validateBaseUrl
    rw [fixed, shape]

namespace ProviderConfig

variable {provider validated : ProviderConfig}

/-- Neither cleaning the URL again nor writing the options as JSON changes anything. -/
structure Stable (readBack : Json → Json) (provider : ProviderConfig) : Prop where
  url : ∀ url, provider.baseUrl = some url → cleanUrl (cleanUrl url) = cleanUrl url
  options : ∀ item ∈ provider.options, readBack item.2 = item.2

/-- What `validate` asks apart from the URL. -/
def accepts (provider : ProviderConfig) : Bool :=
  isSlug provider.id && providerTypes.contains provider.type &&
    provider.options.all fun item => !isForbiddenOption item.1

theorem validate_some (accepted : provider.validate rejectsNetloc = some validated) :
    provider.accepts = true ∧ ∃ baseUrl, validated = { provider with baseUrl := baseUrl } ∧
      match provider.baseUrl with
      | none => baseUrl = none
      | some url => ∃ cleaned, validateBaseUrl rejectsNetloc url = some cleaned ∧
          baseUrl = some cleaned := by
  simp only [validate, Option.ite_none_right_eq_some] at accepted
  refine ⟨accepted.1, ?_⟩
  cases given : provider.baseUrl with
  | none =>
      rw [given] at accepted
      refine ⟨none, ?_, rfl⟩
      rw [← given]
      exact (Option.some.inj accepted.2).symm
  | some url =>
      rw [given] at accepted
      obtain ⟨cleaned, valid, same⟩ := Option.map_eq_some_iff.mp accepted.2
      exact ⟨some cleaned, same.symm, cleaned, valid, rfl⟩

theorem validate_eq_some_self_iff : provider.validate rejectsNetloc = some provider ↔
    provider.accepts = true ∧ ∀ url, provider.baseUrl = some url →
      validateBaseUrl rejectsNetloc url = some url := by
  constructor
  · intro accepted
    obtain ⟨passes, baseUrl, shape, cleans⟩ := validate_some accepted
    refine ⟨passes, ?_⟩
    intro url given
    rw [given] at cleans
    obtain ⟨cleaned, valid, same⟩ := cleans
    have unchanged : some url = some cleaned := by
      rw [← given, ← same]
      exact congrArg ProviderConfig.baseUrl shape
    rw [valid, unchanged]
  · rintro ⟨passes, cleans⟩
    rw [validate]
    refine (if_pos passes).trans ?_
    cases given : provider.baseUrl with
    | none => rfl
    | some url =>
        change (validateBaseUrl rejectsNetloc url).map _ = _
        rw [cleans url given, Option.map_some, ← given]

theorem parsed_eq_self_iff : provider.parsed readBack = provider ↔
    ∀ item ∈ provider.options, readBack item.2 = item.2 := by
  have onOptions : provider.parsed readBack = provider ↔
      provider.options.map (fun item => (item.1, readBack item.2)) =
        provider.options.map fun item => item := by
    rw [map_id_fun']
    constructor
    · intro same
      exact congrArg ProviderConfig.options same
    · intro same
      rw [parsed, same]
      rfl
  rw [onOptions, map_inj_left]
  constructor
  · intro same item member
    exact congrArg Prod.snd (same item member)
  · intro same item member
    exact Prod.ext rfl (same item member)

theorem reread_eq_some_self_iff : provider.reread rejectsNetloc readBack = some provider ↔
    provider.parsed readBack = provider ∧ provider.validate rejectsNetloc = some provider := by
  constructor
  · intro reads
    obtain ⟨passes, baseUrl, shape, cleans⟩ := validate_some reads
    have parsedSame : provider.parsed readBack = provider := by
      have sameOptions := congrArg ProviderConfig.options shape
      rw [parsed]
      exact congrArg (fun options => { provider with options := options }) sameOptions.symm
    constructor
    · exact parsedSame
    · rw [reread, parsedSame] at reads
      exact reads
  · rintro ⟨same, accepted⟩
    rw [reread, same]
    exact accepted

theorem reread_validated_iff (accepted : provider.validate rejectsNetloc = some validated) :
    validated.reread rejectsNetloc readBack = some validated ↔ provider.Stable readBack := by
  obtain ⟨passes, baseUrl, shape, cleans⟩ := validate_some accepted
  have passesAgain : validated.accepts = true := by
    rw [shape]
    exact passes
  have sameOptions : validated.options = provider.options := by rw [shape]
  have sameUrl : validated.baseUrl = baseUrl := by rw [shape]
  rw [reread_eq_some_self_iff, parsed_eq_self_iff, validate_eq_some_self_iff, sameOptions, sameUrl]
  cases given : provider.baseUrl with
  | none =>
      rw [given] at cleans
      constructor
      · rintro ⟨options, _⟩
        refine ⟨?_, options⟩
        intro url absent
        rw [given] at absent
        cases absent
      · intro stable
        refine ⟨stable.options, passesAgain, ?_⟩
        intro url absent
        rw [cleans] at absent
        cases absent
  | some url =>
      rw [given] at cleans
      obtain ⟨cleaned, valid, same⟩ := cleans
      have isCleaned := validateBaseUrl_some valid
      constructor
      · rintro ⟨options, _, again⟩
        refine ⟨?_, options⟩
        intro other sent
        rw [given] at sent
        cases sent
        rw [← isCleaned]
        exact (validateBaseUrl_again valid).mp (again cleaned same)
      · intro stable
        refine ⟨stable.options, passesAgain, ?_⟩
        intro other kept
        rw [same] at kept
        cases kept
        apply (validateBaseUrl_again valid).mpr
        rw [isCleaned]
        exact stable.url url given

theorem reread_of_sanitized {read : ProviderConfig}
    (reads : provider.reread rejectsNetloc readBack = some read)
    (same : read.sanitizeLoaded = provider) : read = provider := by
  obtain ⟨passes, baseUrl, shape, cleans⟩ := validate_some reads
  have sameName : read.apiKeyEnv = provider.apiKeyEnv := by
    rw [shape]
    rfl
  unfold sanitizeLoaded at same
  split at same
  · exact same
  · split at same
    · exact same
    · rw [← same] at sameName
      rename_i name present invalid
      rw [present] at sameName
      cases sameName

theorem sanitizeLoaded_of_valid
    (valid : (provider.apiKeyEnv.any fun name => !isValidApiKeyEnv name) = false) :
    provider.sanitizeLoaded = provider := by
  unfold sanitizeLoaded
  cases named : provider.apiKeyEnv with
  | none => rfl
  | some name =>
      rw [named, Option.any_some, Bool.not_eq_false'] at valid
      exact if_pos valid

end ProviderConfig

end

/-! ### Documents -/

section

variable {rejectsNetloc : List Char → Bool} {readBack : Json → Json} {settings : UiSettings}

theorem mapM_eq_some_self_iff {α : Type} {f : α → Option α} {items : List α} :
    items.mapM f = some items ↔ ∀ item ∈ items, f item = some item := by
  rw [mapM_eq_some_iff, forall₂_same]

theorem mapM_map_eq {α β : Type} (f : β → Option α) (g : α → β) (items : List α) :
    (items.map g).mapM f = items.mapM fun item => f (g item) :=
  mapM_map

/-- Every part of the document passes its validators and comes out of them unchanged. -/
structure Fixed (rejectsNetloc : List Char → Bool) (readBack : Json → Json)
    (settings : UiSettings) : Prop where
  providers : ∀ provider ∈ settings.providers,
    provider.reread rejectsNetloc readBack = some provider ∧ provider.sanitizeLoaded = provider
  packs : ∀ pack ∈ settings.modelPacks, pack.validate = some pack
  refs : settings.refs.all ModelPackRef.valid = true
  check : settings.check = true

namespace Fixed

variable (fixed : Fixed rejectsNetloc readBack settings)

include fixed

theorem reread : settings.reread rejectsNetloc readBack = some settings := by
  have providers : settings.providers.mapM (fun provider =>
      (provider.parsed readBack).validate rejectsNetloc) = some settings.providers :=
    mapM_eq_some_self_iff.mpr fun provider member => (fixed.providers provider member).1
  have packs : settings.modelPacks.mapM ModelPack.validate = some settings.modelPacks :=
    mapM_eq_some_self_iff.mpr fixed.packs
  have refs := fixed.refs
  have check := fixed.check
  unfold UiSettings.reread UiSettings.validate
  rw [mapM_map_eq, providers, packs]
  exact (if_pos refs).trans (if_pos check)

theorem load : UiSettings.load rejectsNetloc readBack (some settings) = settings := by
  have kept : settings.providers.map ProviderConfig.sanitizeLoaded = settings.providers := by
    rw [← map_id settings.providers, map_map]
    apply map_congr_left
    intro provider member
    exact (fixed.providers provider member).2
  rw [UiSettings.load, fixed.reread]
  change { settings with providers := settings.providers.map ProviderConfig.sanitizeLoaded } = _
  rw [kept]

theorem validated_providers :
    settings.providers.mapM (ProviderConfig.validate rejectsNetloc) = some settings.providers := by
  apply mapM_eq_some_self_iff.mpr
  intro provider member
  exact (ProviderConfig.reread_eq_some_self_iff.mp (fixed.providers provider member).1).2

end Fixed

theorem exists_item {α β : Type} {related : α → β → Prop} {items : List α} {results : List β}
    (pairs : List.Forall₂ related items results) {result : β} (member : result ∈ results) :
    ∃ item ∈ items, related item result := by
  induction pairs with
  | nil => cases member
  | cons pair rest ih =>
      rcases List.mem_cons.mp member with same | later
      · subst same
        exact ⟨_, mem_cons_self, pair⟩
      · obtain ⟨item, listed, holds⟩ := ih later
        exact ⟨item, mem_cons_of_mem _ listed, holds⟩

theorem exists_result {α β : Type} {related : α → β → Prop} {items : List α} {results : List β}
    (pairs : List.Forall₂ related items results) {item : α} (member : item ∈ items) :
    ∃ result ∈ results, related item result :=
  exists_item pairs.flip member

theorem results_eq_of_map {α : Type} {related : α → α → Prop} {f : α → α} {items results : List α}
    (pairs : List.Forall₂ related items results) (mapped : results.map f = items)
    (each : ∀ item result, related item result → f result = item → result = item) :
    results = items := by
  induction pairs with
  | nil => rfl
  | cons pair rest ih =>
      obtain ⟨head, tail⟩ := List.cons.inj mapped
      rw [each _ _ pair head, ih tail]

theorem providers_of_load
    (loads : UiSettings.load rejectsNetloc readBack (some settings) = settings) :
    ∀ provider ∈ settings.providers,
      provider.reread rejectsNetloc readBack = some provider := by
  intro provider member
  unfold UiSettings.load at loads
  cases read : settings.reread rejectsNetloc readBack with
  | none =>
      simp only [read] at loads
      rw [← loads] at member
      cases member
  | some found =>
      simp only [read] at loads
      unfold UiSettings.reread UiSettings.validate at read
      obtain ⟨providers, readProviders, rest⟩ := Option.bind_eq_some_iff.mp read
      obtain ⟨packs, readPacks, checked⟩ := Option.bind_eq_some_iff.mp rest
      rw [mapM_map_eq] at readProviders
      have sameProviders : found.providers = providers := by
        simp only [Option.ite_none_right_eq_some, UiSettings.construct, Option.some.injEq]
          at checked
        rw [← checked.2.2]
      have sanitized : providers.map ProviderConfig.sanitizeLoaded = settings.providers := by
        rw [← sameProviders]
        exact congrArg UiSettings.providers loads
      have related := mapM_eq_some_iff.mp readProviders
      have same : providers = settings.providers :=
        results_eq_of_map related sanitized fun _ _ => ProviderConfig.reread_of_sanitized
      rw [same] at related
      exact forall₂_same.mp related provider member

end

end AgenticRuntime
