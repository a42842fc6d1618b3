/-
What an accepted settings call does to the document.

The handlers rebuild the whole document. On a document whose parts validate to themselves
each of them changes one thing: the providers, the tiers, the packs by one at the end or
by an archive mark, or which packs are selected.
-/

import AgenticRuntime.Settings.Reread
import AgenticRuntime.Settings.Routes

namespace AgenticRuntime

open List

open Python (Json Items.get? Items.insert Items.erase)

theorem orRefuse_ok {α : Type} {refusal : Refusal} {found : Option α} {value : α}
    (accepted : orRefuse refusal found = .ok value) : found = some value := by
  cases found with
  | none => cases accepted
  | some held =>
      cases accepted
      rfl

/-! ### Finding packs -/

namespace UiSettings

variable {settings : UiSettings}

def versionsOf (settings : UiSettings) (id : String) : List Nat :=
  (settings.modelPacks.filter fun pack => pack.id = id).map ModelPack.version

theorem getModelPack_some {ref : ModelPackRef} {pack : ModelPack}
    (found : settings.getModelPack ref = some pack) :
    pack ∈ settings.modelPacks ∧ pack.ref = ref := by
  have named := List.find?_some found
  simp only [Bool.and_eq_true, decide_eq_true_eq] at named
  constructor
  · exact mem_of_find?_eq_some found
  · rw [ModelPack.ref, named.1, named.2]

theorem latest_none {packs : List ModelPack} (absent : latest packs = none) : packs = [] := by
  cases packs with
  | nil => rfl
  | cons pack rest =>
      simp only [latest] at absent
      split at absent
      · cases absent
      · split at absent
        · cases absent
        · cases absent

theorem latest_some {packs : List ModelPack} {pack : ModelPack} (found : latest packs = some pack) :
    pack ∈ packs ∧ ∀ other ∈ packs, other.version ≤ pack.version := by
  induction packs generalizing pack with
  | nil => cases found
  | cons head rest ih =>
      simp only [latest] at found
      cases later : latest rest with
      | none =>
          rw [later] at found
          cases found
          refine ⟨mem_cons_self, ?_⟩
          intro other member
          rw [latest_none later, mem_singleton] at member
          rw [member]
      | some last =>
          have inner := ih later
          simp only [later] at found
          split at found
          · rename_i newer
            cases found
            refine ⟨mem_cons_of_mem _ inner.1, ?_⟩
            intro other member
            rcases List.mem_cons.mp member with same | listed
            · rw [same]
              exact Nat.le_of_lt newer
            · exact inner.2 other listed
          · rename_i older
            cases found
            refine ⟨mem_cons_self, ?_⟩
            intro other member
            rcases List.mem_cons.mp member with same | listed
            · rw [same]
            · exact (inner.2 other listed).trans (Nat.le_of_not_lt older)

def Numbered (settings : UiSettings) : Prop :=
  ∀ id, settings.versionsOf id = List.range' 1 (settings.versionsOf id).length

theorem Numbered.latest_absent {id : String} (absent : settings.latestModelPack id = none) :
    (settings.versionsOf id).length = 0 := by
  rw [versionsOf, latest_none absent]
  rfl

theorem Numbered.latest_version (numbered : settings.Numbered) {id : String} {pack : ModelPack}
    (found : settings.latestModelPack id = some pack) :
    pack.id = id ∧ pack.version = (settings.versionsOf id).length := by
  obtain ⟨listed, newest⟩ := latest_some found
  have sameId : pack.id = id := of_decide_eq_true (mem_filter.mp listed).2
  have isVersion : pack.version ∈ settings.versionsOf id := mem_map.mpr ⟨pack, listed, rfl⟩
  have range := numbered id
  have within := isVersion
  rw [range, mem_range'_1] at within
  have isLast : (settings.versionsOf id).length ∈ settings.versionsOf id := by
    rw [range, length_range', mem_range'_1]
    omega
  obtain ⟨last, lastListed, lastVersion⟩ := mem_map.mp isLast
  have bound := newest last lastListed
  refine ⟨sameId, ?_⟩
  omega

def selected (settings : UiSettings) : Option String → Option ModelPackRef
  | none => settings.activeModelPack
  | some workflowName => Items.get? settings.workflowModelPacks workflowName

end UiSettings

/-! ### Changes -/

def SettingsCall.addsPack : SettingsCall → Bool
  | .create _ | .version _ _ | .duplicate _ _ | .importPack _ _ => true
  | _ => false

def archivedPacks (settings : UiSettings) (pack : ModelPack) (now : Nat) : List ModelPack :=
  settings.modelPacks.map fun item =>
    if item.id = pack.id ∧ item.version = pack.version then
      { pack with archived := true, updatedAt := now }
    else item

structure Selectable (registry : ModelRegistry) (settings : UiSettings) (ref : ModelPackRef) :
    Prop where
  found : ∃ pack, settings.getModelPack ref = some pack ∧ pack.archived = false ∧
    packErrorIssues registry pack settings = []

inductive Change (rejectsNetloc : List Char → Bool) (deployment : Deployment)
    (settings : UiSettings) : SettingsCall → UiSettings → Prop
  | providers {sent providers : List ProviderConfig}
      (accepted : sent.mapM (ProviderConfig.validate rejectsNetloc) = some providers)
      (named : ∀ provider ∈ providers, provider.sanitizeLoaded = provider) :
      Change rejectsNetloc deployment settings (.putProviders sent)
        { settings with providers := providers }
  | tiers {overrides : List (Int × List String)} {capabilities : List (String × List String)}
      (tierOverrides : List (Int × List String))
      (modelCapabilities : List (String × List String)) :
      Change rejectsNetloc deployment settings (.putTiers overrides capabilities)
        { settings with tierOverrides := tierOverrides, modelCapabilities := modelCapabilities }
  | added {call : SettingsCall} {pack : ModelPack} (adds : call.addsPack = true)
      (accepted : pack.validate = some pack)
      (version : pack.version = (settings.versionsOf pack.id).length + 1) :
      Change rejectsNetloc deployment settings call
        { settings with modelPacks := settings.modelPacks ++ [pack] }
  | activated {ref : ModelPackRef} (selectable : Selectable deployment.registry settings ref) :
      Change rejectsNetloc deployment settings (.activate ref)
        { settings with activeModelPack := some ref }
  | deactivated :
      Change rejectsNetloc deployment settings .deactivate { settings with activeModelPack := none }
  | bound {ref : ModelPackRef} {workflowName : String}
      (selectable : Selectable deployment.registry settings ref) :
      Change rejectsNetloc deployment settings (.bind ref workflowName)
        { settings with
          workflowModelPacks := Items.insert settings.workflowModelPacks workflowName ref }
  | cleared {workflowName : String} :
      Change rejectsNetloc deployment settings (.clearBinding workflowName)
        { settings with
          workflowModelPacks := Items.erase settings.workflowModelPacks workflowName }
  | archived {ref : ModelPackRef} {pack : ModelPack} (found : settings.getModelPack ref = some pack)
      (inactive : settings.activeModelPack ≠ some ref)
      (unbound : ∀ binding ∈ settings.workflowModelPacks, binding.2 ≠ ref) :
      Change rejectsNetloc deployment settings (.archive ref)
        { settings with modelPacks := archivedPacks settings pack deployment.now }

section

variable {rejectsNetloc : List Char → Bool} {readBack : Json → Json} {deployment : Deployment}
  {settings document : UiSettings}

structure Passes (document : UiSettings) : Prop where
  refs : document.refs.all ModelPackRef.valid = true
  check : document.check = true

theorem construct_passes (refs : settings.refs.all ModelPackRef.valid = true)
    (made : settings.construct = some document) : document = settings ∧ Passes document := by
  simp only [UiSettings.construct, Option.ite_none_right_eq_some, Option.some.injEq] at made
  obtain ⟨check, same⟩ := made
  subst same
  exact ⟨rfl, refs, check⟩

theorem Fixed.updated_some (fixed : Fixed rejectsNetloc readBack settings) {fields : Replacement}
    (made : updated rejectsNetloc settings fields = some document) :
    document =
      { settings with
        modelPacks := fields.modelPacks.getD settings.modelPacks
        activeModelPack := fields.activeModelPack.getD settings.activeModelPack
        workflowModelPacks := fields.workflowModelPacks.getD settings.workflowModelPacks } ∧
      Passes document := by
  have packs : settings.modelPacks.mapM ModelPack.validate = some settings.modelPacks :=
    mapM_eq_some_self_iff.mpr fixed.packs
  unfold updated at made
  rw [fixed.validated_providers, packs] at made
  cases given : fields.modelPacks with
  | none | some packs =>
      simp only [given, Option.bind_eq_bind, Option.bind_some,
        Option.ite_none_right_eq_some] at made
      exact construct_passes made.1 made.2

def Makes (rejectsNetloc : List Char → Bool) (deployment : Deployment) (settings : UiSettings)
    (call : SettingsCall) (document : UiSettings) : Prop :=
  Change rejectsNetloc deployment settings call document ∧ Passes document

theorem nextVersion_some {now : Nat} {previous pack : ModelPack}
    {request : ModelPackUpdateRequest} (made : nextVersion now previous request = some pack) :
    pack.id = previous.id ∧ pack.version = previous.version + 1 := by
  simp only [nextVersion, Option.bind_eq_bind, Option.bind_eq_some_iff, Option.some.injEq] at made
  obtain ⟨name, _, description, _, chains, _, allowed, _, required, _, capabilities, _, same⟩ := made
  rw [← same]
  exact ⟨rfl, rfl⟩

variable {ref : ModelPackRef}

theorem requirePack_ok {pack : ModelPack} (required : requirePack settings ref = .ok pack) :
    settings.getModelPack ref = some pack := by
  unfold requirePack at required
  split at required
  · cases required
  · split at required
    · exact orRefuse_ok required
    · cases required

theorem packIsValid_iff {pack : ModelPack} : packIsValid deployment settings pack = true ↔
    packErrorIssues deployment.registry pack settings = [] := by
  rw [packIsValid, ← validatePackIssues_errors, filter_eq_nil_iff, Bool.not_eq_true', any_eq_false]

variable (fixed : Fixed rejectsNetloc readBack settings)

include fixed

theorem putProviderSettings_makes {sent : List ProviderConfig}
    (accepted : putProviderSettings rejectsNetloc settings sent = .ok document) :
    Makes rejectsNetloc deployment settings (.putProviders sent) document := by
  obtain ⟨providers, parsed, rest⟩ := Python.bind_ok accepted
  split at rest
  · cases rest
  · rename_i named
    obtain ⟨same, passes⟩ := construct_passes (by exact fixed.refs) (orRefuse_ok rest)
    constructor
    · rw [same]
      apply Change.providers (orRefuse_ok parsed)
      intro provider member
      apply ProviderConfig.sanitizeLoaded_of_valid
      rw [Bool.not_eq_true, any_eq_false] at named
      exact Bool.eq_false_iff.mpr (named provider member)
    · exact passes

theorem putTierSettings_makes {overrides : List (Int × List String)}
    {capabilities : List (String × List String)}
    (accepted : putTierSettings settings overrides capabilities = .ok document) :
    Makes rejectsNetloc deployment settings (.putTiers overrides capabilities) document := by
  obtain ⟨merged, _, rest⟩ := Python.bind_ok accepted
  obtain ⟨same, passes⟩ := construct_passes (by exact fixed.refs) (orRefuse_ok rest)
  constructor
  · rw [same]
    exact Change.tiers _ _
  · exact passes

theorem withPack_makes {refusal : Refusal} {pack : ModelPack} {call : SettingsCall}
    (adds : call.addsPack = true)
    (version : pack.version = (settings.versionsOf pack.id).length + 1)
    (accepted : withPack rejectsNetloc settings refusal pack = .ok document) :
    Makes rejectsNetloc deployment settings call document := by
  obtain ⟨validated, parsed, rest⟩ := Python.bind_ok accepted
  have valid := orRefuse_ok parsed
  have shape := ModelPack.validate_some valid
  obtain ⟨same, passes⟩ := fixed.updated_some (orRefuse_ok rest)
  constructor
  · rw [same]
    apply Change.added adds (ModelPack.validate_validated valid)
    rw [shape]
    exact version
  · exact passes

theorem createModelPack_makes {request : ModelPackCreateRequest} {call : SettingsCall}
    (adds : call.addsPack = true)
    (accepted : createModelPack rejectsNetloc deployment settings request = .ok document) :
    Makes rejectsNetloc deployment settings call document := by
  unfold createModelPack at accepted
  split at accepted
  · cases accepted
  · rename_i absent
    refine withPack_makes fixed adds ?_ accepted
    have none := Option.not_isSome_iff_eq_none.mp absent
    rw [UiSettings.Numbered.latest_absent none]

theorem versionModelPack_makes (numbered : settings.Numbered) {id : String}
    {request : ModelPackUpdateRequest}
    (accepted : versionModelPack rejectsNetloc deployment settings id request = .ok document) :
    Makes rejectsNetloc deployment settings (.version id request) document := by
  unfold versionModelPack at accepted
  split at accepted
  · cases accepted
  · rename_i previous latest
    obtain ⟨pack, made, rest⟩ := Python.bind_ok accepted
    obtain ⟨sameId, nextOne⟩ := nextVersion_some (orRefuse_ok made)
    obtain ⟨isId, isLast⟩ := numbered.latest_version latest
    refine withPack_makes fixed rfl ?_ rest
    rw [nextOne, sameId, isId, isLast]

theorem duplicateModelPack_makes {id : String} {request : ModelPackDuplicateRequest}
    (accepted : duplicateModelPack rejectsNetloc deployment settings id request = .ok document) :
    Makes rejectsNetloc deployment settings (.duplicate id request) document := by
  unfold duplicateModelPack at accepted
  split at accepted
  · cases accepted
  · split at accepted
    · cases accepted
    · obtain ⟨source, _, rest⟩ := Python.bind_ok accepted
      split at rest
      · cases rest
      · rename_i absent
        refine withPack_makes fixed rfl ?_ rest
        have none := Option.not_isSome_iff_eq_none.mp absent
        rw [UiSettings.Numbered.latest_absent none]

theorem activateModelPack_makes
    (accepted : activateModelPack rejectsNetloc deployment settings ref = .ok document) :
    Makes rejectsNetloc deployment settings (.activate ref) document := by
  obtain ⟨pack, required, rest⟩ := Python.bind_ok accepted
  split at rest
  · cases rest
  · rename_i good
    rw [Bool.or_eq_true, not_or, Bool.not_eq_true, Bool.not_eq_true', Bool.not_eq_false] at good
    obtain ⟨same, passes⟩ := fixed.updated_some (orRefuse_ok rest)
    constructor
    · rw [same]
      exact Change.activated ⟨pack, requirePack_ok required, good.1, packIsValid_iff.mp good.2⟩
    · exact passes

theorem bindModelPack_makes {workflowName : String}
    (accepted : bindModelPack rejectsNetloc deployment settings ref workflowName = .ok document) :
    Makes rejectsNetloc deployment settings (.bind ref workflowName) document := by
  obtain ⟨pack, required, rest⟩ := Python.bind_ok accepted
  split at rest
  · cases rest
  · rename_i live
    split at rest
    · cases rest
    · rename_i valid
      split at rest
      · cases rest
      · obtain ⟨same, passes⟩ := fixed.updated_some (orRefuse_ok rest)
        constructor
        · rw [same]
          exact Change.bound ⟨pack, requirePack_ok required, Bool.eq_false_iff.mpr live,
            packIsValid_iff.mp (not_not.mp valid)⟩
        · exact passes

theorem archiveModelPack_makes
    (accepted : archiveModelPack rejectsNetloc deployment settings ref = .ok document) :
    Makes rejectsNetloc deployment settings (.archive ref) document := by
  obtain ⟨pack, required, rest⟩ := Python.bind_ok accepted
  split at rest
  · cases rest
  · rename_i unused
    rw [not_or] at unused
    obtain ⟨same, passes⟩ := fixed.updated_some (orRefuse_ok rest)
    constructor
    · rw [same]
      apply Change.archived (requirePack_ok required) unused.1
      intro binding member equal
      exact unused.2 (any_eq_true.mpr ⟨binding, member, decide_eq_true equal⟩)
    · exact passes

theorem handle_makes (numbered : settings.Numbered) {call : SettingsCall}
    (accepted : handle rejectsNetloc deployment settings call = .ok document) :
    Makes rejectsNetloc deployment settings call document := by
  cases call with
  | putProviders sent => exact putProviderSettings_makes fixed accepted
  | putTiers overrides capabilities => exact putTierSettings_makes fixed accepted
  | create request => exact createModelPack_makes fixed rfl accepted
  | version id request => exact versionModelPack_makes fixed numbered accepted
  | duplicate id request => exact duplicateModelPack_makes fixed accepted
  | activate ref => exact activateModelPack_makes fixed accepted
  | deactivate =>
      obtain ⟨same, passes⟩ := fixed.updated_some (orRefuse_ok accepted)
      constructor
      · rw [same]
        exact Change.deactivated
      · exact passes
  | bind ref workflowName => exact bindModelPack_makes fixed accepted
  | clearBinding workflowName =>
      obtain ⟨same, passes⟩ := fixed.updated_some (orRefuse_ok accepted)
      constructor
      · rw [same]
        exact Change.cleared
      · exact passes
  | archive ref => exact archiveModelPack_makes fixed accepted
  | importPack schemaVersion request =>
      change importModelPack rejectsNetloc deployment settings schemaVersion request = _
        at accepted
      unfold importModelPack at accepted
      split at accepted
      · exact createModelPack_makes fixed rfl accepted
      · cases accepted

end

end AgenticRuntime
