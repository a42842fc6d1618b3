/-
The draft of the pack builder, and the version that the server saves from it.

The key of a tier is the integer that it writes; an index is any number, as in JavaScript.
-/

import AgenticRuntime.Settings.Routes
import AgenticRuntime.Ui.WorkflowStream
import Mathlib.Data.Rat.Floor

namespace AgenticRuntime

open Python List
open Items (get? insert get?_eq_none_iff)

/-! ### Records and lists of JavaScript -/

namespace PackDraft

/-- The code units that strings are compared by. -/
def utf16 (text : String) : List Nat :=
  text.toList.flatMap fun c =>
    if c.toNat < 0x10000 then [c.toNat]
    else [0xd800 + (c.toNat - 0x10000) / 0x400, 0xdc00 + (c.toNat - 0x10000) % 0x400]

/-- `[...values].sort()` -/
def sortedTexts (values : List String) : List String :=
  values.insertionSort fun left right => ¬ utf16 right < utf16 left

def sortTierKeys (keys : List Int) : List Int := keys.dedup.insertionSort (· ≤ ·)

/-- A record that is filled key by key: writing to `__proto__` makes no property. -/
def filled (keys : List String) (values : String → List String) : List (String × List String) :=
  keys.filterMap fun key => if key ≠ "__proto__" then some (key, values key) else none

/-- `lookup(record, key) ?? []` -/
def entriesOf {κ : Type} [BEq κ] (record : List (κ × List String)) (key : κ) : List String :=
  (get? record key).getD []

end PackDraft

/-! ### The draft -/

structure PackDraft where
  tierChains : List (Int × List String)
  capabilityRequirements : List (Int × List String)
  allowedProviders : List String
  judgeModel : Option String
  modelCapabilities : List (String × List String)
  originTiers : List Int

inductive DraftAction where
  | add (tier : Int) (model : String) (index : Option PyFloat)
  | remove (tier : Int) (model : String)
  | move (fromTier toTier : Int) (model : String) (toIndex : PyFloat)
  | shift (tier : Int) (model : String) (delta : Int)
  | toggleCapability (tier : Int) (capability : String)
  | toggleProvider (provider : String)
  | setJudge (model : Option String)
  | reset (draft : PackDraft)

namespace PackDraft

def isBlank (value : String) : Bool := trimmed value = []

def normalizeJudge (model : Option String) : Option String := model.filter fun id => !isBlank id

def draftFromPack (pack : ModelPack) (tiers : List Int) : PackDraft :=
  { tierChains := tiers.foldl (fun chains tier =>
      if (get? chains tier).isSome then chains else insert chains tier [])
      pack.tierChains
    capabilityRequirements := pack.capabilityRequirements
    allowedProviders := pack.allowedProviders
    judgeModel := normalizeJudge pack.judgeModel
    modelCapabilities :=
      filled (Items.keys pack.modelCapabilities) (entriesOf pack.modelCapabilities)
    originTiers := Items.keys pack.tierChains }

/-- Where `slice` cuts at `Math.min(Math.max(Math.trunc(index), 0), length)`. -/
def clampIndex (index : PyFloat) (length : Nat) : Nat :=
  match index with
  | .finite value => min ⌊value⌋.toNat length
  | .inf => length
  | .negInf | .nan => 0

def placeInChain (chain : List String) (model : String) (index : Option PyFloat) : List String :=
  let rest := chain.filter fun member => member ≠ model
  let place := (index.map fun index => clampIndex index rest.length).getD rest.length
  rest.take place ++ model :: rest.drop place

variable (draft : PackDraft)

def withTierChain (tier : Int) (chain : List String) : PackDraft :=
  { draft with tierChains := insert draft.tierChains tier chain }

def addModel (tier : Int) (model : String) (index : Option PyFloat) : PackDraft :=
  if isBlank model then draft
  else
    let chain := entriesOf draft.tierChains tier
    let next := placeInChain chain model index
    if next = chain then draft else draft.withTierChain tier next

def removeModel (tier : Int) (model : String) : PackDraft :=
  let chain := entriesOf draft.tierChains tier
  if model ∉ chain then draft
  else draft.withTierChain tier (chain.filter fun member => member ≠ model)

def moveModel (fromTier toTier : Int) (model : String) (toIndex : PyFloat) : PackDraft :=
  let source := entriesOf draft.tierChains fromTier
  if model ∉ source then draft
  else if fromTier = toTier then
    let reordered := placeInChain source model (some toIndex)
    if reordered = source then draft else draft.withTierChain fromTier reordered
  else
    (draft.withTierChain fromTier (source.filter fun member => member ≠ model)).withTierChain toTier
      (placeInChain (entriesOf draft.tierChains toTier) model (some toIndex))

def shiftModel (tier : Int) (model : String) (delta : Int) : PackDraft :=
  let chain := entriesOf draft.tierChains tier
  let place := (chain.idxOf model : Int) + delta
  if model ∉ chain ∨ place < 0 ∨ chain.length ≤ place then draft
  else draft.withTierChain tier (placeInChain chain model (some (.finite place)))

/-- `toggleCapability` and `toggleProvider` on the list they change. -/
def toggled (current : List String) (value : String) : List String :=
  if value ∈ current then current.filter fun member => member ≠ value else current ++ [value]

def draftReducer : DraftAction → PackDraft
  | .add tier model index => draft.addModel tier model index
  | .remove tier model => draft.removeModel tier model
  | .move fromTier toTier model toIndex => draft.moveModel fromTier toTier model toIndex
  | .shift tier model delta => draft.shiftModel tier model delta
  | .toggleCapability tier capability =>
      if isBlank capability then draft
      else
        { draft with
          capabilityRequirements := insert draft.capabilityRequirements tier
            (toggled (entriesOf draft.capabilityRequirements tier) capability) }
  | .toggleProvider provider =>
      if isBlank provider then draft
      else { draft with allowedProviders := toggled draft.allowedProviders provider }
  | .setJudge model => { draft with judgeModel := normalizeJudge model }
  | .reset other => other

def draftToUpdate : ModelPackUpdateRequest :=
  { tierChains := .value
      ((sortTierKeys (Items.keys draft.tierChains ++ draft.originTiers)).filterMap fun tier =>
        if entriesOf draft.tierChains tier ≠ [] ∨ tier ∈ draft.originTiers then
          some (tier, entriesOf draft.tierChains tier) else none)
    allowedProviders := .value (sortedTexts draft.allowedProviders.dedup)
    capabilityRequirements := .value
      ((sortTierKeys (Items.keys draft.capabilityRequirements)).filterMap fun tier =>
        if entriesOf draft.capabilityRequirements tier ≠ [] then
          some (tier, sortedTexts (entriesOf draft.capabilityRequirements tier)) else none)
    modelCapabilities := .value
      (filled (sortedTexts (Items.keys draft.modelCapabilities)) (entriesOf draft.modelCapabilities))
    judgeModel := match normalizeJudge draft.judgeModel with
      | some model => .value model
      | none => .null }

/-! ### Capabilities -/

variable (catalog : String → Option (List String))

def effectiveCapabilities (model : String) : List String :=
  ((get? draft.modelCapabilities model).or (catalog model)).getD []

def requiredCapabilities (tier : Int) (knownCapabilities : List String) : List String :=
  let required := (entriesOf draft.capabilityRequirements tier).dedup
  if knownCapabilities = [] then required else required.filter knownCapabilities.contains

/-- The loop of `unmetCapabilities` over the rest of the chain. -/
def closestMissing (required : List String) (closest : Option (List String)) :
    List String → List String
  | [] => closest.getD []
  | model :: rest =>
      let missing := required.filter fun capability =>
        capability ∉ draft.effectiveCapabilities catalog model
      if missing = [] then []
      else
        closestMissing required (some (match closest with
          | some best => if missing.length < best.length then missing else best
          | none => missing)) rest

def unmetCapabilities (tier : Int) (knownCapabilities : List String) : List String :=
  let required := draft.requiredCapabilities tier knownCapabilities
  let chain := entriesOf draft.tierChains tier
  if required = [] ∨ chain = [] then [] else draft.closestMissing catalog required none chain

/-- `_tier_settings_response(settings).models`, each with its capabilities. -/
def tierModels (registry : ModelRegistry) (settings : UiSettings) : List (String × List String) :=
  (registry.models.map fun model =>
    (model.1, (get? settings.modelCapabilities model.1).getD [model.2])) ++
  ((Items.keys settings.modelCapabilities).insertionSort (· ≤ ·)).filterMap fun id =>
    if id ∉ Items.keys registry.models then some (id, entriesOf settings.modelCapabilities id)
    else none

/-- The capabilities of a model in the response, where the last entry of an id counts. -/
def responseCatalog (registry : ModelRegistry) (settings : UiSettings) (model : String) :
    Option (List String) :=
  get? (tierModels registry settings).reverse model

/-! ### Chains without duplicates -/

/-- A pack that validation has let through. -/
def Stored (pack : ModelPack) : Prop := ∃ sent : ModelPack, sent.validate = some pack

structure Sound (draft : PackDraft) : Prop where
  distinct : ∀ item ∈ draft.tierChains, item.2.Nodup
  plain : "__proto__" ∉ Items.keys draft.modelCapabilities

variable {draft : PackDraft}

theorem placeInChain_nodup {chain : List String} (distinct : chain.Nodup) (model : String)
    (index : Option PyFloat) : (placeInChain chain model index).Nodup := by
  unfold placeInChain
  dsimp only
  rw [nodup_middle, take_append_drop, nodup_cons]
  refine ⟨fun member => ?_, distinct.filter _⟩
  have differs := (mem_filter.mp member).2
  exact of_decide_eq_true differs rfl

theorem Sound.chain (sound : draft.Sound) (tier : Int) : (entriesOf draft.tierChains tier).Nodup := by
  unfold entriesOf
  cases found : get? draft.tierChains tier with
  | none => exact nodup_nil
  | some chain => exact sound.distinct (tier, chain) (Items.mem_of_get? found)

theorem Sound.withTierChain (sound : draft.Sound) (tier : Int) {chain : List String}
    (distinct : chain.Nodup) : (draft.withTierChain tier chain).Sound := by
  refine ⟨fun item member => ?_, sound.plain⟩
  rcases Items.mem_insert member with old | new
  · exact sound.distinct item old
  · rw [new]
    exact distinct

/-- A handler that may return the draft as it is. -/
theorem Sound.ite (sound : draft.Sound) {other : PackDraft} (next : other.Sound) (blank : Prop)
    [Decidable blank] : (if blank then draft else other).Sound := by
  split
  · exact sound
  · exact next

theorem Sound.draftReducer (sound : draft.Sound) {action : DraftAction}
    (reset : ∀ other, action = .reset other → other.Sound) : (draft.draftReducer action).Sound := by
  cases action with
  | add tier model index =>
      refine sound.ite (sound.ite (sound.withTierChain tier ?_) _) _
      exact placeInChain_nodup (sound.chain tier) model index
  | remove tier model =>
      exact sound.ite (sound.withTierChain tier ((sound.chain tier).filter _)) _
  | move fromTier toTier model toIndex =>
      unfold PackDraft.draftReducer moveModel
      dsimp only
      refine sound.ite ?_ _
      split
      · refine sound.ite (sound.withTierChain fromTier ?_) _
        exact placeInChain_nodup (sound.chain fromTier) model _
      · refine Sound.withTierChain (sound.withTierChain fromTier ?_) toTier ?_
        · exact (sound.chain fromTier).filter _
        · exact placeInChain_nodup (sound.chain toTier) model _
  | shift tier model delta =>
      refine sound.ite (sound.withTierChain tier ?_) _
      exact placeInChain_nodup (sound.chain tier) model _
  | toggleCapability tier capability | toggleProvider provider =>
      refine sound.ite ?_ _
      exact ⟨sound.distinct, sound.plain⟩
  | setJudge model => exact ⟨sound.distinct, sound.plain⟩
  | reset other => exact reset other rfl

theorem get?_filterMap {κ α : Type} [BEq κ] [LawfulBEq κ] [DecidableEq κ] (keys : List κ)
    (kept : κ → Prop) [DecidablePred kept] (value : κ → α) (key : κ) :
    get? (keys.filterMap fun key => if kept key then some (key, value key) else none) key =
      if key ∈ keys ∧ kept key then some (value key) else none := by
  induction keys with
  | nil => rfl
  | cons first rest ih =>
      by_cases keeps : kept first
      · rw [filterMap_cons, if_pos keeps]
        dsimp only
        rw [get?, ih]
        by_cases same : first = key
        · subst same
          rw [if_pos (beq_self_eq_true first), if_pos ⟨mem_cons_self, keeps⟩]
        · rw [if_neg fun equal => same (eq_of_beq equal)]
          congr 1
          rw [List.mem_cons, or_iff_right (Ne.symm same)]
      · rw [filterMap_cons, if_neg keeps]
        dsimp only
        rw [ih]
        congr 1
        rw [List.mem_cons, eq_iff_iff]
        constructor
        · exact fun held => ⟨.inr held.1, held.2⟩
        · rintro ⟨here | later, held⟩
          · exact absurd (here ▸ held) keeps
          · exact ⟨later, held⟩

theorem filled_plain (keys : List String) (values : String → List String) :
    "__proto__" ∉ Items.keys (filled keys values) := by
  rw [← get?_eq_none_iff]
  unfold filled
  rw [get?_filterMap, if_neg fun held => held.2 rfl]

theorem sound_draftFromPack {pack : ModelPack} (stored : Stored pack) (tiers : List Int) :
    (draftFromPack pack tiers).Sound := by
  refine ⟨?_, filled_plain _ _⟩
  have distinct : ∀ item ∈ pack.tierChains, item.2.Nodup := by
    obtain ⟨sent, valid⟩ := stored
    unfold ModelPack.validate at valid
    dsimp only at valid
    split at valid
    · rename_i checks
      cases valid
      simp only [Bool.and_eq_true] at checks
      intro item member
      have chains := all_eq_true.mp (Bool.and_eq_true_iff.mp checks.1.1.1.1.1.2).2
      exact of_decide_eq_true (chains item member)
    · cases valid
  change ∀ item ∈ tiers.foldl _ pack.tierChains, item.2.Nodup
  generalize pack.tierChains = chains at distinct ⊢
  induction tiers generalizing chains with
  | nil => exact distinct
  | cons tier rest ih =>
      rw [foldl_cons]
      apply ih
      split
      · exact distinct
      · intro item member
        rcases Items.mem_insert member with old | new
        · exact distinct item old
        · rw [new]
          exact nodup_nil

/-- The draft of a pack after some actions. -/
def edited (pack : ModelPack) (tiers : List Int) (actions : List DraftAction) : PackDraft :=
  actions.foldl PackDraft.draftReducer (draftFromPack pack tiers)

theorem sound_edited {pack : ModelPack} (stored : Stored pack) (tiers : List Int)
    {actions : List DraftAction} (resets : ∀ other, .reset other ∈ actions →
      ∃ source tiers, Stored source ∧ other = draftFromPack source tiers) :
    (edited pack tiers actions).Sound := by
  have start := sound_draftFromPack stored tiers
  unfold edited
  generalize draftFromPack pack tiers = draft at start ⊢
  induction actions generalizing draft with
  | nil => exact start
  | cons action rest ih =>
      apply ih (fun other member => resets other (mem_cons_of_mem _ member))
      apply start.draftReducer
      rintro other rfl
      obtain ⟨source, others, kept, rfl⟩ := resets other mem_cons_self
      exact sound_draftFromPack kept others

/-! ### The capabilities of a tier -/

/-- What both sides report: no model of the chain has all that is required and known. -/
def Unsatisfied (required chain : List String) (offered : String → List String) : Prop :=
  (∃ capability ∈ required, capability ∈ knownModelCapabilities) ∧ chain ≠ [] ∧
    ∀ model ∈ chain, ∃ capability ∈ required,
      capability ∈ knownModelCapabilities ∧ capability ∉ offered model

theorem closestMissing_ne_nil (catalog : String → Option (List String)) (required : List String)
    {chain : List String} {closest : Option (List String)}
    (kept : ∀ best, closest = some best → best ≠ [])
    (started : chain ≠ [] ∨ closest ≠ none) :
    draft.closestMissing catalog required closest chain ≠ [] ↔
      ∀ model ∈ chain, ∃ capability ∈ required,
        capability ∉ draft.effectiveCapabilities catalog model := by
  induction chain generalizing closest with
  | nil =>
      refine iff_of_true ?_ (fun _ member => absurd member not_mem_nil)
      obtain ⟨best, same⟩ := Option.ne_none_iff_exists'.mp (started.resolve_left (absurd rfl))
      rw [closestMissing, same]
      exact kept best same
  | cons model rest ih =>
      have missing : required.filter (fun capability =>
          capability ∉ draft.effectiveCapabilities catalog model) = [] ↔
          ¬ ∃ capability ∈ required, capability ∉ draft.effectiveCapabilities catalog model := by
        rw [filter_eq_nil_iff]
        simp only [decide_eq_true_eq, not_exists, not_and]
      unfold closestMissing
      dsimp only
      rw [forall_mem_cons]
      split
      · rename_i none
        exact iff_of_false (fun some => some rfl) fun all => missing.mp none all.1
      · rename_i some
        rw [ih ?_ (.inr (Option.some_ne_none _)), and_iff_right (not_not.mp (missing.not.mp some))]
        rintro best ⟨⟩
        split
        · rename_i held
          split
          · exact some
          · exact kept _ rfl
        · exact some

theorem mem_requiredCapabilities {tier : Int} {capability : String} :
    capability ∈ draft.requiredCapabilities tier knownModelCapabilities ↔
      capability ∈ entriesOf draft.capabilityRequirements tier ∧
        capability ∈ knownModelCapabilities := by
  have known : knownModelCapabilities ≠ [] := cons_ne_nil _ _
  unfold requiredCapabilities
  dsimp only
  rw [if_neg known, mem_filter, mem_dedup, contains_iff_mem]

theorem unmetCapabilities_ne_nil (catalog : String → Option (List String)) (tier : Int) :
    draft.unmetCapabilities catalog tier knownModelCapabilities ≠ [] ↔
      Unsatisfied (entriesOf draft.capabilityRequirements tier) (entriesOf draft.tierChains tier)
        (draft.effectiveCapabilities catalog) := by
  unfold unmetCapabilities Unsatisfied
  dsimp only
  have filled : draft.requiredCapabilities tier knownModelCapabilities = [] ↔
      ¬ ∃ capability ∈ entriesOf draft.capabilityRequirements tier,
        capability ∈ knownModelCapabilities := by
    rw [eq_nil_iff_forall_not_mem]
    simp only [mem_requiredCapabilities, not_exists]
  by_cases nothing : draft.requiredCapabilities tier knownModelCapabilities = [] ∨
      entriesOf draft.tierChains tier = []
  · rw [if_pos nothing]
    refine iff_of_false (fun some => some rfl) fun held => ?_
    rcases nothing with none | empty
    · exact filled.mp none held.1
    · exact held.2.1 empty
  · obtain ⟨wanted, chain⟩ := not_or.mp nothing
    have kept : ∀ best, (none : Option (List String)) = some best → best ≠ [] := by
      rintro best ⟨⟩
    rw [if_neg nothing, closestMissing_ne_nil catalog _ kept (.inl chain),
      and_iff_right (not_not.mp (filled.not.mp wanted)), and_iff_right chain]
    simp only [mem_requiredCapabilities, and_assoc]

/-! ### What the server reads -/

theorem get?_append {α : Type} (first second : List (String × α)) (key : String) :
    get? (first ++ second) key = (get? first key).or (get? second key) := by
  induction first with
  | nil => rfl
  | cons item rest ih =>
      rw [cons_append, get?, ih, get?]
      split
      · rfl
      · rfl

theorem responseCatalog_getD (registry : ModelRegistry) (settings : UiSettings) (model : String) :
    (responseCatalog registry settings model).getD [] =
      (get? settings.modelCapabilities model).getD
        (get? registry.models.reverse model).toList := by
  have ranked (models : List (String × String)) :
      get? (models.map fun model =>
        (model.1, (get? settings.modelCapabilities model.1).getD [model.2])) model =
      (get? models model).map fun capability =>
        (get? settings.modelCapabilities model).getD [capability] := by
    induction models with
    | nil => rfl
    | cons first rest ih =>
        rw [map_cons, get?, ih, get?]
        split
        · rename_i same
          rw [eq_of_beq same]
          rfl
        · rfl
  have listed : model ∈ Items.keys registry.models ↔
      get? registry.models.reverse model ≠ none := by
    rw [ne_eq, get?_eq_none_iff, not_not, Items.keys, Items.keys, map_reverse, mem_reverse]
  unfold responseCatalog tierModels
  rw [reverse_append, get?_append, ← map_reverse, ranked, ← filterMap_reverse, get?_filterMap]
  simp only [mem_reverse, mem_insertionSort, listed, entriesOf]
  cases known : get? settings.modelCapabilities model with
  | none =>
      rw [if_neg fun held => get?_eq_none_iff.mp known held.1]
      cases get? registry.models.reverse model with
      | none => rfl
      | some capability => rfl
  | some capabilities =>
      have member : model ∈ Items.keys settings.modelCapabilities := by
        by_contra missing
        rw [get?_eq_none_iff.mpr missing] at known
        cases known
      cases get? registry.models.reverse model with
      | none => rw [if_pos ⟨member, fun some => some rfl⟩]; rfl
      | some capability => rw [if_neg fun held => held.2 (Option.some_ne_none _)]; rfl

/-- The version that the server saves from a draft. -/
def Saved (draft : PackDraft) (saved : ModelPack) : Prop :=
  ∃ now previous made, nextVersion now previous draft.draftToUpdate = some made ∧
    made.validate = some saved

variable {saved : ModelPack}

theorem mem_tierCapabilityIssues {registry : ModelRegistry} {settings : UiSettings}
    {tier other : Int} {requirements : List String} :
    ⟨.error, "capability_unsatisfied", some tier, none⟩ ∈
        tierCapabilityIssues registry saved settings other requirements ↔
      tier = other ∧ Unsatisfied requirements ((get? saved.tierChains tier).getD [])
        (AgenticRuntime.effectiveCapabilities registry saved settings) := by
  unfold tierCapabilityIssues Unsatisfied
  dsimp only
  have required : requirements.filter knownModelCapabilities.contains = [] ↔
      ¬ ∃ capability ∈ requirements, capability ∈ knownModelCapabilities := by
    simp only [filter_eq_nil_iff, contains_iff_mem, not_exists, not_and]
  by_cases same : tier = other
  · subst same
    split
    · rename_i nothing
      refine iff_of_false not_mem_nil fun held => ?_
      rcases nothing with empty | none
      · exact held.2.2.1 empty
      · exact required.mp none held.2.1
    · rename_i something
      obtain ⟨chain, wanted⟩ := not_or.mp something
      rw [and_iff_right rfl, and_iff_right (not_not.mp (required.not.mp wanted)),
        and_iff_right chain]
      split
      · rename_i unmet
        refine iff_of_true (mem_singleton_self _) ?_
        simpa [and_assoc] using unmet
      · rename_i met
        refine iff_of_false (fun member => ?_) fun unmet => met ?_
        · obtain ⟨_, -, same⟩ := mem_map.mp member
          cases same
        · simpa [and_assoc] using unmet
  · refine iff_of_false (fun member => ?_) fun held => same held.1
    split at member
    · cases member
    · split at member
      · cases mem_singleton.mp member
        exact same rfl
      · obtain ⟨_, -, equal⟩ := mem_map.mp member
        cases equal

section

variable (kept : Saved draft saved)

include kept

theorem Saved.fields :
    draft.draftToUpdate.tierChains = .value saved.tierChains ∧
      draft.draftToUpdate.capabilityRequirements = .value saved.capabilityRequirements ∧
      draft.draftToUpdate.modelCapabilities = .value saved.modelCapabilities := by
  obtain ⟨now, previous, made, next, valid⟩ := kept
  unfold ModelPack.validate at valid
  dsimp only at valid
  split at valid
  · cases next
    cases valid
    exact ⟨rfl, rfl, rfl⟩
  · cases valid

theorem Saved.chain (tier : Int) :
    (get? saved.tierChains tier).getD [] = entriesOf draft.tierChains tier := by
  rw [← Patch.value.inj kept.fields.1, get?_filterMap]
  split
  · rfl
  · rename_i missing
    simp only [sortTierKeys, mem_insertionSort, mem_dedup, mem_append] at missing
    symm
    by_contra filled
    refine missing ⟨.inl ?_, .inl filled⟩
    by_contra unknown
    exact filled (by rw [entriesOf, get?_eq_none_iff.mpr unknown, Option.getD_none])

theorem Saved.mem_requirements {tier : Int} {requirements : List String} :
    (tier, requirements) ∈ saved.capabilityRequirements ↔
      entriesOf draft.capabilityRequirements tier ≠ [] ∧
        requirements = sortedTexts (entriesOf draft.capabilityRequirements tier) := by
  rw [← Patch.value.inj kept.fields.2.1, mem_filterMap]
  constructor
  · rintro ⟨other, -, written⟩
    split at written
    · cases written
      exact ⟨‹_›, rfl⟩
    · cases written
  · rintro ⟨filled, rfl⟩
    refine ⟨tier, ?_, if_pos filled⟩
    simp only [sortTierKeys, mem_insertionSort, mem_dedup]
    by_contra unknown
    exact filled (by rw [entriesOf, get?_eq_none_iff.mpr unknown, Option.getD_none])

theorem Saved.modelCapabilities (sound : draft.Sound) (model : String) :
    get? saved.modelCapabilities model = get? draft.modelCapabilities model := by
  rw [← Patch.value.inj kept.fields.2.2, filled, get?_filterMap]
  simp only [sortedTexts, mem_insertionSort, entriesOf]
  cases found : get? draft.modelCapabilities model with
  | none => rw [if_neg fun held => get?_eq_none_iff.mp found held.1]
  | some capabilities =>
      have member := mem_map_of_mem (f := Prod.fst) (Items.mem_of_get? found)
      rw [if_pos ⟨member, fun same => sound.plain (same ▸ member)⟩]
      rfl

theorem Saved.effectiveCapabilities (sound : draft.Sound) (registry : ModelRegistry)
    (settings : UiSettings) (model : String) :
    AgenticRuntime.effectiveCapabilities registry saved settings model =
      draft.effectiveCapabilities (responseCatalog registry settings) model := by
  unfold AgenticRuntime.effectiveCapabilities PackDraft.effectiveCapabilities
  rw [kept.modelCapabilities sound]
  cases get? draft.modelCapabilities model with
  | some capabilities => rfl
  | none =>
      rw [Option.none_or, responseCatalog_getD]
      cases get? settings.modelCapabilities model with
      | none => rfl
      | some capabilities => rfl

theorem Saved.mem_validatePackIssues (sound : draft.Sound) (registry : ModelRegistry)
    (settings : UiSettings) (available : Option (List String)) (tier : Int) :
    ⟨.error, "capability_unsatisfied", some tier, none⟩ ∈
        validatePackIssues registry saved settings available ↔
      Unsatisfied (entriesOf draft.capabilityRequirements tier) (entriesOf draft.tierChains tier)
        (draft.effectiveCapabilities (responseCatalog registry settings)) := by
  have elsewhere : ∀ issue : PackIssue, issue.code = "capability_unsatisfied" →
      (issue ∈ validatePackIssues registry saved settings available ↔
        issue ∈ capabilityIssues registry saved settings) := by
    intro issue here
    unfold validatePackIssues
    rw [mem_append, or_iff_right]
    simp only [mem_append, mem_flatMap, modelIssues, mem_ite_nil_right, mem_ite_nil_left,
      mem_singleton]
    rintro ((⟨-, rfl⟩ | ⟨_, -, -, rfl⟩) | ⟨_, -, ⟨-, rfl⟩ | ⟨_, -, reported⟩⟩)
    · simp at here
    · simp at here
    · simp at here
    · split at reported
      · rw [mem_singleton.mp reported] at here
        simp at here
      · simp only [mem_append, mem_ite_nil_right, mem_singleton] at reported
        rcases reported with ⟨-, rfl⟩ | ⟨-, rfl⟩
        · simp at here
        · simp at here
  rw [elsewhere _ rfl]
  simp only [capabilityIssues, mem_flatMap, mem_insertionSort, mem_tierCapabilityIssues, kept.chain]
  constructor
  · rintro ⟨⟨_, requirements⟩, written, rfl, known, chain, unmet⟩
    obtain ⟨-, rfl⟩ := kept.mem_requirements.mp written
    simp only [sortedTexts, mem_insertionSort, kept.effectiveCapabilities sound] at known unmet
    exact ⟨known, chain, unmet⟩
  · rintro ⟨known, chain, unmet⟩
    obtain ⟨capability, required, -⟩ := id known
    refine ⟨(tier, _), kept.mem_requirements.mpr ⟨ne_nil_of_mem required, rfl⟩, rfl, ?_⟩
    simp only [Unsatisfied, sortedTexts, mem_insertionSort, kept.effectiveCapabilities sound]
    exact ⟨known, chain, unmet⟩

end

def visionPack : ModelPack :=
  { id := "vision", name := "Vision", createdAt := 0, updatedAt := 0,
    tierChains := [(1, ["openai:gpt-4o"])] }

def visionSaved : ModelPack :=
  { visionPack with
    version := 2
    updatedAt := 1
    tierChains := [(1, ["openai:o3", "openai:gpt-4o"])]
    capabilityRequirements := [(1, ["vision"])] }

def visionEdits : List DraftAction :=
  [.add 2 "openai:o3" none, .reset (draftFromPack visionPack [0]), .add 1 "openai:o3" none,
    .shift 1 "openai:o3" (-1), .toggleCapability 1 "vision"]

end PackDraft

end AgenticRuntime
