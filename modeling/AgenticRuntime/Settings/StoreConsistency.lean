/-
The model-pack store over runs of settings calls.

A run starts without a file. Beside the file stands a log of the selections that were
saved, each with the document it was made on. The store stays consistent exactly as long
as every provider that is saved is stable: one that is cleaned to something else when it
is read makes the loader drop or change the document.
-/

import AgenticRuntime.Settings.Changes
import AgenticRuntime.Transition

namespace AgenticRuntime

open Python List UiSettings Items
open Transition (Along replay logged)

/-! ### The store -/

/-- An activation (`target` is `none`) or a binding that was saved. -/
structure Selection where
  target : Option String
  ref : ModelPackRef
  registry : ModelRegistry
  settings : UiSettings

def Selection.Clean (selection : Selection) : Prop :=
  Selectable selection.registry selection.settings selection.ref

def SettingsCall.selects : SettingsCall → Option (Option String × ModelPackRef)
  | .activate ref => some (none, ref)
  | .bind ref workflowName => some (some workflowName, ref)
  | _ => none

def selections (settings : UiSettings) (placed : PlacedCall) : List Selection :=
  placed.call.selects.toList.map fun chosen =>
    ⟨chosen.1, chosen.2, placed.deployment.registry, settings⟩

abbrev StoreState := Option UiSettings × List Selection

section

variable (rejectsNetloc : List Char → Bool) (readBack : Json → Json)

def storeNext : StoreState → PlacedCall → Option StoreState :=
  logged (fun file placed => some (afterCall rejectsNetloc readBack file placed))
    fun file placed _ =>
      match saves rejectsNetloc readBack file placed with
      | none => []
      | some _ => selections (load rejectsNetloc readBack file) placed

def saved (file : Option UiSettings) : UiSettings := file.getD {}

/-- A reference that is in use names a live version that was clean when it was selected. -/
structure InUse (state : StoreState) (target : Option String) (ref : ModelPackRef) : Prop where
  live : ∃ pack, (saved state.1).getModelPack ref = some pack ∧ pack.archived = false
  clean : ∃ selection ∈ state.2, selection.target = target ∧ selection.ref = ref ∧
    selection.Clean

/-- The file loads as it was saved, versions are 1, 2, …, what is selected is live and was clean,
and a run that asks for no pack finds one or goes without. -/
structure StoreConsistent (state : StoreState) : Prop where
  loads : load rejectsNetloc readBack state.1 = saved state.1
  numbered : (saved state.1).Numbered
  selected : ∀ target ref, (saved state.1).selected target = some ref → InUse state target ref
  resolves : ∀ workflowName, ∃ answer,
    (saved state.1).resolveModelPack workflowName none = .ok answer

/-- `later` is the same version: only archived since, or touched. -/
structure ModelPack.Continues (later earlier : ModelPack) : Prop where
  content : later =
    { earlier with archived := later.archived, updatedAt := later.updatedAt }
  archived : earlier.archived = true → later.archived = true

/-- Every version stays, and a call that is refused or not saved changes nothing. -/
structure CallKeeps (before : StoreState) (placed : PlacedCall) (after : StoreState) : Prop where
  packs : ∀ ref pack,
    (load rejectsNetloc readBack before.1).getModelPack ref = some pack →
      ∃ later, (load rejectsNetloc readBack after.1).getModelPack ref = some later ∧
        later.Continues pack
  refused : saves rejectsNetloc readBack before.1 placed = none → after = before

def StaysConsistent (state : StoreState) (placed : PlacedCall) : Prop :=
  ∀ after, storeNext rejectsNetloc readBack state placed = some after →
    StoreConsistent rejectsNetloc readBack after ∧
      CallKeeps rejectsNetloc readBack state placed after

def SavesStable (state : StoreState) (placed : PlacedCall) : Prop :=
  match placed.call with
  | .putProviders sent => (saves rejectsNetloc readBack state.1 placed).isSome →
      ∀ provider ∈ sent, provider.Stable readBack
  | _ => True

end

/-! ### One change -/

section

variable {rejectsNetloc : List Char → Bool} {readBack : Json → Json} {deployment : Deployment}
  {settings document : UiSettings} {call : SettingsCall}

def SendsStable (readBack : Json → Json) : SettingsCall → Prop
  | .putProviders sent => ∀ provider ∈ sent, provider.Stable readBack
  | _ => True

theorem Change.fixed (change : Change rejectsNetloc deployment settings call document)
    (passes : Passes document) (stable : SendsStable readBack call)
    (fixed : Fixed rejectsNetloc readBack settings) : Fixed rejectsNetloc readBack document := by
  cases change with
  | providers accepted named =>
      refine ⟨?_, fixed.packs, passes.refs, passes.check⟩
      intro provider member
      obtain ⟨sent, listed, valid⟩ := exists_item (mapM_eq_some_iff.mp accepted) member
      exact ⟨(ProviderConfig.reread_validated_iff valid).mpr (stable sent listed),
        named provider member⟩
  | tiers | activated | deactivated | bound | cleared =>
      exact ⟨fixed.providers, fixed.packs, passes.refs, passes.check⟩
  | added adds accepted version =>
      refine ⟨fixed.providers, ?_, passes.refs, passes.check⟩
      intro pack member
      rcases mem_append.mp member with earlier | new
      · exact fixed.packs pack earlier
      · rw [mem_singleton.mp new]
        exact accepted
  | archived found inactive unbound =>
      refine ⟨fixed.providers, ?_, passes.refs, passes.check⟩
      intro pack member
      obtain ⟨item, listed, same⟩ := mem_map.mp member
      split at same
      · rw [← same]
        exact ModelPack.validate_archived
          (fixed.packs _ (getModelPack_some found).1) true deployment.now
      · rw [← same]
        exact fixed.packs item listed

/-! #### Versions -/

section

variable {pack : ModelPack} {now : Nat}

theorem archivedPacks_eq_map (settings : UiSettings) (pack : ModelPack) (now : Nat) :
    ∃ archive : ModelPack → ModelPack, archivedPacks settings pack now =
        settings.modelPacks.map archive ∧
      (∀ item, (archive item).id = item.id ∧ (archive item).version = item.version) ∧
      (∀ item, item.ref ≠ pack.ref → archive item = item) ∧
      archive pack = { pack with archived := true, updatedAt := now } := by
  refine ⟨_, rfl, ?_, ?_, if_pos ⟨rfl, rfl⟩⟩
  · intro item
    by_cases same : item.id = pack.id ∧ item.version = pack.version
    · rw [if_pos same]
      exact ⟨same.1.symm, same.2.symm⟩
    · rw [if_neg same]
      exact ⟨rfl, rfl⟩
  · intro item other
    apply if_neg
    rintro ⟨sameId, sameVersion⟩
    exact other (ModelPackRef.mk.injEq .. ▸ ⟨sameId, sameVersion⟩)

theorem versionsOf_archived (settings : UiSettings) (pack : ModelPack) (now : Nat) (id : String) :
    ({ settings with modelPacks := archivedPacks settings pack now } : UiSettings).versionsOf id =
      settings.versionsOf id := by
  obtain ⟨archive, shape, kept, _⟩ := archivedPacks_eq_map settings pack now
  simp only [versionsOf, shape, filter_map, map_map]
  have sameFilter : ((fun item : ModelPack => decide (item.id = id)) ∘ archive) =
      fun item => decide (item.id = id) := by
    funext item
    simp only [Function.comp, (kept item).1]
  rw [sameFilter]
  apply map_congr_left
  intro item member
  exact (kept item).2

end

theorem versionsOf_added (settings : UiSettings) (pack : ModelPack) (id : String) :
    ({ settings with modelPacks := settings.modelPacks ++ [pack] } : UiSettings).versionsOf id =
      settings.versionsOf id ++ if pack.id = id then [pack.version] else [] := by
  simp only [versionsOf, filter_append, map_append]
  by_cases same : pack.id = id
  · simp only [filter_cons, filter_nil, same, decide_true, if_true, map_cons, map_nil]
  · simp only [filter_cons, filter_nil, same, decide_false, Bool.false_eq_true, if_false, map_nil]

theorem Change.numbered (change : Change rejectsNetloc deployment settings call document)
    (numbered : settings.Numbered) : document.Numbered := by
  cases change with
  | providers accepted named | tiers | activated | deactivated | bound | cleared => exact numbered
  | @added _ pack adds accepted version =>
      intro id
      rw [versionsOf_added]
      by_cases same : pack.id = id
      · subst same
        rw [if_pos rfl, length_append, length_singleton, List.range'_concat, ← numbered pack.id,
          version]
        congr 2
        omega
      · rw [if_neg same, append_nil]
        exact numbered id
  | @archived ref pack found inactive unbound =>
      intro id
      rw [versionsOf_archived]
      exact numbered id

/-! #### Packs that stay -/

theorem ModelPack.Continues.refl (pack : ModelPack) : pack.Continues pack :=
  ⟨rfl, fun archived => archived⟩

theorem Change.packs (change : Change rejectsNetloc deployment settings call document)
    {ref : ModelPackRef} {pack : ModelPack} (found : settings.getModelPack ref = some pack) :
    ∃ later, document.getModelPack ref = some later ∧ later.Continues pack ∧
      (call ≠ .archive ref → later = pack) := by
  have unchanged (document : UiSettings) (packs : document.modelPacks = settings.modelPacks) :
      ∃ later, document.getModelPack ref = some later ∧ later.Continues pack ∧
        (call ≠ .archive ref → later = pack) := by
    refine ⟨pack, ?_, ModelPack.Continues.refl pack, fun _ => rfl⟩
    rw [getModelPack, packs]
    exact found
  cases change with
  | providers accepted named | tiers | activated | deactivated | bound | cleared =>
      exact unchanged _ rfl
  | added adds accepted version =>
      refine ⟨pack, ?_, ModelPack.Continues.refl pack, fun _ => rfl⟩
      rw [getModelPack, List.find?_append]
      exact (Option.or_of_isSome (Option.isSome_of_eq_some found)).trans found
  | @archived chosenRef chosen chosenFound inactive unbound =>
      obtain ⟨archive, shape, kept, others, itself⟩ :=
        archivedPacks_eq_map settings chosen deployment.now
      refine ⟨archive pack, ?_, ?_⟩
      · rw [getModelPack, shape, List.find?_map]
        have sameTest : ((fun item : ModelPack => decide (item.id = ref.id) &&
            decide (item.version = ref.version)) ∘ archive) =
              fun item => decide (item.id = ref.id) && decide (item.version = ref.version) := by
          funext item
          simp only [Function.comp, (kept item).1, (kept item).2]
        rw [sameTest]
        exact congrArg (Option.map archive) found
      · have refOfPack := (getModelPack_some found).2
        have refOfChosen := (getModelPack_some chosenFound).2
        by_cases same : ref = chosenRef
        · subst same
          have samePack : pack = chosen := Option.some.inj (found.symm.trans chosenFound)
          rw [samePack, itself]
          exact ⟨⟨rfl, fun _ => rfl⟩, fun other => absurd rfl other⟩
        · have untouched : archive pack = pack := by
            apply others
            rw [refOfPack, refOfChosen]
            exact same
          rw [untouched]
          exact ⟨ModelPack.Continues.refl pack, fun _ => rfl⟩

/-! #### What is selected -/

theorem Change.not_archive (change : Change rejectsNetloc deployment settings call document)
    {target : Option String} {ref : ModelPackRef} (used : settings.selected target = some ref) :
    call ≠ .archive ref := by
  intro archives
  subst archives
  cases change with
  | added adds accepted version => cases adds
  | archived found inactive unbound =>
      cases target with
      | none => exact inactive used
      | some workflowName => exact unbound _ (mem_of_get? used) rfl

theorem Change.selected (change : Change rejectsNetloc deployment settings call document)
    (distinct : (keys settings.workflowModelPacks).Nodup) {target : Option String}
    {ref : ModelPackRef} (used : document.selected target = some ref) :
    settings.selected target = some ref ∨
      call.selects = some (target, ref) ∧ Selectable deployment.registry settings ref := by
  cases change with
  | providers accepted named | tiers | added adds accepted version
  | archived found inactive unbound => exact .inl used
  | activated selectable =>
      cases target with
      | none =>
          cases used
          exact .inr ⟨rfl, selectable⟩
      | some workflowName => exact .inl used
  | deactivated =>
      cases target with
      | none => cases used
      | some workflowName => exact .inl used
  | @bound boundRef boundName selectable =>
      cases target with
      | none => exact .inl used
      | some workflowName =>
          change get? (insert _ boundName boundRef) workflowName = some ref at used
          rw [get?_insert] at used
          by_cases same : boundName = workflowName
          · rw [if_pos same] at used
            cases used
            subst same
            exact .inr ⟨rfl, selectable⟩
          · rw [if_neg same] at used
            exact .inl used
  | @cleared clearedName =>
      cases target with
      | none => exact .inl used
      | some workflowName =>
          change get? (erase _ clearedName) workflowName = some ref at used
          rw [get?_erase distinct] at used
          by_cases same : clearedName = workflowName
          · rw [if_pos same] at used
            cases used
          · rw [if_neg same] at used
            exact .inl used

theorem Change.distinct (change : Change rejectsNetloc deployment settings call document)
    (distinct : (keys settings.workflowModelPacks).Nodup) :
    (keys document.workflowModelPacks).Nodup := by
  cases change with
  | providers accepted named | tiers | added adds accepted version | activated | deactivated
  | archived found inactive unbound => exact distinct
  | bound => exact nodup_insert distinct _ _
  | cleared => exact nodup_erase distinct _

end

/-! ### Runs -/

section

variable {rejectsNetloc : List Char → Bool} {readBack : Json → Json}

structure StoreInvariant (rejectsNetloc : List Char → Bool) (readBack : Json → Json)
    (state : StoreState) : Prop where
  fixed : Fixed rejectsNetloc readBack (saved state.1)
  distinct : (keys (saved state.1).workflowModelPacks).Nodup
  numbered : (saved state.1).Numbered
  selected : ∀ target ref, (saved state.1).selected target = some ref → InUse state target ref

theorem initial_invariant : StoreInvariant rejectsNetloc readBack (none, []) := by
  refine ⟨⟨?_, ?_, rfl, rfl⟩, nodup_nil, fun id => rfl, ?_⟩
  · intro provider member
    cases member
  · intro pack member
    cases member
  · intro target ref used
    cases target with
    | none => cases used
    | some workflowName => cases used

theorem StoreInvariant.loads {state : StoreState}
    (invariant : StoreInvariant rejectsNetloc readBack state) :
    load rejectsNetloc readBack state.1 = saved state.1 := by
  cases file : state.1 with
  | none => rfl
  | some document =>
      have fixed := invariant.fixed
      rw [file] at fixed
      exact fixed.load

theorem resolves_of_live {settings : UiSettings}
    (live : ∀ target ref, settings.selected target = some ref →
      ∃ pack, settings.getModelPack ref = some pack ∧ pack.archived = false)
    (workflowName : String) :
    ∃ answer, settings.resolveModelPack workflowName none = .ok answer := by
  have atWorkflow := live (some workflowName)
  have atActive := live none
  simp only [resolveModelPack, resolveFrom]
  simp only [selected] at atWorkflow atActive
  cases bound : get? settings.workflowModelPacks workflowName with
  | some ref =>
      obtain ⟨pack, found, isLive⟩ := atWorkflow ref bound
      simp only [resolveFrom, found, isLive, Bool.false_eq_true, if_false]
      exact ⟨_, rfl⟩
  | none =>
      cases active : settings.activeModelPack with
      | none => exact ⟨_, rfl⟩
      | some ref =>
          obtain ⟨pack, found, isLive⟩ := atActive ref active
          simp only [resolveFrom, found, isLive, Bool.false_eq_true, if_false]
          exact ⟨_, rfl⟩

theorem StoreInvariant.consistent {state : StoreState}
    (invariant : StoreInvariant rejectsNetloc readBack state) :
    StoreConsistent rejectsNetloc readBack state :=
  ⟨invariant.loads, invariant.numbered, invariant.selected,
    resolves_of_live fun target ref used => (invariant.selected target ref used).live⟩

theorem storeNext_unsaved {state after : StoreState} {placed : PlacedCall}
    (unsaved : saves rejectsNetloc readBack state.1 placed = none)
    (taken : storeNext rejectsNetloc readBack state placed = some after) : after = state := by
  obtain ⟨moved, logs⟩ := Transition.logged_some taken
  simp only [unsaved, append_nil] at logs
  have sameFile : afterCall rejectsNetloc readBack state.1 placed = state.1 := by
    unfold afterCall
    unfold saves at unsaved
    split at unsaved
    · rfl
    · cases failed : placed.failure with
      | none =>
          rw [failed] at unsaved
          cases unsaved
      | some failure =>
          cases failure with
          | mkdir => rfl
          | dumps => rfl
          | mkstemp => rfl
          | write => rfl
          | replace => rfl
  exact Prod.ext ((Option.some.inj moved).symm.trans sameFile) logs

theorem storeNext_saved {state after : StoreState} {placed : PlacedCall} {document : UiSettings}
    (made : saves rejectsNetloc readBack state.1 placed = some document)
    (taken : storeNext rejectsNetloc readBack state placed = some after) :
    handle rejectsNetloc placed.deployment (load rejectsNetloc readBack state.1)
        placed.call = .ok document ∧
      after = (some document,
        state.2 ++ selections (load rejectsNetloc readBack state.1) placed) := by
  obtain ⟨moved, logs⟩ := Transition.logged_some taken
  simp only [made] at logs
  unfold saves at made
  split at made
  · cases made
  · rename_i written accepted
    rw [Option.ite_none_right_eq_some] at made
    obtain ⟨saving, same⟩ := made
    cases same
    refine ⟨accepted, Prod.ext ?_ logs⟩
    rw [← Option.some.inj moved]
    unfold afterCall
    rw [accepted, Option.isNone_iff_eq_none.mp saving]
    rfl

section

variable {state after : StoreState} {placed : PlacedCall} {document : UiSettings}

theorem StoreInvariant.makes (invariant : StoreInvariant rejectsNetloc readBack state)
    (made : saves rejectsNetloc readBack state.1 placed = some document)
    (taken : storeNext rejectsNetloc readBack state placed = some after) :
    Makes rejectsNetloc placed.deployment (saved state.1) placed.call document ∧
      after = (some document, state.2 ++ selections (saved state.1) placed) := by
  obtain ⟨accepted, shape⟩ := storeNext_saved made taken
  rw [invariant.loads] at accepted shape
  exact ⟨handle_makes invariant.fixed invariant.numbered accepted, shape⟩

theorem StoreInvariant.selects (invariant : StoreInvariant rejectsNetloc readBack state)
    (change : Change rejectsNetloc placed.deployment (saved state.1) placed.call document)
    {target : Option String} {ref : ModelPackRef} (used : document.selected target = some ref) :
    InUse (some document, state.2 ++ selections (saved state.1) placed) target ref := by
  rcases change.selected invariant.distinct used with earlier | ⟨chosen, selectable⟩
  · obtain ⟨⟨pack, found, isLive⟩, selection, listed, holds⟩ :=
      invariant.selected target ref earlier
    obtain ⟨later, foundLater, _, untouched⟩ := change.packs found
    constructor
    · refine ⟨later, foundLater, ?_⟩
      rw [untouched (change.not_archive earlier)]
      exact isLive
    · exact ⟨selection, mem_append_left _ listed, holds⟩
  · obtain ⟨pack, found, isLive, clean⟩ := selectable.found
    obtain ⟨later, foundLater, _, untouched⟩ := change.packs found
    have notArchive : placed.call ≠ .archive ref := by
      intro archives
      rw [archives] at chosen
      cases chosen
    constructor
    · refine ⟨later, foundLater, ?_⟩
      rw [untouched notArchive]
      exact isLive
    · refine ⟨⟨target, ref, placed.deployment.registry, saved state.1⟩, ?_, rfl, rfl, selectable⟩
      apply mem_append_right
      simp only [selections, chosen, Option.toList_some, map_cons, map_nil, mem_singleton]

theorem StoreInvariant.step (invariant : StoreInvariant rejectsNetloc readBack state)
    (stable : SavesStable rejectsNetloc readBack state placed)
    (taken : storeNext rejectsNetloc readBack state placed = some after) :
    StoreInvariant rejectsNetloc readBack after := by
  cases made : saves rejectsNetloc readBack state.1 placed with
  | none =>
      rw [storeNext_unsaved made taken]
      exact invariant
  | some document =>
      obtain ⟨⟨change, passes⟩, shape⟩ := invariant.makes made taken
      have sends : SendsStable readBack placed.call := by
        unfold SavesStable at stable
        cases sent : placed.call with
        | putProviders providers =>
            rw [sent] at stable
            exact stable (Option.isSome_of_eq_some made)
        | _ => trivial
      subst shape
      exact ⟨change.fixed passes sends invariant.fixed, change.distinct invariant.distinct,
        change.numbered invariant.numbered, fun target ref used => invariant.selects change used⟩

theorem StoreInvariant.stable_of_loads (invariant : StoreInvariant rejectsNetloc readBack state)
    (stays : StaysConsistent rejectsNetloc readBack state placed) :
    SavesStable rejectsNetloc readBack state placed := by
  unfold SavesStable
  split
  · rename_i sent isUpdate
    intro saves provider listed
    obtain ⟨document, made⟩ := Option.isSome_iff_exists.mp saves
    obtain ⟨after, taken⟩ : ∃ after, storeNext rejectsNetloc readBack state placed = some after :=
      ⟨_, rfl⟩
    obtain ⟨⟨change, passes⟩, shape⟩ := invariant.makes made taken
    have loads := (stays after taken).1.loads
    rw [shape] at loads
    rw [isUpdate] at change
    cases change with
    | providers accepted named =>
        have reads := providers_of_load loads
        obtain ⟨read, member, valid⟩ := exists_result (mapM_eq_some_iff.mp accepted) listed
        exact (ProviderConfig.reread_validated_iff valid).mp (reads read member)
    | added adds accepted version => cases adds
  · trivial

theorem StoreInvariant.stays (invariant : StoreInvariant rejectsNetloc readBack state)
    (stable : SavesStable rejectsNetloc readBack state placed) :
    StaysConsistent rejectsNetloc readBack state placed := by
  intro after taken
  have next := invariant.step stable taken
  refine ⟨next.consistent, ?_, ?_⟩
  · intro ref pack found
    rw [next.loads]
    rw [invariant.loads] at found
    cases made : saves rejectsNetloc readBack state.1 placed with
    | none =>
        rw [storeNext_unsaved made taken]
        exact ⟨pack, found, ModelPack.Continues.refl pack⟩
    | some document =>
        obtain ⟨⟨change, _⟩, shape⟩ := invariant.makes made taken
        obtain ⟨later, foundLater, continues, _⟩ := change.packs found
        rw [shape]
        exact ⟨later, foundLater, continues⟩
  · intro unsaved
    exact storeNext_unsaved unsaved taken

end

/-- From an empty store, every call leaves the store consistent exactly in the runs that save only
stable providers. -/
theorem model_pack_store_consistent_iff (rejectsNetloc : List Char → Bool) (readBack : Json → Json)
    (calls : List PlacedCall) :
    Along (storeNext rejectsNetloc readBack) (StaysConsistent rejectsNetloc readBack) (none, [])
        calls ↔
      Along (storeNext rejectsNetloc readBack) (SavesStable rejectsNetloc readBack) (none, [])
        calls := by
  have same (state : StoreState) (placed : PlacedCall)
      (invariant : StoreInvariant rejectsNetloc readBack state) :
      StaysConsistent rejectsNetloc readBack state placed ↔
        SavesStable rejectsNetloc readBack state placed :=
    ⟨invariant.stable_of_loads, invariant.stays⟩
  apply Transition.along_iff same
  · intro state placed after invariant stable taken
    exact invariant.step stable taken
  · exact initial_invariant

theorem consistent_of_stays {calls : List PlacedCall} {start finish : StoreState}
    (initial : StoreConsistent rejectsNetloc readBack start)
    (stays : Along (storeNext rejectsNetloc readBack) (StaysConsistent rejectsNetloc readBack) start
      calls)
    (run : replay (storeNext rejectsNetloc readBack) start calls = some finish) :
    StoreConsistent rejectsNetloc readBack finish := by
  have preserved (state : StoreState) (placed : PlacedCall) (after : StoreState)
      (_ : StoreConsistent rejectsNetloc readBack state)
      (stays : StaysConsistent rejectsNetloc readBack state placed)
      (taken : storeNext rejectsNetloc readBack state placed = some after) :
      StoreConsistent rejectsNetloc readBack after := (stays after taken).1
  exact Transition.replay_invariant_along preserved initial stays run

/-- A pack is created; then a provider is saved whose URL `http:// ` is read as `http:`. -/
def wipingCalls : List PlacedCall :=
  [{ call := .create
      { id := "fast"
        name := "Fast"
        tierChains := [(0, ["p:m"])]
        allowedProviders := ["p"] } },
    { call := .putProviders [{ id := "local", type := "custom", baseUrl := some "http:// /" }] }]

/-- The update is accepted and saved, and the next load finds neither provider nor pack. -/
theorem provider_update_wipes_packs :
    ¬ Along (storeNext (fun _ => false) fun value => value)
      (StaysConsistent (fun _ => false) fun value => value) (none, []) wipingCalls ∧
    (replay (storeNext (fun _ => false) fun value => value) (none, []) wipingCalls).map
        (fun state => ((saved state.1).modelPacks.length,
          (load (fun _ => false) (fun value => value) state.1).modelPacks.length)) =
      some (1, 0) := by
  have counts : (replay (storeNext (fun _ => false) fun value => value) (none, []) wipingCalls).map
      (fun state => ((saved state.1).modelPacks.length,
        (load (fun _ => false) (fun value => value) state.1).modelPacks.length)) =
      some (1, 0) := by decide +kernel
  refine ⟨?_, counts⟩
  intro stays
  obtain ⟨finish, run, lengths⟩ := Option.map_eq_some_iff.mp counts
  have loads := (consistent_of_stays initial_invariant.consistent stays run).loads
  rw [loads, Prod.mk.injEq] at lengths
  omega

end

end AgenticRuntime
