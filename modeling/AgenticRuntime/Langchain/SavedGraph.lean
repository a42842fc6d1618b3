/-
The step graph of an accepted workflow document.

The editor checks the form of every step and that names are distinct, but not what the
dependency lists name. So an accepted document describes a DAG that its validation
accepts exactly when no list is null and the steps can be listed dependencies first.
-/

import AgenticRuntime.Engine.Dag
import AgenticRuntime.Langchain.Config

namespace AgenticRuntime

open Python StepConfig DAG
open List hiding repr

/-! ### The DAG that a configuration describes -/

/-- The strings of a list; `None` cannot be walked. -/
def dependencyNames? : PyValue → Option (List String)
  | .list items => items.mapM PyValue.asStr?
  | _ => .none

def StepConfig.definition? (step : StepConfig) : Option StepDefinition :=
  match step.name, dependencyNames? step.dependsOn with
  | .str name, some dependsOn => some { name := name, dependsOn := dependsOn }
  | _, _ => .none

def DAG.addMany (dag : DAG) : List StepDefinition → Except String DAG
  | [] => .ok dag
  | step :: rest =>
      match dag.add step with
      | .ok grown => grown.addMany rest
      | .error message => .error message

def WorkflowConfig.dag? (config : WorkflowConfig) : Option DAG :=
  match config.steps.mapM definition? with
  | some steps => ((empty "").addMany steps).toOption
  | .none => .none

/-- The step graph can be built and `DAG.validate` accepts it. -/
def WorkflowConfig.Runnable (config : WorkflowConfig) : Prop :=
  ∃ dag, config.dag? = some dag ∧ dag.validate = .ok ()

/-! ### What a document declares -/

def rawSteps (document : Mapping) : List Mapping :=
  match field document "steps" with
  | .list items => items.filterMap asMapping?
  | _ => []

/-- The name of a step and the names in its dependency list, none where there is no list. -/
def declared (rawStep : Mapping) : String × List String :=
  ((field rawStep "name").asStr?.getD "", (dependencyNames? (field rawStep "depends_on")).getD [])

/-- No dependency list is null, and the steps can be listed so that each depends only on
steps listed before it. -/
structure DependenciesInOrder (document : Mapping) : Prop where
  lists : ∀ rawStep ∈ rawSteps document, field? rawStep "depends_on" ≠ some .none
  ordered : ∃ order, order.Perm ((rawSteps document).map declared) ∧
    ∀ earlier step later, order = earlier ++ step :: later →
      ∀ dep ∈ step.2, dep ∈ earlier.map Prod.fst

/-! ### What the validation lets through -/

variable {builtins : Builtins}

structure WellFormedStep (rawStep : Mapping) (name : String) : Prop where
  named : field rawStep "name" = .str name
  dependencies : field? rawStep "depends_on" = .none ∨
    field? rawStep "depends_on" = some .none ∨
    ∃ names : List String, field? rawStep "depends_on" = some (.list (names.map .str))

theorem strings_of_nonEmpty (items : List PyValue) (strings : items.all isNonEmptyStr = true) :
    ∃ names : List String, items = names.map .str := by
  induction items with
  | nil => exact ⟨[], rfl⟩
  | cons item rest ih =>
      rw [all_cons, Bool.and_eq_true] at strings
      obtain ⟨names, same⟩ := ih strings.2
      cases item with
      | str text => exact ⟨text :: names, by rw [same, map_cons]⟩
      | none | bool | int | float | list | tuple | dict | datetime | path | object =>
          cases strings.1

theorem validateStepDependsOn_ok {stepName : String} {rawStep : Mapping}
    (accepted : validateStepDependsOn builtins stepName rawStep = .ok ()) :
    field? rawStep "depends_on" = .none ∨ field? rawStep "depends_on" = some .none ∨
      ∃ names : List String, field? rawStep "depends_on" = some (.list (names.map .str)) := by
  rw [validateStepDependsOn] at accepted
  cases present : field? rawStep "depends_on" with
  | none =>
      left
      rfl
  | some value =>
      right
      rw [present, Option.getD_some] at accepted
      cases value with
      | none =>
          left
          rfl
      | list items =>
          right
          dsimp only at accepted
          split at accepted
          · case isTrue strings =>
              obtain ⟨names, same⟩ := strings_of_nonEmpty items strings
              exact ⟨names, by rw [same]⟩
          · cases accepted
      | bool | int | float | str | tuple | dict | datetime | path | object => cases accepted

theorem validateStep_ok {index : Nat} {rawStep : PyValue} {seen after : List String}
    (accepted : validateStep builtins index rawStep seen = .ok after) :
    ∃ items name, rawStep = .dict items ∧ WellFormedStep items name ∧ name ∉ seen ∧
      after = seen ++ [name] := by
  unfold validateStep at accepted
  cases rawStep with
  | dict items =>
      dsimp only at accepted
      cases named : field items "name" with
      | str name =>
          rw [named] at accepted
          dsimp only at accepted
          obtain ⟨_, accepted⟩ := guard_ok accepted
          obtain ⟨fresh, accepted⟩ := guard_ok accepted
          obtain ⟨_, depends, accepted⟩ := bind_ok accepted
          obtain ⟨_, _, accepted⟩ := bind_ok accepted
          obtain ⟨_, _, accepted⟩ := bind_ok accepted
          obtain ⟨_, _, accepted⟩ := bind_ok accepted
          cases accepted
          exact ⟨items, name, rfl, ⟨named, validateStepDependsOn_ok depends⟩, fresh, rfl⟩
      | none | bool | int | float | list | tuple | dict | datetime | path | object =>
          rw [named] at accepted
          cases accepted
  | none | bool | int | float | str | list | tuple | datetime | path | object => cases accepted

theorem validateStepsFrom_ok {items : List PyValue} {index : Nat} {seen after : List String}
    (accepted : validateStepsFrom builtins index seen items = .ok after) :
    ∃ steps : List (String × Mapping), items = steps.map (fun step => .dict step.2) ∧
      (∀ step ∈ steps, WellFormedStep step.2 step.1) ∧
      (seen.Nodup → (seen ++ steps.map Prod.fst).Nodup) := by
  induction items generalizing index seen with
  | nil =>
      refine ⟨[], rfl, fun step within => absurd within not_mem_nil, fun distinct => ?_⟩
      rw [map_nil, append_nil]
      exact distinct
  | cons item rest ih =>
      obtain ⟨middle, first, accepted⟩ := bind_ok accepted
      obtain ⟨raw, name, same, wellFormed, fresh, grown⟩ := validateStep_ok first
      obtain ⟨steps, sameRest, allFormed, distinct⟩ := ih accepted
      subst grown
      refine ⟨(name, raw) :: steps, by rw [map_cons, same, sameRest], ?_, fun before => ?_⟩
      · rw [forall_mem_cons]
        exact ⟨wellFormed, allFormed⟩
      · have still : (seen ++ [name]).Nodup := by
          rw [nodup_append]
          refine ⟨before, nodup_singleton _, ?_⟩
          intro earlier member added last equal
          rw [mem_singleton] at last
          exact fresh (last ▸ equal ▸ member)
        have whole := distinct still
        rw [append_assoc] at whole
        exact whole

variable {document : Mapping} {config : WorkflowConfig}

theorem validateSteps_ok {names : List String}
    (accepted : validateSteps builtins document = .ok names) :
    ∃ steps : List (String × Mapping),
      field document "steps" = .list (steps.map fun step => .dict step.2) ∧ steps ≠ [] ∧
      (∀ step ∈ steps, WellFormedStep step.2 step.1) ∧ (steps.map Prod.fst).Nodup := by
  unfold validateSteps at accepted
  split at accepted
  · rename_i first rest listed
    obtain ⟨steps, same, wellFormed, distinct⟩ := validateStepsFrom_ok accepted
    refine ⟨steps, by rw [listed, same], ?_, wellFormed, ?_⟩
    · intro none
      rw [none] at same
      cases same
    · have whole := distinct nodup_nil
      rw [nil_append] at whole
      exact whole
  · cases accepted

/-! ### What is parsed -/

theorem parseStep_ok {raw inputs : Mapping} {step : StepConfig}
    (parsed : parseStep builtins raw inputs = .ok step) :
    step.name = field raw "name" ∧
      step.dependsOn = (field? raw "depends_on").getD (.list []) := by
  obtain ⟨_, _, parsed⟩ := bind_ok parsed
  obtain ⟨_, _, parsed⟩ := bind_ok parsed
  obtain ⟨_, _, parsed⟩ := bind_ok parsed
  obtain ⟨_, _, parsed⟩ := bind_ok parsed
  obtain ⟨_, _, parsed⟩ := bind_ok parsed
  obtain ⟨_, _, parsed⟩ := bind_ok parsed
  obtain ⟨_, _, parsed⟩ := bind_ok parsed
  cases parsed
  exact ⟨rfl, rfl⟩

theorem WellFormedStep.present {raw : Mapping} {name : String}
    (wellFormed : WellFormedStep raw name) : (field? raw "name").isNone = false := by
  have named := wellFormed.named
  rw [field] at named
  cases found : field? raw "name" with
  | none =>
      rw [found] at named
      cases named
  | some value => rfl

theorem parseStepList_ok {inputs : Mapping} {steps : List (String × Mapping)}
    (wellFormed : ∀ step ∈ steps, WellFormedStep step.2 step.1) {parsed : List StepConfig}
    (accepted : parseStepList builtins inputs (steps.map fun step => .dict step.2) = .ok parsed) :
    parsed.map (fun step => (step.name, step.dependsOn)) =
      steps.map fun step => (.str step.1, (field? step.2 "depends_on").getD (.list [])) := by
  induction steps generalizing parsed with
  | nil =>
      cases accepted
      rfl
  | cons step steps ih =>
      rw [forall_mem_cons] at wellFormed
      have present : ¬ (field? step.2 "name").isNone = true := by
        rw [wellFormed.1.present]
        exact Bool.false_ne_true
      rw [map_cons, parseStepList, if_neg present] at accepted
      obtain ⟨config, first, accepted⟩ := bind_ok accepted
      obtain ⟨rest, later, accepted⟩ := bind_ok accepted
      cases accepted
      have own := parseStep_ok first
      rw [map_cons, map_cons, ih wellFormed.2 later, own.1, own.2, wellFormed.1.named]

/-- What acceptance by the validation says about the steps and their configurations. -/
structure Accepted (document : Mapping) (config : WorkflowConfig)
    (steps : List (String × Mapping)) : Prop where
  listed : rawSteps document = steps.map Prod.snd
  nonempty : steps ≠ []
  wellFormed : ∀ step ∈ steps, WellFormedStep step.2 step.1
  distinct : (steps.map Prod.fst).Nodup
  parsed : config.steps.map (fun step => (step.name, step.dependsOn)) =
    steps.map fun step => (.str step.1, (field? step.2 "depends_on").getD (.list []))

theorem filterMap_mappings (steps : List (String × Mapping)) :
    (steps.map fun step => PyValue.dict step.2).filterMap asMapping? = steps.map Prod.snd := by
  rw [filterMap_map]
  exact congrFun filterMap_eq_map steps

theorem validateWorkflowDocument_ok {expectedName : PyValue}
    (accepted : validateWorkflowDocument builtins (.dict document) expectedName = .ok config) :
    ∃ steps, Accepted document config steps := by
  obtain ⟨defaultName, _, accepted⟩ := bind_ok accepted
  obtain ⟨names, checked, accepted⟩ := bind_ok accepted
  obtain ⟨inputs, _, accepted⟩ := bind_ok accepted
  obtain ⟨configs, parsed, accepted⟩ := bind_ok accepted
  obtain ⟨_, _, accepted⟩ := bind_ok accepted
  obtain ⟨_, _, accepted⟩ := bind_ok accepted
  cases accepted
  obtain ⟨steps, listed, nonempty, wellFormed, distinct⟩ := validateSteps_ok checked
  have there : field? document "steps" = some (.list (steps.map fun step => .dict step.2)) := by
    rw [field] at listed
    cases found : field? document "steps" with
    | none =>
        rw [found] at listed
        cases listed
    | some value =>
        rw [found, Option.getD_some] at listed
        rw [listed]
  refine ⟨steps, ?_, nonempty, wellFormed, distinct, ?_⟩
  · rw [rawSteps, listed]
    exact filterMap_mappings steps
  · rw [parseSteps, there, Option.getD_some] at parsed
    exact parseStepList_ok wellFormed parsed

/-! ### Building the DAG -/

theorem mapM_asStr (names : List String) :
    (names.map PyValue.str).mapM PyValue.asStr? = some names := by
  induction names with
  | nil => rfl
  | cons name names ih =>
      rw [map_cons, mapM_cons, ih]
      rfl

theorem definition_of_list {step : StepConfig} {raw : Mapping} {name : String}
    (wellFormed : WellFormedStep raw name) (listed : field? raw "depends_on" ≠ some .none)
    (named : step.name = .str name)
    (depends : step.dependsOn = (field? raw "depends_on").getD (.list [])) :
    step.definition? =
      some { name := (declared raw).1, dependsOn := (declared raw).2 : StepDefinition } := by
  rw [definition?, named, depends, declared, wellFormed.named, field]
  rcases wellFormed.dependencies with absent | null | ⟨names, present⟩
  · rw [absent]
    rfl
  · exact absurd null listed
  · rw [present, Option.getD_some, Option.getD_some, dependencyNames?, mapM_asStr]
    rfl

theorem definition_of_null {step : StepConfig} {raw : Mapping}
    (null : field? raw "depends_on" = some .none)
    (depends : step.dependsOn = (field? raw "depends_on").getD (.list [])) :
    step.definition? = .none := by
  rw [definition?, depends, null]
  cases step.name <;> rfl

theorem mem_of_mapM {α β : Type} {convert : α → Option β} {items : List α} {results : List β}
    (succeeded : items.mapM convert = some results) {item : α} (member : item ∈ items) :
    ∃ result, convert item = some result := by
  induction items generalizing results with
  | nil => cases member
  | cons head rest ih =>
      rw [mapM_cons] at succeeded
      cases first : convert head with
      | none =>
          rw [first] at succeeded
          cases succeeded
      | some result =>
          cases others : rest.mapM convert with
          | none =>
              rw [first, others] at succeeded
              cases succeeded
          | some results =>
              rcases List.mem_cons.mp member with same | later
              · subst same
                exact ⟨result, first⟩
              · exact ih others later

theorem mapM_definitions {configs : List StepConfig} {steps : List (String × Mapping)}
    (wellFormed : ∀ step ∈ steps, WellFormedStep step.2 step.1)
    (listed : ∀ step ∈ steps, field? step.2 "depends_on" ≠ some .none)
    (parsed : configs.map (fun step => (step.name, step.dependsOn)) =
      steps.map fun step => (.str step.1, (field? step.2 "depends_on").getD (.list []))) :
    configs.mapM definition? = some (steps.map fun step =>
      { name := (declared step.2).1, dependsOn := (declared step.2).2 : StepDefinition }) := by
  induction steps generalizing configs with
  | nil =>
      rw [map_nil, map_eq_nil_iff] at parsed
      rw [parsed]
      rfl
  | cons step steps ih =>
      cases configs with
      | nil => cases parsed
      | cons config configs =>
          rw [forall_mem_cons] at wellFormed listed
          obtain ⟨own, others⟩ := List.cons.inj parsed
          obtain ⟨named, depends⟩ := Prod.mk.inj own
          rw [mapM_cons, definition_of_list wellFormed.1 listed.1 named depends,
            ih wellFormed.2 listed.2 others]
          rfl

theorem mapM_null {configs : List StepConfig} {steps : List (String × Mapping)}
    {step : String × Mapping} (member : step ∈ steps)
    (null : field? step.2 "depends_on" = some .none)
    (parsed : configs.map (fun step => (step.name, step.dependsOn)) =
      steps.map fun step => (.str step.1, (field? step.2 "depends_on").getD (.list []))) :
    configs.mapM definition? = .none := by
  have there : (PyValue.str step.1, (field? step.2 "depends_on").getD (.list [])) ∈
      configs.map fun step => (step.name, step.dependsOn) := by
    rw [parsed]
    exact mem_map.mpr ⟨step, member, rfl⟩
  obtain ⟨config, within, same⟩ := mem_map.mp there
  have refused := definition_of_null null (Prod.mk.inj same).2
  cases built : configs.mapM definition? with
  | none => rfl
  | some definitions =>
      obtain ⟨definition, found⟩ := mem_of_mapM built within
      rw [refused] at found
      cases found

theorem DAG.addMany_ok (dag : DAG) (steps : List StepDefinition)
    (distinct : ((dag.steps ++ steps).map StepDefinition.name).Nodup) :
    ∃ grown, dag.addMany steps = .ok grown ∧ grown.steps = dag.steps ++ steps := by
  induction steps generalizing dag with
  | nil => exact ⟨dag, rfl, by rw [append_nil]⟩
  | cons step rest ih =>
      have fresh : step.name ∉ dag.stepNames := by
        rw [map_append, map_cons, nodup_append] at distinct
        intro present
        exact distinct.2.2 step.name present step.name mem_cons_self rfl
      rw [addMany, add, dif_neg fresh]
      have moved : dag.steps ++ [step] ++ rest = dag.steps ++ step :: rest := by
        rw [append_assoc, singleton_append]
      obtain ⟨grown, added, holds⟩ := ih
        { dag with steps := dag.steps ++ [step], distinct := _ } (by rw [moved]; exact distinct)
      exact ⟨grown, added, by rw [holds, moved]⟩

/-! ### Accepted documents -/

theorem Accepted.names {steps : List (String × Mapping)}
    (accepted : Accepted document config steps) :
    (steps.map fun step => (declared step.2).1) = steps.map Prod.fst := by
  apply map_congr_left
  intro step member
  rw [declared, (accepted.wellFormed step member).named]
  rfl

theorem Accepted.dag {steps : List (String × Mapping)} (accepted : Accepted document config steps)
    (lists : ∀ step ∈ steps, field? step.2 "depends_on" ≠ some .none) :
    ∃ dag, config.dag? = some dag ∧
      dag.dependencyPairs = (rawSteps document).map declared ∧ dag.steps ≠ [] := by
  have distinct : ((empty "").steps ++ steps.map fun step =>
      { name := (declared step.2).1, dependsOn := (declared step.2).2 : StepDefinition }).map
        StepDefinition.name = steps.map Prod.fst := by
    rw [empty, nil_append, map_map]
    exact accepted.names
  obtain ⟨dag, built, holds⟩ := addMany_ok (empty "") _ (by
    rw [distinct]
    exact accepted.distinct)
  refine ⟨dag, ?_, ?_, ?_⟩
  · rw [WorkflowConfig.dag?, mapM_definitions accepted.wellFormed lists accepted.parsed]
    dsimp only
    rw [built]
    rfl
  · rw [dependencyPairs, holds, empty, nil_append, accepted.listed, map_map, map_map]
    rfl
  · intro none
    rw [none, empty, nil_append, eq_comm, map_eq_nil_iff] at holds
    exact accepted.nonempty holds

theorem Accepted.runnable_iff {steps : List (String × Mapping)}
    (accepted : Accepted document config steps) :
    config.Runnable ↔ DependenciesInOrder document := by
  have onRaw : (∀ step ∈ steps, field? step.2 "depends_on" ≠ some .none) ↔
      ∀ rawStep ∈ rawSteps document, field? rawStep "depends_on" ≠ some .none := by
    rw [accepted.listed, forall_mem_map]
  constructor
  · intro ⟨dag, built, valid⟩
    have lists : ∀ step ∈ steps, field? step.2 "depends_on" ≠ some .none := by
      intro step member null
      rw [WorkflowConfig.dag?, mapM_null member null accepted.parsed] at built
      cases built
    obtain ⟨own, same, pairs, nonempty⟩ := accepted.dag lists
    rw [built] at same
    cases same
    have order := (dag.validate_ok_iff_order nonempty).mp valid
    rw [pairs] at order
    exact ⟨onRaw.mp lists, order⟩
  · intro inOrder
    obtain ⟨dag, built, pairs, nonempty⟩ := accepted.dag (onRaw.mpr inOrder.lists)
    refine ⟨dag, built, (dag.validate_ok_iff_order nonempty).mpr ?_⟩
    rw [pairs]
    exact inOrder.ordered

/-- The editor takes the document: it validates it, under any expected name, or saves it. -/
def EditorAccepts (builtins : Builtins) (document : Mapping) (config : WorkflowConfig) : Prop :=
  (∃ expectedName, validateWorkflowDocument builtins (.dict document) expectedName = .ok config) ∨
  ∃ name persistedDocument,
    saveWorkflowDocument builtins name document = .ok (persistedDocument, config)

theorem EditorAccepts.steps (accepts : EditorAccepts builtins document config) :
    ∃ steps, Accepted document config steps := by
  rcases accepts with ⟨expectedName, validated⟩ | ⟨name, persistedDocument, saved⟩
  · exact validateWorkflowDocument_ok validated
  · obtain ⟨parsed, validated, saved⟩ := bind_ok saved
    obtain ⟨_, _, saved⟩ := bind_ok saved
    cases saved
    exact validateWorkflowDocument_ok validated

/-- An accepted document describes a graph that `DAG.validate` accepts exactly when its
dependencies are in order. -/
theorem accepted_runnable_iff (document : Mapping) (config : WorkflowConfig)
    (accepts : EditorAccepts builtins document config) :
    config.Runnable ↔ DependenciesInOrder document := by
  obtain ⟨steps, accepted⟩ := accepts.steps
  exact accepted.runnable_iff

/-! ### Documents that are saved -/

def plainBuiltins : Builtins where
  text _ := ""
  repr _ := ""
  int
    | .int value => .ok value
    | _ => .error .typeError
  float
    | .float value => .ok value
    | _ => .error .typeError
  isWord c := c.isAlphanum || c = '_'

def stepDocument (name : String) (dependsOn : List String) : PyValue :=
  .dict [(.str "name", .str name), (.str "agent", .str "tier2_coder"),
    (.str "depends_on", .list (dependsOn.map .str))]

def editorDocument (steps : List PyValue) : Mapping :=
  [(.str "name", .str "editor"), (.str "steps", .list steps)]

/-- A step listed before the one it depends on. -/
theorem accepted_runnable_iff_unsorted :
    ∃ config, EditorAccepts plainBuiltins
        (editorDocument [stepDocument "review" ["draft"], stepDocument "draft" []]) config ∧
      (config.Runnable ↔ DependenciesInOrder
        (editorDocument [stepDocument "review" ["draft"], stepDocument "draft" []])) := by
  have saved : ∃ result, saveWorkflowDocument plainBuiltins (.str "editor")
      (editorDocument [stepDocument "review" ["draft"], stepDocument "draft" []]) = .ok result :=
    ⟨_, rfl⟩
  obtain ⟨⟨persistedDocument, config⟩, saved⟩ := saved
  have accepts : EditorAccepts plainBuiltins _ config := .inr ⟨_, persistedDocument, saved⟩
  exact ⟨config, accepts, accepted_runnable_iff _ config accepts⟩

/-- A dependency on a step that is not there, and two steps that wait for each other, are
both saved; `DAG.validate` refuses both graphs. -/
theorem saved_graphs_refused :
    (∃ persistedDocument config, saveWorkflowDocument plainBuiltins (.str "editor")
        (editorDocument [stepDocument "draft" ["missing"]]) = .ok (persistedDocument, config) ∧
      config.dag?.map validate = some (.error (.missingDependency "draft" "missing")) ∧
      ¬ config.Runnable) ∧
    ∃ persistedDocument config, saveWorkflowDocument plainBuiltins (.str "editor")
        (editorDocument [stepDocument "draft" ["review"], stepDocument "review" ["draft"]]) =
          .ok (persistedDocument, config) ∧
      config.dag?.map validate =
        some (.error (.cycleDetected ["draft", "review", "draft"])) ∧
      ¬ config.Runnable := by
  have refused : ∀ (config : WorkflowConfig) (failure : DAGError),
      config.dag?.map validate = some (.error failure) → ¬ config.Runnable := by
    intro config failure fails ⟨dag, built, valid⟩
    rw [built, Option.map_some, valid] at fails
    cases fails
  constructor
  · exact ⟨_, _, rfl, rfl, refused _ (.missingDependency "draft" "missing") rfl⟩
  · exact ⟨_, _, rfl, rfl, refused _ (.cycleDetected ["draft", "review", "draft"]) rfl⟩

end AgenticRuntime
