/-
Where the two walks along a path start.

They differ below `steps`: `evaluate` reads a result's own view, or else the entry of
the context, and `resolve_variable` reads the entry laid over the view and completed
with `output`.
-/

import AgenticRuntime.Engine.PathWalk

namespace AgenticRuntime

open List

namespace Operand

def DistinctKeys (items : List (Operand × Operand)) : Prop :=
  items.Pairwise fun first second => first.1.eq second.1 = false

variable {value : Operand} {text : String} {items : List (Operand × Operand)}

theorem eq_str :
    value.eq (.str text) = true ↔ value = .str text := by
  cases value with
  | str own =>
      constructor
      · intro same
        rw [of_decide_eq_true same]
      · intro same
        cases same
        exact decide_eq_true rfl
  | _ =>
      apply iff_of_false
      · intro impossible
        cases impossible
      · intro impossible
        cases impossible

theorem valueAt?_cons_self {rest : List (Operand × Operand)} :
    valueAt? (.str text) ((.str text, value) :: rest) = some value :=
  if_pos (eq_str.mpr rfl)

theorem valueAt?_cons_ne {key : Operand} {rest : List (Operand × Operand)}
    (other : key ≠ .str text) :
    valueAt? (.str text) ((key, value) :: rest) = valueAt? (.str text) rest :=
  if_neg fun same => other (eq_str.mp same)

theorem valueAt?_append {more : List (Operand × Operand)} :
    valueAt? (.str text) (items ++ more) =
      (valueAt? (.str text) items).or (valueAt? (.str text) more) := by
  induction items with
  | nil => rfl
  | cons item rest ih =>
      obtain ⟨key, value⟩ := item
      rw [cons_append]
      by_cases same : key = .str text
      · rw [same, valueAt?_cons_self, valueAt?_cons_self, Option.some_or]
      · rw [valueAt?_cons_ne same, valueAt?_cons_ne same, ih]

theorem valueAt?_setEntry {key : Operand} (other : key ≠ .str text) :
    valueAt? (.str text) (setEntry key value items) = valueAt? (.str text) items := by
  induction items with
  | nil => exact valueAt?_cons_ne other
  | cons item rest ih =>
      obtain ⟨present, old⟩ := item
      rw [setEntry]
      by_cases same : present.eq key = true
      · rw [if_pos same]
        by_cases asked : present = .str text
        · subst asked
          cases key with
          | str own =>
              have equal : text = own := of_decide_eq_true same
              rw [equal] at other
              exact absurd rfl other
          | _ => cases same
        · rw [valueAt?_cons_ne asked, valueAt?_cons_ne asked]
      · rw [if_neg same]
        by_cases asked : present = .str text
        · rw [asked, valueAt?_cons_self, valueAt?_cons_self]
        · rw [valueAt?_cons_ne asked, valueAt?_cons_ne asked, ih]

theorem valueAt?_update {own : List (Operand × Operand)}
    (absent : valueAt? (.str text) items = Option.none) :
    valueAt? (.str text) (items.foldl (fun merged item => setEntry item.1 item.2 merged) own) =
      valueAt? (.str text) own := by
  induction items generalizing own with
  | nil => rfl
  | cons item rest ih =>
      obtain ⟨key, value⟩ := item
      have other : key ≠ .str text := by
        intro same
        rw [same, valueAt?_cons_self] at absent
        cases absent
      rw [valueAt?_cons_ne other] at absent
      rw [foldl_cons, ih absent, valueAt?_setEntry other]

theorem valueAt?_setEntry_isSome {key : Operand}
    (present : (valueAt? (.str text) items).isSome = true) :
    (valueAt? (.str text) (setEntry key value items)).isSome = true := by
  by_cases same : key = .str text
  · subst same
    induction items with
    | nil => cases present
    | cons item rest ih =>
        obtain ⟨held, old⟩ := item
        rw [setEntry]
        by_cases asked : held = .str text
        · rw [asked, if_pos (eq_str.mpr rfl), valueAt?_cons_self]
          rfl
        · rw [if_neg fun equal => asked (eq_str.mp equal), valueAt?_cons_ne asked]
          rw [valueAt?_cons_ne asked] at present
          exact ih present
  · rw [valueAt?_setEntry same]
    exact present

theorem valueAt?_update_isSome {own : List (Operand × Operand)}
    (present : (valueAt? (.str text) own).isSome = true) :
    (valueAt? (.str text)
      (items.foldl (fun merged item => setEntry item.1 item.2 merged) own)).isSome = true := by
  induction items generalizing own with
  | nil => exact present
  | cons item rest ih => exact ih (valueAt?_setEntry_isSome present)

end Operand

namespace ConditionEvaluator

open Operand (valueAt? valueAt?_append valueAt?_cons_ne valueAt?_cons_self)

section

variable (results : List (String × StepResultView)) (allVariables : List (String × Operand))

def viewItems (view : StepResultView) : List (Operand × Operand) :=
  (viewFields view (.dict view.output)).map fun field => (.str field.1, field.2)

/-- What `evaluate` has below `steps`, as data. -/
def evaluateSteps : List (Operand × Operand) :=
  (results.map fun step => (Operand.str step.1, Operand.dict (viewItems step.2))) ++
    (ctxSteps allVariables).filter fun item =>
      item.2.isDict && !results.any fun step => item.1.eq (.str step.1)

/-- The step that `evaluate` reads: the result's own view, or else the entry of the context. -/
def ownView (name : String) : Operand :=
  match lookupField results name with
  | some view => .dict (viewItems view)
  | none =>
      match ctxStep allVariables name with
      | some items => .dict items
      | none => .none

/-- The two read different things as the field of a step: the entry overrides the result's
view, or lends its `outputs` as `output`. -/
def divided (name field : String) : Bool :=
  match ctxStep allVariables name with
  | none => false
  | some items =>
      match lookupField results name with
      | some _ => (valueAt? (.str field) items).isSome
      | none =>
          field = "output" && (valueAt? (.str "output") items).isNone &&
            (valueAt? (.str "outputs") items).isSome

end

section

variable {results : List (String × StepResultView)} {allVariables : List (String × Operand)}
  {items : List (Operand × Operand)} {name : String}

theorem withOutput_kept (present : (valueAt? (.str "output") items).isSome = true) :
    withOutput items = items := by
  obtain ⟨value, known⟩ := Option.isSome_iff_exists.mp present
  unfold withOutput
  rw [known]
  cases valueAt? (.str "outputs") items with
  | none | some other => rfl

theorem withOutput_other {field : String}
    (other : ¬ (field = "output" ∧ (valueAt? (.str "output") items).isNone = true ∧
      (valueAt? (.str "outputs") items).isSome = true)) :
    valueAt? (.str field) (withOutput items) = valueAt? (.str field) items := by
  unfold withOutput
  split
  · rename_i outputs lent absent
    have apart : Operand.str "output" ≠ .str field := by
      intro same
      injection same with equal
      exact other ⟨equal.symm, by rw [absent]; rfl, by rw [lent]; rfl⟩
    rw [valueAt?_append, valueAt?_cons_ne apart, valueAt?, Option.or_none]
  · rfl

theorem getStepView_own {view : StepResultView} (known : lookupField results name = some view)
    (alone : ctxStep allVariables name = none) :
    getStepView results allVariables name = .dict (viewItems view) := by
  unfold getStepView
  rw [known, alone]
  exact congrArg Operand.dict (withOutput_kept rfl)

theorem getStepView_merged {view : StepResultView} (known : lookupField results name = some view)
    (stored : ctxStep allVariables name = some items) :
    getStepView results allVariables name = .dict (items.foldl (fun merged item =>
      Operand.setEntry item.1 item.2 merged) (viewItems view)) := by
  unfold getStepView
  rw [known, stored]
  exact congrArg Operand.dict (withOutput_kept (Operand.valueAt?_update_isSome rfl))

theorem getStepView_stored (unknown : lookupField results name = none)
    (stored : ctxStep allVariables name = some items) :
    getStepView results allVariables name = .dict (withOutput items) := by
  unfold getStepView
  rw [unknown, stored]

theorem getStepView_none (unknown : lookupField results name = none)
    (nothing : ctxStep allVariables name = none) :
    getStepView results allVariables name = .none := by
  unfold getStepView
  rw [unknown, nothing]

theorem named_undivided {methods : Operand → String → Option Nat} {field : String}
    (same : divided results allVariables name field = false) :
    (Place.mk true (ownView results allVariables name)).named methods field =
      (Place.mk true (getStepView results allVariables name)).named methods field := by
  unfold divided at same
  unfold ownView
  cases stored : ctxStep allVariables name with
  | none =>
      cases known : lookupField results name with
      | none => rw [getStepView_none known stored]
      | some view => rw [getStepView_own known stored]
  | some items =>
      rw [stored] at same
      dsimp only at same
      cases known : lookupField results name with
      | none =>
          rw [known] at same
          rw [getStepView_stored known stored]
          have other : ¬ (field = "output" ∧
              (valueAt? (.str "output") items).isNone = true ∧
              (valueAt? (.str "outputs") items).isSome = true) := by
            intro all
            rw [all.1, all.2.1, all.2.2] at same
            cases same
          rw [Place.named, Place.named]
          dsimp only
          rw [withOutput_other other]
      | some view =>
          rw [known] at same
          rw [getStepView_merged known stored, Place.named, Place.named]
          dsimp only
          have absent := Option.isNone_iff_eq_none.mp (Option.isSome_eq_false_iff.mp same)
          rw [Operand.valueAt?_update absent]

theorem views_cases (results : List (String × StepResultView))
    (allVariables : List (String × Operand)) (name : String) :
    (ownView results allVariables name = .none ∧
      getStepView results allVariables name = .none) ∨
    ∃ own merged, ownView results allVariables name = .dict own ∧
      getStepView results allVariables name = .dict merged := by
  unfold ownView
  cases known : lookupField results name with
  | none =>
      cases stored : ctxStep allVariables name with
      | none => exact .inl ⟨rfl, getStepView_none known stored⟩
      | some items => exact .inr ⟨items, _, rfl, getStepView_stored known stored⟩
  | some view =>
      cases stored : ctxStep allVariables name with
      | none => exact .inr ⟨viewItems view, _, rfl, getStepView_own known stored⟩
      | some items => exact .inr ⟨viewItems view, _, rfl, getStepView_merged known stored⟩

/-! ### What `evaluate` has below `steps` -/

theorem toNamespace_viewItems (view : StepResultView) :
    Operand.toNamespace (.dict (viewItems view)) =
      (do
        let output ← Operand.toNamespace (.dict view.output)
        return Operand.object (viewFields view output)) := by
  have texts : ∀ text : Option String, (Operand.ofText text).toNamespace = .ok (.ofText text) := by
    intro text
    cases text with
    | none | some held => rfl
  rw [Operand.toNamespace]
  unfold viewItems viewFields
  simp only [map_cons, map_nil, Operand.toNamespaceFields, texts]
  cases Operand.toNamespace (.dict view.output) with
  | error fault => rfl
  | ok output => rfl

theorem toNamespaceFields_append {more : List (Operand × Operand)}
    {fields others : List (String × Operand)} (first : Operand.toNamespaceFields items = .ok fields)
    (second : Operand.toNamespaceFields more = .ok others) :
    Operand.toNamespaceFields (items ++ more) = .ok (fields ++ others) := by
  induction items generalizing fields with
  | nil =>
      cases first
      exact second
  | cons item rest ih =>
      obtain ⟨key, value⟩ := item
      rw [Operand.toNamespaceFields] at first
      obtain ⟨copy, own, after⟩ := Python.bind_ok first
      obtain ⟨copies, later, built⟩ := Python.bind_ok after
      cases key with
      | str name =>
          cases built
          rw [cons_append, Operand.toNamespaceFields, own, ih later]
          rfl
      | _ => cases built

theorem toNamespaceFields_results {views : List (String × Operand)}
    (converted : (results.mapM fun step => do
      let output ← Operand.toNamespace (.dict step.2.output)
      return (step.1, Operand.object (viewFields step.2 output)) :
        Except Fault (List (String × Operand))) = .ok views) :
    Operand.toNamespaceFields (results.map fun step =>
      (Operand.str step.1, Operand.dict (viewItems step.2))) = .ok views := by
  induction results generalizing views with
  | nil =>
      cases converted
      rfl
  | cons step rest ih =>
      rw [mapM_cons] at converted
      obtain ⟨own, first, after⟩ := Python.bind_ok converted
      obtain ⟨others, later, built⟩ := Python.bind_ok after
      obtain ⟨output, copied, same⟩ := Python.bind_ok first
      cases same
      cases built
      rw [map_cons, Operand.toNamespaceFields, toNamespace_viewItems, copied, ih later]
      rfl

theorem toNamespace_evaluateSteps {steps : List (String × Operand)}
    (converted : stepNamespaces results allVariables = .ok steps) :
    Operand.toNamespace (.dict (evaluateSteps results allVariables)) = .ok (.object steps) := by
  unfold stepNamespaces at converted
  obtain ⟨views, own, after⟩ := Python.bind_ok converted
  obtain ⟨others, stored, built⟩ := Python.bind_ok after
  cases built
  rw [Operand.toNamespace, evaluateSteps,
    toNamespaceFields_append (toNamespaceFields_results own) stored]
  rfl

theorem valueAt?_results (name : String) :
    valueAt? (.str name) (results.map fun step =>
      (Operand.str step.1, Operand.dict (viewItems step.2))) =
      (lookupField results name).map fun view => .dict (viewItems view) := by
  induction results with
  | nil => rfl
  | cons step rest ih =>
      rw [map_cons, lookupField]
      by_cases same : step.1 = name
      · rw [if_pos same, same, valueAt?_cons_self]
        rfl
      · have other : Operand.str step.1 ≠ .str name := by
          intro equal
          injection equal with text
          exact same text
        rw [if_neg same, valueAt?_cons_ne other, ih]

theorem valueAt?_absent (absent : ∀ item, item ∈ items → item.1 ≠ .str name) :
    valueAt? (.str name) items = none := by
  induction items with
  | nil => rfl
  | cons item rest ih =>
      rw [valueAt?_cons_ne (absent item mem_cons_self)]
      exact ih fun other member => absent other (mem_cons_of_mem _ member)

theorem valueAt?_filter (distinct : Operand.DistinctKeys items) (keep : Operand × Operand → Bool) :
    valueAt? (.str name) (items.filter keep) =
      (valueAt? (.str name) items).filter fun value => keep (.str name, value) := by
  induction items with
  | nil => rfl
  | cons item rest ih =>
      obtain ⟨key, value⟩ := item
      obtain ⟨apart, others⟩ := pairwise_cons.mp distinct
      by_cases same : key = .str name
      · subst same
        rw [valueAt?_cons_self, Option.filter_some]
        by_cases kept : keep (.str name, value) = true
        · rw [filter_cons_of_pos kept, valueAt?_cons_self, if_pos kept]
        · rw [filter_cons_of_neg kept, if_neg kept]
          apply valueAt?_absent
          intro other member equal
          have differs := apart other (mem_of_mem_filter member)
          rw [equal, Operand.eq_str.mpr rfl] at differs
          cases differs
      · rw [valueAt?_cons_ne same, ← ih others]
        by_cases kept : keep (key, value) = true
        · rw [filter_cons_of_pos kept, valueAt?_cons_ne same]
        · rw [filter_cons_of_neg kept]

theorem unlisted_of_lookup (unknown : lookupField results name = none) :
    (results.any fun step => (Operand.str name).eq (.str step.1)) = false := by
  induction results with
  | nil => rfl
  | cons step rest ih =>
      by_cases same : step.1 = name
      · rw [lookupField, if_pos same] at unknown
        cases unknown
      · rw [lookupField, if_neg same] at unknown
        rw [any_cons, ih unknown, Bool.or_false]
        exact decide_eq_false fun equal => same equal.symm

/-- The step that `evaluate` finds below `steps`. -/
theorem valueAt?_evaluateSteps (distinct : Operand.DistinctKeys (ctxSteps allVariables))
    (name : String) :
    (valueAt? (.str name) (evaluateSteps results allVariables)).getD .none =
      ownView results allVariables name := by
  rw [evaluateSteps, valueAt?_append, valueAt?_results, valueAt?_filter distinct]
  unfold ownView
  cases known : lookupField results name with
  | some view => rfl
  | none =>
      rw [Option.map_none, Option.none_or]
      unfold ctxStep
      simp only [unlisted_of_lookup known, Bool.not_false, Bool.and_true]
      cases valueAt? (.str name) (ctxSteps allVariables) with
      | none => rfl
      | some value =>
          cases value with
          | dict items => rfl
          | _ => rfl

end

end ConditionEvaluator

end AgenticRuntime
