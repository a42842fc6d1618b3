/-
What `_validate_ast` and the building of the environment ensure.

The walk comes by every part of an expression; an expression that it lets pass and
whose names are all in the context evaluates without a fault over names. A context
whose dicts have strings for keys can be turned into namespaces.
-/

import AgenticRuntime.Engine.EvaluationTrace
import AgenticRuntime.Engine.Evaluator

namespace AgenticRuntime

open List AstNode

namespace ConditionEvaluator

/-! ### The walk -/

theorem fieldOrder_perm (node : AstNode) : (fieldOrder node).Perm node.children := by
  cases node with
  | constant value | name id | attr value field | subscript value slice
  | binOp left op right | unaryOp op operand | and values | or values
  | compare left comparisons | call func args | list elts | tuple elts | set elts =>
      exact List.Perm.refl _
  | dict entries =>
      change (entries.filterMap Prod.fst ++ entries.map Prod.snd).Perm
        (entries.flatMap fun entry => entry.1.toList ++ [entry.2])
      induction entries with
      | nil => exact List.Perm.refl _
      | cons entry rest ih =>
          obtain ⟨key, value⟩ := entry
          cases key with
          | none => exact perm_middle.trans (ih.cons value)
          | some own => exact (perm_middle.trans (ih.cons value)).cons own

theorem mem_walk {fuel : Nat} {queue : List AstNode}
    (enough : (queue.map (total fun _ => 1)).sum ≤ fuel) {node part : AstNode}
    (member : node ∈ queue) (within : AstNode.Part node part) : part ∈ walk fuel queue := by
  induction fuel generalizing queue node with
  | zero =>
      have own : node.total (fun _ => 1) ≤ (queue.map (total fun _ => 1)).sum :=
        le_sum_of_mem (mem_map_of_mem member)
      have positive := total_eq (fun _ => 1) node
      omega
  | succ fuel ih =>
      cases queue with
      | nil => cases member
      | cons first rest =>
          have fewer : ((rest ++ fieldOrder first).map (total fun _ => 1)).sum ≤ fuel := by
            have same := ((fieldOrder_perm first).map (total fun _ => 1)).sum_eq
            have whole := total_eq (fun _ => 1) first
            rw [map_append, sum_append, same]
            rw [map_cons, sum_cons] at enough
            omega
          rcases List.mem_cons.mp member with same | later
          · subst same
            cases within with
            | whole => exact mem_cons_self
            | inner below deeper =>
                have queued := (fieldOrder_perm node).mem_iff.mpr below
                exact mem_cons_of_mem _ (ih fewer (mem_append_right rest queued) deeper)
          · exact mem_cons_of_mem _ (ih fewer (mem_append_left _ later) within)

theorem objection_of_validated {node part : AstNode} (validated : validateAst node = .ok ())
    (within : AstNode.Part node part) : objection part = none := by
  unfold validateAst at validated
  split at validated
  · cases validated
  · rename_i nothing
    have enough : (([node] : List AstNode).map (total fun _ => 1)).sum ≤
        node.total fun _ => 1 := by simp
    exact List.findSome?_eq_none_iff.mp nothing part (mem_walk enough mem_cons_self within)

theorem named_of_validated {node : AstNode} {env : List (String × Operand)}
    (validated : validateAst node = .ok ())
    (bound : ∀ id, AstNode.Part node (.name id) → lookupField env id ≠ none) : node.Named env := by
  intro part within
  have plain := objection_of_validated validated within
  cases part with
  | name id =>
      constructor
      · cases hidden : isDunder id with
        | false => rfl
        | true =>
            rw [objection, if_pos hidden] at plain
            cases plain
      · exact bound id within
  | attr value field =>
      cases hidden : isDunder field with
      | false => exact hidden
      | true =>
          rw [objection, if_pos hidden] at plain
          cases plain
  | _ => exact trivial

end ConditionEvaluator

/-! ### The environment -/

namespace Operand

mutual

/-- The dicts in it, but for those in tuples, have strings for keys, as JSON has them. -/
def keyed : Operand → Bool
  | .dict items => keyedEntries items
  | .list items => keyedItems items
  | _ => true

def keyedItems : List Operand → Bool
  | [] => true
  | item :: rest => keyed item && keyedItems rest

def keyedEntries : List (Operand × Operand) → Bool
  | [] => true
  | (.str _, value) :: rest => keyed value && keyedEntries rest
  | _ :: _ => false

end

mutual

theorem toNamespace_ok (value : Operand) (keys : value.keyed = true) :
    Succeeded value.toNamespace := by
  cases value with
  | dict items =>
      obtain ⟨fields, converted⟩ := toNamespaceFields_ok items keys
      rw [toNamespace, converted]
      exact succeeded_ok _
  | list items =>
      obtain ⟨others, converted⟩ := toNamespaceItems_ok items keys
      rw [toNamespace, converted]
      exact succeeded_ok _
  | _ => exact succeeded_ok _

theorem toNamespaceItems_ok (items : List Operand) (keys : keyedItems items = true) :
    Succeeded (toNamespaceItems items) := by
  cases items with
  | nil => exact succeeded_ok []
  | cons item rest =>
      obtain ⟨own, others⟩ := (Bool.and_eq_true _ _).mp keys
      obtain ⟨first, converted⟩ := toNamespace_ok item own
      obtain ⟨later, further⟩ := toNamespaceItems_ok rest others
      rw [toNamespaceItems, converted, further]
      exact succeeded_ok _

theorem toNamespaceFields_ok (items : List (Operand × Operand))
    (keys : keyedEntries items = true) : Succeeded (toNamespaceFields items) := by
  cases items with
  | nil => exact succeeded_ok []
  | cons item rest =>
      obtain ⟨key, value⟩ := item
      cases key with
      | str name =>
          obtain ⟨own, others⟩ := (Bool.and_eq_true _ _).mp keys
          obtain ⟨held, converted⟩ := toNamespace_ok value own
          obtain ⟨later, further⟩ := toNamespaceFields_ok rest others
          rw [toNamespaceFields, converted, further]
          exact succeeded_ok _
      | _ => exact absurd keys Bool.false_ne_true

end

theorem keyedEntries_iff {items : List (Operand × Operand)} : keyedEntries items = true ↔
    ∀ item, item ∈ items → (∃ name, item.1 = .str name) ∧ item.2.keyed = true := by
  induction items with
  | nil =>
      apply iff_of_true rfl
      intro item member
      cases member
  | cons item rest ih =>
      obtain ⟨key, value⟩ := item
      rw [forall_mem_cons]
      cases key with
      | str name =>
          rw [keyedEntries, Bool.and_eq_true, ih]
          simp only [str.injEq, exists_eq', true_and]
      | _ =>
          apply iff_of_false Bool.false_ne_true
          intro both
          obtain ⟨name, impossible⟩ := both.1.1
          cases impossible

end Operand

theorem mapM_succeeded {α β : Type} {convert : α → Except Fault β} {items : List α}
    (each : ∀ item, item ∈ items → Succeeded (convert item)) :
    Succeeded (items.mapM convert) := by
  induction items with
  | nil => exact succeeded_ok []
  | cons item rest ih =>
      obtain ⟨own, converted⟩ := each item mem_cons_self
      obtain ⟨others, further⟩ := ih fun other member => each other (mem_cons_of_mem _ member)
      rw [mapM_cons, converted, further]
      exact succeeded_ok _

theorem mem_of_lookupField {α : Type} {fields : List (String × α)} {name : String} {value : α}
    (found : lookupField fields name = some value) : (name, value) ∈ fields := by
  induction fields with
  | nil => cases found
  | cons field rest ih =>
      by_cases same : field.1 = name
      · rw [lookupField, if_pos same] at found
        cases found
        rw [← same]
        exact mem_cons_self
      · rw [lookupField, if_neg same] at found
        exact mem_cons_of_mem _ (ih found)

theorem lookupField_ne_none {α : Type} {fields : List (String × α)} {name : String}
    (member : name ∈ fields.map Prod.fst) : lookupField fields name ≠ none := by
  induction fields with
  | nil => cases member
  | cons field rest ih =>
      by_cases same : field.1 = name
      · rw [lookupField, if_pos same]
        exact Option.some_ne_none _
      · rw [lookupField, if_neg same]
        rcases List.mem_cons.mp member with equal | later
        · exact absurd equal.symm same
        · exact ih later

namespace ConditionEvaluator

/-- The values of a context and of the results that JSON could have, for their keys. -/
structure Keyed (results : List (String × StepResultView))
    (allVariables : List (String × Operand)) : Prop where
  values : ∀ item, item ∈ allVariables → item.2.keyed = true
  outputs : ∀ step, step ∈ results → (Operand.dict step.2.output).keyed = true

section

variable {results : List (String × StepResultView)} {allVariables : List (String × Operand)}

theorem Keyed.ctx (held : Keyed results allVariables) :
    (Operand.dict (variablesDict allVariables)).keyed = true := by
  apply Operand.keyedEntries_iff.mpr
  intro item member
  obtain ⟨own, source, rfl⟩ := mem_map.mp member
  exact ⟨⟨own.1, rfl⟩, held.values own source⟩

theorem Keyed.stored (held : Keyed results allVariables) {kept : Operand × Operand → Bool} :
    Operand.keyedEntries ((ctxSteps allVariables).filter kept) = true := by
  apply Operand.keyedEntries_iff.mpr
  intro item member
  have inside := mem_of_mem_filter member
  unfold ctxSteps at inside
  split at inside
  · rename_i items found
    have keys := held.values _ (mem_of_lookupField found)
    exact Operand.keyedEntries_iff.mp keys item inside
  · cases inside

theorem Keyed.steps (held : Keyed results allVariables) :
    Succeeded (stepNamespaces results allVariables) := by
  have own : Succeeded (results.mapM fun step => do
      let output ← Operand.toNamespace (.dict step.2.output)
      return (step.1, Operand.object (viewFields step.2 output))) := by
    apply mapM_succeeded
    intro step member
    exact (succeeded_map _ _).mpr (Operand.toNamespace_ok _ (held.outputs step member))
  obtain ⟨views, converted⟩ := own
  have keys : Operand.keyedEntries ((ctxSteps allVariables).filter fun item =>
      item.2.isDict && !results.any fun step => item.1.eq (.str step.1)) = true := held.stored
  have others := Operand.toNamespaceFields_ok _ keys
  unfold stepNamespaces
  rw [converted]
  exact (succeeded_map _ _).mpr others

/-- The names an expression may use: of the context, of the steps and of the one function. -/
def Bound (allVariables : List (String × Operand)) (id : String) : Prop :=
  id = "ctx" ∨ id = "steps" ∨ id = "coalesce" ∨ id ∈ allVariables.map Prod.fst

theorem mapM_names {fields : List (String × Operand)} {converted : List (String × Operand)}
    (mapped : (fields.mapM fun item => do
      return (item.1, ← item.2.toNamespace) : Except Fault (List (String × Operand))) =
        .ok converted) : converted.map Prod.fst = fields.map Prod.fst := by
  induction fields generalizing converted with
  | nil =>
      cases mapped
      rfl
  | cons field rest ih =>
      rw [mapM_cons] at mapped
      obtain ⟨own, first, after⟩ := Python.bind_ok mapped
      obtain ⟨value, held, same⟩ := Python.bind_ok first
      obtain ⟨others, later, last⟩ := Python.bind_ok after
      cases same
      cases last
      rw [map_cons, map_cons, ih later]

theorem environment_bound {env : List (String × Operand)}
    (converted : environment results allVariables = .ok env) {id : String}
    (bound : Bound allVariables id) : lookupField env id ≠ none := by
  unfold environment at converted
  obtain ⟨ctx, _, afterCtx⟩ := Python.bind_ok converted
  obtain ⟨steps, _, afterSteps⟩ := Python.bind_ok afterCtx
  obtain ⟨others, named, built⟩ := Python.bind_ok afterSteps
  cases built
  apply lookupField_ne_none
  simp only [map_cons, List.mem_cons, mapM_names named]
  rcases bound with same | same | same | member
  · exact .inl same
  · exact .inr (.inl same)
  · exact .inr (.inr (.inl same))
  · obtain ⟨item, source, rfl⟩ := mem_map.mp member
    by_cases reserved : item.1 = "ctx" ∨ item.1 = "steps" ∨ item.1 = "coalesce"
    · rcases reserved with same | same | same
      · exact .inl same
      · exact .inr (.inl same)
      · exact .inr (.inr (.inl same))
    · rw [not_or, not_or] at reserved
      have kept : item ∈ allVariables.filter fun item =>
          item.1 ≠ "ctx" ∧ item.1 ≠ "steps" ∧ item.1 ≠ "coalesce" :=
        mem_filter.mpr ⟨source, decide_eq_true reserved⟩
      exact .inr (.inr (.inr (mem_map_of_mem kept)))

theorem Keyed.environment (held : Keyed results allVariables) :
    Succeeded (environment results allVariables) := by
  obtain ⟨ctx, ctxConverted⟩ := Operand.toNamespace_ok _ held.ctx
  obtain ⟨steps, stepsConverted⟩ := held.steps
  have each : Succeeded ((allVariables.filter fun item =>
      item.1 ≠ "ctx" ∧ item.1 ≠ "steps" ∧ item.1 ≠ "coalesce").mapM fun item => do
        return (item.1, ← item.2.toNamespace)) := by
    apply mapM_succeeded
    intro item member
    have keys := held.values item (mem_of_mem_filter member)
    exact (succeeded_map _ _).mpr (Operand.toNamespace_ok _ keys)
  unfold ConditionEvaluator.environment
  rw [ctxConverted, stepsConverted]
  exact (succeeded_map _ _).mpr each

end

end ConditionEvaluator

end AgenticRuntime
