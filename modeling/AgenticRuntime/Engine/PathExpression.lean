/-
The expression of a path: when it is let through, what it comes to, and which
contexts it can be evaluated in.
-/

import AgenticRuntime.Engine.PathSources

namespace AgenticRuntime

open List Python Segment

/-! ### The expression of a path -/

section

variable {identical : Operand → Operand → Bool} {methods : Operand → String → Option Nat}
  {format : Operand → Operand → Except Fault Operand} {env : List (String × Operand)}

theorem node_eval {base : AstNode} {segment : Segment} (public_ : segment.Public) :
    (segment.node base).eval identical methods format env =
      (base.eval identical methods format env >>= fun value => segment.ask methods value) := by
  cases segment with
  | field name =>
      have plain : isDunder name = false := public_
      rw [node, AstNode.eval, plain, if_neg Bool.false_ne_true]
      rfl
  | key double name => rfl
  | index negative digits =>
      cases negative with
      | true | false => rfl

theorem chain_eval {segments : List Segment} {base : AstNode}
    (public_ : ∀ segment, segment ∈ segments → segment.Public) :
    (segments.foldl node base).eval identical methods format env =
      (base.eval identical methods format env >>= fun value =>
        segments.foldlM (ask methods) value) := by
  induction segments generalizing base with
  | nil =>
      change base.eval identical methods format env = _
      cases base.eval identical methods format env with
      | ok value | error fault => rfl
  | cons segment rest ih =>
      rw [foldl_cons, ih fun other member => public_ other (mem_cons_of_mem _ member),
        node_eval (public_ segment mem_cons_self)]
      cases base.eval identical methods format env with
      | ok value | error fault => rfl

end

namespace ConditionEvaluator

/-! ### Private names -/

def Unobjected (node : AstNode) : Prop := ∀ part, AstNode.Part node part → objection part = none

theorem mem_of_walk {fuel : Nat} {queue : List AstNode} {part : AstNode}
    (member : part ∈ walk fuel queue) : ∃ node, node ∈ queue ∧ AstNode.Part node part := by
  induction fuel generalizing queue with
  | zero => cases member
  | succ fuel ih =>
      cases queue with
      | nil => cases member
      | cons first rest =>
          rcases List.mem_cons.mp member with same | later
          · rw [same]
            exact ⟨first, mem_cons_self, .whole first⟩
          · obtain ⟨node, queued, within⟩ := ih later
            rcases mem_append.mp queued with waiting | below
            · exact ⟨node, mem_cons_of_mem _ waiting, within⟩
            · have child := (fieldOrder_perm first).mem_iff.mp below
              exact ⟨first, mem_cons_self, .inner child within⟩

theorem validateAst_iff {node : AstNode} : validateAst node = .ok () ↔ Unobjected node := by
  constructor
  · intro validated part within
    exact objection_of_validated validated within
  · intro clean
    have nothing : (walk (node.total fun _ => 1) [node]).findSome? objection = none := by
      apply List.findSome?_eq_none_iff.mpr
      intro part member
      obtain ⟨own, listed, within⟩ := mem_of_walk member
      rw [mem_singleton.mp listed] at within
      exact clean part within
    rw [validateAst, nothing]

theorem unobjected_iff {node : AstNode} : Unobjected node ↔
    objection node = none ∧ ∀ child, child ∈ node.children → Unobjected child := by
  constructor
  · intro clean
    refine ⟨clean node (.whole node), ?_⟩
    intro child below part within
    exact clean part (.inner below within)
  · intro both part within
    cases within with
    | whole => exact both.1
    | inner below deeper => exact both.2 _ below part deeper

theorem unobjected_constant (value : Operand) : Unobjected (.constant value) := by
  apply unobjected_iff.mpr
  refine ⟨rfl, ?_⟩
  intro child below
  cases below

theorem objection_private {hidden : Bool} {fault : Fault} :
    (if hidden = true then some fault else none) = none ↔ hidden = false := by
  cases hidden with
  | true | false => simp

theorem unobjected_node {base : AstNode} {segment : Segment} :
    Unobjected (segment.node base) ↔ Unobjected base ∧ segment.Public := by
  rw [unobjected_iff]
  cases segment with
  | field name =>
      have own : objection (.attr base name) = none ↔ isDunder name = false := objection_private
      rw [node, own, AstNode.children, forall_mem_singleton, and_comm]
      rfl
  | key double name =>
      rw [node, AstNode.children, forall_mem_cons, forall_mem_singleton]
      exact ⟨fun both => ⟨both.2.1, trivial⟩, fun both => ⟨rfl, both.1, unobjected_constant _⟩⟩
  | index negative digits =>
      cases negative with
      | false =>
          rw [node, AstNode.children, forall_mem_cons, forall_mem_singleton]
          exact ⟨fun both => ⟨both.2.1, trivial⟩, fun both => ⟨rfl, both.1, unobjected_constant _⟩⟩
      | true =>
          have signed : Unobjected (.unaryOp .negative
              (.constant (.int (magnitude digits)))) := by
            apply unobjected_iff.mpr
            refine ⟨rfl, ?_⟩
            intro child below
            rw [mem_singleton.mp below]
            exact unobjected_constant _
          rw [node, AstNode.children, forall_mem_cons, forall_mem_singleton]
          exact ⟨fun both => ⟨both.2.1, trivial⟩, fun both => ⟨rfl, both.1, signed⟩⟩

theorem unobjected_chain {segments : List Segment} {base : AstNode} :
    Unobjected (segments.foldl node base) ↔
      Unobjected base ∧ ∀ segment, segment ∈ segments → segment.Public := by
  induction segments generalizing base with
  | nil =>
      apply (and_iff_left _).symm
      intro segment member
      cases member
  | cons segment rest ih =>
      rw [foldl_cons, ih, unobjected_node, forall_mem_cons, and_assoc]

theorem unobjected_name {name : String} : Unobjected (.name name) ↔ isDunder name = false := by
  have own : objection (.name name) = none ↔ isDunder name = false := objection_private
  rw [unobjected_iff, own]
  apply and_iff_left
  intro child below
  cases below

/-- A path passes `_validate_ast` unless one of its names is private. -/
theorem validateAst_path {path : PlainPath} : validateAst path.chain = .ok () ↔
    isDunder path.root = false ∧ ∀ segment, segment ∈ path.segments → segment.Public := by
  rw [validateAst_iff, PlainPath.chain, unobjected_chain, unobjected_name]

/-! ### Which contexts have an environment -/

end ConditionEvaluator

namespace Operand

mutual

theorem keyed_of_toNamespace (value : Operand) (converted : Succeeded value.toNamespace) :
    value.keyed = true := by
  obtain ⟨copy, copied⟩ := converted
  cases value with
  | dict items =>
      rw [toNamespace] at copied
      obtain ⟨fields, inner, built⟩ := bind_ok copied
      exact keyed_of_toNamespaceFields items ⟨fields, inner⟩
  | list items =>
      rw [toNamespace] at copied
      obtain ⟨others, inner, built⟩ := bind_ok copied
      exact keyed_of_toNamespaceItems items ⟨others, inner⟩
  | _ => rfl

theorem keyed_of_toNamespaceItems (items : List Operand)
    (converted : Succeeded (toNamespaceItems items)) : keyedItems items = true := by
  obtain ⟨copies, copied⟩ := converted
  cases items with
  | nil => rfl
  | cons item rest =>
      rw [toNamespaceItems] at copied
      obtain ⟨first, own, after⟩ := bind_ok copied
      obtain ⟨others, later, built⟩ := bind_ok after
      exact (Bool.and_eq_true _ _).mpr
        ⟨keyed_of_toNamespace item ⟨first, own⟩, keyed_of_toNamespaceItems rest ⟨others, later⟩⟩

theorem keyed_of_toNamespaceFields (items : List (Operand × Operand))
    (converted : Succeeded (toNamespaceFields items)) : keyedEntries items = true := by
  obtain ⟨copies, copied⟩ := converted
  cases items with
  | nil => rfl
  | cons item rest =>
      obtain ⟨key, value⟩ := item
      rw [toNamespaceFields] at copied
      obtain ⟨first, own, after⟩ := bind_ok copied
      obtain ⟨others, later, built⟩ := bind_ok after
      cases key with
      | str name =>
          exact (Bool.and_eq_true _ _).mpr
            ⟨keyed_of_toNamespace value ⟨first, own⟩,
              keyed_of_toNamespaceFields rest ⟨others, later⟩⟩
      | _ => cases built

end

mutual

theorem toNamespace_parsed (value : Operand) : Parsed value.toNamespace := by
  cases value with
  | dict items =>
      rw [toNamespace]
      exact parsed_map (toNamespaceFields_parsed items) _
  | list items =>
      rw [toNamespace]
      exact parsed_map (toNamespaceItems_parsed items) _
  | _ => exact parsed_ok _

theorem toNamespaceItems_parsed (items : List Operand) : Parsed (toNamespaceItems items) := by
  cases items with
  | nil => exact parsed_ok []
  | cons item rest =>
      rw [toNamespaceItems]
      apply parsed_bind (toNamespace_parsed item)
      intro first
      exact parsed_map (toNamespaceItems_parsed rest) _

theorem toNamespaceFields_parsed (items : List (Operand × Operand)) :
    Parsed (toNamespaceFields items) := by
  cases items with
  | nil => exact parsed_ok []
  | cons item rest =>
      obtain ⟨key, value⟩ := item
      rw [toNamespaceFields]
      apply parsed_bind (toNamespace_parsed value)
      intro held
      apply parsed_bind (toNamespaceFields_parsed rest)
      intro others
      cases key with
      | str name => exact parsed_ok _
      | _ => nofun

end

end Operand

theorem mapM_parsed {α β : Type} {convert : α → Except Fault β}
    (each : ∀ item, Parsed (convert item)) (items : List α) : Parsed (items.mapM convert) := by
  induction items with
  | nil => exact parsed_ok []
  | cons item rest ih =>
      rw [mapM_cons]
      apply parsed_bind (each item)
      intro first
      exact parsed_map ih _

theorem succeeded_of_mapM {α β : Type} {convert : α → Except Fault β} {items : List α}
    (mapped : Succeeded (items.mapM convert)) :
    ∀ item, item ∈ items → Succeeded (convert item) := by
  induction items with
  | nil =>
      intro item member
      cases member
  | cons first rest ih =>
      obtain ⟨all, converted⟩ := mapped
      rw [mapM_cons] at converted
      obtain ⟨value, own, after⟩ := bind_ok converted
      obtain ⟨others, later, built⟩ := bind_ok after
      exact forall_mem_cons.mpr ⟨⟨value, own⟩, ih ⟨others, later⟩⟩

namespace ConditionEvaluator

section

variable {results : List (String × StepResultView)} {allVariables : List (String × Operand)}

theorem environment_keyed (converted : Succeeded (environment results allVariables)) :
    Keyed results allVariables := by
  obtain ⟨env, built⟩ := converted
  unfold environment at built
  obtain ⟨ctx, ctxConverted, afterCtx⟩ := bind_ok built
  obtain ⟨steps, stepsConverted, afterSteps⟩ := bind_ok afterCtx
  constructor
  · intro item member
    have all := Operand.keyed_of_toNamespace _ ⟨ctx, ctxConverted⟩
    have listed : (Operand.str item.1, item.2) ∈ variablesDict allVariables :=
      mem_map_of_mem (f := fun item : String × Operand => (Operand.str item.1, item.2)) member
    exact (Operand.keyedEntries_iff.mp all _ listed).2
  · intro step member
    unfold stepNamespaces at stepsConverted
    obtain ⟨views, own, afterOwn⟩ := bind_ok stepsConverted
    have each := succeeded_of_mapM ⟨views, own⟩ step member
    exact Operand.keyed_of_toNamespace _ ((succeeded_map _ _).mp each)

theorem environment_parsed : Parsed (environment results allVariables) := by
  unfold environment
  apply parsed_bind (Operand.toNamespace_parsed _)
  intro ctx
  apply parsed_bind
  · unfold stepNamespaces
    apply parsed_bind
    · apply mapM_parsed
      intro step
      exact parsed_map (Operand.toNamespace_parsed _) _
    · intro own
      exact parsed_map (Operand.toNamespaceFields_parsed _) _
  · intro steps
    apply parsed_map
    apply mapM_parsed
    intro item
    exact parsed_map (Operand.toNamespace_parsed _) _

theorem validateAst_parsed (node : AstNode) : Parsed (validateAst node) := by
  unfold validateAst
  split
  · rename_i fault found
    obtain ⟨part, _, objected⟩ := exists_of_findSome?_eq_some found
    intro same
    injection same with equal
    subst equal
    cases part with
    | name id | attr value field =>
        rw [objection] at objected
        split at objected
        · cases objected
        · cases objected
    | _ => cases objected
  · exact parsed_ok ()

end

end ConditionEvaluator

end AgenticRuntime
