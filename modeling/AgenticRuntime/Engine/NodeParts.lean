/-
The parts of an expression: induction over the nodes below, and weights that add up.
-/

import AgenticRuntime.Engine.Interpreter
import Mathlib.Algebra.Order.BigOperators.Group.List

namespace AgenticRuntime

open List

namespace AstNode

def children : AstNode → List AstNode
  | .constant _ => []
  | .name _ => []
  | .attr value _ => [value]
  | .subscript value slice => [value, slice]
  | .binOp left _ right => [left, right]
  | .unaryOp _ operand => [operand]
  | .and values => values
  | .or values => values
  | .compare left comparisons => left :: comparisons.map Prod.snd
  | .call func args => func :: args
  | .list elts => elts
  | .tuple elts => elts
  | .set elts => elts
  | .dict entries => entries.flatMap fun entry => entry.1.toList ++ [entry.2]

theorem sizeOf_child {node child : AstNode} (below : child ∈ node.children) :
    sizeOf child < sizeOf node := by
  cases node with
  | constant value => cases below
  | name id => cases below
  | attr value field =>
      rw [mem_singleton.mp below]
      simp
      omega
  | subscript value slice | binOp left op right =>
      rcases List.mem_cons.mp below with same | last
      · rw [same]
        simp
        omega
      · rw [mem_singleton.mp last]
        simp
  | unaryOp op operand =>
      rw [mem_singleton.mp below]
      simp
  | and values | or values | list values | tuple values | set values =>
      have smaller := sizeOf_lt_of_mem below
      simp only [and.sizeOf_spec, or.sizeOf_spec, list.sizeOf_spec, tuple.sizeOf_spec,
        set.sizeOf_spec]
      change sizeOf child < sizeOf values at smaller
      omega
  | compare left comparisons =>
      rcases List.mem_cons.mp below with same | later
      · rw [same]
        simp
        omega
      · obtain ⟨comparison, member, rfl⟩ := mem_map.mp later
        have smaller := sizeOf_lt_of_mem member
        obtain ⟨op, comparator⟩ := comparison
        simp only [Prod.mk.sizeOf_spec, compare.sizeOf_spec] at smaller ⊢
        omega
  | call func args =>
      rcases List.mem_cons.mp below with same | later
      · rw [same]
        simp
        omega
      · have smaller := sizeOf_lt_of_mem later
        simp only [call.sizeOf_spec]
        omega
  | dict entries =>
      obtain ⟨entry, member, part⟩ := mem_flatMap.mp below
      have smaller := sizeOf_lt_of_mem member
      obtain ⟨key, value⟩ := entry
      simp only [Prod.mk.sizeOf_spec, dict.sizeOf_spec] at smaller ⊢
      rcases mem_append.mp part with held | last
      · cases key with
        | none => cases held
        | some own =>
            rw [mem_singleton.mp held]
            simp only [Option.some.sizeOf_spec] at smaller
            omega
      · rw [mem_singleton.mp last]
        change sizeOf value < _
        omega

theorem induct {P : AstNode → Prop}
    (step : ∀ node, (∀ child, child ∈ node.children → P child) → P node) (node : AstNode) :
    P node :=
  step node fun child _ => induct step child
termination_by sizeOf node
decreasing_by exact sizeOf_child ‹_›

inductive Part : AstNode → AstNode → Prop where
  | whole (node : AstNode) : Part node node
  | inner {node child part : AstNode} (below : child ∈ node.children) (within : Part child part) :
      Part node part

theorem Part.trans {node middle part : AstNode} (first : Part node middle)
    (second : Part middle part) : Part node part := by
  induction first with
  | whole node => exact second
  | inner below within ih => exact .inner below (ih second)

section

variable (weigh : AstNode → Nat)

mutual

def total : AstNode → Nat
  | .constant value => weigh (.constant value)
  | .name id => weigh (.name id)
  | .attr value field => weigh (.attr value field) + value.total
  | .subscript value slice => weigh (.subscript value slice) + value.total + slice.total
  | .binOp left op right => weigh (.binOp left op right) + left.total + right.total
  | .unaryOp op operand => weigh (.unaryOp op operand) + operand.total
  | .and values => weigh (.and values) + totalEach values
  | .or values => weigh (.or values) + totalEach values
  | .compare left comparisons =>
      weigh (.compare left comparisons) + left.total + totalChain comparisons
  | .call func args => weigh (.call func args) + func.total + totalEach args
  | .list elts => weigh (.list elts) + totalEach elts
  | .tuple elts => weigh (.tuple elts) + totalEach elts
  | .set elts => weigh (.set elts) + totalEach elts
  | .dict entries => weigh (.dict entries) + totalEntries entries

def totalEach : List AstNode → Nat
  | [] => 0
  | node :: rest => node.total + totalEach rest

def totalChain : List (CmpOp × AstNode) → Nat
  | [] => 0
  | (_, comparator) :: rest => comparator.total + totalChain rest

def totalEntries : List (Option AstNode × AstNode) → Nat
  | [] => 0
  | (none, value) :: rest => value.total + totalEntries rest
  | (some key, value) :: rest => key.total + value.total + totalEntries rest

end

theorem totalEach_eq (nodes : List AstNode) :
    totalEach weigh nodes = (nodes.map (total weigh)).sum := by
  induction nodes with
  | nil => rfl
  | cons node rest ih => rw [totalEach, ih, map_cons, sum_cons]

theorem totalChain_eq (comparisons : List (CmpOp × AstNode)) : totalChain weigh comparisons =
    ((comparisons.map Prod.snd).map (total weigh)).sum := by
  induction comparisons with
  | nil => rfl
  | cons comparison rest ih =>
      rw [totalChain, ih, map_cons, map_cons, sum_cons]

theorem totalEntries_eq (entries : List (Option AstNode × AstNode)) :
    totalEntries weigh entries = ((entries.flatMap fun entry => entry.1.toList ++ [entry.2]).map
      (total weigh)).sum := by
  induction entries with
  | nil => rfl
  | cons entry rest ih =>
      obtain ⟨key, value⟩ := entry
      rw [flatMap_cons, map_append, sum_append, ← ih]
      cases key with
      | none | some own => simp [totalEntries]

theorem total_eq (node : AstNode) : node.total weigh =
    weigh node + (node.children.map (total weigh)).sum := by
  cases node with
  | constant value | name id => rfl
  | attr value field | unaryOp op operand => simp [total, children]
  | subscript value slice | binOp left op right => simp [total, children, Nat.add_assoc]
  | and values | or values | list values | tuple values | set values =>
      rw [total, totalEach_eq, children]
  | compare left comparisons =>
      rw [total, totalChain_eq, children, map_cons, sum_cons, Nat.add_assoc]
  | call func args =>
      rw [total, totalEach_eq, children, map_cons, sum_cons, Nat.add_assoc]
  | dict entries => rw [total, totalEntries_eq, children]

theorem total_child {node child : AstNode} (below : child ∈ node.children) :
    child.total weigh ≤ node.total weigh := by
  rw [total_eq weigh node]
  have member : child.total weigh ∈ node.children.map (total weigh) := mem_map_of_mem below
  have least := le_sum_of_mem member
  omega

theorem total_part {node part : AstNode} (within : Part node part) :
    part.total weigh ≤ node.total weigh := by
  induction within with
  | whole node => exact Nat.le_refl _
  | inner below within ih => exact ih.trans (total_child weigh below)

end

end AstNode

end AgenticRuntime
