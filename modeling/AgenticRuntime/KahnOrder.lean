/-
Ordering by in-degrees.

A node waits until the count of its dependencies comes down to zero; taking a ready
node lowers the count of each of its dependents once for each edge. Nodes may list a
dependency more than once, as long as the dependents list the edge as often.
-/

import AgenticRuntime.DependencyRule
import Mathlib.Data.List.Count
import Mathlib.Data.List.Perm.Subperm

namespace KahnOrder

open List Function

variable {Node : Type*} [DecidableEq Node]

structure State (Node : Type*) where
  inDegree : Node → Int
  ready : List Node
  order : List Node := []

def lower (state : State Node) (dependent : Node) : State Node :=
  let degree := state.inDegree dependent - 1
  { state with
    inDegree := update state.inDegree dependent degree
    ready := if degree = 0 then state.ready ++ [dependent] else state.ready }

def take (dependents : Node → List Node) (state : State Node) (current : Node)
    (rest : List Node) : State Node :=
  (dependents current).foldl lower { state with ready := rest, order := state.order ++ [current] }

/-- The loop; `none` is a loop that takes more nodes than its fuel allows. -/
def consume (dependents : Node → List Node) : Nat → State Node → Option (State Node)
  | fuel, state =>
      match state.ready with
      | [] => some state
      | current :: rest =>
          match fuel with
          | 0 => none
          | fuel + 1 => consume dependents fuel (take dependents state current rest)

structure Graph (names : List Node) (deps dependents : Node → List Node) : Prop where
  distinct : names.Nodup
  edges : ∀ dep node, (dependents dep).count node = (deps node).count dep
  inside : ∀ dep node, dep ∈ deps node → dep ∈ names ∧ node ∈ names

section

variable {names : List Node} {deps dependents : Node → List Node}

def waiting (deps : Node → List Node) (order : List Node) (node : Node) : Nat :=
  (deps node).countP fun dep => dep ∉ order

theorem waiting_eq_zero_iff {order : List Node} {node : Node} :
    waiting deps order node = 0 ↔ ∀ dep, dep ∈ deps node → dep ∈ order := by
  rw [waiting, countP_eq_zero]
  constructor
  · intro taken dep edge
    by_contra absent
    exact taken dep edge (decide_eq_true absent)
  · intro taken dep edge absent
    exact of_decide_eq_true absent (taken dep edge)

theorem waiting_concat {order : List Node} {current : Node} (fresh : current ∉ order)
    (node : Node) :
    waiting deps order node = waiting deps (order ++ [current]) node + (deps node).count current := by
  unfold waiting
  induction deps node with
  | nil => rfl
  | cons dep rest ih =>
      rw [countP_cons, countP_cons, count_cons, ih]
      by_cases same : dep = current
      · subst same
        simp [fresh]
        omega
      · by_cases taken : dep ∈ order
        · simp [taken, same]
        · simp [taken, same]
          omega

/-- The state while `left` of the edges of the last node taken are still to be lowered. -/
structure Counts (names : List Node) (deps : Node → List Node) (left : List Node)
    (state : State Node) : Prop where
  distinct : (state.order ++ state.ready).Nodup
  named : ∀ node, node ∈ state.order ++ state.ready → node ∈ names
  degree : ∀ node, state.inDegree node = (waiting deps state.order node + left.count node : Nat)
  reached : ∀ node, node ∈ names →
    (node ∈ state.order ++ state.ready ↔ state.inDegree node = 0)
  sorted : DependencyRule.DependenciesFirst deps state.order

variable {state : State Node}

theorem Counts.lower {left : List Node} {node : Node}
    (counts : Counts names deps (node :: left) state) (named : node ∈ names) :
    Counts names deps left (lower state node) := by
  have degree := counts.degree node
  rw [count_cons_self] at degree
  have notYet : node ∉ state.order ++ state.ready := by
    intro member
    have zero := (counts.reached node named).mp member
    omega
  have degrees (other : Node) : (KahnOrder.lower state node).inDegree other =
      (waiting deps state.order other + left.count other : Nat) := by
    by_cases same : other = node
    · subst same
      change update state.inDegree other _ other = _
      rw [update_self, degree]
      omega
    · change update state.inDegree node _ other = _
      rw [update_of_ne same, counts.degree other, count_cons_of_ne (Ne.symm same)]
  have kept (other : Node) (different : other ≠ node) :
      (KahnOrder.lower state node).inDegree other = state.inDegree other :=
    update_of_ne different ..
  have lowered : (KahnOrder.lower state node).inDegree node = state.inDegree node - 1 :=
    update_self ..
  by_cases zero : state.inDegree node - 1 = 0
  · have shape : (KahnOrder.lower state node).order ++ (KahnOrder.lower state node).ready =
        (state.order ++ state.ready) ++ [node] := by
      change state.order ++ (if state.inDegree node - 1 = 0 then _ else _) = _
      rw [if_pos zero, append_assoc]
    constructor
    · rw [shape, nodup_append]
      refine ⟨counts.distinct, nodup_singleton node, ?_⟩
      intro earlier member last same
      rw [mem_singleton] at same
      subst same
      intro equal
      exact notYet (equal ▸ member)
    · intro other member
      rw [shape] at member
      rcases mem_append.mp member with earlier | new
      · exact counts.named other earlier
      · rw [mem_singleton.mp new]
        exact named
    · exact degrees
    · intro other otherNamed
      rw [shape, mem_append, mem_singleton]
      by_cases same : other = node
      · subst same
        rw [lowered]
        exact iff_of_true (.inr rfl) zero
      · rw [kept other same, or_iff_left same]
        exact counts.reached other otherNamed
    · exact counts.sorted
  · have shape : (KahnOrder.lower state node).order ++ (KahnOrder.lower state node).ready =
        state.order ++ state.ready := by
      change state.order ++ (if state.inDegree node - 1 = 0 then _ else _) = _
      rw [if_neg zero]
    constructor
    · rw [shape]
      exact counts.distinct
    · rw [shape]
      exact counts.named
    · exact degrees
    · intro other otherNamed
      rw [shape]
      by_cases same : other = node
      · subst same
        rw [lowered]
        exact iff_of_false notYet zero
      · rw [kept other same]
        exact counts.reached other otherNamed
    · exact counts.sorted

theorem Counts.foldl {left : List Node} (counts : Counts names deps left state)
    (named : ∀ node, node ∈ left → node ∈ names) :
    Counts names deps [] (left.foldl KahnOrder.lower state) := by
  induction left generalizing state with
  | nil => exact counts
  | cons node rest ih =>
      apply ih (counts.lower (named node mem_cons_self))
      intro other member
      exact named other (mem_cons_of_mem _ member)

theorem Counts.take (graph : Graph names deps dependents) {current : Node} {rest : List Node}
    (counts : Counts names deps [] state) (queued : state.ready = current :: rest) :
    Counts names deps [] (take dependents state current rest) := by
  have distinct := counts.distinct
  have named := counts.named
  have reached := counts.reached
  rw [queued] at distinct named reached
  have fresh : current ∉ state.order := by
    intro taken
    exact (nodup_append.mp distinct).2.2 current taken current mem_cons_self rfl
  have degreeZero : state.inDegree current = 0 := by
    have listed : current ∈ state.order ++ current :: rest := mem_append_right _ mem_cons_self
    exact (reached current (named current listed)).mp listed
  have settled : ∀ dep, dep ∈ deps current → dep ∈ state.order := by
    apply waiting_eq_zero_iff.mp
    have degree := counts.degree current
    rw [degreeZero, count_nil] at degree
    omega
  have shape : (state.order ++ [current]) ++ rest = state.order ++ current :: rest := by
    rw [append_assoc, singleton_append]
  apply Counts.foldl
  · constructor
    · rw [shape]
      exact distinct
    · rw [shape]
      exact named
    · intro node
      rw [graph.edges, ← waiting_concat fresh, counts.degree node, count_nil]
      rfl
    · rw [shape]
      exact reached
    · exact counts.sorted.concat settled
  · intro node member
    have edge : current ∈ deps node := by
      rw [← count_pos_iff, ← graph.edges, count_pos_iff]
      exact member
    exact (graph.inside current node edge).2

theorem take_order (state : State Node) (current : Node) (rest : List Node) :
    (take dependents state current rest).order = state.order ++ [current] := by
  unfold take
  have kept (left : List Node) (other : State Node) :
      (left.foldl lower other).order = other.order := by
    induction left generalizing other with
    | nil => rfl
    | cons node rest ih => exact ih (lower other node)
  rw [kept]

theorem Counts.length_le {left : List Node} (counts : Counts names deps left state) :
    state.order.length + state.ready.length ≤ names.length := by
  rw [← length_append]
  exact (subperm_of_subset counts.distinct counts.named).length_le

theorem consume_ends (graph : Graph names deps dependents) {fuel : Nat}
    (counts : Counts names deps [] state) (enough : names.length ≤ state.order.length + fuel) :
    ∃ finish, consume dependents fuel state = some finish ∧ finish.ready = [] ∧
      Counts names deps [] finish := by
  induction fuel generalizing state with
  | zero =>
      have bound := counts.length_le
      have empty : state.ready = [] := length_eq_zero_iff.mp (by omega)
      refine ⟨state, ?_, empty, counts⟩
      unfold consume
      rw [empty]
  | succ fuel ih =>
      cases queued : state.ready with
      | nil =>
          refine ⟨state, ?_, queued, counts⟩
          unfold consume
          rw [queued]
      | cons current rest =>
          have taken := counts.take graph queued
          have longer : names.length ≤
              (KahnOrder.take dependents state current rest).order.length + fuel := by
            rw [take_order, length_append, length_singleton]
            omega
          obtain ⟨finish, consumed, empty, final⟩ := ih taken longer
          refine ⟨finish, ?_, empty, final⟩
          rw [← consumed, consume, queued]

theorem Counts.complete (graph : Graph names deps dependents)
    (acyclic : DependencyRule.Acyclic deps) (counts : Counts names deps [] state)
    (empty : state.ready = []) :
    state.order.Perm names := by
  have reached := counts.reached
  have distinct := counts.distinct
  have named := counts.named
  rw [empty, append_nil] at reached distinct named
  apply (perm_ext_iff_of_nodup distinct graph.distinct).mpr
  intro node
  constructor
  · exact named node
  · induction node using acyclic.induction with
    | _ node ih =>
        intro listed
        apply (reached node listed).mpr
        have settled : waiting deps state.order node = 0 := by
          apply waiting_eq_zero_iff.mpr
          intro dep edge
          exact ih dep edge (graph.inside dep node edge).1
        rw [counts.degree node, settled]
        rfl

def start (names : List Node) (deps : Node → List Node) : State Node :=
  { inDegree := fun node => (deps node).length
    ready := names.filter fun node => ((deps node).length : Int) = 0 }

theorem start_counts (graph : Graph names deps dependents) :
    Counts names deps [] (start names deps) := by
  have noneTaken (node : Node) : waiting deps [] node = (deps node).length := by
    rw [waiting, countP_eq_length]
    intro dep edge
    exact decide_eq_true not_mem_nil
  constructor
  · exact graph.distinct.filter _
  · intro node member
    exact (mem_filter.mp member).1
  · intro node
    change ((deps node).length : Int) = _
    rw [show (start names deps).order = [] from rfl, noneTaken, count_nil]
    rfl
  · intro node listed
    change node ∈ names.filter _ ↔ ((deps node).length : Int) = 0
    rw [mem_filter, decide_eq_true_eq]
    exact and_iff_right listed
  · intro earlier node later split
    cases earlier with
    | nil => cases split
    | cons head rest => cases split

theorem consume_sorts (graph : Graph names deps dependents)
    (acyclic : DependencyRule.Acyclic deps) :
    ∃ finish, consume dependents names.length (start names deps) = some finish ∧
      finish.order.Perm names ∧ DependencyRule.DependenciesFirst deps finish.order := by
  have counts := start_counts graph
  obtain ⟨finish, consumed, empty, final⟩ := consume_ends graph counts (Nat.le_add_left _ _)
  exact ⟨finish, consumed, final.complete graph acyclic empty, final.sorted⟩

end

end KahnOrder
