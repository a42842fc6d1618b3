/-
Rules that compute a value at each node from the values at its dependencies.

On a dependency relation without infinite descent such a rule has exactly one
solution, and on a finite graph descent along dependencies and descent along
dependents exclude each other's cycles alike.
-/

import Mathlib.Data.List.Induction
import Mathlib.Order.WellFoundedSet

namespace DependencyRule

open List

variable {Node Value : Type*}

def Acyclic (deps : Node → List Node) : Prop :=
  WellFounded (fun dep node => dep ∈ deps node)

def Local (deps : Node → List Node) (rule : Node → (Node → Value) → Value) : Prop :=
  ∀ node left right, (∀ dep, dep ∈ deps node → left dep = right dep) →
    rule node left = rule node right

def Solves (rule : Node → (Node → Value) → Value) (value : Node → Value) : Prop :=
  ∀ node, value node = rule node value

section

variable {deps : Node → List Node} {rule : Node → (Node → Value) → Value}

theorem solution_unique_on (acyclic : Acyclic deps) (isLocal : Local deps rule)
    (within : Node → Prop) (closed : ∀ node, within node → ∀ dep, dep ∈ deps node → within dep)
    {left right : Node → Value} (leftSolves : ∀ node, within node → left node = rule node left)
    (rightSolves : ∀ node, within node → right node = rule node right) :
    ∀ node, within node → left node = right node := by
  intro node
  induction node using acyclic.induction with
  | _ node ih =>
      intro inside
      rw [leftSolves node inside, rightSolves node inside]
      apply isLocal
      intro dep edge
      exact ih dep edge (closed node inside dep edge)

theorem solution_unique (acyclic : Acyclic deps) (isLocal : Local deps rule)
    {left right : Node → Value} (leftSolves : Solves rule left)
    (rightSolves : Solves rule right) : left = right := by
  funext node
  exact solution_unique_on acyclic isLocal (fun _ => True) (fun _ _ _ _ => trivial)
    (fun node _ => leftSolves node) (fun node _ => rightSolves node) node trivial

theorem exists_solution [Inhabited Value] (acyclic : Acyclic deps) (isLocal : Local deps rule) :
    ∃ value, Solves rule value := by
  classical
  let extend (node : Node) (below : ∀ dep, dep ∈ deps node → Value) : Node → Value :=
    fun dep => if edge : dep ∈ deps node then below dep edge else default
  refine ⟨acyclic.fix (fun node below => rule node (extend node below)), ?_⟩
  intro node
  rw [acyclic.fix_eq]
  apply isLocal
  intro dep edge
  simp only [extend, dif_pos edge]

theorem existsUnique_solution [Inhabited Value] (acyclic : Acyclic deps)
    (isLocal : Local deps rule) : ∃! value, Solves rule value := by
  obtain ⟨value, solves⟩ := exists_solution acyclic isLocal
  exact ⟨value, solves, fun other otherSolves =>
    solution_unique acyclic isLocal otherSolves solves⟩

end

theorem wellFounded_swap_of_finite {relates : Node → Node → Prop} (support : Set Node)
    (finite : support.Finite)
    (supported : ∀ left right, relates left right → left ∈ support ∧ right ∈ support)
    (descends : WellFounded relates) : WellFounded (Function.swap relates) := by
  have irreflexive : ∀ node, ¬ Relation.TransGen (Function.swap relates) node node := by
    intro node cycle
    exact descends.transGen.irrefl.irrefl node (Relation.transGen_swap.mp cycle)
  have strict : IsStrictOrder Node (Relation.TransGen (Function.swap relates)) :=
    { irrefl := irreflexive
      trans := fun _ _ _ => Relation.TransGen.trans }
  have onSupport : support.WellFoundedOn (Relation.TransGen (Function.swap relates)) :=
    finite.wellFoundedOn
  rw [Set.wellFoundedOn_iff] at onSupport
  refine Subrelation.wf ?_ onSupport
  intro left right edge
  have ends := supported right left edge
  exact ⟨Relation.TransGen.single edge, ends.2, ends.1⟩

/-! ### Orders -/

section

variable {deps : Node → List Node}

def DependenciesFirst (deps : Node → List Node) (order : List Node) : Prop :=
  ∀ earlier node later, order = earlier ++ node :: later → ∀ dep, dep ∈ deps node → dep ∈ earlier

theorem DependenciesFirst.concat {order : List Node} {node : Node}
    (sorted : DependenciesFirst deps order) (placed : ∀ dep, dep ∈ deps node → dep ∈ order) :
    DependenciesFirst deps (order ++ [node]) := by
  intro earlier item later split
  rcases eq_nil_or_concat later with atEnd | ⟨front, last, before⟩
  · subst later
    obtain ⟨same, sameItem⟩ := append_inj' split rfl
    subst same
    cases sameItem
    exact placed
  · rw [concat_eq_append] at before
    subst later
    rw [← cons_append, ← append_assoc] at split
    exact sorted earlier item front (append_inj' split rfl).1

theorem DependenciesFirst.init {order : List Node} {node : Node}
    (sorted : DependenciesFirst deps (order ++ [node])) : DependenciesFirst deps order := by
  intro earlier item later split
  apply sorted earlier item (later ++ [node])
  rw [split, append_assoc, cons_append]

theorem DependenciesFirst.acc {order : List Node} (sorted : DependenciesFirst deps order) :
    ∀ node, node ∈ order → Acc (fun dep node => dep ∈ deps node) node := by
  induction order using List.reverseRecOn with
  | nil =>
      intro node member
      cases member
  | append_singleton order last ih =>
      have front := ih sorted.init
      intro node member
      rcases mem_append.mp member with inside | atEnd
      · exact front node inside
      · rw [mem_singleton] at atEnd
        subst atEnd
        apply Acc.intro
        intro dep edge
        exact front dep (sorted order node [] rfl dep edge)

theorem extend_dependenciesFirst [DecidableEq Node] (acyclic : Acyclic deps)
    (rest placed : List Node) (sorted : DependenciesFirst deps placed)
    (closed : ∀ node, node ∈ rest → ∀ dep, dep ∈ deps node → dep ∈ placed ∨ dep ∈ rest) :
    ∃ order, order.Perm (placed ++ rest) ∧ DependenciesFirst deps order := by
  induction total : rest.length generalizing rest placed with
  | zero =>
      have none : rest = [] := length_eq_zero_iff.mp total
      subst none
      exact ⟨placed, by rw [append_nil], sorted⟩
  | succ size ih =>
      have some : ∃ node, node ∈ rest := by
        cases rest with
        | nil => cases total
        | cons node rest => exact ⟨node, mem_cons_self⟩
      obtain ⟨next, member, least⟩ := acyclic.has_min {node | node ∈ rest} some
      have ready : ∀ dep, dep ∈ deps next → dep ∈ placed := by
        intro dep edge
        rcases closed next member dep edge with before | waiting
        · exact before
        · exact absurd edge (least dep waiting)
      have shorter : (rest.erase next).length = size := by
        rw [length_erase_of_mem member]
        omega
      have stillClosed : ∀ node, node ∈ rest.erase next → ∀ dep, dep ∈ deps node →
          dep ∈ placed ++ [next] ∨ dep ∈ rest.erase next := by
        intro node left dep edge
        rcases closed node (mem_of_mem_erase left) dep edge with before | waiting
        · exact .inl (mem_append_left _ before)
        · by_cases same : dep = next
          · subst same
            exact .inl (mem_append_right _ mem_cons_self)
          · exact .inr ((mem_erase_of_ne same).mpr waiting)
      obtain ⟨order, perm, first⟩ :=
        ih (rest.erase next) (placed ++ [next]) (sorted.concat ready) stillClosed shorter
      have whole : (placed ++ [next] ++ rest.erase next).Perm (placed ++ rest) := by
        rw [append_assoc]
        exact (perm_cons_erase member).symm.append_left placed
      exact ⟨order, perm.trans whole, first⟩

theorem exists_dependenciesFirst [DecidableEq Node] (acyclic : Acyclic deps) (nodes : List Node)
    (closed : ∀ node, node ∈ nodes → ∀ dep, dep ∈ deps node → dep ∈ nodes) :
    ∃ order, order.Perm nodes ∧ DependenciesFirst deps order := by
  apply extend_dependenciesFirst acyclic nodes []
  · intro earlier node later split
    exact absurd split.symm (append_ne_nil_of_right_ne_nil _ (cons_ne_nil _ _))
  · intro node member dep edge
    exact .inr (closed node member dep edge)

end

end DependencyRule
