/-
`DAG.get_execution_order`: the steps in an order of their dependencies.

Validation searches the dependents in depth, the order counts in-degrees; both read the
dependencies with the repetitions the source has.
-/

import AgenticRuntime.Engine.Dag
import AgenticRuntime.KahnOrder

namespace AgenticRuntime

namespace DAG

variable (dag : DAG)

def getExecutionOrder : Except DAGError (List StepName) := do
  dag.validate
  let inDegree : StepName → Int := fun name => (dag.dependsOn name).length
  let ready := dag.stepNames.filter fun name => inDegree name = 0
  match KahnOrder.consume dag.buildAdjacencyList dag.steps.length
      { inDegree := inDegree, ready := ready } with
  | none => throw .outOfFuel
  | some finish =>
      if finish.order.length ≠ dag.steps.length then throw (.cycleDetected finish.order)
      else return finish.order

theorem dependency_graph (closed : dag.Closed) :
    KahnOrder.Graph dag.stepNames dag.dependsOn dag.buildAdjacencyList where
  distinct := dag.distinct
  edges dep node := dag.count_buildAdjacencyList dep node
  inside dep node edge := ⟨closed node dep edge, dag.mem_stepNames_of_dependsOn edge⟩

/-- The order fails exactly as validation does, and is otherwise a listing of the steps with each
behind all its dependencies. -/
theorem execution_order_is_topological :
    match dag.validate with
    | .error failure => dag.getExecutionOrder = .error failure
    | .ok () => ∃ order, dag.getExecutionOrder = .ok order ∧ order.Perm dag.stepNames ∧
        DependencyRule.DependenciesFirst dag.dependsOn order := by
  unfold getExecutionOrder
  cases valid : dag.validate with
  | error failure => rfl
  | ok done =>
      obtain ⟨_, closed, acyclic⟩ := dag.validate_ok_iff.mp valid
      obtain ⟨finish, consumed, perm, sorted⟩ :=
        KahnOrder.consume_sorts (dag.dependency_graph closed) acyclic
      have sameLength : finish.order.length = dag.steps.length := by
        rw [perm.length_eq, stepNames, List.length_map]
      have fuel : dag.stepNames.length = dag.steps.length := List.length_map ..
      rw [fuel] at consumed
      refine ⟨finish.order, ?_, perm, sorted⟩
      change (match KahnOrder.consume dag.buildAdjacencyList dag.steps.length
          (KahnOrder.start dag.stepNames dag.dependsOn) with
        | none => throw DAGError.outOfFuel
        | some finish =>
            if finish.order.length ≠ dag.steps.length then
              throw (DAGError.cycleDetected finish.order)
            else return finish.order) = _
      rw [consumed]
      exact if_neg (not_not.mpr sameLength)

/-- Two edges to the same dependency, declared behind the step that needs them. -/
example : (getExecutionOrder
    { name := "d"
      steps := [{ name := "b", dependsOn := ["a", "a"] }, { name := "a" }]
      distinct := by decide }).toOption = some ["a", "b"] := by decide

end DAG

end AgenticRuntime
