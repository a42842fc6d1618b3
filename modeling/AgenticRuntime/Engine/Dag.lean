/-
`DAG` and its validation: the dependency graph of a workflow, the adjacency
list built from it, and the iterative three-color search for cycles.

The search is fueled; `detectCycles_ne_outOfFuel` shows that the fuel is never
the reason it stops. `validate_ok_iff` is the characterization everything else
uses.
-/

import Mathlib.Algebra.Order.BigOperators.Group.List
import Mathlib.Algebra.Order.Ring.Nat
import AgenticRuntime.DependencyRule
import AgenticRuntime.Engine.Lifecycle

namespace AgenticRuntime

open List Function
open Prod (fst)

/-- `VerificationPolicy.escalation_strategy` of an enabled policy. -/
inductive EscalationStrategy where
  | block
  | report
  | ask
  deriving DecidableEq, Repr

/-- `StepDefinition`, with the fields the engine's control flow reads: whether
there is a body and a loop condition, how many hooks there are, and the timeout
as it is printed. -/
structure StepDefinition where
  name : StepName
  func : Bool := true
  timeoutSeconds : Option String := none
  maxRetries : Int := 3
  loopUntil : Bool := false
  loopMax : Int := 3
  loopMaxExpr : Option String := none
  dependsOn : List StepName := []
  preHooks : Nat := 0
  postHooks : Nat := 0
  errorHooks : Nat := 0
  verify : Option EscalationStrategy := none
  deriving DecidableEq, Repr

structure DAG where
  name : String
  steps : List StepDefinition
  distinct : (steps.map StepDefinition.name).Nodup

inductive DAGError where
  | noSteps (dag : String)
  | missingDependency (step missing : StepName)
  | cycleDetected (path : List StepName)
  | outOfFuel
  deriving DecidableEq, Repr

def DAGError.message : DAGError → String
  | .noSteps dag => s!"DAG '{dag}' has no steps. Check the YAML schema."
  | .missingDependency step missing => s!"Step '{step}' depends on missing step '{missing}'"
  | .cycleDetected path => "Cycle detected in DAG: " ++ " -> ".intercalate path
  | .outOfFuel => ""

variable (steps : List StepDefinition)

/-- `adjacency[dep]` after the double loop of `_build_adjacency_list`. -/
def adjacencyOf (dep : StepName) : List StepName :=
  steps.flatMap fun step => (step.dependsOn.filter (· = dep)).map fun _ => step.name

def dependenciesOf (name : StepName) : List StepName :=
  match steps.find? (fun step => step.name = name) with
  | none => []
  | some step => step.dependsOn

namespace DAG

variable (dag : DAG)

def stepNames : List StepName := dag.steps.map StepDefinition.name

def empty (name : String) : DAG := { name := name, steps := [], distinct := nodup_nil }

def add (step : StepDefinition) : Except String DAG :=
  if fresh : step.name ∈ dag.stepNames then
    .error s!"Step '{step.name}' already exists in DAG"
  else
    .ok
      { dag with
        steps := dag.steps ++ [step]
        distinct := by
          rw [map_append, map_singleton, nodup_append]
          refine ⟨dag.distinct, nodup_singleton _, ?_⟩
          intro earlier member added last same
          rw [mem_singleton] at last
          exact fresh (last ▸ same ▸ member) }

def buildAdjacencyList (dep : StepName) : List StepName := adjacencyOf dag.steps dep

def dependsOn (name : StepName) : List StepName := dependenciesOf dag.steps name

/-! ### Cycle detection -/

inductive Color where
  | white
  | gray
  | black
  deriving DecidableEq, Repr

/-- The stack holds a gray node and what is left of its iterator, top first. -/
structure Search where
  color : StepName → Color := fun _ => .white
  stack : List (StepName × List StepName) := []

def Search.enter (adjacency : StepName → List StepName) (search : Search) (node : StepName) :
    Search :=
  { color := update search.color node .gray
    stack := (node, adjacency node) :: search.stack }

def Search.cyclePath (stack : List (StepName × List StepName)) (neighbor : StepName) :
    List StepName :=
  (stack.map fst).reverse.dropWhile (· ≠ neighbor) ++ [neighbor]

/-- One turn of the `while stack` loop. -/
def Search.advance (adjacency : StepName → List StepName) (search : Search) :
    Except DAGError Search :=
  match search.stack with
  | [] => .ok search
  | (node, []) :: rest =>
      .ok { color := update search.color node .black, stack := rest }
  | (node, neighbor :: dependents) :: rest =>
      match search.color neighbor with
      | .gray => .error (.cycleDetected (Search.cyclePath search.stack neighbor))
      | .white =>
          .ok (Search.enter adjacency { search with stack := (node, dependents) :: rest } neighbor)
      | .black => .ok { search with stack := (node, dependents) :: rest }

def Search.explore (adjacency : StepName → List StepName) :
    Nat → Search → Except DAGError Search
  | 0, search => if search.stack = [] then .ok search else .error .outOfFuel
  | fuel + 1, search =>
      if search.stack = [] then .ok search
      else
        match search.advance adjacency with
        | .error failure => .error failure
        | .ok after => explore adjacency fuel after

def searchFuel : Nat :=
  (dag.stepNames.map fun node => 2 + (dag.buildAdjacencyList node).length).sum

def exploreRoots (dag : DAG) : List StepName → Search → Except DAGError Search
  | [], search => .ok search
  | root :: rest, search =>
      if search.color root ≠ .white then exploreRoots dag rest search
      else
        match Search.explore dag.buildAdjacencyList dag.searchFuel
            (search.enter dag.buildAdjacencyList root) with
        | .error failure => .error failure
        | .ok explored => exploreRoots dag rest explored

def detectCycles : Except DAGError Unit :=
  match exploreRoots dag dag.stepNames {} with
  | .error failure => .error failure
  | .ok _ => .ok ()

def checkMissingDependencies : Except DAGError Unit :=
  match dag.steps.findSome? fun step =>
      (step.dependsOn.find? fun dep => dep ∉ dag.stepNames).map fun dep => (step.name, dep) with
  | some (step, dep) => .error (.missingDependency step dep)
  | none => .ok ()

def validate : Except DAGError Unit := do
  if dag.steps.length = 0 then
    throw (.noSteps dag.name)
  checkMissingDependencies dag
  detectCycles dag

end DAG

/-! ### The adjacency list and the declared dependencies -/

private theorem count_dependents (step : StepDefinition) (dep name : StepName) :
    ((step.dependsOn.filter (· = dep)).map fun _ => step.name).count name =
      if step.name = name then step.dependsOn.count dep else 0 := by
  rw [map_const', count_replicate, ← countP_eq_length_filter]
  by_cases same : step.name = name
  · rw [if_pos same, beq_iff_eq.mpr same, if_pos rfl]
    exact countP_congr (by intro item _; simp)
  · simp [same]

private theorem adjacencyOf_absent (dep name : StepName)
    (absent : name ∉ steps.map StepDefinition.name) : (adjacencyOf steps dep).count name = 0 := by
  apply count_eq_zero.mpr
  intro member
  obtain ⟨step, stepMember, nameMember⟩ := mem_flatMap.mp member
  obtain ⟨_, _, same⟩ := mem_map.mp nameMember
  exact absent (mem_map.mpr ⟨step, stepMember, same⟩)

theorem adjacencyOf_count (distinct : (steps.map StepDefinition.name).Nodup) (dep name : StepName) :
    (adjacencyOf steps dep).count name = (dependenciesOf steps name).count dep := by
  induction steps with
  | nil => rfl
  | cons step rest ih =>
      rw [map_cons, nodup_cons] at distinct
      have split : adjacencyOf (step :: rest) dep =
          ((step.dependsOn.filter (· = dep)).map fun _ => step.name) ++ adjacencyOf rest dep := rfl
      rw [split, count_append, count_dependents]
      by_cases same : step.name = name
      · have later := adjacencyOf_absent rest dep name (same ▸ distinct.1)
        simp [dependenciesOf, same, later]
      · have found : dependenciesOf (step :: rest) name = dependenciesOf rest name := by
          simp [dependenciesOf, same]
        rw [if_neg same, Nat.zero_add, found]
        exact ih distinct.2

theorem dependenciesOf_absent {steps : List StepDefinition} {name : StepName}
    (absent : name ∉ steps.map StepDefinition.name) : dependenciesOf steps name = [] := by
  have missing : steps.find? (fun step => step.name = name) = none := by
    rw [List.find?_eq_none]
    intro step member same
    exact absent (mem_map.mpr ⟨step, member, of_decide_eq_true same⟩)
  simp only [dependenciesOf, missing]

namespace DAG

variable (dag : DAG)

theorem count_buildAdjacencyList (dep name : StepName) :
    (dag.buildAdjacencyList dep).count name = (dag.dependsOn name).count dep :=
  adjacencyOf_count dag.steps dag.distinct dep name

theorem mem_buildAdjacencyList {dep name : StepName} :
    name ∈ dag.buildAdjacencyList dep ↔ dep ∈ dag.dependsOn name := by
  rw [← count_pos_iff, ← count_pos_iff, count_buildAdjacencyList]

theorem mem_stepNames_of_dependsOn {dep name : StepName} (edge : dep ∈ dag.dependsOn name) :
    name ∈ dag.stepNames := by
  by_contra absent
  rw [dependsOn, dependenciesOf_absent absent] at edge
  cases edge

def Closed : Prop := ∀ name dep, dep ∈ dag.dependsOn name → dep ∈ dag.stepNames

theorem dependsOn_of_mem {step : StepDefinition} (member : step ∈ dag.steps) :
    dag.dependsOn step.name = step.dependsOn := by
  have unique : ∀ (steps : List StepDefinition), (steps.map StepDefinition.name).Nodup →
      step ∈ steps → dependenciesOf steps step.name = step.dependsOn := by
    intro steps distinct present
    induction steps with
    | nil => cases present
    | cons head rest ih =>
        rw [map_cons, nodup_cons] at distinct
        rcases List.mem_cons.mp present with same | later
        · subst same
          simp [dependenciesOf]
        · have differs : head.name ≠ step.name := by
            intro same
            exact distinct.1 (same ▸ mem_map.mpr ⟨step, later, rfl⟩)
          have skipped : dependenciesOf (head :: rest) step.name =
              dependenciesOf rest step.name := by
            simp [dependenciesOf, differs]
          rw [skipped]
          exact ih distinct.2 later
  exact unique dag.steps dag.distinct member

theorem checkMissingDependencies_ok_iff :
    dag.checkMissingDependencies = .ok () ↔ dag.Closed := by
  have reads : dag.checkMissingDependencies = .ok () ↔
      ∀ step, step ∈ dag.steps → ∀ dep, dep ∈ step.dependsOn → dep ∈ dag.stepNames := by
    unfold checkMissingDependencies
    split
    · rename_i step dep found
      obtain ⟨declared, member, names⟩ := exists_of_findSome?_eq_some found
      obtain ⟨missing, missingFound, _⟩ := Option.map_eq_some_iff.mp names
      have absent := List.find?_some missingFound
      constructor
      · intro impossible
        cases impossible
      · intro closed
        exact absurd (closed declared member missing (mem_of_find?_eq_some missingFound))
          (of_decide_eq_true absent)
    · rename_i none
      constructor
      · intro _ step member dep edge
        have nothing := List.findSome?_eq_none_iff.mp none step member
        rw [Option.map_eq_none_iff, List.find?_eq_none] at nothing
        by_contra absent
        exact nothing dep edge (decide_eq_true absent)
      · intro _
        rfl
  rw [reads]
  constructor
  · intro closed name dep edge
    obtain ⟨step, member, rfl⟩ := mem_map.mp (dag.mem_stepNames_of_dependsOn edge)
    rw [dag.dependsOn_of_mem member] at edge
    exact closed step member dep edge
  · intro closed step member dep edge
    apply closed step.name dep
    rw [dag.dependsOn_of_mem member]
    exact edge

/-! ### What one turn of the search can do -/

namespace Search

inductive Turn (adjacency : StepName → List StepName) (search : Search) :
    Except DAGError Search → Prop
  | leave (node : StepName) (rest : List (StepName × List StepName))
      (top : search.stack = (node, []) :: rest) :
      Turn adjacency search
        (.ok { color := update search.color node .black, stack := rest })
  | backEdge (node neighbor : StepName) (dependents : List StepName)
      (rest : List (StepName × List StepName))
      (top : search.stack = (node, neighbor :: dependents) :: rest)
      (gray : search.color neighbor = .gray) :
      Turn adjacency search (.error (.cycleDetected (cyclePath search.stack neighbor)))
  | descend (node neighbor : StepName) (dependents : List StepName)
      (rest : List (StepName × List StepName))
      (top : search.stack = (node, neighbor :: dependents) :: rest)
      (white : search.color neighbor = .white) :
      Turn adjacency search
        (.ok (enter adjacency { search with stack := (node, dependents) :: rest } neighbor))
  | pass (node neighbor : StepName) (dependents : List StepName)
      (rest : List (StepName × List StepName))
      (top : search.stack = (node, neighbor :: dependents) :: rest)
      (black : search.color neighbor = .black) :
      Turn adjacency search (.ok { search with stack := (node, dependents) :: rest })

theorem advance_turn (adjacency : StepName → List StepName) (search : Search)
    (busy : search.stack ≠ []) : Turn adjacency search (search.advance adjacency) := by
  unfold advance
  split
  · rename_i idle
    exact absurd idle busy
  · rename_i node rest top
    exact .leave node rest top
  · rename_i node neighbor dependents rest top
    split
    · rename_i gray
      exact .backEdge node neighbor dependents rest top gray
    · rename_i white
      exact .descend node neighbor dependents rest top white
    · rename_i black
      exact .pass node neighbor dependents rest top black

/-- `child` is the node of the frame above: the one edge of a frame that is
neither finished nor still in its iterator. -/
def Frames (adjacency : StepName → List StepName) (color : StepName → Color) :
    Option StepName → List (StepName × List StepName) → Prop
  | _, [] => True
  | child, (node, left) :: rest =>
      (∀ next, next ∈ adjacency node → next ∈ left ∨ color next = .black ∨ child = some next) ∧
        (∀ next, child = some next → next ∈ adjacency node) ∧
        (∀ next, next ∈ left → next ∈ adjacency node) ∧
        Frames adjacency color (some node) rest

/-- What holds between two turns of the search, and, with a child, while that
child is about to be entered. -/
structure Sound (adjacency : StepName → List StepName) (child : Option StepName)
    (search : Search) : Prop where
  gray : ∀ node, search.color node = .gray ↔ node ∈ search.stack.map fst
  distinct : (search.stack.map fst).Nodup
  frames : Frames adjacency search.color child search.stack
  black : ∀ node, search.color node = .black →
    Acc (fun next node => next ∈ adjacency node) node

private theorem frames_recolor (adjacency : StepName → List StepName)
    (before after : StepName → Color) (stack : List (StepName × List StepName))
    (child : Option StepName) (kept : ∀ node, before node = .black → after node = .black)
    (frames : Frames adjacency before child stack) : Frames adjacency after child stack := by
  induction stack generalizing child with
  | nil => trivial
  | cons frame rest ih =>
      obtain ⟨node, left⟩ := frame
      obtain ⟨covered, above, pending, below⟩ := frames
      refine ⟨?_, above, pending, ih (some node) below⟩
      intro next edge
      rcases covered next edge with inLeft | done | isChild
      · exact .inl inLeft
      · exact .inr (.inl (kept next done))
      · exact .inr (.inr isChild)

private theorem frames_finish (adjacency : StepName → List StepName)
    (color : StepName → Color) (node : StepName) (stack : List (StepName × List StepName))
    (done : color node = .black) (frames : Frames adjacency color (some node) stack) :
    Frames adjacency color none stack := by
  cases stack with
  | nil => trivial
  | cons frame rest =>
      obtain ⟨parent, left⟩ := frame
      obtain ⟨covered, _, pending, below⟩ := frames
      refine ⟨?_, ?_, pending, below⟩
      · intro next edge
        rcases covered next edge with inLeft | black | isChild
        · exact .inl inLeft
        · exact .inr (.inl black)
        · exact .inr (.inl (Option.some.inj isChild ▸ done))
      · intro next impossible
        cases impossible

variable {adjacency : StepName → List StepName} {search : Search} {node : StepName}
  {rest : List (StepName × List StepName)} {dependents : List StepName}

theorem Sound.enter (sound : search.Sound adjacency (some node))
    (white : search.color node = .white) : (search.enter adjacency node).Sound adjacency none := by
  have fresh : node ∉ search.stack.map fst := by
    intro member
    have gray := (sound.gray node).mpr member
    rw [white] at gray
    cases gray
  have kept : ∀ other, search.color other = .black →
      update search.color node .gray other = .black := by
    intro other black
    have distinct : other ≠ node := by
      rintro rfl
      rw [white] at black
      cases black
    rw [update_of_ne distinct]
    exact black
  refine ⟨?_, nodup_cons.mpr ⟨fresh, sound.distinct⟩, ?_, ?_⟩
  · intro other
    simp only [Search.enter, map_cons, List.mem_cons]
    by_cases same : other = node
    · subst same
      simp
    · rw [update_of_ne same, sound.gray other]
      simp [same]
  · refine ⟨fun next edge => .inl edge, ?_, fun next edge => edge,
      frames_recolor adjacency _ _ _ _ kept sound.frames⟩
    intro next impossible
    cases impossible
  · intro other black
    by_cases same : other = node
    · subst same
      simp [Search.enter] at black
    · have earlier : search.color other = .black := by
        simpa [Search.enter, same] using black
      exact sound.black other earlier

theorem Sound.leave (sound : search.Sound adjacency none)
    (top : search.stack = (node, []) :: rest) :
    Sound adjacency none { color := update search.color node .black, stack := rest } := by
  have distinct := sound.distinct
  have frames := sound.frames
  rw [top] at frames distinct
  rw [map_cons, nodup_cons] at distinct
  obtain ⟨covered, _, _, below⟩ := frames
  have kept : ∀ other, search.color other = .black →
      update search.color node .black other = .black := by
    intro other black
    by_cases same : other = node
    · subst same
      simp
    · rw [update_of_ne same]
      exact black
  refine ⟨?_, distinct.2, ?_, ?_⟩
  · intro other
    by_cases same : other = node
    · subst same
      simpa using distinct.1
    · change update search.color node .black other = .gray ↔ other ∈ rest.map fst
      rw [update_of_ne same, sound.gray other, top]
      simp [same]
  · exact frames_finish adjacency _ node rest (by simp)
      (frames_recolor adjacency _ _ rest _ kept below)
  · intro other black
    by_cases same : other = node
    · subst same
      apply Acc.intro
      intro next edge
      rcases covered next edge with inLeft | done | isChild
      · cases inLeft
      · exact sound.black next done
      · cases isChild
    · change update search.color node .black other = .black at black
      rw [update_of_ne same] at black
      exact sound.black other black

theorem Sound.descend {neighbor : StepName} (sound : search.Sound adjacency none)
    (top : search.stack = (node, neighbor :: dependents) :: rest) :
    Sound adjacency (some neighbor) { search with stack := (node, dependents) :: rest } := by
  have frames := sound.frames
  rw [top] at frames
  obtain ⟨covered, _, pending, below⟩ := frames
  refine ⟨?_, ?_, ⟨?_, ?_, ?_, below⟩, sound.black⟩
  · intro other
    rw [sound.gray other, top]
    rfl
  · have distinct := sound.distinct
    rw [top] at distinct
    exact distinct
  · intro next edge
    rcases covered next edge with inLeft | done | isChild
    · rcases List.mem_cons.mp inLeft with same | later
      · exact .inr (.inr (congrArg some same.symm))
      · exact .inl later
    · exact .inr (.inl done)
    · cases isChild
  · intro next same
    cases same
    exact pending neighbor mem_cons_self
  · intro next inLeft
    exact pending next (mem_cons_of_mem _ inLeft)

theorem Sound.pass {neighbor : StepName} (sound : search.Sound adjacency none)
    (top : search.stack = (node, neighbor :: dependents) :: rest)
    (black : search.color neighbor = .black) :
    Sound adjacency none { search with stack := (node, dependents) :: rest } := by
  obtain ⟨gray, distinct, ⟨covered, _, pending, below⟩, done⟩ := sound.descend top
  refine ⟨gray, distinct, ⟨?_, ?_, pending, below⟩, done⟩
  · intro next edge
    rcases covered next edge with inLeft | finished | same
    · exact .inl inLeft
    · exact .inr (.inl finished)
    · cases same
      exact .inr (.inl black)
  · intro next impossible
    cases impossible

theorem Sound.advance {after : Search} (sound : search.Sound adjacency none)
    (busy : search.stack ≠ []) (taken : search.advance adjacency = .ok after) :
    after.Sound adjacency none := by
  have turn := advance_turn adjacency search busy
  rw [taken] at turn
  cases turn with
  | leave node rest top => exact sound.leave top
  | descend node neighbor dependents rest top white =>
      exact (sound.descend top).enter white
  | pass node neighbor dependents rest top black => exact sound.pass top black

theorem advance_visited {after : Search} (busy : search.stack ≠ [])
    (taken : search.advance adjacency = .ok after) (visited : search.color node ≠ .white) :
    after.color node ≠ .white := by
  have turn := advance_turn adjacency search busy
  rw [taken] at turn
  cases turn with
  | leave top rest stackAt =>
      by_cases same : node = top
      · subst same
        simp
      · simpa [same] using visited
  | descend top neighbor dependents rest stackAt white =>
      have distinct : node ≠ neighbor := by
        rintro rfl
        exact visited white
      simpa [Search.enter, distinct] using visited
  | pass top neighbor dependents rest stackAt black => exact visited

/-! ### Fuel -/

variable (cost : StepName → Nat)

variable (color : StepName → Color)

def whiteCost (names : List StepName) : Nat :=
  (names.map fun node => if color node = .white then cost node else 0).sum

/-- What is left to do: a turn for every frame and every edge below it, and all
of a white node's own turns. -/
def work (adjacency : StepName → List StepName) (names : List StepName) (search : Search) : Nat :=
  (search.stack.map fun frame => 1 + frame.2.length).sum +
    whiteCost (fun node => 2 + (adjacency node).length) search.color names

private theorem whiteCost_cons (head : StepName) (rest : List StepName) :
    whiteCost cost color (head :: rest) =
      (if color head = .white then cost head else 0) + whiteCost cost color rest := rfl

private theorem whiteCost_congr (before after : StepName → Color) (names : List StepName)
    (same : ∀ node, node ∈ names → (after node = .white ↔ before node = .white)) :
    whiteCost cost after names = whiteCost cost before names := by
  apply congrArg List.sum
  apply map_congr_left
  intro node member
  simp only [same node member]

theorem whiteCost_enter (names : List StepName) (distinct : names.Nodup) (node : StepName)
    (member : node ∈ names) (white : color node = .white) :
    whiteCost cost (update color node .gray) names + cost node =
      whiteCost cost color names := by
  induction names with
  | nil => cases member
  | cons head rest ih =>
      rw [nodup_cons] at distinct
      rw [whiteCost_cons, whiteCost_cons]
      rcases List.mem_cons.mp member with same | later
      · subst same
        have untouched : whiteCost cost (update color node .gray) rest =
            whiteCost cost color rest := by
          apply whiteCost_congr
          intro other present
          have differs : other ≠ node := by
            rintro rfl
            exact distinct.1 present
          rw [update_of_ne differs]
        rw [untouched, white, if_pos rfl, update_self, if_neg (by decide)]
        omega
      · have differs : head ≠ node := by
          rintro rfl
          exact distinct.1 later
        have tail := ih distinct.2 later
        rw [update_of_ne differs]
        omega

theorem whiteCost_leave (names : List StepName) (node : StepName) (gray : color node = .gray) :
    whiteCost cost (update color node .black) names = whiteCost cost color names := by
  apply whiteCost_congr
  intro other _
  by_cases same : other = node
  · subst same
    simp [gray]
  · rw [update_of_ne same]

theorem work_advance {names : List StepName} (distinct : names.Nodup)
    (closed : ∀ node next, next ∈ adjacency node → next ∈ names) {after : Search}
    (sound : search.Sound adjacency none) (busy : search.stack ≠ [])
    (taken : search.advance adjacency = .ok after) :
    after.work adjacency names < search.work adjacency names := by
  have turn := advance_turn adjacency search busy
  rw [taken] at turn
  cases turn with
  | leave node rest top =>
      have gray : search.color node = .gray := (sound.gray node).mpr (by simp [top])
      have kept := whiteCost_leave (fun other => 2 + (adjacency other).length) search.color names
        node gray
      simp only [work, kept, top, map_cons, sum_cons, length_nil]
      omega
  | descend node neighbor dependents rest top white =>
      have frames := sound.frames
      rw [top] at frames
      have edge := frames.2.2.1 neighbor mem_cons_self
      have moved := whiteCost_enter (fun other => 2 + (adjacency other).length) search.color
        names distinct neighbor (closed node neighbor edge) white
      simp only [work, Search.enter, top, map_cons, sum_cons, length_cons]
      omega
  | pass node neighbor dependents rest top black =>
      simp only [work, top, map_cons, sum_cons, length_cons]
      omega

/-! ### Whole searches -/

private theorem frames_path {color : StepName → Color} {stack : List (StepName × List StepName)}
    {child : StepName} (frames : Frames adjacency color (some child) stack) :
    ∀ node, node ∈ stack.map fst →
      Relation.TransGen (fun node next => next ∈ adjacency node) node child := by
  induction stack generalizing child with
  | nil =>
      intro node member
      cases member
  | cons frame rest ih =>
      obtain ⟨top, left⟩ := frame
      obtain ⟨_, above, _, below⟩ := frames
      intro node member
      have edge : Relation.TransGen (fun node next => next ∈ adjacency node) top child :=
        Relation.TransGen.single (above child rfl)
      rcases List.mem_cons.mp member with same | later
      · exact same ▸ edge
      · exact (ih below node later).trans edge

theorem Sound.cycle {neighbor : StepName} (sound : search.Sound adjacency none)
    (top : search.stack = (node, neighbor :: dependents) :: rest)
    (gray : search.color neighbor = .gray) :
    Relation.TransGen (fun node next => next ∈ adjacency node) neighbor neighbor := by
  have onStack := (sound.gray neighbor).mp gray
  rw [top] at onStack
  exact frames_path (sound.descend top).frames neighbor onStack

structure Finished (adjacency : StepName → List StepName) (before after : Search) : Prop where
  sound : after.Sound adjacency none
  idle : after.stack = []
  visited : ∀ node, before.color node ≠ .white → after.color node ≠ .white

theorem explore_ok {fuel : Nat} {done : Search} (sound : search.Sound adjacency none)
    (explored : search.explore adjacency fuel = .ok done) : Finished adjacency search done := by
  induction fuel generalizing search with
  | zero =>
      simp only [explore] at explored
      split at explored
      · rename_i idle
        cases explored
        exact ⟨sound, idle, fun node visited => visited⟩
      · cases explored
  | succ fuel ih =>
      simp only [explore] at explored
      split at explored
      · rename_i idle
        cases explored
        exact ⟨sound, idle, fun node visited => visited⟩
      · rename_i busy
        split at explored
        · cases explored
        · rename_i after taken
          have finished := ih (sound.advance busy taken) explored
          exact ⟨finished.sound, finished.idle,
            fun node visited => finished.visited node (advance_visited busy taken visited)⟩

theorem explore_error {names : List StepName} (distinct : names.Nodup)
    (closed : ∀ node next, next ∈ adjacency node → next ∈ names) {fuel : Nat} {failure : DAGError}
    (sound : search.Sound adjacency none) (enough : search.work adjacency names ≤ fuel)
    (explored : search.explore adjacency fuel = .error failure) :
    (∃ path, failure = .cycleDetected path) ∧
      ∃ node, Relation.TransGen (fun node next => next ∈ adjacency node) node node := by
  induction fuel generalizing search with
  | zero =>
      simp only [explore] at explored
      split at explored
      · cases explored
      · rename_i busy
        obtain ⟨frame, rest, top⟩ := exists_cons_of_ne_nil busy
        simp only [work, top, map_cons, sum_cons] at enough
        omega
  | succ fuel ih =>
      simp only [explore] at explored
      split at explored
      · cases explored
      · rename_i busy
        split at explored
        · rename_i failed taken
          cases explored
          have turn := advance_turn adjacency search busy
          rw [taken] at turn
          cases turn with
          | backEdge node neighbor dependents rest top gray =>
              exact ⟨⟨_, rfl⟩, neighbor, sound.cycle top gray⟩
        · rename_i after taken
          have lower := work_advance distinct closed sound busy taken
          exact ih (sound.advance busy taken) (by omega) explored

end Search

structure RootsDone (roots : List StepName) (search : Search) : Prop where
  sound : search.Sound dag.buildAdjacencyList none
  idle : search.stack = []
  visited : ∀ root, root ∈ roots → search.color root ≠ .white

private theorem entered_work (root : StepName) (member : root ∈ dag.stepNames) (search : Search)
    (idle : search.stack = []) (white : search.color root = .white) :
    (search.enter dag.buildAdjacencyList root).work dag.buildAdjacencyList dag.stepNames ≤
      dag.searchFuel := by
  have entered := Search.whiteCost_enter (fun node => 2 + (dag.buildAdjacencyList node).length)
    search.color dag.stepNames dag.distinct root member white
  have bounded : Search.whiteCost (fun node => 2 + (dag.buildAdjacencyList node).length)
      search.color dag.stepNames ≤ dag.searchFuel := by
    apply sum_le_sum
    intro node _
    split
    · exact Nat.le_refl _
    · exact Nat.zero_le _
  simp only [Search.work, Search.enter, idle, map_cons, map_nil, sum_cons, sum_nil]
  omega

theorem exploreRoots_outcome {roots earlier : List StepName} {search : Search}
    (registered : ∀ root, root ∈ roots → root ∈ dag.stepNames)
    (before : dag.RootsDone earlier search) :
    match dag.exploreRoots roots search with
    | .ok done => dag.RootsDone (earlier ++ roots) done
    | .error failure => (∃ path, failure = .cycleDetected path) ∧
        ∃ node, Relation.TransGen (fun node next => next ∈ dag.buildAdjacencyList node) node node := by
  induction roots generalizing earlier search with
  | nil =>
      rw [append_nil]
      exact before
  | cons root rest ih =>
      rw [append_cons]
      have restRegistered : ∀ other, other ∈ rest → other ∈ dag.stepNames :=
        fun other member => registered other (mem_cons_of_mem root member)
      simp only [exploreRoots]
      by_cases visited : search.color root ≠ .white
      · rw [if_pos visited]
        refine ih restRegistered ⟨before.sound, before.idle, ?_⟩
        intro node member
        rcases mem_append.mp member with old | new
        · exact before.visited node old
        · exact mem_singleton.mp new ▸ visited
      · rw [if_neg visited]
        rw [not_not] at visited
        have entered : (search.enter dag.buildAdjacencyList root).Sound
            dag.buildAdjacencyList none := by
          refine Search.Sound.enter ⟨before.sound.gray, before.sound.distinct, ?_,
            before.sound.black⟩ visited
          rw [before.idle]
          trivial
        cases found : Search.explore dag.buildAdjacencyList dag.searchFuel
            (search.enter dag.buildAdjacencyList root) with
        | error failure =>
            exact Search.explore_error dag.distinct
              (fun node next edge => dag.mem_stepNames_of_dependsOn
                (dag.mem_buildAdjacencyList.mp edge)) entered
              (dag.entered_work root (registered root mem_cons_self) search before.idle
                visited) found
        | ok after =>
            have finished := Search.explore_ok entered found
            refine ih restRegistered ⟨finished.sound, finished.idle, ?_⟩
            intro node member
            apply finished.visited
            by_cases same : node = root
            · subst same
              simp [Search.enter]
            · rcases mem_append.mp member with old | new
              · simpa [Search.enter, same] using before.visited node old
              · exact absurd (mem_singleton.mp new) same

private theorem roots_outcome :
    match dag.exploreRoots dag.stepNames {} with
    | .ok done => dag.RootsDone dag.stepNames done
    | .error failure => (∃ path, failure = .cycleDetected path) ∧
        ∃ node, Relation.TransGen (fun node next => next ∈ dag.buildAdjacencyList node) node node := by
  have start : dag.RootsDone [] {} := by
    refine ⟨⟨?_, nodup_nil, trivial, ?_⟩, rfl, ?_⟩
    · intro node
      simp
    · intro node impossible
      cases impossible
    · intro root member
      cases member
  exact dag.exploreRoots_outcome (fun root member => member) start

theorem detectCycles_ok_iff : dag.detectCycles = .ok () ↔
    WellFounded (fun next node => next ∈ dag.buildAdjacencyList node) := by
  have outcome := dag.roots_outcome
  unfold detectCycles
  split at outcome
  · rename_i done explored
    simp only [explored, true_iff]
    have registered : ∀ node, node ∈ dag.stepNames →
        Acc (fun next node => next ∈ dag.buildAdjacencyList node) node := by
      intro node member
      apply outcome.sound.black
      cases color : done.color node with
      | white => exact absurd color (outcome.visited node member)
      | gray =>
          have onStack := (outcome.sound.gray node).mp color
          rw [outcome.idle] at onStack
          cases onStack
      | black => rfl
    refine ⟨fun node => Acc.intro node ?_⟩
    intro next edge
    exact registered next (dag.mem_stepNames_of_dependsOn (dag.mem_buildAdjacencyList.mp edge))
  · rename_i failure explored
    simp only [explored, reduceCtorEq, false_iff]
    intro descends
    obtain ⟨_, node, cycle⟩ := outcome
    exact descends.transGen.irrefl.irrefl node (Relation.transGen_swap.mp cycle)

theorem acyclic_iff_dependents (closed : dag.Closed) : DependencyRule.Acyclic dag.dependsOn ↔
    WellFounded (fun next node => next ∈ dag.buildAdjacencyList node) := by
  have swapped : (fun next node => next ∈ dag.buildAdjacencyList node) =
      Function.swap (fun dep node => dep ∈ dag.dependsOn node) := by
    funext next node
    exact propext dag.mem_buildAdjacencyList
  have finite : {name | name ∈ dag.stepNames}.Finite := finite_toSet dag.stepNames
  rw [swapped]
  constructor
  · intro acyclic
    apply DependencyRule.wellFounded_swap_of_finite _ finite _ acyclic
    intro dep node edge
    exact ⟨closed node dep edge, dag.mem_stepNames_of_dependsOn edge⟩
  · intro acyclic
    apply DependencyRule.wellFounded_swap_of_finite _ finite _ acyclic
    intro node dep edge
    exact ⟨dag.mem_stepNames_of_dependsOn edge, closed node dep edge⟩

theorem validate_ok_iff : dag.validate = .ok () ↔
    dag.steps ≠ [] ∧ dag.Closed ∧ DependencyRule.Acyclic dag.dependsOn := by
  have split : dag.validate = .ok () ↔ dag.steps.length ≠ 0 ∧
      dag.checkMissingDependencies = .ok () ∧ dag.detectCycles = .ok () := by
    unfold validate
    by_cases empty : dag.steps.length = 0
    · simp [empty, throw, throwThe, MonadExceptOf.throw, bind, Except.bind]
    · cases missing : dag.checkMissingDependencies with
      | error failure | ok _ => simp [empty, bind, Except.bind]
  rw [split, Ne, length_eq_zero_iff, checkMissingDependencies_ok_iff, detectCycles_ok_iff]
  constructor
  · rintro ⟨nonempty, closed, descends⟩
    exact ⟨nonempty, closed, (dag.acyclic_iff_dependents closed).mpr descends⟩
  · rintro ⟨nonempty, closed, acyclic⟩
    exact ⟨nonempty, closed, (dag.acyclic_iff_dependents closed).mp acyclic⟩

/-! ### Validation as an order -/

def dependencyPairs : List (StepName × List StepName) :=
  dag.steps.map fun step => (step.name, step.dependsOn)

theorem dependencyPairs_eq :
    dag.dependencyPairs = dag.stepNames.map fun name => (name, dag.dependsOn name) := by
  rw [dependencyPairs, stepNames, map_map]
  apply map_congr_left
  intro step member
  rw [comp_apply, dag.dependsOn_of_mem member]

theorem dependsOn_of_pair {pair : StepName × List StepName}
    (member : pair ∈ dag.dependencyPairs) : dag.dependsOn pair.1 = pair.2 := by
  obtain ⟨step, within, same⟩ := mem_map.mp member
  subst same
  exact dag.dependsOn_of_mem within

theorem validate_ok_iff_order (nonempty : dag.steps ≠ []) : dag.validate = .ok () ↔
    ∃ order, order.Perm dag.dependencyPairs ∧
      ∀ earlier step later, order = earlier ++ step :: later →
        ∀ dep ∈ step.2, dep ∈ earlier.map fst := by
  rw [validate_ok_iff]
  constructor
  · intro ⟨_, closed, acyclic⟩
    obtain ⟨order, perm, first⟩ := DependencyRule.exists_dependenciesFirst acyclic dag.stepNames
      fun name _ dep edge => closed name dep edge
    refine ⟨order.map fun name => (name, dag.dependsOn name), ?_, ?_⟩
    · rw [dependencyPairs_eq]
      exact perm.map _
    · intro earlier step later split dep edge
      obtain ⟨front, back, whole, same, tail⟩ := map_eq_append_iff.mp split
      obtain ⟨name, rest, sameBack, sameStep, _⟩ := map_eq_cons_iff.mp tail
      subst same sameBack sameStep
      rw [map_map]
      have before := first front name rest whole dep edge
      exact mem_map.mpr ⟨dep, before, rfl⟩
  · intro ⟨order, perm, ordered⟩
    have names : (order.map fst).Perm dag.stepNames := by
      have mapped := perm.map fst
      rw [dependencyPairs, map_map] at mapped
      exact mapped
    have first : DependencyRule.DependenciesFirst dag.dependsOn (order.map fst) := by
      intro earlier name later split dep edge
      obtain ⟨front, back, whole, same, tail⟩ := map_eq_append_iff.mp split
      obtain ⟨pair, rest, sameBack, sameName, _⟩ := map_eq_cons_iff.mp tail
      subst same sameBack sameName
      have declared : pair ∈ dag.dependencyPairs := by
        apply perm.subset
        rw [whole]
        exact mem_append_right _ mem_cons_self
      rw [dag.dependsOn_of_pair declared] at edge
      exact ordered front pair rest whole dep edge
    have closed : dag.Closed := by
      intro name dep edge
      have listed := names.mem_iff.mpr (dag.mem_stepNames_of_dependsOn edge)
      obtain ⟨earlier, later, split⟩ := append_of_mem listed
      apply names.subset
      rw [split]
      exact mem_append_left _ (first earlier name later split dep edge)
    have acyclic : DependencyRule.Acyclic dag.dependsOn := by
      constructor
      intro name
      by_cases listed : name ∈ order.map fst
      · exact first.acc name listed
      · apply Acc.intro
        intro dep edge
        exact absurd (names.mem_iff.mpr (dag.mem_stepNames_of_dependsOn edge)) listed
    exact ⟨nonempty, closed, acyclic⟩

end DAG

end AgenticRuntime
