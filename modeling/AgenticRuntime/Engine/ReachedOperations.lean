/-
When a condition over missing data comes to a truth value.

The operations that `evaluate` reaches are those of the calls among its references
and then those of the expression with the references filled in.
-/

import AgenticRuntime.Engine.ConditionOutcome
import AgenticRuntime.Engine.PlainPath
import AgenticRuntime.Engine.SandboxBounds

namespace AgenticRuntime

open List hiding repr

open Python (isSpace)

namespace ConditionEvaluator

section

variable (identical : Operand → Operand → Bool) (methods : Operand → String → Option Nat)
  (format : Operand → Operand → Except Fault Operand) (parse : String → Option AstNode)
  (repr : Operand → String) (results : List (String × StepResultView))
  (allVariables : List (String × Operand))

def expressionTrace (expression : String) : List Operation :=
  match parse expression, environment results allVariables with
  | some node, .ok env => node.trace identical methods format env
  | _, _ => []

def piecesTrace : List Piece → List Operation
  | [] => []
  | .text _ :: rest => piecesTrace rest
  | .reference path :: rest =>
      (if '(' ∈ path.toList then
        expressionTrace identical methods format parse results allVariables path else []) ++
      match resolveVariable identical methods format parse results allVariables path with
      | .ok _ => piecesTrace rest
      | .error _ => []

/-- What `evaluate` answers without an evaluation. -/
def isTruthWord (expression : String) : Bool :=
  expression.toList.map Char.toLower = "true".toList ∨
    expression.toList.map Char.toLower = "false".toList

def preparedTrace (condition : String) : List Operation :=
  match matchReference (strip condition).toList with
  | some (_, []) => []
  | _ => piecesTrace identical methods format parse results allVariables
      (pieces (strip condition).toList.length (strip condition).toList)

def reached (condition : String) : List Operation :=
  preparedTrace identical methods format parse results allVariables condition ++
  match prepare identical methods format parse repr results allVariables condition with
  | .ok expression =>
      if isTruthWord expression then []
      else expressionTrace identical methods format parse results allVariables expression
  | .error _ => []

/-- An expression that parses, passes `_validate_ast` and has no name but those of the context. -/
def Accepted (expression : String) : Prop :=
  ∃ node, parse expression = some node ∧ validateAst node = .ok () ∧
    ∀ id, AstNode.Part node (.name id) → Bound allVariables id

/-- The calls among the references are accepted, and so is what the condition comes down to. -/
structure Admissible (condition : String) : Prop where
  references : ∀ path,
    .reference path ∈ pieces (strip condition).toList.length (strip condition).toList →
      '(' ∈ path.toList → Accepted parse allVariables path
  body : ∀ expression,
    prepare identical methods format parse repr results allVariables condition = .ok expression →
      isTruthWord expression = false → Accepted parse allVariables expression

end

section

variable {identical : Operand → Operand → Bool} {methods : Operand → String → Option Nat}
  {format : Operand → Operand → Except Fault Operand} {parse : String → Option AstNode}
  {repr : Operand → String} {results : List (String × StepResultView)}
  {allVariables : List (String × Operand)}

theorem safeEval_accepted (keyed : Keyed results allVariables) {expression : String}
    (accepted : Accepted parse allVariables expression) :
    ∃ (node : AstNode) (env : List (String × Operand)), node.Named env ∧
      safeEval identical methods format parse results allVariables expression =
        node.eval identical methods format env ∧
      expressionTrace identical methods format parse results allVariables expression =
        node.trace identical methods format env := by
  obtain ⟨node, parsed, validated, names⟩ := accepted
  obtain ⟨env, converted⟩ := keyed.environment
  have named : node.Named env :=
    named_of_validated validated fun id within => environment_bound converted (names id within)
  refine ⟨node, env, named, ?_, ?_⟩
  · rw [safeEval, parsed]
    dsimp only
    rw [validated, converted]
    rfl
  · rw [expressionTrace, parsed, converted]

theorem safeEval_succeeded (keyed : Keyed results allVariables) {expression : String}
    (accepted : Accepted parse allVariables expression) :
    Succeeded (safeEval identical methods format parse results allVariables expression) ↔
      AllDefined format
        (expressionTrace identical methods format parse results allVariables expression) := by
  obtain ⟨node, env, named, evaluated, traced⟩ := safeEval_accepted keyed accepted
  rw [evaluated, traced]
  exact named.traced

theorem resolveVariable_succeeded (keyed : Keyed results allVariables) {path : String}
    (accepted : '(' ∈ path.toList → Accepted parse allVariables path) :
    Succeeded (resolveVariable identical methods format parse results allVariables path) ↔
      AllDefined format (if '(' ∈ path.toList then
        expressionTrace identical methods format parse results allVariables path else []) := by
  unfold resolveVariable
  by_cases called : '(' ∈ path.toList
  · rw [if_pos called, if_pos called]
    exact (succeeded_map _ _).trans (safeEval_succeeded keyed (accepted called))
  · rw [if_neg called, if_neg called]
    exact iff_of_true (succeeded_ok _) allDefined_nil

theorem substitute_succeeded (keyed : Keyed results allVariables) {items : List Piece}
    (accepted : ∀ path, .reference path ∈ items → '(' ∈ path.toList →
      Accepted parse allVariables path) :
    Succeeded (substitute identical methods format parse repr results allVariables items) ↔
      AllDefined format
        (piecesTrace identical methods format parse results allVariables items) := by
  induction items with
  | nil => exact iff_of_true (succeeded_ok []) allDefined_nil
  | cons piece rest ih =>
      have later := ih fun path member => accepted path (mem_cons_of_mem _ member)
      cases piece with
      | text c => exact (succeeded_map _ _).trans later
      | reference path =>
          rw [substitute, piecesTrace, allDefined_append,
            ← resolveVariable_succeeded keyed (accepted path mem_cons_self)]
          cases resolveVariable identical methods format parse results allVariables path with
          | error fault =>
              apply iff_of_false (not_succeeded_error fault)
              exact fun both => not_succeeded_error fault both.1
          | ok value =>
              rw [and_iff_right (succeeded_ok value)]
              exact (succeeded_map _ _).trans later

theorem prepare_succeeded (keyed : Keyed results allVariables) {condition : String}
    (admissible : Admissible identical methods format parse repr results allVariables condition) :
    Succeeded (prepare identical methods format parse repr results allVariables condition) ↔
      AllDefined format
        (preparedTrace identical methods format parse results allVariables condition) := by
  have filled := @substitute_succeeded identical methods format parse repr results allVariables
    keyed _ admissible.references
  unfold prepare preparedTrace
  dsimp only
  cases matchReference (strip condition).toList with
  | none => exact (succeeded_map _ _).trans filled
  | some found =>
      obtain ⟨path, behind⟩ := found
      cases behind with
      | nil => exact iff_of_true (succeeded_ok _) allDefined_nil
      | cons c rest => exact (succeeded_map _ _).trans filled

/-- The fallback is not reached by an accepted expression: what it raises leaves `evaluate`. -/
theorem evaluateExpression_succeeded (formatted : ∀ left right, Parsed (format left right))
    (keyed : Keyed results allVariables) {expression : String}
    (accepted : isTruthWord expression = false → Accepted parse allVariables expression) :
    Succeeded
        (evaluateExpression identical methods format parse results allVariables expression) ↔
      AllDefined format (if isTruthWord expression then [] else
        expressionTrace identical methods format parse results allVariables expression) := by
  unfold evaluateExpression
  dsimp only
  by_cases yes : expression.toList.map Char.toLower = "true".toList
  · have word : isTruthWord expression = true := decide_eq_true (.inl yes)
    rw [if_pos yes, if_pos word]
    exact iff_of_true (succeeded_ok _) allDefined_nil
  · rw [if_neg yes]
    by_cases no : expression.toList.map Char.toLower = "false".toList
    · have word : isTruthWord expression = true := decide_eq_true (.inr no)
      rw [if_pos no, if_pos word]
      exact iff_of_true (succeeded_ok _) allDefined_nil
    · have word : isTruthWord expression = false :=
        decide_eq_false fun either => either.elim yes no
      rw [if_neg no, word, if_neg Bool.false_ne_true, ← safeEval_succeeded keyed (accepted word)]
      obtain ⟨node, env, _, evaluated, _⟩ := @safeEval_accepted identical methods format parse
        results allVariables keyed expression (accepted word)
      have parsed : Parsed (node.eval identical methods format env) := node.eval_parsed formatted
      rw [evaluated]
      cases came : node.eval identical methods format env with
      | ok value => exact iff_of_true (succeeded_ok _) (succeeded_ok value)
      | error fault =>
          apply iff_of_false _ (not_succeeded_error fault)
          cases fault with
          | syntaxError => exact absurd came parsed
          | _ => exact not_succeeded_error _

theorem evaluate_succeeded (formatted : ∀ left right, Parsed (format left right))
    (keyed : Keyed results allVariables) {condition : String}
    (admissible : Admissible identical methods format parse repr results allVariables condition) :
    Succeeded (evaluate identical methods format parse repr results allVariables
        (.str condition)) ↔
      AllDefined format
        (reached identical methods format parse repr results allVariables condition) := by
  have prepared := prepare_succeeded keyed admissible
  unfold evaluate reached
  dsimp only
  rw [allDefined_append, ← prepared]
  cases came : prepare identical methods format parse repr results allVariables condition with
  | error fault =>
      apply iff_of_false (not_succeeded_error fault)
      exact fun both => not_succeeded_error fault both.1
  | ok expression =>
      rw [and_iff_right (succeeded_ok expression)]
      exact evaluateExpression_succeeded formatted keyed (admissible.body expression came)

end

/-- `steps.review.outputs.status not in ['APPROVED']` -/
def unapproved : AstNode :=
  .compare (.attr (.attr (.attr (.name "steps") "review") "outputs") "status")
    [(.notIn, .list [.constant (.str "APPROVED")])]

/-- `ctx.count > 5` -/
def countAbove : AstNode :=
  .compare (.attr (.name "ctx") "count") [(.order .gt, .constant (.int 5))]

def parseKnown (text : String) : Option AstNode :=
  if text = "steps.review.outputs.status not in ['APPROVED']" then some unapproved
  else if text = "ctx.count > 5" then some countAbove
  else none

def noRepr (_ : Operand) : String := ""

theorem keyed_nil : Keyed [] [] := by
  constructor
  · intro item member
    cases member
  · intro step member
    cases member

theorem unapproved_accepted :
    Accepted parseKnown [] "steps.review.outputs.status not in ['APPROVED']" := by
  refine ⟨unapproved, rfl, rfl, ?_⟩
  intro id within
  cases within with
  | inner below deeper =>
      rcases List.mem_cons.mp below with same | last
      · subst same
        cases deeper with
        | inner below deeper =>
            rw [mem_singleton.mp below] at deeper
            cases deeper with
            | inner below deeper =>
                rw [mem_singleton.mp below] at deeper
                cases deeper with
                | inner below deeper =>
                    rw [mem_singleton.mp below] at deeper
                    cases deeper with
                    | whole => exact .inr (.inl rfl)
                    | inner below deeper => cases below
      · rw [mem_singleton.mp last] at deeper
        cases deeper with
        | inner below deeper =>
            rw [mem_singleton.mp below] at deeper
            cases deeper with
            | inner below deeper => cases below

theorem countAbove_accepted : Accepted parseKnown [] "ctx.count > 5" := by
  refine ⟨countAbove, rfl, rfl, ?_⟩
  intro id within
  cases within with
  | inner below deeper =>
      rcases List.mem_cons.mp below with same | last
      · subst same
        cases deeper with
        | inner below deeper =>
            rw [mem_singleton.mp below] at deeper
            cases deeper with
            | whole => exact .inl rfl
            | inner below deeper => cases below
      · rw [mem_singleton.mp last] at deeper
        cases deeper with
        | inner below deeper => cases below

theorem admissible_of_enclosed {identical : Operand → Operand → Bool}
    {methods : Operand → String → Option Nat} {format : Operand → Operand → Except Fault Operand}
    {parse : String → Option AstNode} {repr : Operand → String}
    {results : List (String × StepResultView)} {allVariables : List (String × Operand)}
    {condition inside : String}
    (enclosed : condition.toList = '$' :: '\x7b' :: (inside.toList ++ ['\x7d']))
    (filled : inside ≠ "") (closed : '\x7d' ∉ inside.toList) (stripped : strip inside = inside)
    (accepted : Accepted parse allVariables inside) :
    Admissible identical methods format parse repr results allVariables condition := by
  have whole : matchReference (strip condition).toList = some (inside, []) := by
    have spelled : condition = String.ofList ('$' :: '\x7b' :: (inside.toList ++ ['\x7d'])) := by
      rw [← enclosed, String.ofList_toList]
    have nonempty : inside.toList ≠ [] := fun empty => filled (String.toList_eq_nil_iff.mp empty)
    rw [spelled, strip_enclosed, String.toList_ofList, matchReference_enclosed nonempty closed,
      String.ofList_toList]
  constructor
  · intro other member called
    cases chars : (strip condition).toList with
    | nil =>
        rw [chars] at whole
        cases whole
    | cons c rest =>
        rw [chars] at whole member
        rw [length_cons, pieces, whole] at member
        rcases List.mem_cons.mp member with same | later
        · cases same
          rw [stripped]
          exact accepted
        · cases rest with
          | nil => cases later
          | cons d more => cases later
  · intro expression prepared word
    unfold prepare at prepared
    dsimp only at prepared
    rw [whole] at prepared
    cases prepared
    rw [stripped]
    exact accepted

theorem noFormat_parsed (left right : Operand) : Parsed (noFormat left right) := nofun

theorem unreviewed_admissible : Admissible noObject noMethods noFormat parseKnown noRepr [] []
    "$\x7bsteps.review.outputs.status not in ['APPROVED']\x7d" := by
  have stripped : strip "steps.review.outputs.status not in ['APPROVED']" =
      "steps.review.outputs.status not in ['APPROVED']" :=
    strip_of_ends rfl rfl (by decide : isSpace 's' = false) (by decide : isSpace ']' = false)
  exact admissible_of_enclosed rfl (by decide) (by decide) stripped unapproved_accepted

end ConditionEvaluator

end AgenticRuntime
