/-
The condition evaluator of the LangGraph adapter, and that it agrees with the
native one.

Both adapters replace the references of a combined condition by what they
resolve to and evaluate the literal expression that is left, so they agree where
they resolve alike.  On a condition that is one reference the native evaluator
looks at the wrapped data, and a wrapped dict is true even when it is empty.
-/

import AgenticRuntime.Engine.Expressions

namespace AgenticRuntime

open List ExpressionEvaluator Option Data

namespace Langchain

def resolvePath : Data → List String → Data
  | value, [] => value
  | .dict fields, part :: rest =>
      match lookupField fields part with
      | none => .null
      | some .null => .null
      | some value => resolvePath value rest
  | _, _ :: _ => .null

/-- The first argument that does not resolve to `None`. -/
def firstResolved (state : List (String × Data)) : List (List String) → Data
  | [] => .null
  | path :: rest =>
      match resolvePath (.dict state) path with
      | .null => firstResolved state rest
      | value => value

def resolveCoalesceOrPath (state : List (String × Data)) : Reference → Data
  | .path segments => resolvePath (.dict state) segments
  | .coalesce paths => firstResolved state paths

/-- `evaluate_condition`; every error is raised again as a `ConditionEvaluationError`. -/
def evaluateCondition (identical : Value → Value → Bool) (state : List (String × Data)) :
    Condition → Except EvalError Bool
  | .reference reference => do
      return (← evalNode identical (reprExpr (resolveCoalesceOrPath state reference))).truthy
  | .combined expr => do
      let literal ← expr.substitute fun reference => .ok (resolveCoalesceOrPath state reference)
      return (← evalNode identical literal).truthy

end Langchain

/-! ### What a path names -/

def Data.present : Data → List String → Option Data
  | value, [] => some value
  | .dict fields, name :: rest => (lookupField fields name).bind fun value => value.present rest
  | _, _ :: _ => none

/-- A path rooted at `inputs`, or at the entry of a step, that is there. -/
inductive NamesData (state : List (String × Data)) : List String → Data → Prop where
  | input {rest : List String} {data : Data}
      (found : (dict state).present ("inputs" :: rest) = some data) :
      NamesData state ("inputs" :: rest) data
  | step {steps view : List (String × Data)} {name : String} {rest : List String} {data : Data}
      (namespaced : lookupField state "steps" = some (.dict steps))
      (entry : lookupField steps name = some (.dict view))
      (found : (dict view).present rest = some data) :
      NamesData state ("steps" :: name :: rest) data

variable {state : List (String × Data)} {segments : List String} {paths : List (List String)}

theorem present_of_namesData {data : Data} (named : NamesData state segments data) :
    (dict state).present segments = some data := by
  cases named with
  | input found => exact found
  | step namespaced entry found =>
      simp only [present, namespaced, entry, bind_some]
      exact found

theorem langchain_resolvePath {value data : Data} (found : value.present segments = some data) :
    Langchain.resolvePath value segments = data := by
  induction segments generalizing value with
  | nil =>
      simp only [present, some.injEq] at found
      simp only [Langchain.resolvePath, found]
  | cons name rest ih =>
      cases value with
      | dict fields =>
          simp only [present] at found
          obtain ⟨inner, here, later⟩ := bind_eq_some_iff.mp found
          simp only [Langchain.resolvePath, here]
          cases inner with
          | null =>
              cases rest with
              | nil => exact some.inj later
              | cons next more => cases later
          | _ => exact ih later
      | _ => cases found

/-! ### Paths in the native evaluator -/

namespace ExpressionEvaluator

theorem navigate_present {value data : Data} {segments : List String}
    (found : value.present segments = some data) : navigate value segments = data := by
  induction segments generalizing value with
  | nil =>
      simp only [present, some.injEq] at found
      simp only [navigate, found]
  | cons name rest ih =>
      cases value with
      | dict fields =>
          simp only [present] at found
          obtain ⟨inner, here, later⟩ := bind_eq_some_iff.mp found
          simp only [navigate, here, getD_some]
          exact ih later
      | _ => cases found

theorem lookupField_append {α : Type} {fields more : List (String × α)} {key : String} {value : α}
    (found : lookupField fields key = some value) :
    lookupField (fields ++ more) key = some value := by
  induction fields with
  | nil => cases found
  | cons field rest ih =>
      obtain ⟨name, held⟩ := field
      simp only [cons_append, lookupField] at found ⊢
      split
      · rename_i same
        rw [if_pos same] at found
        exact found
      · rename_i differs
        rw [if_neg differs] at found
        exact ih found

def Completed (state : List (String × Data)) (segments : List String) : Prop :=
  ∃ steps view name, segments = ["steps", name] ∧
    lookupField state "steps" = some (.dict steps) ∧ lookupField steps name = some (.dict view) ∧
    (lookupField view "outputs").isSome ∧ lookupField view "output" = none

theorem navigate_getStepView {state steps view : List (String × Data)} {name : String}
    {rest : List String} {data : Data} (namespaced : lookupField state "steps" = some (.dict steps))
    (entry : lookupField steps name = some (.dict view))
    (found : (dict view).present rest = some data)
    (whole : ¬ Completed state ("steps" :: name :: rest)) :
    navigate (getStepView state name) rest = data := by
  unfold getStepView
  simp only [namespaced, entry]
  split
  · rename_i outputs hasOutputs lacksOutput
    cases rest with
    | nil =>
        exfalso
        apply whole
        exact ⟨steps, view, name, rfl, namespaced, entry, by rw [hasOutputs]; rfl, lacksOutput⟩
    | cons key more =>
        simp only [present] at found
        obtain ⟨inner, here, later⟩ := bind_eq_some_iff.mp found
        simp only [navigate, lookupField_append here, getD_some]
        exact navigate_present later
  · exact navigate_present found

theorem resolvePath_named {state : List (String × Data)} {segments : List String} {data : Data}
    (named : NamesData state segments data) (whole : ¬ Completed state segments) :
    resolvePath state segments = data := by
  cases named with
  | input found =>
      have root : ∀ {other : String} {more rest : List String},
          "inputs" :: rest = other :: more → other = "inputs" := by
        intro other more rest same
        exact (List.cons.inj same).1.symm
      unfold resolvePath
      split
      · rename_i impossible
        cases impossible
      · rename_i same
        exact absurd (root same) (by decide)
      · rename_i same
        exact absurd (root same) (by decide)
      · rename_i same
        exact absurd (root same) (by decide)
      · exact navigate_present found
  | step namespaced entry found => exact navigate_getStepView namespaced entry found whole

/-! ### Wrapped data -/

mutual

theorem fromNamespace_toNamespace (data : Data) : fromNamespace (toNamespace data) = data := by
  cases data with
  | list items => simp only [toNamespace, fromNamespace, fromNamespaces_toNamespaces items]
  | dict fields => simp only [toNamespace, fromNamespace, fromNamespaceFields_toNamespaceFields fields]
  | _ => rfl

theorem fromNamespaces_toNamespaces (items : List Data) :
    fromNamespaces (toNamespaces items) = items := by
  cases items with
  | nil => rfl
  | cons item rest =>
      simp only [toNamespaces, fromNamespaces, fromNamespace_toNamespace item,
        fromNamespaces_toNamespaces rest]

theorem fromNamespaceFields_toNamespaceFields (fields : List (String × Data)) :
    fromNamespaceFields (toNamespaceFields fields) = fields := by
  match fields with
  | [] => rfl
  | (name, value) :: rest =>
      simp only [toNamespaceFields, fromNamespaceFields, fromNamespace_toNamespace value,
        fromNamespaceFields_toNamespaceFields rest]

end

theorem lookupField_toNamespaceFields (fields : List (String × Data)) (name : String) :
    lookupField (toNamespaceFields fields) name = (lookupField fields name).map toNamespace := by
  induction fields with
  | nil => rfl
  | cons field rest ih =>
      obtain ⟨key, value⟩ := field
      simp only [toNamespaceFields, lookupField]
      split
      · rfl
      · exact ih

theorem foldl_getattr_present {value data : Data} (found : value.present segments = some data) :
    segments.foldl getattr (toNamespace value) = toNamespace data := by
  induction segments generalizing value with
  | nil =>
      simp only [present, some.injEq] at found
      rw [found, foldl_nil]
  | cons name rest ih =>
      cases value with
      | dict fields =>
          simp only [present] at found
          obtain ⟨inner, here, later⟩ := bind_eq_some_iff.mp found
          simp only [foldl_cons, toNamespace, getattr, lookupField_toNamespaceFields, here,
            map_some, getD_some]
          exact ih later
      | _ => cases found

theorem lookupField_stepViews {steps view : List (String × Data)} {name : String}
    (namespaced : lookupField state "steps" = some (.dict steps))
    (entry : lookupField steps name = some (.dict view)) :
    lookupField (stepViews state) name = some (.dict view) := by
  simp only [stepViews, namespaced]
  clear namespaced
  induction steps with
  | nil => cases entry
  | cons step rest ih =>
      obtain ⟨key, value⟩ := step
      simp only [lookupField] at entry
      by_cases same : key = name
      · rw [if_pos same] at entry
        cases entry
        simp only [filter_cons, isMapping, if_true, lookupField, if_pos same]
      · rw [if_neg same] at entry
        by_cases mapping : value.isMapping
        · simp only [filter_cons, mapping, if_true, lookupField, if_neg same]
          exact ih entry
        · simp only [filter_cons, mapping]
          exact ih entry

theorem evalPath_named {data : Data} (named : NamesData state segments data) :
    evalPath state segments = .ok (toNamespace data) := by
  cases named with
  | input found =>
      simp only [present] at found
      obtain ⟨inner, here, later⟩ := bind_eq_some_iff.mp found
      have rooted : environment state "inputs" = some (toNamespace inner) := by
        simp [environment, here]
      simp only [evalPath, rooted, foldl_getattr_present later]
  | step namespaced entry found =>
      have rooted : environment state "steps" = some (toNamespace (.dict (stepViews state))) := by
        simp [environment]
      have below := foldl_getattr_present found
      simp only [evalPath, rooted, foldl_cons, toNamespace, getattr, lookupField_toNamespaceFields,
        lookupField_stepViews namespaced entry, map_some,
        getD_some]
      simp only [toNamespace] at below
      rw [below]

theorem coalesce_named (named : ∀ path ∈ paths, ∃ data, NamesData state path data) :
    ∃ values, evalPaths state paths = .ok values ∧
      coalesceWrapped values = toNamespace (Langchain.firstResolved state paths) := by
  induction paths with
  | nil => exact ⟨[], rfl, rfl⟩
  | cons path rest ih =>
      obtain ⟨data, here⟩ := named path mem_cons_self
      obtain ⟨values, evaluated, chosen⟩ :=
        ih fun other member => named other (mem_cons_of_mem _ member)
      refine ⟨toNamespace data :: values, ?_, ?_⟩
      · simp only [evalPaths, evalPath_named here, evaluated, bind, Except.bind, pure, Except.pure]
      · simp only [Langchain.firstResolved, langchain_resolvePath (present_of_namesData here)]
        cases data with
        | null => exact chosen
        | _ => rfl

/-! ### Names that are refused -/

theorem mem_walkNames {name : String} {root : Bool} (walked : (name, root) ∈ walkNames paths) :
    ∃ path ∈ paths, name ∈ path := by
  obtain ⟨level, _, member⟩ := mem_flatMap.mp walked
  obtain ⟨path, there, visited⟩ := mem_filterMap.mp member
  obtain ⟨visitedName, found, same⟩ := map_eq_some_iff.mp visited
  cases same
  exact ⟨path, there, mem_reverse.mp (mem_of_getElem? found)⟩

theorem validateAst_ok (plain : ∀ path ∈ paths, ∀ name ∈ path, isDunder name = false) :
    validateAst paths = .ok () := by
  have nothing : (walkNames paths).find? (fun name => isDunder name.1) = none := by
    apply List.find?_eq_none.mpr
    intro visited member dunder
    obtain ⟨path, there, inside⟩ := mem_walkNames member
    rw [plain path there visited.1 inside] at dunder
    cases dunder
  simp only [validateAst, nothing]

end ExpressionEvaluator

/-! ### Literals -/

section

variable (identical : Value → Value → Bool)

mutual

/-- The `repr` of a JSON value evaluates, to a value as true as it. -/
theorem evalNode_reprExpr (data : Data) :
    ∃ value, evalNode identical (reprExpr data) = .ok value ∧ value.truthy = data.truthy := by
  match data with
  | .null => exact ⟨_, rfl, rfl⟩
  | .bool value => exact ⟨_, rfl, rfl⟩
  | .str text => exact ⟨_, rfl, rfl⟩
  | .int value =>
      by_cases negative : value < 0
      · refine ⟨.int (-value.natAbs), ?_, ?_⟩
        · simp only [reprExpr, if_pos negative]
          rfl
        · simp only [Value.truthy, truthy, decide_eq_decide]
          omega
      · refine ⟨.int value.natAbs, ?_, ?_⟩
        · simp only [reprExpr, if_neg negative, evalNode]
        · simp only [Value.truthy, truthy, decide_eq_decide]
          omega
  | .float value =>
      by_cases negative : value < 0
      · refine ⟨.float (- -value), ?_, ?_⟩
        · simp only [reprExpr, if_pos negative]
          rfl
        · simp only [Value.truthy, truthy, neg_neg]
      · refine ⟨.float value, ?_, rfl⟩
        simp only [reprExpr, if_neg negative, evalNode]
  | .list items =>
      obtain ⟨values, evaluated, same⟩ := evalElements_reprItems items
      refine ⟨.list values, ?_, ?_⟩
      · simp only [reprExpr, evalNode, evaluated, bind, Except.bind, pure, Except.pure]
      · simp only [Value.truthy, truthy, same]
  | .dict fields =>
      obtain ⟨items, evaluated, same⟩ := evalEntries_reprFields [] fields
      refine ⟨.dict items, ?_, ?_⟩
      · simp only [reprExpr, evalNode, evaluated, bind, Except.bind, pure, Except.pure]
      · cases fields with
        | nil =>
            cases evaluated
            rfl
        | cons field rest =>
            cases items with
            | nil => exact absurd rfl (same (.inr (cons_ne_nil _ _)))
            | cons item more => rfl

theorem evalElements_reprItems (items : List Data) :
    ∃ values, evalElements identical (reprItems items) = .ok values ∧
      values.isEmpty = items.isEmpty := by
  match items with
  | [] => exact ⟨[], rfl, rfl⟩
  | item :: rest =>
      obtain ⟨value, here, _⟩ := evalNode_reprExpr item
      obtain ⟨values, later, _⟩ := evalElements_reprItems rest
      refine ⟨value :: values, ?_, rfl⟩
      simp only [reprItems, evalElements, here, later, bind, Except.bind, pure, Except.pure]

theorem evalEntries_reprFields (items : List (Value × Value)) (fields : List (String × Data)) :
    ∃ read, evalEntries identical items (reprFields fields) = .ok read ∧
      (items ≠ [] ∨ fields ≠ [] → read ≠ []) := by
  match fields with
  | [] =>
      refine ⟨items, rfl, ?_⟩
      intro nonempty
      rcases nonempty with left | right
      · exact left
      · exact absurd rfl right
  | (name, data) :: rest =>
      obtain ⟨value, here, _⟩ := evalNode_reprExpr data
      obtain ⟨read, later, grown⟩ := evalEntries_reprFields (insertEntry items (.str name) value) rest
      refine ⟨read, ?_, ?_⟩
      · simp only [reprFields, evalEntries, evalNode, here, bind, Except.bind, Value.hashable,
          if_true, later]
      · intro _
        apply grown
        left
        unfold insertEntry
        split
        · exact cons_ne_nil _ _
        · split
          · exact cons_ne_nil _ _
          · exact cons_ne_nil _ _

end

end

/-! ### Agreement -/

section

variable {Leaf Other : Type}

inductive Expr.Over (allowed : Leaf → Prop) : Expr Leaf → Prop where
  | leaf {leaf : Leaf} (here : allowed leaf) : Over allowed (.leaf leaf)
  | none : Over allowed .none
  | bool (value : Bool) : Over allowed (.bool value)
  | int (value : Nat) : Over allowed (.int value)
  | float (value : ℚ) : Over allowed (.float value)
  | str (text : String) : Over allowed (.str text)
  | neg {operand : Expr Leaf} (inside : Over allowed operand) : Over allowed (.neg operand)
  | not {operand : Expr Leaf} (inside : Over allowed operand) : Over allowed (.not operand)
  | and {operands : List (Expr Leaf)} (each : ∀ operand ∈ operands, Over allowed operand) :
      Over allowed (.and operands)
  | or {operands : List (Expr Leaf)} (each : ∀ operand ∈ operands, Over allowed operand) :
      Over allowed (.or operands)
  | compare {left : Expr Leaf} {comparisons : List (CmpOp × Expr Leaf)}
      (first : Over allowed left) (each : ∀ comparison ∈ comparisons, Over allowed comparison.2) :
      Over allowed (.compare left comparisons)
  | list {elements : List (Expr Leaf)} (each : ∀ element ∈ elements, Over allowed element) :
      Over allowed (.list elements)
  | tuple {elements : List (Expr Leaf)} (each : ∀ element ∈ elements, Over allowed element) :
      Over allowed (.tuple elements)
  | set {elements : List (Expr Leaf)} (each : ∀ element ∈ elements, Over allowed element) :
      Over allowed (.set elements)
  | dict {entries : List (Expr Leaf × Expr Leaf)}
      (keys : ∀ entry ∈ entries, Over allowed entry.1)
      (values : ∀ entry ∈ entries, Over allowed entry.2) : Over allowed (.dict entries)

variable {left right : Leaf → Except EvalError Data}

theorem substituteList_congr {operands : List (Expr Leaf)}
    (each : ∀ operand ∈ operands,
      (operand.substitute left : Except EvalError (Expr Other)) = operand.substitute right) :
    (substituteList left operands : Except EvalError (List (Expr Other))) =
      substituteList right operands := by
  induction operands with
  | nil => rfl
  | cons operand rest ih =>
      simp only [substituteList, each operand mem_cons_self,
        ih fun other member => each other (mem_cons_of_mem _ member)]

theorem substituteComparisons_congr {comparisons : List (CmpOp × Expr Leaf)}
    (each : ∀ comparison ∈ comparisons,
      (comparison.2.substitute left : Except EvalError (Expr Other)) =
        comparison.2.substitute right) :
    (substituteComparisons left comparisons : Except EvalError (List (CmpOp × Expr Other))) =
      substituteComparisons right comparisons := by
  induction comparisons with
  | nil => rfl
  | cons comparison rest ih =>
      obtain ⟨op, comparator⟩ := comparison
      simp only [substituteComparisons, each (op, comparator) mem_cons_self,
        ih fun other member => each other (mem_cons_of_mem _ member)]

theorem substituteEntries_congr {entries : List (Expr Leaf × Expr Leaf)}
    (keys : ∀ entry ∈ entries,
      (entry.1.substitute left : Except EvalError (Expr Other)) = entry.1.substitute right)
    (values : ∀ entry ∈ entries,
      (entry.2.substitute left : Except EvalError (Expr Other)) = entry.2.substitute right) :
    (substituteEntries left entries : Except EvalError (List (Expr Other × Expr Other))) =
      substituteEntries right entries := by
  induction entries with
  | nil => rfl
  | cons entry rest ih =>
      obtain ⟨key, value⟩ := entry
      simp only [substituteEntries, keys (key, value) mem_cons_self,
        values (key, value) mem_cons_self,
        ih (fun other member => keys other (mem_cons_of_mem _ member))
          (fun other member => values other (mem_cons_of_mem _ member))]

theorem substitute_congr {allowed : Leaf → Prop} {expr : Expr Leaf}
    (alike : ∀ leaf, allowed leaf → left leaf = right leaf) (leaves : expr.Over allowed) :
    (expr.substitute left : Except EvalError (Expr Other)) = expr.substitute right := by
  induction leaves with
  | leaf here => simp only [Expr.substitute, alike _ here]
  | none => rfl
  | bool value => rfl
  | int value => rfl
  | float value => rfl
  | str text => rfl
  | neg _ ih | not _ ih => simp only [Expr.substitute, ih]
  | and _ ih | or _ ih | list _ ih | tuple _ ih | set _ ih =>
      simp only [Expr.substitute, substituteList_congr ih]
  | compare _ _ first ih => simp only [Expr.substitute, first, substituteComparisons_congr ih]
  | dict _ _ keys values => simp only [Expr.substitute, substituteEntries_congr keys values]

end

def NamesPlainly (state : List (String × Data)) (segments : List String) : Prop :=
  (∃ data, NamesData state segments data) ∧
    ∀ name ∈ segments, ExpressionEvaluator.isDunder name = false

/-- A reference inside a larger condition: a plain path is not evaluated by name,
but a step's whole view may be completed. -/
def ResolvesAlike (state : List (String × Data)) : Reference → Prop
  | .path segments =>
      (∃ data, NamesData state segments data) ∧ ¬ ExpressionEvaluator.Completed state segments
  | .coalesce paths => ∀ path ∈ paths, NamesPlainly state path

def StandsAlone (state : List (String × Data)) (reference : Reference) : Prop :=
  (match reference with
    | .path segments => NamesPlainly state segments
    | .coalesce paths => ∀ path ∈ paths, NamesPlainly state path) ∧
  Langchain.resolveCoalesceOrPath state reference ≠ .dict []

def Agreeable (state : List (String × Data)) : Condition → Prop
  | .reference reference => StandsAlone state reference
  | .combined expr => expr.Over (ResolvesAlike state)

section

variable {state : List (String × Data)}

theorem safeEval_coalesce {paths : List (List String)}
    (plain : ∀ path ∈ paths, NamesPlainly state path) :
    safeEval state (.coalesce paths) =
      .ok (toNamespace (Langchain.firstResolved state paths)) := by
  have valid := validateAst_ok fun path member => (plain path member).2
  obtain ⟨values, evaluated, chosen⟩ :=
    coalesce_named fun path member => (plain path member).1
  simp only [safeEval, valid, evaluated, bind, Except.bind, pure, Except.pure, chosen]

theorem safeEval_path {segments : List String} (plain : NamesPlainly state segments) :
    safeEval state (.path segments) =
      .ok (toNamespace (Langchain.resolvePath (.dict state) segments)) := by
  obtain ⟨⟨data, named⟩, names⟩ := plain
  have valid : validateAst [segments] = .ok () := by
    apply validateAst_ok
    intro path member
    rw [mem_singleton.mp member]
    exact names
  simp only [safeEval, valid, bind, Except.bind, evalPath_named named,
    langchain_resolvePath (present_of_namesData named)]

theorem resolveVariable_alike {reference : Reference} (alike : ResolvesAlike state reference) :
    resolveVariable state reference =
      .ok (Langchain.resolveCoalesceOrPath state reference) := by
  cases reference with
  | path segments =>
      obtain ⟨⟨data, named⟩, whole⟩ := alike
      simp only [resolveVariable, resolvePath_named named whole, Langchain.resolveCoalesceOrPath,
        langchain_resolvePath (present_of_namesData named)]
  | coalesce paths =>
      simp only [resolveVariable, safeEval_coalesce alike, Except.map, fromNamespace_toNamespace,
        Langchain.resolveCoalesceOrPath]

theorem truthy_toNamespace {data : Data} (held : data ≠ .dict []) :
    (toNamespace data).truthy = data.truthy := by
  cases data with
  | list items => cases items <;> rfl
  | dict fields =>
      cases fields with
      | nil => exact absurd rfl held
      | cons field rest => rfl
  | _ => rfl

end

/-! ### Two conditions -/

/-- `is` where no two values share an object, the singletons `None`, `True` and `False` apart. -/
def separate : Value → Value → Bool
  | .none, .none => true
  | .bool left, .bool right => left == right
  | _, _ => false

/-- `${coalesce(inputs.mode, inputs.depth)} != 'quick'` -/
def depthCondition : Condition :=
  .combined (.compare (.leaf (.coalesce [["inputs", "mode"], ["inputs", "depth"]]))
    [(.notEq, .str "quick")])

def depthState : List (String × Data) :=
  [("inputs", .dict [("mode", .null), ("depth", .str "full")])]

end AgenticRuntime
