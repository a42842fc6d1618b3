/-
Conditions of a workflow and the native evaluator of them.

A condition is a Python expression whose names stand inside `${...}` only, so the
cases of `_eval_node` are two functions here: one on names, one on everything
else.  Arithmetic, subscripts and attributes of built-in values are left out, and
a dotted path is the list of its segments.
-/

import Mathlib.Data.List.Infix
import Mathlib.Data.Rat.Defs
import Mathlib.Algebra.Order.Ring.Unbundled.Rat

namespace AgenticRuntime

inductive Data where
  | null
  | bool (value : Bool)
  | int (value : Int)
  | float (value : ℚ)
  | str (text : String)
  | list (items : List Data)
  | dict (fields : List (String × Data))
  deriving Repr

/-- `bool(value)` -/
def Data.truthy : Data → Bool
  | .null => false
  | .bool value => value
  | .int value => value ≠ 0
  | .float value => value ≠ 0
  | .str text => text ≠ ""
  | .list items => !items.isEmpty
  | .dict fields => !fields.isEmpty

/-- `isinstance(value, dict)` -/
def Data.isMapping : Data → Bool
  | .dict _ => true
  | _ => false

/-- `dict.get` on string keys. -/
def lookupField {α : Type} : List (String × α) → String → Option α
  | [], _ => none
  | (name, value) :: rest, key => if name = key then some value else lookupField rest key

/-! ### Values of a literal expression -/

inductive Value where
  | none
  | bool (value : Bool)
  | int (value : Int)
  | float (value : ℚ)
  | str (text : String)
  | list (items : List Value)
  | tuple (items : List Value)
  | set (items : List Value)
  | dict (items : List (Value × Value))
  deriving Repr

namespace Value

def truthy : Value → Bool
  | .none => false
  | .bool value => value
  | .int value => value ≠ 0
  | .float value => value ≠ 0
  | .str text => text ≠ ""
  | .list items => !items.isEmpty
  | .tuple items => !items.isEmpty
  | .set items => !items.isEmpty
  | .dict items => !items.isEmpty

def number? : Value → Option ℚ
  | .bool value => some (if value then 1 else 0)
  | .int value => some value
  | .float value => some value
  | _ => Option.none

mutual

/-- `left == right` -/
def eq : Value → Value → Bool
  | .none, .none => true
  | .str left, .str right => left = right
  | .list left, .list right => eqItems left right
  | .tuple left, .tuple right => eqItems left right
  | .set left, .set right => left.length = right.length && subset left right
  | .dict left, .dict right => left.length = right.length && subEntries left right
  | left, right =>
      match left.number?, right.number? with
      | some first, some second => first = second
      | _, _ => false
termination_by structural left => left

def eqItems : List Value → List Value → Bool
  | [], [] => true
  | left :: leftRest, right :: rightRest => eq left right && eqItems leftRest rightRest
  | _, _ => false
termination_by structural left => left

def subset : List Value → List Value → Bool
  | [], _ => true
  | left :: rest, right => right.any (fun item => eq left item) && subset rest right
termination_by structural left => left

def subEntries : List (Value × Value) → List (Value × Value) → Bool
  | [], _ => true
  | (key, value) :: rest, right =>
      right.any (fun item => eq key item.1 && eq value item.2) && subEntries rest right
termination_by structural left => left

end

mutual

def hashable : Value → Bool
  | .list _ => false
  | .set _ => false
  | .dict _ => false
  | .tuple items => hashableItems items
  | _ => true

def hashableItems : List Value → Bool
  | [] => true
  | item :: rest => hashable item && hashableItems rest

end

end Value

inductive OrderOp where
  | lt
  | le
  | gt
  | ge
  deriving DecidableEq, Repr

def OrderOp.holds : OrderOp → Ordering → Bool
  | .lt, ordering => ordering.isLT
  | .le, ordering => ordering.isLE
  | .gt, ordering => ordering.isGT
  | .ge, ordering => ordering.isGE

def compareNumbers (left right : ℚ) : Ordering :=
  if left < right then .lt else if left = right then .eq else .gt

def orderSets (op : OrderOp) (left right : List Value) : Bool :=
  match op with
  | .lt => Value.subset left right && left.length < right.length
  | .le => Value.subset left right
  | .gt => Value.subset right left && right.length < left.length
  | .ge => Value.subset right left

mutual

/-- `left < right` and its kin; `none` is a `TypeError`. -/
def Value.order (op : OrderOp) : Value → Value → Option Bool
  | .str left, .str right => some (op.holds (compare left right))
  | .list left, .list right => orderItems op left right
  | .tuple left, .tuple right => orderItems op left right
  | .set left, .set right => some (orderSets op left right)
  | left, right =>
      match left.number?, right.number? with
      | some first, some second => some (op.holds (compareNumbers first second))
      | _, _ => none
termination_by structural left => left

def orderItems (op : OrderOp) : List Value → List Value → Option Bool
  | [], [] => some (op.holds .eq)
  | [], _ :: _ => some (op.holds .lt)
  | _ :: _, [] => some (op.holds .gt)
  | left :: leftRest, right :: rightRest =>
      if left.eq right then orderItems op leftRest rightRest else left.order op right
termination_by structural left => left

end

/-- `item in container`; `none` is a `TypeError`. -/
def Value.isIn (item container : Value) : Option Bool :=
  match container with
  | .list items => some (items.any item.eq)
  | .tuple items => some (items.any item.eq)
  | .set items => if item.hashable then some (items.any item.eq) else Option.none
  | .dict items => if item.hashable then some (items.any fun entry => item.eq entry.1) else Option.none
  | .str text =>
      match item with
      | .str part => some (decide (part.toList <:+: text.toList))
      | _ => Option.none
  | _ => Option.none

/-! ### Expressions -/

inductive CmpOp where
  | eq
  | notEq
  | order (op : OrderOp)
  | is
  | isNot
  | isIn
  | notIn
  deriving DecidableEq, Repr

/-- A Python expression over leaves of its own; a negative number is `neg` of a constant. -/
inductive Expr (Leaf : Type) where
  | leaf (leaf : Leaf)
  | none
  | bool (value : Bool)
  | int (value : Nat)
  | float (value : ℚ)
  | str (text : String)
  | neg (operand : Expr Leaf)
  | not (operand : Expr Leaf)
  | and (operands : List (Expr Leaf))
  | or (operands : List (Expr Leaf))
  | compare (left : Expr Leaf) (comparisons : List (CmpOp × Expr Leaf))
  | list (elements : List (Expr Leaf))
  | tuple (elements : List (Expr Leaf))
  | set (elements : List (Expr Leaf))
  | dict (entries : List (Expr Leaf × Expr Leaf))
  deriving Repr

inductive EvalError where
  | valueError (message : String)
  | nameError (message : String)
  | typeError
  deriving DecidableEq, Repr

def orTypeError {α : Type} : Option α → Except EvalError α
  | some value => .ok value
  | Option.none => .error .typeError

/-- `operator.neg` -/
def Value.negate : Value → Option Value
  | .bool value => some (.int (if value then -1 else 0))
  | .int value => some (.int (-value))
  | .float value => some (.float (-value))
  | _ => Option.none

section

-- Whether two values are one object is up to the interpreter.
variable (identical : Value → Value → Bool)

/-- `_CMPOP_OPS` -/
def CmpOp.apply (op : CmpOp) (left right : Value) : Except EvalError Bool :=
  match op with
  | .eq => .ok (left.eq right)
  | .notEq => .ok (!left.eq right)
  | .order op => orTypeError (left.order op right)
  | .is => .ok (identical left right)
  | .isNot => .ok (!identical left right)
  | .isIn => orTypeError (left.isIn right)
  | .notIn => orTypeError ((left.isIn right).map not)

/-- `result_dict[key] = value` -/
def insertEntry (items : List (Value × Value)) (key value : Value) : List (Value × Value) :=
  match items with
  | [] => [(key, value)]
  | (present, old) :: rest =>
      if present.eq key then (present, value) :: rest
      else (present, old) :: insertEntry rest key value

mutual

/-- `_eval_node` on a literal expression. -/
def evalNode : Expr Empty → Except EvalError Value
  | .leaf impossible => nomatch impossible
  | .none => .ok .none
  | .bool value => .ok (.bool value)
  | .int value => .ok (.int value)
  | .float value => .ok (.float value)
  | .str text => .ok (.str text)
  | .neg operand => do orTypeError (← evalNode operand).negate
  | .not operand => do return .bool (!(← evalNode operand).truthy)
  | .and operands => evalAnd (.bool true) operands
  | .or operands => evalOr (.bool false) operands
  | .compare left comparisons => do evalComparisons (← evalNode left) comparisons
  | .list elements => do return .list (← evalElements elements)
  | .tuple elements => do return .tuple (← evalElements elements)
  | .set elements => do evalSet [] (← evalElements elements)
  | .dict entries => do return .dict (← evalEntries [] entries)

def evalAnd (result : Value) : List (Expr Empty) → Except EvalError Value
  | [] => .ok result
  | operand :: rest => do
      let value ← evalNode operand
      if value.truthy then evalAnd value rest else return value

def evalOr (result : Value) : List (Expr Empty) → Except EvalError Value
  | [] => .ok result
  | operand :: rest => do
      let value ← evalNode operand
      if value.truthy then return value else evalOr value rest

def evalComparisons (left : Value) : List (CmpOp × Expr Empty) → Except EvalError Value
  | [] => .ok (.bool true)
  | (op, comparator) :: rest => do
      let right ← evalNode comparator
      if ← op.apply identical left right then evalComparisons right rest else return .bool false

def evalElements : List (Expr Empty) → Except EvalError (List Value)
  | [] => .ok []
  | element :: rest => do
      let value ← evalNode element
      let values ← evalElements rest
      return value :: values

def evalEntries (items : List (Value × Value)) :
    List (Expr Empty × Expr Empty) → Except EvalError (List (Value × Value))
  | [] => .ok items
  | (key, value) :: rest => do
      let name ← evalNode key
      let held ← evalNode value
      if name.hashable then evalEntries (insertEntry items name held) rest
      else .error .typeError

def evalSet (items : List Value) : List Value → Except EvalError Value
  | [] => .ok (.set items)
  | value :: rest =>
      if value.hashable then
        evalSet (if items.any value.eq then items else items ++ [value]) rest
      else .error .typeError

end

end

/-! ### References -/

/-- The text inside `${...}`: a dotted path, or `coalesce` of such. -/
inductive Reference where
  | path (segments : List String)
  | coalesce (paths : List (List String))
  deriving DecidableEq, Repr

/-- A condition is one `${...}`, or an expression around several; a reference in
parentheses is such an expression. -/
inductive Condition where
  | reference (reference : Reference)
  | combined (expr : Expr Reference)
  deriving Repr

section

variable {Leaf Other : Type}

mutual

/-- `repr(value)`, parsed. -/
def reprExpr : Data → Expr Leaf
  | .null => .none
  | .bool value => .bool value
  | .int value => if value < 0 then .neg (.int value.natAbs) else .int value.natAbs
  | .float value => if value < 0 then .neg (.float (-value)) else .float value
  | .str text => .str text
  | .list items => .list (reprItems items)
  | .dict fields => .dict (reprFields fields)

def reprItems : List Data → List (Expr Leaf)
  | [] => []
  | item :: rest => reprExpr item :: reprItems rest

def reprFields : List (String × Data) → List (Expr Leaf × Expr Leaf)
  | [] => []
  | (name, value) :: rest => (.str name, reprExpr value) :: reprFields rest

end

variable (resolve : Leaf → Except EvalError Data)

mutual

/-- Every `${...}` replaced by the `repr` of what it resolves to, left to right. -/
def Expr.substitute : Expr Leaf → Except EvalError (Expr Other)
  | .leaf reference => do return reprExpr (← resolve reference)
  | .none => .ok .none
  | .bool value => .ok (.bool value)
  | .int value => .ok (.int value)
  | .float value => .ok (.float value)
  | .str text => .ok (.str text)
  | .neg operand => do return .neg (← operand.substitute)
  | .not operand => do return .not (← operand.substitute)
  | .and operands => do return .and (← substituteList operands)
  | .or operands => do return .or (← substituteList operands)
  | .compare left comparisons => do
      let first ← left.substitute
      return .compare first (← substituteComparisons comparisons)
  | .list elements => do return .list (← substituteList elements)
  | .tuple elements => do return .tuple (← substituteList elements)
  | .set elements => do return .set (← substituteList elements)
  | .dict entries => do return .dict (← substituteEntries entries)

def substituteList : List (Expr Leaf) → Except EvalError (List (Expr Other))
  | [] => .ok []
  | operand :: rest => do
      let first ← operand.substitute
      return first :: (← substituteList rest)

def substituteComparisons :
    List (CmpOp × Expr Leaf) → Except EvalError (List (CmpOp × Expr Other))
  | [] => .ok []
  | (op, comparator) :: rest => do
      let first ← comparator.substitute
      return (op, first) :: (← substituteComparisons rest)

def substituteEntries :
    List (Expr Leaf × Expr Leaf) → Except EvalError (List (Expr Other × Expr Other))
  | [] => .ok []
  | (key, value) :: rest => do
      let name ← key.substitute
      let held ← value.substitute
      return (name, held) :: (← substituteEntries rest)

end

end

/-! ### Values behind names -/

/-- JSON data with its dicts wrapped as `_SafeNamespace`, and `_NullSafe`. -/
inductive Wrapped where
  | none
  | bool (value : Bool)
  | int (value : Int)
  | float (value : ℚ)
  | str (text : String)
  | list (items : List Wrapped)
  | safeNamespace (fields : List (String × Wrapped))
  | nullSafe
  deriving Repr

def Wrapped.truthy : Wrapped → Bool
  | .none => false
  | .bool value => value
  | .int value => value ≠ 0
  | .float value => value ≠ 0
  | .str text => text ≠ ""
  | .list items => !items.isEmpty
  | .safeNamespace _ => true
  | .nullSafe => false

mutual

def toNamespace : Data → Wrapped
  | .null => .none
  | .bool value => .bool value
  | .int value => .int value
  | .float value => .float value
  | .str text => .str text
  | .list items => .list (toNamespaces items)
  | .dict fields => .safeNamespace (toNamespaceFields fields)

def toNamespaces : List Data → List Wrapped
  | [] => []
  | item :: rest => toNamespace item :: toNamespaces rest

def toNamespaceFields : List (String × Data) → List (String × Wrapped)
  | [] => []
  | (name, value) :: rest => (name, toNamespace value) :: toNamespaceFields rest

end

mutual

def fromNamespace : Wrapped → Data
  | .none => .null
  | .bool value => .bool value
  | .int value => .int value
  | .float value => .float value
  | .str text => .str text
  | .list items => .list (fromNamespaces items)
  | .safeNamespace fields => .dict (fromNamespaceFields fields)
  | .nullSafe => .null

def fromNamespaces : List Wrapped → List Data
  | [] => []
  | item :: rest => fromNamespace item :: fromNamespaces rest

def fromNamespaceFields : List (String × Wrapped) → List (String × Data)
  | [] => []
  | (name, value) :: rest => (name, fromNamespace value) :: fromNamespaceFields rest

end

/-- `_coalesce` -/
def coalesceWrapped : List Wrapped → Wrapped
  | [] => .none
  | .none :: rest => coalesceWrapped rest
  | .nullSafe :: rest => coalesceWrapped rest
  | value :: _ => value

/-! ### ExpressionEvaluator -/

namespace ExpressionEvaluator

-- The context variables; the evaluator is given no step results of its own.
variable (allVariables : List (String × Data))

/-- The entries of `ctx["steps"]` that are mappings. -/
def stepViews : List (String × Data) :=
  match lookupField allVariables "steps" with
  | some (.dict steps) => steps.filter fun step => step.2.isMapping
  | _ => []

/-- The `env` of `_safe_eval`, but for `coalesce`. -/
def environment (name : String) : Option Wrapped :=
  if name = "ctx" then some (toNamespace (.dict allVariables))
  else if name = "steps" then some (toNamespace (.dict (stepViews allVariables)))
  else (lookupField allVariables name).map toNamespace

def isDunder (name : String) : Bool := ['_', '_'].isPrefixOf name.toList

/-- `getattr(obj, name, _NullSafe())` -/
def getattr (value : Wrapped) (name : String) : Wrapped :=
  match value with
  | .safeNamespace fields => (lookupField fields name).getD .nullSafe
  | _ => .nullSafe

/-- The names of the paths in the order of `ast.walk`, outermost attributes first,
each with whether it is the root. -/
def walkNames (paths : List (List String)) : List (String × Bool) :=
  let depth := (paths.map List.length).foldl max 0
  (List.range depth).flatMap fun level =>
    paths.filterMap fun path =>
      (path.reverse[level]?).map fun name => (name, level + 1 = path.length)

/-- `_validate_ast` on dotted paths. -/
def validateAst (paths : List (List String)) : Except EvalError Unit :=
  match (walkNames paths).find? fun name => isDunder name.1 with
  | some (name, true) =>
      .error (.valueError s!"Dunder name reference is not allowed in expressions: '{name}'")
  | some (name, false) =>
      .error (.valueError s!"Dunder attribute access is not allowed in expressions: '{name}'")
  | none => .ok ()

/-- `_eval_node` on a dotted path. -/
def evalPath : List String → Except EvalError Wrapped
  | [] => .error (.nameError "")
  | name :: rest =>
      match environment allVariables name with
      | none => .error (.nameError s!"name '{name}' is not defined")
      | some value => .ok (rest.foldl getattr value)

def evalPaths : List (List String) → Except EvalError (List Wrapped)
  | [] => .ok []
  | path :: rest => do
      let value ← evalPath allVariables path
      return value :: (← evalPaths rest)

/-- `_safe_eval` on the text inside the braces. -/
def safeEval : Reference → Except EvalError Wrapped
  | .path segments => do
      validateAst [segments]
      evalPath allVariables segments
  | .coalesce paths => do
      validateAst paths
      return coalesceWrapped (← evalPaths allVariables paths)

def navigate : Data → List String → Data
  | value, [] => value
  | .dict fields, key :: rest => navigate ((lookupField fields key).getD .null) rest
  | _, _ :: _ => .null

/-- `_get_step_view`: a stored view is completed with `output`. -/
def getStepView (stepName : String) : Data :=
  match lookupField allVariables "steps" with
  | some (.dict steps) =>
      match lookupField steps stepName with
      | some (.dict view) =>
          match lookupField view "outputs", lookupField view "output" with
          | some outputs, none => .dict (view ++ [("output", outputs)])
          | _, _ => .dict view
      | _ => .null
  | _ => .null

def resolvePath : List String → Data
  | [] => .null
  | ["steps"] => .null
  | "steps" :: stepName :: rest => navigate (getStepView allVariables stepName) rest
  | "ctx" :: rest => navigate (.dict allVariables) rest
  | segments => navigate (.dict allVariables) segments

/-- `resolve_variable`; only a call goes through `_safe_eval`. -/
def resolveVariable : Reference → Except EvalError Data
  | .path segments => .ok (resolvePath allVariables segments)
  | .coalesce paths => (safeEval allVariables (.coalesce paths)).map fromNamespace

/-- `evaluate`.  A condition that is one `${...}` is evaluated on the wrapped data;
any other has its references replaced first.  Neither can fail to parse, so the
fallback for that is not reached, and the shortcut for the texts `true` and
`false` gives what evaluating the literal gives. -/
def evaluate (identical : Value → Value → Bool) : Condition → Except EvalError Bool
  | .reference reference => do return (← safeEval allVariables reference).truthy
  | .combined expr => do
      let literal ← expr.substitute (resolveVariable allVariables)
      return (← evalNode identical literal).truthy

end ExpressionEvaluator

end AgenticRuntime
