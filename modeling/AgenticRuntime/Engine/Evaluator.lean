/-
`ExpressionEvaluator`: what a `${...}` is resolved to, and what a condition comes to.

`parse` is `ast.parse`, which gives nothing on a syntax error, and `repr` Python's.
The variables of a context are the items of its `all_variables()`.
-/

import AgenticRuntime.Engine.NodeParts
import AgenticRuntime.Langchain.Config

namespace AgenticRuntime

/-- `StepResultView`; `output` and `outputs` are one dict. -/
structure StepResultView where
  status : String
  output : List (Operand × Operand)
  error : Option String := none
  errorType : Option String := none
  completedAt : Option String := none

inductive PathToken where
  | name (text : String)
  | index (position : Int)
  deriving DecidableEq, Repr

namespace Operand

def ofText : Option String → Operand
  | some text => .str text
  | Option.none => .none

mutual

/-- `_to_namespace`; a keyword of a namespace has to be a string. -/
def toNamespace : Operand → Except Fault Operand
  | .dict items => do return .object (← toNamespaceFields items)
  | .list items => do return .list (← toNamespaceItems items)
  | value => .ok value

def toNamespaceItems : List Operand → Except Fault (List Operand)
  | [] => .ok []
  | item :: rest => do
      let first ← toNamespace item
      let others ← toNamespaceItems rest
      return first :: others

def toNamespaceFields : List (Operand × Operand) → Except Fault (List (String × Operand))
  | [] => .ok []
  | (key, value) :: rest => do
      let held ← toNamespace value
      let others ← toNamespaceFields rest
      match key with
      | .str name => return (name, held) :: others
      | _ => .error .typeError

end

mutual

def fromNamespace : Operand → Operand
  | .missing => .none
  | .object fields => .dict (fromNamespaceFields fields)
  | .dict items => .dict (fromNamespaceEntries items)
  | .list items => .list (fromNamespaceItems items)
  | value => value

def fromNamespaceItems : List Operand → List Operand
  | [] => []
  | item :: rest => fromNamespace item :: fromNamespaceItems rest

def fromNamespaceEntries : List (Operand × Operand) → List (Operand × Operand)
  | [] => []
  | (key, value) :: rest => (key, fromNamespace value) :: fromNamespaceEntries rest

def fromNamespaceFields : List (String × Operand) → List (Operand × Operand)
  | [] => []
  | (name, value) :: rest => (.str name, fromNamespace value) :: fromNamespaceFields rest

end

/-- `isinstance(value, dict)` -/
def isDict : Operand → Bool
  | .dict _ => true
  | _ => false

end Operand

/-! ### Paths -/

/-- `int(text)` on ASCII text without blanks around it. -/
def digits? : List Char → Option Nat
  | [] => none
  | text =>
      if text.all Char.isDigit then
        some (text.foldl (fun number digit => 10 * number + (digit.toNat - '0'.toNat)) 0)
      else none

def indexText? (text : List Char) : Option Int :=
  match text with
  | '-' :: rest => (digits? rest).map fun number => -(number : Int)
  | '+' :: rest => (digits? rest).map fun number => (number : Int)
  | _ => (digits? text).map fun number => (number : Int)

def coerceIndexToken (text : List Char) : PathToken :=
  let quote (c : Option Char) : Bool := c = some '\'' || c = some '\x22'
  if quote text.head? && quote text.getLast? then .name (String.ofList (text.tail.dropLast))
  else
    match indexText? text with
    | some position => .index position
    | none => .name (String.ofList text)

def flush (buffer : List Char) : List PathToken :=
  if buffer.isEmpty then [] else [.name (String.ofList buffer)]

/-- `_parse_path`: the tokens so far, the buffer, and the text since an open bracket. -/
def parsePathFrom (tokens : List PathToken) (buffer : List Char) :
    Option (List Char) → List Char → List PathToken
  | none, [] => tokens ++ flush buffer
  | some _, [] => []
  | none, c :: rest =>
      if c = '.' then parsePathFrom (tokens ++ flush buffer) [] none rest
      else if c = '[' then parsePathFrom (tokens ++ flush buffer) [] (some []) rest
      else parsePathFrom tokens (buffer ++ [c]) none rest
  | some inside, c :: rest =>
      if c = ']' then
        parsePathFrom (tokens ++ [coerceIndexToken (strip (String.ofList inside)).toList]) [] none
          rest
      else parsePathFrom tokens buffer (some (inside ++ [c])) rest

def parsePath (path : String) : List PathToken := parsePathFrom [] [] none path.toList

namespace ConditionEvaluator

section

variable (methods : Operand → String → Option Nat) (results : List (String × StepResultView))
  (allVariables : List (String × Operand))

/-- `self.ctx.all_variables()` as a dict. -/
def variablesDict : List (Operand × Operand) :=
  allVariables.map fun item => (.str item.1, item.2)

/-- The items of `ctx["steps"]`, if it is a dict. -/
def ctxSteps : List (Operand × Operand) :=
  match lookupField allVariables "steps" with
  | some (.dict items) => items
  | _ => []

/-- The fields of a view, as `_to_namespace` and `_get_step_view` list them. -/
def viewFields (view : StepResultView) (output : Operand) : List (String × Operand) :=
  [("status", .str view.status), ("output", output), ("outputs", output),
    ("error", .ofText view.error), ("error_type", .ofText view.errorType),
    ("completed_at", .ofText view.completedAt)]

def navigate : Operand → List PathToken → Operand
  | value, [] => value
  | .none, _ :: _ => .none
  | .list items, .index position :: rest =>
      if 0 ≤ position ∧ position < items.length then
        navigate (items.getD position.toNat .none) rest
      else .none
  | .tuple items, .index position :: rest =>
      if 0 ≤ position ∧ position < items.length then
        navigate (items.getD position.toNat .none) rest
      else .none
  | _, .index _ :: _ => .none
  | .dict items, .name key :: rest =>
      navigate ((Operand.valueAt? (.str key) items).getD .none) rest
  | value, .name key :: rest =>
      match value.getAttribute methods key with
      | .missing => .none
      | found => navigate found rest

def ctxStep (stepName : String) : Option (List (Operand × Operand)) :=
  match Operand.valueAt? (.str stepName) (ctxSteps allVariables) with
  | some (.dict items) => some items
  | _ => none

/-- An entry with `outputs` is completed with `output`. -/
def withOutput (items : List (Operand × Operand)) : List (Operand × Operand) :=
  match Operand.valueAt? (.str "outputs") items, Operand.valueAt? (.str "output") items with
  | some outputs, none => items ++ [(.str "output", outputs)]
  | _, _ => items

/-- `_get_step_view`: the entry of the context over the step's own result. -/
def getStepView (stepName : String) : Operand :=
  match lookupField results stepName with
  | some view =>
      let own := (viewFields view (.dict view.output)).map fun field =>
        ((.str field.1, field.2) : Operand × Operand)
      match ctxStep allVariables stepName with
      | some items =>
          .dict (withOutput (items.foldl (fun merged item =>
            Operand.setEntry item.1 item.2 merged) own))
      | none => .dict (withOutput own)
  | none =>
      match ctxStep allVariables stepName with
      | some items => .dict (withOutput items)
      | none => .none

def resolvePath (path : String) : Operand :=
  match parsePath path with
  | [] => .none
  | .name "steps" :: .name stepName :: rest =>
      navigate methods (getStepView results allVariables stepName) rest
  | .name "steps" :: _ => .none
  | .name "ctx" :: rest => navigate methods (.dict (variablesDict allVariables)) rest
  | tokens => navigate methods (.dict (variablesDict allVariables)) tokens

end

/-! ### The environment of an expression -/

section

variable (results : List (String × StepResultView)) (allVariables : List (String × Operand))

/-- The views with the dicts of `ctx["steps"]` that have none, as namespaces. -/
def stepNamespaces : Except Fault (List (String × Operand)) := do
  let own ← results.mapM fun step => do
    let output ← Operand.toNamespace (.dict step.2.output)
    return (step.1, Operand.object (viewFields step.2 output))
  let stored := (ctxSteps allVariables).filter fun item =>
    item.2.isDict && !results.any fun step => item.1.eq (.str step.1)
  let others ← Operand.toNamespaceFields stored
  return own ++ others

/-- The `env` of `_safe_eval`. -/
def environment : Except Fault (List (String × Operand)) := do
  let ctx ← Operand.toNamespace (.dict (variablesDict allVariables))
  let steps ← stepNamespaces results allVariables
  let others ← (allVariables.filter fun item =>
    item.1 ≠ "ctx" ∧ item.1 ≠ "steps" ∧ item.1 ≠ "coalesce").mapM fun item => do
      return (item.1, ← item.2.toNamespace)
  return ("ctx", ctx) :: ("steps", .object steps) :: ("coalesce", .coalesce) :: others

end

/-! ### Validation -/

/-- The nodes below in the order of their fields: a dict lists its keys before its values. -/
def fieldOrder : AstNode → List AstNode
  | .dict entries => entries.filterMap Prod.fst ++ entries.map Prod.snd
  | node => node.children

/-- The nodes that `ast.walk` comes by, with a queue and a bound on its length. -/
def walk : Nat → List AstNode → List AstNode
  | 0, _ => []
  | _ + 1, [] => []
  | fuel + 1, node :: queue => node :: walk fuel (queue ++ fieldOrder node)

/-- What `_validate_ast` has against a node. -/
def objection : AstNode → Option Fault
  | .name id => if isDunder id then some (.dunderName id) else none
  | .attr _ field => if isDunder field then some (.dunderAttribute field) else none
  | _ => none

/-- `_validate_ast` on a node of the whitelist. -/
def validateAst (node : AstNode) : Except Fault Unit :=
  match (walk (node.total fun _ => 1) [node]).findSome? objection with
  | some fault => .error fault
  | none => .ok ()

/-! ### Evaluation -/

section

variable (identical : Operand → Operand → Bool) (methods : Operand → String → Option Nat)
  (format : Operand → Operand → Except Fault Operand) (parse : String → Option AstNode)
  (repr : Operand → String) (results : List (String × StepResultView))
  (allVariables : List (String × Operand))

def safeEval (expression : String) : Except Fault Operand :=
  match parse expression with
  | none => .error .syntaxError
  | some node => do
      validateAst node
      let env ← environment results allVariables
      node.eval identical methods format env

def resolveVariable (path : String) : Except Fault Operand := do
  if '(' ∈ path.toList then
    return (← safeEval identical methods format parse results allVariables path).fromNamespace
  else return (resolvePath methods results allVariables path).fromNamespace

/-- The part of `evaluate` after the references have been dealt with. The fallback is for an
expression that does not parse. -/
def evaluateExpression (expression : String) : Except Fault Bool :=
  let lowered := expression.toList.map Char.toLower
  if lowered = "true".toList then .ok true
  else if lowered = "false".toList then .ok false
  else
    match safeEval identical methods format parse results allVariables expression with
    | .ok value => .ok value.truthy
    | .error .syntaxError =>
        .ok (decide (" not in ".toList <:+: expression.toList) ||
          decide (" != ".toList <:+: expression.toList))
    | .error fault => .error fault

/-- A piece of a condition: text, or what stands in a `${...}`. -/
inductive Piece where
  | text (c : Char)
  | reference (path : String)

/-- `VARIABLE_PATTERN` at the start of a text: what it captures, and the text behind it. -/
def matchReference : List Char → Option (String × List Char)
  | '$' :: '\x7b' :: rest =>
      let inside := rest.takeWhile fun c => c ≠ '\x7d'
      match rest.dropWhile fun c => c ≠ '\x7d' with
      | _ :: behind => if inside.isEmpty then none else some (String.ofList inside, behind)
      | [] => none
  | _ => none

/-- The pieces of a text, as `VARIABLE_PATTERN.sub` goes through it; the bound is its length. -/
def pieces : Nat → List Char → List Piece
  | 0, _ => []
  | _ + 1, [] => []
  | fuel + 1, c :: rest =>
      match matchReference (c :: rest) with
      | some (path, behind) => .reference (strip path) :: pieces fuel behind
      | none => .text c :: pieces fuel rest

/-- Every reference replaced by the `repr` of what it resolves to. -/
def substitute : List Piece → Except Fault (List Char)
  | [] => .ok []
  | .text c :: rest => do return c :: (← substitute rest)
  | .reference path :: rest => do
      let value ← resolveVariable identical methods format parse results allVariables path
      return (repr value).toList ++ (← substitute rest)

def prepare (condition : String) : Except Fault String :=
  let expression := strip condition
  match matchReference expression.toList with
  | some (path, []) => .ok (strip path)
  | _ => do
      let filled ← substitute identical methods format parse repr results allVariables
        (pieces expression.toList.length expression.toList)
      return String.ofList filled

def evaluate (expr : Operand) : Except Fault Bool :=
  match expr with
  | .bool value => .ok value
  | .none => .ok false
  | .str condition => do
      let expression ← prepare identical methods format parse repr results allVariables condition
      evaluateExpression identical methods format parse results allVariables expression
  | value => .ok value.truthy

end

end ConditionEvaluator

end AgenticRuntime
