/-
The variables of a chain of execution contexts: what its writers change and what
its readers see.

A chain is a context with its parents, the nearest first. Queries go to JMESPath,
which is the parameter `search`; it gives nothing where it raises.
-/

import AgenticRuntime.Engine.Checkpoint

namespace AgenticRuntime

open Python

/-- What a context of the chain holds itself: `_variables` and `_masked`. -/
structure VariableScope where
  own : Dict PyValue := Dict.empty
  masked : List String := []

inductive ScopeCall where
  | set (key : String) (value : PyValue)
  | setSync (key : String) (value : PyValue)
  | setInternal (key : String) (value : PyValue)
  | update (kwargs : List (String × PyValue))
  | delete (key : String)
  | maskInherited (key : String)
  | mergeStepView (stepName : String) (stepView : List (PyKey × PyValue))

namespace VariableScope

/-- `"." in key or "[" in key` -/
def isQuery (key : String) : Bool := '.' ∈ key.toList || '[' ∈ key.toList

def maskRoot (key : String) : String :=
  String.ofList ((key.toList.takeWhile fun c => c ≠ '.').takeWhile fun c => c ≠ '[')

section

variable (search : String → Dict PyValue → Option PyValue)

def localHit (scope : VariableScope) (key : String) : Option PyValue :=
  if isQuery key then
    match search key scope.own with
    | none => none
    | some .none => none
    | some value => some value
  else scope.own.get? key

def get (key : String) (fallback : PyValue) : VariableScope → List VariableScope → PyValue
  | scope, parents =>
      let hit := scope.localHit search key
      let hidden : Bool := maskRoot key ∈ scope.masked
      match hit with
      | some value => value
      | none =>
          if hidden then fallback
          else
            match parents with
            | [] => fallback
            | parent :: rest => get key fallback parent rest

def getSync (key : String) (fallback : PyValue) : VariableScope → List VariableScope → PyValue
  | scope, parents =>
      match scope.localHit search key with
      | some value => value
      | none =>
          if maskRoot key ∈ scope.masked then fallback
          else
            match parents with
            | [] => fallback
            | parent :: rest => getSync key fallback parent rest

end

def has (key : String) : VariableScope → List VariableScope → Bool
  | scope, parents =>
      if key ∈ scope.own.keys then true
      else if key ∈ scope.masked then false
      else
        match parents with
        | [] => false
        | parent :: rest => has key parent rest

def allVariables : VariableScope → List VariableScope → Dict PyValue
  | scope, [] => scope.own
  | scope, parent :: rest =>
      (scope.masked.foldl Dict.erase (allVariables parent rest)).update scope.own.items

/-! ### Writing -/

variable (scope : VariableScope)

def write (key : String) (value : PyValue) : VariableScope where
  own := scope.own.insert key value
  masked := scope.masked.filter fun masked => masked ≠ key

def set (key : String) (value : PyValue) :
    Except VariableKeyError VariableScope :=
  match validateVariableKey key false with
  | some error => .error error
  | none => .ok (scope.write key value)

def setInternal (key : String) (value : PyValue) :
    Except VariableKeyError VariableScope :=
  match validateVariableKey key true with
  | some error => .error error
  | none => .ok { scope with own := scope.own.insert key value }

def update (scope : VariableScope) (kwargs : List (String × PyValue)) :
    Except VariableKeyError VariableScope :=
  match kwargs.findSome? fun item => validateVariableKey item.1 false with
  | some error => .error error
  | none => .ok { scope with own := scope.own.update kwargs }

def delete (key : String) : VariableScope :=
  { scope with own := scope.own.erase key }

def maskInherited (key : String) : VariableScope where
  own := scope.own.erase key
  masked := key :: scope.masked

/-- `merge_step_view`: a `steps` of its own that is a dict, or the inherited one. -/
def mergeStepView (search : String → Dict PyValue → Option PyValue) (scope : VariableScope)
    (parents : List VariableScope) (stepName : String) (stepView : List (PyKey × PyValue)) :
    VariableScope :=
  let inherited := getSync search "steps" .none scope parents
  let base :=
    match scope.own.get? "steps" with
    | some (.dict items) => .dict items
    | _ => inherited
  let stepsState := Items.insert (ExecutionContext.stepsState (some base)) (.str stepName)
    (.dict stepView)
  { scope with own := scope.own.insert "steps" (.dict stepsState) }

end VariableScope

/-- What a call does to its context; a rejected write raises before it changes anything. -/
def ScopeCall.on (search : String → Dict PyValue → Option PyValue) (scope : VariableScope)
    (parents : List VariableScope) : ScopeCall → Except VariableKeyError VariableScope
  | .set key value => scope.set key value
  | .setSync key value => scope.set key value
  | .setInternal key value => scope.setInternal key value
  | .update kwargs => scope.update kwargs
  | .delete key => .ok (scope.delete key)
  | .maskInherited key => .ok (scope.maskInherited key)
  | .mergeStepView stepName stepView => .ok (scope.mergeStepView search parents stepName stepView)

def callAt (search : String → Dict PyValue → Option PyValue) (call : ScopeCall) :
    Nat → List VariableScope → List VariableScope
  | _, [] => []
  | 0, scope :: parents =>
      match call.on search scope parents with
      | .ok changed => changed :: parents
      | .error _ => scope :: parents
  | depth + 1, scope :: parents => scope :: callAt search call depth parents

def runCalls (search : String → Dict PyValue → Option PyValue)
    (calls : List (Nat × ScopeCall)) (chain : List VariableScope) : List VariableScope :=
  calls.foldl (fun chain call => callAt search call.2 call.1 chain) chain

/-! ### Paths -/

def isPathName (name : String) : Bool :=
  match name.toList with
  | [] => false
  | first :: rest =>
      (first.isAlpha || first = '_') && rest.all fun c => c.isAlphanum || c = '_'

inductive PathStep where
  | field (name : String)
  | index (position : Int)
  deriving DecidableEq, Repr

/-- A dotted or indexed path: a variable and at least one step into it. -/
structure VariablePath where
  root : String
  steps : List PathStep
  named : isPathName root = true
  deep : steps ≠ []
  fields : ∀ name, .field name ∈ steps → isPathName name = true

namespace PathStep

def text : PathStep → String
  | .field name => "." ++ name
  | .index position => "[" ++ toString position ++ "]"

/-- One step as JMESPath takes it: null unless the value is of the right kind and has it. -/
def follow (value : PyValue) : PathStep → PyValue
  | .field name =>
      match value with
      | .dict items => (Items.get? items (.str name)).getD .none
      | _ => .none
  | .index position =>
      match value with
      | .list items =>
          let place := if position < 0 then items.length + position else position
          if place < 0 then .none else items.getD place.toNat .none
      | _ => .none

theorem follow_none (step : PathStep) : step.follow .none = .none := by
  cases step with
  | field name => rfl
  | index position => rfl

end PathStep

namespace VariablePath

def text (path : VariablePath) : String :=
  path.steps.foldl (fun text step => text ++ step.text) path.root

def value (path : VariablePath) (held : Dict PyValue) : PyValue :=
  path.steps.foldl PathStep.follow ((held.get? path.root).getD .none)

end VariablePath

end AgenticRuntime
