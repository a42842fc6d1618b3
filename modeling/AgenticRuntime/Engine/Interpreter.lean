/-
The interpreter behind `${...}`: the nodes that `_validate_ast` lets through, the
values they come to and `_eval_node` on all of them.

Floats are the rationals they denote. Other objects are known by their fields, or
by an identity alone. `methods` says which names a built-in value has as methods,
and `format` is what `%` makes of a string or of bytes on its left.
-/

import AgenticRuntime.Engine.Expressions
import Mathlib.Data.Rat.Floor

namespace AgenticRuntime

/-- A value of the interpreter; `missing` is `_NullSafe`, and an `object` a namespace. -/
inductive Operand where
  | none
  | missing
  | bool (value : Bool)
  | int (value : Int)
  | float (value : ℚ)
  | str (text : String)
  | bytes (octets : List UInt8)
  | list (items : List Operand)
  | tuple (items : List Operand)
  | set (items : List Operand)
  | dict (items : List (Operand × Operand))
  | object (fields : List (String × Operand))
  | coalesce
  | foreign (identity : Nat)
  deriving Repr

inductive Fault where
  | dunderName (name : String)
  | undefinedName (name : String)
  | dunderAttribute (name : String)
  | multiplyTooLarge (size : Int)
  | notCoalesce
  | dictUnpacking
  | byteRange
  | typeError
  | zeroDivision
  | syntaxError
  | unformatted
  deriving DecidableEq, Repr

/-- The text of an error that the source words itself, as far as it does not hold a `repr`. -/
def Fault.message : Fault → String
  | .dunderName name => s!"Dunder name reference is not allowed: '{name}'"
  | .undefinedName name => s!"name '{name}' is not defined"
  | .dunderAttribute name => s!"Dunder attribute access is not allowed: '{name}'"
  | .multiplyTooLarge size => s!"Sequence multiply exceeds maximum allowed size ({size} > 10000)"
  | .notCoalesce => "Only coalesce() may be called in expressions; got "
  | .dictUnpacking => "dict unpacking (**) is not supported in expressions"
  | .byteRange => "byte must be in range(0, 256)"
  | .typeError => ""
  | .zeroDivision => "division by zero"
  | .syntaxError => ""
  | .unformatted => ""

namespace Operand

/-- `bool(value)` -/
def truthy : Operand → Bool
  | .none => false
  | .missing => false
  | .bool value => value
  | .int value => value ≠ 0
  | .float value => value ≠ 0
  | .str text => text ≠ ""
  | .bytes octets => !octets.isEmpty
  | .list items => !items.isEmpty
  | .tuple items => !items.isEmpty
  | .set items => !items.isEmpty
  | .dict items => !items.isEmpty
  | .object _ => true
  | .coalesce => true
  | .foreign _ => true

/-- `isinstance(value, int)`, which a bool is too. -/
def integer? : Operand → Option Int
  | .bool value => some (if value then 1 else 0)
  | .int value => some value
  | _ => Option.none

def number? : Operand → Option ℚ
  | .bool value => some (if value then 1 else 0)
  | .int value => some value
  | .float value => some value
  | _ => Option.none

mutual

/-- `left == right` -/
def eq : Operand → Operand → Bool
  | .none, .none => true
  | .none, .missing => true
  | .missing, .none => true
  | .missing, .missing => true
  | .str left, .str right => left = right
  | .bytes left, .bytes right => left = right
  | .list left, .list right => eqItems left right
  | .tuple left, .tuple right => eqItems left right
  | .set left, .set right => left.length = right.length && subset left right
  | .dict left, .dict right => left.length = right.length && subEntries left right
  | .object left, .object right => left.length = right.length && subFields left right
  | .coalesce, .coalesce => true
  | .foreign left, .foreign right => left = right
  | left, right =>
      match left.number?, right.number? with
      | some first, some second => first = second
      | _, _ => false
termination_by structural left => left

def eqItems : List Operand → List Operand → Bool
  | [], [] => true
  | left :: leftRest, right :: rightRest => eq left right && eqItems leftRest rightRest
  | _, _ => false
termination_by structural left => left

def subset : List Operand → List Operand → Bool
  | [], _ => true
  | left :: rest, right => right.any (fun item => eq left item) && subset rest right
termination_by structural left => left

def subEntries : List (Operand × Operand) → List (Operand × Operand) → Bool
  | [], _ => true
  | (key, value) :: rest, right =>
      right.any (fun item => eq key item.1 && eq value item.2) && subEntries rest right
termination_by structural left => left

def subFields : List (String × Operand) → List (String × Operand) → Bool
  | [], _ => true
  | (name, value) :: rest, right =>
      right.any (fun item => name = item.1 && eq value item.2) && subFields rest right
termination_by structural left => left

end

mutual

def hashable : Operand → Bool
  | .list _ => false
  | .set _ => false
  | .dict _ => false
  | .object _ => false
  | .tuple items => hashableItems items
  | _ => true

def hashableItems : List Operand → Bool
  | [] => true
  | item :: rest => hashable item && hashableItems rest

end

def orderSets (op : OrderOp) (left right : List Operand) : Bool :=
  match op with
  | .lt => subset left right && left.length < right.length
  | .le => subset left right
  | .gt => subset right left && right.length < left.length
  | .ge => subset right left

mutual

/-- `left < right` and its kin; `none` is a `TypeError`. -/
def order (op : OrderOp) : Operand → Operand → Option Bool
  | .str left, .str right => some (op.holds (compare left right))
  | .bytes left, .bytes right =>
      some (op.holds (compare (left.map UInt8.toNat) (right.map UInt8.toNat)))
  | .list left, .list right => orderItems op left right
  | .tuple left, .tuple right => orderItems op left right
  | .set left, .set right => some (orderSets op left right)
  | left, right =>
      match left.number?, right.number? with
      | some first, some second => some (op.holds (compareNumbers first second))
      | _, _ => Option.none
termination_by structural left => left

def orderItems (op : OrderOp) : List Operand → List Operand → Option Bool
  | [], [] => some (op.holds .eq)
  | [], _ :: _ => some (op.holds .lt)
  | _ :: _, [] => some (op.holds .gt)
  | left :: leftRest, right :: rightRest =>
      if left.eq right then orderItems op leftRest rightRest else left.order op right
termination_by structural left => left

end

/-- `item in container`; a set looks for a set by its elements. -/
def isIn (item container : Operand) : Except Fault Bool :=
  match container with
  | .list items => .ok (items.any item.eq)
  | .tuple items => .ok (items.any item.eq)
  | .set items =>
      match item with
      | .set _ => .ok (items.any item.eq)
      | _ => if item.hashable then .ok (items.any item.eq) else .error .typeError
  | .dict items =>
      if item.hashable then .ok (items.any fun entry => item.eq entry.1) else .error .typeError
  | .str text =>
      match item with
      | .str part => .ok (decide (part.toList <:+: text.toList))
      | _ => .error .typeError
  | .bytes octets =>
      match item with
      | .bytes part => .ok (decide (part <:+: octets))
      | other =>
          match other.integer? with
          | some octet =>
              if 0 ≤ octet ∧ octet < 256 then .ok (octets.any fun own => own.toNat = octet.toNat)
              else .error .byteRange
          | Option.none => .error .typeError
  | _ => .error .typeError

/-- `dict.get(key)` -/
def valueAt? (key : Operand) : List (Operand × Operand) → Option Operand
  | [] => Option.none
  | (present, value) :: rest => if present.eq key then some value else valueAt? key rest

/-- `result_dict[key] = value` -/
def setEntry (key value : Operand) : List (Operand × Operand) → List (Operand × Operand)
  | [] => [(key, value)]
  | (present, old) :: rest =>
      if present.eq key then (present, value) :: rest
      else (present, old) :: setEntry key value rest

end Operand

/-! ### The operators -/

/-- `_BINOP_OPS` -/
inductive ArithOp where
  | add
  | sub
  | mult
  | div
  | mod
  deriving DecidableEq, Repr

/-- `_UNARYOP_OPS` -/
inductive SignOp where
  | negative
  | positive
  | not
  deriving DecidableEq, Repr

def maxSequenceMultiply : Nat := 10000

namespace Operand

/-- `len(value)` of a string, bytes, a list or a tuple. -/
def sequenceLength? : Operand → Option Nat
  | .str text => some text.toList.length
  | .bytes octets => some octets.length
  | .list items => some items.length
  | .tuple items => some items.length
  | _ => Option.none

def repeatItems {α : Type} (items : List α) (count : Int) : List α :=
  (List.replicate count.toNat items).flatten

/-- `value * count` of a sequence. -/
def repeated (count : Int) : Operand → Operand
  | .str text => .str (String.ofList (repeatItems text.toList count))
  | .bytes octets => .bytes (repeatItems octets count)
  | .list items => .list (repeatItems items count)
  | .tuple items => .tuple (repeatItems items count)
  | value => value

/-- `left op right` on numbers. -/
def arithNumbers (op : ArithOp) (left right : Operand) : Except Fault Operand :=
  match left.integer?, right.integer? with
  | some first, some second =>
      match op with
      | .add => .ok (.int (first + second))
      | .sub => .ok (.int (first - second))
      | .mult => .ok (.int (first * second))
      | .div => if second = 0 then .error .zeroDivision else .ok (.float (first / second))
      | .mod => if second = 0 then .error .zeroDivision else .ok (.int (first.fmod second))
  | _, _ =>
      match left.number?, right.number? with
      | some first, some second =>
          match op with
          | .add => .ok (.float (first + second))
          | .sub => .ok (.float (first - second))
          | .mult => .ok (.float (first * second))
          | .div => if second = 0 then .error .zeroDivision else .ok (.float (first / second))
          | .mod =>
              if second = 0 then .error .zeroDivision
              else .ok (.float (first - second * (first / second).floor))
      | _, _ => .error .typeError

def multiply (sequence : Operand) (length : Nat) (count : Int) : Except Fault Operand :=
  if length * count > maxSequenceMultiply then .error (.multiplyTooLarge (length * count))
  else .ok (sequence.repeated count)

def binOp (format : Operand → Operand → Except Fault Operand) (op : ArithOp)
    (left right : Operand) : Except Fault Operand :=
  match op with
  | .mult =>
      match left.sequenceLength?, right.integer? with
      | some length, some count => left.multiply length count
      | _, _ =>
          match right.sequenceLength?, left.integer? with
          | some length, some count => right.multiply length count
          | _, _ => arithNumbers .mult left right
  | .add =>
      match left, right with
      | .str first, .str second => .ok (.str (first ++ second))
      | .bytes first, .bytes second => .ok (.bytes (first ++ second))
      | .list first, .list second => .ok (.list (first ++ second))
      | .tuple first, .tuple second => .ok (.tuple (first ++ second))
      | _, _ => arithNumbers .add left right
  | .sub =>
      match left, right with
      | .set first, .set second => .ok (.set (first.filter fun item => !second.any item.eq))
      | _, _ => arithNumbers .sub left right
  | .div => arithNumbers .div left right
  | .mod =>
      match left with
      | .str _ => format left right
      | .bytes _ => format left right
      | _ => arithNumbers .mod left right

def unaryOp (op : SignOp) (value : Operand) : Except Fault Operand :=
  match op with
  | .not => .ok (.bool !value.truthy)
  | .negative =>
      match value with
      | .float number => .ok (.float (-number))
      | _ =>
          match value.integer? with
          | some number => .ok (.int (-number))
          | Option.none => .error .typeError
  | .positive =>
      match value with
      | .float number => .ok (.float number)
      | _ =>
          match value.integer? with
          | some number => .ok (.int number)
          | Option.none => .error .typeError

/-- `_CMPOP_OPS` -/
def compareOp (identical : Operand → Operand → Bool) (op : CmpOp) (left right : Operand) :
    Except Fault Bool :=
  match op with
  | .eq => .ok (left.eq right)
  | .notEq => .ok (!left.eq right)
  | .order op =>
      match left.order op right with
      | some answer => .ok answer
      | Option.none => .error .typeError
  | .is => .ok (identical left right)
  | .isNot => .ok (!identical left right)
  | .isIn => left.isIn right
  | .notIn => (left.isIn right).map not

/-- `getattr(value, name, _NullSafe())`, or `get` on a dict. -/
def getAttribute (methods : Operand → String → Option Nat) (value : Operand) (name : String) :
    Operand :=
  match value with
  | .dict items => (valueAt? (.str name) items).getD .missing
  | .object fields => (lookupField fields name).getD .missing
  | .missing => .missing
  | value =>
      match methods value name with
      | some identity => .foreign identity
      | Option.none =>
          match value.integer?, value with
          | some number, _ =>
              if name = "real" ∨ name = "numerator" then .int number
              else if name = "imag" then .int 0
              else if name = "denominator" then .int 1
              else .missing
          | Option.none, .float number =>
              if name = "real" then .float number
              else if name = "imag" then .float 0
              else .missing
          | Option.none, _ => .missing

/-- `value[key]`: nothing but dicts, lists and tuples has items. -/
def getItem (value key : Operand) : Except Fault Operand :=
  match value with
  | .dict items =>
      if key.hashable then .ok ((valueAt? key items).getD .missing) else .error .typeError
  | .list items | .tuple items =>
      match key.integer? with
      | some index =>
          if 0 ≤ index ∧ index < items.length then .ok (items.getD index.toNat .missing)
          else .ok .missing
      | Option.none => .ok .missing
  | _ => .ok .missing

/-- `_coalesce` -/
def firstPresent : List Operand → Operand
  | [] => .none
  | .none :: rest => firstPresent rest
  | .missing :: rest => firstPresent rest
  | value :: _ => value

end Operand

/-! ### The nodes -/

/-- A node of a syntax tree that the whitelist has nothing against. -/
inductive AstNode where
  | constant (value : Operand)
  | name (id : String)
  | attr (value : AstNode) (field : String)
  | subscript (value slice : AstNode)
  | binOp (left : AstNode) (op : ArithOp) (right : AstNode)
  | unaryOp (op : SignOp) (operand : AstNode)
  | and (values : List AstNode)
  | or (values : List AstNode)
  | compare (left : AstNode) (comparisons : List (CmpOp × AstNode))
  | call (func : AstNode) (args : List AstNode)
  | list (elts : List AstNode)
  | tuple (elts : List AstNode)
  | set (elts : List AstNode)
  | dict (entries : List (Option AstNode × AstNode))

def isDunder (name : String) : Bool := "__".toList.isPrefixOf name.toList

section

variable (identical : Operand → Operand → Bool) (methods : Operand → String → Option Nat)
  (format : Operand → Operand → Except Fault Operand) (env : List (String × Operand))

mutual

/-- `_eval_node` -/
def AstNode.eval : AstNode → Except Fault Operand
  | .constant value => .ok value
  | .name id =>
      if isDunder id then .error (.dunderName id)
      else
        match lookupField env id with
        | some value => .ok value
        | none => .error (.undefinedName id)
  | .attr value field =>
      if isDunder field then .error (.dunderAttribute field)
      else do return (← value.eval).getAttribute methods field
  | .subscript value slice => do
      let holder ← value.eval
      let key ← slice.eval
      holder.getItem key
  | .binOp left op right => do
      let first ← left.eval
      let second ← right.eval
      Operand.binOp format op first second
  | .unaryOp op operand => do Operand.unaryOp op (← operand.eval)
  | .and values => evalAllOf (.bool true) values
  | .or values => evalAnyOf (.bool false) values
  | .compare left comparisons => do evalChain (← left.eval) comparisons
  | .call func args => do
      match ← func.eval with
      | .coalesce => return Operand.firstPresent (← evalEach args)
      | _ => .error .notCoalesce
  | .list elts => do return .list (← evalEach elts)
  | .tuple elts => do return .tuple (← evalEach elts)
  | .set elts => evalSetOf [] elts
  | .dict entries => evalDictOf [] entries

def evalAllOf (result : Operand) : List AstNode → Except Fault Operand
  | [] => .ok result
  | value :: rest => do
      let found ← value.eval
      if found.truthy then evalAllOf found rest else return found

def evalAnyOf (result : Operand) : List AstNode → Except Fault Operand
  | [] => .ok result
  | value :: rest => do
      let found ← value.eval
      if found.truthy then return found else evalAnyOf found rest

def evalChain (left : Operand) : List (CmpOp × AstNode) → Except Fault Operand
  | [] => .ok (.bool true)
  | (op, comparator) :: rest => do
      let right ← comparator.eval
      if ← Operand.compareOp identical op left right then evalChain right rest
      else return .bool false

def evalEach : List AstNode → Except Fault (List Operand)
  | [] => .ok []
  | node :: rest => do
      let value ← node.eval
      let values ← evalEach rest
      return value :: values

def evalSetOf (items : List Operand) : List AstNode → Except Fault Operand
  | [] => .ok (.set items)
  | node :: rest => do
      let value ← node.eval
      if value.hashable then
        evalSetOf (if items.any value.eq then items else items ++ [value]) rest
      else .error .typeError

def evalDictOf (items : List (Operand × Operand)) :
    List (Option AstNode × AstNode) → Except Fault Operand
  | [] => .ok (.dict items)
  | (none, _) :: _ => .error .dictUnpacking
  | (some keyNode, valueNode) :: rest => do
      let value ← valueNode.eval
      let key ← keyNode.eval
      if key.hashable then evalDictOf (Operand.setEntry key value items) rest
      else .error .typeError

end

end

end AgenticRuntime
