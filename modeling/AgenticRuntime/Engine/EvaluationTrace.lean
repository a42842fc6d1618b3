/-
The operations that an evaluation applies, one after the other, and the operands
that each of them is defined on.

An evaluation raises exactly where it reaches an operation that is not defined.
-/

import AgenticRuntime.Engine.NodeParts
import AgenticRuntime.Python.Values

namespace AgenticRuntime

open List hiding not_le not_lt

inductive Operation where
  | item (holder key : Operand)
  | arith (op : ArithOp) (left right : Operand)
  | sign (op : SignOp) (value : Operand)
  | compare (op : CmpOp) (left right : Operand)
  | call (func : Operand)
  | hash (value : Operand)
  | unpack

/-! ### Where the operations are defined -/

namespace Operand

def isNumber (value : Operand) : Bool := value.number?.isSome

mutual

def orderable : Operand → Operand → Bool
  | .str _, .str _ => true
  | .bytes _, .bytes _ => true
  | .list left, .list right => orderableItems left right
  | .tuple left, .tuple right => orderableItems left right
  | .set _, .set _ => true
  | left, right => left.isNumber && right.isNumber
termination_by structural left => left

def orderableItems : List Operand → List Operand → Bool
  | [], _ => true
  | _ :: _, [] => true
  | left :: leftRest, right :: rightRest =>
      if left.eq right then orderableItems leftRest rightRest else orderable left right
termination_by structural left => left

end

def searchable (item container : Operand) : Bool :=
  match container with
  | .list _ => true
  | .tuple _ => true
  | .set _ =>
      match item with
      | .set _ => true
      | _ => item.hashable
  | .dict _ => item.hashable
  | .str _ =>
      match item with
      | .str _ => true
      | _ => false
  | .bytes _ =>
      match item with
      | .bytes _ => true
      | other =>
          match other.integer? with
          | some octet => 0 ≤ octet ∧ octet < 256
          | Option.none => false
  | _ => false

def computable (op : ArithOp) (left right : Operand) : Bool :=
  left.isNumber && right.isNumber &&
    match op with
    | .div => right.truthy
    | .mod => right.truthy
    | _ => true

/-- `format` is Python's: what it makes of a text is its own. -/
def combinable (format : Operand → Operand → Except Fault Operand) (op : ArithOp)
    (left right : Operand) : Bool :=
  match op with
  | .mult =>
      match left.sequenceLength?, right.integer? with
      | some length, some count => length * count ≤ maxSequenceMultiply
      | _, _ =>
          match right.sequenceLength?, left.integer? with
          | some length, some count => length * count ≤ maxSequenceMultiply
          | _, _ => computable .mult left right
  | .add =>
      match left, right with
      | .str _, .str _ => true
      | .bytes _, .bytes _ => true
      | .list _, .list _ => true
      | .tuple _, .tuple _ => true
      | _, _ => computable .add left right
  | .sub =>
      match left, right with
      | .set _, .set _ => true
      | _, _ => computable .sub left right
  | .div => computable .div left right
  | .mod =>
      match left with
      | .str _ => (format left right).toOption.isSome
      | .bytes _ => (format left right).toOption.isSome
      | _ => computable .mod left right

end Operand

def Operation.defined (format : Operand → Operand → Except Fault Operand) : Operation → Bool
  | .item holder key =>
      match holder with
      | .dict _ => key.hashable
      | _ => true
  | .arith op left right => Operand.combinable format op left right
  | .sign op value =>
      match op with
      | .not => true
      | _ => value.isNumber
  | .compare op left right =>
      match op with
      | .order _ => left.orderable right
      | .isIn => left.searchable right
      | .notIn => left.searchable right
      | _ => true
  | .call func =>
      match func with
      | .coalesce => true
      | _ => false
  | .hash value => value.hashable
  | .unpack => false

/-! ### What an evaluation applies -/

def onward (result : Except Fault Operand) (next : Operand → List Operation) : List Operation :=
  match result with
  | .ok value => next value
  | .error _ => []

section

variable (identical : Operand → Operand → Bool) (methods : Operand → String → Option Nat)
  (format : Operand → Operand → Except Fault Operand) (env : List (String × Operand))

mutual

/-- The operations in the order in which `_eval_node` applies them. -/
def AstNode.trace : AstNode → List Operation
  | .constant _ => []
  | .name _ => []
  | .attr value _ => value.trace
  | .subscript value slice =>
      value.trace ++ onward (value.eval identical methods format env) fun holder =>
        slice.trace ++ onward (slice.eval identical methods format env) fun key =>
          [.item holder key]
  | .binOp left op right =>
      left.trace ++ onward (left.eval identical methods format env) fun first =>
        right.trace ++ onward (right.eval identical methods format env) fun second =>
          [.arith op first second]
  | .unaryOp op operand =>
      operand.trace ++ onward (operand.eval identical methods format env) fun value =>
        [.sign op value]
  | .and values => traceAllOf values
  | .or values => traceAnyOf values
  | .compare left comparisons =>
      left.trace ++ onward (left.eval identical methods format env) fun first =>
        traceChain first comparisons
  | .call func args =>
      func.trace ++ onward (func.eval identical methods format env) fun callee =>
        .call callee ::
          match callee with
          | .coalesce => traceEach args
          | _ => []
  | .list elts => traceEach elts
  | .tuple elts => traceEach elts
  | .set elts => traceSetOf elts
  | .dict entries => traceDictOf entries

def traceAllOf : List AstNode → List Operation
  | [] => []
  | value :: rest =>
      value.trace ++ onward (value.eval identical methods format env) fun found =>
        if found.truthy then traceAllOf rest else []

def traceAnyOf : List AstNode → List Operation
  | [] => []
  | value :: rest =>
      value.trace ++ onward (value.eval identical methods format env) fun found =>
        if found.truthy then [] else traceAnyOf rest

def traceChain (left : Operand) : List (CmpOp × AstNode) → List Operation
  | [] => []
  | (op, comparator) :: rest =>
      comparator.trace ++ onward (comparator.eval identical methods format env) fun right =>
        .compare op left right ::
          match Operand.compareOp identical op left right with
          | .ok true => traceChain right rest
          | _ => []

def traceEach : List AstNode → List Operation
  | [] => []
  | node :: rest =>
      node.trace ++ onward (node.eval identical methods format env) fun _ => traceEach rest

def traceSetOf : List AstNode → List Operation
  | [] => []
  | node :: rest =>
      node.trace ++ onward (node.eval identical methods format env) fun value =>
        .hash value :: if value.hashable then traceSetOf rest else []

def traceDictOf : List (Option AstNode × AstNode) → List Operation
  | [] => []
  | (none, _) :: _ => [.unpack]
  | (some keyNode, valueNode) :: rest =>
      valueNode.trace ++ onward (valueNode.eval identical methods format env) fun _ =>
        keyNode.trace ++ onward (keyNode.eval identical methods format env) fun key =>
          .hash key :: if key.hashable then traceDictOf rest else []

end

end

/-! ### One operation -/

def Succeeded {α : Type} (result : Except Fault α) : Prop := ∃ value, result = .ok value

theorem succeeded_ok {α : Type} (value : α) : Succeeded (.ok value : Except Fault α) :=
  ⟨value, rfl⟩

theorem not_succeeded_error {α : Type} (fault : Fault) :
    ¬ Succeeded (.error fault : Except Fault α) := by
  intro succeeded
  obtain ⟨value, impossible⟩ := succeeded
  cases impossible

theorem succeeded_map {α β : Type} (result : Except Fault α) (change : α → β) :
    Succeeded (result >>= fun value => pure (change value)) ↔ Succeeded result := by
  cases result with
  | ok value => exact iff_of_true (succeeded_ok _) (succeeded_ok value)
  | error fault => exact iff_of_false (not_succeeded_error fault) (not_succeeded_error fault)

namespace Operand

theorem number_of_integer {value : Operand} {number : Int} (known : value.integer? = some number) :
    value.number? = some (number : ℚ) ∧ (value.truthy = true ↔ number ≠ 0) := by
  cases value with
  | bool held =>
      cases known
      cases held with
      | true | false => exact ⟨rfl, by decide⟩
  | int held =>
      cases known
      exact ⟨rfl, decide_eq_true_iff⟩
  | _ => cases known

theorem truthy_of_number {value : Operand} {number : ℚ} (known : value.number? = some number) :
    value.truthy = true ↔ number ≠ 0 := by
  cases value with
  | bool held =>
      cases known
      cases held with
      | true | false => simp [truthy]
  | int held =>
      cases known
      rw [ne_eq, Int.cast_eq_zero]
      exact decide_eq_true_iff
  | float held =>
      cases known
      exact decide_eq_true_iff
  | _ => cases known

theorem computable_iff {op : ArithOp} {left right : Operand} : computable op left right = true ↔
    left.isNumber = true ∧ right.isNumber = true ∧
      (op = .div ∨ op = .mod → right.truthy = true) := by
  unfold computable
  rw [Bool.and_eq_true, Bool.and_eq_true, and_assoc]
  cases op with
  | add | sub | mult => simp
  | div | mod => simp

theorem arithNumbers_succeeded {op : ArithOp} {left right : Operand} :
    Succeeded (arithNumbers op left right) ↔ computable op left right = true := by
  rw [computable_iff]
  unfold arithNumbers
  split
  · rename_i first second left_known right_known
    have own := number_of_integer left_known
    have other := number_of_integer right_known
    rw [isNumber, isNumber, own.1, other.1, other.2]
    cases op with
    | add | sub | mult => simp [succeeded_ok]
    | div | mod =>
        by_cases zero : second = 0
        · simp [zero, not_succeeded_error]
        · simp [zero, succeeded_ok]
  · split
    · rename_i first second left_known right_known
      rw [isNumber, isNumber, left_known, right_known, truthy_of_number right_known]
      cases op with
      | add | sub | mult => simp [succeeded_ok]
      | div | mod =>
          by_cases zero : second = 0
          · simp [zero, not_succeeded_error]
          · simp [zero, succeeded_ok]
    · rename_i unknown
      apply iff_of_false (not_succeeded_error _)
      intro numbers
      obtain ⟨first, left_known⟩ := Option.isSome_iff_exists.mp numbers.1
      obtain ⟨second, right_known⟩ := Option.isSome_iff_exists.mp numbers.2.1
      exact unknown first second left_known right_known

mutual

theorem order_isSome (op : OrderOp) (left right : Operand) :
    (left.order op right).isSome = left.orderable right := by
  cases left with
  | list items =>
      cases right with
      | list others => exact orderItems_isSome op items others
      | _ => rfl
  | tuple items =>
      cases right with
      | tuple others => exact orderItems_isSome op items others
      | _ => rfl
  | none | missing | bool value | int value | float value | str text | bytes octets | set items
  | dict items | object fields | coalesce | foreign identity =>
      cases right with
      | _ => rfl

theorem orderItems_isSome (op : OrderOp) (left right : List Operand) :
    (orderItems op left right).isSome = orderableItems left right := by
  cases left with
  | nil =>
      cases right with
      | nil | cons item rest => rfl
  | cons first rest =>
      cases right with
      | nil => rfl
      | cons other others =>
          unfold orderItems orderableItems
          split
          · exact orderItems_isSome op rest others
          · exact order_isSome op first other

end

theorem isIn_succeeded {item container : Operand} :
    Succeeded (item.isIn container) ↔ item.searchable container = true := by
  unfold isIn searchable
  cases container with
  | list items | tuple items => exact iff_of_true (succeeded_ok _) rfl
  | set items =>
      cases item with
      | set others => exact iff_of_true (succeeded_ok _) rfl
      | _ =>
          dsimp only
          split
          · rename_i hashed
            exact iff_of_true (succeeded_ok _) hashed
          · rename_i unhashed
            exact iff_of_false (not_succeeded_error _) unhashed
  | dict items =>
      dsimp only
      split
      · rename_i hashed
        exact iff_of_true (succeeded_ok _) hashed
      · rename_i unhashed
        exact iff_of_false (not_succeeded_error _) unhashed
  | str text =>
      cases item with
      | str part => exact iff_of_true (succeeded_ok _) rfl
      | _ => exact iff_of_false (not_succeeded_error _) Bool.false_ne_true
  | bytes octets =>
      cases item with
      | bytes part => exact iff_of_true (succeeded_ok _) rfl
      | bool value =>
          cases value with
          | true | false => simp [integer?, succeeded_ok]
      | int value =>
          dsimp only [integer?]
          split
          · rename_i within
            exact iff_of_true (succeeded_ok _) (decide_eq_true within)
          · rename_i outside
            exact iff_of_false (not_succeeded_error _)
              fun within => outside (of_decide_eq_true within)
      | _ => exact iff_of_false (not_succeeded_error _) Bool.false_ne_true
  | _ => exact iff_of_false (not_succeeded_error _) Bool.false_ne_true

theorem multiply_succeeded {sequence : Operand} {length : Nat} {count : Int} :
    Succeeded (sequence.multiply length count) ↔
      decide (length * count ≤ (maxSequenceMultiply : Int)) = true := by
  rw [decide_eq_true_iff]
  unfold multiply
  split
  · rename_i large
    exact iff_of_false (not_succeeded_error _) (not_le.mpr large)
  · rename_i small
    exact iff_of_true (succeeded_ok _) (not_lt.mp small)

theorem succeeded_iff_toOption {result : Except Fault Operand} :
    Succeeded result ↔ result.toOption.isSome = true := by
  cases result with
  | ok value => exact iff_of_true (succeeded_ok value) rfl
  | error fault => exact iff_of_false (not_succeeded_error fault) Bool.false_ne_true

theorem binOp_succeeded {format : Operand → Operand → Except Fault Operand} {op : ArithOp}
    {left right : Operand} :
    Succeeded (binOp format op left right) ↔ combinable format op left right = true := by
  unfold binOp combinable
  cases op with
  | add =>
      cases left with
      | str first =>
          cases right with
          | str second => exact iff_of_true (succeeded_ok _) rfl
          | _ => exact arithNumbers_succeeded
      | bytes first =>
          cases right with
          | bytes second => exact iff_of_true (succeeded_ok _) rfl
          | _ => exact arithNumbers_succeeded
      | list first =>
          cases right with
          | list second => exact iff_of_true (succeeded_ok _) rfl
          | _ => exact arithNumbers_succeeded
      | tuple first =>
          cases right with
          | tuple second => exact iff_of_true (succeeded_ok _) rfl
          | _ => exact arithNumbers_succeeded
      | _ => exact arithNumbers_succeeded
  | sub =>
      cases left with
      | set first =>
          cases right with
          | set second => exact iff_of_true (succeeded_ok _) rfl
          | _ => exact arithNumbers_succeeded
      | _ => exact arithNumbers_succeeded
  | mult =>
      dsimp only
      cases left.sequenceLength? with
      | some length =>
          cases right.integer? with
          | some count => exact multiply_succeeded
          | none =>
              cases right.sequenceLength? with
              | some other =>
                  cases left.integer? with
                  | some count => exact multiply_succeeded
                  | none => exact arithNumbers_succeeded
              | none => exact arithNumbers_succeeded
      | none =>
          cases right.sequenceLength? with
          | some other =>
              cases left.integer? with
              | some count => exact multiply_succeeded
              | none => exact arithNumbers_succeeded
          | none => exact arithNumbers_succeeded
  | div => exact arithNumbers_succeeded
  | mod =>
      dsimp only
      cases left with
      | str text | bytes octets => exact succeeded_iff_toOption
      | _ => exact arithNumbers_succeeded

theorem unaryOp_succeeded {op : SignOp} {value : Operand} :
    Succeeded (unaryOp op value) ↔ op = .not ∨ value.isNumber = true := by
  unfold unaryOp
  cases op with
  | not => exact iff_of_true (succeeded_ok _) (.inl rfl)
  | negative | positive =>
      rw [or_iff_right nofun]
      cases value with
      | bool held | int held | float held => exact iff_of_true (succeeded_ok _) rfl
      | _ => exact iff_of_false (not_succeeded_error _) Bool.false_ne_true

theorem compareOp_succeeded {identical : Operand → Operand → Bool}
    {format : Operand → Operand → Except Fault Operand} {op : CmpOp} {left right : Operand} :
    Succeeded (compareOp identical op left right) ↔
      (Operation.compare op left right).defined format = true := by
  unfold compareOp Operation.defined
  cases op with
  | eq | notEq | is | isNot => exact iff_of_true (succeeded_ok _) rfl
  | order op =>
      dsimp only
      rw [← order_isSome op]
      cases left.order op right with
      | some answer => exact iff_of_true (succeeded_ok _) rfl
      | none => exact iff_of_false (not_succeeded_error _) Bool.false_ne_true
  | isIn => exact isIn_succeeded
  | notIn =>
      dsimp only
      rw [← isIn_succeeded]
      cases left.isIn right with
      | ok answer => exact iff_of_true (succeeded_ok _) (succeeded_ok _)
      | error fault => exact iff_of_false (not_succeeded_error _) (not_succeeded_error _)

theorem getItem_succeeded {format : Operand → Operand → Except Fault Operand}
    {holder key : Operand} : Succeeded (holder.getItem key) ↔
      (Operation.item holder key).defined format = true := by
  unfold getItem Operation.defined
  cases holder with
  | dict items =>
      dsimp only
      split
      · rename_i hashed
        exact iff_of_true (succeeded_ok _) hashed
      · rename_i unhashed
        exact iff_of_false (not_succeeded_error _) unhashed
  | list items | tuple items =>
      apply iff_of_true _ rfl
      dsimp only
      split
      · split
        · exact succeeded_ok _
        · exact succeeded_ok _
      · exact succeeded_ok _
  | _ => exact iff_of_true (succeeded_ok _) rfl

end Operand

/-! ### A whole evaluation -/

def AllDefined (format : Operand → Operand → Except Fault Operand)
    (operations : List Operation) : Prop :=
  ∀ operation, operation ∈ operations → operation.defined format = true

/-- The node asks for a name that is there, or for an attribute that may be asked for. -/
def AstNode.Resolves (env : List (String × Operand)) : AstNode → Prop
  | .name id => isDunder id = false ∧ lookupField env id ≠ none
  | .attr _ field => isDunder field = false
  | _ => True

section

variable {identical : Operand → Operand → Bool} {methods : Operand → String → Option Nat}
  {format : Operand → Operand → Except Fault Operand} {env : List (String × Operand)}

theorem allDefined_nil : AllDefined format [] := by
  intro operation member
  cases member

theorem allDefined_append {first second : List Operation} :
    AllDefined format (first ++ second) ↔ AllDefined format first ∧ AllDefined format second := by
  unfold AllDefined
  simp only [mem_append, or_imp, forall_and]

theorem allDefined_cons {operation : Operation} {rest : List Operation} :
    AllDefined format (operation :: rest) ↔
      operation.defined format = true ∧ AllDefined format rest := by
  unfold AllDefined
  exact forall_mem_cons

theorem allDefined_singleton {operation : Operation} :
    AllDefined format [operation] ↔ operation.defined format = true := by
  rw [allDefined_cons, and_iff_left allDefined_nil]

theorem bind_succeeded {α : Type} {first : Except Fault Operand} {next : Operand → Except Fault α}
    {operations : List Operation} {later : Operand → List Operation}
    (own : Succeeded first ↔ AllDefined format operations)
    (further : ∀ value, first = .ok value →
      (Succeeded (next value) ↔ AllDefined format (later value))) :
    Succeeded (first >>= next) ↔ AllDefined format (operations ++ onward first later) := by
  rw [allDefined_append, ← own]
  cases first with
  | error fault =>
      apply iff_of_false (not_succeeded_error fault)
      exact fun both => not_succeeded_error fault both.1
  | ok value =>
      rw [and_iff_right (succeeded_ok value)]
      exact further value rfl

/-- The node raises exactly where it reaches an operation that is not defined. -/
def AstNode.Traced (identical : Operand → Operand → Bool)
    (methods : Operand → String → Option Nat)
    (format : Operand → Operand → Except Fault Operand) (env : List (String × Operand))
    (node : AstNode) : Prop :=
  Succeeded (node.eval identical methods format env) ↔
    AllDefined format (node.trace identical methods format env)

variable {nodes : List AstNode}

theorem traceAllOf_iff {start : Operand}
    (traced : ∀ node, node ∈ nodes → node.Traced identical methods format env) :
    Succeeded (evalAllOf identical methods format env start nodes) ↔
      AllDefined format (traceAllOf identical methods format env nodes) := by
  induction nodes generalizing start with
  | nil => exact iff_of_true (succeeded_ok start) allDefined_nil
  | cons node rest ih =>
      apply bind_succeeded (traced node mem_cons_self)
      intro found _
      by_cases holds : found.truthy = true
      · rw [if_pos holds, if_pos holds]
        exact ih fun other member => traced other (mem_cons_of_mem _ member)
      · rw [if_neg holds, if_neg holds]
        exact iff_of_true (succeeded_ok found) allDefined_nil

theorem traceAnyOf_iff {start : Operand}
    (traced : ∀ node, node ∈ nodes → node.Traced identical methods format env) :
    Succeeded (evalAnyOf identical methods format env start nodes) ↔
      AllDefined format (traceAnyOf identical methods format env nodes) := by
  induction nodes generalizing start with
  | nil => exact iff_of_true (succeeded_ok start) allDefined_nil
  | cons node rest ih =>
      apply bind_succeeded (traced node mem_cons_self)
      intro found _
      by_cases holds : found.truthy = true
      · rw [if_pos holds, if_pos holds]
        exact iff_of_true (succeeded_ok found) allDefined_nil
      · rw [if_neg holds, if_neg holds]
        exact ih fun other member => traced other (mem_cons_of_mem _ member)

theorem traceEach_iff (traced : ∀ node, node ∈ nodes → node.Traced identical methods format env) :
    Succeeded (evalEach identical methods format env nodes) ↔
      AllDefined format (traceEach identical methods format env nodes) := by
  induction nodes with
  | nil => exact iff_of_true (succeeded_ok []) allDefined_nil
  | cons node rest ih =>
      apply bind_succeeded (traced node mem_cons_self)
      intro value _
      rw [← ih fun other member => traced other (mem_cons_of_mem _ member)]
      exact succeeded_map _ _

theorem traceChain_iff {comparisons : List (CmpOp × AstNode)} {left : Operand}
    (traced : ∀ node, node ∈ comparisons.map Prod.snd →
      node.Traced identical methods format env) :
    Succeeded (evalChain identical methods format env left comparisons) ↔
      AllDefined format (traceChain identical methods format env left comparisons) := by
  induction comparisons generalizing left with
  | nil => exact iff_of_true (succeeded_ok _) allDefined_nil
  | cons comparison rest ih =>
      obtain ⟨op, comparator⟩ := comparison
      apply bind_succeeded (traced comparator mem_cons_self)
      intro right _
      rw [allDefined_cons]
      have own : Succeeded (Operand.compareOp identical op left right) ↔
          (Operation.compare op left right).defined format = true := Operand.compareOp_succeeded
      rw [← own]
      cases Operand.compareOp identical op left right with
      | error fault =>
          apply iff_of_false (not_succeeded_error fault)
          exact fun both => not_succeeded_error fault both.1
      | ok holds =>
          rw [and_iff_right (succeeded_ok holds)]
          cases holds with
          | true => exact ih fun other member => traced other (mem_cons_of_mem _ member)
          | false => exact iff_of_true (succeeded_ok _) allDefined_nil

theorem traceSetOf_iff {items : List Operand}
    (traced : ∀ node, node ∈ nodes → node.Traced identical methods format env) :
    Succeeded (evalSetOf identical methods format env items nodes) ↔
      AllDefined format (traceSetOf identical methods format env nodes) := by
  induction nodes generalizing items with
  | nil => exact iff_of_true (succeeded_ok _) allDefined_nil
  | cons node rest ih =>
      apply bind_succeeded (traced node mem_cons_self)
      intro value _
      rw [allDefined_cons]
      by_cases hashed : value.hashable = true
      · rw [if_pos hashed, if_pos hashed, ih fun other member =>
          traced other (mem_cons_of_mem _ member)]
        exact (and_iff_right hashed).symm
      · rw [if_neg hashed, if_neg hashed]
        exact iff_of_false (not_succeeded_error _) fun both => hashed both.1

theorem traceDictOf_iff {entries : List (Option AstNode × AstNode)}
    {items : List (Operand × Operand)}
    (traced : ∀ node, node ∈ (AstNode.dict entries).children →
      node.Traced identical methods format env) :
    Succeeded (evalDictOf identical methods format env items entries) ↔
      AllDefined format (traceDictOf identical methods format env entries) := by
  induction entries generalizing items with
  | nil => exact iff_of_true (succeeded_ok _) allDefined_nil
  | cons entry rest ih =>
      obtain ⟨key, valueNode⟩ := entry
      cases key with
      | none =>
          apply iff_of_false (not_succeeded_error _)
          exact fun all => Bool.false_ne_true (all .unpack mem_cons_self)
      | some keyNode =>
          have below : (AstNode.dict ((some keyNode, valueNode) :: rest)).children =
              keyNode :: valueNode :: (AstNode.dict rest).children := rfl
          rw [below] at traced
          apply bind_succeeded (traced valueNode (mem_cons_of_mem _ mem_cons_self))
          intro held _
          apply bind_succeeded (traced keyNode mem_cons_self)
          intro name _
          rw [allDefined_cons]
          by_cases hashed : name.hashable = true
          · rw [if_pos hashed, if_pos hashed, ih fun other member =>
              traced other (mem_cons_of_mem _ (mem_cons_of_mem _ member))]
            exact (and_iff_right hashed).symm
          · rw [if_neg hashed, if_neg hashed]
            exact iff_of_false (not_succeeded_error _) fun both => hashed both.1

def AstNode.Named (env : List (String × Operand)) (node : AstNode) : Prop :=
  ∀ part, AstNode.Part node part → part.Resolves env

theorem AstNode.Named.child {node child : AstNode} (named : node.Named env)
    (below : child ∈ node.children) : child.Named env :=
  fun part within => named part (.inner below within)

theorem AstNode.traced_of_children {node : AstNode} (own : node.Resolves env)
    (traced : ∀ child, child ∈ node.children → child.Traced identical methods format env) :
    node.Traced identical methods format env := by
  unfold Traced
  cases node with
  | constant value => exact iff_of_true (succeeded_ok value) allDefined_nil
  | name id =>
      obtain ⟨plain, held⟩ := own
      obtain ⟨value, known⟩ := Option.ne_none_iff_exists'.mp held
      have evaluated : (AstNode.name id).eval identical methods format env = .ok value := by
        rw [eval, plain, if_neg Bool.false_ne_true, known]
      rw [evaluated]
      exact iff_of_true (succeeded_ok value) allDefined_nil
  | attr holder field =>
      have plain : isDunder field = false := own
      have inner : holder.Traced identical methods format env := traced holder mem_cons_self
      rw [eval, plain, if_neg Bool.false_ne_true]
      exact (succeeded_map _ _).trans inner
  | subscript holder slice =>
      apply bind_succeeded (traced holder mem_cons_self)
      intro value _
      apply bind_succeeded (traced slice (mem_cons_of_mem _ mem_cons_self))
      intro key _
      rw [allDefined_singleton]
      exact Operand.getItem_succeeded
  | binOp left op right =>
      apply bind_succeeded (traced left mem_cons_self)
      intro first _
      apply bind_succeeded (traced right (mem_cons_of_mem _ mem_cons_self))
      intro second _
      rw [allDefined_singleton]
      exact Operand.binOp_succeeded
  | unaryOp op operand =>
      apply bind_succeeded (traced operand mem_cons_self)
      intro value _
      rw [allDefined_singleton, Operand.unaryOp_succeeded]
      cases op with
      | not => exact iff_of_true (.inl rfl) rfl
      | negative | positive => exact or_iff_right nofun
  | and values => exact traceAllOf_iff traced
  | or values => exact traceAnyOf_iff traced
  | compare left comparisons =>
      apply bind_succeeded (traced left mem_cons_self)
      intro first _
      exact traceChain_iff fun node member => traced node (mem_cons_of_mem _ member)
  | call func args =>
      apply bind_succeeded (traced func mem_cons_self)
      intro callee _
      rw [allDefined_cons]
      cases callee with
      | coalesce =>
          have each := traceEach_iff fun node member => traced node (mem_cons_of_mem _ member)
          have called : (Operation.call .coalesce).defined format = true := rfl
          rw [and_iff_right called]
          exact (succeeded_map _ _).trans each
      | _ => exact iff_of_false (not_succeeded_error _) fun both => Bool.false_ne_true both.1
  | list elts | tuple elts => exact (succeeded_map _ _).trans (traceEach_iff traced)
  | set elts => exact traceSetOf_iff traced
  | dict entries => exact traceDictOf_iff traced

theorem AstNode.Named.traced {node : AstNode} (named : node.Named env) :
    node.Traced identical methods format env := by
  induction node using AstNode.induct with
  | step node ih =>
      apply traced_of_children (named node (.whole node))
      exact fun child below => ih child below (named.child below)

end

end AgenticRuntime
