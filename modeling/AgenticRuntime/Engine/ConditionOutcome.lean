/-
Whether a condition comes to a truth value, and what it makes of missing data.

`_NullSafe` has an equality and attributes of its own, and nothing else: where an
operation without a meaning for it is reached, the error leaves `evaluate`, since the
fallback is for expressions that do not parse.
-/

import AgenticRuntime.Engine.Validation

namespace AgenticRuntime

open List Operand

/-! ### Comparisons over missing values -/

namespace Operand

def isMissing : Operand → Bool
  | .missing => true
  | _ => false

/-- `None` or missing: the two are equal. -/
def isAbsent : Operand → Bool
  | .none => true
  | .missing => true
  | _ => false

theorem missing_eq (value : Operand) : missing.eq value = value.isAbsent := by
  cases value with
  | _ => rfl

theorem eq_missing (value : Operand) : value.eq .missing = value.isAbsent := by
  cases value with
  | _ => rfl

theorem orderable_missing {left right : Operand}
    (missing : left.isMissing = true ∨ right.isMissing = true) :
    left.orderable right = false := by
  rcases missing with own | other
  · cases left with
    | missing =>
        cases right with
        | _ => rfl
    | _ => cases own
  · cases right with
    | missing =>
        cases left with
        | _ => rfl
    | _ => cases other

def holdsAbsent : Operand → Bool
  | .list items => items.any isAbsent
  | .tuple items => items.any isAbsent
  | .set items => items.any isAbsent
  | .dict items => items.any fun entry => entry.1.isAbsent
  | _ => false

theorem missing_isIn {container : Operand} (asked : missing.searchable container = true) :
    missing.isIn container = .ok container.holdsAbsent := by
  have same : missing.eq = isAbsent := funext missing_eq
  cases container with
  | list items | tuple items | set items =>
      change Except.ok (items.any missing.eq) = _
      rw [same]
      rfl
  | dict items =>
      change Except.ok (items.any fun entry => missing.eq entry.1) = _
      rw [same]
      rfl
  | _ => cases asked

end Operand

namespace Operation

variable (identical : Operand → Operand → Bool)

/-- Over a missing value, `not in` and `!=` are true and the other comparisons are false. -/
def Follows : Operation → Prop
  | .compare op left right => left.isMissing = true ∨ right.isMissing = true →
      compareOp identical op left right = .ok (decide (op = .notIn ∨ op = .notEq))
  | _ => True

/-- The other operand is neither `None` nor missing and holds neither, and for `is` it is another
object. -/
def apart : Operation → Bool
  | .compare op left right =>
      if left.isMissing || right.isMissing then
        match op with
        | .eq => !(left.isAbsent && right.isAbsent)
        | .notEq => !(left.isAbsent && right.isAbsent)
        | .is => !identical left right
        | .isNot => identical left right
        | .order _ => true
        | .isIn => !right.holdsAbsent
        | .notIn => !right.holdsAbsent
      else true
  | _ => true

def fits (format : Operand → Operand → Except Fault Operand) (operation : Operation) : Bool :=
  operation.defined format && operation.apart identical

end Operation

section

variable {identical : Operand → Operand → Bool}
  {format : Operand → Operand → Except Fault Operand}

theorem Operand.eq_of_missing {left right : Operand}
    (missing : left.isMissing = true ∨ right.isMissing = true) :
    left.eq right = (left.isAbsent && right.isAbsent) := by
  rcases missing with own | other
  · cases left with
    | missing => exact missing_eq right
    | _ => cases own
  · cases right with
    | missing => exact (eq_missing left).trans (Bool.and_true _).symm
    | _ => cases other

theorem Operand.isIn_of_missing {left right : Operand}
    (missing : left.isMissing = true ∨ right.isMissing = true)
    (asked : left.searchable right = true) : left.isIn right = .ok right.holdsAbsent := by
  rcases missing with own | other
  · cases left with
    | missing => exact missing_isIn asked
    | _ => cases own
  · cases right with
    | missing => cases asked
    | _ => cases other

theorem Operation.follows_iff {operation : Operation} (sound : operation.defined format = true) :
    operation.Follows identical ↔ operation.apart identical = true := by
  cases operation with
  | item holder key | arith op left right | sign op value | call func | hash value | unpack =>
      exact iff_of_true trivial rfl
  | compare op left right =>
      unfold Follows apart
      dsimp only
      by_cases missing : left.isMissing = true ∨ right.isMissing = true
      · rw [if_pos ((Bool.or_eq_true _ _).mpr missing), forall_prop_of_true missing]
        cases op with
        | eq | notEq =>
            rw [← eq_of_missing missing]
            simp [compareOp]
        | order op =>
            have never : left.orderable right = true := sound
            rw [orderable_missing missing] at never
            cases never
        | is | isNot => simp [compareOp]
        | isIn | notIn =>
            have found := isIn_of_missing missing sound
            simp [compareOp, found, Except.map]
      · rw [if_neg fun either => missing ((Bool.or_eq_true _ _).mp either)]
        exact iff_of_true (fun either => absurd either missing) rfl

end

/-! ### Only parsing fails as parsing -/

def Parsed {α : Type} (result : Except Fault α) : Prop := result ≠ .error .syntaxError

def Fault.isSyntax : Fault → Bool
  | .syntaxError => true
  | _ => false

theorem parsed_ok {α : Type} (value : α) : Parsed (.ok value : Except Fault α) := by
  intro same
  cases same

theorem parsed_error {α : Type} {fault : Fault} (other : fault.isSyntax = false) :
    Parsed (.error fault : Except Fault α) := by
  intro same
  cases same
  cases other

theorem parsed_bind {α β : Type} {first : Except Fault α} {next : α → Except Fault β}
    (own : Parsed first) (further : ∀ value, Parsed (next value)) : Parsed (first >>= next) := by
  cases first with
  | ok value => exact further value
  | error fault =>
      intro same
      exact own (by injection same with equal; rw [equal])

theorem parsed_map {α β : Type} {result : Except Fault α} (own : Parsed result)
    (change : α → β) : Parsed (result >>= fun value => pure (change value)) :=
  parsed_bind own fun value => parsed_ok (change value)

namespace Operand

theorem arithNumbers_parsed (op : ArithOp) (left right : Operand) :
    Parsed (arithNumbers op left right) := by
  unfold arithNumbers
  split
  · cases op with
    | add | sub | mult => exact parsed_ok _
    | div | mod =>
        dsimp only
        split
        · exact parsed_error rfl
        · exact parsed_ok _
  · split
    · cases op with
      | add | sub | mult => exact parsed_ok _
      | div | mod =>
          dsimp only
          split
          · exact parsed_error rfl
          · exact parsed_ok _
    · exact parsed_error rfl

theorem multiply_parsed (sequence : Operand) (length : Nat) (count : Int) :
    Parsed (sequence.multiply length count) := by
  unfold multiply
  split
  · exact parsed_error rfl
  · exact parsed_ok _

/-- `format` is Python's `%`, which parses nothing. -/
theorem binOp_parsed {format : Operand → Operand → Except Fault Operand}
    (formatted : ∀ left right, Parsed (format left right)) (op : ArithOp)
    (left right : Operand) : Parsed (binOp format op left right) := by
  unfold binOp
  cases op with
  | add | sub =>
      dsimp only
      split
      all_goals first | exact parsed_ok _ | exact arithNumbers_parsed _ left right
  | mult =>
      dsimp only
      split
      · exact multiply_parsed _ _ _
      · split
        · exact multiply_parsed _ _ _
        · exact arithNumbers_parsed _ left right
  | div => exact arithNumbers_parsed _ left right
  | mod =>
      dsimp only
      split
      · exact formatted _ right
      · exact formatted _ right
      · exact arithNumbers_parsed _ left right

theorem unaryOp_parsed (op : SignOp) (value : Operand) : Parsed (unaryOp op value) := by
  unfold unaryOp
  cases op with
  | not => exact parsed_ok _
  | negative | positive =>
      dsimp only
      split
      · exact parsed_ok _
      · split
        · exact parsed_ok _
        · exact parsed_error rfl

theorem isIn_parsed (item container : Operand) : Parsed (item.isIn container) := by
  unfold isIn
  split
  · exact parsed_ok _
  · exact parsed_ok _
  · split
    · exact parsed_ok _
    · split
      · exact parsed_ok _
      · exact parsed_error rfl
  · split
    · exact parsed_ok _
    · exact parsed_error rfl
  · split
    · exact parsed_ok _
    · exact parsed_error rfl
  · split
    · exact parsed_ok _
    · split
      · split
        · exact parsed_ok _
        · exact parsed_error rfl
      · exact parsed_error rfl
  · exact parsed_error rfl

theorem compareOp_parsed (identical : Operand → Operand → Bool) (op : CmpOp)
    (left right : Operand) : Parsed (compareOp identical op left right) := by
  unfold compareOp
  cases op with
  | eq | notEq | is | isNot => exact parsed_ok _
  | order op =>
      dsimp only
      split
      · exact parsed_ok _
      · exact parsed_error rfl
  | isIn => exact isIn_parsed left right
  | notIn => exact parsed_map (isIn_parsed left right) not

theorem getItem_parsed (holder key : Operand) : Parsed (holder.getItem key) := by
  unfold getItem
  split
  · split
    · exact parsed_ok _
    · exact parsed_error rfl
  · split
    · split
      · exact parsed_ok _
      · exact parsed_ok _
    · exact parsed_ok _
  · split
    · split
      · exact parsed_ok _
      · exact parsed_ok _
    · exact parsed_ok _
  · exact parsed_ok _

end Operand

section

variable {identical : Operand → Operand → Bool} {methods : Operand → String → Option Nat}
  {format : Operand → Operand → Except Fault Operand} {env : List (String × Operand)}

variable {nodes : List AstNode}

theorem evalAllOf_parsed
    (each : ∀ node, node ∈ nodes → Parsed (node.eval identical methods format env))
    (result : Operand) : Parsed (evalAllOf identical methods format env result nodes) := by
  induction nodes generalizing result with
  | nil => exact parsed_ok result
  | cons node rest ih =>
      apply parsed_bind (each node mem_cons_self)
      intro found
      split
      · exact ih (fun other member => each other (mem_cons_of_mem _ member)) found
      · exact parsed_ok found

theorem evalAnyOf_parsed
    (each : ∀ node, node ∈ nodes → Parsed (node.eval identical methods format env))
    (result : Operand) : Parsed (evalAnyOf identical methods format env result nodes) := by
  induction nodes generalizing result with
  | nil => exact parsed_ok result
  | cons node rest ih =>
      apply parsed_bind (each node mem_cons_self)
      intro found
      split
      · exact parsed_ok found
      · exact ih (fun other member => each other (mem_cons_of_mem _ member)) found

theorem evalChain_parsed {comparisons : List (CmpOp × AstNode)}
    (each : ∀ node, node ∈ comparisons.map Prod.snd →
      Parsed (node.eval identical methods format env)) (left : Operand) :
    Parsed (evalChain identical methods format env left comparisons) := by
  induction comparisons generalizing left with
  | nil => exact parsed_ok _
  | cons comparison rest ih =>
      apply parsed_bind (each comparison.2 mem_cons_self)
      intro right
      apply parsed_bind (compareOp_parsed identical comparison.1 left right)
      intro holds
      split
      · exact ih (fun other member => each other (mem_cons_of_mem _ member)) right
      · exact parsed_ok _

theorem evalEach_parsed
    (each : ∀ node, node ∈ nodes → Parsed (node.eval identical methods format env)) :
    Parsed (evalEach identical methods format env nodes) := by
  induction nodes with
  | nil => exact parsed_ok []
  | cons node rest ih =>
      apply parsed_bind (each node mem_cons_self)
      intro value
      exact parsed_map (ih fun other member => each other (mem_cons_of_mem _ member)) _

theorem evalSetOf_parsed
    (each : ∀ node, node ∈ nodes → Parsed (node.eval identical methods format env))
    (items : List Operand) : Parsed (evalSetOf identical methods format env items nodes) := by
  induction nodes generalizing items with
  | nil => exact parsed_ok _
  | cons node rest ih =>
      apply parsed_bind (each node mem_cons_self)
      intro value
      split
      · exact ih (fun other member => each other (mem_cons_of_mem _ member)) _
      · exact parsed_error rfl

theorem evalDictOf_parsed {entries : List (Option AstNode × AstNode)}
    (each : ∀ node, node ∈ (AstNode.dict entries).children →
      Parsed (node.eval identical methods format env)) (items : List (Operand × Operand)) :
    Parsed (evalDictOf identical methods format env items entries) := by
  induction entries generalizing items with
  | nil => exact parsed_ok _
  | cons entry rest ih =>
      obtain ⟨key, valueNode⟩ := entry
      cases key with
      | none => exact parsed_error rfl
      | some keyNode =>
          have below : (AstNode.dict ((some keyNode, valueNode) :: rest)).children =
              keyNode :: valueNode :: (AstNode.dict rest).children := rfl
          rw [below] at each
          apply parsed_bind (each valueNode (mem_cons_of_mem _ mem_cons_self))
          intro value
          apply parsed_bind (each keyNode mem_cons_self)
          intro name
          split
          · exact ih (fun other member =>
              each other (mem_cons_of_mem _ (mem_cons_of_mem _ member))) _
          · exact parsed_error rfl

theorem AstNode.eval_parsed (formatted : ∀ left right, Parsed (format left right))
    (node : AstNode) : Parsed (node.eval identical methods format env) := by
  induction node using AstNode.induct with
  | step node ih =>
      cases node with
      | constant value => exact parsed_ok value
      | name id =>
          unfold eval
          split
          · exact parsed_error rfl
          · split
            · exact parsed_ok _
            · exact parsed_error rfl
      | attr holder field =>
          unfold eval
          split
          · exact parsed_error rfl
          · exact parsed_map (ih holder mem_cons_self) _
      | subscript holder slice =>
          apply parsed_bind (ih holder mem_cons_self)
          intro value
          apply parsed_bind (ih slice (mem_cons_of_mem _ mem_cons_self))
          exact getItem_parsed value
      | binOp left op right =>
          apply parsed_bind (ih left mem_cons_self)
          intro first
          apply parsed_bind (ih right (mem_cons_of_mem _ mem_cons_self))
          exact binOp_parsed formatted op first
      | unaryOp op operand =>
          apply parsed_bind (ih operand mem_cons_self)
          exact unaryOp_parsed op
      | and values => exact evalAllOf_parsed ih _
      | or values => exact evalAnyOf_parsed ih _
      | compare left comparisons =>
          apply parsed_bind (ih left mem_cons_self)
          exact evalChain_parsed fun node member => ih node (mem_cons_of_mem _ member)
      | call func args =>
          apply parsed_bind (ih func mem_cons_self)
          intro callee
          have each : Parsed (evalEach identical methods format env args) :=
            evalEach_parsed fun node member => ih node (mem_cons_of_mem _ member)
          split
          · exact parsed_map each _
          · exact parsed_error rfl
      | list elts | tuple elts => exact parsed_map (evalEach_parsed ih) _
      | set elts => exact evalSetOf_parsed ih []
      | dict entries => exact evalDictOf_parsed ih []

end

end AgenticRuntime
