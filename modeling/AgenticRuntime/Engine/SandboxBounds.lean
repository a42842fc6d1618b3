/-
How long a sequence the interpreter can build.

Every operator but the multiplication makes at most as much as it is given, and the
multiplication at most what its guard allows; so the parts of an expression add up.
-/

import AgenticRuntime.Engine.NodeParts
import AgenticRuntime.Python.Values

namespace AgenticRuntime

open List hiding max_le_iff
open Python
open Operand

/-! ### The longest sequence in a value -/

namespace Operand

mutual

def widest : Operand → Nat
  | .str text => text.toList.length
  | .bytes octets => octets.length
  | .list items => max items.length (widestEach items)
  | .tuple items => max items.length (widestEach items)
  | .set items => widestEach items
  | .dict items => widestEntries items
  | .object fields => widestFields fields
  | _ => 0

def widestEach : List Operand → Nat
  | [] => 0
  | item :: rest => max item.widest (widestEach rest)

def widestEntries : List (Operand × Operand) → Nat
  | [] => 0
  | (key, value) :: rest => max (max key.widest value.widest) (widestEntries rest)

def widestFields : List (String × Operand) → Nat
  | [] => 0
  | (_, value) :: rest => max value.widest (widestFields rest)

end

variable {bound : Nat}

theorem widestEach_le {items : List Operand} :
    widestEach items ≤ bound ↔ ∀ item, item ∈ items → item.widest ≤ bound := by
  induction items with
  | nil => simp [widestEach]
  | cons item rest ih => rw [widestEach, max_le_iff, ih, forall_mem_cons]

theorem widest_of_mem {item : Operand} {items : List Operand} (member : item ∈ items) :
    item.widest ≤ widestEach items :=
  widestEach_le.mp (Nat.le_refl _) item member

variable {value : Operand} {format : Operand → Operand → Except Fault Operand}

theorem sequenceLength_le {length : Nat} (sequence : value.sequenceLength? = some length) :
    length ≤ value.widest := by
  cases value with
  | str text | bytes octets =>
      cases sequence
      exact Nat.le_refl _
  | list items | tuple items =>
      cases sequence
      exact le_max_left _ _
  | _ => cases sequence

/-! ### The operators -/

theorem length_repeatItems {α : Type} (items : List α) (count : Int) :
    (repeatItems items count).length = count.toNat * items.length := by
  unfold repeatItems
  rw [length_flatten, map_replicate, sum_replicate_nat]

theorem mem_of_mem_repeatItems {α : Type} {items : List α} {count : Int} {item : α}
    (member : item ∈ repeatItems items count) : item ∈ items := by
  unfold repeatItems at member
  obtain ⟨copy, listed, own⟩ := mem_flatten.mp member
  rw [eq_of_mem_replicate listed] at own
  exact own

theorem repeatItems_within {α : Type} (items : List α) {count : Int}
    (guarded : ¬ (items.length : Int) * count > maxSequenceMultiply) :
    (repeatItems items count).length ≤ maxSequenceMultiply := by
  rw [length_repeatItems]
  by_cases negative : count < 0
  · rw [Int.toNat_of_nonpos (by omega), Nat.zero_mul]
    exact Nat.zero_le _
  · have same : ((count.toNat * items.length : Nat) : Int) = items.length * count := by
      rw [Nat.cast_mul, Int.toNat_of_nonneg (by omega), Int.mul_comm]
    omega

theorem multiply_widest {sequence : Operand} {length : Nat} {count : Int}
    (measured : sequence.sequenceLength? = some length)
    (made : sequence.multiply length count = .ok value) :
    value.widest ≤ sequence.widest + maxSequenceMultiply := by
  unfold multiply at made
  split at made
  · cases made
  · rename_i guarded
    cases made
    cases sequence with
    | str text =>
        cases measured
        have short := repeatItems_within text.toList guarded
        simp only [repeated, widest, String.toList_ofList]
        omega
    | bytes octets =>
        cases measured
        have short := repeatItems_within octets guarded
        simp only [repeated, widest]
        omega
    | list items | tuple items =>
        cases measured
        have short := repeatItems_within items guarded
        have inner : widestEach (repeatItems items count) ≤ widestEach items := by
          rw [widestEach_le]
          intro item member
          exact widest_of_mem (mem_of_mem_repeatItems member)
        simp only [repeated, widest]
        omega
    | _ => cases measured

theorem arithNumbers_widest {op : ArithOp} {left right : Operand}
    (made : arithNumbers op left right = .ok value) : value.widest = 0 := by
  unfold arithNumbers at made
  split at made
  · cases op with
    | add | sub | mult =>
        cases made
        rfl
    | div | mod =>
        dsimp only at made
        split at made
        · cases made
        · cases made
          rfl
  · split at made
    · cases op with
      | add | sub | mult =>
          cases made
          rfl
      | div | mod =>
          dsimp only at made
          split at made
          · cases made
          · cases made
            rfl
    · cases made

theorem widestEach_append (first second : List Operand) :
    widestEach (first ++ second) = max (widestEach first) (widestEach second) := by
  induction first with
  | nil => exact (Nat.zero_max _).symm
  | cons item rest ih => rw [cons_append, widestEach, ih, widestEach, max_assoc]

/-- `%` on a string or on bytes formats. -/
def isText : Operand → Bool
  | .str _ => true
  | .bytes _ => true
  | _ => false

theorem add_widest {left right : Operand} (made : binOp format .add left right = .ok value) :
    value.widest ≤ left.widest + right.widest := by
  unfold binOp at made
  dsimp only at made
  split at made
  · cases made
    simp only [widest, String.toList_append, length_append]
    exact Nat.le_refl _
  · cases made
    simp only [widest, length_append]
    exact Nat.le_refl _
  · cases made
    simp only [widest, length_append, widestEach_append]
    omega
  · cases made
    simp only [widest, length_append, widestEach_append]
    omega
  · rw [arithNumbers_widest made]
    exact Nat.zero_le _

theorem mult_widest {left right : Operand} (made : binOp format .mult left right = .ok value) :
    value.widest ≤ left.widest + right.widest + maxSequenceMultiply := by
  unfold binOp at made
  dsimp only at made
  split at made
  · rename_i length count measured counted
    have own := multiply_widest measured made
    omega
  · split at made
    · rename_i length count measured counted
      have own := multiply_widest measured made
      omega
    · rw [arithNumbers_widest made]
      exact Nat.zero_le _

theorem binOp_widest {op : ArithOp} {left right : Operand}
    (made : binOp format op left right = .ok value) (plain : op = .mod → left.isText = false) :
    value.widest ≤
      left.widest + right.widest + (if op = .mult then maxSequenceMultiply else 0) := by
  cases op with
  | add =>
      have own := add_widest made
      simp only [reduceCtorEq, if_false]
      omega
  | mult =>
      rw [if_pos rfl]
      exact mult_widest made
  | sub =>
      unfold binOp at made
      dsimp only at made
      split at made
      · rename_i first second
        cases made
        have kept : widestEach (first.filter fun item => !second.any item.eq) ≤
            widestEach first := by
          rw [widestEach_le]
          intro item member
          exact widest_of_mem (mem_filter.mp member).1
        simp only [widest]
        omega
      · rw [arithNumbers_widest made]
        exact Nat.zero_le _
  | div =>
      have divided : arithNumbers .div left right = .ok value := made
      rw [arithNumbers_widest divided]
      exact Nat.zero_le _
  | mod =>
      have unread := plain rfl
      unfold binOp at made
      dsimp only at made
      split at made
      · cases unread
      · cases unread
      · rw [arithNumbers_widest made]
        exact Nat.zero_le _

theorem unaryOp_widest {op : SignOp} {operand : Operand} (made : unaryOp op operand = .ok value) :
    value.widest = 0 := by
  unfold unaryOp at made
  split at made
  · cases made
    rfl
  · split at made
    · cases made
      rfl
    · split at made
      · cases made
        rfl
      · cases made
  · split at made
    · cases made
      rfl
    · split at made
      · cases made
        rfl
      · cases made

theorem valueAt?_widest {key : Operand} (items : List (Operand × Operand)) :
    ((valueAt? key items).getD .missing).widest ≤ widestEntries items := by
  induction items with
  | nil => exact Nat.zero_le _
  | cons item rest ih =>
      obtain ⟨present, value⟩ := item
      simp only [valueAt?, widestEntries]
      split
      · exact (le_max_right _ _).trans (le_max_left _ _)
      · exact ih.trans (le_max_right _ _)

theorem lookupField_widest {name : String} (fields : List (String × Operand)) :
    ((lookupField fields name).getD .missing).widest ≤ widestFields fields := by
  induction fields with
  | nil => exact Nat.zero_le _
  | cons field rest ih =>
      obtain ⟨present, value⟩ := field
      simp only [lookupField, widestFields]
      split
      · exact le_max_left _ _
      · exact ih.trans (le_max_right _ _)

theorem getAttribute_widest (methods : Operand → String → Option Nat) (value : Operand)
    (name : String) : (value.getAttribute methods name).widest ≤ value.widest := by
  unfold getAttribute
  split
  · exact valueAt?_widest _
  · exact lookupField_widest _
  · exact Nat.zero_le _
  · split
    · exact Nat.zero_le _
    · split
      · split
        · exact Nat.zero_le _
        · split
          · exact Nat.zero_le _
          · split
            · exact Nat.zero_le _
            · exact Nat.zero_le _
      · split
        · exact Nat.zero_le _
        · split
          · exact Nat.zero_le _
          · exact Nat.zero_le _
      · exact Nat.zero_le _

theorem getD_widest (items : List Operand) (place : Nat) :
    (items.getD place .missing).widest ≤ widestEach items := by
  rw [getD_eq_getElem?_getD]
  cases found : items[place]? with
  | none => exact Nat.zero_le _
  | some item => exact widest_of_mem (mem_of_getElem? found)

theorem getItem_widest {holder key : Operand} (made : holder.getItem key = .ok value) :
    value.widest ≤ holder.widest := by
  unfold getItem at made
  split at made
  · split at made
    · cases made
      exact valueAt?_widest _
    · cases made
  · split at made
    · split at made
      · cases made
        exact (getD_widest _ _).trans (le_max_right _ _)
      · cases made
        exact Nat.zero_le _
    · cases made
      exact Nat.zero_le _
  · split at made
    · split at made
      · cases made
        exact (getD_widest _ _).trans (le_max_right _ _)
      · cases made
        exact Nat.zero_le _
    · cases made
      exact Nat.zero_le _
  · cases made
    exact Nat.zero_le _

theorem firstPresent_widest (values : List Operand) :
    (firstPresent values).widest ≤ widestEach values := by
  induction values with
  | nil => exact Nat.zero_le _
  | cons value rest ih =>
      cases value with
      | none | missing => exact ih.trans (le_max_right _ _)
      | _ => exact le_max_left _ _

theorem setEntry_widest (key value : Operand) (items : List (Operand × Operand)) :
    widestEntries (setEntry key value items) ≤
      max (max key.widest value.widest) (widestEntries items) := by
  induction items with
  | nil => exact Nat.le_refl _
  | cons item rest ih =>
      obtain ⟨present, old⟩ := item
      simp only [setEntry]
      split
      · simp only [widestEntries]
        omega
      · simp only [widestEntries] at ih ⊢
        omega

end Operand

/-! ### The nodes -/

section

variable {identical : Operand → Operand → Bool} {methods : Operand → String → Option Nat}
  {format : Operand → Operand → Except Fault Operand} {env : List (String × Operand)}

/-- What a node adds itself: the length of a literal, of a display or of the value of a name, and
an allowance for each multiplication. -/
def AstNode.weight (allowance : Nat) (env : List (String × Operand)) : AstNode → Nat
  | .constant value => value.widest
  | .name id => ((lookupField env id).getD .missing).widest
  | .binOp _ .mult _ => allowance
  | .list elts => elts.length
  | .tuple elts => elts.length
  | _ => 0

def AstNode.Keeps (identical : Operand → Operand → Bool) (methods : Operand → String → Option Nat)
    (format : Operand → Operand → Except Fault Operand) (env : List (String × Operand))
    (limit : AstNode → Nat) (node : AstNode) : Prop :=
  ∀ value, node.eval identical methods format env = .ok value → value.widest ≤ limit node

section

variable {limit : AstNode → Nat} {nodes : List AstNode} {value : Operand}

theorem evalEach_keeps {values : List Operand}
    (keeps : ∀ node, node ∈ nodes → node.Keeps identical methods format env limit)
    (made : evalEach identical methods format env nodes = .ok values) :
    values.length = nodes.length ∧ widestEach values ≤ (nodes.map limit).sum := by
  induction nodes generalizing values with
  | nil =>
      cases made
      exact ⟨rfl, Nat.le_refl 0⟩
  | cons node rest ih =>
      obtain ⟨value, own, further⟩ := bind_ok made
      obtain ⟨others, later, same⟩ := bind_ok further
      cases same
      have first := keeps node mem_cons_self value own
      obtain ⟨counted, remaining⟩ := ih (fun other member =>
        keeps other (mem_cons_of_mem _ member)) later
      constructor
      · rw [length_cons, length_cons, counted]
      · rw [widestEach, map_cons, sum_cons]
        omega

theorem evalAllOf_keeps {start : Operand}
    (keeps : ∀ node, node ∈ nodes → node.Keeps identical methods format env limit)
    (made : evalAllOf identical methods format env start nodes = .ok value) :
    value.widest ≤ max start.widest (nodes.map limit).sum := by
  induction nodes generalizing start with
  | nil =>
      cases made
      exact le_max_left _ _
  | cons node rest ih =>
      obtain ⟨found, own, further⟩ := bind_ok made
      have first := keeps node mem_cons_self found own
      rw [map_cons, sum_cons]
      split at further
      · have remaining := ih (fun other member => keeps other (mem_cons_of_mem _ member))
          further
        omega
      · cases further
        omega

theorem evalAnyOf_keeps {start : Operand}
    (keeps : ∀ node, node ∈ nodes → node.Keeps identical methods format env limit)
    (made : evalAnyOf identical methods format env start nodes = .ok value) :
    value.widest ≤ max start.widest (nodes.map limit).sum := by
  induction nodes generalizing start with
  | nil =>
      cases made
      exact le_max_left _ _
  | cons node rest ih =>
      obtain ⟨found, own, further⟩ := bind_ok made
      have first := keeps node mem_cons_self found own
      rw [map_cons, sum_cons]
      split at further
      · cases further
        omega
      · have remaining := ih (fun other member => keeps other (mem_cons_of_mem _ member))
          further
        omega

theorem evalChain_widest {comparisons : List (CmpOp × AstNode)} {left : Operand}
    (made : evalChain identical methods format env left comparisons = .ok value) :
    value.widest = 0 := by
  induction comparisons generalizing left with
  | nil =>
      cases made
      rfl
  | cons comparison rest ih =>
      obtain ⟨op, comparator⟩ := comparison
      obtain ⟨right, -, further⟩ := bind_ok made
      obtain ⟨holds, -, last⟩ := bind_ok further
      split at last
      · exact ih last
      · cases last
        rfl

theorem evalSetOf_keeps {items : List Operand}
    (keeps : ∀ node, node ∈ nodes → node.Keeps identical methods format env limit)
    (made : evalSetOf identical methods format env items nodes = .ok value) :
    value.widest ≤ max (widestEach items) (nodes.map limit).sum := by
  induction nodes generalizing items with
  | nil =>
      cases made
      exact le_max_left _ _
  | cons node rest ih =>
      obtain ⟨found, own, further⟩ := bind_ok made
      have first := keeps node mem_cons_self found own
      rw [map_cons, sum_cons]
      split at further
      · have remaining := ih (fun other member => keeps other (mem_cons_of_mem _ member))
          further
        split at remaining
        · omega
        · rw [widestEach_append, widestEach, widestEach] at remaining
          omega
      · cases further

theorem evalDictOf_keeps {entries : List (Option AstNode × AstNode)}
    {items : List (Operand × Operand)} (keeps : ∀ node, node ∈ (AstNode.dict entries).children →
      node.Keeps identical methods format env limit)
    (made : evalDictOf identical methods format env items entries = .ok value) :
    value.widest ≤ max (widestEntries items)
      ((AstNode.dict entries).children.map limit).sum := by
  induction entries generalizing items with
  | nil =>
      cases made
      exact le_max_left _ _
  | cons entry rest ih =>
      obtain ⟨key, valueNode⟩ := entry
      cases key with
      | none => cases made
      | some keyNode =>
          obtain ⟨held, own, further⟩ := bind_ok made
          obtain ⟨name, named, last⟩ := bind_ok further
          have below : (AstNode.dict ((some keyNode, valueNode) :: rest)).children =
              keyNode :: valueNode :: (AstNode.dict rest).children := rfl
          rw [below] at keeps ⊢
          rw [map_cons, map_cons, sum_cons, sum_cons]
          have first := keeps keyNode mem_cons_self name named
          have second := keeps valueNode (mem_cons_of_mem _ mem_cons_self) held own
          split at last
          · have remaining := ih (fun other member => keeps other
              (mem_cons_of_mem _ (mem_cons_of_mem _ member))) last
            have grown := setEntry_widest name held items
            omega
          · cases last

end

theorem AstNode.keeps_of_children {node : AstNode}
    (below : ∀ child, child ∈ node.children → child.Keeps identical methods format env
      (total (weight maxSequenceMultiply env)))
    (plain : ∀ left right, node = .binOp left .mod right → ∀ value,
      left.eval identical methods format env = .ok value → value.isText = false) :
    node.Keeps identical methods format env (total (weight maxSequenceMultiply env)) := by
  intro value made
  rw [total_eq]
  cases node with
  | constant literal =>
      cases made
      exact Nat.le_add_right _ _
  | name id =>
      simp only [eval] at made
      split at made
      · cases made
      · split at made
        · rename_i found known
          cases made
          simp only [weight, known, Option.getD_some]
          exact Nat.le_add_right _ _
        · cases made
  | attr holder field =>
      simp only [eval] at made
      split at made
      · cases made
      · obtain ⟨held, own, last⟩ := bind_ok made
        cases last
        have inner := below holder mem_cons_self held own
        have taken := getAttribute_widest methods held field
        simp only [children, map_cons, map_nil, sum_cons, sum_nil]
        omega
  | subscript holder slice =>
      obtain ⟨held, own, further⟩ := bind_ok made
      obtain ⟨key, -, last⟩ := bind_ok further
      have inner := below holder mem_cons_self held own
      have item := getItem_widest last
      simp only [children, map_cons, map_nil, sum_cons, sum_nil]
      omega
  | binOp left op right =>
      obtain ⟨first, own, further⟩ := bind_ok made
      obtain ⟨second, other, last⟩ := bind_ok further
      have inner := below left mem_cons_self first own
      have outer := below right (mem_cons_of_mem _ mem_cons_self) second other
      have grown := binOp_widest last fun modulo =>
        plain left right (by rw [modulo]) first own
      have allowed : (if op = .mult then maxSequenceMultiply else 0) =
          weight maxSequenceMultiply env (.binOp left op right) := by
        cases op with
        | _ => rfl
      rw [allowed] at grown
      simp only [children, map_cons, map_nil, sum_cons, sum_nil]
      omega
  | unaryOp op operand =>
      obtain ⟨held, -, last⟩ := bind_ok made
      rw [unaryOp_widest last]
      exact Nat.zero_le _
  | and values =>
      have found := evalAllOf_keeps below made
      exact found.trans (max_le (Nat.zero_le _) (Nat.le_add_left _ _))
  | or values =>
      have found := evalAnyOf_keeps below made
      exact found.trans (max_le (Nat.zero_le _) (Nat.le_add_left _ _))
  | compare left comparisons =>
      obtain ⟨first, -, last⟩ := bind_ok made
      rw [evalChain_widest last]
      exact Nat.zero_le _
  | call func args =>
      obtain ⟨callee, -, further⟩ := bind_ok made
      cases callee with
      | coalesce =>
          obtain ⟨values, own, last⟩ := bind_ok further
          cases last
          have found := evalEach_keeps
            (fun node member => below node (mem_cons_of_mem _ member)) own
          have chosen := firstPresent_widest values
          simp only [children, map_cons, sum_cons]
          omega
      | _ => cases further
  | list elts | tuple elts =>
      obtain ⟨values, own, last⟩ := bind_ok made
      cases last
      obtain ⟨counted, within⟩ := evalEach_keeps below own
      change values.length = elts.length at counted
      simp only [widest, weight]
      omega
  | set elts =>
      have found := evalSetOf_keeps below made
      exact found.trans (max_le (Nat.zero_le _) (Nat.le_add_left _ _))
  | dict entries =>
      have found := evalDictOf_keeps below made
      exact found.trans (max_le (Nat.zero_le _) (Nat.le_add_left _ _))

end

/-- No `%` in the expression has a string or bytes on its left. -/
def AstNode.NeverFormats (identical : Operand → Operand → Bool)
    (methods : Operand → String → Option Nat)
    (format : Operand → Operand → Except Fault Operand) (env : List (String × Operand))
    (node : AstNode) : Prop :=
  ∀ left right, Part node (.binOp left .mod right) → ∀ value,
    left.eval identical methods format env = .ok value → value.isText = false

/-- Every string, bytes, list or tuple that any part of an expression comes to is no longer than
the literals, displays and named values of the expression and the cap for each multiplication
together, where no `%` formats. -/
theorem sandbox_bounds_sequences (identical : Operand → Operand → Bool)
    (methods : Operand → String → Option Nat)
    (format : Operand → Operand → Except Fault Operand) (env : List (String × Operand))
    (node : AstNode) (plain : node.NeverFormats identical methods format env) (part : AstNode)
    (within : AstNode.Part node part) (value : Operand) (length : Nat)
    (made : part.eval identical methods format env = .ok value)
    (sequence : value.sequenceLength? = some length) :
    length ≤ node.total (AstNode.weight maxSequenceMultiply env) := by
  have keeps : ∀ inner, AstNode.Part node inner → inner.Keeps identical methods format env
      (AstNode.total (AstNode.weight maxSequenceMultiply env)) := by
    intro inner
    induction inner using AstNode.induct with
    | step inner ih =>
        intro below
        apply AstNode.keeps_of_children
        · intro child member
          exact ih child member (below.trans (.inner member (.whole child)))
        · intro left right same
          rw [same] at below
          exact plain left right below
  have own := keeps part within value made
  exact (sequenceLength_le sequence).trans
    (own.trans (AstNode.total_part _ within))

def noObject (_ _ : Operand) : Bool := false

def noMethods (_ : Operand) (_ : String) : Option Nat := none

def noFormat (_ _ : Operand) : Except Fault Operand := .error .unformatted

/-- `'a' * 10000` -/
def tenThousand : AstNode := .binOp (.constant (.str "a")) .mult (.constant (.int 10000))

theorem tenThousand_never_formats : tenThousand.NeverFormats noObject noMethods noFormat [] := by
  intro left right within
  cases within with
  | inner below deeper =>
      rcases List.mem_cons.mp below with same | last
      · subst same
        cases deeper with
        | inner below deeper => cases below
      · rw [mem_singleton.mp last] at deeper
        cases deeper with
        | inner below deeper => cases below

/-- `'aa…a'` -/
def longText : String := String.ofList (repeatItems "a".toList 10000)

theorem longText_length : longText.toList.length = 10000 := by
  rw [longText, String.toList_ofList, length_repeatItems]
  rfl

theorem tenThousand_eval :
    tenThousand.eval noObject noMethods noFormat [] = .ok (.str longText) := by
  have product : tenThousand.eval noObject noMethods noFormat [] =
      multiply (.str "a") 1 10000 := by
    simp only [tenThousand, AstNode.eval, bind, Except.bind, binOp, sequenceLength?, integer?]
    congr 1
  rw [product, multiply, if_neg (by decide), repeated, longText]

theorem sandbox_bounds_one_product :
    10000 ≤ tenThousand.total (AstNode.weight maxSequenceMultiply []) := by
  have sequence : (str longText).sequenceLength? = some 10000 := by
    rw [sequenceLength?, longText_length]
  exact sandbox_bounds_sequences noObject noMethods noFormat [] tenThousand
    tenThousand_never_formats tenThousand (.whole _) _ 10000 tenThousand_eval sequence

/-- Two products that each keep to the cap add up to a string beyond it. -/
theorem sum_of_products_beyond_cap : ∃ (node : AstNode) (text : String),
    node.eval noObject noMethods noFormat [] = .ok (.str text) ∧
      maxSequenceMultiply + node.total (AstNode.weight 0 []) < text.toList.length := by
  refine ⟨.binOp tenThousand .add tenThousand, longText ++ longText, ?_, ?_⟩
  · rw [AstNode.eval, tenThousand_eval]
    rfl
  · rw [String.toList_append, length_append, longText_length]
    decide

end AgenticRuntime
