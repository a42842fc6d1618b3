/-
The values of an SQLite table, its rows, and the conditions that constraints put on
a row.

Values are compared within one type, as the values of one column are.
-/

import Mathlib.Data.String.Basic
import Mathlib.Data.Prod.Lex
import Mathlib.Order.WithBot
import Mathlib.Algebra.Order.Ring.Unbundled.Rat

namespace Sql

/-- A float is the rational it denotes or an infinity; NaN is stored as NULL. -/
inductive Float64 where
  | negInf
  | finite (value : ℚ)
  | posInf
  deriving DecidableEq

def Float64.extended : Float64 → WithBot (WithTop ℚ)
  | .negInf => ⊥
  | .finite value => ((value : WithTop ℚ) : WithBot (WithTop ℚ))
  | .posInf => ((⊤ : WithTop ℚ) : WithBot (WithTop ℚ))

inductive Value where
  | null
  | integer (value : Int64)
  | real (value : Float64)
  | text (value : String)
  deriving DecidableEq

def Value.rank : Value → ℕ ×ₗ ℤ ×ₗ WithBot (WithTop ℚ) ×ₗ String
  | .null => toLex (0, toLex (0, toLex (⊥, "")))
  | .integer value => toLex (1, toLex (value.toInt, toLex (⊥, "")))
  | .real value => toLex (2, toLex (0, toLex (value.extended, "")))
  | .text value => toLex (3, toLex (0, toLex (⊥, value)))

theorem Float64.extended_injective : Function.Injective Float64.extended := by
  intro left right same
  cases left <;> cases right <;> cases same <;> rfl

theorem Value.rank_injective : Function.Injective Value.rank := by
  intro left right same
  cases left <;> cases right <;> simp [Value.rank, Int64.toInt_inj,
    Float64.extended_injective.eq_iff] at same <;> simp [same]

/-- The order of `ORDER BY`. -/
instance : LinearOrder Value := LinearOrder.lift' Value.rank Value.rank_injective

/-- `none` is NULL. -/
abbrev Truth := Option Bool

namespace Truth

def not : Truth → Truth := Option.map (!·)

def or : Truth → Truth → Truth
  | some true, _ | _, some true => some true
  | some false, right => right
  | left, some false => left
  | none, none => none

/-- `=` between two truth values. -/
def same : Truth → Truth → Truth
  | some left, some right => some (left == right)
  | _, _ => none

end Truth

/-- `=` holds; NULL is equal to nothing. -/
def Value.equals (left right : Value) : Bool := left ≠ .null ∧ left = right

/-- `value IN (choices)` -/
def Value.isIn (value : Value) (choices : List Value) : Truth :=
  if choices = [] then some false
  else if value = .null then none
  else if value ∈ choices then some true
  else if .null ∈ choices then none
  else some false

theorem Value.notIn_true_iff {value : Value} {choices : List Value} (given : value ≠ .null)
    (proper : .null ∉ choices) :
    (value.isIn choices).not = some true ↔ value ∉ choices := by
  unfold Value.isIn
  by_cases empty : choices = []
  · simp [empty, Truth.not]
  · by_cases member : value ∈ choices <;> simp [empty, given, proper, member, Truth.not]

structure Row where
  entries : List (String × Value)
  deriving DecidableEq

def Row.get (row : Row) (column : String) : Value := (row.entries.lookup column).getD .null

inductive Check where
  | isNull (column : String)
  | isIn (column : String) (choices : List String)
  /-- `column >= bound` -/
  | atLeast (column : String) (bound : Int)
  /-- `column LIKE 'start%'` on a text -/
  | like (column : String) (start : String)
  /-- `left = right` on two columns -/
  | equal (left right : String)
  | not (check : Check)
  | or (left right : Check)
  | same (left right : Check)

/-- `LIKE` does not tell upper from lower case. -/
def likeStart (text start : String) : Bool :=
  (start.toList.map Char.toLower).isPrefixOf (text.toList.map Char.toLower)

def Check.eval (row : Row) : Check → Truth
  | .isNull column => some (row.get column = .null)
  | .isIn column choices => (row.get column).isIn (choices.map .text)
  | .atLeast column bound =>
      match row.get column with
      | .null => none
      | .integer value => some (bound ≤ value.toInt)
      | .real value => some ((Float64.finite bound).extended ≤ value.extended)
      | .text _ => some true
  | .like column start =>
      match row.get column with
      | .null => none
      | .text value => some (likeStart value start)
      | _ => some false
  | .equal left right =>
      if row.get left = .null ∨ row.get right = .null then none
      else some (row.get left = row.get right)
  | .not check => (check.eval row).not
  | .or left right => (left.eval row).or (right.eval row)
  | .same left right => (left.eval row).same (right.eval row)

end Sql
