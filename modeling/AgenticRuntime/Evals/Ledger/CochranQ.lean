/-
Cochran's Q over a table of outcomes.

Everything the function returns is read off the number of columns and two totals, so it
is enough to say what leaves those as they are.
-/

import AgenticRuntime.DeviationSums
import Mathlib.Data.Rat.Cast.Order
import Mathlib.Algebra.Order.Ring.Rat
import Mathlib.Data.List.GetD
import Mathlib.Data.List.Perm.Basic

namespace AgenticRuntime

open List hiding not_lt

namespace LedgerStats

open DeviationSums

/-! ### stats.py -/

inductive StatsError where
  | noRows
  | fewArms (k : Nat)
  | ragged
  | badCell (cell : Int)
  | fewDegrees (df : Nat)
  | negative (x : Rat)
  deriving DecidableEq, Repr

def StatsError.message : StatsError → String
  | noRows => "cochrans_q requires at least one instance (row)"
  | fewArms k => "cochrans_q requires k >= 2 arms (columns), got " ++ toString k
  | ragged => "every row of `table` must have the same length"
  | badCell cell => "table cells must be 0 or 1, got " ++ toString cell
  | fewDegrees df => "df must be >= 1, got " ++ toString df
  | negative x => "x must be >= 0, got " ++ toString x

structure QResult where
  q : Rat
  df : Nat
  pValue : Rat
  deriving DecidableEq, Repr

variable (tail : Rat → Nat → Rat) (k : Nat)

/-- `chi2_sf`, up to the tail of the distribution above zero. -/
def chi2Sf (x : Rat) (df : Nat) : Except StatsError Rat :=
  if df < 1 then .error (.fewDegrees df)
  else if x < 0 then .error (.negative x)
  else if x = 0 then .ok 1
  else .ok (tail x df)

def columnTotals (table : List (List Int)) : List Int :=
  (List.range k).map fun j => (table.map fun row => row.getD j 0).sum

def rowTotals (table : List (List Int)) : List Int := table.map List.sum

def numerator (table : List (List Int)) : Int :=
  let totals := columnTotals k table
  (k - 1) * (k * (totals.map fun t => t * t).sum - totals.sum * totals.sum)

def denominator (table : List (List Int)) : Int :=
  let totals := rowTotals table
  k * totals.sum - (totals.map fun l => l * l).sum

def rowError (row : List Int) : Option StatsError :=
  if row.length ≠ k then some .ragged
  else (row.find? fun cell => cell ∉ [0, 1]).map .badCell

def cochransQ (table : List (List Int)) : Except StatsError QResult :=
  match table with
  | [] => .error .noRows
  | first :: _ =>
      let k := first.length
      if k < 2 then .error (.fewArms k)
      else
        match table.findSome? (rowError k) with
        | some error => .error error
        | none =>
            let df := k - 1
            if denominator k table = 0 then .ok { q := 0, df := df, pValue := 1 }
            else do
              let q := (numerator k table : Rat) / denominator k table
              let pValue ← chi2Sf tail q df
              return { q := q, df := df, pValue := pValue }

/-! ### Tables of outcomes -/

structure ZeroOne (k : Nat) (table : List (List Int)) : Prop where
  filled : table ≠ []
  arms : 2 ≤ k
  width : ∀ row, row ∈ table → row.length = k
  cells : ∀ row, row ∈ table → ∀ cell, cell ∈ row → cell = 0 ∨ cell = 1

def Constant (row : List Int) : Prop := ∀ cell, cell ∈ row → ∀ other, other ∈ row → cell = other

instance (row : List Int) : Decidable (Constant row) :=
  inferInstanceAs (Decidable (∀ cell, cell ∈ row → ∀ other, other ∈ row → cell = other))

def varying (table : List (List Int)) : List (List Int) := table.filter fun row => ¬ Constant row

def reordered (order : List Nat) (row : List Int) : List Int := order.map fun j => row.getD j 0

theorem rowError_none {k : Nat} {row : List Int} (width : row.length = k)
    (cells : ∀ cell, cell ∈ row → cell = 0 ∨ cell = 1) : rowError k row = none := by
  rw [rowError, if_neg (not_not_intro width), Option.map_eq_none_iff, List.find?_eq_none]
  intro cell listed outside
  have apart := of_decide_eq_true outside
  rcases cells cell listed with zero | one
  · exact apart (zero ▸ mem_cons_self)
  · exact apart (one ▸ mem_cons_of_mem 0 mem_cons_self)

/-! ### Totals of a row -/

section

variable {row : List Int} (cells : ∀ cell, cell ∈ row → cell = 0 ∨ cell = 1)

include cells

theorem sum_nonneg_of_cells : 0 ≤ row.sum := by
  apply sum_nonneg
  intro cell listed
  rcases cells cell listed with zero | one <;> omega

theorem sum_le_length : row.sum ≤ row.length := by
  induction row with
  | nil => rfl
  | cons cell rest ih =>
      have bound := ih fun other listed => cells other (mem_cons_of_mem cell listed)
      have head := cells cell mem_cons_self
      rw [sum_cons, length_cons]
      omega

theorem zeros_of_sum (zero : row.sum = 0) : ∀ cell, cell ∈ row → cell = 0 := by
  intro cell listed
  apply all_zero_of_le_zero_le_of_sum_eq_zero ?_ zero listed
  intro other member
  rcases cells other member with same | same
  · exact same.ge
  · exact same ▸ zero_le_one

theorem ones_of_sum (full : row.sum = row.length) : ∀ cell, cell ∈ row → cell = 1 := by
  induction row with
  | nil => intro cell listed; cases listed
  | cons head rest ih =>
      have later : ∀ cell, cell ∈ rest → cell = 0 ∨ cell = 1 := fun other listed =>
        cells other (mem_cons_of_mem head listed)
      have bound := sum_le_length later
      have first := cells head mem_cons_self
      rw [sum_cons, length_cons] at full
      intro cell listed
      rcases List.mem_cons.mp listed with same | inRest
      · omega
      · exact ih later (by omega) cell inRest

theorem variation_nonneg : 0 ≤ row.sum * (row.length - row.sum) := by
  have low := sum_nonneg_of_cells cells
  have high := sum_le_length cells
  exact mul_nonneg low (by omega)

theorem variation_eq_zero_iff : row.sum * (row.length - row.sum) = 0 ↔ Constant row := by
  constructor
  · intro none_
    rcases mul_eq_zero.mp none_ with zero | full
    · intro cell listed other there
      rw [zeros_of_sum cells zero cell listed, zeros_of_sum cells zero other there]
    · intro cell listed other there
      have ones := ones_of_sum cells (by omega)
      rw [ones cell listed, ones other there]
  · intro constant
    cases row with
    | nil => rfl
    | cons head rest =>
        have all : head :: rest = List.replicate (rest.length + 1) head :=
          eq_replicate_iff.mpr ⟨rfl, fun cell listed =>
            constant cell listed head mem_cons_self⟩
        rw [all, sum_replicate, length_replicate]
        rcases cells head mem_cons_self with zero | one
        · simp [zero]
        · simp [one]

end

/-! ### Totals of a table -/

theorem columnTotals_length (table : List (List Int)) :
    (columnTotals k table).length = k := by
  rw [columnTotals, length_map, length_range]

theorem numerator_eq_spread (table : List (List Int)) :
    numerator k table = (k - 1) * spread (columnTotals k table) := by
  rw [numerator, spread, columnTotals_length, sumOfSquares]

theorem denominator_eq_sum (table : List (List Int)) :
    denominator k table = (table.map fun row : List Int => row.sum * ((k : Int) - row.sum)).sum := by
  rw [denominator, rowTotals]
  induction table with
  | nil => simp
  | cons row rest ih =>
      simp only [map_cons, sum_cons] at ih ⊢
      rw [← ih]
      ring

theorem columnTotals_cons_constant {k : Nat} {row : List Int} (width : row.length = k)
    (constant : Constant row) (table : List (List Int)) :
    columnTotals k (row :: table) =
      (columnTotals k table).map fun total => total + row.getD 0 0 := by
  rw [columnTotals, columnTotals, map_map]
  apply map_congr_left
  intro j listed
  have within : j < row.length := width ▸ mem_range.mp listed
  have first : 0 < row.length := by omega
  have same : row.getD j 0 = row.getD 0 0 := by
    rw [getD_eq_getElem _ _ within, getD_eq_getElem _ _ first]
    exact constant _ (getElem_mem within) _ (getElem_mem first)
  rw [map_cons, sum_cons, same, Int.add_comm]
  rfl

theorem columnTotals_cons (row : List Int) (table : List (List Int)) :
    columnTotals k (row :: table) =
      (List.range k).map fun j => row.getD j 0 + (table.map fun row => row.getD j 0).sum := by
  rw [columnTotals]
  apply map_congr_left
  intro j _
  rw [map_cons, sum_cons]

def Offset (left right : List (List Int)) : Prop :=
  ∃ offset : Int, columnTotals k left = (columnTotals k right).map fun total => total + offset

variable {table right : List (List Int)}

theorem offset_varying {k : Nat} (width : ∀ row, row ∈ table → row.length = k) :
    Offset k table (varying table) := by
  induction table with
  | nil => exact ⟨0, by simp [varying]⟩
  | cons row rest ih =>
      obtain ⟨offset, lifted⟩ := ih fun other listed => width other (mem_cons_of_mem row listed)
      by_cases constant : Constant row
      · refine ⟨offset + row.getD 0 0, ?_⟩
        have kept : varying (row :: rest) = varying rest := filter_cons_of_neg (by simp [constant])
        rw [columnTotals_cons_constant (width row mem_cons_self) constant, lifted, kept, map_map]
        apply map_congr_left
        intro total _
        exact Int.add_assoc total offset _
      · refine ⟨offset, ?_⟩
        have kept : varying (row :: rest) = row :: varying rest :=
          filter_cons_of_pos (by simp [constant])
        rw [kept, columnTotals_cons, columnTotals_cons, map_map]
        apply map_congr_left
        intro j listed
        have column := map_inj_left.mp (lifted.trans map_map) j listed
        rw [column]
        exact (Int.add_assoc _ _ offset).symm

theorem spread_varying {k : Nat} (width : ∀ row, row ∈ table → row.length = k) :
    spread (columnTotals k table) = spread (columnTotals k (varying table)) := by
  obtain ⟨offset, lifted⟩ := offset_varying width
  rw [lifted, spread_shift]

theorem columnTotals_perm {left : List (List Int)} (same : left.Perm right) :
    columnTotals k left = columnTotals k right := by
  apply map_congr_left
  intro j _
  exact (same.map fun row => row.getD j 0).sum_eq

theorem denominator_varying {k : Nat} (width : ∀ row, row ∈ table → row.length = k)
    (cells : ∀ row, row ∈ table → ∀ cell, cell ∈ row → cell = 0 ∨ cell = 1) :
    denominator k table = denominator k (varying table) := by
  rw [denominator_eq_sum, denominator_eq_sum]
  induction table with
  | nil => rfl
  | cons row rest ih =>
      have later := ih (fun other listed => width other (mem_cons_of_mem row listed))
        fun other listed => cells other (mem_cons_of_mem row listed)
      by_cases constant : Constant row
      · have kept : varying (row :: rest) = varying rest := filter_cons_of_neg (by simp [constant])
        have flat := (variation_eq_zero_iff (cells row mem_cons_self)).mpr constant
        rw [width row mem_cons_self] at flat
        rw [kept, map_cons, sum_cons, flat, later, Int.zero_add]
      · have kept : varying (row :: rest) = row :: varying rest :=
          filter_cons_of_pos (by simp [constant])
        rw [kept, map_cons, map_cons, sum_cons, sum_cons, later]

theorem denominator_perm {left : List (List Int)} (same : left.Perm right) :
    denominator k left = denominator k right := by
  rw [denominator_eq_sum, denominator_eq_sum]
  exact (same.map fun row : List Int => row.sum * ((k : Int) - row.sum)).sum_eq

/-! ### Columns in another order -/

section

variable {k : Nat} {order : List Nat} (same : order.Perm (List.range k))

include same

theorem reordered_perm {row : List Int} (width : row.length = k) :
    (reordered order row).Perm row := by
  have whole : ((List.range k).map fun j => row.getD j 0) = row := by
    apply ext_getElem
    · rw [length_map, length_range, width]
    · intro j _ within
      rw [getElem_map, getElem_range, getD_eq_getElem _ _ within]
  have moved := same.map fun j => row.getD j 0
  rwa [whole] at moved

theorem columnTotals_reordered (table : List (List Int)) :
    (columnTotals k (table.map (reordered order))).Perm (columnTotals k table) := by
  have length : order.length = k := same.length_eq.trans length_range
  have picked : columnTotals k (table.map (reordered order)) =
      order.map fun j => (table.map fun row => row.getD j 0).sum := by
    apply ext_getElem
    · rw [columnTotals_length, length_map, length]
    · intro j _ there
      have within : j < order.length := by rwa [length_map] at there
      simp only [columnTotals, getElem_map, getElem_range, map_map]
      congr 1
      apply map_congr_left
      intro row _
      have inRow : j < (order.map fun j => row.getD j 0).length := by rwa [length_map]
      change (order.map fun j => row.getD j 0).getD j 0 = _
      rw [getD_eq_getElem _ _ inRow, getElem_map]
  rw [picked]
  exact same.map fun j => (table.map fun row => row.getD j 0).sum

theorem rowTotals_reordered {table : List (List Int)}
    (width : ∀ row, row ∈ table → row.length = k) :
    rowTotals (table.map (reordered order)) = rowTotals table := by
  rw [rowTotals, rowTotals, map_map]
  apply map_congr_left
  intro row listed
  exact (reordered_perm same (width row listed)).sum_eq

theorem ZeroOne.reorder {table : List (List Int)} (shape : ZeroOne k table) :
    ZeroOne k (table.map (reordered order)) where
  filled := fun empty => shape.filled (map_eq_nil_iff.mp empty)
  arms := shape.arms
  width := by
    intro moved listed
    obtain ⟨row, there, rfl⟩ := mem_map.mp listed
    exact (reordered_perm same (shape.width row there)).length_eq.trans (shape.width row there)
  cells := by
    intro moved listed cell inside
    obtain ⟨row, there, rfl⟩ := mem_map.mp listed
    exact shape.cells row there cell
      ((reordered_perm same (shape.width row there)).mem_iff.mp inside)

end

theorem ZeroOne.perm {k : Nat} {left : List (List Int)} (shape : ZeroOne k left)
    (same : left.Perm right) : ZeroOne k right where
  filled := fun empty => shape.filled (same.trans (.of_eq empty)).eq_nil
  arms := shape.arms
  width := fun row listed => shape.width row (same.mem_iff.mpr listed)
  cells := fun row listed => shape.cells row (same.mem_iff.mpr listed)

/-! ### The result -/

section

variable (tail : Rat → Nat → Rat) {k : Nat} {table : List (List Int)}

theorem numerator_nonneg (arms : 2 ≤ k) (table : List (List Int)) : 0 ≤ numerator k table := by
  have cast : (0 : Rat) ≤ ((spread (columnTotals k table) : Int) : Rat) := by
    rw [spread_map_cast]
    exact spread_nonneg _
  rw [numerator_eq_spread]
  exact mul_nonneg (by omega) (Int.cast_nonneg_iff.mp cast)

theorem denominator_nonneg (shape : ZeroOne k table) : 0 ≤ denominator k table := by
  rw [denominator_eq_sum]
  apply sum_nonneg
  intro variation listed
  obtain ⟨row, there, rfl⟩ := mem_map.mp listed
  have bound := variation_nonneg (shape.cells row there)
  rwa [shape.width row there] at bound

theorem denominator_eq_zero_iff (shape : ZeroOne k table) :
    denominator k table = 0 ↔ ∀ row, row ∈ table → Constant row := by
  have flat : ∀ row, row ∈ table → (row.sum * ((k : Int) - row.sum) = 0 ↔ Constant row) := by
    intro row listed
    have exact_ := variation_eq_zero_iff (shape.cells row listed)
    rwa [shape.width row listed] at exact_
  rw [denominator_eq_sum]
  constructor
  · intro zero row listed
    have nonneg : ∀ variation,
        variation ∈ (table.map fun row : List Int => row.sum * ((k : Int) - row.sum)) →
          0 ≤ variation := by
      intro variation there
      obtain ⟨other, inTable, rfl⟩ := mem_map.mp there
      have bound := variation_nonneg (shape.cells other inTable)
      rwa [shape.width other inTable] at bound
    have low := nonneg _ (mem_map_of_mem listed)
    have high := single_le_sum nonneg _ (mem_map_of_mem listed)
    exact (flat row listed).mp (by omega)
  · intro constant
    apply sum_eq_zero
    intro variation there
    obtain ⟨row, listed, rfl⟩ := mem_map.mp there
    exact (flat row listed).mpr (constant row listed)

def outcome (k : Nat) (above below : Int) : QResult :=
  if below = 0 then { q := 0, df := k - 1, pValue := 1 }
  else
    let q := (above : Rat) / below
    { q := q, df := k - 1, pValue := if q = 0 then 1 else tail q (k - 1) }

theorem cochransQ_eq (shape : ZeroOne k table) :
    cochransQ tail table = .ok (outcome tail k (numerator k table) (denominator k table)) := by
  have accepted : table.findSome? (rowError k) = none :=
    List.findSome?_eq_none_iff.mpr fun row listed =>
      rowError_none (shape.width row listed) (shape.cells row listed)
  have arms := shape.arms
  have above := numerator_nonneg shape.arms table
  have below := denominator_nonneg shape
  cases table with
  | nil => exact absurd rfl shape.filled
  | cons first rest =>
      have width := shape.width first mem_cons_self
      simp only [cochransQ, width]
      rw [if_neg (by omega), accepted]
      dsimp only
      by_cases flat : denominator k (first :: rest) = 0
      · rw [if_pos flat, outcome, if_pos flat]
      · have q : ¬ (numerator k (first :: rest) : Rat) / denominator k (first :: rest) < 0 :=
          not_lt.mpr (div_nonneg (Int.cast_nonneg above) (Int.cast_nonneg below))
        rw [if_neg flat, outcome, if_neg flat, chi2Sf, if_neg (by omega), if_neg q]
        by_cases zero : (numerator k (first :: rest) : Rat) / denominator k (first :: rest) = 0
        · rw [if_pos zero]
          dsimp only
          rw [if_pos zero]
          rfl
        · rw [if_neg zero]
          dsimp only
          rw [if_neg zero]
          rfl

theorem cochransQ_congr {other : List (List Int)} (shape : ZeroOne k table)
    (like : ZeroOne k other)
    (spreads : spread (columnTotals k other) = spread (columnTotals k table))
    (denominators : denominator k other = denominator k table) :
    cochransQ tail other = cochransQ tail table := by
  rw [cochransQ_eq tail shape, cochransQ_eq tail like, numerator_eq_spread, numerator_eq_spread,
    spreads, denominators]

theorem outcome_textbook (shape : ZeroOne k table) (some_ : ∃ row ∈ table, ¬ Constant row) :
    (outcome tail k (numerator k table) (denominator k table)).q =
      k * (k - 1) * deviations ((columnTotals k table).map fun total : Int => (total : Rat)) /
        ((table.map fun row : List Int => row.sum * ((k : Int) - row.sum)).sum : Int) := by
  have filled : ((columnTotals k table).map fun total : Int => (total : Rat)) ≠ [] := by
    intro empty
    have length := congrArg List.length empty
    have arms := shape.arms
    rw [length_map, columnTotals_length, length_nil] at length
    omega
  have below : denominator k table ≠ 0 := by
    obtain ⟨row, listed, varies⟩ := some_
    exact fun zero => varies ((denominator_eq_zero_iff shape).mp zero row listed)
  rw [outcome, if_neg below, numerator_eq_spread, Int.cast_mul, spread_map_cast,
    spread_eq_deviations filled, length_map, columnTotals_length, denominator_eq_sum]
  dsimp only
  push_cast
  ring

end

/-! ### Two arms -/

def discordant (first second : Int) (table : List (List Int)) : Nat :=
  table.countP fun row => row = [first, second]

theorem pair_cases {row : List Int} (width : row.length = 2)
    (cells : ∀ cell, cell ∈ row → cell = 0 ∨ cell = 1) :
    row = [0, 0] ∨ row = [0, 1] ∨ row = [1, 0] ∨ row = [1, 1] := by
  obtain ⟨first, second, rfl⟩ := length_eq_two.mp width
  have left := cells first mem_cons_self
  have right := cells second (mem_cons_of_mem first mem_cons_self)
  rcases left with rfl | rfl <;> rcases right with rfl | rfl <;> simp

theorem totals_of_pairs (width : ∀ row, row ∈ table → row.length = 2)
    (cells : ∀ row, row ∈ table → ∀ cell, cell ∈ row → cell = 0 ∨ cell = 1) :
    (table.map fun row => row.getD 0 0).sum - (table.map fun row => row.getD 1 0).sum =
        discordant 1 0 table - discordant 0 1 table ∧
      (table.map fun row : List Int => row.sum * (2 - row.sum)).sum =
        discordant 1 0 table + discordant 0 1 table := by
  induction table with
  | nil => exact ⟨rfl, rfl⟩
  | cons row rest ih =>
      obtain ⟨columns, variations⟩ :=
        ih (fun other listed => width other (mem_cons_of_mem row listed))
          fun other listed => cells other (mem_cons_of_mem row listed)
      have four := pair_cases (width row mem_cons_self) (cells row mem_cons_self)
      have apart : row.getD 0 0 - row.getD 1 0 =
          ((if row = [1, 0] then 1 else 0 : Nat) : Int) - (if row = [0, 1] then 1 else 0 : Nat) := by
        rcases four with rfl | rfl | rfl | rfl <;> rfl
      have together : row.sum * (2 - row.sum) =
          ((if row = [1, 0] then 1 else 0 : Nat) : Int) + (if row = [0, 1] then 1 else 0 : Nat) := by
        rcases four with rfl | rfl | rfl | rfl <;> rfl
      simp only [discordant, map_cons, sum_cons, countP_cons, decide_eq_true_eq,
        Nat.cast_add] at columns variations ⊢
      constructor
      · omega
      · omega

theorem outcome_pairs (shape : ZeroOne 2 table) (some_ : ∃ row ∈ table, ¬ Constant row) :
    (outcome tail 2 (numerator 2 table) (denominator 2 table)).q =
      ((discordant 1 0 table : Rat) - discordant 0 1 table) ^ 2 /
        (discordant 1 0 table + discordant 0 1 table) := by
  have below : denominator 2 table ≠ 0 := by
    obtain ⟨row, listed, varies⟩ := some_
    exact fun zero => varies ((denominator_eq_zero_iff shape).mp zero row listed)
  obtain ⟨columns, variations⟩ := totals_of_pairs shape.width shape.cells
  have above : numerator 2 table = ((discordant 1 0 table : Int) - discordant 0 1 table) ^ 2 := by
    rw [← columns, numerator_eq_spread]
    simp only [spread, sumOfSquares, columnTotals, range_succ, range_zero, nil_append, map_append,
      map_cons, map_nil, sum_append,
      sum_cons, sum_nil, length_append, length_cons, length_nil]
    push_cast
    ring
  have totals : denominator 2 table = discordant 1 0 table + discordant 0 1 table := by
    rw [denominator_eq_sum]
    exact variations
  rw [outcome, if_neg below, above, totals]
  push_cast
  rfl

/-! ### The test -/

/-- The statistic of a table of outcomes: the signs of its two terms, its value, and what
leaves it as it is. Tables with the same varying rows differ in constant rows only. -/
theorem cochransQ_exact (tail : Rat → Nat → Rat) {k : Nat} {table : List (List Int)}
    (shape : ZeroOne k table) :
    0 ≤ numerator k table ∧ 0 ≤ denominator k table ∧
      (denominator k table = 0 ↔ ∀ row, row ∈ table → Constant row) ∧
      ∃ result, cochransQ tail table = .ok result ∧
        ((∃ row ∈ table, ¬ Constant row) → result.q =
          k * (k - 1) * deviations ((columnTotals k table).map fun total : Int => (total : Rat)) /
            ((table.map fun row : List Int => row.sum * ((k : Int) - row.sum)).sum : Int)) ∧
        (∀ other, table.Perm other → cochransQ tail other = .ok result) ∧
        (∀ order : List Nat, order.Perm (List.range k) →
          cochransQ tail (table.map (reordered order)) = .ok result) ∧
        (∀ other, ZeroOne k other → (varying other).Perm (varying table) →
          cochransQ tail other = .ok result) ∧
        (k = 2 → (∃ row ∈ table, ¬ Constant row) → result.q =
          ((discordant 1 0 table : Rat) - discordant 0 1 table) ^ 2 /
            (discordant 1 0 table + discordant 0 1 table)) := by
  refine ⟨numerator_nonneg shape.arms table, denominator_nonneg shape,
    denominator_eq_zero_iff shape, _, cochransQ_eq tail shape, outcome_textbook tail shape,
    ?_, ?_, ?_, ?_⟩
  · intro other same
    have totals := columnTotals_perm k same.symm
    rw [cochransQ_congr tail shape (shape.perm same) (by rw [totals])
      (denominator_perm k same.symm), cochransQ_eq tail shape]
  · intro order same
    have totals := spread_perm (columnTotals_reordered same table)
    have denominators : denominator k (table.map (reordered order)) = denominator k table := by
      rw [denominator, denominator, rowTotals_reordered same shape.width]
    rw [cochransQ_congr tail shape (shape.reorder same) totals denominators,
      cochransQ_eq tail shape]
  · intro other like same
    have totals : spread (columnTotals k other) = spread (columnTotals k table) := by
      rw [spread_varying like.width, spread_varying shape.width, columnTotals_perm k same]
    have denominators : denominator k other = denominator k table := by
      rw [denominator_varying like.width like.cells, denominator_varying shape.width shape.cells,
        denominator_perm k same]
    rw [cochransQ_congr tail shape like totals denominators, cochransQ_eq tail shape]
  · intro pair some_
    subst pair
    exact outcome_pairs tail shape some_

/-- Four instances under two arms, three of them discordant. -/
theorem cochransQ_fourInstances : ∃ result,
    cochransQ (fun _ _ => 0) [[1, 0], [1, 0], [0, 1], [1, 1]] = .ok result ∧ result.q = 1 / 3 := by
  have shape : ZeroOne 2 [[1, 0], [1, 0], [0, 1], [1, 1]] :=
    ⟨by decide, by decide, by decide, by decide⟩
  have varies : ∃ row ∈ [[1, 0], [1, 0], [0, 1], [1, 1]], ¬ Constant row :=
    ⟨[1, 0], by decide, by decide⟩
  obtain ⟨_, _, _, result, returned, _, _, _, _, pairs⟩ := cochransQ_exact (fun _ _ => 0) shape
  refine ⟨result, returned, ?_⟩
  rw [pairs rfl varies]
  norm_num [discordant]

end LedgerStats

end AgenticRuntime
