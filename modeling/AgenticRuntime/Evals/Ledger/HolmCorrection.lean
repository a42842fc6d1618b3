/-
Holm's adjustment of a list of p-values.

The running maximum absorbs what the falling factor takes from tied p-values, so the
adjusted value depends on the p-value alone, and not on where it stands.
-/

import Mathlib.Algebra.Order.Field.Rat
import Mathlib.Data.List.GetD
import Mathlib.Data.List.Perm.Basic
import Mathlib.Data.List.Sort
import Mathlib.Data.Rat.Cast.Order
import Mathlib.Tactic.Linarith

namespace AgenticRuntime

open List hiding le_antisymm le_refl le_total le_trans max_le_iff not_le

namespace LedgerStats

/-- The `ValueError` of `holm_correction`. -/
structure OutsideUnit where
  got : Rat
  deriving DecidableEq, Repr

/-- The loop of `holm_correction`, from a rank on. -/
def holmLoop (pvalues : List Rat) : Nat → List Nat → Rat → List Rat → List Rat
  | _, [], _, adjusted => adjusted
  | rank, idx :: order, runningMax, adjusted =>
      let factor : Rat := pvalues.length - rank
      let value := min 1 (factor * pvalues.getD idx 0)
      let runningMax := max runningMax value
      holmLoop pvalues (rank + 1) order runningMax (adjusted.set idx runningMax)

variable (pvalues : List Rat)

def holmCorrection : Except OutsideUnit (List Rat) :=
  let m := pvalues.length
  if m = 0 then .ok []
  else
    match pvalues.find? fun p => ¬ (0 ≤ p ∧ p ≤ 1) with
    | some p => .error ⟨p⟩
    | none =>
        let order := (List.range m).insertionSort fun i j => pvalues.getD i 0 ≤ pvalues.getD j 0
        .ok (holmLoop pvalues 0 order 0 (List.replicate m 0))

/-! ### The step-down rule -/

/-- An order of the indices in which the p-values ascend; among equal ones any will do. -/
structure Ascends (pvalues : List Rat) (order : List Nat) : Prop where
  whole : order.Perm (List.range pvalues.length)
  sorted : order.Pairwise fun i j => pvalues.getD i 0 ≤ pvalues.getD j 0

/-- Holm's rule: reject from the smallest on, at the level `α / (m - rank)`, and stop at the
first hypothesis that stands. -/
def stepDown (pvalues : List Rat) (α : Rat) : Nat → List Nat → List Nat
  | _, [] => []
  | rank, idx :: order =>
      if pvalues.getD idx 0 ≤ α / (pvalues.length - rank) then
        idx :: stepDown pvalues α (rank + 1) order
      else []

/-! ### The adjusted value of a p-value -/

def atLeast (p : Rat) : Nat := (pvalues.filter fun q => p ≤ q).length

def capped (p : Rat) : Rat := min 1 (atLeast pvalues p * p)

def holmValue (p : Rat) : Rat :=
  (pvalues.filter fun q => q ≤ p).foldr (fun q most => max (capped pvalues q) most) 0

theorem foldr_max_le_iff (value : Rat → Rat) (items : List Rat) {α : Rat} (floor : 0 ≤ α) :
    items.foldr (fun q most => max (value q) most) 0 ≤ α ↔ ∀ q, q ∈ items → value q ≤ α := by
  induction items with
  | nil => exact iff_of_true floor fun q listed => absurd listed not_mem_nil
  | cons q rest ih => rw [foldr_cons, max_le_iff, ih, forall_mem_cons]

theorem foldr_max_nonneg (value : Rat → Rat) (items : List Rat) :
    0 ≤ items.foldr (fun q most => max (value q) most) 0 := by
  induction items with
  | nil => exact le_refl 0
  | cons q rest ih => exact ih.trans (le_max_right _ _)

theorem holmValue_nonneg (p : Rat) : 0 ≤ holmValue pvalues p :=
  foldr_max_nonneg _ _

theorem holmValue_le_iff (p : Rat) {α : Rat} (floor : 0 ≤ α) :
    holmValue pvalues p ≤ α ↔ ∀ q, q ∈ pvalues → q ≤ p → capped pvalues q ≤ α := by
  rw [holmValue, foldr_max_le_iff _ _ floor]
  constructor
  · intro bounded q listed below
    exact bounded q (mem_filter.mpr ⟨listed, decide_eq_true below⟩)
  · intro bounded q listed
    have kept := mem_filter.mp listed
    exact bounded q kept.1 (of_decide_eq_true kept.2)

theorem holmValue_mono {p q : Rat} (below : p ≤ q) :
    holmValue pvalues p ≤ holmValue pvalues q := by
  rw [holmValue_le_iff pvalues p (holmValue_nonneg pvalues q)]
  intro r listed under
  have largest := (holmValue_le_iff pvalues q (holmValue_nonneg pvalues q)).mp (le_refl _)
  exact largest r listed (under.trans below)

theorem atLeast_perm {left right : List Rat} (same : left.Perm right) (p : Rat) :
    atLeast left p = atLeast right p :=
  (same.filter _).length_eq

theorem holmValue_perm {left right : List Rat} (same : left.Perm right) (p : Rat) :
    holmValue left p = holmValue right p := by
  have alike : ∀ q, capped left q = capped right q := fun q => by
    rw [capped, capped, atLeast_perm same]
  apply le_antisymm
  · rw [holmValue_le_iff left p (holmValue_nonneg right p)]
    intro q listed below
    rw [alike q]
    exact (holmValue_le_iff right p (holmValue_nonneg right p)).mp (le_refl _) q
      (same.mem_iff.mp listed) below
  · rw [holmValue_le_iff right p (holmValue_nonneg left p)]
    intro q listed below
    rw [← alike q]
    exact (holmValue_le_iff left p (holmValue_nonneg left p)).mp (le_refl _) q
      (same.mem_iff.mpr listed) below

theorem le_holmValue {pvalues : List Rat} {p : Rat} (listed : p ∈ pvalues) (low : 0 ≤ p)
    (high : p ≤ 1) : p ≤ holmValue pvalues p := by
  have counted : 0 < atLeast pvalues p :=
    length_pos_of_mem (mem_filter.mpr ⟨listed, decide_eq_true (le_refl p)⟩)
  have one : (1 : Rat) ≤ atLeast pvalues p := Nat.one_le_cast.mpr counted
  have own : p ≤ capped pvalues p := le_min high (le_mul_of_one_le_left low one)
  exact own.trans ((holmValue_le_iff pvalues p (holmValue_nonneg pvalues p)).mp (le_refl _) p
    listed (le_refl p))

theorem holmValue_le {pvalues : List Rat} {p : Rat} (within : ∀ q, q ∈ pvalues → 0 ≤ q)
    (low : 0 ≤ p) : holmValue pvalues p ≤ min 1 (pvalues.length * p) := by
  have count : (0 : Rat) ≤ pvalues.length := Nat.cast_nonneg _
  rw [holmValue_le_iff pvalues p (le_min zero_le_one (mul_nonneg count low))]
  intro q listed below
  have fewer : (atLeast pvalues q : Rat) ≤ pvalues.length := Nat.cast_le.mpr (length_filter_le _ _)
  exact min_le_min (le_refl 1) (mul_le_mul fewer below (within q listed) count)

/-! ### The loop -/

theorem map_getD_range :
    ((List.range pvalues.length).map fun i => pvalues.getD i 0) = pvalues := by
  apply ext_getElem
  · rw [length_map, length_range]
  · intro i _ within
    rw [getElem_map, getElem_range, getD_eq_getElem _ _ within]

section

variable {pvalues : List Rat} {done rest : List Nat} {idx : Nat}

theorem Ascends.values {order : List Nat} (ascends : Ascends pvalues order) :
    (order.map fun i => pvalues.getD i 0).Perm pvalues := by
  have moved := ascends.whole.map fun i => pvalues.getD i 0
  rwa [map_getD_range] at moved

theorem Ascends.lt_length {order : List Nat} (ascends : Ascends pvalues order) {i : Nat}
    (listed : i ∈ order) : i < pvalues.length :=
  mem_range.mp (ascends.whole.mem_iff.mp listed)

theorem Ascends.before (ascends : Ascends pvalues (done ++ idx :: rest)) {i : Nat}
    (listed : i ∈ done) : pvalues.getD i 0 ≤ pvalues.getD idx 0 :=
  (pairwise_append.mp ascends.sorted).2.2 i listed idx mem_cons_self

theorem Ascends.after (ascends : Ascends pvalues (done ++ idx :: rest)) {i : Nat}
    (listed : i ∈ idx :: rest) : pvalues.getD idx 0 ≤ pvalues.getD i 0 := by
  rcases List.mem_cons.mp listed with same | later
  · rw [same]
  · exact (pairwise_cons.mp (pairwise_append.mp ascends.sorted).2.1).1 i later

theorem Ascends.atLeast_eq (ascends : Ascends pvalues (done ++ rest)) (p : Rat) :
    atLeast pvalues p =
      (done.filter fun i => p ≤ pvalues.getD i 0).length +
        (rest.filter fun i => p ≤ pvalues.getD i 0).length := by
  rw [← atLeast_perm ascends.values, atLeast, filter_map, length_map, filter_append, length_append]
  rfl

theorem Ascends.length_eq (ascends : Ascends pvalues (done ++ rest)) :
    pvalues.length = done.length + rest.length := by
  rw [← ascends.values.length_eq, length_map, length_append]

theorem Ascends.filter_after (ascends : Ascends pvalues (done ++ idx :: rest)) :
    ((idx :: rest).filter fun i => pvalues.getD idx 0 ≤ pvalues.getD i 0) = idx :: rest := by
  rw [filter_eq_self]
  intro i listed
  exact decide_eq_true (ascends.after listed)

theorem Ascends.factor_le (ascends : Ascends pvalues (done ++ idx :: rest)) :
    (pvalues.length : Rat) - done.length ≤ atLeast pvalues (pvalues.getD idx 0) := by
  have total := ascends.length_eq
  have counted := ascends.atLeast_eq (pvalues.getD idx 0)
  rw [ascends.filter_after] at counted
  have bound : pvalues.length ≤ atLeast pvalues (pvalues.getD idx 0) + done.length := by omega
  have cast : (pvalues.length : Rat) ≤ atLeast pvalues (pvalues.getD idx 0) + done.length := by
    exact_mod_cast bound
  linarith

theorem Ascends.factor_eq (ascends : Ascends pvalues (done ++ idx :: rest))
    (fresh : ∀ i, i ∈ done → pvalues.getD i 0 ≠ pvalues.getD idx 0) :
    (pvalues.length : Rat) - done.length = atLeast pvalues (pvalues.getD idx 0) := by
  have none_ : (done.filter fun i => pvalues.getD idx 0 ≤ pvalues.getD i 0) = [] := by
    rw [filter_eq_nil_iff]
    intro i listed reached
    exact fresh i listed (le_antisymm (ascends.before listed) (of_decide_eq_true reached))
  have total := ascends.length_eq
  have counted := ascends.atLeast_eq (pvalues.getD idx 0)
  rw [ascends.filter_after, none_, length_nil] at counted
  have bound : pvalues.length = atLeast pvalues (pvalues.getD idx 0) + done.length := by omega
  have cast : (pvalues.length : Rat) = atLeast pvalues (pvalues.getD idx 0) + done.length := by
    exact_mod_cast bound
  linarith

/-- What the running maximum is after the indices `done`. -/
structure Running (pvalues : List Rat) (done : List Nat) (runningMax : Rat) : Prop where
  floor : 0 ≤ runningMax
  largest : ∀ α, 0 ≤ α →
    (runningMax ≤ α ↔ ∀ i, i ∈ done → capped pvalues (pvalues.getD i 0) ≤ α)

theorem running_nil (pvalues : List Rat) : Running pvalues [] 0 where
  floor := le_refl 0
  largest := fun _ floor => iff_of_true floor fun _ listed => absurd listed not_mem_nil

theorem Running.step {runningMax : Rat} (running : Running pvalues done runningMax)
    (ascends : Ascends pvalues (done ++ idx :: rest)) (low : 0 ≤ pvalues.getD idx 0) :
    Running pvalues (done ++ [idx])
      (max runningMax (min 1 ((pvalues.length - done.length) * pvalues.getD idx 0))) := by
  constructor
  · exact running.floor.trans (le_max_left _ _)
  · intro α floor
    rw [max_le_iff, running.largest α floor]
    have less : min 1 (((pvalues.length : Rat) - done.length) * pvalues.getD idx 0) ≤
        capped pvalues (pvalues.getD idx 0) :=
      min_le_min (le_refl 1) (mul_le_mul_of_nonneg_right ascends.factor_le low)
    constructor
    · intro both i listed
      rcases mem_append.mp listed with earlier | last
      · exact both.1 i earlier
      · rw [mem_singleton.mp last]
        by_cases fresh : ∀ i, i ∈ done → pvalues.getD i 0 ≠ pvalues.getD idx 0
        · rw [capped, ← ascends.factor_eq fresh]
          exact both.2
        · push Not at fresh
          obtain ⟨twin, earlier, same⟩ := fresh
          rw [← same]
          exact both.1 twin earlier
    · intro bounded
      constructor
      · intro i earlier
        exact bounded i (mem_append_left _ earlier)
      · exact less.trans (bounded idx (mem_append_right _ mem_cons_self))

theorem Running.eq_holmValue {runningMax : Rat}
    (running : Running pvalues (done ++ [idx]) runningMax)
    (ascends : Ascends pvalues (done ++ idx :: rest)) :
    runningMax = holmValue pvalues (pvalues.getD idx 0) := by
  have inside : ∀ i, i ∈ done ++ idx :: rest → pvalues.getD i 0 ∈ pvalues := fun i listed =>
    ascends.values.mem_iff.mp (mem_map_of_mem listed)
  apply le_antisymm
  · rw [running.largest _ (holmValue_nonneg pvalues _)]
    intro i listed
    have largest := (holmValue_le_iff pvalues (pvalues.getD idx 0)
      (holmValue_nonneg pvalues _)).mp (le_refl _)
    rcases mem_append.mp listed with earlier | last
    · exact largest _ (inside i (mem_append_left _ earlier)) (ascends.before earlier)
    · rw [mem_singleton.mp last]
      exact largest _ (inside idx (mem_append_right _ mem_cons_self)) (le_refl _)
  · rw [holmValue_le_iff pvalues _ running.floor]
    intro q listed below
    have largest := (running.largest runningMax running.floor).mp (le_refl _)
    obtain ⟨i, inOrder, rfl⟩ := mem_map.mp (ascends.values.mem_iff.mpr listed)
    rcases mem_append.mp inOrder with earlier | later
    · exact largest i (mem_append_left _ earlier)
    · -- not below the p-value at hand, so equal to it
      rw [le_antisymm below (ascends.after later)]
      exact largest idx (mem_append_right _ mem_cons_self)

theorem Ascends.shift (ascends : Ascends pvalues (done ++ idx :: rest)) :
    Ascends pvalues ((done ++ [idx]) ++ rest) := by
  rwa [append_assoc]

theorem ascends_sorted (pvalues : List Rat) : Ascends pvalues
    ((List.range pvalues.length).insertionSort fun i j => pvalues.getD i 0 ≤ pvalues.getD j 0) where
  whole := perm_insertionSort _ _
  sorted := by
    have : Std.Total fun i j => pvalues.getD i 0 ≤ pvalues.getD j 0 := ⟨fun i j => le_total _ _⟩
    have : IsTrans Nat fun i j => pvalues.getD i 0 ≤ pvalues.getD j 0 :=
      ⟨fun i j k => le_trans⟩
    exact pairwise_insertionSort _ _

end

section

variable {pvalues : List Rat} (within : ∀ p, p ∈ pvalues → 0 ≤ p ∧ p ≤ 1)

include within

theorem getD_nonneg {i : Nat} (inside : i < pvalues.length) : 0 ≤ pvalues.getD i 0 := by
  rw [getD_eq_getElem _ _ inside]
  exact (within _ (getElem_mem inside)).1

theorem holmLoop_spec (done rest : List Nat) {runningMax : Rat} (adjusted : List Rat)
    (ascends : Ascends pvalues (done ++ rest)) (running : Running pvalues done runningMax)
    (full : adjusted.length = pvalues.length) :
    (holmLoop pvalues done.length rest runningMax adjusted).length = pvalues.length ∧
      ∀ i, (holmLoop pvalues done.length rest runningMax adjusted).getD i 0 =
        if i ∈ rest then holmValue pvalues (pvalues.getD i 0) else adjusted.getD i 0 := by
  induction rest generalizing done runningMax adjusted with
  | nil => exact ⟨full, fun i => (if_neg not_mem_nil).symm⟩
  | cons idx rest ih =>
      have inside := ascends.lt_length (mem_append_right done mem_cons_self)
      have next := running.step ascends (getD_nonneg within inside)
      have value := next.eq_holmValue ascends
      have tail := ih (done ++ [idx]) (adjusted.set idx (max runningMax
        (min 1 ((pvalues.length - done.length) * pvalues.getD idx 0)))) ascends.shift next
        (by rw [length_set, full])
      rw [length_append, length_singleton] at tail
      constructor
      · exact tail.1
      · intro i
        rw [holmLoop, tail.2 i, value]
        by_cases later : i ∈ rest
        · rw [if_pos later, if_pos (mem_cons_of_mem idx later)]
        · rw [if_neg later]
          by_cases same : i = idx
          · rw [same, if_pos mem_cons_self, getD_eq_getElem?_getD,
              List.getElem?_set_self (full ▸ inside), Option.getD_some]
          · rw [if_neg fun listed => (List.mem_cons.mp listed).elim same later,
              getD_eq_getElem?_getD, List.getElem?_set_ne (Ne.symm same),
              ← getD_eq_getElem?_getD]

theorem holmCorrection_eq : holmCorrection pvalues = .ok (pvalues.map (holmValue pvalues)) := by
  rw [holmCorrection]
  by_cases empty : pvalues.length = 0
  · rw [length_eq_zero_iff.mp empty]
    rfl
  · have inUnit : (pvalues.find? fun p => ¬ (0 ≤ p ∧ p ≤ 1)) = none := by
      rw [List.find?_eq_none]
      intro p listed outside
      exact of_decide_eq_true outside (within p listed)
    have loop := holmLoop_spec within []
      ((List.range pvalues.length).insertionSort fun i j => pvalues.getD i 0 ≤ pvalues.getD j 0)
      (List.replicate pvalues.length 0) (ascends_sorted pvalues) (running_nil pvalues)
      length_replicate
    rw [length_nil] at loop
    dsimp only
    rw [if_neg empty, inUnit]
    refine congrArg Except.ok ?_
    apply ext_getElem
    · rw [length_map]
      exact loop.1
    · intro i inLoop inMap
      have inside : i < pvalues.length := by rwa [length_map] at inMap
      have value := loop.2 i
      rw [if_pos ((mem_insertionSort _).mpr (mem_range.mpr inside)), getD_eq_getElem _ _ inLoop,
        getD_eq_getElem _ _ inside] at value
      rw [getElem_map]
      exact value

theorem mem_stepDown_iff (done rest : List Nat) {runningMax α : Rat} (high : α < 1)
    (ascends : Ascends pvalues (done ++ rest)) (running : Running pvalues done runningMax)
    (rejected : runningMax ≤ α) {i : Nat} (listed : i ∈ rest) :
    i ∈ stepDown pvalues α done.length rest ↔ holmValue pvalues (pvalues.getD i 0) ≤ α := by
  induction rest generalizing done runningMax with
  | nil => exact absurd listed not_mem_nil
  | cons idx rest ih =>
      have inside := ascends.lt_length (mem_append_right done mem_cons_self)
      have next := running.step ascends (getD_nonneg within inside)
      have value := next.eq_holmValue ascends
      have total := ascends.length_eq
      have positive : (0 : Rat) < pvalues.length - done.length := by
        have fewer : (done.length : Rat) < pvalues.length := by
          rw [Nat.cast_lt, total, length_cons]
          omega
        linarith
      have test : pvalues.getD idx 0 ≤ α / (pvalues.length - done.length) ↔
          holmValue pvalues (pvalues.getD idx 0) ≤ α := by
        rw [le_div_iff₀ positive, mul_comm, ← value, max_le_iff, min_le_iff]
        constructor
        · intro within_
          exact ⟨rejected, .inr within_⟩
        · intro both
          exact both.2.resolve_left (not_le.mpr high)
      rw [stepDown]
      by_cases goesOn : pvalues.getD idx 0 ≤ α / (pvalues.length - done.length)
      · have head := test.mp goesOn
        rw [if_pos goesOn, List.mem_cons]
        rcases List.mem_cons.mp listed with same | later
        · rw [same]
          exact iff_of_true (.inl rfl) head
        · have tail := ih (done ++ [idx]) ascends.shift next (value ▸ head) later
          rw [length_append, length_singleton] at tail
          rw [← tail]
          constructor
          · intro either
            rcases either with same | inTail
            · rw [same] at tail ⊢
              exact tail.mpr head
            · exact inTail
          · exact .inr
      · rw [if_neg goesOn]
        apply iff_of_false not_mem_nil
        intro bounded
        exact goesOn (test.mpr ((holmValue_mono pvalues (ascends.after listed)).trans bounded))

end

/-! ### Holm's adjustment -/

/-- The adjustment is the step-down procedure. -/
theorem holm_correction_step_down (pvalues : List Rat)
    (within : ∀ p, p ∈ pvalues → 0 ≤ p ∧ p ≤ 1) :
    ∃ adjusted, holmCorrection pvalues = .ok adjusted ∧ adjusted.length = pvalues.length ∧
      (∀ α, 0 ≤ α → α < 1 → ∀ order, Ascends pvalues order → ∀ i, i < pvalues.length →
        (adjusted.getD i 0 ≤ α ↔ i ∈ stepDown pvalues α 0 order)) ∧
      (∀ i, i < pvalues.length → pvalues.getD i 0 ≤ adjusted.getD i 0 ∧
        adjusted.getD i 0 ≤ min 1 (pvalues.length * pvalues.getD i 0)) ∧
      (∀ i j, i < pvalues.length → j < pvalues.length →
        (pvalues.getD i 0 ≤ pvalues.getD j 0 → adjusted.getD i 0 ≤ adjusted.getD j 0) ∧
        (pvalues.getD i 0 = pvalues.getD j 0 → adjusted.getD i 0 = adjusted.getD j 0)) ∧
      ∀ order : List Nat, order.Perm (List.range pvalues.length) →
        holmCorrection (order.map fun i => pvalues.getD i 0) =
          .ok (order.map fun i => adjusted.getD i 0) := by
  have entry : ∀ i, i < pvalues.length → (pvalues.map (holmValue pvalues)).getD i 0 =
      holmValue pvalues (pvalues.getD i 0) := by
    intro i inside
    rw [getD_eq_getElem _ _ (by rwa [length_map]), getElem_map, getD_eq_getElem _ _ inside]
  have member : ∀ i, i < pvalues.length → pvalues.getD i 0 ∈ pvalues := by
    intro i inside
    rw [getD_eq_getElem _ _ inside]
    exact getElem_mem inside
  refine ⟨pvalues.map (holmValue pvalues), holmCorrection_eq within, length_map _, ?_, ?_, ?_, ?_⟩
  · intro α low high order ascends i inside
    rw [entry i inside]
    exact (mem_stepDown_iff within [] order high ascends (running_nil pvalues) low
      (ascends.whole.mem_iff.mpr (mem_range.mpr inside))).symm
  · intro i inside
    have unit := within _ (member i inside)
    rw [entry i inside]
    exact ⟨le_holmValue (member i inside) unit.1 unit.2,
      holmValue_le (fun q listed => (within q listed).1) unit.1⟩
  · intro i j left right
    rw [entry i left, entry j right]
    exact ⟨holmValue_mono pvalues, congrArg _⟩
  · intro order same
    have moved : (order.map fun i => pvalues.getD i 0).Perm pvalues := by
      have values := same.map fun i => pvalues.getD i 0
      rwa [map_getD_range] at values
    rw [holmCorrection_eq fun p listed => within p (moved.mem_iff.mp listed), map_map]
    refine congrArg Except.ok (map_congr_left fun i listed => ?_)
    rw [entry i (mem_range.mp (same.mem_iff.mp listed))]
    exact holmValue_perm moved _

theorem holm_correction_step_down_tied : ∃ adjusted,
    holmCorrection [1 / 100, 3 / 100, 1 / 100] = .ok adjusted ∧
      adjusted.getD 0 0 = adjusted.getD 2 0 ∧ adjusted.getD 0 0 ≤ adjusted.getD 1 0 := by
  have unit : ∀ p, p ∈ [(1 : Rat) / 100, 3 / 100, 1 / 100] → 0 ≤ p ∧ p ≤ 1 := by
    intro p listed
    simp only [List.mem_cons, not_mem_nil, or_false] at listed
    rcases listed with rfl | rfl | rfl <;> norm_num
  obtain ⟨adjusted, answer, _, _, _, alike, _⟩ := holm_correction_step_down _ unit
  refine ⟨adjusted, answer, (alike 0 2 (by decide) (by decide)).2 rfl,
    (alike 0 1 (by decide) (by decide)).1 ?_⟩
  change (1 : Rat) / 100 ≤ 3 / 100
  norm_num

end LedgerStats

end AgenticRuntime
