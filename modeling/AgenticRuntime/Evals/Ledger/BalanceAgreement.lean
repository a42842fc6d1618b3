/-
Where the store's check of the arms and the caveat of the verdict agree.

They read the same sets as long as ok trials are of planned arms and every cell with an ok
trial has active trials, which are all ok.
-/

import AgenticRuntime.Evals.Ledger.ActiveRows
import AgenticRuntime.Evals.Ledger.ArmBalance

namespace AgenticRuntime

open List hiding le_refl

namespace EvalLedger

open Python Sql LedgerStore Corrections

/-! ### What the two checks compare -/

theorem exists_differs_iff {Arm : Type} (sets : Arm → List Pair) (first : Arm) (rest : List Arm) :
    (∃ arm ∈ rest, setsDiffer (sets arm) (sets first) = true) ↔
      ∃ left ∈ first :: rest, ∃ right ∈ first :: rest,
        (sets left).toFinset ≠ (sets right).toFinset := by
  constructor
  · rintro ⟨arm, member, differ⟩
    exact ⟨arm, mem_cons_of_mem _ member, first, mem_cons_self, of_decide_eq_true differ⟩
  · rintro ⟨left, leftMember, right, rightMember, differ⟩
    by_contra alike
    have same : ∀ arm ∈ first :: rest, (sets arm).toFinset = (sets first).toFinset := by
      intro arm member
      rcases List.mem_cons.mp member with itself | later
      · rw [itself]
      · by_contra apart
        exact alike ⟨arm, later, decide_eq_true apart⟩
    exact differ ((same left leftMember).trans (same right rightMember).symm)

variable {waveId : String} {db : Tables} {arm armId : Sql.Value}

theorem compareArms_raises_iff {pairs : Sql.Value → List Pair} {arms : List Sql.Value} :
    (∃ reference arm missing extra,
      compareArms waveId pairs arms = .error (.armsUnbalanced waveId reference arm missing extra)) ↔
      ∃ left ∈ arms, ∃ right ∈ arms, (pairs left).toFinset ≠ (pairs right).toFinset := by
  cases arms with
  | nil =>
      constructor
      · rintro ⟨_, _, _, _, raised⟩
        cases raised
      · rintro ⟨left, listed, _⟩
        cases listed
  | cons reference others =>
      rw [← exists_differs_iff]
      cases search : others.find? fun arm => setsDiffer (pairs arm) (pairs reference) with
      | none =>
          constructor
          · rintro ⟨_, _, _, _, raised⟩
            simp only [compareArms, search] at raised
            cases raised
          · rintro ⟨arm, listed, differ⟩
            exact absurd differ (List.find?_eq_none.mp search arm listed)
      | some arm =>
          have differs := List.find?_some search
          constructor
          · intro _
            exact ⟨arm, mem_of_find?_eq_some search, differs⟩
          · intro _
            simp only [compareArms, search]
            exact ⟨_, _, _, _, rfl⟩

theorem raisesUnbalanced_iff (known : ∃ wave ∈ db .wave, wave.get "wave_id" = .text waveId) :
    RaisesUnbalanced db waveId ↔
      ∃ left ∈ Items.keys (byArm db waveId), ∃ right ∈ Items.keys (byArm db waveId),
        (armPairs db waveId left).toFinset ≠ (armPairs db waveId right).toFinset := by
  have found : ((db .wave).any fun wave => (wave.get "wave_id").equals (.text waveId)) = true := by
    obtain ⟨wave, stored, same⟩ := known
    refine any_eq_true.mpr ⟨wave, stored, ?_⟩
    rw [same]
    exact decide_eq_true ⟨Sql.Value.noConfusion, rfl⟩
  unfold RaisesUnbalanced checkArmBalance
  rw [if_pos found, compareArms_raises_iff]
  simp only [mem_insertionSort]

theorem anyDiffers_iff {Arm : Type} (sets : Arm → List Pair) (arms : List Arm) :
    anyDiffers (arms.map sets) = true ↔
      ∃ left ∈ arms, ∃ right ∈ arms, (sets left).toFinset ≠ (sets right).toFinset := by
  cases arms with
  | nil => simp only [map_nil, anyDiffers, Bool.false_eq_true, not_mem_nil, false_and, exists_false]
  | cons first rest =>
      rw [← exists_differs_iff]
      simp only [map_cons, anyDiffers, any_map, any_eq_true, Function.comp_apply]

theorem mem_foldl_addPair {start : List (Sql.Value × List Pair)} {trials : List Row} {pair : Pair} :
    pair ∈ (Items.get? (trials.foldl addPair start) arm).getD [] ↔
      pair ∈ (Items.get? start arm).getD [] ∨
        ∃ trial ∈ trials, trial.get "arm_id" = arm ∧ pairOf trial = pair := by
  induction trials generalizing start with
  | nil => simp only [foldl_nil, not_mem_nil, false_and, exists_false, or_false]
  | cons trial rest ih =>
      rw [foldl_cons, ih]
      unfold addPair
      rw [Items.get?_insert]
      by_cases same : trial.get "arm_id" = arm
      · subst same
        simp only [if_pos, Option.getD_some, mem_append, mem_singleton, exists_mem_cons_iff,
          true_and, eq_comm (a := pair), or_assoc]
      · rw [if_neg same]
        simp only [exists_mem_cons_iff, same, false_and, false_or]

theorem mem_keys_foldl_addPair {start : List (Sql.Value × List Pair)} {trials : List Row} :
    arm ∈ Items.keys (trials.foldl addPair start) ↔
      arm ∈ Items.keys start ∨ ∃ trial ∈ trials, trial.get "arm_id" = arm := by
  induction trials generalizing start with
  | nil => simp only [foldl_nil, not_mem_nil, false_and, exists_false, or_false]
  | cons trial rest ih =>
      rw [foldl_cons, ih]
      unfold addPair
      rw [Items.mem_keys_insert, exists_mem_cons_iff, or_assoc, eq_comm]

theorem mem_keys_byArm :
    arm ∈ Items.keys (byArm db waveId) ↔ arm ∈ plannedArms db waveId ∨
      ∃ trial ∈ okTrials db waveId, trial.get "arm_id" = arm := by
  unfold byArm
  rw [mem_keys_foldl_addPair]
  simp only [Items.keys, map_map, Function.comp_def, map_id']

theorem mem_armPairs {pair : Pair} :
    pair ∈ armPairs db waveId arm ↔
      ∃ trial ∈ okTrials db waveId, trial.get "arm_id" = arm ∧ pairOf trial = pair := by
  unfold armPairs byArm
  rw [mem_foldl_addPair]
  apply or_iff_right
  intro listed
  cases found : Items.get? ((plannedArms db waveId).map fun arm => (arm, ([] : List Pair))) arm with
  | none =>
      rw [found] at listed
      cases listed
  | some pairs =>
      obtain ⟨planned, _, same⟩ := mem_map.mp (Items.mem_of_get? found)
      cases same
      rw [found] at listed
      cases listed

theorem mem_armTrials {trial : Row} :
    trial ∈ armTrials db waveId armId ↔ trial ∈ activeTrial db ∧
      trial.get "wave_id" = .text waveId ∧ trial.get "arm_id" = armId ∧ armId ≠ .null := by
  unfold armTrials Sql.Value.equals
  rw [mem_filter, Bool.and_eq_true, decide_eq_true_eq, decide_eq_true_eq]
  constructor
  · rintro ⟨listed, ⟨_, wave⟩, given, arm⟩
    exact ⟨listed, wave, arm, arm ▸ given⟩
  · rintro ⟨listed, wave, arm, given⟩
    refine ⟨listed, ⟨?_, wave⟩, arm ▸ given, arm⟩
    rw [wave]
    exact Sql.Value.noConfusion

theorem mem_instanceRows {pair : Pair} {status : Sql.Value} :
    (∃ outcome, (pair, status, outcome) ∈ instanceRows db waveId armId) ↔
      ∃ trial ∈ armTrials db waveId armId, pairOf trial = pair ∧ trial.get "op_status" = status := by
  unfold instanceRows
  simp only [mem_flatMap]
  constructor
  · rintro ⟨outcome, trial, listed, row⟩
    refine ⟨trial, listed, ?_⟩
    split at row
    · cases mem_singleton.mp row
      exact ⟨rfl, rfl⟩
    · obtain ⟨grade, _, same⟩ := mem_map.mp row
      cases same
      exact ⟨rfl, rfl⟩
  · rintro ⟨trial, listed, rfl, rfl⟩
    cases graded : (activeGrade db).filter fun grade =>
        (grade.get "trial_id").equals (trial.get "trial_id") with
    | nil =>
        refine ⟨.null, trial, listed, ?_⟩
        rw [graded]
        exact mem_singleton_self _
    | cons grade rest =>
        refine ⟨grade.get "outcome", trial, listed, ?_⟩
        rw [graded]
        exact mem_cons_self

theorem mem_okCells {pair : Pair}
    (uniform : ∀ trial ∈ armTrials db waveId armId, ∀ other ∈ armTrials db waveId armId,
      pairOf trial = pairOf other → isOk trial = true → isOk other = true) :
    pair ∈ okCells db waveId armId ↔
      ∃ trial ∈ armTrials db waveId armId, pairOf trial = pair ∧ isOk trial = true := by
  unfold okCells instanceStatuses
  rw [mem_map]
  simp only [mem_filter]
  constructor
  · rintro ⟨⟨key, status, outcome⟩, ⟨listed, ok⟩, rfl⟩
    rcases Items.mem_update listed with nothing | row
    · cases nothing
    · obtain ⟨trial, member, same, given⟩ := mem_instanceRows.mp ⟨outcome, row⟩
      refine ⟨trial, member, same, ?_⟩
      unfold isOk
      rw [given]
      exact ok
  · rintro ⟨trial, member, same, ok⟩
    obtain ⟨outcome, row⟩ := mem_instanceRows.mpr ⟨trial, member, same, rfl⟩
    have keyed : pair ∈ Items.keys (Items.update [] (instanceRows db waveId armId)) :=
      Items.mem_keys_update.mpr (.inr (mem_map_of_mem row))
    obtain ⟨⟨key, status, last⟩, listed, rfl⟩ := mem_map.mp keyed
    refine ⟨(key, status, last), ⟨listed, ?_⟩, rfl⟩
    rcases Items.mem_update listed with nothing | row
    · cases nothing
    · obtain ⟨other, otherMember, otherSame, given⟩ := mem_instanceRows.mp ⟨last, row⟩
      have stays := uniform trial member other otherMember (same.trans otherSame.symm) ok
      unfold isOk at stays
      rw [given] at stays
      exact stays

theorem mem_armsInWave (sound : Sound db) :
    (∃ arm ∈ armsInWave db waveId, arm.1 = armId) ↔ armId ∈ plannedArms db waveId := by
  unfold armsInWave plannedArms
  simp only [mem_insertionSort, mem_dedup, mem_flatMap, mem_map, mem_filter]
  constructor
  · rintro ⟨_, ⟨cell, planned, arm, ⟨_, same⟩, rfl⟩, rfl⟩
    exact ⟨cell, planned, (of_decide_eq_true same).2.symm⟩
  · rintro ⟨cell, planned, rfl⟩
    have key : references "arm_id" .arm "arm_id" ∈ (schema .planCell).foreignKeys := by decide
    rcases sound.consistent.closed .planCell cell planned.1 _ key with nothing | found
    · have given : cell.get "arm_id" ≠ .null :=
        sound.keyed .planCell cell planned.1 "arm_id" (by decide)
      exact absurd nothing given
    · obtain ⟨arm, stored, same⟩ := found
      have given : arm.get "arm_id" ≠ .null := sound.keyed .arm arm stored "arm_id" (by decide)
      exact ⟨_, ⟨cell, planned, arm, ⟨stored, decide_eq_true ⟨given, same⟩⟩, rfl⟩, same⟩

/-! ### Ledgers whose trials read alike -/

def isPass (grade : Row) : Bool := (grade.get "outcome").equals (.text "pass")

/-- Ok trials are of planned arms, every cell with one has active trials and only ok ones, and
no trial has two active passing grades. -/
structure Comparable (db : Tables) : Prop where
  planned : ∀ trial ∈ db .trial, isOk trial = true → ∃ planned ∈ db .planCell,
    planned.get "wave_id" = trial.get "wave_id" ∧ planned.get "arm_id" = trial.get "arm_id"
  present : ∀ trial ∈ db .trial, isOk trial = true → ∃ other ∈ activeTrial db, cell other = cell trial
  alike : ∀ trial ∈ db .trial, isOk trial = true → ∀ other ∈ activeTrial db,
    cell other = cell trial → isOk other = true
  passes : ∀ grade ∈ activeGrade db, isPass grade = true → ∀ other ∈ activeGrade db,
    isPass other = true → grade.get "trial_id" = other.get "trial_id" → grade = other

theorem cell_eq_iff {left right : Row} : cell left = cell right ↔
    left.get "wave_id" = right.get "wave_id" ∧ left.get "arm_id" = right.get "arm_id" ∧
      pairOf left = pairOf right := by
  unfold cell cellColumns pairOf
  simp only [map_cons, map_nil, List.cons.injEq, and_true, Prod.mk.injEq]

theorem mem_trial_of_active {trial : Row} (listed : trial ∈ activeTrial db) :
    trial ∈ db .trial := (mem_filter.mp listed).1

theorem Comparable.okCells_eq (comparable : Comparable db) (given : armId ≠ .null) :
    (armPairs db waveId armId).toFinset = (okCells db waveId armId).toFinset := by
  have uniform : ∀ trial ∈ armTrials db waveId armId, ∀ other ∈ armTrials db waveId armId,
      pairOf trial = pairOf other → isOk trial = true → isOk other = true := by
    intro trial member other otherMember same ok
    obtain ⟨active, wave, arm, _⟩ := mem_armTrials.mp member
    obtain ⟨otherActive, otherWave, otherArm, _⟩ := mem_armTrials.mp otherMember
    apply comparable.alike trial (mem_trial_of_active active) ok other otherActive
    exact cell_eq_iff.mpr
      ⟨otherWave.trans wave.symm, otherArm.trans arm.symm, same.symm⟩
  ext pair
  rw [mem_toFinset, mem_toFinset, mem_armPairs, mem_okCells uniform]
  constructor
  · rintro ⟨trial, listed, arm, same⟩
    obtain ⟨stored, wanted⟩ := mem_filter.mp listed
    obtain ⟨inWave, ok⟩ := Bool.and_eq_true_iff.mp wanted
    obtain ⟨other, active, sameCell⟩ := comparable.present trial stored ok
    obtain ⟨wave, sameArm, samePair⟩ := cell_eq_iff.mp sameCell
    refine ⟨other, mem_armTrials.mpr ⟨active, ?_, sameArm.trans arm, given⟩, samePair.trans same,
      comparable.alike trial stored ok other active sameCell⟩
    exact wave.trans (of_decide_eq_true inWave).2
  · rintro ⟨trial, listed, same, ok⟩
    obtain ⟨active, wave, arm, _⟩ := mem_armTrials.mp listed
    refine ⟨trial, mem_filter.mpr ⟨mem_trial_of_active active, ?_⟩, arm, same⟩
    rw [ok, Bool.and_true]
    unfold Sql.Value.equals
    rw [wave]
    exact decide_eq_true ⟨Sql.Value.noConfusion, rfl⟩

theorem Sound.planned_given (sound : Sound db) (listed : armId ∈ plannedArms db waveId) :
    armId ≠ .null := by
  obtain ⟨cell, planned, same⟩ := mem_map.mp (mem_dedup.mp listed)
  rw [← same]
  exact sound.keyed .planCell cell (mem_filter.mp planned).1 "arm_id" (by decide)

theorem Comparable.keys_byArm (comparable : Comparable db) :
    arm ∈ Items.keys (byArm db waveId) ↔ arm ∈ plannedArms db waveId := by
  rw [mem_keys_byArm]
  apply or_iff_left_of_imp
  rintro ⟨trial, listed, rfl⟩
  obtain ⟨stored, wanted⟩ := mem_filter.mp listed
  obtain ⟨inWave, ok⟩ := Bool.and_eq_true_iff.mp wanted
  obtain ⟨planned, there, wave, arm⟩ := comparable.planned trial stored ok
  refine mem_dedup.mpr (mem_map.mpr ⟨planned, mem_filter.mpr ⟨there, ?_⟩, arm⟩)
  rw [wave]
  exact inWave

/-! ### Pass rates -/

theorem length_le_one {rows : List Row} (distinct : rows.Nodup)
    (equal : ∀ left ∈ rows, ∀ right ∈ rows, left = right) : rows.length ≤ 1 := by
  cases rows with
  | nil => exact Nat.zero_le 1
  | cons first rest =>
      cases rest with
      | nil => exact le_refl 1
      | cons second rest =>
          have same := equal first mem_cons_self second
            (mem_cons_of_mem _ mem_cons_self)
          exact absurd (same ▸ mem_cons_self) (nodup_cons.mp distinct).1

theorem Comparable.nPass_le (comparable : Comparable db) (sound : Sound db) (waveId : String)
    (armId : Sql.Value) :
    ((verdicts db waveId armId).countP fun grade => grade.get "outcome" = .text "pass") ≤
      (armTrials db waveId armId).length := by
  have distinct : (activeGrade db).Nodup := by
    have keys := (sound.kept grade_correctable fun grade => grade.get "trial_id").distinct
    exact (List.Nodup.of_map _ keys).filter _
  have once : ∀ trial : Row, (((activeGrade db).filter fun grade =>
      (grade.get "trial_id").equals (trial.get "trial_id") && grade.get "outcome" ≠ .null).countP
        fun grade => grade.get "outcome" = .text "pass") ≤ 1 := by
    intro trial
    rw [countP_eq_length_filter]
    apply length_le_one ((distinct.filter _).filter _)
    have facts : ∀ grade ∈ ((activeGrade db).filter fun grade =>
        (grade.get "trial_id").equals (trial.get "trial_id") && grade.get "outcome" ≠ .null).filter
          fun grade => grade.get "outcome" = .text "pass",
        grade ∈ activeGrade db ∧ grade.get "trial_id" = trial.get "trial_id" ∧
          isPass grade = true := by
      intro grade listed
      obtain ⟨joined, passed⟩ := mem_filter.mp listed
      obtain ⟨active, matching⟩ := mem_filter.mp joined
      have outcome := of_decide_eq_true passed
      refine ⟨active, (of_decide_eq_true (Bool.and_eq_true_iff.mp matching).1).2, ?_⟩
      unfold isPass
      rw [outcome]
      rfl
    intro left leftListed right rightListed
    obtain ⟨leftActive, leftTrial, leftPass⟩ := facts left leftListed
    obtain ⟨rightActive, rightTrial, rightPass⟩ := facts right rightListed
    exact comparable.passes left leftActive leftPass right rightActive rightPass
      (leftTrial.trans rightTrial.symm)
  unfold verdicts
  induction armTrials db waveId armId with
  | nil => exact le_refl _
  | cons trial rest ih =>
      rw [flatMap_cons, countP_append, length_cons]
      have head := once trial
      omega

section

variable {Interval Statistics : Type} (interval : Nat → Nat → Interval)
  (statistics : Tables → String → Except String Statistics)

theorem unbalanced_mem_caveats {db : Tables} {waveId : String} {rates : List (ArmPassRate Interval)} :
    .unbalanced ∈ caveats db waveId rates ↔
      anyDiffers (rates.map fun rate => okCells db waveId rate.armId) = true := by
  unfold caveats
  simp only [mem_append]
  constructor
  · rintro (incomplete | unbalanced)
    · split at incomplete
      · cases incomplete
      · cases mem_singleton.mp incomplete
    · split at unbalanced
      · rename_i differs
        exact differs
      · cases unbalanced
  · intro differs
    right
    rw [if_pos differs]
    exact mem_singleton_self _

theorem Comparable.agree {db : Tables} (comparable : Comparable db) (sound : Sound db)
    {waveId : String} (known : ∃ wave ∈ db .wave, wave.get "wave_id" = .text waveId)
    (given : ∃ figures, statistics db waveId = .ok figures) :
    RaisesUnbalanced db waveId ↔ ReportsUnbalanced interval statistics db waveId := by
  obtain ⟨figures, computed⟩ := given
  obtain ⟨rates, rated⟩ : ∃ rates, armPassRates interval db waveId = .ok rates := by
    apply exists_mapM_ok
    intro arm _
    exact exists_armPassRate interval (comparable.nPass_le sound waveId arm.1)
  have arms : rates.map ArmPassRate.armId = (armsInWave db waveId).map Prod.fst := by
    apply map_of_mapM_ok rated
    intro arm rate done
    obtain ⟨_, _, done⟩ := bind_ok done
    obtain ⟨_, _, done⟩ := bind_ok done
    cases done
    rfl
  have planned : ∀ armId, armId ∈ rates.map ArmPassRate.armId ↔ armId ∈ plannedArms db waveId := by
    intro armId
    rw [arms, ← mem_armsInWave sound, mem_map]
  have reported : ReportsUnbalanced interval statistics db waveId ↔
      anyDiffers (rates.map fun rate => okCells db waveId rate.armId) = true := by
    have whole : verdict interval statistics db waveId = .ok {
        passRates := rates
        statistics := figures
        completeness := completeness db waveId
        caveats := caveats db waveId rates } := by
      unfold verdict
      rw [rated, computed]
      rfl
    constructor
    · rintro ⟨result, done, listed, _⟩
      rw [whole] at done
      cases done
      exact unbalanced_mem_caveats.mp listed
    · intro differs
      have listed := @unbalanced_mem_caveats Interval db waveId rates |>.mpr differs
      refine ⟨_, whole, listed, ?_⟩
      exact isEmpty_eq_false_iff.mpr (ne_nil_of_mem listed)
  rw [reported, raisesUnbalanced_iff known, anyDiffers_iff]
  constructor
  · rintro ⟨left, leftKey, right, rightKey, differ⟩
    have leftPlanned := comparable.keys_byArm.mp leftKey
    have rightPlanned := comparable.keys_byArm.mp rightKey
    obtain ⟨leftRate, leftListed, rfl⟩ := mem_map.mp ((planned left).mpr leftPlanned)
    obtain ⟨rightRate, rightListed, rfl⟩ := mem_map.mp ((planned right).mpr rightPlanned)
    refine ⟨leftRate, leftListed, rightRate, rightListed, ?_⟩
    rw [← comparable.okCells_eq (sound.planned_given leftPlanned),
      ← comparable.okCells_eq (sound.planned_given rightPlanned)]
    exact differ
  · rintro ⟨left, leftListed, right, rightListed, differ⟩
    have leftPlanned := (planned left.armId).mp (mem_map_of_mem leftListed)
    have rightPlanned := (planned right.armId).mp (mem_map_of_mem rightListed)
    refine ⟨left.armId, comparable.keys_byArm.mpr leftPlanned, right.armId,
      comparable.keys_byArm.mpr rightPlanned, ?_⟩
    rw [comparable.okCells_eq (sound.planned_given leftPlanned),
      comparable.okCells_eq (sound.planned_given rightPlanned)]
    exact differ

end

end EvalLedger

end AgenticRuntime
