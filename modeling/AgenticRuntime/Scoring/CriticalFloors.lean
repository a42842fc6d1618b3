/-
Critical floors and the violations that block a pass.

A floor is tested on the exact score for the payload and on the rounded copy for the
violations.
-/

import AgenticRuntime.Scoring.EvaluationScoring

namespace AgenticRuntime

open List hiding not_le not_lt

namespace EvaluationScoring

open Python

/-! ### Recorded failures -/

def names (violations : List CriterionFloorResult) : List String :=
  violations.map CriterionFloorResult.criterion

variable {violations : List CriterionFloorResult} {violation : CriterionFloorResult}

theorem mem_recordFloorFailure {name : String} {floor value : Rat}
    (listed : violation ∈ recordFloorFailure violations name floor value) :
    violation ∈ violations ∨ (value < floor ∧ violation = ⟨name, floor, value⟩) := by
  rw [recordFloorFailure] at listed
  by_cases known : name ∈ violations.map CriterionFloorResult.criterion
  · rw [if_pos known] at listed
    exact .inl listed
  · rw [if_neg known] at listed
    by_cases missed : value < floor
    · rw [if_pos missed] at listed
      rcases mem_append.mp listed with earlier | last
      · exact .inl earlier
      · exact .inr ⟨missed, mem_singleton.mp last⟩
    · rw [if_neg missed] at listed
      exact .inl listed

theorem mem_names_recordFloorFailure (violations : List CriterionFloorResult)
    (name other : String) (floor value : Rat) :
    other ∈ names (recordFloorFailure violations name floor value) ↔
      other ∈ names violations ∨ (other = name ∧ value < floor) := by
  rw [recordFloorFailure]
  by_cases known : name ∈ violations.map CriterionFloorResult.criterion
  · rw [if_pos known]
    constructor
    · exact .inl
    · intro either
      rcases either with earlier | ⟨same, _⟩
      · exact earlier
      · rw [same]
        exact known
  · rw [if_neg known]
    by_cases missed : value < floor
    · rw [if_pos missed, names, names, map_append, mem_append, map_singleton, mem_singleton,
        and_iff_left missed]
    · rw [if_neg missed]
      constructor
      · exact .inl
      · intro either
        rcases either with earlier | ⟨_, below⟩
        · exact earlier
        · exact absurd below missed

theorem mem_recordFloorFailure_of_mem (listed : violation ∈ violations) (name : String)
    (floor value : Rat) : violation ∈ recordFloorFailure violations name floor value := by
  rw [recordFloorFailure]
  by_cases known : name ∈ violations.map CriterionFloorResult.criterion
  · rwa [if_pos known]
  · rw [if_neg known]
    by_cases missed : value < floor
    · rw [if_pos missed]
      exact mem_append_left _ listed
    · rwa [if_neg missed]

def BelowDeclared (payload : CriterionPayload) (floor : Rat) : Prop :=
  payload.criticalFloor = some floor ∧ payload.normalizedScore < floor

theorem mem_declared {criteria : List CriterionPayload}
    (listed : violation ∈ criteria.foldl recordDeclared violations) :
    violation ∈ violations ∨ ∃ payload floor, payload ∈ criteria ∧ BelowDeclared payload floor ∧
      violation = ⟨payload.criterion, floor, payload.normalizedScore⟩ := by
  induction criteria generalizing violations with
  | nil => exact .inl listed
  | cons first rest ih =>
      rcases ih listed with recorded | ⟨payload, floor, later, below, same⟩
      · rw [recordDeclared] at recorded
        cases declared : first.criticalFloor with
        | none =>
            rw [declared] at recorded
            exact .inl recorded
        | some floor =>
            rw [declared] at recorded
            rcases mem_recordFloorFailure recorded with earlier | ⟨missed, same⟩
            · exact .inl earlier
            · exact .inr ⟨first, floor, mem_cons_self, ⟨declared, missed⟩, same⟩
      · exact .inr ⟨payload, floor, mem_cons_of_mem first later, below, same⟩

theorem mem_names_declared (criteria : List CriterionPayload)
    (violations : List CriterionFloorResult) (name : String) :
    name ∈ names (criteria.foldl recordDeclared violations) ↔ name ∈ names violations ∨
      ∃ payload floor, payload ∈ criteria ∧ BelowDeclared payload floor ∧
        payload.criterion = name := by
  induction criteria generalizing violations with
  | nil =>
      constructor
      · exact .inl
      · intro either
        rcases either with earlier | ⟨payload, floor, listed, _⟩
        · exact earlier
        · cases listed
  | cons first rest ih =>
      rw [foldl_cons, ih, recordDeclared]
      have either : (∃ payload floor, payload ∈ first :: rest ∧ BelowDeclared payload floor ∧
          payload.criterion = name) ↔ (∃ floor, BelowDeclared first floor ∧
          first.criterion = name) ∨ ∃ payload floor, payload ∈ rest ∧
          BelowDeclared payload floor ∧ payload.criterion = name := by
        constructor
        · intro ⟨payload, floor, listed, below, same⟩
          rcases List.mem_cons.mp listed with head | later
          · exact .inl ⟨floor, head ▸ below, head ▸ same⟩
          · exact .inr ⟨payload, floor, later, below, same⟩
        · intro found
          rcases found with ⟨floor, below, same⟩ | ⟨payload, floor, later, below, same⟩
          · exact ⟨first, floor, mem_cons_self, below, same⟩
          · exact ⟨payload, floor, mem_cons_of_mem first later, below, same⟩
      rw [either, ← or_assoc]
      refine or_congr_left ?_
      cases declared : first.criticalFloor with
      | none =>
          constructor
          · exact .inl
          · intro found
            rcases found with earlier | ⟨floor, ⟨some_, _⟩, _⟩
            · exact earlier
            · rw [declared] at some_
              cases some_
      | some floor =>
          dsimp only
          rw [mem_names_recordFloorFailure]
          refine or_congr_right ⟨?_, ?_⟩
          · intro ⟨same, missed⟩
            exact ⟨floor, ⟨declared, missed⟩, same.symm⟩
          · intro ⟨other, ⟨some_, missed⟩, same⟩
            rw [declared] at some_
            cases some_
            exact ⟨same.symm, missed⟩

/-! ### The backstops -/

def backstopKey (keys : List String) (scores : Dict Rat) : Option String :=
  keys.find? fun key => (scores.get? key).isSome

def Backstop (scores : Dict Rat) (name : String) (minimum : Rat) : Prop :=
  (backstopKey correctnessKeys scores = some name ∧ minimum = 7 / 10) ∨
    (backstopKey validationKeys scores = some name ∧ minimum = 4 / 5)

def ThroughBackstop (scores : Dict Rat) (violation : CriterionFloorResult) : Prop :=
  Backstop scores violation.criterion violation.floor ∧
    scores.get? violation.criterion = some violation.normalizedScore ∧
    violation.normalizedScore < violation.floor

section

variable {scores : Dict Rat} {violations : List CriterionFloorResult} {keys : List String}
  {floor : Rat}

theorem get?_of_backstopKey {key : String} (found : backstopKey keys scores = some key) :
    ∃ score, scores.get? key = some score := by
  have present : (scores.get? key).isSome = true :=
    List.find?_some (p := fun key => (scores.get? key).isSome) found
  exact Option.isSome_iff_exists.mp present

theorem mem_recordBackstop {violation : CriterionFloorResult}
    (listed : violation ∈ recordBackstop keys floor scores violations) :
    violation ∈ violations ∨ (backstopKey keys scores = some violation.criterion ∧
      violation.floor = floor ∧ scores.get? violation.criterion = some violation.normalizedScore ∧
      violation.normalizedScore < floor) := by
  rw [recordBackstop, ← backstopKey] at listed
  cases found : backstopKey keys scores with
  | none =>
      rw [found] at listed
      exact .inl listed
  | some key =>
      rw [found] at listed
      obtain ⟨score, known⟩ := get?_of_backstopKey found
      rcases mem_recordFloorFailure listed with earlier | ⟨missed, rfl⟩
      · exact .inl earlier
      · rw [known, Option.getD_some] at missed ⊢
        exact .inr ⟨rfl, rfl, rfl, missed⟩

theorem mem_recordBackstop_of_mem {violation : CriterionFloorResult}
    (listed : violation ∈ violations) :
    violation ∈ recordBackstop keys floor scores violations := by
  rw [recordBackstop]
  cases keys.find? fun key => (scores.get? key).isSome with
  | none => exact listed
  | some key => exact mem_recordFloorFailure_of_mem listed key floor _

theorem mem_names_recordBackstop (name : String) :
    name ∈ names (recordBackstop keys floor scores violations) ↔ name ∈ names violations ∨
      (backstopKey keys scores = some name ∧ ∃ score, scores.get? name = some score ∧
        score < floor) := by
  rw [recordBackstop, ← backstopKey]
  cases found : backstopKey keys scores with
  | none =>
      constructor
      · exact .inl
      · intro either
        rcases either with earlier | ⟨absurd_, _⟩
        · exact earlier
        · cases absurd_
  | some key =>
      obtain ⟨score, known⟩ := get?_of_backstopKey found
      dsimp only
      rw [mem_names_recordFloorFailure, known, Option.getD_some]
      refine or_congr_right ⟨?_, ?_⟩
      · intro ⟨same, missed⟩
        rw [same]
        exact ⟨rfl, score, known, missed⟩
      · intro ⟨same, other, read, missed⟩
        cases same
        rw [known] at read
        cases read
        exact ⟨rfl, missed⟩

end

theorem mem_collectFloorViolations {criteria : List CriterionPayload} {scores : Dict Rat}
    (listed : violation ∈ collectFloorViolations criteria scores) :
    ThroughBackstop scores violation ∨ ∃ payload floor, payload ∈ criteria ∧
      BelowDeclared payload floor ∧
      violation = ⟨payload.criterion, floor, payload.normalizedScore⟩ := by
  rcases mem_recordBackstop listed with earlier | ⟨key, floor, known, missed⟩
  · rcases mem_recordBackstop earlier with declared | ⟨key, floor, known, missed⟩
    · rcases mem_declared declared with none_ | found
      · cases none_
      · exact .inr found
    · exact .inl ⟨.inl ⟨key, floor⟩, known, floor ▸ missed⟩
  · exact .inl ⟨.inr ⟨key, floor⟩, known, floor ▸ missed⟩

theorem mem_names_collectFloorViolations (criteria : List CriterionPayload) (scores : Dict Rat)
    (name : String) :
    name ∈ names (collectFloorViolations criteria scores) ↔
      (∃ payload floor, payload ∈ criteria ∧ BelowDeclared payload floor ∧
        payload.criterion = name) ∨
      ∃ minimum score, Backstop scores name minimum ∧ scores.get? name = some score ∧
        score < minimum := by
  rw [collectFloorViolations, mem_names_recordBackstop, mem_names_recordBackstop,
    mem_names_declared, or_assoc, or_assoc]
  constructor
  · intro found
    rcases found with none_ | declared | ⟨key, score, known, missed⟩ | ⟨key, score, known, missed⟩
    · cases none_
    · exact .inl declared
    · exact .inr ⟨7 / 10, score, .inl ⟨key, rfl⟩, known, missed⟩
    · exact .inr ⟨4 / 5, score, .inr ⟨key, rfl⟩, known, missed⟩
  · intro found
    rcases found with declared | ⟨minimum, score, ⟨key, rfl⟩ | ⟨key, rfl⟩, known, missed⟩
    · exact .inr (.inl declared)
    · exact .inr (.inr (.inl ⟨key, score, known, missed⟩))
    · exact .inr (.inr (.inr ⟨key, score, known, missed⟩))

/-! ### Scores from the inputs -/

def Setting.normalized (setting : Setting) (name : String) : Rat :=
  match normalizeScore (setting.computeCriterionScore name / 100)
      (formulaOf (setting.criteriaByName.get? name)) with
  | .ok score => score
  | .error _ => 0

def Setting.scored (setting : Setting) (item : String × Rat) : ScoredCriterion :=
  EvaluationScoring.scored item.1 item.2 (setting.computeCriterionScore item.1)
    (setting.normalized item.1) (setting.criteriaByName.get? item.1) setting.steps

def HeldTo (criteria : List String) (name : String) (minimum : Rat) : Prop :=
  ((correctnessKeys.find? fun key => key ∈ criteria) = some name ∧ minimum = 7 / 10) ∨
    ((validationKeys.find? fun key => key ∈ criteria) = some name ∧ minimum = 4 / 5)

def FloorsAgree (weights : Dict Rat) (setting : Setting) : Prop :=
  ∀ name, name ∈ weights.keys → ∀ floor,
    floorOf (setting.criteriaByName.get? name) = some floor →
      (setting.normalized name < floor → round4 (setting.normalized name) < floor ∨
        ∃ minimum, HeldTo weights.keys name minimum ∧ setting.normalized name < minimum) ∧
      (round4 (setting.normalized name) < floor → setting.normalized name < floor)

theorem get?_map_keys (items : List (String × Rat)) (read : String → Rat) (name : String) :
    Items.get? (items.map fun item => (item.1, read item.1)) name =
      if name ∈ Items.keys items then some (read name) else none := by
  induction items with
  | nil => rfl
  | cons item rest ih =>
      have keys : Items.keys (item :: rest) = item.1 :: Items.keys rest := rfl
      rw [map_cons, Items.get?, ih, keys]
      by_cases same : item.1 = name
      · rw [if_pos (beq_iff_eq.mpr same), if_pos (same ▸ mem_cons_self), same]
      · rw [if_neg fun equal => same (beq_iff_eq.mp equal)]
        by_cases later : name ∈ Items.keys rest
        · rw [if_pos later, if_pos (mem_cons_of_mem _ later)]
        · rw [if_neg later, if_neg fun listed =>
            (List.mem_cons.mp listed).elim (fun equal => same equal.symm) later]

section

variable {weights : Dict Rat} {setting : Setting}

theorem scoreCriterion_eq {item : String × Rat} {result : ScoredCriterion}
    (computed : scoreCriterion setting.steps setting.criteriaByName setting.computeCriterionScore
      item = .ok result) : result = setting.scored item := by
  rw [scoreCriterion] at computed
  rw [Setting.scored, Setting.normalized]
  cases normal : normalizeScore (setting.computeCriterionScore item.1 / 100)
      (formulaOf (setting.criteriaByName.get? item.1)) with
  | error failure =>
      rw [normal] at computed
      cases computed
  | ok score =>
      rw [normal] at computed
      cases computed
      rfl

theorem scores_eq {scores : CriteriaScores} (done : computeCriteriaScores weights setting.steps
      setting.criteriaByName setting.computeCriterionScore = .ok scores) :
    scores.criteria = weights.items.map (fun item => (setting.scored item).payload) ∧
      ∀ name, scores.normalizedScores.get? name =
        if name ∈ weights.keys then some (setting.normalized name) else none := by
  rw [computeCriteriaScores] at done
  cases computed : weights.items.mapM (scoreCriterion setting.steps setting.criteriaByName
      setting.computeCriterionScore) with
  | error failure =>
      rw [computed] at done
      cases done
  | ok all =>
      rw [computed] at done
      cases done
      have whole : all.map id = weights.items.map setting.scored :=
        map_of_mapM_ok computed fun item result => scoreCriterion_eq
      rw [map_id] at whole
      dsimp only
      rw [whole, map_map, map_map]
      refine ⟨rfl, fun name => ?_⟩
      have keys : Items.keys (weights.items.map fun item =>
          (item.1, setting.normalized item.1)) = Items.keys weights.items := by
        rw [Items.keys, map_map]
        rfl
      have kept : Items.update [] (weights.items.map fun item =>
          (item.1, setting.normalized item.1)) = weights.items.map fun item =>
          (item.1, setting.normalized item.1) :=
        Items.update_of_distinct (keys ▸ weights.distinct)
      exact (congrArg (Items.get? · name) kept).trans
        (get?_map_keys weights.items setting.normalized name)

end

/-! ### Floors that are missed and floors that are reached -/

/-- A missed floor blocks the pass, and a reached one is listed through a backstop only. -/
def FloorsSettled (evaluation : Evaluation) : Prop :=
  ∀ payload, payload ∈ evaluation.criteria → ∀ floor, payload.criticalFloor = some floor →
    (payload.floorPassed = false → payload.criterion ∈ names evaluation.floorViolations ∧
      evaluation.verdict.passed = false ∧
      (evaluation.verdict.grade = .D ∨ evaluation.verdict.grade = .F)) ∧
    (payload.floorPassed = true → ∀ violation, violation ∈ evaluation.floorViolations →
      violation.criterion = payload.criterion →
        ThroughBackstop evaluation.normalizedScores violation)

theorem finalize_of_violation (some_ : violations ≠ []) (grade : Grade)
    (weightedScore threshold : Rat) (hardGates : HardGateResult) (enforce : Bool) :
    (finalizeGradeAndPass grade weightedScore threshold violations hardGates enforce).passed =
        false ∧
      ((finalizeGradeAndPass grade weightedScore threshold violations hardGates enforce).grade =
          .D ∨
        (finalizeGradeAndPass grade weightedScore threshold violations hardGates enforce).grade =
          .F) := by
  have filled : violations.isEmpty = false := by
    rw [isEmpty_eq_false_iff]
    exact some_
  constructor
  · cases enforce <;> simp [finalizeGradeAndPass, filled]
  · have capped : (capGrade grade violations).1 = .D ∨ (capGrade grade violations).1 = .F := by
      cases grade <;> simp [capGrade, filled]
    by_cases blocked : (!hardGates.allPassed && enforce) = true
    · exact .inr (if_pos blocked)
    · have kept : (finalizeGradeAndPass grade weightedScore threshold violations hardGates
          enforce).grade = (capGrade grade violations).1 := if_neg blocked
      rwa [kept]

theorem floorPassed_iff {floor score : Rat} : floorPassed (some floor) score = true ↔
    floor ≤ score :=
  decide_eq_true_iff

section

variable {weights : Dict Rat} {setting : Setting} {scores : CriteriaScores}
  (listed : scores.criteria = weights.items.map fun item => (setting.scored item).payload)

include listed

theorem of_payload {payload : CriterionPayload} (member : payload ∈ scores.criteria) :
    payload.criterion ∈ weights.keys ∧
      payload.criticalFloor = floorOf (setting.criteriaByName.get? payload.criterion) ∧
      payload.normalizedScore = round4 (setting.normalized payload.criterion) ∧
      payload.floorPassed = floorPassed payload.criticalFloor
        (setting.normalized payload.criterion) := by
  rw [listed] at member
  obtain ⟨item, inside, rfl⟩ := mem_map.mp member
  exact ⟨mem_map_of_mem inside, rfl, rfl, rfl⟩

theorem payload_of_name {name : String} (known : name ∈ weights.keys) :
    ∃ payload, payload ∈ scores.criteria ∧ payload.criterion = name := by
  obtain ⟨item, inside, same⟩ := mem_map.mp known
  exact ⟨(setting.scored item).payload, listed ▸ mem_map_of_mem inside, same⟩

variable (read : ∀ name, scores.normalizedScores.get? name =
  if name ∈ weights.keys then some (setting.normalized name) else none)

include read

omit listed in
theorem backstop_iff (name : String) (minimum : Rat) :
    Backstop scores.normalizedScores name minimum ↔ HeldTo weights.keys name minimum := by
  have present : (fun key => (scores.normalizedScores.get? key).isSome) =
      fun key => decide (key ∈ weights.keys) := by
    funext key
    rw [read key]
    by_cases listed : key ∈ weights.keys
    · rw [if_pos listed, decide_eq_true listed, Option.isSome_some]
    · rw [if_neg listed, decide_eq_false listed, Option.isSome_none]
  rw [Backstop, HeldTo, backstopKey, backstopKey, present]

theorem mem_violations_iff (name : String) :
    name ∈ names (collectFloorViolations scores.criteria scores.normalizedScores) ↔
      name ∈ weights.keys ∧
        ((∃ floor, floorOf (setting.criteriaByName.get? name) = some floor ∧
          round4 (setting.normalized name) < floor) ∨
        ∃ minimum, HeldTo weights.keys name minimum ∧ setting.normalized name < minimum) := by
  rw [mem_names_collectFloorViolations]
  constructor
  · intro found
    rcases found with ⟨payload, floor, member, ⟨declared, below⟩, same⟩ |
      ⟨minimum, score, held, known, missed⟩
    · obtain ⟨inside, floors, rounded, _⟩ := of_payload listed member
      rw [same] at inside floors rounded
      exact ⟨inside, .inl ⟨floor, floors ▸ declared, rounded ▸ below⟩⟩
    · rw [read name] at known
      by_cases inside : name ∈ weights.keys
      · rw [if_pos inside] at known
        cases known
        exact ⟨inside, .inr ⟨minimum, (backstop_iff read name minimum).mp held, missed⟩⟩
      · rw [if_neg inside] at known
        cases known
  · intro ⟨inside, found⟩
    rcases found with ⟨floor, declared, below⟩ | ⟨minimum, held, missed⟩
    · obtain ⟨payload, member, same⟩ := payload_of_name listed inside
      obtain ⟨_, floors, rounded, _⟩ := of_payload listed member
      rw [same] at floors rounded
      exact .inl ⟨payload, floor, member, ⟨floors.trans declared, rounded ▸ below⟩, same⟩
    · refine .inr ⟨minimum, setting.normalized name, (backstop_iff read name minimum).mpr held, ?_,
        missed⟩
      rw [read name, if_pos inside]

end

theorem evaluation_of_ok {weights : Dict Rat} {setting : Setting} {evaluation : Evaluation}
    (done : scoreWorkflowResult weights setting = .ok evaluation) :
    ∃ scores, computeCriteriaScores weights setting.steps setting.criteriaByName
        setting.computeCriterionScore = .ok scores ∧
      evaluation = evaluate weights setting scores := by
  rw [scoreWorkflowResult] at done
  cases computed : computeCriteriaScores weights setting.steps setting.criteriaByName
      setting.computeCriterionScore with
  | error failure =>
      rw [computed] at done
      cases done
  | ok scores =>
      rw [computed] at done
      cases done
      exact ⟨scores, rfl, rfl⟩

/-- Floors are settled exactly when rounding does not move a score over its floor. -/
theorem floors_settled_iff (weights : Dict Rat) (setting : Setting) (evaluation : Evaluation)
    (done : scoreWorkflowResult weights setting = .ok evaluation) :
    FloorsSettled evaluation ↔ FloorsAgree weights setting := by
  obtain ⟨scores, computed, rfl⟩ := evaluation_of_ok done
  obtain ⟨listed, read⟩ := scores_eq computed
  constructor
  · intro settled name known floor declared
    obtain ⟨payload, member, rfl⟩ := payload_of_name listed known
    obtain ⟨_, floors, rounded, tested⟩ := of_payload listed member
    obtain ⟨missed, reached⟩ := settled payload member floor (floors.trans declared)
    rw [floors, declared] at tested
    constructor
    · intro below
      have failed : payload.floorPassed = false := by
        rw [tested, Bool.eq_false_iff]
        exact fun passed => absurd (floorPassed_iff.mp passed) (not_le.mpr below)
      obtain ⟨_, found⟩ := (mem_violations_iff listed read _).mp (missed failed).1
      rcases found with ⟨other, same, under⟩ | held
      · rw [declared] at same
        cases same
        exact .inl under
      · exact .inr held
    · intro under
      by_contra stays
      have passed : payload.floorPassed = true := by
        rw [tested]
        exact floorPassed_iff.mpr (not_lt.mp stays)
      have recorded : payload.criterion ∈ names (scores.criteria.foldl recordDeclared []) :=
        (mem_names_declared _ _ _).mpr (.inr ⟨payload, floor, member,
          ⟨floors.trans declared, rounded ▸ under⟩, rfl⟩)
      obtain ⟨violation, inside, same⟩ := mem_map.mp recorded
      have through := reached passed violation
        (mem_recordBackstop_of_mem (mem_recordBackstop_of_mem inside)) same
      rcases mem_declared inside with none_ | ⟨other, least, otherMember, ⟨own, _⟩, copy⟩
      · cases none_
      · -- the record carries the rounded score, a backstop's the exact one
        obtain ⟨_, otherFloors, otherRounded, _⟩ := of_payload listed otherMember
        rw [copy] at same through
        have twin : other.criterion = payload.criterion := same
        rw [twin] at otherFloors otherRounded
        have score : scores.normalizedScores.get? other.criterion = some other.normalizedScore :=
          through.2.1
        have below : other.normalizedScore < least := through.2.2
        rw [read, twin, if_pos known] at score
        rw [own, declared] at otherFloors
        rw [Option.some.inj otherFloors, ← Option.some.inj score] at below
        exact stays below
  · intro agree payload member floor declared
    obtain ⟨known, floors, rounded, tested⟩ := of_payload listed member
    obtain ⟨missed, reached⟩ := agree payload.criterion known floor (floors ▸ declared)
    rw [declared] at tested
    constructor
    · intro failed
      have below : setting.normalized payload.criterion < floor := by
        rw [← not_le]
        intro passes
        rw [tested, floorPassed_iff.mpr passes] at failed
        cases failed
      have recorded : payload.criterion ∈
          names (collectFloorViolations scores.criteria scores.normalizedScores) := by
        refine (mem_violations_iff listed read _).mpr ⟨known, ?_⟩
        rcases missed below with under | held
        · exact .inl ⟨floor, floors ▸ declared, under⟩
        · exact .inr held
      refine ⟨recorded, finalize_of_violation ?_ _ _ _ _ _⟩
      intro empty
      rw [empty] at recorded
      cases recorded
    · intro passed violation inside same
      rcases mem_collectFloorViolations inside with through | ⟨other, least, otherMember, below, copy⟩
      · exact through
      · obtain ⟨own, under⟩ := below
        obtain ⟨_, otherFloors, otherRounded, _⟩ := of_payload listed otherMember
        have twin : other.criterion = payload.criterion := by rw [← same, copy]
        rw [twin] at otherFloors otherRounded
        rw [own, ← floors, declared] at otherFloors
        cases otherFloors
        rw [tested, floorPassed_iff] at passed
        exact absurd (reached (otherRounded ▸ under)) (not_lt.mpr passed)

def justBelow : Setting where
  steps := 1
  criteriaByName := Dict.empty.insert "coverage" ⟨some (7 / 10), "zero_one"⟩
  computeCriterionScore := fun _ => 69996 / 1000
  advisory := fun _ _ => 1
  judge := none
  hybridWeights := {}
  threshold := 70
  hardGates := ⟨true, true, true, true, true, true⟩
  enforceHardGates := true

theorem justBelow_passes :
    (scoreWorkflowResult (Dict.empty.insert "coverage" 1) justBelow).toOption.map
      (fun evaluation => (evaluation.floorViolations, evaluation.verdict,
        evaluation.criteria.map fun payload => (payload.criticalFloor, payload.floorPassed))) =
      some ([], ⟨.C, false, true⟩, [(some (7 / 10), false)]) := by
  decide +kernel

theorem exists_justBelow : ∃ evaluation,
    scoreWorkflowResult (Dict.empty.insert "coverage" 1) justBelow = .ok evaluation ∧
      evaluation.floorViolations = [] ∧ evaluation.verdict = ⟨.C, false, true⟩ ∧
      evaluation.criteria.map (fun payload => (payload.criticalFloor, payload.floorPassed)) =
        [(some (7 / 10), false)] := by
  have passes := justBelow_passes
  cases scored : scoreWorkflowResult (Dict.empty.insert "coverage" 1) justBelow with
  | error failure =>
      rw [scored] at passes
      cases passes
  | ok evaluation =>
      rw [scored] at passes
      obtain ⟨empty, verdict, floors⟩ := Prod.mk.inj (Option.some.inj passes) |>.imp_right Prod.mk.inj
      exact ⟨evaluation, rfl, empty, verdict, floors⟩

theorem floors_settled_iff_justBelow : ∃ evaluation,
    scoreWorkflowResult (Dict.empty.insert "coverage" 1) justBelow = .ok evaluation ∧
      (FloorsSettled evaluation ↔ FloorsAgree (Dict.empty.insert "coverage" 1) justBelow) := by
  obtain ⟨evaluation, scored, _⟩ := exists_justBelow
  exact ⟨evaluation, scored, floors_settled_iff _ _ _ scored⟩

/-- The floor is missed, and the run passes with a C. -/
theorem missed_floor_passes : ∃ evaluation,
    scoreWorkflowResult (Dict.empty.insert "coverage" 1) justBelow = .ok evaluation ∧
      (∃ payload, payload ∈ evaluation.criteria ∧ payload.floorPassed = false) ∧
      evaluation.floorViolations = [] ∧ evaluation.verdict.passed = true ∧
      evaluation.verdict.grade = .C ∧ ¬ FloorsSettled evaluation := by
  obtain ⟨evaluation, scored, empty, verdict, floors⟩ := exists_justBelow
  have found : (some (7 / 10), false) ∈
      evaluation.criteria.map fun payload => (payload.criticalFloor, payload.floorPassed) := by
    rw [floors]
    exact mem_cons_self
  obtain ⟨payload, member, same⟩ := mem_map.mp found
  obtain ⟨declared, failed⟩ := Prod.mk.inj same
  refine ⟨evaluation, scored, ⟨payload, member, failed⟩, empty, ?_, ?_, ?_⟩
  · rw [verdict]
  · rw [verdict]
  · intro settled
    have listed := ((settled payload member _ declared).1 failed).1
    rw [empty] at listed
    cases listed

end EvaluationScoring

end AgenticRuntime
