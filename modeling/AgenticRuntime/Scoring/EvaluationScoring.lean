/-
The scoring of a workflow run.

Scores are exact rationals.  What the model judge and the advisory heuristics say enters
only the weighted score, and so stands as a parameter.
-/

import AgenticRuntime.Python.Values
import Mathlib.Data.Rat.Cast.Order

namespace AgenticRuntime

namespace EvaluationScoring

open Python

/-! ### normalization.py -/

def clamp01 (value : Rat) : Rat := max 0 (min 1 value)

inductive NormalizationError where
  | notBinary
  | noSlo
  | unknownFormula (formulaId : String)
  deriving DecidableEq, Repr

def NormalizationError.message : NormalizationError → String
  | notBinary => "binary normalization expects raw value 0 or 1"
  | noSlo => "lower_is_better requires slo_good and slo_bad"
  | unknownFormula formulaId => "Unknown normalization formula '" ++ formulaId ++
      "'. Available: binary, likert_1_5, likert_neg2_2, lower_is_better, pairwise, zero_one"

/-- `normalize_score`, called on a number and without keyword arguments. -/
def normalizeScore (raw : Rat) (formulaId : String) : Except NormalizationError Rat :=
  if formulaId = "binary" then
    if raw = 0 ∨ raw = 1 then .ok raw else .error .notBinary
  else if formulaId = "likert_1_5" then .ok (clamp01 ((raw - 1) / 4))
  else if formulaId = "likert_neg2_2" then .ok (clamp01 ((raw + 2) / 4))
  else if formulaId = "lower_is_better" then .error .noSlo
  else if formulaId = "zero_one" then .ok (clamp01 raw)
  else if formulaId = "pairwise" then .ok (clamp01 raw)
  else .error (.unknownFormula formulaId)

/-- `adjust_for_sample_size`, with its default prior and strength. -/
def adjustForSampleSize (norm : Rat) (n : Nat) : Rat :=
  clamp01 ((n * norm + 20 * (1 / 2)) / (n + 20))

def roundHalfEven (x : Rat) : Int :=
  let low := x.floor
  let rest := x - low
  if rest < 1 / 2 then low
  else if 1 / 2 < rest then low + 1
  else if low % 2 = 0 then low
  else low + 1

/-- `round`, to the given fraction of one. -/
def roundTo (scale x : Rat) : Rat := roundHalfEven (x * scale) / scale

/-- `round(x, 4)` -/
def round4 (x : Rat) : Rat := roundTo 10000 x

/-- `round(x, 2)` -/
def round2 (x : Rat) : Rat := roundTo 100 x

/-! ### evaluation_scoring.py -/

structure WorkflowCriterion where
  criticalFloor : Option Rat
  formulaId : String
  deriving DecidableEq, Repr

structure CriterionPayload where
  criterion : String
  rawScore : Rat
  normalizedScore : Rat
  adjustedNormalizedScore : Rat
  score : Rat
  weight : Rat
  formulaId : String
  criticalFloor : Option Rat
  floorPassed : Bool
  deriving DecidableEq, Repr

/-- What one round of `_compute_criteria_scores` has at hand. -/
structure ScoredCriterion where
  payload : CriterionPayload
  rawScore : Rat
  normalizedScore : Rat
  weight : Rat
  deriving DecidableEq, Repr

structure CriteriaScores where
  criteria : List CriterionPayload
  normalizedScores : Dict Rat
  weightedSum : Rat
  rawSum : Rat

def formulaOf (config : Option WorkflowCriterion) : String :=
  match config with
  | some config => config.formulaId
  | none => "zero_one"

def floorOf (config : Option WorkflowCriterion) : Option Rat :=
  config.bind WorkflowCriterion.criticalFloor

def floorPassed (criticalFloor : Option Rat) (normalizedScore : Rat) : Bool :=
  match criticalFloor with
  | none => true
  | some floor => floor ≤ normalizedScore

def scored (criterion : String) (weight rawScore normalizedScore : Rat)
    (config : Option WorkflowCriterion) (steps : Nat) : ScoredCriterion where
  payload := {
    criterion := criterion
    rawScore := round4 rawScore
    normalizedScore := round4 normalizedScore
    adjustedNormalizedScore := round4 (adjustForSampleSize normalizedScore (max steps 1))
    score := round2 (normalizedScore * 100)
    weight := weight
    formulaId := formulaOf config
    criticalFloor := floorOf config
    floorPassed := floorPassed (floorOf config) normalizedScore }
  rawScore := rawScore
  normalizedScore := normalizedScore
  weight := weight

def scoreCriterion (steps : Nat) (criteriaByName : Dict WorkflowCriterion)
    (computeCriterionScore : String → Rat) (item : String × Rat) :
    Except NormalizationError ScoredCriterion :=
  let config := criteriaByName.get? item.1
  let rawScore := computeCriterionScore item.1
  (normalizeScore (rawScore / 100) (formulaOf config)).map fun normalizedScore =>
    scored item.1 item.2 rawScore normalizedScore config steps

def computeCriteriaScores (weights : Dict Rat) (steps : Nat)
    (criteriaByName : Dict WorkflowCriterion) (computeCriterionScore : String → Rat) :
    Except NormalizationError CriteriaScores :=
  (weights.items.mapM (scoreCriterion steps criteriaByName computeCriterionScore)).map fun all =>
    { criteria := all.map ScoredCriterion.payload
      normalizedScores := Dict.ofItems
        (all.map fun scored => (scored.payload.criterion, scored.normalizedScore))
      weightedSum := all.foldl (fun sum scored => sum + scored.normalizedScore * scored.weight) 0
      rawSum := all.foldl (fun sum scored => sum + scored.rawScore) 0 }

structure CriterionFloorResult where
  criterion : String
  floor : Rat
  normalizedScore : Rat
  deriving DecidableEq, Repr

/-- `_record_floor_failure`: the first record of a criterion stands. -/
def recordFloorFailure (violations : List CriterionFloorResult) (name : String)
    (floor value : Rat) : List CriterionFloorResult :=
  if name ∈ violations.map CriterionFloorResult.criterion then violations
  else if value < floor then violations ++ [⟨name, floor, value⟩]
  else violations

def recordDeclared (violations : List CriterionFloorResult) (payload : CriterionPayload) :
    List CriterionFloorResult :=
  match payload.criticalFloor with
  | none => violations
  | some floor => recordFloorFailure violations payload.criterion floor payload.normalizedScore

def recordBackstop (keys : List String) (floor : Rat) (normalizedScores : Dict Rat)
    (violations : List CriterionFloorResult) : List CriterionFloorResult :=
  match keys.find? fun key => (normalizedScores.get? key).isSome with
  | none => violations
  | some key => recordFloorFailure violations key floor ((normalizedScores.get? key).getD 0)

def correctnessKeys : List String := ["correctness", "correctness_rubric"]

def validationKeys : List String := ["safety_validation", "validation", "safety", "code_quality"]

def collectFloorViolations (criteria : List CriterionPayload) (normalizedScores : Dict Rat) :
    List CriterionFloorResult :=
  recordBackstop validationKeys (4 / 5) normalizedScores
    (recordBackstop correctnessKeys (7 / 10) normalizedScores
      (criteria.foldl recordDeclared []))

structure HardGateResult where
  requiredOutputsPresent : Bool
  overallStatusSuccess : Bool
  noCriticalStepFailures : Bool
  releaseBuildVerified : Bool
  schemaContractValid : Bool
  datasetWorkflowCompatible : Bool
  deriving DecidableEq, Repr

def HardGateResult.allPassed (gates : HardGateResult) : Bool :=
  gates.requiredOutputsPresent && gates.overallStatusSuccess && gates.noCriticalStepFailures &&
    gates.releaseBuildVerified && gates.schemaContractValid && gates.datasetWorkflowCompatible

inductive Grade where
  | A | B | C | D | F
  deriving DecidableEq, Repr

/-- `_grade` -/
def gradeOf (score : Rat) : Grade :=
  if 90 ≤ score then .A
  else if 80 ≤ score then .B
  else if 70 ≤ score then .C
  else if 60 ≤ score then .D
  else .F

structure Verdict where
  grade : Grade
  gradeCapped : Bool
  passed : Bool
  deriving DecidableEq, Repr

def capGrade (grade : Grade) (floorViolations : List CriterionFloorResult) : Grade × Bool :=
  if ¬ floorViolations.isEmpty ∧ (grade = .A ∨ grade = .B ∨ grade = .C) then (.D, true)
  else (grade, false)

def finalizeGradeAndPass (grade : Grade) (weightedScore threshold : Rat)
    (floorViolations : List CriterionFloorResult) (hardGates : HardGateResult)
    (enforceHardGates : Bool) : Verdict :=
  let capped := capGrade grade floorViolations
  let blocked := !hardGates.allPassed && enforceHardGates
  let passed := decide (threshold ≤ weightedScore) && floorViolations.isEmpty
  { grade := if blocked then .F else capped.1
    gradeCapped := if blocked then false else capped.2
    passed := if enforceHardGates then passed && hardGates.allPassed else passed }

/-! ### The score of a run -/

/-- The weights of the components, defaults and overrides merged. -/
structure HybridWeights where
  objective : Rat := 35 / 100
  judge : Rat := 50 / 100
  advisory : Rat := 15 / 100
  deriving DecidableEq, Repr

/-- `_compose_hybrid_score`, less the weights it reports. -/
def composeHybridScore (objective advisory : Rat) (judge : Option Rat) (weights : HybridWeights) :
    Rat :=
  let components := [(objective, weights.objective), (advisory, weights.advisory)] ++
    (judge.map fun score => (score, weights.judge)).toList
  let active := components.filter fun component => 0 < component.2
  let weightSum := active.foldl (fun sum component => sum + component.2) 0
  let weighted := active.foldl (fun sum component => sum + component.1 * component.2) 0
  if weightSum ≤ 0 then objective else weighted / weightSum

/-- What else an evaluation is given; `advisory` reads the objective and the criterion scores. -/
structure Setting where
  steps : Nat
  criteriaByName : Dict WorkflowCriterion
  computeCriterionScore : String → Rat
  advisory : Rat → Dict Rat → Rat
  judge : Option Rat
  hybridWeights : HybridWeights
  threshold : Rat
  hardGates : HardGateResult
  enforceHardGates : Bool

structure Evaluation where
  criteria : List CriterionPayload
  normalizedScores : Dict Rat
  weightedScore : Rat
  floorViolations : List CriterionFloorResult
  verdict : Verdict

/-- `sum(weights.values()) or 1.0` -/
def totalWeight (weights : Dict Rat) : Rat :=
  let total := weights.items.foldl (fun sum item => sum + item.2) 0
  if total = 0 then 1 else total

/-- The last layers of `score_workflow_result_impl`, over the scores of the criteria. -/
def evaluate (weights : Dict Rat) (setting : Setting) (scores : CriteriaScores) : Evaluation :=
  let objective := scores.weightedSum / totalWeight weights
  let weightedScore := composeHybridScore objective
    (setting.advisory objective scores.normalizedScores) setting.judge setting.hybridWeights * 100
  let floorViolations := collectFloorViolations scores.criteria scores.normalizedScores
  { criteria := scores.criteria
    normalizedScores := scores.normalizedScores
    weightedScore := weightedScore
    floorViolations := floorViolations
    verdict := finalizeGradeAndPass (gradeOf weightedScore) weightedScore setting.threshold
      floorViolations setting.hardGates setting.enforceHardGates }

/-- `score_workflow_result_impl`, from the resolved weights on. -/
def scoreWorkflowResult (weights : Dict Rat) (setting : Setting) :
    Except NormalizationError Evaluation :=
  (computeCriteriaScores weights setting.steps setting.criteriaByName
    setting.computeCriterionScore).map (evaluate weights setting)

end EvaluationScoring

end AgenticRuntime
