/-
The stop gate of a research round, and the choice of the best round.

Floats are exact.  `builtins` are Python's `float(…)` and `int(…)` of what a step has reported.
-/

import AgenticRuntime.Models.RateLimits
import AgenticRuntime.Python.CanonicalJson
import AgenticRuntime.Scoring.EvaluationScoring

namespace AgenticRuntime.ResearchGate

open Python
open PyFloat (lt)
open List hiding le_min_iff le_of_lt le_trans lt_irrefl lt_of_le_of_lt not_le not_lt repr

/-! ### Floats -/

/-- `max(0.0, min(1.0, value))`: both keep their first argument unless the second is on the
other side of it, which a NaN never is. -/
def clamp01 (value : PyFloat) : PyFloat :=
  let low := if value.lt (.finite 1) then value else .finite 1
  if lt (.finite 0) low then low else .finite 0

/-- `value >= bound` -/
def atLeast (bound : ℚ) : PyFloat → Bool
  | .finite value => bound ≤ value
  | .inf => true
  | .negInf => false
  | .nan => false

def roundFloat : PyFloat → PyFloat
  | .finite value => .finite (EvaluationScoring.round4 value)
  | value => value

/-! ### multidimensional_scoring.py -/

inductive ResearchTier where
  | elite
  | high
  | medium
  | low
  deriving DecidableEq, Repr

def ResearchTier.rank : ResearchTier → Nat
  | elite => 3
  | high => 2
  | medium => 1
  | low => 0

/-- The dimensions, each with the field of the step output that reports it and with its weight
in the tiebreaker. -/
def researchDimensions : List (String × String × ℚ) :=
  [("coverage", "coverage_score", 1 / 4), ("source_quality", "source_quality_score", 1 / 5),
    ("agreement", "agreement_score", 1 / 5), ("verification", "verification_score", 1 / 5),
    ("recency", "recency_score", 3 / 20)]

/-- `classify_dimension`; the thresholds of the dimensions, and those by default, are one. -/
def classifyDimension (score : PyFloat) : ResearchTier :=
  if atLeast (9 / 10) score then .elite
  else if atLeast (3 / 4) score then .high
  else if atLeast (1 / 2) score then .medium
  else .low

structure DimensionResult where
  dimension : String
  score : PyFloat
  tier : ResearchTier
  gatePassed : Bool

structure MultidimensionalGateResult where
  dimensions : List DimensionResult
  recentSourcesCount : Int
  minRecentSources : Int
  criticalContradictions : Int
  consecutiveRegression : Bool
  ciTiebreaker : PyFloat

def MultidimensionalGateResult.gatePassed (result : MultidimensionalGateResult) : Bool :=
  result.dimensions.all DimensionResult.gatePassed &&
    decide (result.minRecentSources ≤ result.recentSourcesCount) &&
    decide (result.criticalContradictions = 0) && !result.consecutiveRegression

/-- What the gate hands on of a round; `matrix` is there with the multidimensional engine. -/
structure RoundResult where
  gatePassed : Bool
  ciScore : PyFloat
  recentSourcesCount : Int
  criticalContradictions : Int
  matrix : Option MultidimensionalGateResult

def MultidimensionalGateResult.toDict (result : MultidimensionalGateResult) : RoundResult :=
  { gatePassed := result.gatePassed
    ciScore := roundFloat result.ciTiebreaker
    recentSourcesCount := result.recentSourcesCount
    criticalContradictions := result.criticalContradictions
    matrix := some result }

/-- The configuration and the caller's arguments. -/
structure GateSettings where
  multidimensional : Bool
  minCi : PyFloat
  minRecentSources : Int
  consecutiveRegression : Bool

def evaluateDimension (reported : (String × String × ℚ) × PyFloat) : DimensionResult :=
  let score := clamp01 reported.2
  let tier := classifyDimension score
  { dimension := reported.1.1, score, tier
    gatePassed := decide (ResearchTier.high.rank ≤ tier.rank) }

/-- `compute_ci_tiebreaker`; the weights add up to one. -/
def computeCiTiebreaker (reported : List ((String × String × ℚ) × PyFloat)) : PyFloat :=
  clamp01 (reported.foldl (fun sum score => sum.add (score.2.scale score.1.2.2)) (.finite 0))

def evaluateResearchRound (settings : GateSettings)
    (reported : List ((String × String × ℚ) × PyFloat)) (recent contradictions : Int) :
    MultidimensionalGateResult :=
  { dimensions := reported.map evaluateDimension
    recentSourcesCount := recent
    minRecentSources := settings.minRecentSources
    criticalContradictions := contradictions
    consecutiveRegression := settings.consecutiveRegression
    ciTiebreaker := computeCiTiebreaker reported }

section

variable (builtins : Builtins) (settings : GateSettings) (stepOutputs : Mapping)

/-- `try: …; except (TypeError, ValueError): default` around a conversion of a field, whose
default is zero. -/
def converted {A : Type} (convert : PyValue → Except PyError A) (zero : A) (key : String) :
    Except PyError A :=
  match field? stepOutputs key with
  | none => .ok zero
  | some value =>
      match convert value with
      | .ok result => .ok result
      | .error (.valueError _) => .ok zero
      | .error .typeError => .ok zero
      | .error error => .error error

def floatField (key : String) : Except PyError PyFloat :=
  converted stepOutputs builtins.float (.finite 0) key

def intField (key : String) : Except PyError Int := converted stepOutputs builtins.int 0 key

def evaluateFromStepOutputs : Except PyError MultidimensionalGateResult := do
  let reported ← researchDimensions.mapM fun dimension =>
    (floatField builtins stepOutputs dimension.2.1).map fun score => (dimension, score)
  let recent ← intField builtins stepOutputs "recent_source_count"
  let contradictions ← intField builtins stepOutputs "critical_contradictions"
  return evaluateResearchRound settings reported recent contradictions

/-- `ci >= min_ci` on floats. -/
def reachesCi (ci minCi : PyFloat) : Bool := minCi.lt ci || (ci = minCi && ci ≠ .nan)

def legacyGate : Except PyError RoundResult := do
  let ci ← floatField builtins stepOutputs "ci_score"
  let recent ← intField builtins stepOutputs "recent_source_count"
  let contradictions ← intField builtins stepOutputs "critical_contradictions"
  return {
    gatePassed := reachesCi ci settings.minCi && decide (settings.minRecentSources ≤ recent) &&
      decide (contradictions = 0) && !settings.consecutiveRegression
    ciScore := roundFloat ci
    recentSourcesCount := recent
    criticalContradictions := contradictions
    matrix := none }

def researchStopGate : Except PyError RoundResult :=
  if settings.multidimensional then
    (evaluateFromStepOutputs builtins settings stepOutputs).map MultidimensionalGateResult.toDict
  else legacyGate builtins settings stepOutputs

/-! ### What a gate should rest on -/

/-- Every score is reported as a number that reaches its floor, the count as one that reaches the
minimum, and the contradictions as the number zero. -/
structure Evidence : Prop where
  scores : ∀ dimension ∈ researchDimensions, ∃ value score,
    field? stepOutputs dimension.2.1 = some value ∧ builtins.float value = .ok score ∧
      atLeast (3 / 4) score = true
  recent : ∃ value count, field? stepOutputs "recent_source_count" = some value ∧
    builtins.int value = .ok count ∧ settings.minRecentSources ≤ count
  contradictions : ∃ value, field? stepOutputs "critical_contradictions" = some value ∧
    builtins.int value = .ok 0 ∧ ∀ fraction, value = .float (.finite fraction) → fraction.den = 1

/-- The fields that the engine reads are converted, or refused with an error that is caught. -/
def Convertible : Prop :=
  (∀ key ∈ (if settings.multidimensional then researchDimensions.map fun dimension => dimension.2.1
      else ["ci_score"]), ∃ score, floatField builtins stepOutputs key = .ok score) ∧
    (∃ count, intField builtins stepOutputs "recent_source_count" = .ok count) ∧
    ∃ count, intField builtins stepOutputs "critical_contradictions" = .ok count

/-- Something stops the round: a number below its floor, too few sources, a contradiction, or a
regression. -/
def Blocked : Prop :=
  (∃ dimension ∈ researchDimensions, ∃ score, floatField builtins stepOutputs dimension.2.1 =
      .ok score ∧ score ≠ .nan ∧ atLeast (3 / 4) score = false) ∨
    (∃ count, intField builtins stepOutputs "recent_source_count" = .ok count ∧
      count < settings.minRecentSources) ∨
    (∃ count, intField builtins stepOutputs "critical_contradictions" = .ok count ∧ count ≠ 0) ∨
    settings.consecutiveRegression = true

/-- No score is a NaN, a count that need not be positive is reported all the same, and so are the
contradictions, not as a fraction. -/
def Reported : Prop :=
  (∀ dimension ∈ researchDimensions, floatField builtins stepOutputs dimension.2.1 ≠ .ok .nan) ∧
    (settings.minRecentSources ≤ 0 → ∃ value count,
      field? stepOutputs "recent_source_count" = some value ∧ builtins.int value = .ok count) ∧
    ∃ value count, field? stepOutputs "critical_contradictions" = some value ∧
      builtins.int value = .ok count ∧
      ∀ fraction, value = .float (.finite fraction) → fraction.den = 1

end

/-! ### One dimension -/

theorem clamp01_finite (value : ℚ) :
    clamp01 (.finite value) = .finite (EvaluationScoring.clamp01 value) := by
  have lt_finite (left right : ℚ) :
      lt (.finite left) (.finite right) = decide (left < right) := rfl
  unfold clamp01 EvaluationScoring.clamp01
  by_cases below : value < 1
  · rw [lt_finite, if_pos (decide_eq_true below), min_eq_right below.le]
    dsimp only
    by_cases positive : 0 < value
    · rw [lt_finite, if_pos (decide_eq_true positive), max_eq_right positive.le]
    · rw [lt_finite, if_neg (decide_eq_true_iff.not.mpr positive), max_eq_left (not_lt.mp positive)]
  · rw [lt_finite, if_neg (decide_eq_true_iff.not.mpr below), min_eq_left (not_lt.mp below)]
    dsimp only
    rw [lt_finite, if_pos (decide_eq_true one_pos), max_eq_right zero_le_one]

theorem clamp01_atLeast (score : PyFloat) :
    atLeast (3 / 4) (clamp01 score) = true ↔ score = .nan ∨ atLeast (3 / 4) score = true := by
  cases score with
  | finite value =>
      have other : PyFloat.finite value ≠ .nan := PyFloat.noConfusion
      rw [or_iff_right other, clamp01_finite]
      unfold atLeast EvaluationScoring.clamp01
      dsimp only
      rw [decide_eq_true_iff, decide_eq_true_iff, le_max_iff, le_min_iff]
      norm_num
  | inf | nan => norm_num [clamp01, lt, atLeast]
  | negInf =>
      norm_num [clamp01, lt, atLeast]
      exact PyFloat.noConfusion

theorem evaluateDimension_passed (reported : (String × String × ℚ) × PyFloat) :
    (evaluateDimension reported).gatePassed = true ↔
      reported.2 = .nan ∨ atLeast (3 / 4) reported.2 = true := by
  rw [← clamp01_atLeast]
  unfold evaluateDimension classifyDimension
  dsimp only
  by_cases elite : atLeast (9 / 10) (clamp01 reported.2) = true
  · rw [if_pos elite]
    refine iff_of_true (by decide) ?_
    cases score : clamp01 reported.2 with
    | finite value =>
        rw [score] at elite
        exact decide_eq_true (le_trans (by norm_num) (of_decide_eq_true elite))
    | inf => rfl
    | negInf | nan =>
        rw [score] at elite
        cases elite
  · rw [if_neg elite]
    by_cases high : atLeast (3 / 4) (clamp01 reported.2) = true
    · rw [if_pos high]
      exact iff_of_true (by decide) high
    · rw [if_neg high]
      refine iff_of_false ?_ high
      split
      · decide
      · decide

/-! ### A field and its reading -/

section

variable {builtins : Builtins} {settings : GateSettings} {stepOutputs : Mapping}

theorem converted_of_field {A : Type} {convert : PyValue → Except PyError A} {zero result : A}
    {key : String} {value : PyValue} (there : field? stepOutputs key = some value)
    (reads : convert value = .ok result) : converted stepOutputs convert zero key = .ok result := by
  unfold converted
  rw [there]
  dsimp only
  rw [reads]

theorem converted_ok {A : Type} {convert : PyValue → Except PyError A} {zero result : A}
    {key : String} (read : converted stepOutputs convert zero key = .ok result) :
    (∃ value, field? stepOutputs key = some value ∧ convert value = .ok result) ∨
      result = zero ∧ ∀ value other, field? stepOutputs key = some value →
        convert value ≠ .ok other := by
  unfold converted at read
  cases there : field? stepOutputs key with
  | none =>
      rw [there] at read
      cases read
      exact .inr ⟨rfl, fun _ _ some => nomatch some⟩
  | some value =>
      rw [there] at read
      dsimp only at read
      cases reads : convert value with
      | ok other =>
          rw [reads] at read
          cases read
          exact .inl ⟨value, rfl, reads⟩
      | error error =>
          rw [reads] at read
          have refused : ∀ same other, some value = some same → convert same ≠ .ok other := by
            intro same other equal done
            cases equal
            rw [reads] at done
            cases done
          cases error with
          | valueError message | typeError =>
              cases read
              exact .inr ⟨rfl, refused⟩
          | attributeError => cases read
          | overflowError => cases read

theorem all_reported {read : String → Except PyError PyFloat}
    {dimensions : List (String × String × ℚ)} {reported : List ((String × String × ℚ) × PyFloat)}
    (done : (dimensions.mapM fun dimension =>
      (read dimension.2.1).map fun score => (dimension, score)) = .ok reported)
    (holds : (String × String × ℚ) × PyFloat → Prop) :
    (∀ item ∈ reported, holds item) ↔
      ∀ dimension ∈ dimensions, ∃ score, read dimension.2.1 = .ok score ∧
        holds (dimension, score) := by
  induction dimensions generalizing reported with
  | nil =>
      cases done
      exact iff_of_true (fun _ listed => nomatch listed) (fun _ listed => nomatch listed)
  | cons dimension rest ih =>
      rw [mapM_cons] at done
      obtain ⟨first, head, done⟩ := bind_ok done
      obtain ⟨others, tail, done⟩ := bind_ok done
      cases done
      cases known : read dimension.2.1 with
      | error error =>
          rw [known] at head
          cases head
      | ok score =>
          rw [known] at head
          cases head
          rw [forall_mem_cons, forall_mem_cons, ih tail, known]
          apply and_congr_left'
          constructor
          · exact fun held => ⟨score, rfl, held⟩
          · rintro ⟨_, same, held⟩
            cases same
            exact held

/-- What a round with a result has passed. -/
theorem gatePassed_iff {result : RoundResult} (engine : settings.multidimensional = true)
    (done : researchStopGate builtins settings stepOutputs = .ok result) :
    (∃ recent contradictions, intField builtins stepOutputs "recent_source_count" = .ok recent ∧
      intField builtins stepOutputs "critical_contradictions" = .ok contradictions ∧
      (∀ dimension ∈ researchDimensions, ∃ score,
        floatField builtins stepOutputs dimension.2.1 = .ok score) ∧
      (result.gatePassed = true ↔
        (∀ dimension ∈ researchDimensions, ∃ score,
          floatField builtins stepOutputs dimension.2.1 = .ok score ∧
            (score = .nan ∨ atLeast (3 / 4) score = true)) ∧
        settings.minRecentSources ≤ recent ∧ contradictions = 0 ∧
        settings.consecutiveRegression = false)) := by
  unfold researchStopGate at done
  rw [if_pos engine] at done
  cases evaluated : evaluateFromStepOutputs builtins settings stepOutputs with
  | error error =>
      rw [evaluated] at done
      cases done
  | ok round =>
      rw [evaluated] at done
      cases done
      unfold evaluateFromStepOutputs at evaluated
      obtain ⟨reported, scores, evaluated⟩ := bind_ok evaluated
      obtain ⟨recent, sources, evaluated⟩ := bind_ok evaluated
      obtain ⟨contradictions, contradicted, evaluated⟩ := bind_ok evaluated
      cases evaluated
      have every := all_reported scores
      refine ⟨recent, contradictions, sources, contradicted, ?_, ?_⟩
      · intro dimension listed
        obtain ⟨score, read, -⟩ := (every fun _ => True).mp (fun _ _ => trivial) dimension listed
        exact ⟨score, read⟩
      · rw [← every fun item => item.2 = .nan ∨ atLeast (3 / 4) item.2 = true]
        simp only [MultidimensionalGateResult.toDict, MultidimensionalGateResult.gatePassed,
          evaluateResearchRound, Bool.and_eq_true, all_map, all_eq_true,
          Function.comp_apply, evaluateDimension_passed, Bool.not_eq_true', and_assoc]
        exact and_congr_right' (and_congr decide_eq_true_iff (and_congr_left' decide_eq_true_iff))

theorem gate_ok_iff :
    (∃ result, researchStopGate builtins settings stepOutputs = .ok result) ↔
      Convertible builtins settings stepOutputs := by
  unfold Convertible
  by_cases engine : settings.multidimensional = true
  · rw [if_pos engine]
    constructor
    · rintro ⟨result, done⟩
      obtain ⟨recent, contradictions, sources, contradicted, scored, -⟩ :=
        gatePassed_iff engine done
      refine ⟨?_, ⟨recent, sources⟩, contradictions, contradicted⟩
      intro key listed
      obtain ⟨dimension, member, rfl⟩ := mem_map.mp listed
      exact scored dimension member
    · rintro ⟨scored, ⟨recent, sources⟩, contradictions, contradicted⟩
      have each : ∀ dimension ∈ researchDimensions, ∃ result,
          (floatField builtins stepOutputs dimension.2.1).map (fun score => (dimension, score)) =
            .ok result := by
        intro dimension listed
        obtain ⟨score, read⟩ := scored dimension.2.1 (mem_map_of_mem listed)
        rw [read]
        exact ⟨_, rfl⟩
      obtain ⟨reported, scores⟩ := exists_mapM_ok each
      unfold researchStopGate evaluateFromStepOutputs
      rw [if_pos engine, scores, sources, contradicted]
      exact ⟨_, rfl⟩
  · rw [if_neg engine]
    unfold researchStopGate legacyGate
    rw [if_neg engine]
    constructor
    · rintro ⟨result, done⟩
      obtain ⟨ci, read, done⟩ := bind_ok done
      obtain ⟨recent, sources, done⟩ := bind_ok done
      obtain ⟨contradictions, contradicted, done⟩ := bind_ok done
      refine ⟨?_, ⟨recent, sources⟩, contradictions, contradicted⟩
      intro key listed
      rw [mem_singleton.mp listed]
      exact ⟨ci, read⟩
    · rintro ⟨scored, ⟨recent, sources⟩, contradictions, contradicted⟩
      obtain ⟨ci, read⟩ := scored "ci_score" (mem_singleton_self _)
      rw [read, sources, contradicted]
      exact ⟨_, rfl⟩

theorem passes_on_evidence_iff {result : RoundResult} (engine : settings.multidimensional = true)
    (done : researchStopGate builtins settings stepOutputs = .ok result) :
    (result.gatePassed = true → Evidence builtins settings stepOutputs) ↔
      Blocked builtins settings stepOutputs ∨ Reported builtins settings stepOutputs := by
  obtain ⟨recent, contradictions, sources, contradicted, scored, passed⟩ :=
    gatePassed_iff engine done
  constructor
  · intro supported
    by_cases blocked : Blocked builtins settings stepOutputs
    · exact .inl blocked
    · right
      have evidence : Evidence builtins settings stepOutputs := by
        apply supported
        rw [passed]
        unfold Blocked at blocked
        simp only [not_or] at blocked
        obtain ⟨none, enough, clean, steady⟩ := blocked
        refine ⟨?_, ?_, ?_, Bool.eq_false_of_not_eq_true steady⟩
        · intro dimension listed
          obtain ⟨score, read⟩ := scored dimension listed
          refine ⟨score, read, ?_⟩
          by_contra low
          rw [not_or] at low
          exact none ⟨dimension, listed, score, read, low.1, Bool.eq_false_of_not_eq_true low.2⟩
        · exact not_lt.mp fun few => enough ⟨recent, sources, few⟩
        · exact not_ne_iff.mp fun some => clean ⟨contradictions, contradicted, some⟩
      refine ⟨?_, ?_, ?_⟩
      · intro dimension listed nan
        obtain ⟨value, score, there, reads, reached⟩ := evidence.scores dimension listed
        have read : floatField builtins stepOutputs dimension.2.1 = .ok score :=
          converted_of_field there reads
        rw [nan] at read
        cases read
        cases reached
      · intro _
        obtain ⟨value, count, there, reads, -⟩ := evidence.recent
        exact ⟨value, count, there, reads⟩
      · obtain ⟨value, there, reads, whole⟩ := evidence.contradictions
        exact ⟨value, 0, there, reads, whole⟩
  · rintro (blocked | ⟨numbers, counted, value, count, there, reads, whole⟩) passes
    · obtain ⟨scores, enough, clean, steady⟩ := passed.mp passes
      rcases blocked with ⟨dimension, listed, score, read, number, low⟩ | ⟨few, read, less⟩ |
        ⟨some, read, nonzero⟩ | regression
      · obtain ⟨other, same, nan | reached⟩ := scores dimension listed
        · rw [read] at same
          cases same
          exact absurd nan number
        · rw [read] at same
          cases same
          rw [low] at reached
          cases reached
      · rw [sources] at read
        cases read
        exact absurd enough (not_le.mpr less)
      · rw [contradicted] at read
        cases read
        exact absurd clean nonzero
      · rw [regression] at steady
        cases steady
    · obtain ⟨scores, enough, clean, -⟩ := passed.mp passes
      refine ⟨?_, ?_, ?_⟩
      · intro dimension listed
        obtain ⟨score, read, nan | reached⟩ := scores dimension listed
        · exact absurd (nan ▸ read) (numbers dimension listed)
        · rcases converted_ok read with ⟨value, there, reads⟩ | ⟨rfl, -⟩
          · exact ⟨value, score, there, reads, reached⟩
          · norm_num [atLeast] at reached
      · rcases converted_ok sources with ⟨value, there, reads⟩ | ⟨rfl, refused⟩
        · exact ⟨value, recent, there, reads, enough⟩
        · obtain ⟨value, count, there, reads⟩ := counted enough
          exact absurd reads (refused value count there)
      · have read : intField builtins stepOutputs "critical_contradictions" = .ok count :=
          converted_of_field there reads
        rw [contradicted, clean] at read
        cases read
        exact ⟨value, there, reads, whole⟩

end

/-! ### The best round -/

/-- `_round_sort_key` -/
def roundSortKey (result : RoundResult) (index : Nat) : Nat × PyFloat × Int :=
  (if result.gatePassed then 1 else 0, result.ciScore, -(index : Int))

/-- Python's `left < right` on such tuples: the first components that differ decide. -/
def keyLt (left right : Nat × PyFloat × Int) : Bool :=
  if left.1 ≠ right.1 then left.1 < right.1
  else if left.2.1 ≠ right.2.1 ∨ left.2.1 = .nan then left.2.1.lt right.2.1
  else left.2.2 < right.2.2

/-- `max(…, key=…)`: an item takes the place of the best one only if its key is greater. -/
def maxRound (best : RoundResult × Nat) : List (RoundResult × Nat) → RoundResult × Nat
  | [] => best
  | item :: rest =>
      maxRound (if keyLt (roundSortKey best.1 best.2) (roundSortKey item.1 item.2) then item
        else best) rest

variable (roundResults : List (Option RoundResult))

def indexed : List (RoundResult × Nat) :=
  roundResults.zipIdx.filterMap fun item => item.1.map fun result => (result, item.2)

def coalesceBestRound : Option RoundResult :=
  match indexed roundResults with
  | [] => none
  | first :: rest => some (maxRound first rest).1

/-- The choice: a passing round if there is one, and otherwise the earliest of those with the
greatest score. -/
structure Chosen (executed : List RoundResult) (best : RoundResult) : Prop where
  passing : (∃ result ∈ executed, result.gatePassed = true) → best.gatePassed = true
  greatest : (∀ result ∈ executed, result.gatePassed = false) → best.ciScore ≠ .nan ∧
    ∃ earlier later, executed = earlier ++ best :: later ∧
      (∀ result ∈ earlier, result.ciScore.lt best.ciScore = true ∨ result.ciScore = .nan) ∧
      ∀ result ∈ later, best.ciScore.lt result.ciScore = false

/-- An order that leaves the NaN out. -/
theorem lt_of_not_lt_of_lt {left middle right : PyFloat} (first : middle.lt left = false)
    (second : middle.lt right = true) : left.lt right = true ∨ left = .nan := by
  cases left <;> cases middle <;> cases right <;> simp_all [lt]
  exact lt_of_le_of_lt first second

theorem not_lt_of_lt {left right : PyFloat} (less : left.lt right = true) :
    right.lt left = false := by
  cases left <;> cases right <;> simp_all [lt]
  exact le_of_lt less

/-- The later of two rounds is preferred only for what it reports. -/
theorem keyLt_iff (best item : RoundResult) {early late : Nat} (ordered : early < late) :
    keyLt (roundSortKey best early) (roundSortKey item late) = true ↔
      best.gatePassed = false ∧ item.gatePassed = true ∨
        best.gatePassed = item.gatePassed ∧ best.ciScore.lt item.ciScore = true := by
  have irreflexive : item.ciScore.lt item.ciScore = false := by
    cases item.ciScore with
    | finite value => exact decide_eq_false (lt_irrefl value)
    | inf | negInf | nan => rfl
  unfold keyLt roundSortKey
  dsimp only
  cases best.gatePassed <;> cases item.gatePassed <;> simp
  all_goals
    by_cases same : best.ciScore = item.ciScore
    · simp [same, irreflexive]
      omega
    · simp [same]

/-- The positions of the rounds ascend. -/
def Ascending (items : List (RoundResult × Nat)) : Prop :=
  items.Pairwise fun first second => first.2 < second.2

variable {best : RoundResult × Nat} {rest : List (RoundResult × Nat)}

theorem maxRound_passes (ascending : Ascending (best :: rest))
    (passes : ∃ item ∈ best :: rest, item.1.gatePassed = true) :
    (maxRound best rest).1.gatePassed = true := by
  induction rest generalizing best with
  | nil =>
      obtain ⟨item, listed, passed⟩ := passes
      rw [mem_singleton.mp listed] at passed
      exact passed
  | cons item rest ih =>
      obtain ⟨behind, ordered⟩ := pairwise_cons.mp ascending
      have less := keyLt_iff best.1 item.1 (behind item mem_cons_self)
      unfold maxRound
      by_cases greater : keyLt (roundSortKey best.1 best.2) (roundSortKey item.1 item.2) = true
      · rw [if_pos greater]
        apply ih ordered
        obtain ⟨other, listed, passed⟩ := passes
        rcases List.mem_cons.mp listed with rfl | later
        · rcases less.mp greater with ⟨-, better⟩ | ⟨same, -⟩
          · exact ⟨item, mem_cons_self, better⟩
          · exact ⟨item, mem_cons_self, same.symm.trans passed⟩
        · exact ⟨other, later, passed⟩
      · rw [if_neg greater]
        apply ih (pairwise_cons.mpr
          ⟨fun other listed => behind other (mem_cons_of_mem _ listed), ordered.of_cons⟩)
        by_cases passed : best.1.gatePassed = true
        · exact ⟨best, mem_cons_self, passed⟩
        · obtain ⟨other, listed, able⟩ := passes
          rcases List.mem_cons.mp listed with rfl | later
          · exact absurd able passed
          · rcases List.mem_cons.mp later with rfl | last
            · exact absurd (less.mpr (.inl ⟨Bool.eq_false_of_not_eq_true passed, able⟩)) greater
            · exact ⟨other, mem_cons_of_mem _ last, able⟩

/-- Where no round passes, one whose score is a NaN is never replaced. -/
theorem maxRound_nan (ascending : Ascending (best :: rest)) (nan : best.1.ciScore = .nan)
    (failing : ∀ item ∈ best :: rest, item.1.gatePassed = false) : maxRound best rest = best := by
  induction rest with
  | nil => rfl
  | cons item rest ih =>
      obtain ⟨behind, ordered⟩ := pairwise_cons.mp ascending
      have stays : keyLt (roundSortKey best.1 best.2) (roundSortKey item.1 item.2) ≠ true := by
        rw [Ne, keyLt_iff best.1 item.1 (behind item mem_cons_self), nan,
          failing item (mem_cons_of_mem _ mem_cons_self)]
        rintro (⟨-, passes⟩ | ⟨-, less⟩)
        · cases passes
        · cases less
      rw [maxRound, if_neg stays]
      apply ih
      · exact pairwise_cons.mpr
          ⟨fun other listed => behind other (mem_cons_of_mem _ listed), ordered.of_cons⟩
      · intro other listed
        rcases List.mem_cons.mp listed with rfl | later
        · exact failing other mem_cons_self
        · exact failing other (mem_cons_of_mem _ (mem_cons_of_mem _ later))

/-- Where no round passes and the score in front is a number, the search ends at the earliest of
the greatest scores; `earlier` and `passed` are the rounds before and behind the best one so far. -/
theorem maxRound_greatest (ascending : Ascending (best :: rest)) (number : best.1.ciScore ≠ .nan)
    (failing : ∀ item ∈ best :: rest, item.1.gatePassed = false) {earlier passed : List RoundResult}
    (lower : ∀ result ∈ earlier, result.ciScore.lt best.1.ciScore = true ∨ result.ciScore = .nan)
    (notHigher : ∀ result ∈ passed, best.1.ciScore.lt result.ciScore = false) :
    (maxRound best rest).1.ciScore ≠ .nan ∧ ∃ before behind,
      earlier ++ best.1 :: passed ++ rest.map Prod.fst =
        before ++ (maxRound best rest).1 :: behind ∧
      (∀ result ∈ before, result.ciScore.lt (maxRound best rest).1.ciScore = true ∨
        result.ciScore = .nan) ∧
      ∀ result ∈ behind, (maxRound best rest).1.ciScore.lt result.ciScore = false := by
  induction rest generalizing best earlier passed with
  | nil =>
      rw [map_nil, append_nil]
      exact ⟨number, earlier, passed, rfl, lower, notHigher⟩
  | cons item rest ih =>
      obtain ⟨behind, ordered⟩ := pairwise_cons.mp ascending
      have less := keyLt_iff best.1 item.1 (behind item mem_cons_self)
      have itemFails := failing item (mem_cons_of_mem _ mem_cons_self)
      rw [failing best mem_cons_self, itemFails] at less
      unfold maxRound
      by_cases greater : keyLt (roundSortKey best.1 best.2) (roundSortKey item.1 item.2) = true
      · rw [if_pos greater]
        have higher : best.1.ciScore.lt item.1.ciScore = true := by
          rcases less.mp greater with ⟨-, passes⟩ | ⟨-, higher⟩
          · cases passes
          · exact higher
        have known : item.1.ciScore ≠ .nan := by
          intro nan
          rw [nan] at higher
          cases score : best.1.ciScore <;> rw [score] at higher <;> cases higher
        have found := @ih item ordered known
          (fun other listed => failing other (mem_cons_of_mem _ listed))
          (earlier ++ best.1 :: passed) [] (by
            intro result listed
            rcases mem_append.mp listed with early | later
            · rcases lower result early with less | nan
              · exact lt_of_not_lt_of_lt (not_lt_of_lt less) higher
              · exact .inr nan
            · rcases List.mem_cons.mp later with rfl | after
              · exact .inl higher
              · exact lt_of_not_lt_of_lt (notHigher result after) higher)
          (fun _ listed => nomatch listed)
        rw [append_assoc, singleton_append] at found
        exact found
      · rw [if_neg greater]
        have found := @ih best (pairwise_cons.mpr
            ⟨fun other listed => behind other (mem_cons_of_mem _ listed), ordered.of_cons⟩)
          number (by
            intro other listed
            rcases List.mem_cons.mp listed with rfl | later
            · exact failing other mem_cons_self
            · exact failing other (mem_cons_of_mem _ (mem_cons_of_mem _ later)))
          earlier (passed ++ [item.1]) lower (by
            intro result listed
            rcases mem_append.mp listed with early | last
            · exact notHigher result early
            · rw [mem_singleton.mp last]
              exact Bool.eq_false_of_not_eq_true fun higher => greater (less.mpr (.inr ⟨rfl, higher⟩)))
        rw [map_cons]
        rw [append_assoc, cons_append, append_assoc, singleton_append] at found
        rw [append_assoc, cons_append]
        exact found

theorem indexed_ascending :
    Ascending (indexed roundResults) := by
  have positions : roundResults.zipIdx.Pairwise fun first second => first.2 < second.2 := by
    apply pairwise_map.mp
    rw [zipIdx_map_snd]
    exact pairwise_lt_range'
  refine positions.filterMap _ ?_
  intro first second less left leftIs right rightIs
  obtain ⟨_, _, rfl⟩ := Option.map_eq_some_iff.mp leftIs
  obtain ⟨_, _, rfl⟩ := Option.map_eq_some_iff.mp rightIs
  exact less

theorem indexed_results :
    (indexed roundResults).map Prod.fst = roundResults.filterMap id := by
  have results : (fun item : Option RoundResult × Nat =>
      (item.1.map fun result => (result, item.2)).map Prod.fst) = id ∘ Prod.fst := by
    funext ⟨result, index⟩
    cases result <;> rfl
  unfold indexed
  rw [map_filterMap, results, ← filterMap_map, zipIdx_map_fst]

theorem chosen_iff {roundResults : List (Option RoundResult)} {best : RoundResult}
    (chosen : coalesceBestRound roundResults = some best) :
    Chosen (roundResults.filterMap id) best ↔
      (∃ result ∈ roundResults.filterMap id, result.gatePassed = true) ∨
        ∀ first ∈ (roundResults.filterMap id).head?, first.ciScore ≠ .nan := by
  have ascending := indexed_ascending roundResults
  rw [← indexed_results]
  unfold coalesceBestRound at chosen
  cases rounds : indexed roundResults with
  | nil =>
      rw [rounds] at chosen
      cases chosen
  | cons first rest =>
      rw [rounds] at chosen ascending
      cases chosen
      have passing (passes : ∃ result ∈ (first :: rest).map Prod.fst, result.gatePassed = true) :
          (maxRound first rest).1.gatePassed = true := by
        obtain ⟨result, listed, passed⟩ := passes
        obtain ⟨item, member, rfl⟩ := mem_map.mp listed
        exact maxRound_passes ascending ⟨item, member, passed⟩
      have fails (none : ∀ result ∈ (first :: rest).map Prod.fst, result.gatePassed = false) :
          ∀ item ∈ first :: rest, item.1.gatePassed = false :=
        fun item listed => none item.1 (mem_map_of_mem listed)
      constructor
      · intro chosen
        by_cases passes : ∃ result ∈ (first :: rest).map Prod.fst, result.gatePassed = true
        · exact .inl passes
        · right
          rintro _ ⟨⟩ nan
          have none : ∀ result ∈ (first :: rest).map Prod.fst, result.gatePassed = false :=
            fun result listed => Bool.eq_false_of_not_eq_true fun passed =>
              passes ⟨result, listed, passed⟩
          have number := (chosen.greatest none).1
          rw [maxRound_nan ascending nan (fails none)] at number
          exact number nan
      · intro either
        refine ⟨passing, fun none => ?_⟩
        have number : first.1.ciScore ≠ .nan := by
          rcases either with ⟨result, listed, passed⟩ | number
          · rw [none result listed] at passed
            cases passed
          · exact number first.1 rfl
        exact maxRound_greatest ascending number (fails none)
          (fun result (listed : result ∈ []) => nomatch listed)
          (fun result (listed : result ∈ []) => nomatch listed)

/-- The gate raises on no round whose fields are converted or refused; with the multidimensional
engine it passes only on evidence exactly where something else stops the round or all that it
reads is reported; the best round is chosen exactly when one passes or the first has a score. -/
theorem research_gate_iff (builtins : Builtins) (settings : GateSettings) (stepOutputs : Mapping)
    (roundResults : List (Option RoundResult)) :
    ((∃ result, researchStopGate builtins settings stepOutputs = .ok result) ↔
      Convertible builtins settings stepOutputs) ∧
    (∀ result, settings.multidimensional = true →
      researchStopGate builtins settings stepOutputs = .ok result →
        ((result.gatePassed = true → Evidence builtins settings stepOutputs) ↔
          Blocked builtins settings stepOutputs ∨ Reported builtins settings stepOutputs)) ∧
    ∀ best, coalesceBestRound roundResults = some best →
      (Chosen (roundResults.filterMap id) best ↔
        (∃ result ∈ roundResults.filterMap id, result.gatePassed = true) ∨
          ∀ first ∈ (roundResults.filterMap id).head?, first.ciScore ≠ .nan) :=
  ⟨gate_ok_iff, fun _ => passes_on_evidence_iff, fun _ => chosen_iff⟩

/-- The conversions of numbers, which are all that the round below reports. -/
def numbers : Builtins where
  text _ := ""
  repr _ := ""
  int
    | .int value => .ok value
    | _ => .error .typeError
  float
    | .float value => .ok value
    | _ => .error .typeError
  isWord := Char.isAlphanum

/-- A round whose scores are all NaN. -/
def unmeasured : Mapping :=
  [(.str "coverage_score", .float .nan), (.str "source_quality_score", .float .nan),
    (.str "agreement_score", .float .nan), (.str "verification_score", .float .nan),
    (.str "recency_score", .float .nan), (.str "recent_source_count", .int 12),
    (.str "critical_contradictions", .int 0)]

theorem nan_round_passes :
    ¬ ∀ (settings : GateSettings) (stepOutputs : Mapping) (result : RoundResult),
      settings.multidimensional = true →
        researchStopGate numbers settings stepOutputs = .ok result →
          result.gatePassed = true → Evidence numbers settings stepOutputs := by
  intro always
  let settings : GateSettings := ⟨true, .finite (4 / 5), 10, false⟩
  have evaluated : ∃ result, researchStopGate numbers settings unmeasured = .ok result ∧
      result.gatePassed = true := ⟨_, rfl, by decide +kernel⟩
  obtain ⟨result, done, passed⟩ := evaluated
  obtain ⟨value, score, there, reads, reached⟩ :=
    (always settings unmeasured result rfl done passed).scores _ mem_cons_self
  cases there
  cases reads
  cases reached

end AgenticRuntime.ResearchGate
