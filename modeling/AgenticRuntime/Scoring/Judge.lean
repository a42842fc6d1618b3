/-
The verdict of the rubric judge.

A rubric is the names of its criteria, a response the JSON that was parsed.  Floats are exact:
the differences of the scores from 1 to 5, and their quotients by 4, are so in Python too.
-/

import AgenticRuntime.Scoring.ResearchGate
import Mathlib.Data.List.Dedup
import Mathlib.Data.String.Basic

namespace Python.PyFloat

def neg : PyFloat → PyFloat
  | .finite value => .finite (-value)
  | .inf => .negInf
  | .negInf => .inf
  | .nan => .nan

def abs : PyFloat → PyFloat
  | .finite value => .finite |value|
  | .nan => .nan
  | .inf | .negInf => .inf

end Python.PyFloat

namespace AgenticRuntime.LLMJudge

open Python List Items

variable (builtins : Builtins)

/-- `sorted(set(names))` -/
def sorted (names : List String) : List String :=
  names.dedup.insertionSort fun left right => ¬ right < left

/-- `str(name).strip()` -/
def canonicalCriterionName (name : PyValue) : String := strip (builtins.str name)

/-! ### The schema of a response -/

/-- `isinstance(score, (int, float))` -/
def isNumber : PyValue → Bool
  | .bool _ | .int _ | .float _ => true
  | _ => false

/-- `float(score) < 1.0 or float(score) > 5.0` -/
def offScale (score : PyFloat) : Bool := score.lt (.finite 1) || score.exceeds 5

def scoreErrors (idx : Nat) (score : PyValue) : Except PyError (List String) :=
  if isNumber score then
    (builtins.float score).map fun value =>
      if offScale value then [s!"criteria[{idx}].score must be in [1, 5]"] else []
  else .ok [s!"criteria[{idx}].score must be numeric"]

/-- The name that an entry is seen under. -/
def seenName : PyValue → Option String
  | .dict item =>
      match field item "name" with
      | .str name => if isBlank name then none else some (strip name)
      | _ => none
  | _ => none

def validateJudgeCriterionItem (idx : Nat) : PyValue → Except PyError (List String)
  | .dict item =>
      (scoreErrors builtins idx (field item "score")).map fun scored =>
        ((["name", "score", "evidence"].filter fun required => (field? item required).isNone).map
            fun required => s!"criteria[{idx}] missing key: {required}") ++
          (if (seenName (.dict item)).isNone then
            [s!"criteria[{idx}].name must be non-empty string"] else []) ++ scored ++
          match field item "evidence" with
          | .str _ => []
          | _ => [s!"criteria[{idx}].evidence must be string"]
  | _ => .ok [s!"criteria[{idx}] must be an object"]

def missingErrors (criteria : List PyValue) (expected : List String) : List String :=
  match sorted ((expected.map strip).filter fun name => name ∉ criteria.filterMap seenName) with
  | [] => []
  | missing => ["missing criteria: " ++ ", ".intercalate missing]

/-- The errors; a response is valid if there are none. -/
def validateJudgeStructuredOutput (payload : Mapping) (expectedCriteria : List String) :
    Except PyError (List String) :=
  match field payload "criteria" with
  | .list (first :: rest) =>
      ((first :: rest).zipIdx.mapM fun item => validateJudgeCriterionItem builtins item.2 item.1).map
        fun errors => errors.flatten ++ missingErrors (first :: rest) expectedCriteria
  | _ => .ok ["criteria must be a non-empty list"]

/-! ### The scores of a response -/

/-- `payload.get("criteria", [])`, iterated -/
def criteriaOf (payload : Mapping) : Except PyError (List PyValue) :=
  match ((field? payload "criteria").getD (.list [])).iterate? with
  | some criteria => .ok criteria
  | none => .error .typeError

/-- `isinstance(item, dict) and item.get("name") is not None` -/
def isNamed : PyValue → Bool
  | .dict item =>
      match field item "name" with
      | .none => false
      | _ => true
  | _ => false

def readScore : PyValue → Except PyError (String × PyFloat)
  | .dict item => (builtins.float (field item "score")).map fun score =>
      (canonicalCriterionName builtins (field item "name"), score)
  | _ => .error .attributeError

/-- A name that is repeated has its last score. -/
def scoresOf (payload : Mapping) : Except PyError (List (String × PyFloat)) := do
  let criteria ← criteriaOf payload
  let scores ← (criteria.filter isNamed).mapM (readScore builtins)
  return update [] scores

/-- `abs(first - second) > max_delta` -/
def diverge (maxDelta : ℚ) (first second : PyFloat) : Bool :=
  (first.add second.neg).abs.exceeds maxDelta

def checkSwappedOrderConsistency (forwardPayload swappedPayload : Mapping) (maxDelta : ℚ) :
    Except PyError (List String) := do
  let forward ← scoresOf builtins forwardPayload
  let swapped ← scoresOf builtins swappedPayload
  return (sorted ((keys forward).filter (· ∈ keys swapped))).filter fun name =>
    diverge maxDelta ((get? forward name).getD .nan) ((get? swapped name).getD .nan)

/-! ### The verdict -/

structure JudgeCriterionScore where
  name : String
  rawScore : PyFloat
  normalizedScore : PyFloat
  evidence : String

structure JudgeEvaluationResult where
  criteria : List JudgeCriterionScore
  normalizedScore : PyFloat
  pairwiseConsistent : Option Bool
  inconsistencyReasons : List String

/-- A response is read by its keys. -/
def invokePrompt : PyValue → Except PyError Mapping
  | .dict payload => .ok payload
  | _ => .error .attributeError

/-- `_likert_1_5` -/
def likert (raw : PyFloat) : PyFloat :=
  ResearchGate.clamp01 ((raw.add (.finite (-1))).scale (1 / 4))

def readEntry (entry : PyValue) : Except PyError (String × PyFloat × String) :=
  (readScore builtins entry).map fun score =>
    (score.1, score.2, builtins.str (field ((asMapping? entry).getD []) "evidence"))

/-- `scores_by_name`, of a response whose entries are valid. -/
def scoresByName (payload : Mapping) : Except PyError (List (String × PyFloat × String)) := do
  let criteria ← criteriaOf payload
  let scores ← criteria.mapM (readEntry builtins)
  return update [] scores

def criterionScore (scores : List (String × PyFloat × String)) (name : String) :
    JudgeCriterionScore :=
  let found := (get? scores (strip name)).getD (.finite 3, "missing_from_response")
  ⟨name, found.1, likert found.1, found.2⟩

/-- What the swapped response disagrees on, where there is a reference. -/
def crossCheck (forward : Mapping) : Option PyValue → Except PyError (Option (List String))
  | none => .ok none
  | some response => do
      let swapped ← invokePrompt response
      let inconsistent ← checkSwappedOrderConsistency builtins forward swapped 1
      return some inconsistent

def verdict (rubric : List String) (inconsistent : Option (List String))
    (scores : List (String × PyFloat × String)) : JudgeEvaluationResult :=
  let criteria := rubric.map (criterionScore scores)
  { criteria
    normalizedScore := ((criteria.map (·.normalizedScore)).foldl PyFloat.add (.finite 0)).scale
      (1 / criteria.length)
    pairwiseConsistent := inconsistent.map fun names => names = []
    inconsistencyReasons := (inconsistent.getD []).map fun criterion =>
      s!"inconsistent_swapped_order:{criterion}" }

def evaluate (rubric : List String) (forward : PyValue) (reference : Option PyValue) :
    Except PyError JudgeEvaluationResult :=
  if rubric = [] then .error (.valueError "Judge criteria cannot be empty") else do
    let payload ← invokePrompt forward
    let errors ← validateJudgeStructuredOutput builtins payload rubric
    if errors ≠ [] then
      .error (.valueError ("Judge output schema invalid: " ++ ", ".intercalate errors))
    else do
      let inconsistent ← crossCheck builtins payload reference
      let scores ← scoresByName builtins payload
      return verdict rubric inconsistent scores

/-! ### An honest verdict -/

/-- The response has an entry with this number for the criterion. -/
def Gives (payload : Mapping) (name : String) (score : PyFloat) : Prop :=
  ∃ (entries : List PyValue) (item : Mapping), field payload "criteria" = .list entries ∧
    .dict item ∈ entries ∧ canonicalCriterionName builtins (field item "name") = strip name ∧
    isNumber (field item "score") = true ∧ builtins.float (field item "score") = .ok score

/-- The last score that the response has for the criterion. -/
def Scores (payload : Mapping) (name : String) (score : PyFloat) : Prop :=
  ∃ scores, scoresOf builtins payload = .ok scores ∧ get? scores (strip name) = some score

structure Honest (rubric : List String) (forward : PyValue) (reference : Option PyValue)
    (result : JudgeEvaluationResult) : Prop where
  complete : result.criteria.map (·.name) = rubric
  inRange : ∀ entry ∈ result.criteria, ∃ raw : ℚ, entry.rawScore = .finite raw ∧ 1 ≤ raw ∧
    raw ≤ 5 ∧ entry.normalizedScore = .finite ((raw - 1) / 4)
  given : ∃ payload, forward = .dict payload ∧
    ∀ entry ∈ result.criteria, Gives builtins payload entry.name entry.rawScore
  checked : ∀ response, reference = some response → result.pairwiseConsistent = some true →
    ∃ swapped, response = .dict swapped ∧
      validateJudgeStructuredOutput builtins swapped rubric = .ok [] ∧
      ∀ entry ∈ result.criteria, ∃ raw other : ℚ, entry.rawScore = .finite raw ∧
        Scores builtins swapped entry.name (.finite other) ∧ |raw - other| ≤ 1

/-- The forward response is valid, and the swapped one, if there is one, can be read. -/
def Accepted (rubric : List String) (payload : Mapping) (reference : Option PyValue) : Prop :=
  rubric ≠ [] ∧ validateJudgeStructuredOutput builtins payload rubric = .ok [] ∧
    ∀ response, reference = some response →
      ∃ swapped scores, response = .dict swapped ∧ scoresOf builtins swapped = .ok scores

/-- A criterion of both responses is scored more than one apart. -/
def Diverging (forward swapped : Mapping) : Prop :=
  ∃ (first second : List (String × PyFloat)) (name : String) (left right : PyFloat),
    scoresOf builtins forward = .ok first ∧ scoresOf builtins swapped = .ok second ∧
    get? first name = some left ∧ get? second name = some right ∧
    diverge 1 left right = true

variable {builtins} {payload : Mapping} {rubric : List String} {name : String}

/-! ### A valid response -/

theorem mem_sorted {names : List String} : name ∈ sorted names ↔ name ∈ names := by
  rw [sorted, mem_insertionSort, mem_dedup]

theorem missingErrors_nil {criteria : List PyValue} {expected : List String}
    (complete : missingErrors criteria expected = []) :
    ∀ name ∈ expected, strip name ∈ criteria.filterMap seenName := by
  intro name listed
  unfold missingErrors at complete
  split at complete
  · rename_i none
    by_contra absent
    have missing : strip name ∈ sorted ((expected.map strip).filter fun name =>
        name ∉ criteria.filterMap seenName) :=
      mem_sorted.mpr (mem_filter.mpr
        ⟨mem_map_of_mem listed, decide_eq_true absent⟩)
    rw [none] at missing
    cases missing
  · cases complete

theorem result_of_mapM_ok {ε α β : Type} {compute : α → Except ε β} {items : List α}
    {results : List β} (done : items.mapM compute = .ok results) {item : α}
    (member : item ∈ items) : ∃ result ∈ results, compute item = .ok result := by
  have each : results.map Except.ok = items.map compute :=
    map_of_mapM_ok done fun _ _ => Eq.symm
  have computed : compute item ∈ results.map Except.ok := each ▸ mem_map_of_mem member
  obtain ⟨result, listed, same⟩ := mem_map.mp computed
  exact ⟨result, listed, same.symm⟩

/-- What an entry without errors is. -/
def ValidEntry (builtins : Builtins) (entry : PyValue) : Prop :=
  ∃ (item : Mapping) (score : PyFloat), entry = .dict item ∧
    seenName entry = some (canonicalCriterionName builtins (field item "name")) ∧
    isNumber (field item "score") = true ∧ builtins.float (field item "score") = .ok score ∧
    offScale score = false

theorem scoreErrors_nil {idx : Nat} {score : PyValue}
    (valid : scoreErrors builtins idx score = .ok []) : isNumber score = true ∧
      ∃ value, builtins.float score = .ok value ∧ offScale value = false := by
  unfold scoreErrors at valid
  split at valid
  · rename_i number
    refine ⟨number, ?_⟩
    cases read : builtins.float score with
    | error error =>
        rw [read] at valid
        cases valid
    | ok value =>
        rw [read] at valid
        refine ⟨value, rfl, Bool.eq_false_of_not_eq_true fun off => ?_⟩
        have none := Except.ok.inj valid
        dsimp only at none
        rw [if_pos off] at none
        cases none
  · cases valid

theorem seenName_canonical {item : Mapping} (seen : seenName (.dict item) = some name) :
    name = canonicalCriterionName builtins (field item "name") := by
  unfold seenName at seen
  dsimp only at seen
  split at seen
  · rename_i text found
    split at seen
    · cases seen
    · rw [found]
      exact (Option.some.inj seen).symm
  · cases seen

theorem validEntry {idx : Nat} {entry : PyValue}
    (valid : validateJudgeCriterionItem builtins idx entry = .ok []) :
    ValidEntry builtins entry := by
  cases entry with
  | dict item =>
      unfold validateJudgeCriterionItem at valid
      dsimp only at valid
      cases scored : scoreErrors builtins idx (field item "score") with
      | error error =>
          rw [scored] at valid
          cases valid
      | ok errors =>
          rw [scored] at valid
          have none := Except.ok.inj valid
          rw [append_eq_nil_iff, append_eq_nil_iff, append_eq_nil_iff] at none
          obtain ⟨⟨⟨-, named⟩, rfl⟩, -⟩ := none
          obtain ⟨number, score, read, inside⟩ := scoreErrors_nil scored
          refine ⟨item, score, rfl, ?_, number, read, inside⟩
          cases seen : seenName (.dict item) with
          | none =>
              rw [seen] at named
              cases named
          | some name => rw [seenName_canonical seen]
  | _ => cases valid

theorem ValidEntry.readScore {entry : PyValue} (valid : ValidEntry builtins entry) :
    ∃ score, readScore builtins entry = .ok score ∧ seenName entry = some score.1 := by
  obtain ⟨item, score, rfl, seen, -, read, -⟩ := valid
  refine ⟨(canonicalCriterionName builtins (field item "name"), score), ?_, seen⟩
  unfold LLMJudge.readScore
  dsimp only
  rw [read]
  rfl

theorem ValidEntry.named {entry : PyValue} (valid : ValidEntry builtins entry) :
    isNamed entry = true := by
  obtain ⟨item, -, rfl, seen, -⟩ := valid
  unfold isNamed
  unfold seenName at seen
  dsimp only at seen ⊢
  split
  · rename_i none
    rw [none] at seen
    cases seen
  · rfl

theorem entries_of_valid
    (valid : validateJudgeStructuredOutput builtins payload rubric = .ok []) :
    ∃ entries, field payload "criteria" = .list entries ∧
      (∀ entry ∈ entries, ValidEntry builtins entry) ∧
      ∀ name ∈ rubric, strip name ∈ entries.filterMap seenName := by
  unfold validateJudgeStructuredOutput at valid
  split at valid
  · rename_i first rest listed
    cases checked : (first :: rest).zipIdx.mapM
        fun item => validateJudgeCriterionItem builtins item.2 item.1 with
    | error error =>
        rw [checked] at valid
        cases valid
    | ok errors =>
        rw [checked] at valid
        obtain ⟨none, complete⟩ := append_eq_nil_iff.mp (Except.ok.inj valid)
        refine ⟨first :: rest, listed, fun entry member => ?_, missingErrors_nil complete⟩
        obtain ⟨idx, there⟩ := mem_iff_getElem?.mp member
        have placed : (entry, idx) ∈ (first :: rest).zipIdx := mem_zipIdx_iff_getElem?.mpr there
        obtain ⟨own, reported, computed⟩ := result_of_mapM_ok checked placed
        rw [flatten_eq_nil_iff.mp none own reported] at computed
        exact validEntry computed
  · cases valid

theorem criteriaOf_list {entries : List PyValue} (listed : field payload "criteria" = .list entries) :
    criteriaOf payload = .ok entries := by
  unfold field at listed
  unfold criteriaOf
  cases found : field? payload "criteria" with
  | none =>
      rw [found] at listed
      cases listed
  | some value =>
      rw [found] at listed
      rw [show value = .list entries from listed]
      rfl

/-- Both passes over a valid response read the same scores. -/
theorem scores_of_valid (valid : validateJudgeStructuredOutput builtins payload rubric = .ok []) :
    ∃ entries pairs scores, field payload "criteria" = .list entries ∧
      (∀ entry ∈ entries, ValidEntry builtins entry) ∧
      entries.mapM (readScore builtins) = .ok pairs ∧
      scoresOf builtins payload = .ok (update [] pairs) ∧
      (∀ name ∈ rubric, strip name ∈ keys pairs) ∧
      scoresByName builtins payload = .ok scores ∧
      scores.map (Prod.map id Prod.fst) = update [] pairs := by
  obtain ⟨entries, listed, each, complete⟩ := entries_of_valid valid
  have criteria := criteriaOf_list listed
  obtain ⟨pairs, read⟩ := exists_mapM_ok fun entry member =>
    (each entry member).readScore.imp fun _ => And.left
  have some_evidence : ∀ entry ∈ entries, ∃ result, readEntry builtins entry = .ok result := by
    intro entry member
    obtain ⟨score, scored, -⟩ := (each entry member).readScore
    unfold readEntry
    rw [scored]
    exact ⟨_, rfl⟩
  obtain ⟨triples, readAll⟩ := exists_mapM_ok some_evidence
  have dropped : triples.map (Prod.map id Prod.fst) = pairs := by
    have first : triples.map (fun triple => Except.ok (Prod.map id Prod.fst triple)) =
        entries.map (readScore builtins) := by
      refine map_of_mapM_ok readAll fun entry result computed => ?_
      unfold readEntry at computed
      cases scored : readScore builtins entry with
      | error error =>
          rw [scored] at computed
          cases computed
      | ok score =>
          rw [scored] at computed
          cases computed
          rfl
    have second : pairs.map Except.ok = entries.map (readScore builtins) :=
      map_of_mapM_ok read fun _ _ => Eq.symm
    apply map_injective_iff.mpr fun _ _ => Except.ok.inj
    rw [second, ← first, map_map]
    rfl
  refine ⟨entries, pairs, update [] triples, listed, each, read, ?_, ?_, ?_, ?_⟩
  · unfold scoresOf
    rw [criteria]
    change (entries.filter isNamed).mapM (readScore builtins) >>= _ = _
    rw [filter_eq_self.mpr fun entry member => (each entry member).named, read]
    rfl
  · intro name expected
    obtain ⟨entry, member, seen⟩ := mem_filterMap.mp (complete name expected)
    obtain ⟨score, scored, named⟩ := (each entry member).readScore
    obtain ⟨result, reported, same⟩ := result_of_mapM_ok read member
    rw [scored] at same
    rw [seen] at named
    rw [Option.some.inj named, Except.ok.inj same]
    exact mem_map_of_mem reported
  · unfold scoresByName
    rw [criteria]
    change entries.mapM (readEntry builtins) >>= _ = _
    rw [readAll]
    rfl
  · rw [← dropped]
    exact (update_renamed (fun _ _ => rfl) Prod.fst [] triples).symm

theorem exists_score (valid : validateJudgeStructuredOutput builtins payload rubric = .ok [])
    (listed : name ∈ rubric) : ∃ score, Scores builtins payload name score := by
  obtain ⟨entries, pairs, scores, -, -, -, done, complete, -⟩ := scores_of_valid valid
  cases found : get? (update [] pairs) (strip name) with
  | none =>
      exact absurd (mem_keys_update.mpr (.inr (complete name listed)))
        (get?_eq_none_iff.mp found)
  | some score => exact ⟨score, _, done, found⟩

theorem gives_of_scores {score : PyFloat}
    (valid : validateJudgeStructuredOutput builtins payload rubric = .ok [])
    (scored : Scores builtins payload name score) :
    Gives builtins payload name score ∧ offScale score = false := by
  obtain ⟨entries, pairs, scores, listed, each, read, done, -⟩ := scores_of_valid valid
  obtain ⟨held, same, found⟩ := scored
  rw [done] at same
  cases same
  have member := (mem_update (mem_of_get? found)).resolve_left not_mem_nil
  obtain ⟨entry, inside, computed⟩ := of_mapM_ok read member
  obtain ⟨item, other, rfl, -, number, converted, onScale⟩ := each entry inside
  unfold readScore at computed
  dsimp only at computed
  rw [converted] at computed
  obtain ⟨named, rfl⟩ := Prod.mk.inj (Except.ok.inj computed)
  exact ⟨⟨entries, item, listed, inside, named, number, converted⟩, onScale⟩

theorem finite_of_onScale {score : PyFloat} (onScale : offScale score = false)
    (number : score ≠ .nan) : ∃ raw : ℚ, score = .finite raw ∧ 1 ≤ raw ∧ raw ≤ 5 := by
  cases score with
  | finite raw =>
      obtain ⟨low, high⟩ := Bool.or_eq_false_iff.mp onScale
      exact ⟨raw, rfl, not_lt.mp (of_decide_eq_false low), not_lt.mp (of_decide_eq_false high)⟩
  | inf | negInf => cases onScale
  | nan => exact absurd rfl number

theorem likert_finite {raw : ℚ} (low : 1 ≤ raw) (high : raw ≤ 5) :
    likert (.finite raw) = .finite ((raw - 1) / 4) := by
  have scaled : (raw + -1) * (1 / 4) = (raw - 1) / 4 := by ring
  change ResearchGate.clamp01 (.finite ((raw + -1) * (1 / 4))) = _
  rw [ResearchGate.clamp01_finite, scaled, EvaluationScoring.clamp01, min_eq_right, max_eq_right]
  · linarith
  · linarith

/-! ### The verdict -/

theorem criterionScore_of_scores {score : PyFloat}
    (valid : validateJudgeStructuredOutput builtins payload rubric = .ok [])
    (scored : Scores builtins payload name score)
    {scores : List (String × PyFloat × String)} (read : scoresByName builtins payload = .ok scores) :
    (criterionScore scores name).rawScore = score := by
  obtain ⟨_, pairs, triples, -, -, -, done, -, readAll, dropped⟩ := scores_of_valid valid
  rw [readAll] at read
  cases read
  obtain ⟨held, same, found⟩ := scored
  rw [done] at same
  cases same
  rw [← dropped] at found
  have renamed := get?_renamed (f := id) (fun _ _ => rfl) Prod.fst scores (strip name)
  rw [id, found] at renamed
  obtain ⟨triple, there, here⟩ := Option.map_eq_some_iff.mp renamed.symm
  unfold criterionScore
  rw [there]
  exact here

theorem evaluate_ok_iff {forward : PyValue} {reference : Option PyValue}
    {result : JudgeEvaluationResult} : evaluate builtins rubric forward reference = .ok result ↔
      rubric ≠ [] ∧ ∃ payload inconsistent scores, forward = .dict payload ∧
        validateJudgeStructuredOutput builtins payload rubric = .ok [] ∧
        crossCheck builtins payload reference = .ok inconsistent ∧
        scoresByName builtins payload = .ok scores ∧
        result = verdict rubric inconsistent scores := by
  unfold evaluate
  constructor
  · intro done
    split at done
    · cases done
    · rename_i filled
      obtain ⟨payload, asked, done⟩ := bind_ok done
      obtain ⟨errors, checked, done⟩ := bind_ok done
      split at done
      · cases done
      · rename_i none
        obtain ⟨inconsistent, compared, done⟩ := bind_ok done
        obtain ⟨scores, read, done⟩ := bind_ok done
        cases done
        cases forward with
        | dict own =>
            cases asked
            exact ⟨filled, payload, inconsistent, scores, rfl, not_not.mp none ▸ checked, compared,
              read, rfl⟩
        | _ => cases asked
  · rintro ⟨filled, payload, inconsistent, scores, rfl, valid, compared, read, rfl⟩
    rw [if_neg filled]
    simp only [invokePrompt, valid, compared, read, bind, Except.bind, ne_eq, not_true_eq_false,
      if_false, pure, Except.pure]

theorem crossCheck_of_scores {swapped : Mapping} {first second : List (String × PyFloat)}
    (forward : scoresOf builtins payload = .ok first)
    (read : scoresOf builtins swapped = .ok second) :
    ∃ inconsistent, crossCheck builtins payload (some (.dict swapped)) = .ok (some inconsistent) ∧
      (inconsistent = [] ↔ ¬ Diverging builtins payload swapped) := by
  refine ⟨(sorted ((keys first).filter (· ∈ keys second))).filter fun name =>
    diverge 1 ((get? first name).getD .nan) ((get? second name).getD .nan), ?_, ?_⟩
  · unfold crossCheck checkSwappedOrderConsistency
    simp only [invokePrompt, forward, read, bind, Except.bind, pure, Except.pure]
  · rw [filter_eq_nil_iff]
    constructor
    · rintro none ⟨_, _, name, left, right, same, other, found, held, apart⟩
      rw [forward] at same
      rw [read] at other
      cases same
      cases other
      have shared : name ∈ sorted ((keys first).filter (· ∈ keys second)) :=
        mem_sorted.mpr (mem_filter.mpr
          ⟨mem_map_of_mem (mem_of_get? found), decide_eq_true (mem_map_of_mem (mem_of_get? held))⟩)
      have kept := none name shared
      rw [found, held] at kept
      exact kept apart
    · intro close name shared apart
      obtain ⟨inFirst, inSecond⟩ := mem_filter.mp (mem_sorted.mp shared)
      have present {scores : List (String × PyFloat)} (listed : name ∈ keys scores) :
          ∃ score, get? scores name = some score :=
        Option.ne_none_iff_exists'.mp fun none => get?_eq_none_iff.mp none listed
      obtain ⟨left, found⟩ := present inFirst
      obtain ⟨right, held⟩ := present (of_decide_eq_true inSecond)
      rw [found, held] at apart
      exact close ⟨first, second, name, left, right, forward, read, found, held, apart⟩

theorem crossCheck_some {response : PyValue} {inconsistent : Option (List String)}
    (compared : crossCheck builtins payload (some response) = .ok inconsistent) :
    ∃ swapped second, response = .dict swapped ∧ scoresOf builtins swapped = .ok second := by
  unfold crossCheck at compared
  obtain ⟨swapped, asked, compared⟩ := bind_ok compared
  obtain ⟨names, checked, -⟩ := bind_ok compared
  obtain ⟨first, -, checked⟩ := bind_ok checked
  obtain ⟨second, read, -⟩ := bind_ok checked
  cases response with
  | dict own =>
      cases asked
      exact ⟨swapped, second, rfl, read⟩
  | _ => cases asked

/-- Two finite scores that do not diverge are at most one apart. -/
theorem close_of_not_diverge {raw other : ℚ} (close : ¬ diverge 1 (.finite raw) (.finite other) = true) :
    |raw - other| ≤ 1 := by
  have computed : diverge 1 (.finite raw) (.finite other) = decide (1 < |raw + -other|) := rfl
  rw [computed, decide_eq_true_iff, not_lt, ← sub_eq_add_neg] at close
  exact close

theorem finite_score (valid : validateJudgeStructuredOutput builtins payload rubric = .ok [])
    (listed : name ∈ rubric) (number : ¬ Scores builtins payload name .nan) :
    ∃ raw : ℚ, Scores builtins payload name (.finite raw) ∧ 1 ≤ raw ∧ raw ≤ 5 := by
  obtain ⟨score, scored⟩ := exists_score valid listed
  obtain ⟨-, onScale⟩ := gives_of_scores valid scored
  obtain ⟨raw, rfl, low, high⟩ := finite_of_onScale onScale (by
    rintro rfl
    exact number scored)
  exact ⟨raw, scored, low, high⟩

/-- An accepted pair of responses gets an honest verdict exactly when no criterion of the rubric
is scored NaN, and a swapped response that nowhere diverges is valid and free of NaN as well. -/
theorem verdict_honest_iff (builtins : Builtins) (rubric : List String) (forward : PyValue)
    (reference : Option PyValue) :
    (∀ result, evaluate builtins rubric forward reference = .ok result →
      Honest builtins rubric forward reference result) ↔
    ∀ payload, forward = .dict payload → Accepted builtins rubric payload reference →
      (∀ name ∈ rubric, ¬ Scores builtins payload name .nan) ∧
      ∀ swapped, reference = some (.dict swapped) → Diverging builtins payload swapped ∨
        (validateJudgeStructuredOutput builtins swapped rubric = .ok [] ∧
          ∀ name ∈ rubric, ¬ Scores builtins swapped name .nan) := by
  constructor
  · rintro honest payload rfl ⟨filled, valid, readable⟩
    obtain ⟨_, _, scores, -, -, -, forward, -, read, -⟩ := scores_of_valid valid
    have reported {inconsistent : Option (List String)}
        (compared : crossCheck builtins payload reference = .ok inconsistent) :
        Honest builtins rubric (.dict payload) reference (verdict rubric inconsistent scores) :=
      honest _ (evaluate_ok_iff.mpr
        ⟨filled, payload, inconsistent, scores, rfl, valid, compared, read, rfl⟩)
    have entry {name : String} (listed : name ∈ rubric) (inconsistent : Option (List String)) :
        criterionScore scores name ∈ (verdict rubric inconsistent scores).criteria :=
      mem_map_of_mem listed
    constructor
    · intro name listed nan
      have compares : ∃ inconsistent, crossCheck builtins payload reference = .ok inconsistent := by
        cases reference with
        | none => exact ⟨none, rfl⟩
        | some response =>
            obtain ⟨swapped, second, rfl, other⟩ := readable response rfl
            obtain ⟨names, compared, -⟩ := crossCheck_of_scores forward other
            exact ⟨some names, compared⟩
      obtain ⟨inconsistent, compared⟩ := compares
      obtain ⟨raw, same, -⟩ := (reported compared).inRange _ (entry listed inconsistent)
      rw [criterionScore_of_scores valid nan read] at same
      cases same
    · rintro swapped rfl
      by_cases apart : Diverging builtins payload swapped
      · exact .inl apart
      · right
        obtain ⟨_, second, ⟨⟩, other⟩ := readable _ rfl
        obtain ⟨names, compared, none⟩ := crossCheck_of_scores forward other
        have consistent : (verdict rubric (some names) scores).pairwiseConsistent = some true :=
          congrArg some (decide_eq_true (none.mpr apart))
        obtain ⟨_, ⟨⟩, schema, each⟩ := (reported compared).checked _ rfl consistent
        refine ⟨schema, ?_⟩
        rintro name listed ⟨first, one, found⟩
        obtain ⟨raw, value, -, ⟨last, two, held⟩, -⟩ := each _ (entry listed _)
        rw [one] at two
        cases two
        cases found.symm.trans held
  · intro careful result done
    obtain ⟨filled, payload, inconsistent, scores, rfl, valid, compared, read, rfl⟩ :=
      evaluate_ok_iff.mp done
    obtain ⟨_, _, _, -, -, -, forward, -⟩ := scores_of_valid valid
    obtain ⟨numbers, cross⟩ := careful payload rfl ⟨filled, valid, by
      rintro response rfl
      exact crossCheck_some compared⟩
    constructor
    · change (rubric.map (criterionScore scores)).map (·.name) = rubric
      rw [map_map]
      exact map_id rubric
    · intro entry member
      obtain ⟨name, listed, rfl⟩ := mem_map.mp member
      obtain ⟨raw, scored, low, high⟩ := finite_score valid listed (numbers name listed)
      have same := criterionScore_of_scores valid scored read
      refine ⟨raw, same, low, high, ?_⟩
      change likert (criterionScore scores name).rawScore = _
      rw [same]
      exact likert_finite low high
    · refine ⟨payload, rfl, fun entry member => ?_⟩
      obtain ⟨name, listed, rfl⟩ := mem_map.mp member
      obtain ⟨raw, scored, -⟩ := finite_score valid listed (numbers name listed)
      rw [criterionScore_of_scores valid scored read]
      exact (gives_of_scores valid scored).1
    · rintro response rfl consistent
      obtain ⟨swapped, second, rfl, other⟩ := crossCheck_some compared
      obtain ⟨names, again, none⟩ := crossCheck_of_scores forward other
      rw [compared] at again
      cases again
      have close := none.mp (of_decide_eq_true (Option.some.inj consistent))
      obtain ⟨schema, swappedNumbers⟩ := (cross swapped rfl).resolve_left close
      refine ⟨swapped, rfl, schema, fun entry member => ?_⟩
      obtain ⟨name, listed, rfl⟩ := mem_map.mp member
      obtain ⟨raw, scored, -⟩ := finite_score valid listed (numbers name listed)
      obtain ⟨value, held, -⟩ := finite_score schema listed (swappedNumbers name listed)
      refine ⟨raw, value, criterionScore_of_scores valid scored read, held, ?_⟩
      apply close_of_not_diverge
      intro apart
      obtain ⟨first, one, found⟩ := scored
      obtain ⟨last, two, there⟩ := held
      exact close ⟨first, last, strip name, .finite raw, .finite value, one, two, found, there, apart⟩

/-- A NaN score: the criterion is reported with it, and normalized to 1. -/
theorem nan_score_accepted : ¬ ∀ (builtins : Builtins) (rubric : List String) (forward : PyValue)
    (reference : Option PyValue) (result : JudgeEvaluationResult),
    evaluate builtins rubric forward reference = .ok result →
      Honest builtins rubric forward reference result := by
  intro always
  let response : Mapping := [(.str "criteria", .list [.dict [(.str "name", .str "clarity"),
    (.str "score", .float .nan), (.str "evidence", .str "")]])]
  have valid : validateJudgeStructuredOutput ResearchGate.numbers response ["clarity"] = .ok [] :=
    by decide +kernel
  have read : scoresByName ResearchGate.numbers response = .ok [("clarity", .nan, "")] := by
    decide +kernel
  have done := (@evaluate_ok_iff ResearchGate.numbers ["clarity"] (.dict response) none _).mpr
    ⟨cons_ne_nil _ _, response, none, _, rfl, valid, rfl, read, rfl⟩
  obtain ⟨raw, same, -⟩ := (always _ _ _ _ _ done).inRange _ mem_cons_self
  cases same

end AgenticRuntime.LLMJudge
