/-
The tables of the evaluation ledger.

Reference and design tables hold definitions; trials, their usage and spend, and grades
are only ever added to, and a correction of a trial or a grade names the row it supersedes.
-/

import AgenticRuntime.Sql.Rebuild

namespace AgenticRuntime

namespace EvalLedger

open Sql

inductive TableName where
  | blob
  | model
  | priceSnapshot
  | prompt
  | workflow
  | workflowPrompt
  | grader
  | judgeCalibration
  | image
  | taskSet
  | task
  | substrate
  | armConfig
  | campaign
  | arm
  | wave
  | waveTask
  | planCell
  | trial
  | stepUsage
  | spend
  | grade
  deriving DecidableEq, Repr

def tableOrder : List TableName :=
  [.blob, .model, .priceSnapshot, .prompt, .workflow, .workflowPrompt, .grader, .judgeCalibration,
    .image, .taskSet, .task, .substrate, .armConfig, .campaign, .arm, .wave, .waveTask, .planCell,
    .trial, .stepUsage, .spend, .grade]

theorem mem_tableOrder (table : TableName) : table ∈ tableOrder := by
  cases table <;> decide

theorem tableOrder_nodup : tableOrder.Nodup := by decide

/-! ### Parts of a declaration -/

def notNull (name : String) : Column := { name := name, notNull := true }

def nullable (name : String) : Column := { name := name }

def references (column : String) (parent : TableName) (key : String) : ForeignKey TableName :=
  { column := column, parent := parent, key := key }

/-- `CHECK (column IS NULL OR column >= 0)` -/
def nullOrNatural (column : String) : Check := .or (.isNull column) (.atLeast column 0)

/-! ### Reference tables -/

def blob : TableSchema TableName :=
  { columns := [nullable "digest", notNull "media_type", notNull "size_bytes",
      notNull "retention", notNull "stored_at"]
    primaryKey := ["digest"]
    checks := [.isIn "retention" ["durable", "prunable"]] }

def model : TableSchema TableName :=
  { columns := [nullable "model_id", notNull "provider", notNull "wire_ref", notNull "family",
      nullable "params_b", nullable "quantization", nullable "context_window",
      notNull "serving_mode", nullable "weights_probe", notNull "first_seen_at"]
    primaryKey := ["model_id"]
    checks := [.isIn "serving_mode" ["hosted", "local_gpu", "local_cpu"]] }

def priceSnapshot : TableSchema TableName :=
  { columns := [nullable "snapshot_id", notNull "model_id", notNull "observed_at",
      nullable "price_in", nullable "price_out", notNull "source"]
    primaryKey := ["snapshot_id"]
    foreignKeys := [references "model_id" .model "model_id"] }

def prompt : TableSchema TableName :=
  { columns := [nullable "prompt_id", notNull "role", notNull "text_digest"]
    primaryKey := ["prompt_id"]
    foreignKeys := [references "text_digest" .blob "digest"] }

def workflow : TableSchema TableName :=
  { columns := [nullable "workflow_id", notNull "name", notNull "yaml_digest", notNull "step_count"]
    primaryKey := ["workflow_id"] }

def workflowPrompt : TableSchema TableName :=
  { columns := [notNull "workflow_id", notNull "prompt_id"]
    primaryKey := ["workflow_id", "prompt_id"]
    foreignKeys := [references "workflow_id" .workflow "workflow_id",
      references "prompt_id" .prompt "prompt_id"] }

def grader : TableSchema TableName :=
  { columns := [nullable "grader_id", notNull "name", notNull "kind", notNull "module_digest",
      nullable "rubric_id"]
    primaryKey := ["grader_id"]
    checks := [.isIn "kind" ["deterministic", "judge", "composite"]] }

def judgeCalibration : TableSchema TableName :=
  { columns := [nullable "calibration_id", notNull "grader_id", notNull "judge_model_id",
      notNull "tnr", notNull "tpr", notNull "wilson_lower", notNull "n", notNull "calibrated_at",
      notNull "expires_at"]
    primaryKey := ["calibration_id"]
    foreignKeys := [references "grader_id" .grader "grader_id",
      references "judge_model_id" .model "model_id"] }

def image : TableSchema TableName :=
  { columns := [nullable "image_id", notNull "repo", nullable "tag", notNull "digest",
      notNull "pulled_at"]
    primaryKey := ["image_id"]
    checks := [.like "digest" "sha256:"] }

def taskSet : TableSchema TableName :=
  { columns := [nullable "task_set_id", notNull "name", notNull "source", notNull "revision",
      nullable "filter_expr", notNull "row_count", nullable "licence", notNull "built_at"]
    primaryKey := ["task_set_id"] }

def task : TableSchema TableName :=
  { columns := [nullable "task_id", notNull "task_set_id", notNull "instance_id", notNull "repo",
      notNull "base_commit", notNull "target_file", notNull "image_id", notNull "fail_to_pass",
      nullable "difficulty", nullable "contamination_risk", nullable "safe_after",
      nullable "problem_blob", nullable "source_blob", nullable "max_changed_lines"]
    primaryKey := ["task_id"]
    uniques := [{ columns := ["task_set_id", "instance_id"] }]
    foreignKeys := [references "task_set_id" .taskSet "task_set_id",
      references "image_id" .image "image_id", references "problem_blob" .blob "digest",
      references "source_blob" .blob "digest"] }

/-! ### Design tables -/

def substrate : TableSchema TableName :=
  { columns := [nullable "substrate_id", notNull "task_set_id", notNull "harness_version",
      notNull "runtime_digest", notNull "evalkit_version", notNull "grader_id",
      notNull "image_digest_set"]
    primaryKey := ["substrate_id"]
    foreignKeys := [references "task_set_id" .taskSet "task_set_id",
      references "grader_id" .grader "grader_id"] }

def armConfig : TableSchema TableName :=
  { columns := [nullable "arm_config_id", notNull "model_id", nullable "temperature",
      nullable "top_p", nullable "top_k", nullable "max_tokens", nullable "seed",
      nullable "stop_sequences", nullable "context_window_used", notNull "workflow_id",
      notNull "retrieval_mode", nullable "tool_policy"]
    primaryKey := ["arm_config_id"]
    checks := [.isIn "retrieval_mode" ["oracle", "agentic_search"]]
    foreignKeys := [references "model_id" .model "model_id",
      references "workflow_id" .workflow "workflow_id"] }

def campaign : TableSchema TableName :=
  { columns := [nullable "campaign_id", notNull "name", notNull "question",
      nullable "primary_contrast", notNull "created_at", notNull "status"]
    primaryKey := ["campaign_id"]
    uniques := [{ columns := ["name"] }]
    checks := [.isIn "status" ["open", "closed", "abandoned"]] }

def arm : TableSchema TableName :=
  { columns := [nullable "arm_id", notNull "campaign_id", notNull "arm_key",
      notNull "arm_config_id", notNull "role"]
    primaryKey := ["arm_id"]
    uniques := [{ columns := ["campaign_id", "arm_key"] }]
    checks := [.isIn "role" ["control", "treatment", "exploratory"]]
    foreignKeys := [references "campaign_id" .campaign "campaign_id",
      references "arm_config_id" .armConfig "arm_config_id"] }

def wave : TableSchema TableName :=
  { columns := [nullable "wave_id", notNull "campaign_id", notNull "wave_no",
      notNull "substrate_id", nullable "stratification",
      { name := "planned_runs", notNull := true, default := .integer 1 }, notNull "opened_at"]
    primaryKey := ["wave_id"]
    uniques := [{ columns := ["campaign_id", "wave_no"] }]
    foreignKeys := [references "campaign_id" .campaign "campaign_id",
      references "substrate_id" .substrate "substrate_id"] }

def waveTask : TableSchema TableName :=
  { columns := [notNull "wave_id", notNull "task_id"]
    primaryKey := ["wave_id", "task_id"]
    foreignKeys := [references "wave_id" .wave "wave_id", references "task_id" .task "task_id"] }

def planCell : TableSchema TableName :=
  { columns := [notNull "wave_id", notNull "arm_id", notNull "task_id", notNull "run_idx",
      notNull "status"]
    primaryKey := ["wave_id", "arm_id", "task_id", "run_idx"]
    checks := [.atLeast "run_idx" 1, .isIn "status" ["planned", "done", "abandoned"]]
    foreignKeys := [references "wave_id" .wave "wave_id", references "arm_id" .arm "arm_id",
      references "task_id" .task "task_id"] }

/-! ### Observation tables -/

def cellColumns : List String := ["wave_id", "arm_id", "task_id", "run_idx"]

/-- With `idx_trial_active_cell` and `trg_trial_substrate_match`. -/
def trial : TableSchema TableName :=
  { columns := [notNull "wave_id", notNull "arm_id", notNull "task_id", notNull "run_idx",
      nullable "trial_id", notNull "batch_id", notNull "substrate_id", notNull "arm_config_id",
      notNull "model_id", notNull "models_answered", notNull "started_at",
      nullable "finished_at", nullable "wall_seconds", notNull "op_status",
      nullable "error_kind", nullable "error_blob", nullable "tokens_in", nullable "tokens_out",
      notNull "trace_id", nullable "transcript_blob", nullable "answer_blob",
      nullable "supersedes"]
    primaryKey := ["trial_id"]
    uniques := [{ columns := cellColumns, whereNull := ["supersedes"] }]
    checks := [
      .isIn "op_status" ["ok", "error", "timeout", "cancelled", "unavailable", "abstain"],
      nullOrNatural "tokens_in", nullOrNatural "tokens_out", nullOrNatural "wall_seconds",
      .atLeast "run_idx" 1]
    foreignKeys := [references "substrate_id" .substrate "substrate_id",
      references "arm_config_id" .armConfig "arm_config_id",
      references "model_id" .model "model_id", references "error_blob" .blob "digest",
      references "transcript_blob" .blob "digest", references "answer_blob" .blob "digest",
      references "supersedes" .trial "trial_id", references "wave_id" .wave "wave_id",
      references "arm_id" .arm "arm_id", references "task_id" .task "task_id"]
    guards := [{
      key := "wave_id"
      parent := .wave
      parentKey := "wave_id"
      read := "substrate_id"
      expected := .column "substrate_id"
      message := "trial.substrate_id must match its wave" }] }

def stepUsage : TableSchema TableName :=
  { columns := [notNull "trial_id", notNull "step_idx", notNull "step_name",
      nullable "model_id", nullable "tokens_in", nullable "tokens_out", nullable "latency_ms",
      nullable "status"]
    primaryKey := ["trial_id", "step_idx"]
    foreignKeys := [references "trial_id" .trial "trial_id",
      references "model_id" .model "model_id"] }

def spend : TableSchema TableName :=
  { columns := [nullable "spend_id", notNull "trial_id", nullable "price_snapshot_id",
      nullable "cost_usd", nullable "gpu_seconds", notNull "computed_at"]
    primaryKey := ["spend_id"]
    foreignKeys := [references "trial_id" .trial "trial_id",
      references "price_snapshot_id" .priceSnapshot "snapshot_id"] }

/-- With `trg_grade_requires_ok_trial`. -/
def grade : TableSchema TableName :=
  { columns := [nullable "grade_id", notNull "trial_id", notNull "grader_id", notNull "status",
      nullable "outcome", nullable "score", nullable "evidence_blob",
      nullable "oracle_provenance", notNull "graded_at", nullable "supersedes"]
    primaryKey := ["grade_id"]
    checks := [
      .isIn "status" ["pass", "fail", "abstain", "unavailable", "error"],
      .isIn "outcome" ["pass", "fail"],
      .same (.isNull "outcome") (.not (.isIn "status" ["pass", "fail"])),
      .or (.isNull "outcome") (.equal "outcome" "status")]
    foreignKeys := [references "trial_id" .trial "trial_id",
      references "grader_id" .grader "grader_id", references "evidence_blob" .blob "digest",
      references "supersedes" .grade "grade_id"]
    guards := [{
      key := "trial_id"
      parent := .trial
      parentKey := "trial_id"
      read := "op_status"
      expected := .literal "ok"
      message := "cannot grade a trial whose op_status is not ok" }] }

def schema : Schema TableName
  | .blob => blob
  | .model => model
  | .priceSnapshot => priceSnapshot
  | .prompt => prompt
  | .workflow => workflow
  | .workflowPrompt => workflowPrompt
  | .grader => grader
  | .judgeCalibration => judgeCalibration
  | .image => image
  | .taskSet => taskSet
  | .task => task
  | .substrate => substrate
  | .armConfig => armConfig
  | .campaign => campaign
  | .arm => arm
  | .wave => wave
  | .waveTask => waveTask
  | .planCell => planCell
  | .trial => trial
  | .stepUsage => stepUsage
  | .spend => spend
  | .grade => grade

/-! ### The schema as a whole -/

theorem schema_wellFormed : schema.WellFormed := by
  constructor
  · intro table
    cases table <;> decide
  · intro table
    cases table <;> decide
  · intro table
    cases table <;> decide
  · intro table
    cases table <;> decide

theorem schema_parentsFirst : ParentsFirst schema tableOrder := by
  intro table _
  cases table <;> decide

end EvalLedger

end AgenticRuntime
