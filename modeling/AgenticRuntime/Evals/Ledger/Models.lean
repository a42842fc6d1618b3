/-
The dataclasses of the evaluation ledger, one for each table.
-/

import AgenticRuntime.Evals.Ledger.Schema
import AgenticRuntime.Python.Values
import Mathlib.Data.List.Forall2

namespace AgenticRuntime

namespace EvalLedger

open Python

inductive FieldType where
  | str
  | int
  | float
  deriving DecidableEq, Repr

structure Field where
  name : String
  type : FieldType
  orNone : Bool := false
  deriving DecidableEq, Repr

namespace Field

def str (name : String) : Field := { name := name, type := .str }

def int (name : String) : Field := { name := name, type := .int }

def float (name : String) : Field := { name := name, type := .float }

def optional (field : Field) : Field := { field with orNone := true }

def Admits (field : Field) : PyValue → Prop
  | .none => field.orNone = true
  | .str _ => field.type = .str
  | .int _ => field.type = .int
  | .float _ => field.type = .float
  | _ => False

instance (field : Field) (value : PyValue) : Decidable (field.Admits value) := by
  unfold Admits
  split <;> infer_instance

end Field

open EvalLedger.Field in
def fields : TableName → List Field
  | .blob =>
      [str "digest", str "media_type", int "size_bytes", str "retention", str "stored_at"]
  | .model =>
      [str "model_id", str "provider", str "wire_ref", str "family", optional (float "params_b"),
        optional (str "quantization"), optional (int "context_window"), str "serving_mode",
        optional (str "weights_probe"), str "first_seen_at"]
  | .priceSnapshot =>
      [str "snapshot_id", str "model_id", str "observed_at", optional (float "price_in"),
        optional (float "price_out"), str "source"]
  | .prompt =>
      [str "prompt_id", str "role", str "text_digest"]
  | .workflow =>
      [str "workflow_id", str "name", str "yaml_digest", int "step_count"]
  | .workflowPrompt =>
      [str "workflow_id", str "prompt_id"]
  | .grader =>
      [str "grader_id", str "name", str "kind", str "module_digest", optional (str "rubric_id")]
  | .judgeCalibration =>
      [str "calibration_id", str "grader_id", str "judge_model_id", float "tnr", float "tpr",
        float "wilson_lower", int "n", str "calibrated_at", str "expires_at"]
  | .image =>
      [str "image_id", str "repo", optional (str "tag"), str "digest", str "pulled_at"]
  | .taskSet =>
      [str "task_set_id", str "name", str "source", str "revision", optional (str "filter_expr"),
        int "row_count", optional (str "licence"), str "built_at"]
  | .task =>
      [str "task_id", str "task_set_id", str "instance_id", str "repo", str "base_commit",
        str "target_file", str "image_id", str "fail_to_pass", optional (str "difficulty"),
        optional (str "contamination_risk"), optional (str "safe_after"),
        optional (str "problem_blob"), optional (str "source_blob"),
        optional (int "max_changed_lines")]
  | .substrate =>
      [str "substrate_id", str "task_set_id", str "harness_version", str "runtime_digest",
        str "evalkit_version", str "grader_id", str "image_digest_set"]
  | .armConfig =>
      [str "arm_config_id", str "model_id", optional (float "temperature"),
        optional (float "top_p"), optional (int "top_k"), optional (int "max_tokens"),
        optional (int "seed"), optional (str "stop_sequences"),
        optional (int "context_window_used"), str "workflow_id", str "retrieval_mode",
        optional (str "tool_policy")]
  | .campaign =>
      [str "campaign_id", str "name", str "question", optional (str "primary_contrast"),
        str "created_at", str "status"]
  | .arm =>
      [str "arm_id", str "campaign_id", str "arm_key", str "arm_config_id", str "role"]
  | .wave =>
      [str "wave_id", str "campaign_id", int "wave_no", str "substrate_id",
        optional (str "stratification"), int "planned_runs", str "opened_at"]
  | .waveTask =>
      [str "wave_id", str "task_id"]
  | .planCell =>
      [str "wave_id", str "arm_id", str "task_id", int "run_idx", str "status"]
  | .trial =>
      [str "wave_id", str "arm_id", str "task_id", int "run_idx", str "trial_id", str "batch_id",
        str "substrate_id", str "arm_config_id", str "model_id", str "models_answered",
        str "started_at", optional (str "finished_at"), optional (float "wall_seconds"),
        str "op_status", optional (str "error_kind"), optional (str "error_blob"),
        optional (int "tokens_in"), optional (int "tokens_out"), str "trace_id",
        optional (str "transcript_blob"), optional (str "answer_blob"), optional (str "supersedes")]
  | .stepUsage =>
      [str "trial_id", int "step_idx", str "step_name", optional (str "model_id"),
        optional (int "tokens_in"), optional (int "tokens_out"), optional (float "latency_ms"),
        optional (str "status")]
  | .spend =>
      [str "spend_id", str "trial_id", optional (str "price_snapshot_id"),
        optional (float "cost_usd"), optional (float "gpu_seconds"), str "computed_at"]
  | .grade =>
      [str "grade_id", str "trial_id", str "grader_id", str "status", optional (str "outcome"),
        optional (float "score"), optional (str "evidence_blob"),
        optional (str "oracle_provenance"), str "graded_at", optional (str "supersedes")]

theorem fields_names (table : TableName) :
    (fields table).map Field.name = (schema table).columnNames := by
  cases table <;> rfl

structure Entity (table : TableName) where
  values : List PyValue
  typed : List.Forall₂ Field.Admits (fields table) values := by decide

def rowColumns (table : TableName) : List String := (fields table).map Field.name

/-- `getattr(obj, name)` -/
def Entity.getattr {table : TableName} (obj : Entity table) (name : String) : PyValue :=
  (((rowColumns table).zip obj.values).lookup name).getD .none

end EvalLedger

end AgenticRuntime
