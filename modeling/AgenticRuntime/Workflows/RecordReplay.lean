/-
When a run record replays as the result it was built from.

A record keeps its step's tokens only as an integer, and a naive and an aware moment have no
duration.
-/

import AgenticRuntime.Agents.MemoryManifest
import AgenticRuntime.Workflows.RunRecords

namespace AgenticRuntime

open List hiding repr

namespace RunLog

open Python

/-! ### JSON values -/

inductive Short : PyValue → Prop where
  | none : Short .none
  | bool (value : Bool) : Short (.bool value)
  | int (value : Int) : Short (.int value)
  | float (value : PyFloat) : Short (.float value)
  | str {text : String} (fits : text.length ≤ 10000) : Short (.str text)
  | list {items : List PyValue} (each : ∀ item ∈ items, Short item) : Short (.list items)
  | dict {items : List (PyKey × PyValue)} (each : ∀ item ∈ items, Short item.2) :
      Short (.dict items)

variable (dict metadata : Dict PyValue)

def Stored : Prop := ∀ item ∈ dict.items, Plain item.2

def Uncut : Prop := ∀ item ∈ dict.items, Short item.2

theorem truncateItems_eq (items : List (PyKey × PyValue)) :
    truncateItems items = items.map fun item => (item.1, truncate item.2) := by
  induction items with
  | nil => rfl
  | cons item rest ih => rw [truncateItems, ih, map_cons]

theorem truncateElements_eq (items : List PyValue) :
    truncateElements items = items.map truncate := by
  induction items with
  | nil => rfl
  | cons item rest ih => rw [truncateElements, ih, map_cons]

theorem truncate_of_short {value : PyValue} (short : Short value) : truncate value = value := by
  induction short with
  | none => rfl
  | bool value => rfl
  | int value => rfl
  | float value => rfl
  | str fits =>
      rw [truncate, if_neg]
      omega
  | list _ ih => rw [truncate, truncateElements_eq, map_congr_left ih, map_id']
  | @dict items _ ih =>
      have same : ∀ item ∈ items, (item.1, truncate item.2) = item := by
        intro item member
        rw [ih item member]
      rw [truncate, truncateItems_eq, map_congr_left same, map_id']

theorem plain_truncate {value : PyValue} (plain : Plain value) : Plain (truncate value) := by
  induction plain with
  | none => exact .none
  | bool value => exact .bool value
  | int value => exact .int value
  | float value => exact .float value
  | str text =>
      rw [truncate]
      split
      · exact .str _
      · exact .str _
  | list _ ih =>
      rw [truncate, truncateElements_eq]
      apply Plain.list
      intro item member
      obtain ⟨source, there, same⟩ := mem_map.mp member
      exact same ▸ ih source there
  | @dict items distinct _ ih =>
      have shape : truncate (.dict (items.map fun item => (.str item.1, item.2))) =
          recordOf (items.map fun item => (item.1, truncate item.2)) := by
        rw [truncate, truncateItems_eq, recordOf, recordItems, map_map, map_map]
        rfl
      have keys : Items.keys (items.map fun item => (item.1, truncate item.2)) =
          Items.keys items := by
        rw [Items.keys, map_map]
        rfl
      rw [shape]
      apply Plain.dict (keys ▸ distinct)
      intro item member
      obtain ⟨source, there, same⟩ := mem_map.mp member
      exact same ▸ ih source there

theorem plain_dictValue {dict : Dict PyValue} (stored : Stored dict) : Plain (dictValue dict) :=
  .dict dict.distinct stored

theorem truncate_dictValue {dict : Dict PyValue} (uncut : Uncut dict) :
    truncate (dictValue dict) = dictValue dict := by
  apply truncate_of_short
  apply Short.dict
  intro item member
  obtain ⟨source, there, same⟩ := mem_map.mp member
  exact same ▸ uncut source there

theorem plain_empty : Plain (.dict []) := @Plain.dict [] nodup_nil nofun

theorem written_of_plain {value : PyValue} (plain : Plain value) (floatRepr : PyFloat → String) :
    ∃ json, value.dumps floatRepr = some json ∧ json.loads = value := by
  have serialisable : Serialisable (fun _ => False) value := plain.serialisable
  have never : ∀ value, False → Written floatRepr value := fun _ impossible => impossible.elim
  obtain ⟨json, dumped, loaded⟩ := written_of_serialisable never serialisable
  exact ⟨json, dumped, loaded.trans (asJson_of_plain plain)⟩

theorem plain_textValue (text : Option String) : Plain (textValue text) := by
  cases text with
  | none => exact .none
  | some text => exact .str text

theorem plain_numberValue (number : Option Int) : Plain (numberValue number) := by
  cases number with
  | none => exact .none
  | some number => exact .int number

theorem plain_durationMs {start : DateTime} {finish : Option DateTime} {duration : PyValue}
    (lasted : durationMs start finish = .ok duration) : Plain duration := by
  cases finish with
  | none =>
      cases lasted
      exact .none
  | some finish =>
      rw [durationMs] at lasted
      split at lasted
      · cases lasted
        exact .float _
      · cases lasted

theorem plain_otherMetadata {metadata : Dict PyValue} (stored : Stored metadata) :
    Plain (otherMetadata metadata) := by
  unfold otherMetadata
  dsimp only
  split
  · exact .none
  · apply plain_dictValue
    intro item member
    exact stored item ((Items.erase_sublist metadata.items "tokens_used").subset member)

theorem plain_modelDump {record : StepResultRecord} (duration : Plain record.durationMs)
    (input : Plain record.input) (output : Plain record.output)
    (metadata : Plain record.metadata) : Plain (recordOf record.modelDump) := by
  apply Plain.dict
  · change ["step_name", "status", "agent_role", "tier", "model_used", "duration_ms",
      "retry_count", "tokens_used", "input", "output", "error", "error_type", "start_time",
      "end_time", "metadata"].Nodup
    decide
  · unfold StepResultRecord.modelDump
    simp only [forall_mem_cons]
    exact ⟨.str _, .str _, plain_textValue _, plain_numberValue _, plain_textValue _, duration,
      .int _, plain_numberValue _, input, output, plain_textValue _, plain_textValue _,
      plain_textValue _, plain_textValue _, metadata, nofun⟩

/-! ### The documented behaviour of pydantic and `int` -/

/-- The offset from UTC is whole minutes, which is all that pydantic's format has room for. -/
def Whole (moment : DateTime) : Prop :=
  ∀ offset, moment.offset = some offset → offset.amount.second = 0 ∧ offset.amount.microsecond = 0

structure Documented (pydantic : Pydantic) (builtins : Builtins) : Prop where
  int_int : ∀ number, pydantic.int (.int number) = some number
  whole : ∀ moment, Whole moment → pydantic.datetime (.str moment.isoformat) = some moment
  seconds : ∀ moment, ¬ Whole moment → pydantic.datetime (.str moment.isoformat) = none
  errors : ∀ value, Plain value → Plain (pydantic.errors value)
  builtin_int : ∀ number, builtins.int (.int number) = .ok number

/-! ### Reading what was written -/

theorem isoformat_ne (moment : DateTime) : moment.isoformat ≠ "" := by
  intro empty
  have chars := congrArg String.toList empty
  unfold DateTime.isoformat at chars
  rw [String.toList_ofList] at chars
  have both := append_eq_nil_iff.mp chars
  cases both.2

theorem dictField_dictValue : dictField (dictValue dict) = .ok dict := by
  have named : (recordItems dict.items).mapM namedItem = .ok dict.items := by
    unfold recordItems
    induction dict.items with
    | nil => rfl
    | cons item rest ih =>
        rw [map_cons, mapM_cons, ih]
        rfl
  change ((recordItems dict.items).mapM namedItem).map Dict.ofItems = .ok dict
  rw [named]
  exact congrArg Except.ok dict.ofItems_items

theorem dictField_orElse :
    dictField (orElse (dictValue dict) (.dict [])) = .ok dict := by
  cases shape : dict.items with
  | nil =>
      have empty : dict = Dict.empty := Dict.ext shape
      rw [empty]
      rfl
  | cons item rest =>
      have full : (dictValue dict).truthy = true := by
        rw [dictValue, shape]
        rfl
      rw [orElse, if_pos full, dictField_dictValue]

theorem optionalText_textValue (text : Option String) :
    optionalText (textValue text) = .ok text := by
  cases text with
  | none => rfl
  | some text => rfl

theorem coerceStepStatus_value (builtins : Builtins) (status : StepStatus) :
    coerceStepStatus builtins (.str status.value) = status := by
  cases status with
  | pending => rfl
  | running => rfl
  | success => rfl
  | failed => rfl
  | skipped => rfl
  | retrying => rfl

theorem orElse_str {text : String} (filled : text ≠ "") (fallback : PyValue) :
    orElse (.str text) fallback = .str text := if_pos (decide_eq_true filled)

section

variable {pydantic : Pydantic} {builtins : Builtins} (documented : Documented pydantic builtins)

include documented

theorem optionalTier_numberValue (tier : Option (Fin 6)) :
    optionalTier pydantic (numberValue ((tier.map Fin.val).map Int.ofNat)) = .ok tier := by
  cases tier with
  | none => rfl
  | some tier =>
      have inRange : 0 ≤ Int.ofNat tier.val ∧ (Int.ofNat tier.val).toNat < 6 := by
        have bound := tier.isLt
        constructor
        · exact Int.natCast_nonneg tier.val
        · exact bound
      simp only [optionalTier, numberValue, Option.map_some, documented.int_int]
      exact dif_pos inRange

theorem retryField_int (count : Nat) : retryField builtins (.int count) = .ok count := by
  have same : orElse (.int count) (.int 0) = .int count := by
    unfold orElse
    split
    · rfl
    · rename_i nothing
      have zero : (count : Int) = 0 := by
        by_contra some
        exact nothing (decide_eq_true some)
      rw [zero]
  rw [retryField, same, documented.builtin_int]
  exact if_pos (Int.natCast_nonneg count)

theorem datetimeField_isoformat {moment : DateTime} (whole : Whole moment) :
    datetimeField pydantic (.str moment.isoformat) = .ok (some moment) := by
  have full : (PyValue.str moment.isoformat).truthy = true := decide_eq_true (isoformat_ne moment)
  rw [datetimeField, if_pos full, documented.whole moment whole]

theorem datetimeField_refuses {moment : DateTime} (whole : ¬ Whole moment) :
    datetimeField pydantic (.str moment.isoformat) = .error .validationError := by
  have full : (PyValue.str moment.isoformat).truthy = true := decide_eq_true (isoformat_ne moment)
  rw [datetimeField, if_pos full, documented.seconds moment whole]

end

/-! ### Metadata -/

def putBack : Option Int → Dict PyValue
  | none => metadata.erase "tokens_used"
  | some tokens => (metadata.erase "tokens_used").insert "tokens_used" (.int tokens)

theorem updateFrom_otherMetadata :
    updateFrom [] (orElse (otherMetadata metadata) (.dict [])) =
      (recordItems (metadata.erase "tokens_used").items, none) := by
  have read := updateFrom_manifestRecord (metadata.erase "tokens_used")
  unfold otherMetadata
  dsimp only
  cases shape : (metadata.erase "tokens_used").items with
  | nil => rfl
  | cons item rest =>
      rw [shape] at read
      rw [if_neg (by intro empty; cases empty), dictValue, shape]
      exact read

theorem metadataItems_of {raw : Mapping} {metadata : Dict PyValue} {tokens : Option Int}
    (others : field raw "metadata" = otherMetadata metadata)
    (used : field raw "tokens_used" = numberValue tokens) :
    metadataItems raw = .ok (recordItems (putBack metadata tokens).items) := by
  unfold metadataItems
  rw [others, updateFrom_otherMetadata, used]
  cases tokens with
  | none => rfl
  | some tokens =>
      exact congrArg Except.ok
        (Items.insert_str (metadata.erase "tokens_used").items "tokens_used" (.int tokens))

/-! ### One step -/

structure TimesWhole (step : StepResult) : Prop where
  start : Whole step.startTime
  finish : ∀ finish, step.endTime = some finish → Whole finish

section

variable {pydantic : Pydantic} {builtins : Builtins} (documented : Documented pydantic builtins)
  (now : DateTime)

include documented

theorem datetimeField_textValue {finish : Option DateTime}
    (whole : ∀ moment, finish = some moment → Whole moment) :
    datetimeField pydantic (textValue (finish.map DateTime.isoformat)) = .ok finish := by
  cases finish with
  | none => rfl
  | some moment => exact datetimeField_isoformat documented (whole moment rfl)

theorem whole_of_datetimeField {finish read : Option DateTime}
    (done : datetimeField pydantic (textValue (finish.map DateTime.isoformat)) = .ok read) :
    ∀ moment, finish = some moment → Whole moment := by
  intro moment same
  by_contra odd
  rw [same] at done
  have refused := datetimeField_refuses documented odd
  cases done.symm.trans refused

structure Holds (raw : Mapping) (step : StepResult) (metadata : Dict PyValue) : Prop where
  name : field raw "step_name" = .str step.stepName
  status : field raw "status" = .str step.status.value
  agentRole : field raw "agent_role" = textValue step.agentRole
  tier : field raw "tier" = numberValue ((step.tier.map Fin.val).map Int.ofNat)
  modelUsed : field raw "model_used" = textValue step.modelUsed
  inputData : field raw "input" = dictValue step.inputData
  outputData : field raw "output" = dictValue step.outputData
  error : field raw "error" = textValue step.error
  errorType : field raw "error_type" = textValue step.errorType
  retryCount : field raw "retry_count" = .int step.retryCount
  metadata : metadataItems raw = .ok (recordItems metadata.items)

theorem replayStep_of {raw : Mapping} {step : StepResult} {metadata : Dict PyValue}
    (holds : Holds raw step metadata) : replayStep pydantic builtins now raw =
      (datetimeField pydantic (field raw "start_time")).bind fun startTime =>
        (datetimeField pydantic (field raw "end_time")).bind fun endTime => .ok { step with
          startTime := startTime.getD now, endTime := endTime, metadata := metadata } := by
  have name : builtins.str (orElse (field raw "step_name") (.str "<unknown>")) =
      step.stepName := by
    rw [holds.name, orElse_str step.named]
    rfl
  have metadataRead : dictField (.dict (recordItems metadata.items)) = .ok metadata :=
    dictField_dictValue metadata
  have retry := retryField_int documented step.retryCount
  have tier := optionalTier_numberValue documented step.tier
  unfold replayStep
  simp only [bind, Except.bind, holds.metadata, holds.retryCount, retry, holds.agentRole,
    holds.tier, tier, holds.modelUsed, holds.inputData, holds.outputData, holds.error,
    holds.errorType, holds.status, dictField_orElse, optionalText_textValue, metadataRead, name,
    coerceStepStatus_value, dif_pos step.named]
  rfl

omit documented in
theorem holds_validRecord {step : StepResult} (input : Uncut step.inputData)
    (output : Uncut step.outputData) (duration : PyValue) (tokens : Option Int) :
    Holds (recordItems (validRecord step duration tokens).modelDump) step
      (putBack step.metadata tokens) where
  name := rfl
  status := rfl
  agentRole := rfl
  tier := rfl
  modelUsed := rfl
  inputData := truncate_dictValue input
  outputData := truncate_dictValue output
  error := rfl
  errorType := rfl
  retryCount := rfl
  metadata := metadataItems_of rfl rfl

theorem replayStep_valid {step : StepResult} (input : Uncut step.inputData)
    (output : Uncut step.outputData) (duration : PyValue) (tokens : Option Int) :
    replayStep pydantic builtins now (recordItems (validRecord step duration tokens).modelDump) =
      (datetimeField pydantic (.str step.startTime.isoformat)).bind fun startTime =>
        (datetimeField pydantic (textValue (step.endTime.map DateTime.isoformat))).bind
          fun endTime => .ok { step with
            startTime := startTime.getD now, endTime := endTime
            metadata := putBack step.metadata tokens } :=
  replayStep_of documented now (holds_validRecord input output duration tokens)

omit documented in
theorem replayStep_metadata {raw : Mapping} {replayed : StepResult}
    (done : replayStep pydantic builtins now raw = .ok replayed) :
    ∃ items, metadataItems raw = .ok items ∧ dictField (.dict items) = .ok replayed.metadata := by
  unfold replayStep at done
  obtain ⟨items, read, done⟩ := bind_ok done
  obtain ⟨retryCount, _, done⟩ := bind_ok done
  obtain ⟨agentRole, _, done⟩ := bind_ok done
  obtain ⟨tier, _, done⟩ := bind_ok done
  obtain ⟨modelUsed, _, done⟩ := bind_ok done
  obtain ⟨inputData, _, done⟩ := bind_ok done
  obtain ⟨outputData, _, done⟩ := bind_ok done
  obtain ⟨error, _, done⟩ := bind_ok done
  obtain ⟨errorType, _, done⟩ := bind_ok done
  obtain ⟨metadata, kept, done⟩ := bind_ok done
  obtain ⟨startTime, _, done⟩ := bind_ok done
  obtain ⟨endTime, _, done⟩ := bind_ok done
  dsimp only at done
  split at done
  · cases done
    exact ⟨items, read, kept⟩
  · cases done

end

/-! ### What the replayed step has to agree on -/

def number? : PyValue → Option Rat
  | .bool true => some 1
  | .bool false => some 0
  | .int number => some number
  | .float (.finite number) => some number
  | _ => none

/-- `==` between a value and one read back: `True`, `1` and `1.0` are equal. -/
def Equal (left right : PyValue) : Prop :=
  left = right ∨ ∃ number, number? left = some number ∧ number? right = some number

def SameEntry : Option PyValue → Option PyValue → Prop
  | none, none => True
  | some left, some right => Equal left right
  | _, _ => False

structure SameStep (step replayed : StepResult) : Prop where
  stepName : replayed.stepName = step.stepName
  status : replayed.status = step.status
  agentRole : replayed.agentRole = step.agentRole
  tier : replayed.tier = step.tier
  modelUsed : replayed.modelUsed = step.modelUsed
  inputData : replayed.inputData = step.inputData
  outputData : replayed.outputData = step.outputData
  error : replayed.error = step.error
  errorType : replayed.errorType = step.errorType
  retryCount : replayed.retryCount = step.retryCount
  startTime : replayed.startTime = step.startTime
  endTime : replayed.endTime = step.endTime
  metadata : ∀ key, SameEntry (step.metadata.get? key) (replayed.metadata.get? key)

def TokensKept (pydantic : Pydantic) (step : StepResult) : Prop :=
  ∀ value, step.metadata.get? "tokens_used" = some value →
    ∃ number, pydantic.int value = some number ∧ number? value = some (number : Rat)

theorem sameEntry_refl (entry : Option PyValue) : SameEntry entry entry := by
  cases entry with
  | none => trivial
  | some value => exact .inl rfl

theorem equal_int_iff {value : PyValue} {number : Int} :
    Equal value (.int number) ↔ number? value = some (number : Rat) := by
  constructor
  · intro equal
    rcases equal with same | ⟨shared, left, right⟩
    · rw [same]
      rfl
    · rw [left, ← right]
      rfl
  · intro denotes
    exact .inr ⟨number, denotes, rfl⟩

theorem get?_putBack (tokens : Option Int) (key : String) :
    (putBack metadata tokens).get? key =
      if "tokens_used" = key then tokens.map .int else metadata.get? key := by
  cases tokens with
  | none =>
      rw [putBack, Dict.get?_erase]
      rfl
  | some tokens =>
      rw [putBack, Dict.get?_insert, Dict.get?_erase]
      split
      · rfl
      · rfl

theorem sameMetadata_iff (tokens : Option Int) :
    (∀ key, SameEntry (metadata.get? key) ((putBack metadata tokens).get? key)) ↔
      SameEntry (metadata.get? "tokens_used") (tokens.map .int) := by
  constructor
  · intro same
    have entry := same "tokens_used"
    rw [get?_putBack, if_pos rfl] at entry
    exact entry
  · intro entry key
    rw [get?_putBack]
    split
    · rename_i isTokens
      exact isTokens ▸ entry
    · exact sameEntry_refl _

theorem tokensKept_iff {pydantic : Pydantic} {step : StepResult} {used : Option Int}
    (valid : tokensField pydantic (step.metadata.get? "tokens_used") = some used) :
    SameEntry (step.metadata.get? "tokens_used") (used.map .int) ↔ TokensKept pydantic step := by
  unfold TokensKept
  cases held : step.metadata.get? "tokens_used" with
  | none =>
      rw [held] at valid
      cases valid
      constructor
      · intro _ value found
        cases found
      · intro _
        trivial
  | some value =>
      rw [held] at valid
      cases read : pydantic.int value with
      | none =>
          cases value with
          | none =>
              cases valid
              constructor
              · intro same
                cases same
              · intro kept
                obtain ⟨number, isInt, _⟩ := kept _ rfl
                cases read.symm.trans isInt
          | _ =>
              change (pydantic.int _).map some = some used at valid
              rw [read] at valid
              cases valid
      | some number =>
          cases value with
          | none =>
              cases valid
              constructor
              · intro same
                cases same
              · intro kept
                obtain ⟨_, _, denotes⟩ := kept _ rfl
                cases denotes
          | _ =>
              change (pydantic.int _).map some = some used at valid
              rw [read] at valid
              cases valid
              constructor
              · intro same other found
                cases found
                exact ⟨number, read, equal_int_iff.mp same⟩
              · intro kept
                obtain ⟨other, isInt, denotes⟩ := kept _ rfl
                cases read.symm.trans isInt
                exact equal_int_iff.mpr denotes

/-- What the record of a step has to keep for the step to come back. -/
structure Kept (pydantic : Pydantic) (step : StepResult) : Prop where
  times : TimesWhole step
  tokens : TokensKept pydantic step

structure StepStored (step : StepResult) : Prop where
  input : Stored step.inputData
  inputUncut : Uncut step.inputData
  output : Stored step.outputData
  outputUncut : Uncut step.outputData
  metadata : Stored step.metadata

section

variable {pydantic : Pydantic} {builtins : Builtins} (documented : Documented pydantic builtins)
  (now : DateTime)

include documented

theorem replayStep_valid_iff {step : StepResult} (stored : StepStored step) (duration : PyValue)
    {used : Option Int}
    (valid : tokensField pydantic (step.metadata.get? "tokens_used") = some used) :
    (∃ replayed, replayStep pydantic builtins now
      (recordItems (validRecord step duration used).modelDump) = .ok replayed ∧
        SameStep step replayed) ↔ Kept pydantic step := by
  rw [replayStep_valid documented now stored.inputUncut stored.outputUncut]
  constructor
  · intro ⟨replayed, done, same⟩
    obtain ⟨startTime, startRead, done⟩ := bind_ok done
    obtain ⟨endTime, endRead, done⟩ := bind_ok done
    cases done
    constructor
    · constructor
      · by_contra odd
        cases startRead.symm.trans (datetimeField_refuses documented odd)
      · exact whole_of_datetimeField documented endRead
    · exact (tokensKept_iff valid).mp ((sameMetadata_iff step.metadata used).mp same.metadata)
  · intro kept
    rw [datetimeField_isoformat documented kept.times.start,
      datetimeField_textValue documented kept.times.finish]
    refine ⟨_, rfl, rfl, rfl, rfl, rfl, rfl, rfl, rfl, rfl, rfl, rfl, rfl, rfl, ?_⟩
    exact (sameMetadata_iff step.metadata used).mpr ((tokensKept_iff valid).mpr kept.tokens)

omit documented in
theorem replayStep_fallback {step : StepResult} {value : PyValue}
    (held : step.metadata.get? "tokens_used" = some value) {replayed : StepResult}
    (done : replayStep pydantic builtins now
      (recordItems (fallbackRecord pydantic step value).modelDump) = .ok replayed) :
    ¬ SameStep step replayed := by
  intro same
  obtain ⟨items, read, kept⟩ := replayStep_metadata now done
  have notes : (Items.keys [("validation_error", pydantic.errors value),
      ("original_status", PyValue.str step.status.value)]).Nodup := by
    change ["validation_error", "original_status"].Nodup
    decide
  have computed : metadataItems (recordItems (fallbackRecord pydantic step value).modelDump) =
      .ok (recordItems [("validation_error", pydantic.errors value),
        ("original_status", .str step.status.value)]) := rfl
  cases read.symm.trans computed
  have noted := kept.symm.trans (dictField_dictValue ⟨_, notes⟩)
  have entry := same.metadata "tokens_used"
  rw [held, Except.ok.inj noted] at entry
  exact entry

theorem buildStepRecord_iff {step : StepResult} (stored : StepStored step) {record : PyValue}
    (built : buildStepRecord pydantic step = .ok record) :
    ∃ members, record = recordOf members ∧ Plain record ∧
      ((∃ replayed, replayStep pydantic builtins now (recordItems members) = .ok replayed ∧
        SameStep step replayed) ↔ Kept pydantic step) := by
  unfold buildStepRecord at built
  obtain ⟨duration, lasted, built⟩ := bind_ok built
  dsimp only at built
  cases valid : tokensField pydantic (step.metadata.get? "tokens_used") with
  | some used =>
      rw [valid] at built
      cases built
      refine ⟨_, rfl, ?_, replayStep_valid_iff documented now stored duration valid⟩
      exact plain_modelDump (plain_durationMs lasted) (plain_truncate (plain_dictValue stored.input))
        (plain_truncate (plain_dictValue stored.output)) (plain_otherMetadata stored.metadata)
  | none =>
      rw [valid] at built
      cases built
      cases held : step.metadata.get? "tokens_used" with
      | none =>
          rw [held] at valid
          cases valid
      | some value =>
          have plain : Plain value := stored.metadata _ (Items.mem_of_get? held)
          refine ⟨_, rfl, ?_, ?_⟩
          · apply plain_modelDump
            · exact .none
            · exact plain_empty
            · exact plain_empty
            · apply Plain.dict
              · change ["validation_error", "original_status"].Nodup
                decide
              · simp only [forall_mem_cons]
                exact ⟨documented.errors value plain, .str _, nofun⟩
          · constructor
            · intro ⟨replayed, done, same⟩
              exact absurd same (replayStep_fallback now held done)
            · intro kept
              obtain ⟨number, isInt, _⟩ := kept.tokens value held
              rw [held] at valid
              cases value with
              | none => cases valid
              | _ =>
                  change (pydantic.int _).map some = none at valid
                  rw [isInt] at valid
                  cases valid

end

/-! ### All steps -/

def Timed (start : DateTime) (finish : Option DateTime) : Prop :=
  ∀ moment, finish = some moment → Comparable start moment

theorem durationMs_ok_iff {start : DateTime} {finish : Option DateTime} :
    (∃ duration, durationMs start finish = .ok duration) ↔ Timed start finish := by
  cases finish with
  | none =>
      constructor
      · intro _ moment same
        cases same
      · intro _
        exact ⟨_, rfl⟩
  | some finish =>
      rw [durationMs]
      constructor
      · intro ⟨duration, lasted⟩ moment same
        cases same
        split at lasted
        · assumption
        · cases lasted
      · intro timed
        rw [if_pos (timed finish rfl)]
        exact ⟨_, rfl⟩

theorem buildStepRecord_ok_iff (pydantic : Pydantic) {step : StepResult} :
    (∃ record, buildStepRecord pydantic step = .ok record) ↔
      Timed step.startTime step.endTime := by
  rw [← durationMs_ok_iff]
  unfold buildStepRecord
  constructor
  · intro ⟨record, built⟩
    obtain ⟨duration, lasted, _⟩ := bind_ok built
    exact ⟨duration, lasted⟩
  · intro ⟨duration, lasted⟩
    rw [lasted]
    dsimp only [bind, Except.bind]
    split
    · exact ⟨_, rfl⟩
    · exact ⟨_, rfl⟩

section

variable {pydantic : Pydantic} {builtins : Builtins} (documented : Documented pydantic builtins)
  (now : DateTime)

include documented

theorem buildSteps_iff {steps : List StepResult} (stored : ∀ step ∈ steps, StepStored step)
    {records : List PyValue} (built : steps.mapM (buildStepRecord pydantic) = .ok records) :
    (∀ record ∈ records, Plain record) ∧
      ((∃ replayed, replaySteps pydantic builtins now records = .ok replayed ∧
        List.Forall₂ SameStep steps replayed) ↔ ∀ step ∈ steps, Kept pydantic step) := by
  induction steps generalizing records with
  | nil =>
      cases built
      constructor
      · intro record listed
        cases listed
      · constructor
        · intro _ step listed
          cases listed
        · intro _
          exact ⟨[], rfl, .nil⟩
  | cons step rest ih =>
      rw [mapM_cons] at built
      obtain ⟨record, head, built⟩ := bind_ok built
      obtain ⟨others, tail, built⟩ := bind_ok built
      cases built
      obtain ⟨members, rfl, plain, first⟩ :=
        buildStepRecord_iff documented now (stored step mem_cons_self) head
      obtain ⟨plains, later⟩ := ih (fun other there => stored other (mem_cons_of_mem _ there)) tail
      constructor
      · exact forall_mem_cons.mpr ⟨plain, plains⟩
      · rw [forall_mem_cons, ← first, ← later]
        constructor
        · intro ⟨replayed, done, same⟩
          obtain ⟨replayedStep, stepDone, done⟩ := bind_ok done
          obtain ⟨replayedRest, restDone, done⟩ := bind_ok done
          cases done
          obtain ⟨sameStep, sameRest⟩ := forall₂_cons.mp same
          exact ⟨⟨replayedStep, stepDone, sameStep⟩, replayedRest, restDone, sameRest⟩
        · intro ⟨⟨replayedStep, stepDone, sameStep⟩, replayedRest, restDone, sameRest⟩
          refine ⟨replayedStep :: replayedRest, ?_, .cons sameStep sameRest⟩
          change (replayStep pydantic builtins now (recordItems members)).bind (fun step =>
            (replaySteps pydantic builtins now others).bind fun steps => .ok (step :: steps)) = _
          rw [stepDone]
          change (replaySteps pydantic builtins now others).bind _ = _
          rw [restDone]
          rfl

/-! ### The whole record -/

/-- The fields of a raw run record that hold the result's own data. -/
structure HoldsRun (raw : Mapping) (result : WorkflowResult) (steps : List PyValue) : Prop where
  steps : field raw "steps" = .list steps
  runId : field raw "run_id" = .str result.workflowId
  workflowName : field raw "workflow_name" = .str result.workflowName
  status : field raw "status" = .str result.overallStatus.value
  finalOutput : field raw "final_output" = dictValue result.finalOutput
  start : field raw "start_time" = .str result.startTime.isoformat
  finish : field raw "end_time" = textValue (result.endTime.map DateTime.isoformat)

omit documented in
theorem replayRun_of {raw : Mapping} {result : WorkflowResult} {steps : List PyValue}
    (holds : HoldsRun raw result steps) :
    runRecordToWorkflowResult pydantic builtins now (.dict raw) =
      (replaySteps pydantic builtins now steps).bind fun steps =>
        (datetimeField pydantic (.str result.startTime.isoformat)).bind fun startTime =>
          (datetimeField pydantic (textValue (result.endTime.map DateTime.isoformat))).bind
            fun endTime => .ok { result with
              steps := steps, startTime := startTime.getD now, endTime := endTime } := by
  have output : dictField (asDict (field raw "final_output")) = .ok result.finalOutput := by
    rw [holds.finalOutput]
    exact dictField_dictValue result.finalOutput
  rw [runRecordToWorkflowResult]
  simp only [holds.steps, holds.runId, holds.workflowName, dif_pos result.identified,
    dif_pos result.named, holds.status, holds.start, holds.finish, output,
    coerceStepStatus_value, bind, Except.bind]
  rfl

omit documented in
theorem holds_runMembers {result : WorkflowResult} (uncut : Uncut result.finalOutput)
    (extras : RunExtras) (score : PyFloat) (duration : PyValue) (steps : List PyValue) :
    HoldsRun (recordItems (runMembers result extras score duration steps)) result steps where
  steps := rfl
  runId := rfl
  workflowName := rfl
  status := rfl
  finalOutput := truncate_dictValue uncut
  start := rfl
  finish := rfl

end

theorem ok_of_mapM_ok {ε α β : Type} {compute : α → Except ε β} {items : List α} {results : List β}
    (done : items.mapM compute = .ok results) :
    ∀ item ∈ items, ∃ result, compute item = .ok result := by
  induction items generalizing results with
  | nil =>
      intro item listed
      cases listed
  | cons item rest ih =>
      rw [mapM_cons] at done
      obtain ⟨first, head, done⟩ := bind_ok done
      obtain ⟨others, tail, _⟩ := bind_ok done
      exact forall_mem_cons.mpr ⟨⟨first, head⟩, ih tail⟩

/-- The dicts of a result and what its record is built with are JSON values, those of its own
with no string that is cut. -/
structure ResultStored (result : WorkflowResult) (extras : RunExtras) : Prop where
  steps : ∀ step ∈ result.steps, StepStored step
  finalOutput : Stored result.finalOutput
  finalUncut : Uncut result.finalOutput
  datasetMeta : ∀ dict, extras.datasetMeta = some dict → Stored dict
  workflowInputs : ∀ dict, extras.workflowInputs = some dict → Stored dict
  extra : ∀ dict, extras.extra = some dict → Stored dict

theorem stored_filled {given : Option (Dict PyValue)}
    (stored : ∀ dict, given = some dict → Stored dict) :
    ∀ dict, filled given = some dict → Stored dict := by
  intro dict same
  exact stored dict (Option.eq_some_of_filter_eq_some same)

theorem plain_dictOrNull {given : Option (Dict PyValue)}
    (stored : ∀ dict, given = some dict → Stored dict) : Plain (dictOrNull given) := by
  cases given with
  | none => exact .none
  | some dict => exact plain_dictValue (stored dict rfl)

theorem plain_runMembers {result : WorkflowResult} {extras : RunExtras}
    (stored : ResultStored result extras) (score : PyFloat) {duration : PyValue}
    (lasted : Plain duration) {steps : List PyValue} (each : ∀ step ∈ steps, Plain step) :
    Plain (recordOf (runMembers result extras score duration steps)) := by
  have inputs := plain_truncate (plain_dictOrNull (stored_filled stored.workflowInputs))
  have output := plain_truncate (plain_dictValue stored.finalOutput)
  have more := stored_filled stored.extra
  have names : ["run_id", "workflow_name", "status", "score", "success_rate",
      "total_duration_ms", "total_retries", "step_count", "failed_step_count", "start_time",
      "end_time", "dataset", "inputs", "steps", "final_output", "extra"].Nodup := by decide
  unfold runMembers
  apply Plain.dict
  · cases filled extras.extra with
    | none => exact @Nodup.of_append_left _ _ ["extra"] names
    | some extra => exact names
  · rw [forall_mem_append]
    constructor
    · simp only [forall_mem_cons]
      exact ⟨.str _, .str _, .str _, .float _, .float _, lasted, .int _, .int _, .int _, .str _,
        plain_textValue _, plain_dictOrNull stored.datasetMeta, inputs, .list each, output, nofun⟩
    · cases given : filled extras.extra with
      | none => exact nofun
      | some extra => exact forall_mem_singleton.mpr (plain_dictValue (more extra given))

structure SameRun (result replayed : WorkflowResult) : Prop where
  workflowId : replayed.workflowId = result.workflowId
  workflowName : replayed.workflowName = result.workflowName
  overallStatus : replayed.overallStatus = result.overallStatus
  finalOutput : replayed.finalOutput = result.finalOutput
  startTime : replayed.startTime = result.startTime
  endTime : replayed.endTime = result.endTime
  steps : List.Forall₂ SameStep result.steps replayed.steps

def RoundTrips (pydantic : Pydantic) (builtins : Builtins) (now : DateTime)
    (result : WorkflowResult) (extras : RunExtras) : Prop :=
  ∃ record json replayed, buildRunRecord pydantic builtins result extras = .ok record ∧
    record.dumps (fun number => builtins.repr (.float number)) = some json ∧
    runRecordToWorkflowResult pydantic builtins now json.loads = .ok replayed ∧
    SameRun result replayed

/-- Every time can be subtracted from its start and is read back, the tokens of every step are
kept, and the evaluation's score is a float. -/
structure Replayable (pydantic : Pydantic) (builtins : Builtins) (result : WorkflowResult)
    (extras : RunExtras) : Prop where
  score : ∃ score, extractEvaluationScore builtins extras.extra = .ok score
  timed : Timed result.startTime result.endTime
  start : Whole result.startTime
  finish : ∀ finish, result.endTime = some finish → Whole finish
  steps : ∀ step ∈ result.steps, Timed step.startTime step.endTime ∧ Kept pydantic step

section

variable {pydantic : Pydantic} {builtins : Builtins} (documented : Documented pydantic builtins)
  (now : DateTime) {result : WorkflowResult} {extras : RunExtras}
  (stored : ResultStored result extras)

include documented stored

theorem replayable_of_roundTrips (back : RoundTrips pydantic builtins now result extras) :
    Replayable pydantic builtins result extras := by
  obtain ⟨record, json, replayed, built, dumped, done, same⟩ := back
  unfold buildRunRecord at built
  obtain ⟨score, scored, built⟩ := bind_ok built
  obtain ⟨duration, lasted, built⟩ := bind_ok built
  obtain ⟨records, stepsBuilt, built⟩ := bind_ok built
  cases built
  obtain ⟨plains, kept⟩ := buildSteps_iff documented now stored.steps stepsBuilt
  have plain := plain_runMembers stored (score.getD (.finite (fallbackScore result)))
    (plain_durationMs lasted) plains
  obtain ⟨written, isWritten, loaded⟩ :=
    written_of_plain plain fun number => builtins.repr (.float number)
  cases dumped.symm.trans isWritten
  rw [loaded, recordOf,
    replayRun_of now (holds_runMembers stored.finalUncut extras _ duration records)] at done
  obtain ⟨steps, stepsDone, done⟩ := bind_ok done
  obtain ⟨startTime, startRead, done⟩ := bind_ok done
  obtain ⟨endTime, endRead, done⟩ := bind_ok done
  cases done
  have each := kept.mp ⟨steps, stepsDone, same.steps⟩
  constructor
  · exact ⟨score, scored⟩
  · exact durationMs_ok_iff.mp ⟨duration, lasted⟩
  · by_contra odd
    cases startRead.symm.trans (datetimeField_refuses documented odd)
  · exact whole_of_datetimeField documented endRead
  · intro step listed
    exact ⟨(buildStepRecord_ok_iff pydantic).mp (ok_of_mapM_ok stepsBuilt step listed), each step listed⟩

theorem roundTrips_of_replayable (replayable : Replayable pydantic builtins result extras) :
    RoundTrips pydantic builtins now result extras := by
  obtain ⟨score, scored⟩ := replayable.score
  obtain ⟨duration, lasted⟩ := durationMs_ok_iff.mpr replayable.timed
  obtain ⟨records, stepsBuilt⟩ := exists_mapM_ok fun step listed =>
    (buildStepRecord_ok_iff pydantic).mpr (replayable.steps step listed).1
  obtain ⟨plains, kept⟩ := buildSteps_iff documented now stored.steps stepsBuilt
  obtain ⟨steps, stepsDone, sameSteps⟩ :=
    kept.mpr fun step listed => (replayable.steps step listed).2
  have plain := plain_runMembers stored (score.getD (.finite (fallbackScore result)))
    (plain_durationMs lasted) plains
  obtain ⟨json, dumped, loaded⟩ :=
    written_of_plain plain fun number => builtins.repr (.float number)
  have replayed : runRecordToWorkflowResult pydantic builtins now json.loads =
      .ok { result with steps := steps } := by
    rw [loaded, recordOf,
      replayRun_of now (holds_runMembers stored.finalUncut extras _ duration records), stepsDone,
      datetimeField_isoformat documented replayable.start,
      datetimeField_textValue documented replayable.finish]
    rfl
  refine ⟨_, json, _, ?_, dumped, replayed, rfl, rfl, rfl, rfl, rfl, rfl, sameSteps⟩
  unfold buildRunRecord
  rw [scored, lasted, stepsBuilt]
  rfl

end

theorem replay_faithful_iff {pydantic : Pydantic} {builtins : Builtins}
    (documented : Documented pydantic builtins) (now : DateTime) {result : WorkflowResult}
    {extras : RunExtras} (stored : ResultStored result extras) :
    RoundTrips pydantic builtins now result extras ↔
      Replayable pydantic builtins result extras := by
  constructor
  · exact replayable_of_roundTrips documented now stored
  · exact roundTrips_of_replayable documented now stored

/-! ### A step that used tokens -/

instance (moment : DateTime) : Decidable (Whole moment) :=
  match shape : moment.offset with
  | none => isTrue fun _ same => by cases shape.symm.trans same
  | some offset =>
      if whole : offset.amount.second = 0 ∧ offset.amount.microsecond = 0 then
        isTrue fun _ same => Option.some.inj (shape.symm.trans same) ▸ whole
      else isFalse fun all => whole (all offset shape)

def plainPydantic : Pydantic where
  int
    | .int number => some number
    | .float (.finite number) => if number.den = 1 then some number.num else none
    | _ => none
  datetime
    | .str text => (DateTime.fromisoformat text).filter fun moment => Whole moment
    | _ => none
  errors value := .list [recordOf [("type", .str "int_from_float"),
    ("loc", .list [.str "tokens_used"]), ("input", value)]]
  message _ := "1 validation error for StepResultRecord"

def plainConversions : Builtins where
  text _ := ""
  repr _ := ""
  int
    | .int number => .ok number
    | _ => .error .typeError
  float
    | .int number => .ok (.finite number)
    | _ => .error .typeError
  isWord := Char.isAlphanum

theorem plainPydantic_datetime (text : String) : plainPydantic.datetime (.str text) =
    (DateTime.fromisoformat text).filter fun moment => Whole moment := rfl

theorem plain_documented : Documented plainPydantic plainConversions where
  int_int _ := rfl
  whole moment whole := by
    rw [plainPydantic_datetime, DateTime.fromisoformat_isoformat, Option.filter_some,
      if_pos (decide_eq_true whole)]
  seconds moment odd := by
    rw [plainPydantic_datetime, DateTime.fromisoformat_isoformat, Option.filter_some, if_neg]
    exact fun whole => odd (of_decide_eq_true whole)
  errors value plain := by
    apply Plain.list
    simp only [forall_mem_cons]
    refine ⟨?_, nofun⟩
    apply Plain.dict
    · change ["type", "loc", "input"].Nodup
      decide
    · simp only [forall_mem_cons]
      refine ⟨.str _, .list ?_, plain, nofun⟩
      simp only [forall_mem_cons]
      exact ⟨.str _, nofun⟩
  builtin_int _ := rfl

private theorem launch_year : 1 ≤ 2026 ∧ 2026 ≤ 9999 := by decide

private theorem launch_month : 1 ≤ 1 ∧ 1 ≤ 12 := by decide

private theorem launch_day : 1 ≤ 1 ∧ 1 ≤ daysInMonth 2026 1 := by decide

def launchDay : DateTime :=
  ⟨2026, 1, 1, Python.Clock.midnight, none, launch_year, launch_month, launch_day⟩

def stepUsing (tokens : PyValue) : StepResult where
  stepName := "review"
  status := .success
  startTime := launchDay
  metadata := ⟨[("tokens_used", tokens)], nodup_singleton _⟩
  named := by decide

def runUsing (tokens : PyValue) : WorkflowResult where
  workflowId := "run-1"
  workflowName := "review"
  steps := [stepUsing tokens]
  overallStatus := .success
  startTime := launchDay
  identified := by decide
  named := of_decide_eq_true rfl

theorem stored_runUsing {tokens : PyValue} (plain : Plain tokens) :
    ResultStored (runUsing tokens) {} where
  steps := by
    intro step listed
    cases mem_singleton.mp listed
    constructor
    · intro item member
      cases member
    · intro item member
      cases member
    · intro item member
      cases member
    · intro item member
      cases member
    · intro item member
      cases mem_singleton.mp member
      exact plain
  finalOutput item member := by cases member
  finalUncut item member := by cases member
  datasetMeta dict same := by cases same
  workflowInputs dict same := by cases same
  extra dict same := by cases same

theorem replay_faithful_iff_counted :
    RoundTrips plainPydantic plainConversions launchDay (runUsing (.int 120)) {} := by
  apply (replay_faithful_iff plain_documented launchDay (stored_runUsing (.int 120))).mpr
  constructor
  · exact ⟨none, rfl⟩
  · intro moment same
    cases same
  · intro offset same
    cases same
  · intro moment same
    cases same
  · intro step listed
    cases mem_singleton.mp listed
    refine ⟨nofun, ⟨nofun, nofun⟩, ?_⟩
    intro value held
    cases held
    exact ⟨120, rfl, rfl⟩

/-- A step with half a token more has a record that fails validation. -/
theorem fractional_tokens_lost : ResultStored (runUsing (.float (.finite (25 / 2)))) {} ∧
    ¬ RoundTrips plainPydantic plainConversions launchDay
      (runUsing (.float (.finite (25 / 2)))) {} := by
  have stored := stored_runUsing (.float (.finite (25 / 2)))
  refine ⟨stored, fun back => ?_⟩
  have replayable := replayable_of_roundTrips plain_documented launchDay stored back
  obtain ⟨number, isInt, _⟩ := (replayable.steps _ mem_cons_self).2.tokens _ rfl
  have fraction : plainPydantic.int (.float (.finite (25 / 2))) = none := by
    decide +kernel
  cases isInt.symm.trans fraction

end RunLog

end AgenticRuntime
