/-
The crash-recovery manifest of a conversation memory, written and read back.

The manifest's JSON text is its syntax tree.  What is read back is everything but the token
counter, which no manifest holds: a restored memory has the one it is given.
-/

import AgenticRuntime.Agents.MemoryBounds
import AgenticRuntime.Langchain.Config
import AgenticRuntime.Python.DateTime
import AgenticRuntime.Python.Json

namespace AgenticRuntime

open Python Items
open PyValue (asStr? str)
open List hiding repr

/-! ### Writing -/

def manifestVersion : Int := 1

def manifestItems (members : List (String × PyValue)) : Mapping :=
  members.map fun member => (.str member.1, member.2)

def manifestRecord (members : List (String × PyValue)) : PyValue := .dict (manifestItems members)

def manifestTexts (texts : List String) : PyValue := .list (texts.map .str)

def manifestOptional : Option String → PyValue
  | none => .none
  | some text => .str text

def ConversationMessage.toManifest (message : ConversationMessage DateTime) : PyValue :=
  manifestRecord [("role", .str message.role), ("content", .str message.content),
    ("timestamp", .str message.timestamp.isoformat),
    ("tool_call_id", manifestOptional message.toolCallId),
    ("tool_name", manifestOptional message.toolName),
    ("metadata", manifestRecord message.metadata.items)]

def CaseFacts.toManifest (facts : CaseFacts DateTime) : PyValue :=
  manifestRecord [("findings", manifestTexts facts.findings),
    ("key_numbers", manifestRecord facts.keyNumbers.items),
    ("key_dates", manifestRecord (facts.keyDates.items.map fun item => (item.1, .str item.2))),
    ("open_questions", manifestTexts facts.openQuestions),
    ("updated_at", .str facts.updatedAt.isoformat)]

namespace ConversationMemory

def toManifest (memory : ConversationMemory DateTime) (savedAt : DateTime) : PyValue :=
  manifestRecord [("version", .int manifestVersion), ("saved_at", .str savedAt.isoformat),
    ("config", manifestRecord [("max_messages", .int memory.maxMessages),
      ("max_tokens", .int memory.maxTokens), ("max_summaries", .int memory.maxSummaries)]),
    ("messages", .list (memory.messages.map ConversationMessage.toManifest)),
    ("summaries", manifestTexts memory.summaries),
    ("case_facts", memory.caseFacts.toManifest)]

def toManifestJson (floatRepr : PyFloat → String) (memory : ConversationMemory DateTime)
    (savedAt : DateTime) : Option Json := (memory.toManifest savedAt).dumps floatRepr

end ConversationMemory

/-! ### Reading -/

/-- What a manifest is refused with; `untyped` is a value that the field it is for has no type
for, which Python would keep. -/
inductive ManifestError where
  | unsupported (message : String)
  | keyError (key : String)
  | raised (error : PyError)
  | notADict (message : String)
  | untyped
  deriving DecidableEq, Repr

/-- The dict on which `.get` is called. -/
def asDict : PyValue → Except ManifestError Mapping
  | .dict items => .ok items
  | _ => .error (.raised .attributeError)

/-- `value or {}` -/
def orEmptyDict (value : PyValue) : PyValue := if value.truthy then value else .dict []

/-- `list(value or [])` -/
def listOf (value : PyValue) : Except ManifestError (List PyValue) :=
  if value.truthy then
    match value.iterate? with
    | none => .error (.raised .typeError)
    | some items => .ok items
  else .ok []

def ofOption {α : Type} : Option α → Except ManifestError α
  | none => .error .untyped
  | some value => .ok value

/-- `list(value or [])` and `tuple(value or ())`, of strings -/
def textsOf (value : PyValue) : Except ManifestError (List String) :=
  (listOf value).bind fun items => ofOption (items.mapM asStr?)

def asName? : PyKey → Option String
  | .str name => some name
  | _ => none

/-- `dict(value or {})`, with string keys -/
def dictOf (value : PyValue) : Except ManifestError (Dict PyValue) :=
  if value.truthy then
    match updateFrom [] value with
    | (_, some message) => .error (.notADict message)
    | (items, none) =>
        (ofOption (items.mapM fun item => (asName? item.1).map fun name => (name, item.2))).map
          Dict.ofItems
  else .ok Dict.empty

def textDictOf (value : PyValue) : Except ManifestError (Dict String) :=
  (dictOf value).bind fun dict =>
    (ofOption (dict.items.mapM fun item => item.2.asStr?.map fun text => (item.1, text))).map
      Dict.ofItems

def optionalOf : PyValue → Except ManifestError (Option String)
  | .none => .ok none
  | .str text => .ok (some text)
  | _ => .error .untyped

section

variable (builtins : Builtins)

/-- `int(value)` -/
def Builtins.integer : PyValue → Except ManifestError Int
  | .int value => .ok value
  | value => (builtins.int value).mapError .raised

def timestampOf (now : DateTime) : PyValue → Except ManifestError DateTime
  | .str text =>
      match DateTime.fromisoformat text with
      | some moment => .ok moment
      | none => .error (.raised (.valueError
          s!"Invalid isoformat string: {builtins.repr (.str text)}"))
  | _ => .ok now

def ConversationMessage.fromManifest (now : DateTime) (data : PyValue) :
    Except ManifestError (ConversationMessage DateTime) := do
  let data ← asDict data
  let timestamp ← timestampOf builtins now (field data "timestamp")
  let role ←
    match field? data "role" with
    | none => .error (.keyError "role")
    | some role => .ok (builtins.str role)
  let toolCallId ← optionalOf (field data "tool_call_id")
  let toolName ← optionalOf (field data "tool_name")
  let metadata ← dictOf (field data "metadata")
  return {
    role := role
    content := builtins.str ((field? data "content").getD (.str ""))
    timestamp := timestamp
    toolCallId := toolCallId
    toolName := toolName
    metadata := metadata }

def CaseFacts.fromManifest (now : DateTime) (data : PyValue) :
    Except ManifestError (CaseFacts DateTime) := do
  let data ← asDict data
  let updatedAt ← timestampOf builtins now (field data "updated_at")
  let findings ← textsOf (field data "findings")
  let keyNumbers ← dictOf (field data "key_numbers")
  let keyDates ← textDictOf (field data "key_dates")
  let openQuestions ← textsOf (field data "open_questions")
  return {
    findings := findings
    keyNumbers := keyNumbers
    keyDates := keyDates
    openQuestions := openQuestions
    updatedAt := updatedAt }

/-- `version == MANIFEST_VERSION` -/
def isManifestVersion : PyValue → Bool
  | .int value => value = manifestVersion
  | .bool value => value
  | .float (.finite value) => value = manifestVersion
  | _ => false

namespace ConversationMemory

def fromManifest (now : DateTime) (tokenCounter : Option (String → Option Int))
    (manifest : PyValue) : Except ManifestError (ConversationMemory DateTime) := do
  let manifest ← asDict manifest
  let version := field manifest "version"
  if isManifestVersion version then
    let listed ← listOf (field manifest "messages")
    let messages ← listed.mapM (ConversationMessage.fromManifest builtins now)
    let config ← asDict (orEmptyDict (field manifest "config"))
    let maxMessages ← builtins.integer ((field? config "max_messages").getD (.int 50))
    let maxTokens ← builtins.integer ((field? config "max_tokens").getD (.int 8000))
    let summaries ← textsOf (field manifest "summaries")
    let maxSummaries ← builtins.integer ((field? config "max_summaries").getD (.int 5))
    let caseFacts ← CaseFacts.fromManifest builtins now (orEmptyDict (field manifest "case_facts"))
    return {
      messages := messages
      maxMessages := maxMessages
      maxTokens := maxTokens
      summaries := summaries
      maxSummaries := maxSummaries
      tokenCounter := tokenCounter
      caseFacts := caseFacts }
  else
    .error (.unsupported
      s!"Unsupported manifest version {builtins.repr version}; expected {manifestVersion}")

def fromManifestJson (now : DateTime) (tokenCounter : Option (String → Option Int))
    (manifestJson : Json) : Except ManifestError (ConversationMemory DateTime) :=
  fromManifest builtins now tokenCounter manifestJson.loads

end ConversationMemory

end

/-! ### What is written is read back -/

section

variable {builtins : Builtins}

theorem field?_manifestItems (name other : String) (value : PyValue)
    (rest : List (String × PyValue)) :
    field? (manifestItems ((name, value) :: rest)) other =
      if name = other then some value else field? (manifestItems rest) other := by
  unfold field? manifestItems
  rw [map_cons, get?, str_beq]
  by_cases same : name = other
  · rw [if_pos same, if_pos (beq_iff_eq.mpr same)]
  · rw [if_neg same, if_neg fun equal => same (beq_iff_eq.mp equal)]

theorem asDict_manifestRecord (members : List (String × PyValue)) :
    asDict (manifestRecord members) = .ok (manifestItems members) := rfl

theorem mapM_written {α β : Type} (write : α → β) (read : β → Option α)
    (reads : ∀ value, read (write value) = some value) (values : List α) :
    (values.map write).mapM read = some values := by
  induction values with
  | nil => rfl
  | cons value rest ih =>
      rw [map_cons, mapM_cons, reads, ih]
      rfl

theorem listOf_list (items : List PyValue) : listOf (.list items) = .ok items := by
  cases items with
  | nil => rfl
  | cons item rest => rfl

theorem textsOf_manifestTexts (texts : List String) :
    textsOf (manifestTexts texts) = .ok texts := by
  unfold textsOf manifestTexts
  rw [listOf_list]
  change ofOption ((texts.map str).mapM asStr?) = .ok texts
  rw [mapM_written str asStr? (fun _ => rfl)]
  rfl

theorem updateFrom_manifestRecord (dict : Dict PyValue) :
    updateFrom [] (manifestRecord dict.items) =
      (dict.items.map fun item => (.str item.1, item.2), none) := by
  have updated := update_str [] dict.items
  have whole : update [] dict.items = dict.items := congrArg Dict.items dict.ofItems_items
  rw [whole] at updated
  exact congrArg (fun items => (items, none)) updated

theorem dictOf_manifestRecord (dict : Dict PyValue) :
    dictOf (manifestRecord dict.items) = .ok dict := by
  unfold dictOf
  split
  · rw [updateFrom_manifestRecord]
    have names := mapM_written (fun item : String × PyValue => ((.str item.1 : PyKey), item.2))
      (fun item => (asName? item.1).map fun name => (name, item.2)) (fun _ => rfl) dict.items
    dsimp only
    rw [names]
    exact congrArg Except.ok dict.ofItems_items
  · rename_i blank
    have empty : dict.items = [] := by
      cases held : dict.items with
      | nil => rfl
      | cons item rest =>
          rw [held] at blank
          exact absurd rfl blank
    exact congrArg Except.ok (Dict.ext empty.symm)

theorem textDictOf_manifestRecord (dict : Dict String) :
    textDictOf (manifestRecord (dict.items.map fun item => (item.1, .str item.2))) = .ok dict := by
  have keys : keys (dict.items.map fun item => (item.1, str item.2)) =
      keys dict.items := by
    unfold Items.keys
    rw [map_map]
    rfl
  have values := dictOf_manifestRecord
    ⟨dict.items.map fun item => (item.1, .str item.2), keys.symm ▸ dict.distinct⟩
  have texts := mapM_written (fun item : String × String => (item.1, str item.2))
    (fun item => item.2.asStr?.map fun text => (item.1, text)) (fun _ => rfl) dict.items
  unfold textDictOf
  rw [values]
  change (ofOption ((dict.items.map fun item => (item.1, str item.2)).mapM
    fun item => item.2.asStr?.map fun text => (item.1, text))).map Dict.ofItems = .ok dict
  rw [texts]
  exact congrArg Except.ok dict.ofItems_items

theorem optionalOf_manifestOptional (text : Option String) :
    optionalOf (manifestOptional text) = .ok text := by
  cases text with
  | none => rfl
  | some text => rfl

theorem timestampOf_isoformat (now moment : DateTime) :
    timestampOf builtins now (.str moment.isoformat) = .ok moment := by
  unfold timestampOf
  dsimp only
  rw [DateTime.fromisoformat_isoformat]

theorem message_restored (now : DateTime) (message : ConversationMessage DateTime) :
    ConversationMessage.fromManifest builtins now message.toManifest = .ok message := by
  unfold ConversationMessage.fromManifest ConversationMessage.toManifest
  simp only [asDict_manifestRecord, bind, Except.bind, field, field?_manifestItems, String.reduceEq,
    if_true, if_false, Option.getD_some, timestampOf_isoformat,
    optionalOf_manifestOptional, dictOf_manifestRecord]
  rfl

theorem caseFacts_restored (now : DateTime) (facts : CaseFacts DateTime) :
    CaseFacts.fromManifest builtins now facts.toManifest = .ok facts := by
  unfold CaseFacts.fromManifest CaseFacts.toManifest
  simp only [asDict_manifestRecord, bind, Except.bind, field, field?_manifestItems, String.reduceEq,
    if_true, if_false, Option.getD_some, timestampOf_isoformat,
    textsOf_manifestTexts, dictOf_manifestRecord, textDictOf_manifestRecord]
  rfl

theorem messages_restored (now : DateTime) (messages : List (ConversationMessage DateTime)) :
    (messages.map ConversationMessage.toManifest).mapM
      (ConversationMessage.fromManifest builtins now) = .ok messages := by
  induction messages with
  | nil => rfl
  | cons message rest ih =>
      rw [map_cons, mapM_cons, message_restored, ih]
      rfl

theorem orEmptyDict_manifestRecord (members : List (String × PyValue)) :
    orEmptyDict (manifestRecord members) = manifestRecord members := by
  cases members with
  | nil => rfl
  | cons member rest => rfl

theorem orEmptyDict_caseFacts (facts : CaseFacts DateTime) :
    orEmptyDict facts.toManifest = facts.toManifest := orEmptyDict_manifestRecord _

theorem integer_int (value : Int) : builtins.integer (.int value) = .ok value := rfl

namespace ConversationMemory

theorem fromManifest_toManifest (now savedAt : DateTime) (memory : ConversationMemory DateTime)
    (tokenCounter : Option (String → Option Int)) :
    fromManifest builtins now tokenCounter (memory.toManifest savedAt) =
      .ok { memory with tokenCounter := tokenCounter } := by
  unfold fromManifest toManifest
  simp only [asDict_manifestRecord, bind, Except.bind, field, field?_manifestItems, String.reduceEq,
    if_true, if_false, Option.getD_some, listOf_list, messages_restored,
    textsOf_manifestTexts, orEmptyDict_manifestRecord, orEmptyDict_caseFacts, integer_int,
    caseFacts_restored]
  exact if_pos rfl

end ConversationMemory

/-! ### Through JSON -/

def ConversationMessage.JsonValued (message : ConversationMessage DateTime) : Prop :=
  ∀ item ∈ message.metadata.items, Plain item.2

def CaseFacts.JsonValued (facts : CaseFacts DateTime) : Prop :=
  ∀ item ∈ facts.keyNumbers.items, Plain item.2

theorem plain_manifestRecord {members : List (String × PyValue)}
    (distinct : (keys members).Nodup) (each : ∀ item ∈ members, Plain item.2) :
    Plain (manifestRecord members) := Plain.dict distinct each

theorem plain_manifestTexts (texts : List String) : Plain (manifestTexts texts) := by
  apply Plain.list
  intro item member
  obtain ⟨text, _, same⟩ := mem_map.mp member
  rw [← same]
  exact .str text

theorem plain_manifestOptional (text : Option String) : Plain (manifestOptional text) := by
  cases text with
  | none => exact .none
  | some text => exact .str text

theorem plain_message {message : ConversationMessage DateTime} (valued : message.JsonValued) :
    Plain message.toManifest := by
  apply plain_manifestRecord
  · change (["role", "content", "timestamp", "tool_call_id", "tool_name", "metadata"] :
      List String).Nodup
    decide
  · simp only [forall_mem_cons]
    exact ⟨.str _, .str _, .str _, plain_manifestOptional _, plain_manifestOptional _,
      plain_manifestRecord message.metadata.distinct valued, nofun⟩

theorem plain_caseFacts {facts : CaseFacts DateTime} (valued : facts.JsonValued) :
    Plain facts.toManifest := by
  have dates : Plain (manifestRecord
      (facts.keyDates.items.map fun item => (item.1, .str item.2))) := by
    apply plain_manifestRecord
    · have same : keys (facts.keyDates.items.map fun item => (item.1, str item.2)) =
          keys facts.keyDates.items := by
        unfold Items.keys
        rw [map_map]
        rfl
      rw [same]
      exact facts.keyDates.distinct
    · intro item member
      obtain ⟨source, _, same⟩ := mem_map.mp member
      rw [← same]
      exact .str _
  apply plain_manifestRecord
  · change (["findings", "key_numbers", "key_dates", "open_questions", "updated_at"] :
      List String).Nodup
    decide
  · simp only [forall_mem_cons]
    exact ⟨plain_manifestTexts _, plain_manifestRecord facts.keyNumbers.distinct valued, dates,
      plain_manifestTexts _, .str _, nofun⟩

namespace ConversationMemory

structure JsonValued (memory : ConversationMemory DateTime) : Prop where
  messages : ∀ message ∈ memory.messages, message.JsonValued
  caseFacts : memory.caseFacts.JsonValued

theorem plain_toManifest {memory : ConversationMemory DateTime} (valued : memory.JsonValued)
    (savedAt : DateTime) : Plain (memory.toManifest savedAt) := by
  have config : Plain (manifestRecord [("max_messages", .int memory.maxMessages),
      ("max_tokens", .int memory.maxTokens), ("max_summaries", .int memory.maxSummaries)]) := by
    apply plain_manifestRecord
    · change (["max_messages", "max_tokens", "max_summaries"] : List String).Nodup
      decide
    · simp only [forall_mem_cons]
      exact ⟨.int _, .int _, .int _, nofun⟩
  have messages : Plain (.list (memory.messages.map ConversationMessage.toManifest)) := by
    apply Plain.list
    intro item member
    obtain ⟨message, listed, same⟩ := mem_map.mp member
    rw [← same]
    exact plain_message (valued.messages message listed)
  apply plain_manifestRecord
  · change (["version", "saved_at", "config", "messages", "summaries", "case_facts"] :
      List String).Nodup
    decide
  · simp only [forall_mem_cons]
    exact ⟨.int _, .str _, config, messages, plain_manifestTexts _,
      plain_caseFacts valued.caseFacts, nofun⟩

theorem fromManifestJson_toManifestJson (builtins : Builtins)
    {memory : ConversationMemory DateTime} (valued : memory.JsonValued)
    (floatRepr : PyFloat → String) (now savedAt : DateTime)
    (tokenCounter : Option (String → Option Int)) :
    ∃ json, memory.toManifestJson floatRepr savedAt = some json ∧
      fromManifestJson builtins now tokenCounter json =
        .ok { memory with tokenCounter := tokenCounter } := by
  have plain := plain_toManifest valued savedAt
  have serialisable : Serialisable Opaque (memory.toManifest savedAt) := plain.serialisable
  obtain ⟨json, dumped, loaded⟩ : Written floatRepr (memory.toManifest savedAt) :=
    written_of_serialisable (fun _ => written_of_opaque) serialisable
  refine ⟨json, dumped, ?_⟩
  unfold fromManifestJson
  rw [loaded, asJson_of_plain plain, fromManifest_toManifest]

/-! ### Runs -/

def Call.JsonValued : Call DateTime → Prop
  | .add message => message.JsonValued
  | .compact _ => True

namespace Watched

variable {same : ConversationMessage DateTime → ConversationMessage DateTime → Bool}
  {summarise : List (ConversationMessage DateTime) → String}

theorem take_jsonValued {watched : Watched DateTime} {call : Call DateTime}
    (valued : watched.memory.JsonValued) (callValued : call.JsonValued) :
    (watched.take same summarise call).memory.JsonValued := by
  cases call with
  | add message =>
      obtain ⟨left, summaries, shape, sub⟩ := add_spec same summarise watched.memory message
      change (watched.memory.add same summarise message).JsonValued
      rw [shape]
      constructor
      · intro other listed
        rcases mem_append.mp (sub.subset listed) with earlier | added
        · exact valued.messages other earlier
        · rw [mem_singleton.mp added]
          exact callValued
      · exact valued.caseFacts
  | compact keepRecent =>
      obtain ⟨left, summaries, shape, sub⟩ := compact_spec same summarise watched.memory keepRecent
      change (watched.memory.compact same summarise keepRecent).1.JsonValued
      rw [shape]
      constructor
      · intro other listed
        exact valued.messages other (sub.subset listed)
      · exact valued.caseFacts

/-- Whatever calls a memory has seen, its manifest gives it back but for the token counter, and
with its own counter gives its totals back. -/
theorem manifest_restores {start finish : Watched DateTime} {calls : List (Call DateTime)}
    (valued : start.memory.JsonValued) (callsValued : ∀ call ∈ calls, call.JsonValued)
    (run : Transition.replay (next same summarise) start calls = some finish)
    (floatRepr : PyFloat → String) (now savedAt : DateTime)
    (tokenCounter : Option (String → Option Int)) :
    ∃ json restored, finish.memory.toManifestJson floatRepr savedAt = some json ∧
      fromManifestJson builtins now tokenCounter json = .ok restored ∧
      restored = { finish.memory with tokenCounter := tokenCounter } ∧
      (tokenCounter = finish.memory.tokenCounter →
        restored.totalTokens = finish.memory.totalTokens) := by
  have reached : finish.memory.JsonValued := by
    have step (watched : Watched DateTime) (call : Call DateTime) (after : Watched DateTime)
        (memoryValued : watched.memory.JsonValued) (callValued : call.JsonValued)
        (taken : next same summarise watched call = some after) : after.memory.JsonValued := by
      cases taken
      exact take_jsonValued memoryValued callValued
    exact Transition.replay_invariant_along step valued (Transition.Along.of_forall callsValued) run
  obtain ⟨json, written, restored⟩ :=
    fromManifestJson_toManifestJson builtins reached floatRepr now savedAt tokenCounter
  refine ⟨json, _, written, restored, rfl, ?_⟩
  intro counter
  rw [counter]

/-! A message, and a counter for which every text is a hundred tokens. -/

def declaredBuiltins : Builtins where
  text value := value.defaultStr
  repr value := value.defaultStr
  int
    | .int value => .ok value
    | _ => .error .typeError
  float
    | .float value => .ok value
    | _ => .error .typeError
  isWord c := c.isAlphanum || c = '_'

def newYear : DateTime :=
  { year := 2026, month := 1, day := 1
    clock := Clock.midnight
    offset := some (UtcOffset.of false Clock.midnight)
    years := by decide, months := by decide, days := by decide }

def toolResult : ConversationMessage DateTime :=
  { role := "tool", content := "ok", timestamp := newYear, toolCallId := some "call-1",
    toolName := some "grep", metadata := Dict.empty.insert "reduced" (.bool false) }

def counted : Watched DateTime :=
  { memory :=
      { messages := [], maxMessages := 50, maxTokens := 8000, summaries := [],
        maxSummaries := 5, tokenCounter := some fun _ => some 100,
        caseFacts := ⟨[], Dict.empty, Dict.empty, [], newYear⟩ }
    firstSystem := none }

theorem counted_valued : counted.memory.JsonValued := ⟨nofun, nofun⟩

theorem toolResult_valued : toolResult.JsonValued := by
  intro item listed
  rw [mem_singleton.mp listed]
  exact .bool false

theorem counter_not_restored :
    ∃ finish json restored,
      Transition.replay (next (fun _ _ => false) buildSummary) counted [.add toolResult] =
        some finish ∧
      finish.memory.toManifestJson (fun _ => "") newYear = some json ∧
      fromManifestJson declaredBuiltins newYear none json = .ok restored ∧
      finish.memory.totalTokens = 100 ∧ restored.totalTokens = 1 := by
  have valued : (counted.take (fun _ _ => false) buildSummary (.add toolResult)).memory.JsonValued :=
    take_jsonValued counted_valued toolResult_valued
  obtain ⟨json, written, restored⟩ := fromManifestJson_toManifestJson declaredBuiltins valued
    (fun _ => "") newYear newYear none
  exact ⟨_, json, _, rfl, written, restored, by decide, by decide⟩

/-- With the counter given again the total is what it was. -/
theorem manifest_restores_counted :
    ∃ finish : Watched DateTime, finish.memory.totalTokens = 100 ∧
      ∃ json restored, finish.memory.toManifestJson (fun _ => "") newYear = some json ∧
        fromManifestJson declaredBuiltins newYear (some fun _ => some 100) json = .ok restored ∧
        restored.totalTokens = finish.memory.totalTokens := by
  have callsValued : ∀ call ∈ [Call.add toolResult, Call.compact none], call.JsonValued := by
    simp only [forall_mem_cons]
    exact ⟨toolResult_valued, trivial, nofun⟩
  have run : Transition.replay (next (fun _ _ => false) buildSummary) counted
      [.add toolResult, .compact none] = some _ := rfl
  obtain ⟨json, restored, written, read, _, total⟩ := manifest_restores counted_valued
    callsValued run (fun _ => "") newYear newYear (some fun _ => some 100)
  exact ⟨_, by decide, json, restored, written, read, total rfl⟩

end Watched

end ConversationMemory

end

end AgenticRuntime
