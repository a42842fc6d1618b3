/-
The native tool loop of an LLM step, and when the thread it sends stays well formed.

A turn is a chat response together with what dispatching each of its tool calls gives.
Schemas, model names and token counts are left out.
-/

import AgenticRuntime.Langchain.Config

namespace AgenticRuntime

open Python
open List hiding repr

def maxToolRounds : Nat := 8

def maxToolCallsPerRound : Nat := 12

def maxToolResultChars : Nat := 12000

namespace ToolLoop

/-- How `json.loads` ends on a text; `raised` is an exception other than `JSONDecodeError`. -/
inductive Loaded where
  | value (value : PyValue)
  | invalid
  | raised

/-- What the loop uses of Python: `sha256` gives the hexadecimal digest, and `argsText` is
`json.dumps(tool_args, sort_keys=True, default=str)`, `none` when that raises. -/
structure Runtime where
  builtins : Builtins
  loads : String → Loaded
  argsText : Mapping → Option String
  sha256 : String → String
  digest_plain : ∀ text, ∀ c ∈ (sha256 text).toList, isSpace c = false

/-- One entry of `tool_calls`, and what `_dispatch_single_tool_call` returns for it; `none`
when it raises. -/
structure ToolCall where
  raw : PyValue
  outcome : Option String

/-- A chat response, with `[]` for no tool calls. -/
structure Turn where
  content : PyValue
  toolCalls : List ToolCall

inductive Message where
  | user (content : String)
  | assistant (content : String) (toolCalls : List PyValue)
  | tool (toolCallId name content : String)

/-- A call of `complete_chat_with_fallback`. -/
structure Request where
  messages : List Message
  toolChoice : PyValue

section

variable (runtime : Runtime)

def parseToolArgs (rawArgs : PyValue) : Option Mapping :=
  match rawArgs with
  | .dict items => some items
  | .str text =>
      let stripped := strip text
      if stripped = "" then some []
      else
        match runtime.loads stripped with
        | .value (.dict items) => some items
        | .value _ => some []
        | .invalid => some []
        | .raised => none
  | _ => some []

def callIdFor (toolName : String) (toolArgs : Mapping) : Option String :=
  (runtime.argsText toolArgs).map fun args =>
    "tool-" ++ String.ofList ((runtime.sha256 (toolName ++ "\x00" ++ args)).toList.take 16)

/-- `str(mapping.get(name, "")).strip()` -/
def stripped (mapping : Mapping) (name : String) : String :=
  strip (runtime.builtins.str ((field? mapping name).getD (.str "")))

def callBody (call : Mapping) : Mapping × String :=
  match field call "function" with
  | .dict function => (function, "arguments")
  | _ => (call, "input")

def toolName (call : Mapping) : String := stripped runtime (callBody call).1 "name"

/-- `normalize_tool_call`; `none` when it raises. -/
def normalizeToolCall (call : Mapping) : Option (String × String × Mapping) := do
  let callId := stripped runtime call "id"
  let name := toolName runtime call
  let args ← parseToolArgs runtime (field (callBody call).1 (callBody call).2)
  let callId ← if callId = "" then callIdFor runtime name args else some callId
  return (callId, name, args)

def truncateToolResult (text : String) : String :=
  if text.length ≤ maxToolResultChars then text
  else String.ofList (text.toList.take maxToolResultChars) ++ "\n[truncated]"

/-- The loop of `run_tool_calls`: the messages it appends, one for each call it counts as
executed; `none` when it raises. -/
def executeCalls : List ToolCall → Option (List Message)
  | [] => some []
  | call :: rest =>
      match asMapping? call.raw with
      | none => executeCalls rest
      | some items =>
          match normalizeToolCall runtime items with
          | none => none
          | some (callId, name, _) =>
              if name = "" then executeCalls rest
              else
                match call.outcome with
                | none => none
                | some text => (executeCalls rest).map fun messages =>
                    .tool callId name (truncateToolResult text) :: messages

def runToolCalls (toolCalls : List ToolCall) : Option (List Message) :=
  executeCalls runtime (toolCalls.take maxToolCallsPerRound)

/-! ### The loop -/

structure Thread where
  messages : List Message
  sent : List Request
  response : String
  toolCallCount : Nat

def Thread.start (prompt : String) : Thread where
  messages := [.user prompt]
  sent := []
  response := ""
  toolCallCount := 0

/-- `str(chat_response.get("content", "") or "")` -/
def Turn.text (turn : Turn) : String :=
  if turn.content.truthy then runtime.builtins.str turn.content else ""

def Turn.message (turn : Turn) : Message :=
  .assistant (turn.text runtime) (turn.toolCalls.map ToolCall.raw)

/-- The iterations of `_run_native_tool_loop`, with the tool rounds that are left; where the
turns end the model call raises. -/
def runTurns : Nat → PyValue → List Turn → Thread → Thread
  | _, toolChoice, [], thread =>
      { thread with sent := thread.sent ++ [⟨thread.messages, toolChoice⟩] }
  | roundsLeft, toolChoice, turn :: turns, thread =>
      let replied : Thread := {
        messages := thread.messages ++ [turn.message runtime]
        sent := thread.sent ++ [⟨thread.messages, toolChoice⟩]
        response := turn.text runtime
        toolCallCount := thread.toolCallCount }
      if turn.toolCalls.isEmpty then replied
      else
        match roundsLeft with
        | 0 => replied
        | roundsLeft + 1 =>
            match runToolCalls runtime turn.toolCalls with
            | none => replied
            | some results =>
                if results.isEmpty then replied
                else
                  runTurns roundsLeft (.str "auto") turns {
                    replied with
                    messages := replied.messages ++ results
                    toolCallCount := replied.toolCallCount + results.length }
  termination_by structural _ _ turns => turns

def runNativeToolLoop (prompt : String) (toolChoice : PyValue) (turns : List Turn) : Thread :=
  runTurns runtime maxToolRounds toolChoice turns (Thread.start prompt)

end

/-! ### Well-formed threads -/

def answers : List Message → List String
  | [] => []
  | .user _ :: rest => answers rest
  | .assistant _ _ :: _ => []
  | .tool toolCallId _ _ :: rest => toolCallId :: answers rest

/-- The `id` that a call of the assistant message carries. -/
def callId? (call : PyValue) : Option PyValue :=
  (asMapping? call).bind fun items => field? items "id"

def Matched (toolCalls : List PyValue) (ids : List String) : Prop :=
  (ids.map fun id => some (PyValue.str id)).Perm (toolCalls.map callId?)

def Answered : List Message → Prop
  | [] => True
  | .assistant _ toolCalls :: rest => Matched toolCalls (answers rest) ∧ Answered rest
  | .user _ :: rest => Answered rest
  | .tool _ _ _ :: rest => Answered rest

/-- Each assistant message is followed, before the next one, by one tool message for each of
its calls and no other; in front of the first there is none. -/
def WellFormed (messages : List Message) : Prop := answers messages = [] ∧ Answered messages

def Message.isTool : Message → Bool
  | .tool _ _ _ => true
  | _ => false

theorem answers_append (messages : List Message) (content : String) (toolCalls : List PyValue)
    (results : List Message) :
    answers (messages ++ .assistant content toolCalls :: results) = answers messages := by
  induction messages with
  | nil => rfl
  | cons message rest ih =>
      cases message with
      | user content => exact ih
      | assistant content toolCalls => rfl
      | tool toolCallId name content => exact congrArg (List.cons toolCallId) ih

theorem answered_results {results : List Message}
    (tools : ∀ message ∈ results, message.isTool = true) : Answered results := by
  induction results with
  | nil => trivial
  | cons message rest ih =>
      have later := ih fun other member => tools other (mem_cons_of_mem _ member)
      cases message with
      | tool toolCallId name content => exact later
      | user content | assistant content toolCalls => cases tools _ mem_cons_self

theorem wellFormed_append {messages results : List Message} {content : String}
    {toolCalls : List PyValue} (tools : ∀ message ∈ results, message.isTool = true) :
    WellFormed (messages ++ .assistant content toolCalls :: results) ↔
      WellFormed messages ∧ Matched toolCalls (answers results) := by
  have parts : Answered (messages ++ .assistant content toolCalls :: results) ↔
      Answered messages ∧ Matched toolCalls (answers results) := by
    induction messages with
    | nil =>
        constructor
        · intro answered
          exact ⟨trivial, answered.1⟩
        · intro answered
          exact ⟨answered.2, answered_results tools⟩
    | cons message rest ih =>
        cases message with
        | user text => exact ih
        | tool toolCallId name text => exact ih
        | assistant text calls =>
            rw [cons_append, Answered, Answered, ih, answers_append, and_assoc]
  rw [WellFormed, WellFormed, answers_append, parts, and_assoc]

/-! ### When a round is answered -/

section

variable (runtime : Runtime)

def named (call : PyValue) : Bool :=
  match asMapping? call with
  | none => false
  | some items => toolName runtime items ≠ ""

def ToolCall.raises (call : ToolCall) : Bool :=
  match asMapping? call.raw with
  | none => false
  | some items =>
      (normalizeToolCall runtime items).isNone || (named runtime call.raw && call.outcome.isNone)

/-- The calls that are looked at can all be executed, and one of them names its tool; so the
model is asked again. -/
def Turn.goesOn (turn : Turn) : Bool :=
  let looked := turn.toolCalls.take maxToolCallsPerRound
  looked.any (fun call => named runtime call.raw) && looked.all fun call => !call.raises runtime

/-- A call that names its tool and carries a text id without blanks around it. -/
def CleanCall (call : PyValue) : Prop :=
  named runtime call = true ∧ ∃ id, callId? call = some (.str id) ∧ id ≠ "" ∧ strip id = id

def Turn.Clean (turn : Turn) : Prop :=
  turn.toolCalls.length ≤ maxToolCallsPerRound ∧
    ∀ call ∈ turn.toolCalls, CleanCall runtime call.raw

variable {runtime}

theorem strip_of_plain {text : String} (plain : ∀ c ∈ text.toList, isSpace c = false) :
    strip text = text := by
  apply String.toList_inj.mp
  have start : text.toList.dropWhile isSpace = text.toList := by
    cases shape : text.toList with
    | nil => rfl
    | cons c rest =>
        have stays := plain c (shape ▸ mem_cons_self)
        exact dropWhile_cons_of_neg (Bool.eq_false_iff.mp stays)
  rw [strip_toList, start]
  apply rdropWhile_eq_self_iff.mpr
  intro nonempty
  exact Bool.eq_false_iff.mp (plain _ (getLast_mem nonempty))

theorem callIdFor_plain {toolName callId : String} {toolArgs : Mapping}
    (invented : callIdFor runtime toolName toolArgs = some callId) :
    callId ≠ "" ∧ strip callId = callId := by
  obtain ⟨args, _, same⟩ := Option.map_eq_some_iff.mp invented
  subst same
  constructor
  · intro empty
    have chars := congrArg String.toList empty
    rw [String.toList_append] at chars
    cases chars
  · apply strip_of_plain
    intro c member
    rw [String.toList_append] at member
    rcases mem_append.mp member with label | digest
    · have plain : "tool-".toList.all (fun c => !isSpace c) = true := rfl
      have stays := all_eq_true.mp plain c label
      exact Bool.not_eq_true' _ ▸ stays
    · rw [String.toList_ofList] at digest
      exact runtime.digest_plain _ c (mem_of_mem_take digest)

theorem normalized_clean {items args : Mapping} {callId name : String}
    (normalized : normalizeToolCall runtime items = some (callId, name, args)) :
    (callId ≠ "" ∧ strip callId = callId) ∧ name = toolName runtime items ∧
      (stripped runtime items "id" ≠ "" → callId = stripped runtime items "id") := by
  unfold normalizeToolCall at normalized
  cases parsed : parseToolArgs runtime (field (callBody items).1 (callBody items).2) with
  | none =>
      rw [parsed] at normalized
      cases normalized
  | some found =>
      rw [parsed] at normalized
      by_cases blank : stripped runtime items "id" = ""
      · cases invented : callIdFor runtime (toolName runtime items) found with
        | none =>
            simp only [Option.bind_eq_bind, Option.bind_some, blank, if_pos, invented] at normalized
            cases normalized
        | some new =>
            simp only [Option.bind_eq_bind, Option.bind_some, blank, if_pos, invented] at normalized
            cases normalized
            exact ⟨callIdFor_plain invented, rfl, fun nonempty => absurd blank nonempty⟩
      · simp only [Option.bind_eq_bind, Option.bind_some, if_neg blank] at normalized
        cases normalized
        exact ⟨⟨blank, strip_strip _⟩, rfl, fun _ => rfl⟩

variable (runtime) in
/-- The id and the name under which a call is answered; `none` for a call that is dropped. -/
def answerId (call : PyValue) : Option (String × String) :=
  match asMapping? call with
  | none => none
  | some items =>
      match normalizeToolCall runtime items with
      | none => none
      | some (callId, name, _) => if name = "" then none else some (callId, name)

variable (runtime) in
theorem call_cases (call : ToolCall) :
    (named runtime call.raw = false ∧ answerId runtime call.raw = none ∧
        call.raises runtime = false ∧
        ∀ rest, executeCalls runtime (call :: rest) = executeCalls runtime rest) ∨
      (call.raises runtime = true ∧ ∀ rest, executeCalls runtime (call :: rest) = none) ∨
      ∃ callId name content, named runtime call.raw = true ∧
        answerId runtime call.raw = some (callId, name) ∧ call.raises runtime = false ∧
        ∀ rest, executeCalls runtime (call :: rest) =
          (executeCalls runtime rest).map fun messages => .tool callId name content :: messages := by
  cases isMapping : asMapping? call.raw with
  | none =>
      left
      refine ⟨?_, ?_, ?_, ?_⟩
      · rw [named, isMapping]
      · rw [answerId, isMapping]
      · rw [ToolCall.raises, isMapping]
      · intro rest
        rw [executeCalls, isMapping]
  | some items =>
      cases normalized : normalizeToolCall runtime items with
      | none =>
          right
          left
          constructor
          · simp only [ToolCall.raises, isMapping, normalized, Option.isNone_none, Bool.true_or]
          · intro rest
            simp only [executeCalls, isMapping, normalized]
      | some parts =>
          obtain ⟨callId, name, args⟩ := parts
          have isName := (normalized_clean normalized).2.1
          by_cases nameless : name = ""
          · left
            have unnamed : named runtime call.raw = false := by
              rw [named, isMapping]
              exact decide_eq_false (not_not.mpr (isName.symm.trans nameless))
            refine ⟨unnamed, ?_, ?_, ?_⟩
            · simp only [answerId, isMapping, normalized, if_pos nameless]
            · simp only [ToolCall.raises, isMapping, normalized, unnamed, Option.isNone_some,
                Bool.false_and, Bool.or_self]
            · intro rest
              simp only [executeCalls, isMapping, normalized, if_pos nameless]
          · right
            have isNamed : named runtime call.raw = true := by
              rw [named, isMapping]
              exact decide_eq_true (isName ▸ nameless)
            cases outcome : call.outcome with
            | none =>
                left
                constructor
                · simp only [ToolCall.raises, isMapping, normalized, isNamed, outcome,
                    Option.isNone_none, Option.isNone_some, Bool.true_and, Bool.or_true]
                · intro rest
                  simp only [executeCalls, isMapping, normalized, if_neg nameless, outcome]
            | some text =>
                right
                refine ⟨callId, name, truncateToolResult text, isNamed, ?_, ?_, ?_⟩
                · simp only [answerId, isMapping, normalized, if_neg nameless]
                · simp only [ToolCall.raises, isMapping, normalized, isNamed, outcome,
                    Option.isNone_some, Bool.and_false, Bool.or_self]
                · intro rest
                  simp only [executeCalls, isMapping, normalized, if_neg nameless, outcome]

theorem executeCalls_some {calls : List ToolCall} {results : List Message}
    (executed : executeCalls runtime calls = some results) :
    (∀ message ∈ results, message.isTool = true) ∧
      answers results = (calls.filterMap fun call => answerId runtime call.raw).map Prod.fst ∧
        (results = [] ↔ ∀ call ∈ calls, named runtime call.raw = false) ∧
          ∀ call ∈ calls, call.raises runtime = false := by
  induction calls generalizing results with
  | nil =>
      cases executed
      exact ⟨fun _ listed => absurd listed not_mem_nil, rfl,
        iff_of_true rfl fun _ listed => absurd listed not_mem_nil,
        fun _ listed => absurd listed not_mem_nil⟩
  | cons call rest ih =>
      rcases call_cases runtime call with dropped | raised | answered
      · obtain ⟨unnamed, noId, calm, skip⟩ := dropped
        rw [skip] at executed
        obtain ⟨tools, ids, empty, restCalm⟩ := ih executed
        refine ⟨tools, ?_, ?_, forall_mem_cons.mpr ⟨calm, restCalm⟩⟩
        · rw [ids, filterMap_cons, noId]
        · rw [empty, forall_mem_cons]
          exact (and_iff_right unnamed).symm
      · rw [raised.2] at executed
        cases executed
      · obtain ⟨callId, name, content, isNamed, isId, calm, append⟩ := answered
        rw [append] at executed
        obtain ⟨messages, restExecuted, same⟩ := Option.map_eq_some_iff.mp executed
        subst same
        obtain ⟨tools, ids, _, restCalm⟩ := ih restExecuted
        refine ⟨forall_mem_cons.mpr ⟨rfl, tools⟩, ?_, ?_, forall_mem_cons.mpr ⟨calm, restCalm⟩⟩
        · rw [answers, ids, filterMap_cons, isId]
          rfl
        · apply iff_of_false (cons_ne_nil _ _)
          intro all
          rw [all call mem_cons_self] at isNamed
          cases isNamed

theorem executeCalls_none {calls : List ToolCall} (failed : executeCalls runtime calls = none) :
    ∃ call ∈ calls, call.raises runtime = true := by
  induction calls with
  | nil => cases failed
  | cons call rest ih =>
      have later : executeCalls runtime rest = none →
          ∃ other ∈ call :: rest, other.raises runtime = true := by
        intro restFailed
        obtain ⟨other, listed, raises⟩ := ih restFailed
        exact ⟨other, mem_cons_of_mem _ listed, raises⟩
      rcases call_cases runtime call with dropped | raised | answered
      · rw [dropped.2.2.2] at failed
        exact later failed
      · exact ⟨call, mem_cons_self, raised.1⟩
      · obtain ⟨callId, name, content, _, _, _, append⟩ := answered
        rw [append, Option.map_eq_none_iff] at failed
        exact later failed

theorem goesOn_iff {turn : Turn} : turn.goesOn runtime = true ↔
    ∃ results, runToolCalls runtime turn.toolCalls = some results ∧ results ≠ [] := by
  rw [Turn.goesOn, Bool.and_eq_true, any_eq_true, all_eq_true]
  constructor
  · intro goes
    obtain ⟨⟨call, listed, isNamed⟩, calm⟩ := goes
    cases executed : runToolCalls runtime turn.toolCalls with
    | none =>
        obtain ⟨other, otherListed, raises⟩ := executeCalls_none executed
        have quiet := calm other otherListed
        rw [raises] at quiet
        cases quiet
    | some results =>
        refine ⟨results, rfl, ?_⟩
        intro empty
        have unnamed := (executeCalls_some executed).2.2.1.mp empty call listed
        rw [isNamed] at unnamed
        cases unnamed
  · intro executed
    obtain ⟨results, executed, nonempty⟩ := executed
    obtain ⟨_, _, empty, calm⟩ := executeCalls_some executed
    constructor
    · by_contra none_
      apply nonempty
      apply empty.mpr
      intro call listed
      apply Bool.eq_false_iff.mpr
      intro isNamed
      exact none_ ⟨call, listed, isNamed⟩
    · intro call listed
      rw [calm call listed]
      rfl

theorem answerId_clean {call : PyValue} {callId name : String}
    (answered : answerId runtime call = some (callId, name)) :
    (callId ≠ "" ∧ strip callId = callId) ∧ named runtime call = true ∧
      ∀ id, callId? call = some (.str id) → id ≠ "" → strip id = id → callId = id := by
  unfold answerId at answered
  cases isMapping : asMapping? call with
  | none =>
      rw [isMapping] at answered
      cases answered
  | some items =>
      rw [isMapping] at answered
      cases normalized : normalizeToolCall runtime items with
      | none =>
          simp only [normalized] at answered
          cases answered
      | some parts =>
          obtain ⟨found, isName, args⟩ := parts
          simp only [normalized] at answered
          obtain ⟨clean, sameName, own⟩ := normalized_clean normalized
          split at answered
          · cases answered
          · rename_i nonempty
            cases answered
            refine ⟨clean, ?_, ?_⟩
            · rw [named, isMapping]
              exact decide_eq_true (sameName ▸ nonempty)
            · intro id carries nonblank plain
              rw [callId?, isMapping, Option.bind_some] at carries
              have isId : stripped runtime items "id" = id := by
                rw [stripped, carries, Option.getD_some]
                exact plain
              rw [isId] at own
              exact own nonblank

theorem answers_of_clean {calls : List ToolCall}
    (clean : ∀ call ∈ calls, CleanCall runtime call.raw)
    (calm : ∀ call ∈ calls, call.raises runtime = false) :
    ((calls.filterMap fun call => answerId runtime call.raw).map fun answer =>
        some (PyValue.str answer.1)) = calls.map fun call => callId? call.raw := by
  induction calls with
  | nil => rfl
  | cons call rest ih =>
      have later := ih (fun other member => clean other (mem_cons_of_mem _ member))
        (fun other member => calm other (mem_cons_of_mem _ member))
      obtain ⟨isNamed, id, carries, nonempty, plain⟩ := clean call mem_cons_self
      rcases call_cases runtime call with dropped | raised | answered
      · rw [dropped.1] at isNamed
        cases isNamed
      · have quiet := calm call mem_cons_self
        rw [raised.1] at quiet
        cases quiet
      · obtain ⟨callId, name, content, _, isId, _, _⟩ := answered
        have own := (answerId_clean isId).2.2 id carries nonempty plain
        rw [filterMap_cons, isId, map_cons, map_cons, later, carries, ← own]

theorem matched_iff {turn : Turn} {results : List Message}
    (executed : runToolCalls runtime turn.toolCalls = some results) :
    Matched (turn.toolCalls.map ToolCall.raw) (answers results) ↔ turn.Clean runtime := by
  obtain ⟨_, ids, _, calm⟩ := executeCalls_some executed
  rw [Matched, ids, map_map, map_map]
  constructor
  · intro perm
    have lengths := perm.length_eq
    rw [length_map, length_map] at lengths
    have answered := length_filterMap_le (fun call : ToolCall => answerId runtime call.raw)
      (turn.toolCalls.take maxToolCallsPerRound)
    rw [length_take] at answered
    have few : turn.toolCalls.length ≤ maxToolCallsPerRound := by omega
    rw [take_of_length_le few] at perm lengths
    have each := filterMap_length_eq_length.mp lengths
    refine ⟨few, ?_⟩
    intro call listed
    obtain ⟨⟨callId, name⟩, isId⟩ := Option.isSome_iff_exists.mp (each call listed)
    refine ⟨(answerId_clean isId).2.1, ?_⟩
    have carried : callId? call.raw ∈ turn.toolCalls.map (callId? ∘ ToolCall.raw) :=
      mem_map_of_mem listed
    obtain ⟨answer, isAnswer, same⟩ := mem_map.mp (perm.mem_iff.mpr carried)
    obtain ⟨other, _, isOther⟩ := mem_filterMap.mp isAnswer
    obtain ⟨⟨nonempty, plain⟩, _⟩ := answerId_clean isOther
    exact ⟨answer.1, same.symm, nonempty, plain⟩
  · intro clean
    rw [take_of_length_le clean.1] at calm ⊢
    have same := answers_of_clean clean.2 calm
    exact List.Perm.of_eq same

/-! ### The whole loop -/

variable (runtime) in
theorem runTurns_cons (roundsLeft : Nat) (toolChoice : PyValue) (turn : Turn)
    (turns : List Turn) (thread : Thread) :
    ((turn.goesOn runtime = false ∨ roundsLeft = 0) ∧
        (runTurns runtime roundsLeft toolChoice (turn :: turns) thread).sent =
          thread.sent ++ [⟨thread.messages, toolChoice⟩]) ∨
      ∃ fewer results count, roundsLeft = fewer + 1 ∧ turn.goesOn runtime = true ∧
        runToolCalls runtime turn.toolCalls = some results ∧
        runTurns runtime roundsLeft toolChoice (turn :: turns) thread =
          runTurns runtime fewer (.str "auto") turns {
            messages := thread.messages ++ turn.message runtime :: results
            sent := thread.sent ++ [⟨thread.messages, toolChoice⟩]
            response := turn.text runtime
            toolCallCount := count } := by
  have stops : (∀ results, runToolCalls runtime turn.toolCalls = some results → results = []) →
      turn.goesOn runtime = false := by
    intro nothing
    apply Bool.eq_false_iff.mpr
    intro goes
    obtain ⟨results, executed, nonempty⟩ := goesOn_iff.mp goes
    exact nonempty (nothing results executed)
  rw [runTurns.eq_def runtime roundsLeft toolChoice (turn :: turns) thread]
  dsimp only
  by_cases noCalls : turn.toolCalls.isEmpty = true
  · left
    rw [if_pos noCalls]
    refine ⟨.inl (stops ?_), rfl⟩
    intro results executed
    rw [List.isEmpty_iff.mp noCalls] at executed
    exact (Option.some.inj executed).symm
  · rw [if_neg noCalls]
    cases roundsLeft with
    | zero => exact .inl ⟨.inr rfl, rfl⟩
    | succ fewer =>
        cases executed : runToolCalls runtime turn.toolCalls with
        | none =>
            left
            refine ⟨.inl (stops ?_), rfl⟩
            intro results impossible
            rw [executed] at impossible
            cases impossible
        | some results =>
            by_cases nothing : results = []
            · left
              subst nothing
              refine ⟨.inl (stops ?_), rfl⟩
              intro others same
              exact Option.some.inj (same.symm.trans executed)
            · right
              refine ⟨fewer, results, thread.toolCallCount + results.length, rfl,
                goesOn_iff.mpr ⟨results, executed, nothing⟩, rfl, ?_⟩
              change (if results.isEmpty then _ else _) = _
              rw [if_neg fun empty => nothing (List.isEmpty_iff.mp empty), append_assoc]
              rfl

theorem mem_sent {roundsLeft : Nat} {toolChoice : PyValue} {turns : List Turn}
    {thread : Thread} {request : Request}
    (listed : request ∈ thread.sent ∨ request = ⟨thread.messages, toolChoice⟩) :
    request ∈ (runTurns runtime roundsLeft toolChoice turns thread).sent := by
  have added : request ∈ thread.sent ++ [⟨thread.messages, toolChoice⟩] := by
    rcases listed with earlier | now
    · exact mem_append_left _ earlier
    · exact mem_append_right _ (now ▸ mem_singleton_self _)
  induction turns generalizing roundsLeft toolChoice thread with
  | nil => exact added
  | cons turn turns ih =>
      rcases runTurns_cons runtime roundsLeft toolChoice turn turns thread with
        stopped | more
      · rw [stopped.2]
        exact added
      · obtain ⟨fewer, results, count, _, _, _, same⟩ := more
        rw [same]
        exact ih (.inl added) (mem_append_left _ added)

variable (runtime) in
theorem sent_length (roundsLeft : Nat) (toolChoice : PyValue) (turns : List Turn)
    (thread : Thread) :
    (runTurns runtime roundsLeft toolChoice turns thread).sent.length ≤
      thread.sent.length + (roundsLeft + 1) := by
  induction turns generalizing roundsLeft toolChoice thread with
  | nil =>
      rw [runTurns, length_append, length_singleton]
      omega
  | cons turn turns ih =>
      rcases runTurns_cons runtime roundsLeft toolChoice turn turns thread with
        stopped | more
      · rw [stopped.2, length_append, length_singleton]
        omega
      · obtain ⟨fewer, results, count, isFewer, _, _, same⟩ := more
        have bound := ih fewer (.str "auto") {
          messages := thread.messages ++ turn.message runtime :: results
          sent := thread.sent ++ [⟨thread.messages, toolChoice⟩]
          response := turn.text runtime
          toolCallCount := count }
        rw [same]
        rw [length_append, length_singleton] at bound
        omega

theorem forall_sent {sent : List Request} {messages : List Message} {toolChoice : PyValue}
    (formed : WellFormed messages) :
    (∀ request ∈ sent ++ [⟨messages, toolChoice⟩], WellFormed request.messages) ↔
      ∀ request ∈ sent, WellFormed request.messages := by
  rw [forall_mem_append, forall_mem_singleton]
  exact and_iff_left formed

theorem sent_wellFormed_iff (roundsLeft : Nat) (toolChoice : PyValue) (turns : List Turn)
    (thread : Thread) (formed : WellFormed thread.messages) :
    (∀ request ∈ (runTurns runtime roundsLeft toolChoice turns thread).sent,
        WellFormed request.messages) ↔
      (∀ request ∈ thread.sent, WellFormed request.messages) ∧
        ∀ turn ∈ (turns.take roundsLeft).takeWhile (Turn.goesOn runtime), turn.Clean runtime := by
  induction turns generalizing roundsLeft toolChoice thread with
  | nil =>
      rw [runTurns, forall_sent formed, take_nil]
      exact (and_iff_left fun _ listed => absurd listed not_mem_nil).symm
  | cons turn turns ih =>
      rcases runTurns_cons runtime roundsLeft toolChoice turn turns thread with
        stopped | more
      · have none_ : ((turn :: turns).take roundsLeft).takeWhile (Turn.goesOn runtime) = [] := by
          rcases stopped.1 with quiet | exhausted
          · cases roundsLeft with
            | zero => rfl
            | succ fewer =>
                rw [take_succ_cons, takeWhile_cons_of_neg (Bool.eq_false_iff.mp quiet)]
          · rw [exhausted]
            rfl
        rw [stopped.2, forall_sent formed, none_]
        exact (and_iff_left fun _ listed => absurd listed not_mem_nil).symm
      · obtain ⟨fewer, results, count, isFewer, goes, executed, same⟩ := more
        have step : WellFormed (thread.messages ++ turn.message runtime :: results) ↔
            turn.Clean runtime := by
          rw [Turn.message, wellFormed_append (executeCalls_some executed).1, matched_iff executed]
          exact and_iff_right formed
        rw [same, isFewer, take_succ_cons, takeWhile_cons_of_pos goes, forall_mem_cons]
        by_cases clean : turn.Clean runtime
        · have later := ih fewer (.str "auto") {
            messages := thread.messages ++ turn.message runtime :: results
            sent := thread.sent ++ [⟨thread.messages, toolChoice⟩]
            response := turn.text runtime
            toolCallCount := count } (step.mpr clean)
          rw [later, forall_sent formed]
          exact and_congr_right fun _ => (and_iff_right clean).symm
        · apply iff_of_false
          · intro all
            exact clean (step.mp (all ⟨_, .str "auto"⟩ (mem_sent (.inr rfl))))
          · intro all
            exact clean all.2.1

/-- The loop takes at most one turn more than it has rounds, and every message list it sends
is well formed exactly if in each round that is answered every call is clean. -/
theorem tool_thread_wellFormed_iff (runtime : Runtime) (prompt : String) (toolChoice : PyValue)
    (turns : List Turn) :
    (runNativeToolLoop runtime prompt toolChoice turns).sent.length ≤ maxToolRounds + 1 ∧
      ((∀ request ∈ (runNativeToolLoop runtime prompt toolChoice turns).sent,
          WellFormed request.messages) ↔
        ∀ turn ∈ (turns.take maxToolRounds).takeWhile (Turn.goesOn runtime),
          turn.Clean runtime) := by
  have formed : WellFormed (Thread.start prompt).messages := ⟨rfl, trivial⟩
  constructor
  · have bound := sent_length runtime maxToolRounds toolChoice turns
      (Thread.start prompt)
    exact bound.trans_eq (Nat.zero_add _)
  · rw [runNativeToolLoop, sent_wellFormed_iff _ _ _ _ formed]
    exact and_iff_right fun _ listed => absurd listed not_mem_nil

end

/-! ### A round with thirteen calls -/

def textRuntime : Runtime where
  builtins := {
    text := fun _ => ""
    repr := fun _ => ""
    int := fun _ => .error .typeError
    float := fun _ => .error .typeError
    isWord := Char.isAlphanum }
  loads := fun text => if text = "\x7b\x7d" then .value (.dict []) else .invalid
  argsText := fun _ => some "\x7b\x7d"
  sha256 := fun _ => "44136fa355b3678a"
  digest_plain := by
    intro text c member
    have plain : "44136fa355b3678a".toList.all (fun c => !isSpace c) = true := rfl
    have stays := all_eq_true.mp plain c member
    exact Bool.not_eq_true' _ ▸ stays

/-- An OpenAI-style call of `read_file`. -/
def readCall (id : String) : ToolCall where
  raw := .dict [(.str "id", .str id), (.str "type", .str "function"),
    (.str "function", .dict [(.str "name", .str "read_file"), (.str "arguments", .str "\x7b\x7d")])]
  outcome := some "\x7b\x22success\x22: true\x7d"

def thirteenCalls : Turn where
  content := .none
  toolCalls := ["call-1", "call-2", "call-3", "call-4", "call-5", "call-6", "call-7", "call-8",
    "call-9", "call-10", "call-11", "call-12", "call-13"].map readCall

/-- The thread sent after a response with thirteen calls leaves the last one unanswered. -/
theorem thirteenth_call_unanswered :
    ¬ ∀ request ∈ (runNativeToolLoop textRuntime "Summarise the files." (.str "auto")
      [thirteenCalls]).sent, WellFormed request.messages := by
  intro formed
  have goes : thirteenCalls.goesOn textRuntime = true := by decide +kernel
  have start : WellFormed (Thread.start "Summarise the files.").messages := ⟨rfl, trivial⟩
  have clean := ((sent_wellFormed_iff maxToolRounds _ _ _ start).mp formed).2 thirteenCalls
  have few : thirteenCalls.toolCalls.length ≤ maxToolCallsPerRound := by
    apply And.left (clean ?_)
    rw [maxToolRounds, take_succ_cons, takeWhile_cons_of_pos goes]
    exact mem_cons_self
  exact absurd few (by decide)

end ToolLoop

end AgenticRuntime
