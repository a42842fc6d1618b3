/-
Conversation memory: its window of messages, the summaries of what left it, and the limits.

Messages are compared as Python compares them, by a parameter; nothing else of a message but
its role, its content and its tool is looked at.  A token counter that raises has no count.
-/

import AgenticRuntime.Python.Values
import Mathlib.Algebra.Order.Ring.Nat

namespace AgenticRuntime

open Python

structure ConversationMessage (Moment : Type) where
  role : String
  content : String
  timestamp : Moment
  toolCallId : Option String
  toolName : Option String
  metadata : Dict PyValue

structure CaseFacts (Moment : Type) where
  findings : List String
  keyNumbers : Dict PyValue
  keyDates : Dict String
  openQuestions : List String
  updatedAt : Moment

structure ConversationMemory (Moment : Type) where
  messages : List (ConversationMessage Moment)
  maxMessages : Int
  maxTokens : Int
  summaries : List String
  maxSummaries : Int
  tokenCounter : Option (String → Option Int)
  caseFacts : CaseFacts Moment

namespace ConversationMemory

/-! ### Tokens -/

def estimateTokens (tokenCounter : Option (String → Option Int)) (text : String) : Nat :=
  if text = "" then 0
  else
    match tokenCounter.bind fun count => count text with
    | some tokens => tokens.toNat
    | none => max 1 (text.length / 4)

/-- `sum(self.estimate_tokens(text) for text in texts)` -/
def tokensOf (tokenCounter : Option (String → Option Int)) (texts : List String) : Nat :=
  (texts.map (estimateTokens tokenCounter)).sum

section

variable {Moment : Type}

def contents (messages : List (ConversationMessage Moment)) : List String :=
  messages.map ConversationMessage.content

def totalTokens (memory : ConversationMemory Moment) : Nat :=
  tokensOf memory.tokenCounter (contents memory.messages) +
    tokensOf memory.tokenCounter memory.summaries

/-! ### Summaries -/

/-- `text.split()` -/
def words (text : String) : List (List Char) :=
  (text.toList.splitOnP isSpace).filter fun word => !word.isEmpty

def preview (text : String) : String :=
  let cleaned := [' '].intercalate (words text)
  if cleaned.length ≤ 160 then String.ofList cleaned
  else String.ofList (cleaned.take 157) ++ "..."

def summaryLine (message : ConversationMessage Moment) : String :=
  if message.role = "tool" then
    let toolName := (message.toolName.filter fun name => name ≠ "").getD "tool"
    s!"tool({toolName}): {preview message.content}"
  else s!"{message.role}: {preview message.content}"

def buildSummary (toSummarize : List (ConversationMessage Moment)) : String :=
  if toSummarize.isEmpty then ""
  else
    let lines := toSummarize.map summaryLine
    let omitted := lines.length - 30
    let shown := lines.take 30 ++
      if 0 < omitted then [s!"... ({omitted} more omitted) ..."] else []
    s!"[Summary of {toSummarize.length} messages]" ++ "\n" ++ "\n".intercalate shown

/-- `items[-count:]` -/
def lastSlice {α : Type} (count : Int) (items : List α) : List α :=
  if 0 < count then items.drop (items.length - count.toNat) else items.drop (-count).toNat

def dropOldest (tokenCounter : Option (String → Option Int)) (limit : Int) :
    List String → List String
  | [] => []
  | summary :: rest =>
      if limit < tokensOf tokenCounter (summary :: rest) then dropOldest tokenCounter limit rest
      else summary :: rest

def compactSummaries (memory : ConversationMemory Moment) : ConversationMemory Moment :=
  let recent :=
    if memory.maxSummaries < memory.summaries.length then
      lastSlice memory.maxSummaries memory.summaries
    else memory.summaries
  { memory with summaries := dropOldest memory.tokenCounter (memory.maxTokens / 2) recent }

def appendSummary (memory : ConversationMemory Moment) (summary : String) :
    ConversationMemory Moment :=
  if summary = "" then memory
  else { memory with summaries := memory.summaries ++ [summary] }.compactSummaries

/-! ### The window -/

def isSystem (message : ConversationMessage Moment) : Bool := message.role = "system"

/-- `len(self.messages) > self.max_messages or self.total_tokens > self.max_tokens` -/
def OverLimits (memory : ConversationMemory Moment) : Prop :=
  memory.maxMessages < memory.messages.length ∨ memory.maxTokens < memory.totalTokens

instance (memory : ConversationMemory Moment) : Decidable memory.OverLimits :=
  inferInstanceAs (Decidable (_ ∨ _))

/-- The message that leaves first, and those that stay: a system message in front is passed over
while there is another. -/
def popOldest : List (ConversationMessage Moment) →
    Option (ConversationMessage Moment × List (ConversationMessage Moment))
  | [] => none
  | [only] => some (only, [])
  | first :: second :: rest =>
      if isSystem first then some (second, first :: rest) else some (first, second :: rest)

/-- The loop that moves messages out until the limits are met, each round one message fewer. -/
def moveOut : Nat → ConversationMemory Moment →
    ConversationMemory Moment × List (ConversationMessage Moment)
  | 0, memory => (memory, [])
  | bound + 1, memory =>
      if memory.OverLimits then
        match popOldest memory.messages with
        | none => (memory, [])
        | some (popped, rest) =>
            let later := moveOut bound { memory with messages := rest }
            (later.1, popped :: later.2)
      else (memory, [])

variable (same : ConversationMessage Moment → ConversationMessage Moment → Bool)

/-- The first system message and the most recent messages, and those that are summarised.  A
message is kept once, and two messages are never one object. -/
def splitWindow (keep : Nat) (messages : List (ConversationMessage Moment)) :
    List (ConversationMessage Moment) × List (ConversationMessage Moment) :=
  let older := messages.take (messages.length - keep)
  let recent := messages.drop (messages.length - keep)
  match older.find? isSystem with
  | some system =>
      if recent.any (same system) then (recent, older)
      else (system :: recent, older.eraseP isSystem)
  | none => (recent, older)

variable (summarise : List (ConversationMessage Moment) → String)

def summarizeAndTrim (memory : ConversationMemory Moment) : ConversationMemory Moment :=
  if memory.messages.isEmpty then memory
  else
    let keepCount := max 4 (memory.maxMessages / 2)
    let (kept, toSummarize) := splitWindow same keepCount.toNat memory.messages
    let cut := { memory with messages := kept }.appendSummary (summarise toSummarize)
    let (trimmed, extra) := moveOut cut.messages.length cut
    trimmed.appendSummary (summarise extra)

/-- `add`, of a message that is made of its arguments -/
def add (memory : ConversationMemory Moment) (message : ConversationMessage Moment) :
    ConversationMemory Moment :=
  let grown := { memory with messages := memory.messages ++ [message] }
  if grown.OverLimits then grown.summarizeAndTrim same summarise else grown

/-- `compact`, and the number of messages it summarises -/
def compact (memory : ConversationMemory Moment) (keepRecent : Option Int) :
    ConversationMemory Moment × Nat :=
  if memory.messages.isEmpty then (memory, 0)
  else
    let keepRecent := max 0 (keepRecent.getD (max 2 (memory.maxMessages / 4)))
    let (kept, toSummarize) := splitWindow same keepRecent.toNat memory.messages
    if toSummarize.isEmpty then (memory, 0)
    else
      ({ memory with messages := kept }.appendSummary (summarise toSummarize), toSummarize.length)

end

end ConversationMemory

end AgenticRuntime
