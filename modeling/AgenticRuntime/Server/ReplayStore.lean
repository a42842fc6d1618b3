/-
The events of a run's stream and the bounded logs that keep them for replay.
-/

import Mathlib.Data.List.Basic

namespace AgenticRuntime

/-- The `type` of an event that `validate_event` accepts. -/
inductive EventType where
  | workflowStart
  | stepStart
  | stepEnd
  | tokenDelta
  | stepComplete
  | stepError
  | workflowEnd
  | error
  | evaluationStart
  | evaluationComplete
  | approvalRequired
  | approvalDecision
  deriving DecidableEq, Repr

/-- An event that has been broadcast. `number` counts the broadcasts under the
run id and `tenant` is the one that submitted the broadcasting run; neither is
on the wire and no code reads them. -/
structure Message (Tenant : Type) where
  number : Nat
  tenant : Tenant
  type : EventType
  evaluationEnabled : Bool := false
  deriving DecidableEq, Repr

namespace Message

variable {Tenant : Type}

/-- `_TERMINAL_EVENT_TYPES` -/
def terminal (message : Message Tenant) : Bool :=
  message.type = .workflowEnd || message.type = .error

def isTerminalStreamEvent (message : Message Tenant) : Bool :=
  if message.type = .error || message.type = .evaluationComplete then true
  else message.type = .workflowEnd && !message.evaluationEnabled

end Message

/-- `deque(maxlen=...).append`, which all the stores agree with. -/
def pushBounded {Item : Type} (maxlen : Nat) (items : List Item) (item : Item) : List Item :=
  (items ++ [item]).drop (items.length + 1 - maxlen)

section

variable {Item : Type} {maxlen : Nat} {items : List Item} {item : Item}

theorem pushBounded_suffix : pushBounded maxlen items item <:+ items ++ [item] :=
  List.drop_suffix _ _

theorem pushBounded_of_lt (room : items.length < maxlen) :
    pushBounded maxlen items item = items ++ [item] := by
  have none_dropped : items.length + 1 - maxlen = 0 := by omega
  rw [pushBounded, none_dropped, List.drop_zero]

theorem mem_of_mem_pushBounded {other : Item} (member : other ∈ pushBounded maxlen items item) :
    other ∈ items ∨ other = item := by
  rcases List.mem_append.mp (pushBounded_suffix.subset member) with old | new
  · exact .inl old
  · exact .inr (List.mem_singleton.mp new)

end

end AgenticRuntime
