/-
The values of a step's `inputs` block and what the native engine binds for them.

A string of the block is one reference or has none; a text that only starts and
ends like a reference is left out.
-/

import AgenticRuntime.ArtifactContracts

namespace AgenticRuntime

open Python

/-- `expr.startswith("${") and expr.endswith("}")` on the stripped text. -/
def readsAsReference (text : String) : Bool :=
  let expr := (strip text).toList
  ['$', '\x7b'].isPrefixOf expr && ['\x7d'].isSuffixOf expr

structure PlainText where
  text : String
  plain : readsAsReference text = false
  deriving DecidableEq, Repr

inductive InputValue where
  | null
  | bool (value : Bool)
  | int (value : Int)
  | float (value : ℚ)
  | text (plain : PlainText)
  | reference (reference : Reference)
  | list (items : List InputValue)
  | dict (fields : List (String × InputValue))
  deriving Repr

/-! ### The text of a reference -/

def pathText (segments : List String) : String := ".".intercalate segments

def Reference.inner : Reference → String
  | .path segments => pathText segments
  | .coalesce paths => "coalesce(" ++ ", ".intercalate (paths.map pathText) ++ ")"

def Reference.text (reference : Reference) : String := "$\x7b" ++ reference.inner ++ "\x7d"

mutual

def InputValue.raw : InputValue → Data
  | .null => .null
  | .bool value => .bool value
  | .int value => .int value
  | .float value => .float value
  | .text plain => .str plain.text
  | .reference reference => .str reference.text
  | .list items => .list (rawItems items)
  | .dict fields => .dict (rawFields fields)

def rawItems : List InputValue → List Data
  | [] => []
  | item :: rest => item.raw :: rawItems rest

def rawFields : List (String × InputValue) → List (String × Data)
  | [] => []
  | (name, value) :: rest => (name, value.raw) :: rawFields rest

end

namespace StepExecutor

/-- `_resolve_input_mapping_value`: a list or a mapping is bound as it stands, and a plain
string is the name of a variable. -/
def resolveInputMappingValue (allVariables : List (String × Data)) :
    InputValue → Except EvalError Data
  | .text plain => .ok ((lookupField allVariables plain.text).getD .null)
  | .reference reference => ExpressionEvaluator.resolveVariable allVariables reference
  | value => .ok value.raw

end StepExecutor

end AgenticRuntime
