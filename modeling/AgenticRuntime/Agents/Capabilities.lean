/-
Capability sets and how well one matches what a subtask requires.

Proficiencies and scores are rationals; the source computes them in floating
point. Requirements and metadata of a capability are left out: matching does not
read them.
-/

import Mathlib

namespace AgenticRuntime

inductive CapabilityType where
  | codeGeneration
  | codeReview
  | codeRefactoring
  | codeExplanation
  | testGeneration
  | testExecution
  | documentation
  | apiDocs
  | staticAnalysis
  | securityAnalysis
  | performanceAnalysis
  | taskDecomposition
  | architectureDesign
  | fileOperations
  | shellExecution
  | webSearch
  | orchestration
  | selfReflection
  deriving DecidableEq, Repr

namespace CapabilityType

def value : CapabilityType → String
  | .codeGeneration => "code_generation"
  | .codeReview => "code_review"
  | .codeRefactoring => "code_refactoring"
  | .codeExplanation => "code_explanation"
  | .testGeneration => "test_generation"
  | .testExecution => "test_execution"
  | .documentation => "documentation"
  | .apiDocs => "api_docs"
  | .staticAnalysis => "static_analysis"
  | .securityAnalysis => "security_analysis"
  | .performanceAnalysis => "performance_analysis"
  | .taskDecomposition => "task_decomposition"
  | .architectureDesign => "architecture_design"
  | .fileOperations => "file_operations"
  | .shellExecution => "shell_execution"
  | .webSearch => "web_search"
  | .orchestration => "orchestration"
  | .selfReflection => "self_reflection"

def members : List CapabilityType :=
  [.codeGeneration, .codeReview, .codeRefactoring, .codeExplanation, .testGeneration,
    .testExecution, .documentation, .apiDocs, .staticAnalysis, .securityAnalysis,
    .performanceAnalysis, .taskDecomposition, .architectureDesign, .fileOperations,
    .shellExecution, .webSearch, .orchestration, .selfReflection]

/-- `CapabilityType(c)` for a text that is one of the values. -/
def ofValue (text : String) : Option CapabilityType :=
  members.find? fun member => member.value = text

end CapabilityType

structure Capability where
  type : CapabilityType
  proficiency : ℚ := 1
  deriving DecidableEq

/-- `__post_init__` clamps the proficiency. -/
def Capability.create (type : CapabilityType) (proficiency : ℚ) : Capability :=
  { type := type, proficiency := max 0 (min 1 proficiency) }

structure CapabilitySet where
  capabilities : List Capability := []
  deriving DecidableEq

namespace CapabilitySet

def get (set : CapabilitySet) (type : CapabilityType) : Option Capability :=
  set.capabilities.find? fun capability => capability.type = type

def add (set : CapabilitySet) (capability : Capability) : CapabilitySet :=
  if (set.get capability.type).isSome then
    { capabilities := set.capabilities.map fun old =>
        if old.type = capability.type then capability else old }
  else
    { capabilities := set.capabilities ++ [capability] }

def fromTypes (types : List CapabilityType) : CapabilitySet :=
  types.foldl (fun set type => set.add { type := type }) {}

def credit (set : CapabilitySet) (required : Capability) : ℚ :=
  match set.get required.type with
  | none => 0
  | some ours => min 1 (ours.proficiency / max (1 / 100) required.proficiency)

def scoreMatch (set required : CapabilitySet) : ℚ :=
  if required.capabilities = [] then 1
  else (required.capabilities.map set.credit).sum / required.capabilities.length

end CapabilitySet

end AgenticRuntime
