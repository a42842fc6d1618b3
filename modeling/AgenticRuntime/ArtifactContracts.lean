/-
Artifact contracts at run time: which of a field's candidates is taken, and what is
reported where none can be.

What the check of a code artifact finds is a parameter.
-/

import AgenticRuntime.Langchain.Config
import AgenticRuntime.Engine.Expressions

namespace AgenticRuntime

open Python

structure ContractDiagnostic where
  field : String
  kind : String
  code : String
  message : String
  deriving DecidableEq, Repr

def ContractDiagnostic.asDict (diagnostic : ContractDiagnostic) : Data :=
  .dict [("field", .str diagnostic.field), ("kind", .str diagnostic.kind),
    ("code", .str diagnostic.code), ("message", .str diagnostic.message)]

/-- The text of an `ArtifactContractError`. -/
def contractErrorText (diagnostics : List ContractDiagnostic) : String :=
  "Artifact contract validation failed: " ++
    "; ".intercalate (diagnostics.map fun item => s!"{item.field}: {item.message}")

def expectedOutputKeys (outputKeys : List String)
    (contracts : List (String × ArtifactContract)) : List String :=
  contracts.foldl (fun keys contract =>
    (contract.1 :: contract.2.aliases).foldl (fun keys name =>
      if name ∈ keys then keys else keys ++ [name]) keys) outputKeys

section

variable (validateCodeArtifact : String → Data → List ContractDiagnostic)

/-- The first candidate without a finding, and the findings of those before it. -/
def selectCandidate (values : Dict Data) : List String → List ContractDiagnostic × Option String
  | [] => ([], none)
  | candidate :: rest =>
      match validateCodeArtifact candidate ((values.get? candidate).getD .null) with
      | [] => ([], some candidate)
      | diagnostics =>
          let later := selectCandidate values rest
          (diagnostics ++ later.1, later.2)

def checkContract (values : Dict Data) (found : Dict Data × List ContractDiagnostic)
    (contract : String × ArtifactContract) : Dict Data × List ContractDiagnostic :=
  let presentCandidates := (contract.1 :: contract.2.aliases).filter fun candidate =>
    (values.get? candidate).isSome
  match selectCandidate validateCodeArtifact values presentCandidates with
  | (_, some selected) =>
      (found.1.insert contract.1 ((values.get? selected).getD .null), found.2)
  | ([], none) =>
      if contract.2.required || !presentCandidates.isEmpty then
        (found.1, found.2 ++
          [⟨contract.1, codeArtifact, "missing", "is required but missing"⟩])
      else found
  | (diagnostics, none) => (found.1, found.2 ++ diagnostics)

def validateAndNormalizeArtifacts (values : Dict Data)
    (contracts : List (String × ArtifactContract)) :
    Except (List ContractDiagnostic) (Dict Data) :=
  match contracts.foldl (checkContract validateCodeArtifact values) (values, []) with
  | (normalized, []) =>
      .ok ((contracts.flatMap fun contract => contract.2.aliases).foldl Dict.erase normalized)
  | (_, diagnostics) => .error diagnostics

end

end AgenticRuntime
