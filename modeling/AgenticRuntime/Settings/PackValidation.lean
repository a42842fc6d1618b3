/-
The issues of a model pack, as settings routes and run submission ask for them.

An issue keeps its severity, its code and what it points at; the message says the same
in words.
-/

import AgenticRuntime.Settings.Documents
import Mathlib.Algebra.Order.Group.Int

namespace AgenticRuntime

open Python List

/-- What the routes ask of the model registry: the chain of each tier, and the capability of
each model. -/
structure ModelRegistry where
  tiers : List (Int × List String) := []
  models : List (String × String) := []

def knownModelCapabilities : List String :=
  ["fast", "balanced", "reasoning", "local", "vision", "audio", "tools", "long-context"]

inductive Severity where
  | error
  | warning
  deriving DecidableEq, Repr

structure PackIssue where
  severity : Severity
  code : String
  tier : Option Int := none
  model : Option String := none
  deriving DecidableEq, Repr

/-- `model.split(":", 1)[0] if ":" in model else ""` -/
def modelProvider (model : String) : String :=
  if model.toList.contains ':' then String.ofList (model.toList.takeWhile fun c => c ≠ ':') else ""

section

variable (registry : ModelRegistry) (pack : ModelPack) (settings : UiSettings)

/-- The capabilities of a model: those of the pack, of the settings, of the registry. -/
def effectiveCapabilities (model : String) : List String :=
  match Items.get? pack.modelCapabilities model with
  | some capabilities => capabilities
  | none =>
      match Items.get? settings.modelCapabilities model with
      | some capabilities => capabilities
      | none => (Items.get? registry.models.reverse model).toList

def tierCapabilityIssues (tier : Int) (requirements : List String) : List PackIssue :=
  let chain := (Items.get? pack.tierChains tier).getD []
  let required := requirements.filter knownModelCapabilities.contains
  if chain = [] ∨ required = [] then []
  else
    let satisfies (model : String) : Bool :=
      required.all (effectiveCapabilities registry pack settings model).contains
    if ¬ chain.any satisfies then [⟨.error, "capability_unsatisfied", some tier, none⟩]
    else
      (chain.filter fun model => !satisfies model).map fun model =>
        ⟨.warning, "capability_partial", some tier, some model⟩

def capabilityIssues : List PackIssue :=
  (pack.capabilityRequirements.insertionSort fun first second => first.1 ≤ second.1).flatMap
    fun item => tierCapabilityIssues registry pack settings item.1 item.2

def modelIssues (availableProviders : Option (List String)) (tier : Int) (model : String) :
    List PackIssue :=
  let provider := modelProvider model
  if provider = "" then [⟨.error, "unprefixed_model", some tier, some model⟩]
  else
    (if pack.allowedProviders ≠ [] ∧ provider ∉ pack.allowedProviders then
      [⟨.error, "provider_not_allowed", some tier, some model⟩] else []) ++
    if availableProviders.any fun available => !available.contains provider then
      [⟨.warning, "provider_unavailable", some tier, some model⟩] else []

def validatePackIssues (availableProviders : Option (List String)) : List PackIssue :=
  (if pack.tierChains = [] then [⟨.error, "empty_pack", none, none⟩] else []) ++
  (pack.capabilityRequirements.flatMap fun item =>
    if item.2.all knownModelCapabilities.contains then []
    else [⟨.error, "unknown_capability", some item.1, none⟩]) ++
  (pack.tierChains.flatMap fun item =>
    (if item.2 = [] then [⟨.error, "empty_tier", some item.1, none⟩] else []) ++
      item.2.flatMap (modelIssues pack availableProviders item.1)) ++
  capabilityIssues registry pack settings

def packErrorIssues : List PackIssue :=
  (validatePackIssues registry pack settings none).filter fun issue => issue.severity = .error

end

/-! ### What the available providers decide -/

def PackIssue.IsError (issue : PackIssue) : Bool := issue.severity = .error

theorem modelIssues_errors (pack : ModelPack) (available : Option (List String)) (tier : Int)
    (model : String) :
    (modelIssues pack available tier model).filter PackIssue.IsError =
      (modelIssues pack none tier model).filter PackIssue.IsError := by
  simp only [modelIssues, Option.any_none, Bool.false_eq_true, if_false, append_nil]
  by_cases unprefixed : modelProvider model = ""
  · rw [if_pos unprefixed, if_pos unprefixed]
  · have warned : (if available.any fun known => !known.contains (modelProvider model) then
        [(⟨.warning, "provider_unavailable", some tier, some model⟩ : PackIssue)] else []).filter
          PackIssue.IsError = [] := by
      split
      · rfl
      · rfl
    rw [if_neg unprefixed, if_neg unprefixed, filter_append, warned, append_nil]

theorem validatePackIssues_errors (registry : ModelRegistry) (pack : ModelPack)
    (settings : UiSettings) (available : Option (List String)) :
    (validatePackIssues registry pack settings available).filter PackIssue.IsError =
      packErrorIssues registry pack settings := by
  have sameModels (tier : Int) (chain : List String) :
      (chain.flatMap (modelIssues pack available tier)).filter PackIssue.IsError =
        (chain.flatMap (modelIssues pack none tier)).filter PackIssue.IsError := by
    rw [filter_flatMap, filter_flatMap]
    congr 1
    funext model
    exact modelIssues_errors pack available tier model
  unfold packErrorIssues validatePackIssues
  change _ = List.filter PackIssue.IsError _
  simp only [filter_append, filter_flatMap, sameModels]

end AgenticRuntime
