/-
Workflow documents as the editor validates, parses and saves them.

Of the parsed configuration only the inputs' defaults and the steps are kept; of the
outputs, the evaluation and the model parameters only whether they can be parsed.
Reading and writing files is left out.
-/

import AgenticRuntime.Python.Values
import Mathlib.Data.List.DropRight
import Mathlib.Data.List.Sort

namespace AgenticRuntime

open Python

/-- What Python raises; the message where the repository's own code writes it. -/
inductive PyError where
  | valueError (message : String)
  | typeError
  | attributeError
  | overflowError
  deriving DecidableEq, Repr

/-- Python's conversions: `str(...)` of what is not a string, `repr(...)`, `int(...)`,
`float(...)`, and `\w` of a pattern. -/
structure Builtins where
  text : PyValue → String
  repr : PyValue → String
  int : PyValue → Except PyError Int
  float : PyValue → Except PyError PyFloat
  isWord : Char → Bool

def Builtins.str (builtins : Builtins) : PyValue → String
  | .str text => text
  | value => builtins.text value

/-- `mapping.get(name)`, without its default -/
def field? (mapping : Mapping) (name : String) : Option PyValue := Items.get? mapping (.str name)

/-- `mapping.get(name)` -/
def field (mapping : Mapping) (name : String) : PyValue := (field? mapping name).getD .none

/-! ### Artifact contracts -/

structure ArtifactContract where
  kind : String
  required : Bool
  aliases : List String
  deriving DecidableEq, Repr

def codeArtifact : String := "code_artifact"

section

variable (builtins : Builtins) (location : String)

/-- `kind not in _SUPPORTED_KINDS`, which hashes the kind. -/
def parseKind (fieldName : String) : PyValue → Except PyError String
  | .str kind =>
      if kind = codeArtifact then .ok kind
      else .error (.valueError s!"{location}.{fieldName}.kind must be one of ['{codeArtifact}']")
  | .list _ | .dict _ => .error .typeError
  | _ => .error (.valueError s!"{location}.{fieldName}.kind must be one of ['{codeArtifact}']")

def parseAliases (fieldName : String) : PyValue → Except PyError (List String)
  | .list items =>
      if items.all fun item => (item.asStr?.map fun text => !isBlank text).getD false then
        .ok (items.filterMap PyValue.asStr?).eraseDups
      else .error (.valueError s!"{location}.{fieldName}.aliases must be a list of strings")
  | _ => .error (.valueError s!"{location}.{fieldName}.aliases must be a list of strings")

def declarationKeys : List PyKey := [.str "kind", .str "required", .str "aliases"]

def asDeclaration? : PyValue → Option Mapping
  | .str kind => some [(.str "kind", .str kind)]
  | .dict items => some items
  | _ => none

def parseDeclaration (fieldName : String) (declaration : PyValue) :
    Except PyError ArtifactContract := do
  let some items := asDeclaration? declaration
    | .error (.valueError s!"{location}.{fieldName} must be a mapping or contract kind")
  let unknown := items.filter fun item => !declarationKeys.contains item.1
  if !unknown.isEmpty then
    throw (.valueError
      s!"{location}.{fieldName} has unknown fields: {builtins.repr (.dict unknown)}")
  let kind ← parseKind location fieldName (field items "kind")
  let .bool required := (field? items "required").getD (.bool true)
    | .error (.valueError s!"{location}.{fieldName}.required must be a boolean")
  let aliases ← parseAliases location fieldName ((field? items "aliases").getD (.list []))
  if fieldName ∈ aliases then
    throw (.valueError s!"{location}.{fieldName} cannot alias itself")
  return { kind := kind, required := required, aliases := aliases }

/-- The loop over `(field_name, *aliases)`. -/
def claimNames (fieldName : String) (owners : List (String × String)) :
    List String → Except PyError (List (String × String))
  | [] => .ok owners
  | contractName :: rest =>
      match Items.get? owners contractName with
      | some owner =>
          .error (.valueError (s!"{location}.{fieldName} name " ++
            s!"{builtins.repr (.str contractName)} collides with contract " ++
            builtins.repr (.str owner)))
      | none => claimNames fieldName (owners ++ [(contractName, fieldName)]) rest

def parseDeclarations (contracts : List (String × ArtifactContract))
    (owners : List (String × String)) :
    Mapping → Except PyError (List (String × ArtifactContract))
  | [] => .ok contracts
  | (key, declaration) :: rest => do
      let .str fieldName := key
        | .error (.valueError s!"{location} field names must be non-empty strings")
      if isBlank fieldName then
        throw (.valueError s!"{location} field names must be non-empty strings")
      let contract ← parseDeclaration builtins location fieldName declaration
      let owners ← claimNames builtins location fieldName owners (fieldName :: contract.aliases)
      parseDeclarations (Items.insert contracts fieldName contract) owners rest

def parseArtifactContracts : PyValue → Except PyError (List (String × ArtifactContract))
  | .none => .ok []
  | .dict items => parseDeclarations builtins location [] [] items
  | _ => .error (.valueError s!"{location} must be a mapping")

def validateContractBindings (contracts : List (String × ArtifactContract))
    (declaredKeys : Mapping) : Except PyError Unit :=
  let unbound := (Items.keys contracts).filter fun name =>
    (Items.get? declaredKeys (.str name)).isNone
  if unbound.isEmpty then .ok ()
  else
    let shown := (unbound.insertionSort (· ≤ ·)).map PyValue.str
    .error (.valueError (s!"{location} keys must exist in the corresponding mapping: " ++
      builtins.repr (.list shown)))

end

/-! ### Validation of a document -/

def knownObservers : List String := ["trace", "websocket", "scoring"]

section

variable (builtins : Builtins)

/-- The characters of `[\w.-]`, ASCII only. -/
def isNameChar (c : Char) : Bool := c.isAlphanum || c = '_' || c = '.' || c = '-'

def validateWorkflowName (name : PyValue) : Except PyError String :=
  match name with
  | .str text =>
      if text ≠ "" ∧ text.toList.all isNameChar then .ok text
      else .error (.valueError s!"Invalid workflow name: {text}")
  | other => .error (.valueError s!"Invalid workflow name: {builtins.str other}")

def validateDocumentName (document : Mapping) (expectedName : PyValue) :
    Except PyError String := do
  let defaultName ← validateWorkflowName builtins
    (if expectedName.truthy then expectedName else (field? document "name").getD (.str ""))
  match field document "name" with
  | .none => return defaultName
  | docName =>
      if builtins.str docName ≠ defaultName then
        throw (.valueError (s!"Workflow document name {builtins.repr docName} does not match " ++
          s!"requested workflow name {builtins.repr (.str defaultName)}."))
      return defaultName

def isNonEmptyStr (item : PyValue) : Bool :=
  (item.asStr?.map fun text => decide (text ≠ "")).getD false

variable (stepName : String)

variable (rawStep : Mapping)

def validateStepDependsOn : Except PyError Unit :=
  match (field? rawStep "depends_on").getD (.list []) with
  | .none => .ok ()
  | .list items =>
      if items.all isNonEmptyStr then .ok ()
      else .error (.valueError
        s!"Workflow step {builtins.repr (.str stepName)} has invalid 'depends_on' values.")
  | _ => .error (.valueError
      s!"Workflow step {builtins.repr (.str stepName)} has invalid 'depends_on' values.")

/-- One field of `_validate_step_mappings` -/
def validateStepMapping (stepName fieldName : String) (rawStep : Mapping) :
    Except PyError Unit :=
  match (field? rawStep fieldName).getD (.dict []) with
  | .none => .ok ()
  | .dict _ => .ok ()
  | _ => .error (.valueError
      s!"Workflow step {builtins.repr (.str stepName)} has invalid '{fieldName}' mapping.")

def validateStepMappings : Except PyError Unit := do
  validateStepMapping builtins stepName "inputs" rawStep
  validateStepMapping builtins stepName "outputs" rawStep

/-- A number, which a `bool` is not, with a bound on its value. -/
def numberWithin (within : ℚ → Bool) : PyValue → Bool
  | .int value => within value
  | .float (.finite value) => within value
  | _ => false

/-- An `int`, which a `bool` is not, from one on. -/
def isPositiveInt : PyValue → Bool
  | .int value => 1 ≤ value
  | _ => false

/-- One parameter: it may be absent, and is refused with `requirement` otherwise. -/
def validateModelParam (stepName paramName requirement : String) (allowed : PyValue → Bool)
    (rawParams : Mapping) : Except PyError Unit :=
  match field rawParams paramName with
  | .none => .ok ()
  | value =>
      if allowed value then .ok ()
      else .error (.valueError (s!"Workflow step {builtins.repr (.str stepName)} has invalid " ++
        s!"'{paramName}' ({requirement})."))

def validateStepModelParams : Except PyError Unit :=
  match field rawStep "model_params" with
  | .none => .ok ()
  | .dict rawParams => do
      validateModelParam builtins stepName "temperature" "must be a number between 0 and 2"
        (numberWithin fun value => 0 ≤ value ∧ value ≤ 2) rawParams
      validateModelParam builtins stepName "top_p"
        "must be a number greater than 0 and at most 1"
        (numberWithin fun value => 0 < value ∧ value ≤ 1) rawParams
      validateModelParam builtins stepName "max_tokens" "must be a positive integer"
        isPositiveInt rawParams
  | _ => .error (.valueError (s!"Workflow step {builtins.repr (.str stepName)} has invalid " ++
      "'model_params' (must be a mapping)."))

def validateStepObservers : Except PyError Unit :=
  match field rawStep "observers" with
  | .none => .ok ()
  | .list items =>
      if items.all isNonEmptyStr then
        let unknown := ((items.filterMap PyValue.asStr?).filter (· ∉ knownObservers)).dedup
        if unknown.isEmpty then .ok ()
        else
          let shown := (unknown.insertionSort (· ≤ ·)).map PyValue.str
          .error (.valueError (s!"Workflow step {builtins.repr (.str stepName)} references " ++
            s!"unknown observers {builtins.repr (.list shown)}. Known observers: " ++
            builtins.repr (.list (knownObservers.map .str)) ++ "."))
      else .error (.valueError (s!"Workflow step {builtins.repr (.str stepName)} has invalid " ++
        "'observers' (must be a list of channel names)."))
  | _ => .error (.valueError (s!"Workflow step {builtins.repr (.str stepName)} has invalid " ++
      "'observers' (must be a list of channel names)."))

/-- `_validate_step`, with the names seen so far and then. -/
def validateStep (index : Nat) (rawStep : PyValue) (seenStepNames : List String) :
    Except PyError (List String) := do
  let .dict rawStep := rawStep
    | .error (.valueError s!"Workflow step #{index} must be a mapping.")
  let .str stepName := field rawStep "name"
    | .error (.valueError s!"Workflow step #{index} is missing required 'name'.")
  if isBlank stepName then
    throw (.valueError s!"Workflow step #{index} is missing required 'name'.")
  if stepName ∈ seenStepNames then
    throw (.valueError s!"Workflow step name {builtins.repr (.str stepName)} is duplicated.")
  validateStepDependsOn builtins stepName rawStep
  validateStepMappings builtins stepName rawStep
  validateStepModelParams builtins stepName rawStep
  validateStepObservers builtins stepName rawStep
  return seenStepNames ++ [stepName]

def validateStepsFrom (index : Nat) (seenStepNames : List String) :
    List PyValue → Except PyError (List String)
  | [] => .ok seenStepNames
  | rawStep :: rest => do
      let seen ← validateStep builtins index rawStep seenStepNames
      validateStepsFrom (index + 1) seen rest

def validateSteps (document : Mapping) : Except PyError (List String) :=
  match field document "steps" with
  | .list (first :: rest) => validateStepsFrom builtins 0 [] (first :: rest)
  | _ => .error (.valueError "Workflow document must define a non-empty 'steps' list.")

end

/-! ### Parsing -/

structure StepConfig where
  name : PyValue
  dependsOn : PyValue
  inputs : Mapping
  outputs : Mapping
  inputContracts : List (String × ArtifactContract)
  outputContracts : List (String × ArtifactContract)
  loopMax : Int
  loopMaxExpr : Option String

/-- `inputs` are the default values of the inputs. -/
structure WorkflowConfig where
  name : PyValue
  inputs : Mapping
  steps : List StepConfig

section

variable (builtins : Builtins)

def coercePositiveInt (value : PyValue) (fieldName : String) : Except PyError Int :=
  match builtins.int value with
  | .ok number => .ok (max 1 number)
  | .error .typeError => .error (.valueError s!"{fieldName} must be a positive integer.")
  | .error (.valueError _) => .error (.valueError s!"{fieldName} must be a positive integer.")
  | .error other => .error other

/-- `text.strip()` -/
def strip (text : String) : String :=
  String.ofList ((text.toList.dropWhile isSpace).reverse.dropWhile isSpace).reverse

theorem strip_toList (text : String) :
    (strip text).toList = (text.toList.dropWhile isSpace).rdropWhile isSpace := by
  rw [strip, String.toList_ofList]
  rfl

theorem dropWhile_rdropWhile (items : List Char) (drops : Char → Bool) :
    ((items.dropWhile drops).rdropWhile drops).dropWhile drops =
      (items.dropWhile drops).rdropWhile drops := by
  have headFails := List.dropWhile_eq_self_iff.mp (List.dropWhile_idempotent drops items)
  have isHead := List.rdropWhile_prefix drops (items.dropWhile drops)
  apply List.dropWhile_eq_self_iff.mpr
  intro positive
  have longer : 0 < (items.dropWhile drops).length := lt_of_lt_of_le positive isHead.length_le
  rw [isHead.getElem positive]
  exact headFails longer

theorem strip_strip (text : String) : strip (strip text) = strip text := by
  apply String.toList_inj.mp
  rw [strip_toList, strip_toList, dropWhile_rdropWhile, List.rdropWhile_idempotent]

def isNameStart (c : Char) : Bool := c.isAlpha || c = '_'

/-- The name that the pattern `\$\{\s*inputs\.([A-Za-z_][\w]*)\s*\}` captures in the whole of
a text. -/
def inputReference? (text : String) : Option String := do
  let inner ← text.toList.dropPrefix? ['$', '\x7b']
  let tail ← (inner.dropWhile isSpace).dropPrefix? "inputs.".toList
  let name := tail.takeWhile builtins.isWord
  let first ← name.head?
  if isNameStart first ∧ (tail.drop name.length).dropWhile isSpace = ['\x7d'] then
    some (String.ofList name)
  else none

def parseLoopMax (rawValue : PyValue) (inputs : Mapping) : Except PyError (Int × Option String) :=
  let bare := (coercePositiveInt builtins rawValue "loop_max").map fun bound => (bound, none)
  match rawValue with
  | .str text =>
      let stripped := strip text
      match inputReference? builtins stripped with
      | some inputName =>
          let fallback : PyValue := match field inputs inputName with
            | .none => .int 3
            | value => value
          (coercePositiveInt builtins fallback "loop_max").map fun bound => (bound, some stripped)
      | none =>
          if ['$', '\x7b'].isPrefixOf stripped.toList ∧
              ['\x7d'].isSuffixOf stripped.toList then
            .ok (3, some stripped)
          else bare
  | _ => bare

variable (data : Mapping)

def parseInputs : Except PyError Mapping :=
  match (field? data "inputs").getD (.dict []) with
  | .dict items => .ok (items.map fun item =>
      match item.2 with
      | .dict input => (item.1, field input "default")
      | value => (item.1, value))
  | _ => .error .attributeError

/-- `dict(raw.get(fieldName, {}))`, for what the validation lets through. -/
def parseStepMapping (raw : Mapping) (fieldName : String) : Except PyError Mapping :=
  match (field? raw fieldName).getD (.dict []) with
  | .dict items => .ok items
  | _ => .error .typeError

def parseStep (raw : Mapping) (inputs : Mapping) : Except PyError StepConfig := do
  let loopMax ← parseLoopMax builtins ((field? raw "loop_max").getD (.int 3)) inputs
  let stepInputs ← parseStepMapping raw "inputs"
  let stepOutputs ← parseStepMapping raw "outputs"
  let name := field raw "name"
  let inputContracts ← parseArtifactContracts builtins
    s!"steps.{builtins.str name}.input_contracts" (field raw "input_contracts")
  let outputContracts ← parseArtifactContracts builtins
    s!"steps.{builtins.str name}.output_contracts" (field raw "output_contracts")
  validateContractBindings builtins s!"steps.{builtins.str name}.input_contracts"
    inputContracts stepInputs
  validateContractBindings builtins s!"steps.{builtins.str name}.output_contracts"
    outputContracts stepOutputs
  return {
    name := name
    dependsOn := (field? raw "depends_on").getD (.list [])
    inputs := stepInputs
    outputs := stepOutputs
    inputContracts := inputContracts
    outputContracts := outputContracts
    loopMax := loopMax.1
    loopMaxExpr := loopMax.2 }

/-- The loop of `_parse_steps`, which passes over what is no step. -/
def parseStepList (inputs : Mapping) : List PyValue → Except PyError (List StepConfig)
  | [] => .ok []
  | .dict raw :: rest => do
      if (field? raw "name").isNone then parseStepList inputs rest
      else
        let step ← parseStep builtins raw inputs
        let steps ← parseStepList inputs rest
        return step :: steps
  | _ :: rest => parseStepList inputs rest

/-- `_parse_steps`, for the list that the validation lets through. -/
def parseSteps (inputs : Mapping) : Except PyError (List StepConfig) :=
  match (field? data "steps").getD (.list []) with
  | .list rawSteps => parseStepList builtins inputs rawSteps
  | _ => .error .typeError

def parseOutputs : Except PyError Unit :=
  match (field? data "outputs").getD (.dict []) with
  | .dict _ => .ok ()
  | _ => .error .attributeError

def parseCriterion (criterion : Mapping) : Except PyError Unit := do
  if (field criterion "weight").truthy then
    let _ ← builtins.float (field criterion "weight")
  match field criterion "critical_floor" with
  | .none => pure ()
  | floor =>
      let _ ← builtins.float floor
  match field criterion "scale" with
  | .dict _ => pure ()
  | scale => if scale.truthy then throw .attributeError

/-- `_parse_evaluation`: only a list holds criteria, and only some values are walked. -/
def parseEvaluation : Except PyError Unit :=
  match field data "evaluation" with
  | .dict rawEval =>
      match (field? rawEval "criteria").getD (.list []) with
      | .list criteria =>
          criteria.forM fun criterion =>
            match criterion with
            | .dict items =>
                if (field items "name").truthy then parseCriterion builtins items else pure ()
            | _ => pure ()
      | .dict _ | .str _ => .ok ()
      | _ => .error .typeError
  | _ => .ok ()

def parse (defaultName : String) : Except PyError WorkflowConfig := do
  let inputs ← parseInputs data
  let steps ← parseSteps builtins data inputs
  parseOutputs data
  parseEvaluation builtins data
  return {
    name := (field? data "name").getD (.str defaultName)
    inputs := inputs
    steps := steps }

def validateWorkflowDocument (document : PyValue) (expectedName : PyValue) :
    Except PyError WorkflowConfig := do
  let .dict document := document | .error (.valueError "Workflow document must be a mapping.")
  let defaultName ← validateDocumentName builtins document expectedName
  let _ ← validateSteps builtins document
  parse builtins document defaultName

/-- `save_workflow_document`, up to the writing of the file. -/
def saveWorkflowDocument (name : PyValue) (document : Mapping) :
    Except PyError (Mapping × WorkflowConfig) := do
  let config ← validateWorkflowDocument builtins (.dict document) name
  let fileName ← validateWorkflowName builtins name
  let persistedDocument :=
    if (field? document "name").isNone then document ++ [(.str "name", .str fileName)]
    else document
  return (persistedDocument, config)

end

end AgenticRuntime
