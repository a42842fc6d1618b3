/-
Code artifacts: a map of files, or a text of FILE blocks, and what makes one invalid.

What Python knows of characters and texts is a parameter.
-/

import AgenticRuntime.ArtifactPaths
import AgenticRuntime.Patterns
import Mathlib.Algebra.Order.Ring.Nat

namespace AgenticRuntime

open Python

/-- `repr` and `casefold` of a text, `\w`, and the characters that a letter of a pattern stands
for where case is ignored. -/
structure Scanner where
  repr : String → String
  casefold : String → String
  isWord : Char → Bool
  sameLetter : Char → Char → Bool

namespace CodeArtifacts

open Patterns

/-- `FILE_BLOCK_RE` -/
def fileBlock : Pattern := .sequence
  [.lineStart, .literal (· = ·) "FILE:", .star false (.char isSpace),
    .group 1 (.plus true .any), .char (· = '\n'),
    .group 2 (.star true .any),
    .lineStart, .literal (· = ·) "ENDFILE", .star false (.char isSpace), .lineEnd]

/-- `_MAX_ARTIFACT_LENGTH`, and `_MAX_SENTINEL_INPUT_LEN` -/
def maxArtifactLength : Nat := 262144

def placeholderScanMaxChars : Nat := 400

def placeholderKeys : List String :=
  ["description", "error", "message", "note", "placeholder", "status"]

/-- `files[match.group(1).strip()] = match.group(2)`, match by match -/
def matchedFiles (found : List (List Char × Cursor)) : Dict String :=
  .ofItems (found.map fun part =>
    (strip (String.ofList (part.2.group 1)), String.ofList (part.2.group 2)))

def parseCompleteFilePayload (text : String) : Option (Dict String) :=
  let (found, left) := fileBlock.finditer text.toList
  if found.isEmpty then none
  else if found.all (fun part => part.1.all isSpace) ∧ left.all isSpace then
    some (matchedFiles found)
  else none

def extractFilesFromArtifact (content : String) : Dict String :=
  matchedFiles (fileBlock.finditer (content.toList.take maxArtifactLength)).1

def fileEntries (files : Dict String) : List (String × Data) :=
  files.items.map fun file => (file.1, .str file.2)

section

variable (scanner : Scanner)

def phrase (text : String) : Pattern := .literal scanner.sameLetter text

/-- `[\w.-]+` -/
def dottedName : Pattern :=
  .plus false (.char fun c => scanner.isWord c || c = '.' || c = '-')

/-- `_PLACEHOLDER_TEXT_RE` -/
def placeholderText : Pattern := .sequence
  [.boundary scanner.isWord, .choice
      (.seq (phrase scanner "not ") (.choice (phrase scanner "available")
        [phrase scanner "generated", phrase scanner "included", phrase scanner "provided"]))
      [.sequence [phrase scanner "no ",
          .optional (.choice (phrase scanner "backend ") [phrase scanner "source "]),
          phrase scanner "code"],
        phrase scanner "placeholder",
        .sequence [phrase scanner "see ", dottedName scanner, phrase scanner " for ",
          .choice (phrase scanner "implementation") [phrase scanner "details"]],
        .seq (phrase scanner "refer to ") (dottedName scanner),
        .seq (phrase scanner "cannot ")
          (.choice (phrase scanner "generate") [phrase scanner "provide"]),
        .seq (phrase scanner "unable to ")
          (.choice (phrase scanner "generate") [phrase scanner "provide"])],
    .boundary scanner.isWord]

def isPlaceholder (text : String) : Bool := (placeholderText scanner).occurs text.toList

def diagnostic (fieldName code message : String) : ContractDiagnostic :=
  ⟨fieldName, codeArtifact, code, message⟩

def entryDiagnostics (fieldName pathValue : String) (source : Data) : List ContractDiagnostic :=
  if ArtifactPaths.safeRelativePath pathValue = false then
    [diagnostic fieldName "unsafe_path"
      s!"contains unsafe or non-relative file path {scanner.repr pathValue}"]
  else
    (if scanner.casefold pathValue ∈ placeholderKeys then
      [diagnostic fieldName "placeholder_object"
        s!"contains metadata key {scanner.repr pathValue} instead of a file path"]
    else []) ++
    let emptySource := [diagnostic fieldName "empty_source"
      s!"file {scanner.repr pathValue} must contain non-blank source text"]
    match source with
    | .str text =>
        if isBlank text then emptySource
        else if text.length ≤ placeholderScanMaxChars ∧ isPlaceholder scanner text then
          [diagnostic fieldName "placeholder"
            s!"file {scanner.repr pathValue} contains placeholder or refusal prose"]
        else []
    | _ => emptySource

def entrySize (pathValue : String) (source : Data) : Nat :=
  if ArtifactPaths.safeRelativePath pathValue = false then 0
  else pathValue.length + match source with
    | .str text => text.length
    | _ => 0

variable (fieldName : String)

def mappingDiagnostics (entries : List (String × Data)) :
    List ContractDiagnostic :=
  if entries.isEmpty then [diagnostic fieldName "empty" "must contain at least one file"]
  else
    (entries.flatMap fun entry => entryDiagnostics scanner fieldName entry.1 entry.2) ++
    if maxArtifactLength < (entries.map fun entry => entrySize entry.1 entry.2).sum then
      [diagnostic fieldName "too_large"
        s!"total file-map content exceeds {maxArtifactLength} characters"]
    else []

/-- `type(value).__name__` -/
def typeName : Data → String
  | .null => "NoneType"
  | .bool _ => "bool"
  | .int _ => "int"
  | .float _ => "float"
  | .str _ => "str"
  | .list _ => "list"
  | .dict _ => "dict"

def validateCodeArtifact : Data → List ContractDiagnostic
  | .null => [diagnostic fieldName "missing" "is required but missing"]
  | .dict entries => mappingDiagnostics scanner fieldName entries
  | .str value =>
      let stripped := strip value
      if stripped = "" then [diagnostic fieldName "empty" "must not be blank"]
      else if maxArtifactLength < stripped.length then
        [diagnostic fieldName "too_large" s!"exceeds {maxArtifactLength} characters"]
      else
        match parseCompleteFilePayload stripped with
        | some files => mappingDiagnostics scanner fieldName (fileEntries files)
        | none =>
            if isPlaceholder scanner stripped then
              [diagnostic fieldName "placeholder"
                "contains placeholder, refusal, or reference-only prose"]
            else
              [diagnostic fieldName "invalid_format"
                "must be a file map or complete FILE/ENDFILE payload"]
  | value =>
      [diagnostic fieldName "invalid_type"
        s!"must be a file map or FILE/ENDFILE string, got {typeName value}"]

def Valid (value : Data) : Prop := validateCodeArtifact scanner "" value = []

instance (value : Data) : Decidable (Valid scanner value) :=
  inferInstanceAs (Decidable (_ = []))

/-! ### The field of a finding -/

def renamed (found : ContractDiagnostic) : ContractDiagnostic :=
  { found with field := fieldName }

theorem entryDiagnostics_renamed (fieldName other pathValue : String) (source : Data) :
    (entryDiagnostics scanner other pathValue source).map (renamed fieldName) =
      entryDiagnostics scanner fieldName pathValue source := by
  unfold entryDiagnostics
  split
  · rfl
  · rw [List.map_append]
    congr 1
    · split
      · rfl
      · rfl
    · cases source with
      | str text =>
          dsimp only
          split
          · rfl
          · split
            · rfl
            · rfl
      | _ => rfl

theorem mappingDiagnostics_renamed (fieldName other : String) (entries : List (String × Data)) :
    (mappingDiagnostics scanner other entries).map (renamed fieldName) =
      mappingDiagnostics scanner fieldName entries := by
  unfold mappingDiagnostics
  split
  · rfl
  · rw [List.map_append, List.map_flatMap]
    congr 1
    · exact List.flatMap_congr fun entry _ => entryDiagnostics_renamed scanner fieldName other _ _
    · split
      · rfl
      · rfl

theorem validateCodeArtifact_renamed (fieldName other : String) (value : Data) :
    (validateCodeArtifact scanner other value).map (renamed fieldName) =
      validateCodeArtifact scanner fieldName value := by
  cases value with
  | dict entries => exact mappingDiagnostics_renamed scanner fieldName other entries
  | str text =>
      unfold validateCodeArtifact
      dsimp only
      split
      · rfl
      · split
        · rfl
        · split
          · exact mappingDiagnostics_renamed scanner fieldName other _
          · split
            · rfl
            · rfl
  | _ => rfl

theorem validateCodeArtifact_eq_nil_iff (value : Data) :
    validateCodeArtifact scanner fieldName value = [] ↔ Valid scanner value := by
  rw [← validateCodeArtifact_renamed scanner fieldName "", List.map_eq_nil_iff]
  exact Iff.rfl

end

end CodeArtifacts

end AgenticRuntime
