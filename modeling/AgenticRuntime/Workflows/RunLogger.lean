/-
The run logger: the files it writes and how it finds them again.

A file holds its record.  Paths are compared part by part, as `pathlib` does.
-/

import AgenticRuntime.Workflows.RunRecords
import Mathlib.Data.List.Infix
import Mathlib.Data.List.Lex

namespace AgenticRuntime

namespace RunLog

open Python

abbrev Path := List (List Char)

abbrev Files := List (Path × PyValue)

/-! ### Names -/

section

variable (isalnum : Char → Bool)

def sanitizeChar (char : Char) : Char :=
  if isalnum char || char = '-' || char = '_' then char else '_'

def sanitizeFilenameSegment (value : String) : List Char := value.toList.map (sanitizeChar isalnum)

def strippedOf (drops : Char → Bool) (text : List Char) : List Char :=
  (text.dropWhile drops).rdropWhile drops

def defaultTenantId : List Char := "default".toList

def sanitizeTenantId (value : List Char) : List Char :=
  let raw := strippedOf isSpace value
  if raw = [] then defaultTenantId
  else
    let cleaned := strippedOf (fun char => char = '.' || char = '_' || char = '-')
      (raw.map (sanitizeChar isalnum))
    if cleaned.take 120 = [] then defaultTenantId else cleaned.take 120

end

/-! ### Time stamps -/

/-- `%Y%m%dT%H%M%S%fZ`: the widths, and what stands behind each number. -/
def stampLayout : List (Nat × List Char) :=
  [(4, []), (2, []), (2, ['T']), (2, []), (2, []), (2, []), (6, ['Z'])]

def momentFields (moment : DateTime) : List Nat :=
  [moment.year, moment.month, moment.day, moment.clock.hour, moment.clock.minute,
    moment.clock.second, moment.clock.microsecond]

def rendered : List (Nat × List Char) → List Nat → List Char
  | (width, mark) :: layout, number :: numbers =>
      padded width number ++ (mark ++ rendered layout numbers)
  | _, _ => []

def stamp (now : DateTime) : List Char := rendered stampLayout (momentFields now)

def Earlier (first second : DateTime) : Prop :=
  List.Lex (fun left right : Nat => left < right) (momentFields first) (momentFields second)

/-! ### Finding files -/

/-- `fnmatch`; the names here make no pattern with a bracket. -/
def fnmatch : List Char → List Char → Bool
  | [], name => name.isEmpty
  | wild :: pattern, name =>
      if wild = '*' then name.tails.any fun rest => fnmatch pattern rest
      else
        match name with
        | [] => false
        | char :: rest => (wild = '?' || wild = char) && fnmatch pattern rest

/-- `directory.glob(pattern)` -/
def glob (files : Files) (directory : Path) (pattern : List Char) : List Path :=
  (Items.keys files).filter fun path =>
    path.dropLast = directory && path.getLast?.any fun name => fnmatch pattern name

def charBefore (left right : Char) : Prop := left.toNat < right.toNat

instance : DecidableRel charBefore := fun left right =>
  inferInstanceAs (Decidable (left.toNat < right.toNat))

def nameBefore : List Char → List Char → Prop := List.Lex charBefore

instance : DecidableRel nameBefore := fun left right =>
  inferInstanceAs (Decidable (List.Lex charBefore left right))

/-- `left < right` -/
def pathBefore : Path → Path → Prop := List.Lex nameBefore

instance : DecidableRel pathBefore := fun left right =>
  inferInstanceAs (Decidable (List.Lex nameBefore left right))

/-- `sorted(set(paths))` -/
def sortedPaths (paths : List Path) : List Path :=
  paths.dedup.insertionSort fun left right => ¬ pathBefore right left

/-! ### RunLogger -/

/-- `_base_runs_dir` and `_tenant_id` -/
structure RunLogger where
  base : Path
  tenantId : Option (List Char) := none

section

variable (isalnum : Char → Bool)

/-- `RunLogger(runs_dir, tenant_id=...)` -/
def RunLogger.create (runsDir : Path) (tenantId : Option (List Char)) : RunLogger where
  base := runsDir
  tenantId := (tenantId.filter fun tenant => !tenant.isEmpty).map (sanitizeTenantId isalnum)

variable (logger : RunLogger)

def RunLogger.runsDir : Path :=
  match logger.tenantId with
  | none => logger.base
  | some tenant => logger.base ++ [sanitizeTenantId isalnum tenant]

def RunLogger.searchDirs : List Path :=
  logger.runsDir isalnum ::
    if logger.tenantId = some defaultTenantId ∧ logger.base ≠ logger.runsDir isalnum then
      [logger.base]
    else []

def runStem (result : WorkflowResult) (now : DateTime) : List Char :=
  stamp now ++ '_' :: (sanitizeFilenameSegment isalnum result.workflowName ++
    '_' :: (sanitizeFilenameSegment isalnum result.workflowId ++
      '_' :: sanitizeFilenameSegment isalnum result.overallStatus.value))

def jsonSuffix : List Char := ".json".toList

def RunLogger.pathOf (result : WorkflowResult) (now : DateTime) : Path :=
  logger.runsDir isalnum ++ [runStem isalnum result now ++ jsonSuffix]

def RunLogger.log (pydantic : Pydantic) (builtins : Builtins) (logger : RunLogger) (files : Files)
    (result : WorkflowResult) (extras : RunExtras) (now : DateTime) :
    Except RecordFailure (Path × Files) := do
  let record ← buildRunRecord pydantic builtins result extras
  let path := logger.pathOf isalnum result now
  return (path, Items.insert files path record)

structure LogCall where
  logger : RunLogger
  result : WorkflowResult
  extras : RunExtras := {}
  now : DateTime

def LogCall.path (call : LogCall) : Path := call.logger.pathOf isalnum call.result call.now

def logAll (pydantic : Pydantic) (builtins : Builtins) :
    List LogCall → Files → Except RecordFailure Files
  | [], files => .ok files
  | call :: rest, files =>
      match call.logger.log isalnum pydantic builtins files call.result call.extras call.now with
      | .error failure => .error failure
      | .ok (_, files) => logAll pydantic builtins rest files

def recordName : PyValue → Option String
  | .dict record => (field record "workflow_name").asStr?
  | _ => none

def recordedName (files : Files) (path : Path) : Option String :=
  (Items.get? files path).bind recordName

def runPattern (workflowName : Option String) : List Char :=
  match workflowName with
  | none => '*' :: jsonSuffix
  | some name => '*' :: '_' :: (sanitizeFilenameSegment isalnum name ++ '_' :: '*' :: jsonSuffix)

/-- The argument of `list_runs`, with the empty name taken as none. -/
def givenName (workflowName : Option String) : Option String :=
  workflowName.filter fun name => name ≠ ""

def RunLogger.listRuns (files : Files) (workflowName : Option String) :
    List Path :=
  let matched := sortedPaths ((logger.searchDirs isalnum).flatMap fun directory =>
    glob files directory (runPattern isalnum (givenName workflowName)))
  match givenName workflowName with
  | none => matched
  | some name =>
      if sanitizeFilenameSegment isalnum name ≠ name.toList then
        matched.filter fun path => recordedName files path = some name
      else matched

end

end RunLog

end AgenticRuntime
