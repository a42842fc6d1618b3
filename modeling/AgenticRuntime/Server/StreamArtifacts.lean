/-
Code-like strings of streamed payloads, put into files.

Payloads are JSON. The event's own form of a payload is told apart from what it stands for: a
reference keeps the string it replaced, which only comparing it with the files looks at.
-/

import AgenticRuntime.LastWriter
import AgenticRuntime.Workflows.RunLogger

namespace AgenticRuntime

open List

namespace StreamArtifacts

open Python RunLog

/-! ### server/execution.py -/

/-- `lower()`, up to letters that none of the words looked for has. -/
def lowered (text : List Char) : List Char := text.map Char.toLower

/-- `word in text` -/
def mentions (text : List Char) (word : String) : Bool := word.toList <:+: text

def looksLikeCodeArtifact (keyPath value : List Char) : Bool :=
  if ["code", "script", "source"].any (mentions (lowered keyPath)) then
    value.contains '\n' || 200 < value.length
  else 4000 < value.length

def streamArtifactExtension (keyPath value : List Char) : List Char :=
  let key := lowered keyPath
  let stripped := value.dropWhile isSpace
  if mentions key "python" || mentions key "api_code" ||
      ["def ", "class ", "from ", "import "].any (fun start => start.toList.isPrefixOf stripped) then
    ".py".toList
  else if mentions key "typescript" || "_ts".toList.isSuffixOf key || mentions key "tsx" then
    ".ts".toList
  else if mentions key "javascript" || "_js".toList.isSuffixOf key || mentions key "jsx" then
    ".js".toList
  else if mentions key "sql" || mentions key "migration" then ".sql".toList
  else ".txt".toList

inductive Streamed where
  | kept (value : Json)
  | artifact (path : Path) (replaced : String)
  | array (elements : List Streamed)
  | object (members : List (String × Streamed))

structure Server where
  baseRunsDir : Path
  isalnum : Char → Bool

/-- A payload passed to `_stream_dict`. -/
structure Payload where
  value : Json
  runId : String
  stepName : String
  direction : String
  tenantId : String

def asDict : Json → Json
  | .object members => .object members
  | .null => .object []
  | value => .object [("value", value)]

section

variable (server : Server) (payload : Payload)

def safeStreamArtifactSegment (value : List Char) : List Char :=
  let cleaned := strippedOf (fun char => char = '_') (value.map (sanitizeChar server.isalnum))
  if cleaned.take 80 = [] then "artifact".toList else cleaned.take 80

/-- `run_logger.for_tenant(tenant_id).runs_dir` and the segments under it. -/
def artifactRoot : Path :=
  (RunLogger.create server.isalnum server.baseRunsDir payload.tenantId.toList).runsDir
      server.isalnum ++
    ["_stream_artifacts".toList, safeStreamArtifactSegment server payload.runId.toList,
      safeStreamArtifactSegment server payload.stepName.toList,
      safeStreamArtifactSegment server payload.direction.toList]

/-- The file of a string, which stands in its directory whatever the key path is. -/
def artifactPath (keyPath value : List Char) : Path :=
  artifactRoot server payload ++
    [safeStreamArtifactSegment server keyPath ++ streamArtifactExtension keyPath value]

mutual

/-- `_materialize_stream_payload` -/
def materialize (keyPath : List Char) : Json → Streamed
  | .object members => .object (materializeMembers keyPath members)
  | .array elements => .array (materializeElements keyPath 0 elements)
  | .str text =>
      if looksLikeCodeArtifact keyPath text.toList then
        .artifact (artifactPath server payload keyPath text.toList) text
      else .kept (.str text)
  | value => .kept value

def materializeMembers (keyPath : List Char) : List (String × Json) → List (String × Streamed)
  | [] => []
  | (key, item) :: rest =>
      (key, materialize (keyPath ++ '.' :: key.toList) item) :: materializeMembers keyPath rest

def materializeElements (keyPath : List Char) : Nat → List Json → List Streamed
  | _, [] => []
  | index, item :: rest =>
      materialize (keyPath ++ '.' :: Nat.toDigits 10 index) item ::
        materializeElements keyPath (index + 1) rest

end

def Payload.streamed : Streamed := materialize server payload "value".toList (asDict payload.value)

end

/-- `str(path)` -/
def pathText (path : Path) : String := String.ofList (path.flatMap fun part => '/' :: part)

mutual

def Streamed.event : Streamed → Json
  | .kept value => value
  | .artifact path replaced => .object [("artifact_path", .str (pathText path)),
      ("bytes", .int replaced.utf8ByteSize), ("content_type", .str "text/plain")]
  | .array elements => .array (eventElements elements)
  | .object members => .object (eventMembers members)

def eventElements : List Streamed → List Json
  | [] => []
  | element :: rest => element.event :: eventElements rest

def eventMembers : List (String × Streamed) → List (String × Json)
  | [] => []
  | (key, member) :: rest => (key, member.event) :: eventMembers rest

end

mutual

/-- The references, each with the string it replaced, in the order of the writes. -/
def Streamed.references : Streamed → List (Path × String)
  | .kept _ => []
  | .artifact path replaced => [(path, replaced)]
  | .array elements => referencesElements elements
  | .object members => referencesMembers members

def referencesElements : List Streamed → List (Path × String)
  | [] => []
  | element :: rest => element.references ++ referencesElements rest

def referencesMembers : List (String × Streamed) → List (Path × String)
  | [] => []
  | (_, member) :: rest => member.references ++ referencesMembers rest

end

abbrev Contents := Path → Option String

def writeText (reference : Path × String) : Contents := fun path =>
  if reference.1 = path then some reference.2 else none

/-- `_stream_dict`: the event, and the files after it. -/
def streamDict (server : Server) (files : Contents) (payload : Payload) : Json × Contents :=
  let streamed := payload.streamed server
  (streamed.event, LastWriter.folded files (streamed.references.map writeText))

def filesAfter (server : Server) (files : Contents) (payloads : List Payload) : Contents :=
  payloads.foldl (fun files payload => (streamDict server files payload).2) files

/-! ### Undoing the replacements -/

section

variable (files : Contents)

mutual

def Streamed.undo : Streamed → Json
  | .kept value => value
  | .artifact path _ => .str ((files path).getD "")
  | .array elements => .array (undoElements elements)
  | .object members => .object (undoMembers members)

def undoElements : List Streamed → List Json
  | [] => []
  | element :: rest => element.undo :: undoElements rest

def undoMembers : List (String × Streamed) → List (String × Json)
  | [] => []
  | (key, member) :: rest => (key, member.undo) :: undoMembers rest

end

def Holds (references : List (Path × String)) : Prop :=
  ∀ reference ∈ references, files reference.1 = some reference.2

variable {files}

theorem holds_append {first second : List (Path × String)} :
    Holds files (first ++ second) ↔ Holds files first ∧ Holds files second :=
  forall_mem_append

variable (server : Server) (payload : Payload)

mutual

theorem undo_materialize (keyPath : List Char) (value : Json)
    (holds : Holds files (materialize server payload keyPath value).references) :
    (materialize server payload keyPath value).undo files = value := by
  cases value with
  | object members => exact congrArg Json.object (undo_materializeMembers keyPath members holds)
  | array elements => exact congrArg Json.array (undo_materializeElements keyPath 0 elements holds)
  | str text =>
      unfold materialize at holds ⊢
      split at holds
      · rename_i code
        rw [if_pos code]
        have content := holds _ mem_cons_self
        dsimp only at content
        rw [Streamed.undo, content]
        rfl
      · rename_i plain
        rw [if_neg plain]
        rfl
  | null => rfl
  | bool value => rfl
  | int value => rfl
  | float value => rfl

theorem undo_materializeMembers (keyPath : List Char) (members : List (String × Json))
    (holds : Holds files (referencesMembers (materializeMembers server payload keyPath members))) :
    undoMembers files (materializeMembers server payload keyPath members) = members := by
  match members with
  | [] => rfl
  | (key, item) :: rest =>
      obtain ⟨first, later⟩ := holds_append.mp holds
      rw [materializeMembers, undoMembers, undo_materialize _ item first,
        undo_materializeMembers keyPath rest later]

theorem undo_materializeElements (keyPath : List Char) (index : Nat) (elements : List Json)
    (holds : Holds files
      (referencesElements (materializeElements server payload keyPath index elements))) :
    undoElements files (materializeElements server payload keyPath index elements) = elements := by
  match elements with
  | [] => rfl
  | item :: rest =>
      obtain ⟨first, later⟩ := holds_append.mp holds
      rw [materializeElements, undoElements, undo_materialize _ item first,
        undo_materializeElements keyPath (index + 1) rest later]

end

end

/-! ### Sequences of payloads -/

section

variable (server : Server) (files : Contents)

def allReferences (payloads : List Payload) : List (Path × String) :=
  payloads.flatMap fun payload => (payload.streamed server).references

theorem filesAfter_eq (payloads : List Payload) : filesAfter server files payloads =
    LastWriter.folded files ((allReferences server payloads).map writeText) := by
  induction payloads generalizing files with
  | nil => rfl
  | cons payload rest ih =>
      have listed : allReferences server (payload :: rest) =
          (payload.streamed server).references ++ allReferences server rest := flatMap_cons
      change filesAfter server (streamDict server files payload).2 rest = _
      rw [ih, listed, map_append]
      exact foldl_append.symm

/-- What the events of the payloads refer to is there and is what was replaced, after each of
them and all that follow. -/
def LosesNothing (payloads : List Payload) : Prop :=
  ∀ earlier later, payloads = earlier ++ later → ∀ payload ∈ earlier,
    Holds (filesAfter server files earlier) (payload.streamed server).references ∧
      (payload.streamed server).undo (filesAfter server files earlier) = asDict payload.value

def Separate (payloads : List Payload) : Prop :=
  ∀ first ∈ allReferences server payloads, ∀ second ∈ allReferences server payloads,
    first.1 = second.1 → first.2 = second.2

variable {server} {payloads : List Payload}

theorem holds_of_separate (separate : Separate server payloads) :
    Holds (filesAfter server files payloads) (allReferences server payloads) := by
  intro reference listed
  rw [filesAfter_eq]
  apply LastWriter.folded_of_agree
  · exact ⟨writeText reference, mem_map_of_mem listed, if_pos rfl⟩
  · intro write written other given
    obtain ⟨source, there, rfl⟩ := mem_map.mp written
    unfold writeText at given
    split at given
    · rename_i same
      exact (Option.some.inj given).symm.trans (separate source there reference listed same)
    · cases given

theorem Separate.earlier {earlier later : List Payload}
    (separate : Separate server (earlier ++ later)) : Separate server earlier := by
  intro first firstListed second secondListed
  have inside : ∀ reference ∈ allReferences server earlier,
      reference ∈ allReferences server (earlier ++ later) := by
    intro reference listed
    rw [allReferences, flatMap_append]
    exact mem_append_left _ listed
  exact separate first (inside first firstListed) second (inside second secondListed)

theorem losesNothing_of_separate (separate : Separate server payloads) :
    LosesNothing server files payloads := by
  intro earlier later split payload listed
  rw [split] at separate
  have all := holds_of_separate files separate.earlier
  have holds : Holds (filesAfter server files earlier) (payload.streamed server).references :=
    fun reference member => all reference (mem_flatMap.mpr ⟨payload, listed, member⟩)
  exact ⟨holds, undo_materialize server payload _ _ holds⟩

theorem separate_of_losesNothing (lossless : LosesNothing server files payloads) :
    Separate server payloads := by
  intro first firstListed second secondListed same
  obtain ⟨payload, here, member⟩ := mem_flatMap.mp firstListed
  obtain ⟨other, there, otherMember⟩ := mem_flatMap.mp secondListed
  have whole := lossless payloads [] (append_nil payloads).symm
  have firstHeld := (whole payload here).1 first member
  have secondHeld := (whole other there).1 second otherMember
  rw [same] at firstHeld
  exact Option.some.inj (firstHeld.symm.trans secondHeld)

end

theorem stream_lossless_iff (server : Server) (files : Contents) (payloads : List Payload) :
    LosesNothing server files payloads ↔ Separate server payloads := by
  constructor
  · exact separate_of_losesNothing files
  · exact losesNothing_of_separate files

def roundOf (code : String) : Payload where
  value := .object [("code", .str code)]
  runId := "run-1"
  stepName := "fix"
  direction := "output"
  tenantId := "default"

/-- The second round of a step writes to the file that the first one's event refers to. -/
theorem later_round_overwrites :
    ¬ LosesNothing ⟨["runs".toList], Char.isAlphanum⟩ (fun _ => none)
      [roundOf "x = 1\n", roundOf "x = 2\n"] := by
  intro lossless
  have separate := separate_of_losesNothing _ lossless
  have same := separate _ mem_cons_self _ (mem_cons_of_mem _ mem_cons_self) (by rfl)
  have differ : "x = 1\n" ≠ "x = 2\n" := by decide
  exact differ same

end StreamArtifacts

end AgenticRuntime
