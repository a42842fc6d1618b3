/-
Reworked code artifacts laid over the originals, slot by slot and file by file.
-/

import AgenticRuntime.ArtifactNormalization
import AgenticRuntime.Engine.PlainPath
import AgenticRuntime.LastWriter

namespace AgenticRuntime.ArtifactOverlay

open Python CodeArtifacts List LastWriter

def sources? : List (String × Data) → Option (List (String × String))
  | [] => some []
  | (path, .str source) :: rest => (sources? rest).map fun others => (path, source) :: others
  | _ :: _ => none

def asFileMap : Data → Option (Dict String)
  | .dict entries => if entries.isEmpty then none else (sources? entries).map Dict.ofItems
  | .str text =>
      let files := extractFilesFromArtifact (strip text)
      if files.items.isEmpty then none else some files
  | _ => none

def fileMap (files : Dict String) : Data := .dict (fileEntries files)

/-- `mapping.get(slot)` -/
def held (artifacts : Dict Data) (slot : String) : Data := (artifacts.get? slot).getD .null

/-- `dict.fromkeys([*base, *override])` -/
def slots (base override : Dict Data) : List String := (base.keys ++ override.keys).eraseDups

section

variable (scanner : Scanner)

/-- `overlay_code_artifact`; an override that is absent is null, which is not valid. -/
def overlayCodeArtifact (base override : Data) : Data × Bool :=
  let overrideFiles :=
    if (validateCodeArtifact scanner "override" override).isEmpty then asFileMap override else none
  match overrideFiles with
  | none => (base, false)
  | some overrideFiles =>
      match asFileMap base with
      | none => (fileMap overrideFiles, true)
      | some baseFiles => (fileMap (baseFiles.update overrideFiles.items), true)

def overlaySlot (base override : Dict Data) (outcome : Dict Data × List String) (slot : String) :
    Dict Data × List String :=
  let (artifact, applied) := overlayCodeArtifact scanner (held base slot) (held override slot)
  (outcome.1.insert slot artifact, if applied then outcome.2 ++ [slot] else outcome.2)

def overlayCodeArtifacts (base override : Dict Data) : Dict Data × List String :=
  (slots base override).foldl (overlaySlot scanner base override) (.empty, [])

/-! ### The files of an artifact -/

def blockFiles (text : String) : Dict String :=
  matchedFiles (fileBlock.finditer (strip text).toList).1

/-- The files an artifact stands for; what is not a map of files and has no block has none. -/
def artifactFiles : Data → Dict String
  | .dict entries => ((sources? entries).map Dict.ofItems).getD .empty
  | .str text => blockFiles text
  | _ => .empty

def Within : Data → Prop
  | .str text => (strip text).length ≤ maxArtifactLength
  | _ => True

theorem sources?_fileEntries (pairs : List (String × String)) :
    sources? (pairs.map fun file => (file.1, Data.str file.2)) = some pairs := by
  induction pairs with
  | nil => rfl
  | cons file rest ih =>
      rw [map_cons, sources?, ih]
      rfl

variable {text : String}

theorem extractFiles_within (within : Within (.str text)) :
    extractFilesFromArtifact (strip text) = blockFiles text := by
  have whole : (strip text).toList.take maxArtifactLength = (strip text).toList :=
    take_of_length_le within
  rw [extractFilesFromArtifact, whole]
  rfl

theorem get?_eq_none_of_isEmpty {files : Dict String} (empty : files.items.isEmpty = true)
    (path : String) : files.get? path = none := by
  rw [Dict.get?, List.isEmpty_iff.mp empty]
  rfl

theorem asFileMap_files {artifact : Data} (within : Within artifact) (path : String) :
    ((asFileMap artifact).getD .empty).get? path = (artifactFiles artifact).get? path := by
  cases artifact with
  | dict entries =>
      cases entries with
      | nil => rfl
      | cons entry rest => rfl
  | str text =>
      unfold asFileMap artifactFiles
      dsimp only
      rw [extractFiles_within within]
      split
      · rename_i empty
        rw [get?_eq_none_of_isEmpty empty]
        rfl
      · rfl
  | _ => rfl

theorem artifactFiles_fileMap (files : Dict String) : artifactFiles (fileMap files) = files := by
  unfold fileMap fileEntries artifactFiles
  dsimp only
  rw [sources?_fileEntries]
  exact Dict.ofItems_items files

/-! ### Valid overrides -/

theorem source_of_entryDiagnostics {fieldName pathValue : String} {source : Data}
    (settled : entryDiagnostics scanner fieldName pathValue source = []) :
    ∃ text, source = .str text := by
  unfold entryDiagnostics at settled
  split at settled
  · cases settled
  · have later := (append_eq_nil_iff.mp settled).2
    cases source with
    | str text => exact ⟨text, rfl⟩
    | _ => cases later

theorem sources?_isSome {entries : List (String × Data)}
    (texts : ∀ entry ∈ entries, ∃ text, entry.2 = .str text) :
    ∃ pairs, sources? entries = some pairs := by
  induction entries with
  | nil => exact ⟨[], rfl⟩
  | cons entry rest ih =>
      obtain ⟨path, source⟩ := entry
      obtain ⟨text, same⟩ := texts (path, source) mem_cons_self
      obtain ⟨pairs, others⟩ := ih fun other listed => texts other (mem_cons_of_mem _ listed)
      dsimp only at same
      subst same
      exact ⟨(path, text) :: pairs, by rw [sources?, others]; rfl⟩

theorem mappingDiagnostics_files {fieldName : String} {entries : List (String × Data)}
    (settled : mappingDiagnostics scanner fieldName entries = []) :
    entries ≠ [] ∧ ∃ pairs, sources? entries = some pairs := by
  unfold mappingDiagnostics at settled
  split at settled
  · cases settled
  · rename_i filled
    refine ⟨fun empty => filled (by rw [empty]; rfl), sources?_isSome ?_⟩
    intro entry listed
    have each := flatMap_eq_nil_iff.mp (append_eq_nil_iff.mp settled).1 entry listed
    exact source_of_entryDiagnostics scanner each

theorem valid_text (valid : Valid scanner (.str text)) :
    Within (.str text) ∧ ∃ files, parseCompleteFilePayload (strip text) = some files ∧
      mappingDiagnostics scanner "" (fileEntries files) = [] := by
  unfold Valid validateCodeArtifact at valid
  dsimp only at valid
  split at valid
  · cases valid
  · split at valid
    · cases valid
    · rename_i short
      split at valid
      · rename_i files complete
        exact ⟨Nat.le_of_not_lt short, files, complete, valid⟩
      · split at valid
        · cases valid
        · cases valid

theorem parseComplete_files {files : Dict String}
    (complete : parseCompleteFilePayload (strip text) = some files) : files = blockFiles text := by
  unfold parseCompleteFilePayload at complete
  dsimp only at complete
  split at complete
  · cases complete
  · split at complete
    · exact (Option.some.inj complete).symm
    · cases complete

theorem valid_files {artifact : Data} (valid : Valid scanner artifact) :
    Within artifact ∧ ∃ files, asFileMap artifact = some files := by
  cases artifact with
  | dict entries =>
      obtain ⟨filled, pairs, read⟩ := mappingDiagnostics_files scanner valid
      refine ⟨trivial, .ofItems pairs, ?_⟩
      unfold asFileMap
      dsimp only
      rw [if_neg fun empty => filled (List.isEmpty_iff.mp empty), read]
      rfl
  | str text =>
      obtain ⟨within, files, complete, settled⟩ := valid_text scanner valid
      have filled : files.items ≠ [] := by
        intro empty
        apply (mappingDiagnostics_files scanner settled).1
        rw [fileEntries, empty]
        rfl
      refine ⟨within, files, ?_⟩
      unfold asFileMap
      dsimp only
      rw [extractFiles_within within, ← parseComplete_files complete,
        if_neg fun empty => filled (List.isEmpty_iff.mp empty)]
  | _ => cases valid

theorem overlay_invalid {base override : Data} (invalid : ¬ Valid scanner override) :
    overlayCodeArtifact scanner base override = (base, false) := by
  have found : (validateCodeArtifact scanner "override" override).isEmpty = false := by
    rw [Bool.eq_false_iff, ne_eq, List.isEmpty_iff, validateCodeArtifact_eq_nil_iff]
    exact invalid
  unfold overlayCodeArtifact
  rw [found]
  rfl

theorem overlay_taken {override : Data} (valid : Valid scanner override) {files : Dict String}
    (taken : asFileMap override = some files) (base : Data) :
    overlayCodeArtifact scanner base override =
      (fileMap (((asFileMap base).getD .empty).update files.items), true) := by
  have found : (validateCodeArtifact scanner "override" override).isEmpty = true :=
    List.isEmpty_iff.mpr ((validateCodeArtifact_eq_nil_iff scanner _ _).mpr valid)
  unfold overlayCodeArtifact
  rw [found, if_pos rfl, taken]
  dsimp only
  cases asFileMap base with
  | none => exact congrArg (fun files => (fileMap files, true)) (Dict.ofItems_items files).symm
  | some baseFiles => rfl

theorem overlay_valid {base override : Data} (valid : Valid scanner override)
    (within : Within base) :
    ∃ files, overlayCodeArtifact scanner base override = (fileMap files, true) ∧ ∀ path,
      files.get? path =
        ((artifactFiles override).get? path).or ((artifactFiles base).get? path) := by
  obtain ⟨whole, overrideFiles, taken⟩ := valid_files scanner valid
  refine ⟨_, overlay_taken scanner valid taken base, fun path => ?_⟩
  have own := asFileMap_files whole path
  rw [taken, Option.getD_some] at own
  rw [Dict.get?_update, own, asFileMap_files within]

theorem overlay_applied (base override : Data) :
    (overlayCodeArtifact scanner base override).2 = decide (Valid scanner override) := by
  by_cases valid : Valid scanner override
  · obtain ⟨-, files, taken⟩ := valid_files scanner valid
    rw [overlay_taken scanner valid taken, decide_eq_true valid]
  · rw [overlay_invalid scanner valid, decide_eq_false valid]

/-! ### A text and its map -/

theorem asFileMap_fileMap (files : Dict String) :
    asFileMap (fileMap files) = if files.items.isEmpty then none else some files := by
  unfold asFileMap fileMap
  dsimp only
  rw [fileEntries, sources?_fileEntries, isEmpty_map]
  split
  · rfl
  · exact congrArg some (Dict.ofItems_items files)

theorem asFileMap_text (within : Within (.str text)) :
    asFileMap (.str text) = asFileMap (fileMap (blockFiles text)) := by
  rw [asFileMap_fileMap]
  unfold asFileMap
  dsimp only
  rw [extractFiles_within within]

theorem overlay_text_override (valid : Valid scanner (.str text)) (base : Data) :
    overlayCodeArtifact scanner base (.str text) =
      overlayCodeArtifact scanner base (fileMap (blockFiles text)) := by
  obtain ⟨within, files, complete, settled⟩ := valid_text scanner valid
  have asMap : Valid scanner (fileMap (blockFiles text)) := parseComplete_files complete ▸ settled
  obtain ⟨-, taken, read⟩ := valid_files scanner valid
  have also : asFileMap (fileMap (blockFiles text)) = some taken := asFileMap_text within ▸ read
  rw [overlay_taken scanner valid read, overlay_taken scanner asMap also]

theorem overlay_text_base (within : Within (.str text)) (override : Data) :
    artifactFiles (overlayCodeArtifact scanner (.str text) override).1 =
        artifactFiles (overlayCodeArtifact scanner (fileMap (blockFiles text)) override).1 ∧
      (overlayCodeArtifact scanner (.str text) override).2 =
        (overlayCodeArtifact scanner (fileMap (blockFiles text)) override).2 := by
  by_cases valid : Valid scanner override
  · obtain ⟨-, files, taken⟩ := valid_files scanner valid
    rw [overlay_taken scanner valid taken, overlay_taken scanner valid taken, asFileMap_text within]
    exact ⟨rfl, rfl⟩
  · rw [overlay_invalid scanner valid, overlay_invalid scanner valid]
    exact ⟨(artifactFiles_fileMap (blockFiles text)).symm, rfl⟩

/-! ### Slots -/

variable (base override : Dict Data)

theorem foldl_overlaySlot (part : List String) (merged : Dict Data) (overridden : List String) :
    (∀ slot, ((part.foldl (overlaySlot scanner base override) (merged, overridden)).1.get? slot) =
      if slot ∈ part then
        some (overlayCodeArtifact scanner (held base slot) (held override slot)).1
      else merged.get? slot) ∧
    (part.foldl (overlaySlot scanner base override) (merged, overridden)).2 =
      overridden ++ part.filter fun slot => Valid scanner (held override slot) := by
  induction part generalizing merged overridden with
  | nil => exact ⟨fun slot => rfl, (append_nil overridden).symm⟩
  | cons first rest ih =>
      have applied := overlay_applied scanner (held base first) (held override first)
      obtain ⟨values, names⟩ := ih
        (merged.insert first (overlayCodeArtifact scanner (held base first) (held override first)).1)
        (if (overlayCodeArtifact scanner (held base first) (held override first)).2 then
          overridden ++ [first] else overridden)
      constructor
      · intro slot
        rw [foldl_cons]
        refine (values slot).trans ?_
        by_cases later : slot ∈ rest
        · rw [if_pos later, if_pos (mem_cons_of_mem first later)]
        · rw [if_neg later, Dict.get?_insert]
          by_cases same : first = slot
          · subst same
            rw [if_pos rfl, if_pos mem_cons_self]
          · rw [if_neg same, if_neg]
            exact List.mem_cons.not.mpr (not_or.mpr ⟨fun equal => same equal.symm, later⟩)
      · rw [foldl_cons]
        refine names.trans ?_
        rw [applied]
        by_cases valid : Valid scanner (held override first)
        · have kept : (first :: rest).filter (fun slot => Valid scanner (held override slot)) =
              first :: rest.filter fun slot => Valid scanner (held override slot) :=
            filter_cons_of_pos (decide_eq_true valid)
          rw [decide_eq_true valid, if_pos rfl, kept, append_assoc]
          rfl
        · have dropped : (first :: rest).filter (fun slot => Valid scanner (held override slot)) =
              rest.filter fun slot => Valid scanner (held override slot) :=
            filter_cons_of_neg fun kept => valid (of_decide_eq_true kept)
          rw [decide_eq_false valid, if_neg Bool.false_ne_true, dropped]

theorem overlayCodeArtifacts_get? (slot : String) :
    (overlayCodeArtifacts scanner base override).1.get? slot =
      if slot ∈ slots base override then
        some (overlayCodeArtifact scanner (held base slot) (held override slot)).1
      else none :=
  (foldl_overlaySlot scanner base override (slots base override) .empty []).1 slot

/-- The slots are those of both sides.  A valid override brings its files, over those of its base
and no others, and is reported; any other leaves its slot to the base.  A text does what the map of
its files does. -/
theorem overlayCodeArtifacts_files (scanner : Scanner) (base override : Dict Data)
    (within : ∀ slot, Within (held base slot)) :
    (∀ slot, ((overlayCodeArtifacts scanner base override).1.get? slot).isSome ↔
      slot ∈ base.keys ∨ slot ∈ override.keys) ∧
    (overlayCodeArtifacts scanner base override).2 =
      (slots base override).filter (fun slot => Valid scanner (held override slot)) ∧
    (∀ slot artifact, (overlayCodeArtifacts scanner base override).1.get? slot = some artifact →
      (Valid scanner (held override slot) → (∃ files, artifact = fileMap files) ∧
        ∀ path, (artifactFiles artifact).get? path =
          ((artifactFiles (held override slot)).get? path).or
            ((artifactFiles (held base slot)).get? path)) ∧
      (¬ Valid scanner (held override slot) → artifact = held base slot)) ∧
    (∀ text other, Valid scanner (.str text) →
      overlayCodeArtifact scanner other (.str text) =
        overlayCodeArtifact scanner other (fileMap (blockFiles text))) ∧
    ∀ text other, Within (.str text) →
      artifactFiles (overlayCodeArtifact scanner (.str text) other).1 =
          artifactFiles (overlayCodeArtifact scanner (fileMap (blockFiles text)) other).1 ∧
        (overlayCodeArtifact scanner (.str text) other).2 =
          (overlayCodeArtifact scanner (fileMap (blockFiles text)) other).2 := by
  refine ⟨?_, ?_, ?_, fun text other valid => overlay_text_override scanner valid other,
    fun text other short => overlay_text_base scanner short other⟩
  · intro slot
    have either : slot ∈ slots base override ↔ slot ∈ base.keys ∨ slot ∈ override.keys := by
      rw [slots, mem_eraseDups, mem_append]
    rw [overlayCodeArtifacts_get?, ← either]
    split
    · rename_i listed
      exact iff_of_true rfl listed
    · rename_i apart
      exact iff_of_false Bool.false_ne_true apart
  · have names := (foldl_overlaySlot scanner base override (slots base override) .empty []).2
    rwa [nil_append] at names
  · intro slot artifact there
    rw [overlayCodeArtifacts_get?] at there
    split at there
    · cases there
      constructor
      · intro valid
        obtain ⟨files, laid, read⟩ := overlay_valid scanner valid (within slot)
        rw [laid]
        refine ⟨⟨files, rfl⟩, fun path => ?_⟩
        rw [artifactFiles_fileMap]
        exact read path
      · intro invalid
        rw [overlay_invalid scanner invalid]
    · cases there

end

def originalSlots : Dict Data :=
  .ofItems [("frontend", .dict [("a.js", .str "one"), ("b.js", .str "two")])]

def reworkedSlots : Dict Data := .ofItems [("frontend", .dict [("b.js", .str "three")])]

theorem reworked_reported :
    (overlayCodeArtifacts asciiScanner originalSlots reworkedSlots).2 =
      (slots originalSlots reworkedSlots).filter
        (fun slot => Valid asciiScanner (held reworkedSlots slot)) := by
  have within : ∀ slot, Within (held originalSlots slot) := by
    intro slot
    unfold held
    cases there : originalSlots.get? slot with
    | none => trivial
    | some value =>
        have listed : (slot, value) ∈ originalSlots.items := Items.mem_of_get? there
        rw [(Prod.mk.inj (mem_singleton.mp listed)).2]
        trivial
  exact (overlayCodeArtifacts_files asciiScanner originalSlots reworkedSlots within).2.1

/-! ### Files that are lost -/

theorem text_too_long (scanner : Scanner) {chars : List Char} {first last : Char}
    (head : chars.head? = some first) (tail : chars.getLast? = some last)
    (solid : isSpace first = false) (closed : isSpace last = false)
    (long : maxArtifactLength < chars.length) :
    ¬ Valid scanner (.str (String.ofList chars)) := by
  have stripped : strip (String.ofList chars) = String.ofList chars :=
    strip_of_ends (by rwa [String.toList_ofList]) (by rwa [String.toList_ofList]) solid closed
  have filled : String.ofList chars ≠ "" := by
    intro empty
    have none_ := congrArg String.toList empty
    rw [String.toList_ofList] at none_
    rw [none_] at head
    cases head
  intro valid
  unfold Valid validateCodeArtifact at valid
  dsimp only at valid
  rw [stripped, if_neg filled, String.length_ofList, if_pos long] at valid
  cases valid

def longSource (length : Nat) : String := String.ofList (List.replicate length 'x' ++ ['\n'])

def openingLine : List Char := "FILE: a.py\n".toList

def closingLine : List Char := "ENDFILE".toList

def longText (length : Nat) : String :=
  String.ofList (openingLine ++ (List.replicate length 'x' ++ ['\n']) ++ closingLine)

theorem longText_invalid (scanner : Scanner) {length : Nat}
    (long : maxArtifactLength < length + 19) : ¬ Valid scanner (.str (longText length)) := by
  have head : openingLine.head? = some 'F' := rfl
  have tail : closingLine.getLast? = some 'E' := rfl
  have sizes : openingLine.length = 11 ∧ closingLine.length = 7 := ⟨rfl, rfl⟩
  apply text_too_long scanner
  · rw [append_assoc, List.head?_append, head, Option.some_or]
  · rw [List.getLast?_append, tail, Option.some_or]
  · decide
  · decide
  · rw [length_append, length_append, length_append, length_replicate, length_singleton]
    omega

theorem longSource_valid {length : Nat} (long : placeholderScanMaxChars ≤ length)
    (short : length + 5 ≤ maxArtifactLength) :
    Valid asciiScanner (.dict [("a.py", .str (longSource length))]) := by
  have size : (longSource length).length = length + 1 := by
    rw [longSource, String.length_ofList, length_append, length_replicate]
    rfl
  have blank : isBlank (longSource length) = false := by
    obtain ⟨fewer, rfl⟩ : ∃ fewer, length = fewer + 1 :=
      Nat.exists_eq_add_one_of_ne_zero (by unfold placeholderScanMaxChars at long; omega)
    rw [isBlank, longSource, String.toList_ofList, replicate_succ]
    rfl
  have safe : ArtifactPaths.safeRelativePath "a.py" = true := by decide
  have key : asciiScanner.casefold "a.py" ∉ placeholderKeys := by decide
  have entry : entryDiagnostics asciiScanner "" "a.py" (.str (longSource length)) = [] := by
    unfold entryDiagnostics
    rw [safe, if_neg (by decide), if_neg key]
    dsimp only
    rw [blank, if_neg Bool.false_ne_true, if_neg]
    · rfl
    · intro scanned
      rw [size] at scanned
      omega
  have total : entrySize "a.py" (.str (longSource length)) = 4 + (length + 1) := by
    unfold entrySize
    rw [safe, if_neg (by decide)]
    dsimp only
    rw [size]
    rfl
  have small : ¬ maxArtifactLength < 4 + (length + 1) := by omega
  have settled : mappingDiagnostics asciiScanner "" [("a.py", .str (longSource length))] = [] := by
    unfold mappingDiagnostics
    rw [flatMap_singleton, entry, map_singleton, total, sum_singleton, if_neg small]
    rfl
  exact settled

/-- The files of a base that is not a map of texts are not kept; and a map of files may be
accepted while the text of the same files is too long. -/
theorem untyped_base_dropped :
    (overlayCodeArtifact asciiScanner (.dict [("a.py", .str "one"), ("n.py", .int 3)])
        (.dict [("b.py", .str "two")])).1 = fileMap (.ofItems [("b.py", "two")]) ∧
      (overlayCodeArtifact asciiScanner .null
        (.dict [("a.py", .str (longSource 262130))])).2 = true ∧
      (overlayCodeArtifact asciiScanner .null (.str (longText 262130))).2 = false := by
  refine ⟨rfl, ?_, ?_⟩
  · rw [overlay_applied]
    exact decide_eq_true (longSource_valid (by decide) (by decide))
  · rw [overlay_applied]
    exact decide_eq_false (longText_invalid asciiScanner (by decide))

/-! ### Rounds of rework -/

section

variable (scanner : Scanner)

/-- The source of a path as an overlay reads the artifact. -/
def sourceOf (artifact : Data) (path : String) : Option String :=
  ((asFileMap artifact).getD .empty).get? path

/-- What a round writes to the files of a slot. -/
def written (slot : String) (round : Dict Data) (path : String) : Option String :=
  if Valid scanner (held round slot) then sourceOf (held round slot) path else none

theorem sourceOf_fileMap (files : Dict String) (path : String) :
    sourceOf (fileMap files) path = files.get? path := by
  rw [sourceOf, asFileMap_fileMap]
  split
  · rename_i empty
    rw [get?_eq_none_of_isEmpty empty]
    rfl
  · rfl

theorem held_overlay (base override : Dict Data) (slot : String) :
    held (overlayCodeArtifacts scanner base override).1 slot =
      (overlayCodeArtifact scanner (held base slot) (held override slot)).1 := by
  rw [held, overlayCodeArtifacts_get?]
  split
  · rfl
  · rename_i apart
    rw [slots, mem_eraseDups, mem_append, not_or] at apart
    have absent (artifacts : Dict Data) (missing : slot ∉ artifacts.keys) :
        held artifacts slot = .null := by
      rw [held, Dict.get?, Items.get?_eq_none_iff.mpr missing]
      rfl
    have invalid : ¬ Valid scanner .null := fun valid => by cases valid
    rw [absent base apart.1, absent override apart.2, overlay_invalid scanner invalid]
    rfl

theorem sourceOf_overlay (base override : Dict Data) (slot : String) :
    sourceOf (held (overlayCodeArtifacts scanner base override).1 slot) =
      overwrite (sourceOf (held base slot)) (written scanner slot override) := by
  funext path
  rw [held_overlay, overwrite, written]
  by_cases valid : Valid scanner (held override slot)
  · obtain ⟨-, files, taken⟩ := valid_files scanner valid
    rw [overlay_taken scanner valid taken, sourceOf_fileMap, Dict.get?_update, if_pos valid]
    rw [sourceOf, taken]
    rfl
  · rw [overlay_invalid scanner valid, if_neg valid]
    rfl

end

end AgenticRuntime.ArtifactOverlay
