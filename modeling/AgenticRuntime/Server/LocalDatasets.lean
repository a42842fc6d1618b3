/-
The samples of a local dataset, one at a time and by pages.

The file is read to the same payload by both loaders; `resolveGolden` is what both make of the
golden reference of a sample of that file, with the error if there is one.
-/

import AgenticRuntime.Langchain.Config

namespace AgenticRuntime.LocalDatasets

open Python List

def listKeys : List String := ["tasks", "samples", "items"]

/-- The first list under one of the keys. -/
def firstList? (data : Mapping) : List String → Option (List PyValue)
  | [] => none
  | key :: rest =>
      match field data key with
      | .list entries => some entries
      | _ => firstList? data rest

/-- The first list under one of the keys that has entries. -/
def firstFilled? (data : Mapping) : List String → Option (List PyValue)
  | [] => none
  | key :: rest =>
      match field data key with
      | .list (entry :: more) => some (entry :: more)
      | _ => firstFilled? data rest

def estimateSampleCount : PyValue → Option Nat
  | .list entries => some entries.length
  | .dict data => some (((firstList? data listKeys).map List.length).getD 1)
  | _ => none

/-- An entry that is no object is wrapped. -/
def asSample : PyValue → Mapping
  | .dict sample => sample
  | entry => [(.str "value", entry)]

/-- `Dataset has no samples`, or `Unsupported dataset format; expected JSON object or array` -/
inductive DatasetError where
  | noSamples
  | unsupported

structure Meta where
  datasetId : String
  datasetPath : String
  sampleIndex : Int
  taskId : String
  sampleCount : Option Nat
  goldenOutputError : Option String

variable (builtins : Builtins)

/-- `str(sample.get("task_id") or sample.get("id") or fallback)` -/
def taskId (sample : Mapping) (fallback : String) : String :=
  if (field sample "task_id").truthy then builtins.str (field sample "task_id")
  else if (field sample "id").truthy then builtins.str (field sample "id")
  else fallback

/-- `_sample_from_list`, with the index held between the ends. -/
def sampleFromList (entries : List PyValue) (sampleIndex : Int) :
    Mapping × String :=
  let idx := (min (max sampleIndex 0) (entries.length - 1)).toNat
  match entries.getD idx .none with
  | .dict sample => (sample, taskId builtins sample (toString idx))
  | entry => (asSample entry, toString idx)

def extractSample (payload : PyValue) (sampleIndex : Int) :
    Except DatasetError (Mapping × String) :=
  match payload with
  | .list [] => .error .noSamples
  | .list entries => .ok (sampleFromList builtins entries sampleIndex)
  | .dict data =>
      match firstFilled? data listKeys with
      | some entries => .ok (sampleFromList builtins entries sampleIndex)
      | none => .ok (data, taskId builtins data "0")
  | _ => .error .unsupported

def extractAllSamples (payload : PyValue) : Except DatasetError (List Mapping) :=
  match payload with
  | .list entries => .ok (entries.map asSample)
  | .dict data =>
      match firstList? data listKeys with
      | some entries => .ok (entries.map asSample)
      | none => .ok [data]
  | _ => .error .unsupported

/-- A dataset file with what is made of it. -/
structure LocalDataset where
  datasetRef : String
  relativePath : String
  payload : PyValue
  builtins : Builtins
  resolveGolden : Mapping → Mapping × Option String

namespace LocalDataset

variable (dataset : LocalDataset)

def attachGoldenOutput (sample : Mapping) (description : Meta) : Mapping × Meta :=
  match (dataset.resolveGolden sample).2 with
  | none => ((dataset.resolveGolden sample).1, description)
  | some error =>
      ((dataset.resolveGolden sample).1, { description with goldenOutputError := some error })

def loadLocalDatasetSample (sampleIndex : Int) : Except DatasetError (Mapping × Meta) :=
  (extractSample dataset.builtins dataset.payload sampleIndex).map fun found =>
    dataset.attachGoldenOutput found.1
      { datasetId := dataset.datasetRef, datasetPath := dataset.relativePath, sampleIndex
        taskId := found.2, sampleCount := estimateSampleCount dataset.payload
        goldenOutputError := none }

/-- One entry of a page of a list of `count` samples. -/
def listed (count absoluteIndex : Nat) (sample : Mapping) : Mapping × Meta :=
  dataset.attachGoldenOutput sample
    { datasetId := dataset.datasetRef, datasetPath := dataset.relativePath
      sampleIndex := absoluteIndex
      taskId := taskId dataset.builtins sample (toString absoluteIndex)
      sampleCount := some count, goldenOutputError := none }

def loadLocalDatasetSamples (offset limit : Int) : Except DatasetError (List (Mapping × Meta)) :=
  (extractAllSamples dataset.payload).map fun all =>
    let start := (max offset 0).toNat
    let stop := min (start + (max limit 0).toNat) all.length
    ((all.drop start).take (stop - start)).mapIdx fun index sample =>
      dataset.listed all.length (start + index) sample

/-! ### The three views -/

/-- Each entry of a page is what its index gives alone. -/
def PagesAgree : Prop :=
  ∀ offset limit page, dataset.loadLocalDatasetSamples offset limit = .ok page →
    ∀ item ∈ page, dataset.loadLocalDatasetSample item.2.sampleIndex = .ok item

/-- The pages of a limit, taken in order, give every index below the count, once. -/
def PagesCover : Prop :=
  ∀ limit pages count : Nat, estimateSampleCount dataset.payload = some count →
    count ≤ pages * limit → ∃ page : Nat → List (Mapping × Meta),
      (∀ number, dataset.loadLocalDatasetSamples (number * limit : Nat) limit = .ok (page number)) ∧
      ((List.range pages).flatMap page).map (fun item => item.2.sampleIndex) =
        (List.range count).map Int.ofNat

/-- A sample can be loaded unless there is none in the pages. -/
def LoadsFromPages : Prop :=
  ∀ sampleIndex, (∃ error, dataset.loadLocalDatasetSample sampleIndex = .error error) ↔
    ∀ offset limit page, dataset.loadLocalDatasetSamples offset limit = .ok page → page = []

end LocalDataset

/-- An object whose first list is empty. -/
def FirstListEmpty (payload : PyValue) : Prop :=
  ∃ data, payload = .dict data ∧ firstList? data listKeys = some []

/-! ### The lists -/

theorem firstFilled_of_list {data : Mapping} {keys : List String} {entry : PyValue}
    {more : List PyValue} (first : firstList? data keys = some (entry :: more)) :
    firstFilled? data keys = some (entry :: more) := by
  induction keys with
  | nil => cases first
  | cons key rest ih =>
      unfold firstList? at first
      unfold firstFilled?
      split at first
      · rename_i entries found
        cases first
        rw [found]
      · rename_i other
        split
        · rename_i front back found
          exact absurd found (other _)
        · exact ih first

theorem firstFilled_none {data : Mapping} {keys : List String}
    (first : firstList? data keys = none) : firstFilled? data keys = none := by
  induction keys with
  | nil => rfl
  | cons key rest ih =>
      unfold firstList? at first
      unfold firstFilled?
      split at first
      · cases first
      · rename_i other
        split
        · rename_i front back found
          exact absurd found (other _)
        · exact ih first

/-- What the paged loader sees, the count and the single loader agree on. -/
theorem views {payload : PyValue} {all : List Mapping} (filled : ¬ FirstListEmpty payload)
    (done : extractAllSamples payload = .ok all) :
    estimateSampleCount payload = some all.length ∧
      (∃ data, payload = .dict data ∧ all = [data] ∧ firstFilled? data listKeys = none) ∨
    estimateSampleCount payload = some all.length ∧
      ∃ entries, all = entries.map asSample ∧
        ∀ (builtins : Builtins) (sampleIndex : Int), extractSample builtins payload sampleIndex =
          if entries = [] then .error .noSamples
          else .ok (sampleFromList builtins entries sampleIndex) := by
  unfold extractAllSamples at done
  split at done
  · rename_i entries
    cases done
    right
    refine ⟨congrArg some (length_map asSample).symm, entries, rfl, fun builtins index => ?_⟩
    cases entries with
    | nil => rfl
    | cons entry more => rfl
  · rename_i data
    split at done
    · rename_i entries first
      cases done
      right
      refine ⟨?_, entries, rfl, fun builtins index => ?_⟩
      · unfold estimateSampleCount
        dsimp only
        rw [first]
        exact congrArg some (length_map asSample).symm
      · cases entries with
        | nil => exact absurd ⟨data, rfl, first⟩ filled
        | cons entry more =>
            unfold extractSample
            dsimp only
            rw [firstFilled_of_list first]
            rfl
    · rename_i first
      cases done
      left
      refine ⟨?_, data, rfl, rfl, firstFilled_none first⟩
      unfold estimateSampleCount
      dsimp only
      rw [first]
      rfl
  · cases done

theorem sampleFromList_getElem {entries : List PyValue} {index : Nat} {entry : PyValue}
    (there : entries[index]? = some entry) :
    sampleFromList builtins entries index =
      (asSample entry, taskId builtins (asSample entry) (toString index)) := by
  have inside := (List.getElem?_eq_some_iff.mp there).1
  have held : (min (max (index : Int) 0) (entries.length - 1)).toNat = index := by omega
  unfold sampleFromList
  rw [held]
  dsimp only
  rw [getD_eq_getElem?_getD, there]
  cases entry with
  | dict sample => rfl
  | _ => rfl

/-! ### Pages -/

namespace LocalDataset

variable {dataset : LocalDataset} {all : List Mapping}

theorem listed_sampleIndex (count absoluteIndex : Nat) (sample : Mapping) :
    (dataset.listed count absoluteIndex sample).2.sampleIndex = absoluteIndex := by
  unfold listed attachGoldenOutput
  split <;> rfl

/-- An entry of a page is the sample at its index. -/
theorem page_mem (done : extractAllSamples dataset.payload = .ok all) {offset limit : Int}
    {page : List (Mapping × Meta)} (loaded : dataset.loadLocalDatasetSamples offset limit = .ok page)
    {item : Mapping × Meta} (member : item ∈ page) :
    ∃ (index : Nat) (sample : Mapping), all[index]? = some sample ∧
      item = dataset.listed all.length index sample := by
  unfold loadLocalDatasetSamples at loaded
  rw [done] at loaded
  cases loaded
  obtain ⟨index, there⟩ := mem_iff_getElem?.mp member
  rw [List.getElem?_mapIdx] at there
  obtain ⟨sample, found, rfl⟩ := Option.map_eq_some_iff.mp there
  obtain ⟨inside, -⟩ := List.getElem?_eq_some_iff.mp found
  rw [List.getElem?_take_of_lt (lt_of_lt_of_le inside (length_take_le _ _)),
    List.getElem?_drop] at found
  exact ⟨_, sample, found, rfl⟩

theorem mapIdx_indexes (count start : Nat) (samples : List Mapping) :
    (samples.mapIdx fun index sample => dataset.listed count (start + index) sample).map
        (fun item => item.2.sampleIndex) =
      (List.range' start samples.length).map Int.ofNat := by
  apply ext_getElem
  · simp
  · intro index _ _
    simp [listed_sampleIndex]

theorem page_indexes (done : extractAllSamples dataset.payload = .ok all) (start limit : Nat) :
    ∃ page, dataset.loadLocalDatasetSamples start limit = .ok page ∧
      page.map (fun item => item.2.sampleIndex) =
        (List.range' start (min limit (all.length - start))).map Int.ofNat := by
  unfold loadLocalDatasetSamples
  rw [done]
  refine ⟨_, rfl, ?_⟩
  have from_start : (max (start : Int) 0).toNat = start := by omega
  have long : (max (limit : Int) 0).toNat = limit := by omega
  dsimp only
  rw [from_start, long, mapIdx_indexes, length_take, length_drop]
  congr 2
  omega

theorem pages_cover (limit count pages : Nat) :
    ((List.range pages).flatMap fun number =>
        List.range' (number * limit) (min limit (count - number * limit))) =
      List.range' 0 (min count (pages * limit)) := by
  induction pages with
  | zero =>
      rw [Nat.zero_mul, Nat.min_zero]
      rfl
  | succ pages ih =>
      rw [range_succ, flatMap_append, ih, flatMap_singleton]
      by_cases full : pages * limit ≤ count
      · rw [Nat.min_eq_right full]
        have joined := @List.range'_append_1 0 (pages * limit) (min limit (count - pages * limit))
        rw [Nat.zero_add] at joined
        rw [joined]
        congr 1
        rw [Nat.succ_mul]
        omega
      · have none : count - pages * limit = 0 := by omega
        have least : count ≤ pages * limit := by omega
        rw [none, Nat.min_zero, Nat.min_eq_left least, Nat.succ_mul, Nat.min_eq_left (by omega)]
        exact append_nil _

theorem pagesAgree (filled : ¬ FirstListEmpty dataset.payload) : dataset.PagesAgree := by
  intro offset limit page loaded item member
  cases done : extractAllSamples dataset.payload with
  | error error =>
      unfold loadLocalDatasetSamples at loaded
      rw [done] at loaded
      cases loaded
  | ok all =>
      obtain ⟨index, sample, there, rfl⟩ := page_mem done loaded member
      rw [listed_sampleIndex]
      unfold loadLocalDatasetSample listed
      rcases views filled done with ⟨counted, data, shape, rfl, none⟩ | ⟨counted, entries, rfl, same⟩
      · have first := (List.getElem?_eq_some_iff.mp there).1
        have zero : index = 0 := by
          rw [length_singleton] at first
          omega
        subst zero
        cases there
        rw [counted, shape]
        unfold extractSample
        dsimp only
        rw [none]
        rfl
      · rw [List.getElem?_map] at there
        obtain ⟨entry, found, rfl⟩ := Option.map_eq_some_iff.mp there
        have some : entries ≠ [] := ne_nil_of_mem (mem_of_getElem? found)
        rw [same, if_neg some, sampleFromList_getElem dataset.builtins found, counted]
        rfl

theorem extracted_of_count {payload : PyValue} {count : Nat}
    (counted : estimateSampleCount payload = some count) :
    ∃ all, extractAllSamples payload = .ok all ∧ all.length = count := by
  unfold estimateSampleCount at counted
  unfold extractAllSamples
  split at counted
  · cases counted
    exact ⟨_, rfl, length_map _⟩
  · rename_i data
    cases first : firstList? data listKeys with
    | none =>
        rw [first] at counted
        cases counted
        exact ⟨_, rfl, rfl⟩
    | some entries =>
        rw [first] at counted
        cases counted
        exact ⟨_, rfl, length_map _⟩
  · cases counted

theorem pagesCover : dataset.PagesCover := by
  intro limit pages count counted enough
  obtain ⟨all, done, rfl⟩ := extracted_of_count counted
  have found (number : Nat) := page_indexes done (number * limit) limit
  choose page loaded indexes using found
  refine ⟨page, loaded, ?_⟩
  rw [map_flatMap]
  simp only [indexes]
  rw [← map_flatMap, pages_cover, Nat.min_eq_left enough, range_eq_range']

theorem page_of_none {offset limit : Int} {page : List (Mapping × Meta)}
    (empty : extractAllSamples dataset.payload = .ok [])
    (loaded : dataset.loadLocalDatasetSamples offset limit = .ok page) : page = [] := by
  apply eq_nil_iff_forall_not_mem.mpr
  intro item member
  obtain ⟨_, _, there, _⟩ := page_mem empty loaded member
  cases there

/-- What can not be extracted for the pages is of no known format. -/
theorem extractSample_of_error {payload : PyValue} {error : DatasetError}
    (failed : extractAllSamples payload = .error error) (builtins : Builtins) (sampleIndex : Int) :
    extractSample builtins payload sampleIndex = .error .unsupported := by
  unfold extractAllSamples at failed
  split at failed
  · cases failed
  · split at failed <;> cases failed
  · rename_i no_list no_dict
    cases payload with
    | list entries => exact absurd rfl (no_list entries)
    | dict data => exact absurd rfl (no_dict data)
    | _ => rfl

theorem loadsFromPages_iff : dataset.LoadsFromPages ↔ ¬ FirstListEmpty dataset.payload := by
  constructor
  · rintro loads ⟨data, shape, first⟩
    have empty : extractAllSamples dataset.payload = .ok [] := by
      simp only [shape, extractAllSamples, first, map_nil]
    obtain ⟨error, failed⟩ := (loads 0).mpr fun _ _ _ loaded => page_of_none empty loaded
    -- an object is always a sample of its own, if it has no list
    unfold loadLocalDatasetSample at failed
    rw [shape] at failed
    unfold extractSample at failed
    dsimp only at failed
    cases filled : firstFilled? data listKeys with
    | none | some entries =>
        rw [filled] at failed
        cases failed
  · intro filled sampleIndex
    unfold loadLocalDatasetSample
    cases done : extractAllSamples dataset.payload with
    | error error =>
        rw [extractSample_of_error done]
        refine ⟨fun _ offset limit page loaded => ?_, fun _ => ⟨_, rfl⟩⟩
        unfold loadLocalDatasetSamples at loaded
        rw [done] at loaded
        cases loaded
    | ok all =>
        have paged := page_indexes done 0 all.length
        obtain ⟨page, loaded, indexes⟩ := paged
        have shown : page.length = all.length := by
          have long := congrArg List.length indexes
          rwa [length_map, length_map, length_range', Nat.sub_zero, Nat.min_self]
            at long
        rcases views filled done with ⟨_, data, shape, rfl, none⟩ | ⟨_, entries, rfl, same⟩
        · rw [shape]
          unfold extractSample
          dsimp only
          rw [none]
          refine ⟨fun ⟨_, failed⟩ => (nomatch failed), fun empty => ?_⟩
          rw [empty _ _ page loaded] at shown
          cases shown
        · rw [same]
          by_cases nothing : entries = []
          · subst nothing
            exact ⟨fun _ _ _ _ loaded => page_of_none done loaded, fun _ => ⟨_, rfl⟩⟩
          · rw [if_neg nothing]
            refine ⟨fun ⟨_, failed⟩ => (nomatch failed), fun empty => ?_⟩
            rw [empty _ _ page loaded, length_map] at shown
            exact absurd (eq_nil_of_length_eq_zero shown.symm) nothing

/-- The three views of a dataset agree exactly when it is not an object whose first list is
empty. -/
theorem dataset_views_agree_iff (dataset : LocalDataset) :
    (dataset.PagesAgree ∧ dataset.PagesCover ∧ dataset.LoadsFromPages) ↔
      ¬ FirstListEmpty dataset.payload := by
  constructor
  · rintro ⟨-, -, loads⟩
    exact loadsFromPages_iff.mp loads
  · intro filled
    exact ⟨pagesAgree filled, pagesCover, loadsFromPages_iff.mpr filled⟩

end LocalDataset

/-- An object with an empty list of tasks: a sample for the single loader, none for the pages. -/
theorem empty_tasks_loaded : ¬ ∀ dataset : LocalDataset, dataset.LoadsFromPages := by
  intro always
  let builtins : Builtins := ⟨fun _ => "", fun _ => "", fun _ => .error .typeError,
    fun _ => .error .typeError, Char.isAlphanum⟩
  have loads := always ⟨"cases.json", "cases.json", .dict [(.str "tasks", .list [])], builtins,
    fun sample => (sample, none)⟩
  rw [LocalDataset.loadsFromPages_iff] at loads
  exact loads ⟨_, rfl, rfl⟩

end AgenticRuntime.LocalDatasets
