/-
When the runs of a workflow are listed exactly and in the order they were logged.

A file is found by its name alone, and the base directory's files are listed before the
tenant's.
-/

import AgenticRuntime.Workflows.RecordReplay
import AgenticRuntime.Workflows.RunLogger
import Mathlib.Data.List.Dedup

namespace AgenticRuntime

open List

namespace RunLog

open Python

/-! ### Lexicographic order -/

theorem lex_append_of_length {α : Type} {less : α → α → Prop} {left right : List α}
    (before : Lex less left right) (same : left.length = right.length)
    (behindLeft behindRight : List α) :
    Lex less (left ++ behindLeft) (right ++ behindRight) := by
  induction before with
  | nil => cases same
  | rel lower => exact .rel lower
  | cons _ ih => exact .cons (ih (Nat.succ.inj same))

theorem digit_before {first second : Nat} (before : first < second) (fits : second < 10) :
    charBefore (Nat.digitChar first) (Nat.digitChar second) := by
  unfold charBefore
  rw [Nat.toNat_digitChar_of_lt_ten (by omega), Nat.toNat_digitChar_of_lt_ten fits]
  omega

theorem padded_before {width first second : Nat} (before : first < second)
    (fits : second < 10 ^ width) : nameBefore (padded width first) (padded width second) := by
  induction width generalizing first second with
  | zero =>
      rw [Nat.pow_zero] at fits
      omega
  | succ width ih =>
      have shorter : second / 10 < 10 ^ width := by
        rw [Nat.pow_succ] at fits
        omega
      rw [padded, padded]
      by_cases front : first / 10 = second / 10
      · rw [front]
        apply Lex.append_left
        exact .rel (digit_before (by omega) (Nat.mod_lt second (by omega)))
      · have lower : first / 10 < second / 10 := by omega
        exact lex_append_of_length (ih lower shorter)
          ((padded_length width _).trans (padded_length width _).symm) _ _

theorem rendered_before {layout : List (Nat × List Char)} {first second : List Nat}
    (before : Lex (fun left right : Nat => left < right) first second)
    (columns : layout.length = first.length) (same : first.length = second.length)
    (fits : ∀ column ∈ layout.zip second, column.2 < 10 ^ column.1.1) :
    nameBefore (rendered layout first) (rendered layout second) := by
  induction before generalizing layout with
  | nil => cases same
  | @rel left leftRest right rightRest lower =>
      cases layout with
      | nil => cases columns
      | cons column layout =>
          have fit := fits (column, right) mem_cons_self
          exact lex_append_of_length (padded_before lower fit)
            ((padded_length column.1 _).trans (padded_length column.1 _).symm) _ _
  | @cons number leftRest rightRest _ ih =>
      cases layout with
      | nil => cases columns
      | cons column layout =>
          have later := ih (Nat.succ.inj columns) (Nat.succ.inj same)
            fun other listed => fits other (mem_cons_of_mem _ listed)
          exact Lex.append_left charBefore
            (Lex.append_left charBefore later column.2) (padded column.1 number)

theorem stamp_before {first second : DateTime} (before : Earlier first second) :
    nameBefore (stamp first) (stamp second) := by
  apply rendered_before before rfl rfl
  have years := second.years
  have months := second.months
  have days := second.day_le
  have hours := second.clock.hours
  have minutes := second.clock.minutes
  have seconds := second.clock.seconds
  have microseconds := second.clock.microseconds
  unfold stampLayout momentFields
  simp only [zip_cons_cons, zip_nil_right, forall_mem_cons]
  refine ⟨?_, ?_, ?_, ?_, ?_, ?_, ?_, nofun⟩
  all_goals omega

theorem rendered_length (layout : List (Nat × List Char)) {first second : List Nat}
    (same : first.length = second.length) :
    (rendered layout first).length = (rendered layout second).length := by
  induction layout generalizing first second with
  | nil => rfl
  | cons column layout ih =>
      cases first with
      | nil =>
          cases second with
          | nil => rfl
          | cons _ _ => cases same
      | cons number first =>
          cases second with
          | nil => cases same
          | cons other second =>
              simp only [rendered, length_append, padded_length, ih (Nat.succ.inj same)]

theorem stamp_length (first second : DateTime) : (stamp first).length = (stamp second).length :=
  rendered_length stampLayout rfl

/-! ### Sorting -/

instance : Std.Asymm charBefore := ⟨fun _ _ before after => Nat.lt_asymm before after⟩

instance : Std.Trichotomous charBefore where
  trichotomous left right notBefore notAfter := by
    apply Char.toNat_inj.mp
    unfold charBefore at notBefore notAfter
    omega

instance : IsOrderConnected Char charBefore where
  conn left middle right before := by
    unfold charBefore at before ⊢
    omega

instance : Std.Asymm nameBefore := inferInstanceAs (Std.Asymm (Lex charBefore))

instance : Std.Asymm pathBefore := inferInstanceAs (Std.Asymm (Lex (Lex charBefore)))

instance : Std.Trichotomous pathBefore :=
  inferInstanceAs (Std.Trichotomous (Lex (Lex charBefore)))

instance : IsOrderConnected Path pathBefore :=
  inferInstanceAs (IsOrderConnected (List (List Char)) (Lex (Lex charBefore)))

theorem pathBefore_asymm {left right : Path} (before : pathBefore left right) :
    ¬ pathBefore right left := Std.Asymm.asymm left right before

theorem mem_sortedPaths {paths : List Path} {path : Path} :
    path ∈ sortedPaths paths ↔ path ∈ paths := by
  rw [sortedPaths, mem_insertionSort, mem_dedup]

theorem sortedPaths_pairwise (paths : List Path) : (sortedPaths paths).Pairwise pathBefore := by
  let atMost := fun left right : Path => ¬ pathBefore right left
  have total : Std.Total atMost := ⟨fun left right => by
    by_cases before : pathBefore right left
    · exact .inr (pathBefore_asymm before)
    · exact .inl before⟩
  have transitive : IsTrans Path atMost := ⟨fun left middle right first second before => by
    rcases IsOrderConnected.conn right middle left before with later | earlier
    · exact second later
    · exact first earlier⟩
  have sorted : (paths.dedup.insertionSort atMost).Pairwise atMost :=
    pairwise_insertionSort atMost paths.dedup
  have distinct : (paths.dedup.insertionSort atMost).Nodup :=
    (perm_insertionSort atMost paths.dedup).nodup_iff.mpr (nodup_dedup paths)
  apply (sorted.and distinct).imp
  intro left right ⟨notAfter, differ⟩
  by_contra notBefore
  exact differ (Std.Trichotomous.trichotomous left right notBefore notAfter)

/-! ### Patterns -/

theorem fnmatch_cons (wild : Char) (pattern name : List Char) : fnmatch (wild :: pattern) name =
    if wild = '*' then name.tails.any fun rest => fnmatch pattern rest
    else
      match name with
      | [] => false
      | char :: rest => (wild = '?' || wild = char) && fnmatch pattern rest := rfl

theorem fnmatch_star {pattern name : List Char} : fnmatch ('*' :: pattern) name = true ↔
    ∃ front rest, front ++ rest = name ∧ fnmatch pattern rest = true := by
  rw [fnmatch_cons, if_pos rfl, any_eq_true]
  constructor
  · intro ⟨rest, listed, matched⟩
    obtain ⟨front, split⟩ := (mem_tails rest name).mp listed
    exact ⟨front, rest, split, matched⟩
  · intro ⟨front, rest, split, matched⟩
    exact ⟨rest, (mem_tails rest name).mpr ⟨front, split⟩, matched⟩

theorem fnmatch_literal {literal : List Char} (tame : ∀ char ∈ literal, char ≠ '*' ∧ char ≠ '?')
    {pattern name : List Char} : fnmatch (literal ++ pattern) name = true ↔
      ∃ rest, literal ++ rest = name ∧ fnmatch pattern rest = true := by
  induction literal generalizing name with
  | nil =>
      constructor
      · intro matched
        exact ⟨name, rfl, matched⟩
      · intro ⟨rest, same, matched⟩
        exact same ▸ matched
  | cons char literal ih =>
      obtain ⟨noStar, noQuestion⟩ := tame char mem_cons_self
      have later := @ih fun other listed => tame other (mem_cons_of_mem _ listed)
      rw [cons_append, fnmatch_cons, if_neg noStar]
      cases name with
      | nil =>
          constructor
          · intro matched
            cases matched
          · intro ⟨rest, same, _⟩
            cases same
      | cons head name =>
          have plainHead : (decide (char = '?') || decide (char = head)) = true ↔
              char = head := by
            rw [decide_eq_false noQuestion, Bool.false_or, decide_eq_true_iff]
          dsimp only
          rw [Bool.and_eq_true, plainHead, later]
          constructor
          · intro ⟨same, rest, split, matched⟩
            exact ⟨rest, by rw [same, ← split, cons_append], matched⟩
          · intro ⟨rest, split, matched⟩
            obtain ⟨same, split⟩ := List.cons.inj split
            exact ⟨same, rest, split, matched⟩

theorem tame_jsonSuffix : ∀ char ∈ jsonSuffix, char ≠ '*' ∧ char ≠ '?' := by
  have tame : (jsonSuffix.all fun char => char ≠ '*' ∧ char ≠ '?') = true := by decide
  exact fun char listed => of_decide_eq_true (all_eq_true.mp tame char listed)

theorem fnmatch_jsonSuffix {name : List Char} :
    fnmatch jsonSuffix name = true ↔ name = jsonSuffix := by
  have whole := @fnmatch_literal jsonSuffix tame_jsonSuffix [] name
  rw [append_nil] at whole
  rw [whole]
  constructor
  · intro ⟨rest, split, empty⟩
    rw [← split, List.isEmpty_iff.mp empty, append_nil]
  · intro same
    exact ⟨[], by rw [same, append_nil], rfl⟩

section

variable {isalnum : Char → Bool}
  (ascii : ∀ char : Char, char.toNat < 128 → isalnum char = char.isAlphanum)

include ascii

theorem tame_sanitized (value : String) :
    ∀ char ∈ sanitizeFilenameSegment isalnum value, char ≠ '*' ∧ char ≠ '?' := by
  intro char listed
  obtain ⟨source, _, same⟩ := mem_map.mp listed
  have wild : ∀ wild : Char, wild.toNat < 128 → wild.isAlphanum = false →
      wild ≠ '-' → wild ≠ '_' → sanitizeChar isalnum source ≠ wild := by
    intro wild low odd noDash noBar clash
    unfold sanitizeChar at clash
    split at clash
    · rename_i kept
      rw [clash, ascii wild low, odd] at kept
      simp [noDash, noBar] at kept
    · exact noBar clash.symm
  rw [← same]
  exact ⟨wild '*' (by decide) (by decide) (by decide) (by decide),
    wild '?' (by decide) (by decide) (by decide) (by decide)⟩

theorem fnmatch_runPattern {name : String} {stem : List Char} :
    fnmatch (runPattern isalnum (some name)) (stem ++ jsonSuffix) = true ↔
      ('_' :: (sanitizeFilenameSegment isalnum name ++ ['_'])) <:+: stem := by
  have tame : ∀ char ∈ '_' :: (sanitizeFilenameSegment isalnum name ++ ['_']),
      char ≠ '*' ∧ char ≠ '?' := by
    intro char listed
    rcases List.mem_cons.mp listed with same | later
    · rw [same]
      decide
    · rcases mem_append.mp later with inside | last
      · exact tame_sanitized ascii name char inside
      · rw [mem_singleton.mp last]
        decide
  have pattern : runPattern isalnum (some name) = '*' :: (('_' ::
      (sanitizeFilenameSegment isalnum name ++ ['_'])) ++ '*' :: jsonSuffix) := by
    rw [runPattern, cons_append, append_assoc]
    rfl
  rw [pattern, fnmatch_star]
  constructor
  · intro ⟨front, rest, split, matched⟩
    obtain ⟨behind, inner, matched⟩ := (fnmatch_literal tame).mp matched
    obtain ⟨last, suffix, outer, ends⟩ := fnmatch_star.mp matched
    rw [fnmatch_jsonSuffix.mp ends] at outer
    refine ⟨front, last, ?_⟩
    apply append_left_injective jsonSuffix
    dsimp only
    rw [← split, ← inner, ← outer, append_assoc, append_assoc]
  · intro ⟨front, last, split⟩
    refine ⟨front, ('_' :: (sanitizeFilenameSegment isalnum name ++ ['_'])) ++
      (last ++ jsonSuffix), ?_, ?_⟩
    · rw [← split, append_assoc, append_assoc]
    · apply (fnmatch_literal tame).mpr
      exact ⟨_, rfl, fnmatch_star.mpr ⟨last, jsonSuffix, rfl, fnmatch_jsonSuffix.mpr rfl⟩⟩

end

theorem fnmatch_any (isalnum : Char → Bool) (stem : List Char) :
    fnmatch (runPattern isalnum none) (stem ++ jsonSuffix) = true :=
  fnmatch_star.mpr ⟨stem, jsonSuffix, rfl, fnmatch_jsonSuffix.mpr rfl⟩

/-! ### The files that were written -/

theorem earlier_or {first second : DateTime} (differ : momentFields first ≠ momentFields second) :
    Earlier first second ∨ Earlier second first := by
  by_contra neither
  obtain ⟨notBefore, notAfter⟩ := not_or.mp neither
  have trichotomy : Std.Trichotomous (fun left right : Nat => left < right) := inferInstance
  exact differ ((Lex.trichotomous _).trichotomous _ _ notBefore notAfter)

section

variable (isalnum : Char → Bool)

theorem name_before (first second : LogCall) (before : Earlier first.now second.now) :
    nameBefore (runStem isalnum first.result first.now ++ jsonSuffix)
      (runStem isalnum second.result second.now ++ jsonSuffix) := by
  unfold runStem
  rw [append_assoc, append_assoc]
  exact lex_append_of_length (stamp_before before) (stamp_length _ _) _ _

theorem path_before {first second : LogCall} (before : Earlier first.now second.now)
    (same : first.logger.runsDir isalnum = second.logger.runsDir isalnum) :
    pathBefore (first.path isalnum) (second.path isalnum) := by
  unfold LogCall.path RunLogger.pathOf
  rw [same]
  exact Lex.append_left nameBefore (.rel (name_before isalnum first second before)) _

theorem fields_eq_of_path {first second : LogCall}
    (same : first.path isalnum = second.path isalnum) :
    momentFields first.now = momentFields second.now := by
  have stems : runStem isalnum first.result first.now ++ jsonSuffix =
      runStem isalnum second.result second.now ++ jsonSuffix :=
    head_eq_of_cons_eq (append_inj_right' same rfl)
  have apart : ∀ name : List Char, ¬ nameBefore name name :=
    fun name before => Std.Asymm.asymm name name before before
  by_contra differ
  rcases earlier_or differ with before | after
  · have ordered := name_before isalnum first second before
    rw [stems] at ordered
    exact apart _ ordered
  · have ordered := name_before isalnum second first after
    rw [stems] at ordered
    exact apart _ ordered

structure Recorded (calls : List LogCall) (files : Files) : Prop where
  keys : ∀ path, path ∈ Items.keys files ↔ ∃ call ∈ calls, call.path isalnum = path
  names : ∀ call ∈ calls, recordedName files (call.path isalnum) = some call.result.workflowName

variable {isalnum} {pydantic : Pydantic} {builtins : Builtins}

theorem recordName_of_built {result : WorkflowResult} {extras : RunExtras} {record : PyValue}
    (built : buildRunRecord pydantic builtins result extras = .ok record) :
    recordName record = some result.workflowName := by
  unfold buildRunRecord at built
  obtain ⟨score, _, built⟩ := bind_ok built
  obtain ⟨duration, _, built⟩ := bind_ok built
  obtain ⟨steps, _, built⟩ := bind_ok built
  cases built
  rfl

theorem recordedName_insert (files : Files) (path other : Path) (record : PyValue) :
    recordedName (Items.insert files path record) other =
      if path = other then recordName record else recordedName files other := by
  unfold recordedName
  rw [Items.get?_insert]
  split
  · rfl
  · rfl

theorem logAll_from {calls : List LogCall} {files after : Files}
    (distinct : (calls.map (LogCall.path isalnum)).Nodup)
    (done : logAll isalnum pydantic builtins calls files = .ok after) :
    (∀ path, path ∈ Items.keys after ↔
      path ∈ Items.keys files ∨ ∃ call ∈ calls, call.path isalnum = path) ∧
    (∀ call ∈ calls, recordedName after (call.path isalnum) = some call.result.workflowName) ∧
    ∀ path, (∀ call ∈ calls, call.path isalnum ≠ path) →
      recordedName after path = recordedName files path := by
  induction calls generalizing files with
  | nil =>
      cases done
      refine ⟨fun path => ⟨Or.inl, ?_⟩, ?_, fun path _ => rfl⟩
      · intro either
        rcases either with here | ⟨call, listed, _⟩
        · exact here
        · cases listed
      · intro call listed
        cases listed
  | cons call rest ih =>
      obtain ⟨fresh, distinct⟩ := nodup_cons.mp distinct
      cases built : buildRunRecord pydantic builtins call.result call.extras with
      | error failure =>
          rw [logAll, RunLogger.log, built] at done
          cases done
      | ok record =>
          rw [logAll, RunLogger.log, built] at done
          obtain ⟨keys, names, others⟩ := ih distinct done
          refine ⟨?_, ?_, ?_⟩
          · intro path
            rw [keys path, Items.mem_keys_insert, exists_mem_cons_iff]
            constructor
            · intro either
              rcases either with (old | here) | later
              · exact .inl old
              · exact .inr (.inl here.symm)
              · exact .inr (.inr later)
            · intro either
              rcases either with old | here | later
              · exact .inl (.inl old)
              · exact .inl (.inr here.symm)
              · exact .inr later
          · intro other listed
            rcases List.mem_cons.mp listed with same | later
            · subst other
              rw [others]
              · exact (recordedName_insert files _ _ record).trans
                  ((if_pos rfl).trans (recordName_of_built built))
              · intro other listed same
                exact fresh (mem_map.mpr ⟨other, listed, same⟩)
            · exact names other later
          · intro path apart
            rw [others path fun other listed => apart other (mem_cons_of_mem _ listed)]
            exact (recordedName_insert files _ path record).trans
              (if_neg (apart call mem_cons_self))

theorem distinct_paths {calls : List LogCall}
    (distinct : (calls.map fun call => momentFields call.now).Nodup) :
    (calls.map (LogCall.path isalnum)).Nodup := by
  have apart : calls.Pairwise fun first second => momentFields first.now ≠ momentFields second.now :=
    pairwise_map.mp distinct
  apply pairwise_map.mpr
  apply apart.imp
  intro first second differ same
  exact differ (fields_eq_of_path isalnum same)

theorem recorded_of_logAll {calls : List LogCall} {files : Files}
    (distinct : (calls.map fun call => momentFields call.now).Nodup)
    (done : logAll isalnum pydantic builtins calls [] = .ok files) :
    Recorded isalnum calls files := by
  obtain ⟨keys, names, _⟩ := logAll_from (distinct_paths distinct) done
  constructor
  · intro path
    rw [keys path]
    constructor
    · intro either
      rcases either with never | logged
      · cases never
      · exact logged
    · exact Or.inr
  · exact names

end

/-! ### The listing -/

section

variable {isalnum : Char → Bool}
  (ascii : ∀ char : Char, char.toNat < 128 → isalnum char = char.isAlphanum)
  {logger : RunLogger} {calls : List LogCall} {files : Files}
  (placed : ∀ call ∈ calls, call.logger.runsDir isalnum ∈ logger.searchDirs isalnum)
  (recorded : Recorded isalnum calls files)

theorem mem_glob {directory front : Path} {pattern name : List Char} :
    front ++ [name] ∈ glob files directory pattern ↔
      front ++ [name] ∈ Items.keys files ∧ front = directory ∧ fnmatch pattern name = true := by
  unfold glob
  rw [mem_filter, dropLast_concat, List.getLast?_concat, Bool.and_eq_true, decide_eq_true_iff]
  rfl

include recorded placed in
theorem mem_found {pattern : List Char} {path : Path} :
    path ∈ ((logger.searchDirs isalnum).flatMap fun directory => glob files directory pattern) ↔
      ∃ call ∈ calls, call.path isalnum = path ∧
        fnmatch pattern (runStem isalnum call.result call.now ++ jsonSuffix) = true := by
  rw [mem_flatMap]
  constructor
  · intro ⟨directory, searched, found⟩
    have kept := (mem_filter.mp found).1
    obtain ⟨call, listed, same⟩ := (recorded.keys path).mp kept
    rw [← same] at found
    exact ⟨call, listed, same, (mem_glob.mp found).2.2⟩
  · intro ⟨call, listed, same, matched⟩
    refine ⟨call.logger.runsDir isalnum, placed call listed, ?_⟩
    rw [← same]
    exact mem_glob.mpr ⟨(recorded.keys _).mpr ⟨call, listed, rfl⟩, rfl, matched⟩

include recorded placed in
theorem mem_listRuns_none {path : Path} : path ∈ logger.listRuns isalnum files none ↔
    ∃ call ∈ calls, call.path isalnum = path := by
  change path ∈ sortedPaths _ ↔ _
  rw [mem_sortedPaths, mem_found placed recorded]
  constructor
  · intro ⟨call, listed, same, _⟩
    exact ⟨call, listed, same⟩
  · intro ⟨call, listed, same⟩
    exact ⟨call, listed, same, fnmatch_any isalnum _⟩

theorem listRuns_empty : logger.listRuns isalnum files (some "") =
    logger.listRuns isalnum files none := rfl

theorem listRuns_some {name : String} (filled : name ≠ "") :
    logger.listRuns isalnum files (some name) =
      let matched := sortedPaths ((logger.searchDirs isalnum).flatMap fun directory =>
        glob files directory (runPattern isalnum (some name)))
      if sanitizeFilenameSegment isalnum name ≠ name.toList then
        matched.filter fun path => recordedName files path = some name
      else matched := by
  have given : givenName (some name) = some name := by
    rw [givenName, Option.filter_some, if_pos (decide_eq_true filled)]
  unfold RunLogger.listRuns
  rw [given]

def Carries (isalnum : Char → Bool) (call : LogCall) (name : String) : Prop :=
  ('_' :: (sanitizeFilenameSegment isalnum name ++ ['_'])) <:+:
    runStem isalnum call.result call.now

theorem carries_own (call : LogCall) : Carries isalnum call call.result.workflowName := by
  refine ⟨stamp call.now, sanitizeFilenameSegment isalnum call.result.workflowId ++
    '_' :: sanitizeFilenameSegment isalnum call.result.overallStatus.value, ?_⟩
  unfold runStem
  simp only [append_assoc, cons_append, nil_append]

include ascii recorded placed in
theorem mem_listRuns_some {name : String} (filled : name ≠ "") {path : Path} :
    path ∈ logger.listRuns isalnum files (some name) ↔
      ∃ call ∈ calls, call.path isalnum = path ∧ Carries isalnum call name ∧
        (sanitizeFilenameSegment isalnum name ≠ name.toList →
          call.result.workflowName = name) := by
  have found : path ∈ sortedPaths ((logger.searchDirs isalnum).flatMap fun directory =>
      glob files directory (runPattern isalnum (some name))) ↔
        ∃ call ∈ calls, call.path isalnum = path ∧ Carries isalnum call name := by
    rw [mem_sortedPaths, mem_found placed recorded]
    simp only [fnmatch_runPattern ascii]
    rfl
  rw [listRuns_some filled]
  dsimp only
  split
  · rename_i cleaned
    rw [mem_filter, found, decide_eq_true_iff]
    constructor
    · intro ⟨⟨call, listed, same, carries⟩, named⟩
      rw [← same, recorded.names call listed] at named
      exact ⟨call, listed, same, carries, fun _ => Option.some.inj named⟩
    · intro ⟨call, listed, same, carries, named⟩
      refine ⟨⟨call, listed, same, carries⟩, ?_⟩
      rw [← same, recorded.names call listed, named cleaned]
  · rename_i kept
    rw [found]
    constructor
    · intro ⟨call, listed, same, carries⟩
      exact ⟨call, listed, same, carries, fun cleaned => absurd cleaned kept⟩
    · intro ⟨call, listed, same, carries, _⟩
      exact ⟨call, listed, same, carries⟩

theorem listRuns_pairwise (name : Option String) :
    (logger.listRuns isalnum files name).Pairwise pathBefore := by
  unfold RunLogger.listRuns
  dsimp only
  split
  · exact sortedPaths_pairwise _
  · split
    · exact (sortedPaths_pairwise _).filter _
    · exact sortedPaths_pairwise _

end

/-! ### The two directories -/

def Legacy (isalnum : Char → Bool) (logger : RunLogger) (call : LogCall) : Prop :=
  call.logger.runsDir isalnum ≠ logger.runsDir isalnum

theorem sanitizeTenantId_default {isalnum : Char → Bool}
    (ascii : ∀ char : Char, char.toNat < 128 → isalnum char = char.isAlphanum) :
    sanitizeTenantId isalnum defaultTenantId = defaultTenantId := by
  have letters : (defaultTenantId.all fun char => char.toNat < 128 ∧ char.isAlphanum) = true := by
    decide
  have kept : defaultTenantId.map (sanitizeChar isalnum) = defaultTenantId := by
    have same : ∀ char ∈ defaultTenantId, sanitizeChar isalnum char = char := by
      intro char listed
      obtain ⟨low, letter⟩ := of_decide_eq_true (all_eq_true.mp letters char listed)
      rw [sanitizeChar, ascii char low, letter]
      rfl
    rw [map_congr_left same, map_id']
  have raw : strippedOf isSpace defaultTenantId = defaultTenantId := by decide
  have cleaned : strippedOf (fun char => char = '.' || char = '_' || char = '-')
      defaultTenantId = defaultTenantId := by decide
  unfold sanitizeTenantId
  rw [raw]
  dsimp only
  rw [kept, cleaned]
  decide

theorem stamp_head (now : DateTime) : ∃ digit rest, stamp now = Nat.digitChar digit :: rest ∧
    digit < 10 := by
  refine ⟨now.year / 10 / 10 / 10 % 10, _, rfl, ?_⟩
  exact Nat.mod_lt _ (by omega)

section

variable {isalnum : Char → Bool}
  (ascii : ∀ char : Char, char.toNat < 128 → isalnum char = char.isAlphanum)
  {logger : RunLogger} {legacy own : LogCall}

include ascii

theorem legacy_before (placed : legacy.logger.runsDir isalnum ∈ logger.searchDirs isalnum)
    (elsewhere : Legacy isalnum logger legacy) (here : ¬ Legacy isalnum logger own) :
    pathBefore (legacy.path isalnum) (own.path isalnum) := by
  rcases List.mem_cons.mp placed with same | behind
  · exact absurd same elsewhere
  · split at behind
    · rename_i shared
      have base := mem_singleton.mp behind
      have tenant : logger.runsDir isalnum = logger.base ++ [defaultTenantId] := by
        rw [RunLogger.runsDir, shared.1]
        exact congrArg (fun name => logger.base ++ [name]) (sanitizeTenantId_default ascii)
      unfold LogCall.path RunLogger.pathOf
      rw [base, not_not.mp here, tenant, append_assoc]
      apply Lex.append_left nameBefore
      obtain ⟨digit, rest, shape, bound⟩ := stamp_head legacy.now
      apply Lex.rel
      rw [runStem, shape]
      apply Lex.rel
      unfold charBefore
      rw [Nat.toNat_digitChar_of_lt_ten bound]
      change 48 + digit < 100
      omega
    · cases behind

theorem path_before_of_earlier {first second : LogCall}
    (placedFirst : first.logger.runsDir isalnum ∈ logger.searchDirs isalnum)
    (placedSecond : second.logger.runsDir isalnum ∈ logger.searchDirs isalnum)
    (before : Earlier first.now second.now)
    (kept : ¬ (Legacy isalnum logger second ∧ ¬ Legacy isalnum logger first)) :
    pathBefore (first.path isalnum) (second.path isalnum) := by
  have base : ∀ call : LogCall, call.logger.runsDir isalnum ∈ logger.searchDirs isalnum →
      Legacy isalnum logger call → call.logger.runsDir isalnum = logger.base := by
    intro call placed elsewhere
    rcases List.mem_cons.mp placed with same | behind
    · exact absurd same elsewhere
    · split at behind
      · exact mem_singleton.mp behind
      · cases behind
  by_cases firstLegacy : Legacy isalnum logger first
  · by_cases secondLegacy : Legacy isalnum logger second
    · exact path_before isalnum before
        ((base first placedFirst firstLegacy).trans (base second placedSecond secondLegacy).symm)
    · exact legacy_before ascii placedFirst firstLegacy secondLegacy
  · have secondHere : ¬ Legacy isalnum logger second := fun legacy => kept ⟨legacy, firstLegacy⟩
    exact path_before isalnum before ((not_not.mp firstLegacy).trans (not_not.mp secondHere).symm)

end

/-! ### What a listing is for -/

def Chronological (isalnum : Char → Bool) (calls : List LogCall) (paths : List Path) : Prop :=
  paths.Pairwise fun left right => ∀ first ∈ calls, ∀ second ∈ calls,
    first.path isalnum = left → second.path isalnum = right → Earlier first.now second.now

structure ListsRuns (isalnum : Char → Bool) (logger : RunLogger) (calls : List LogCall)
    (files : Files) (name : String) : Prop where
  exact : ∀ path, path ∈ logger.listRuns isalnum files (some name) ↔
    ∃ call ∈ calls, call.path isalnum = path ∧ call.result.workflowName = name
  chronological : Chronological isalnum calls (logger.listRuns isalnum files (some name))
  allChronological : Chronological isalnum calls (logger.listRuns isalnum files none)

/-- No run of another workflow has a file name that the pattern finds, where the recorded name
is not looked at; and what is in the base directory is older than the tenant's. -/
structure Listable (isalnum : Char → Bool) (logger : RunLogger) (calls : List LogCall)
    (name : String) : Prop where
  apart : ∀ call ∈ calls, call.result.workflowName ≠ name →
    name ≠ "" ∧ (sanitizeFilenameSegment isalnum name = name.toList → ¬ Carries isalnum call name)
  ordered : ∀ legacy ∈ calls, ∀ own ∈ calls, Legacy isalnum logger legacy →
    ¬ Legacy isalnum logger own → Earlier legacy.now own.now

section

variable {isalnum : Char → Bool}
  (ascii : ∀ char : Char, char.toNat < 128 → isalnum char = char.isAlphanum)
  {logger : RunLogger} {calls : List LogCall} {files : Files}
  (placed : ∀ call ∈ calls, call.logger.runsDir isalnum ∈ logger.searchDirs isalnum)
  (distinct : (calls.map fun call => momentFields call.now).Nodup)
  (recorded : Recorded isalnum calls files)

include distinct in
theorem call_eq_of_path {first second : LogCall} (firstListed : first ∈ calls)
    (secondListed : second ∈ calls) (same : first.path isalnum = second.path isalnum) :
    first = second :=
  inj_on_of_nodup_map distinct firstListed secondListed (fields_eq_of_path isalnum same)

include ascii placed distinct in
theorem chronological_of_ordered {paths : List Path} (sorted : paths.Pairwise pathBefore)
    (ordered : ∀ legacy ∈ calls, ∀ own ∈ calls, Legacy isalnum logger legacy →
      ¬ Legacy isalnum logger own → Earlier legacy.now own.now) :
    Chronological isalnum calls paths := by
  apply sorted.imp
  intro left right before first firstListed second secondListed isLeft isRight
  rw [← isLeft, ← isRight] at before
  by_contra late
  have reversed : pathBefore (second.path isalnum) (first.path isalnum) := by
    have differ : momentFields second.now ≠ momentFields first.now := by
      intro same
      have one := inj_on_of_nodup_map distinct secondListed firstListed same
      rw [one] at before
      exact pathBefore_asymm before before
    rcases earlier_or differ with after | early
    · apply path_before_of_earlier ascii (placed second secondListed) (placed first firstListed) after
      intro ⟨firstLegacy, secondHere⟩
      exact late (ordered first firstListed second secondListed firstLegacy secondHere)
    · exact absurd early late
  exact pathBefore_asymm before reversed

include ascii placed distinct recorded in
theorem listsRuns_of_listable {name : String} (listable : Listable isalnum logger calls name) :
    ListsRuns isalnum logger calls files name where
  exact path := by
    by_cases filled : name = ""
    · have noCall : ∀ call, call ∉ calls := by
        intro call listed
        have other : call.result.workflowName ≠ name := filled ▸ call.result.named
        exact (listable.apart call listed other).1 filled
      rw [filled, listRuns_empty, mem_listRuns_none placed recorded]
      constructor
      · intro ⟨call, listed, _⟩
        exact absurd listed (noCall call)
      · intro ⟨call, listed, _⟩
        exact absurd listed (noCall call)
    · rw [mem_listRuns_some ascii placed recorded filled]
      constructor
      · intro ⟨call, listed, same, carries, named⟩
        refine ⟨call, listed, same, ?_⟩
        by_contra other
        by_cases kept : sanitizeFilenameSegment isalnum name = name.toList
        · exact (listable.apart call listed other).2 kept carries
        · exact other (named kept)
      · intro ⟨call, listed, same, named⟩
        exact ⟨call, listed, same, named ▸ carries_own call, fun _ => named⟩
  chronological :=
    chronological_of_ordered ascii placed distinct (listRuns_pairwise _) listable.ordered
  allChronological :=
    chronological_of_ordered ascii placed distinct (listRuns_pairwise _) listable.ordered

theorem rel_of_pairwise {α : Type} {related : α → α → Prop} {items : List α}
    (pairwise : items.Pairwise related) {first second : α} (firstListed : first ∈ items)
    (secondListed : second ∈ items) (differ : first ≠ second) :
    related first second ∨ related second first := by
  induction pairwise with
  | nil => cases firstListed
  | cons head _ ih =>
      rcases List.mem_cons.mp firstListed with isFirst | firstLater
      · rcases List.mem_cons.mp secondListed with isSecond | secondLater
        · exact absurd (isFirst.trans isSecond.symm) differ
        · exact .inl (isFirst ▸ head second secondLater)
      · rcases List.mem_cons.mp secondListed with isSecond | secondLater
        · exact .inr (isSecond ▸ head first firstLater)
        · exact ih firstLater secondLater

include ascii placed distinct recorded in
theorem listable_of_listsRuns {name : String} (lists : ListsRuns isalnum logger calls files name) :
    Listable isalnum logger calls name where
  apart call listed other := by
    have unlisted : call.path isalnum ∉ logger.listRuns isalnum files (some name) := by
      intro found
      obtain ⟨source, sourceListed, same, named⟩ := (lists.exact _).mp found
      rw [call_eq_of_path distinct sourceListed listed same] at named
      exact other named
    by_cases filled : name = ""
    · rw [filled, listRuns_empty, mem_listRuns_none placed recorded] at unlisted
      exact absurd ⟨call, listed, rfl⟩ unlisted
    · refine ⟨filled, fun kept carries => unlisted ?_⟩
      rw [mem_listRuns_some ascii placed recorded filled]
      exact ⟨call, listed, rfl, carries, fun cleaned => absurd kept cleaned⟩
  ordered legacy legacyListed own ownListed elsewhere here := by
    have before := legacy_before ascii (placed legacy legacyListed) elsewhere here
    have differ : legacy.path isalnum ≠ own.path isalnum := by
      intro same
      rw [same] at before
      exact pathBefore_asymm before before
    have sorted : (logger.listRuns isalnum files none).Pairwise pathBefore := listRuns_pairwise none
    have order := sorted.and lists.allChronological
    rcases rel_of_pairwise order ((mem_listRuns_none placed recorded).mpr ⟨legacy, legacyListed, rfl⟩)
      ((mem_listRuns_none placed recorded).mpr ⟨own, ownListed, rfl⟩) differ with first | second
    · exact first.2 legacy legacyListed own ownListed rfl rfl
    · exact absurd second.1 (pathBefore_asymm before)

end

def plainLogger : RunLogger := ⟨["runs".toList], none⟩

def codeReview : LogCall where
  logger := plainLogger
  result := {
    workflowId := "run-7", workflowName := "code_review", steps := [], overallStatus := .success
    startTime := launchDay, identified := by decide, named := by decide }
  now := launchDay

theorem codeReview_logged :
    ∃ files, logAll Char.isAlphanum plainPydantic plainConversions [codeReview] [] = .ok files :=
  ⟨_, rfl⟩

theorem placed_codeReview : ∀ call ∈ [codeReview],
    call.logger.runsDir Char.isAlphanum ∈ plainLogger.searchDirs Char.isAlphanum := by
  intro call listed
  rw [mem_singleton.mp listed]
  exact mem_cons_self

theorem distinct_codeReview : ([codeReview].map fun call => momentFields call.now).Nodup :=
  nodup_singleton _

end RunLog

end AgenticRuntime
