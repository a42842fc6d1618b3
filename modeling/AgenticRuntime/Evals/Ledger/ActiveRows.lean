/-
One active trial for each cell of the design, and one active grade for each trial.

No constraint of the schema asks for either once rows supersede rows. Both are kept by the
appends that put a row in the place of the active one, and by no others.
-/

import AgenticRuntime.Corrections
import AgenticRuntime.Evals.Ledger.Export
import AgenticRuntime.Evals.Ledger.Queries

namespace AgenticRuntime

open List Transition

namespace EvalLedger

open Python Sql LedgerStore Corrections

/-! ### Corrections of trials and grades -/

def supersededId (row : Row) : Option Sql.Value :=
  if row.get "supersedes" = .null then none else some (row.get "supersedes")

def cell (row : Row) : List Sql.Value := cellColumns.map row.get

def readingBy {Cell : Type} (id : String) (cell : Row → Cell) : Reading Row Sql.Value Cell :=
  { key := fun row => row.get id, supersedes := supersededId, cell := cell }

def trialReading : Reading Row Sql.Value (List Sql.Value) := readingBy "trial_id" cell

def gradeReading : Reading Row Sql.Value Sql.Value :=
  readingBy "grade_id" fun grade => grade.get "trial_id"

def Singles (db : Tables) : Prop :=
  Single trialReading (db .trial) ∧ Single gradeReading (db .grade)

/-- An appended trial takes the place of the active trial of its cell, and a grade that of
the active grade of its trial. -/
def RowCorrects (db : Tables) (entry : (table : TableName) × Entity table) : Prop :=
  match entry.2.row with
  | .error _ => True
  | .ok row =>
      (entry.1 = .trial → Corrects trialReading (db .trial) row) ∧
      (entry.1 = .grade → Corrects gradeReading (db .grade) row)

instance (db : Tables) (entry : (table : TableName) × Entity table) :
    Decidable (RowCorrects db entry) := by
  unfold RowCorrects
  split <;> infer_instance

def CallCorrects (db : Tables) (call : Call) : Prop :=
  Transition.Along insertNext RowCorrects db call.appended

instance (db : Tables) (call : Call) : Decidable (CallCorrects db call) :=
  decidableAlong ..

/-- One active trial a cell, one active grade a trial, corrections within cell and trial,
and pass rates that are computed from consistent counts. -/
structure OneActive {Interval : Type} (interval : Nat → Nat → Interval) (db : Tables) : Prop where
  trials : ((activeTrial db).map cell).Nodup
  grades : ((activeGrade db).map fun grade => grade.get "trial_id").Nodup
  sameCell : ∀ row ∈ db .trial, ∀ old ∈ db .trial,
    (row.get "supersedes").equals (old.get "trial_id") = true → cell row = cell old
  sameTrial : ∀ row ∈ db .grade, ∀ old ∈ db .grade,
    (row.get "supersedes").equals (old.get "grade_id") = true →
      row.get "trial_id" = old.get "trial_id"
  counts : ∀ waveId rates, armPassRates interval db waveId = .ok rates → ∀ rate ∈ rates,
    rate.nPass ≤ rate.nVerdicts ∧ rate.nVerdicts ≤ rate.nTrials
  rates : ∀ waveId, ∃ rates, armPassRates interval db waveId = .ok rates

/-! ### The active rows of the queries -/

theorem supersededIds_eq (rows : List Row) : supersededIds rows = rows.filterMap supersededId := by
  unfold supersededIds
  induction rows with
  | nil => rfl
  | cons row rest ih =>
      rw [map_cons, filterMap_cons, filter_cons, ih]
      unfold supersededId
      by_cases nothing : row.get "supersedes" = .null
      · simp only [nothing, ne_eq, not_true_eq_false, decide_false, Bool.false_eq_true, if_false,
          if_true]
      · simp only [nothing, ne_eq, not_false_eq_true, decide_true, if_true, if_false]

theorem activeRows_eq {Cell : Type} {id : String} {rows : List Row} (cell : Row → Cell)
    (keyed : ∀ row ∈ rows, row.get id ≠ .null) :
    activeRows id rows = active (readingBy id cell) rows := by
  unfold activeRows active
  apply filter_congr
  intro row member
  have proper : Sql.Value.null ∉ supersededIds rows := by
    intro listed
    exact of_decide_eq_true (mem_filter.mp listed).2 rfl
  apply decide_eq_decide.mpr
  rw [Sql.Value.notIn_true_iff (keyed row member) proper, supersededIds_eq]
  rfl

theorem supersededId_eq_some {row : Row} {id : Sql.Value} :
    supersededId row = some id ↔ (row.get "supersedes").equals id = true := by
  unfold supersededId Sql.Value.equals
  rw [decide_eq_true_eq]
  split
  · rename_i nothing
    rw [nothing]
    simp only [ne_eq, not_true_eq_false, false_and, reduceCtorEq]
  · rename_i something
    simp only [Option.some.injEq, ne_eq, something, not_false_eq_true, true_and]

section

variable {Cell : Type} {cell : Row → Cell} {db : Tables} {table : TableName} {id : String}

structure Correctable (table : TableName) (id : String) : Prop where
  key : (schema table).primaryKey = [id]
  own : references "supersedes" table id ∈ (schema table).foreignKeys

theorem trial_correctable : Correctable .trial "trial_id" := ⟨rfl, by decide⟩

theorem grade_correctable : Correctable .grade "grade_id" := ⟨rfl, by decide⟩

theorem Sound.given (sound : Sound db) (correctable : Correctable table id) :
    ∀ row ∈ db table, row.get id ≠ .null := by
  intro row stored
  exact sound.keyed table row stored id (correctable.key ▸ mem_singleton_self id)

theorem Sound.kept (sound : Sound db) (correctable : Correctable table id) (cell : Row → Cell) :
    Kept (readingBy id cell) (db table) := by
  have given := sound.given correctable
  constructor
  · have unique := sound.consistent.unique table _ mem_cons_self
    rw [correctable.key] at unique
    apply pairwise_map.mpr
    apply unique.imp_of_mem
    intro left right leftStored _ apart same
    exact apart (conflicts_single (given left leftStored) same)
  · intro row stored key supersedes
    change supersededId row = some key at supersedes
    unfold supersededId at supersedes
    split at supersedes
    · cases supersedes
    · rename_i something
      cases supersedes
      rcases sound.consistent.closed table row stored _ correctable.own with nothing | found
      · exact absurd nothing something
      · obtain ⟨parent, there, same⟩ := found
        exact mem_map.mpr ⟨parent, there, same⟩

theorem Correctable.key_fresh (correctable : Correctable table id)
    {obj : Entity table} {row : Row} (bound : obj.row = .ok row)
    (admits : Admits schema db table row) : row.get id ∉ (db table).map fun row => row.get id := by
  have present : row.get id ≠ .null := row_keyed bound id (correctable.key ▸ mem_singleton_self id)
  intro listed
  obtain ⟨other, stored, same⟩ := mem_map.mp listed
  have fresh := admits.fresh _ mem_cons_self other stored
  rw [correctable.key] at fresh
  exact fresh (conflicts_single (same ▸ present) same)

theorem Sound.single_add_iff (sound : Sound db) (correctable : Correctable table id)
    (cell : Row → Cell) {obj : Entity table} {row : Row} (bound : obj.row = .ok row)
    (admits : Admits schema db table row) :
    Single (readingBy id cell) (db.add table row table) ↔
      Single (readingBy id cell) (db table) ∧ Corrects (readingBy id cell) (db table) row := by
  have grown : db.add table row table = db table ++ [row] := Function.update_self ..
  rw [grown]
  apply (sound.kept correctable cell).single_snoc_iff (correctable.key_fresh bound admits)
  intro key supersedes
  change supersededId row = some key at supersedes
  unfold supersededId at supersedes
  split at supersedes
  · cases supersedes
  · rename_i something
    cases supersedes
    rcases admits.resolved _ correctable.own with nothing | ⟨parent, there, same⟩
    · exact absurd nothing something
    · change parent ∈ db.add table row table at there
      rw [grown, mem_append, mem_singleton] at there
      rcases there with stored | itself
      · exact .inl (mem_map.mpr ⟨parent, stored, same⟩)
      · right
        rw [itself] at same
        exact same.symm

theorem Sound.mem_active_add (sound : Sound db) (correctable : Correctable table id)
    {obj : Entity table} {row other : Row} (bound : obj.row = .ok row)
    (admits : Admits schema db table row) :
    other ∈ activeRows id (db.add table row table) ↔
      other ∈ activeRows id (db table) ∧
        (row.get "supersedes").equals (other.get id) = false ∨
      other = row ∧ (row.get "supersedes").equals (row.get id) = false := by
  have grown : db.add table row table = db table ++ [row] := Function.update_self ..
  have cell : Row → Unit := fun _ => ()
  rw [activeRows_eq cell ((sound.add bound admits).given correctable),
    activeRows_eq cell (sound.given correctable), grown]
  rw [mem_active_snoc (sound.kept correctable cell) (correctable.key_fresh bound admits)]
  have unequal : ∀ key, (readingBy id cell).supersedes row ≠ some key ↔
      (row.get "supersedes").equals key = false := fun key =>
    (not_congr supersededId_eq_some).trans (Bool.not_eq_true _).to_iff
  rw [unequal, unequal]
  rfl

end

/-! ### The claim in terms of corrections -/

theorem Sound.oneActive_iff {Interval : Type} (interval : Nat → Nat → Interval) {db : Tables}
    (sound : Sound db) : OneActive interval db ↔ Singles db := by
  have trialIds := sound.given trial_correctable
  have gradeIds := sound.given grade_correctable
  have trials : activeTrial db = active trialReading (db .trial) := activeRows_eq cell trialIds
  have grades : activeGrade db = active gradeReading (db .grade) :=
    activeRows_eq (fun grade => grade.get "trial_id") gradeIds
  constructor
  · intro one
    refine ⟨⟨?_, ?_⟩, ⟨?_, ?_⟩⟩
    · rw [← trials]
      exact one.trials
    · intro row stored old oldStored supersedes
      exact one.sameCell row stored old oldStored
        (supersededId_eq_some.mp supersedes)
    · rw [← grades]
      exact one.grades
    · intro row stored old oldStored supersedes
      exact one.sameTrial row stored old oldStored
        (supersededId_eq_some.mp supersedes)
  · rintro ⟨trialSingle, gradeSingle⟩
    have single : ((activeGrade db).map fun grade => grade.get "trial_id").Nodup := by
      rw [grades]
      exact gradeSingle.once
    constructor
    · rw [trials]
      exact trialSingle.once
    · exact single
    · intro row stored old oldStored supersedes
      exact trialSingle.within row stored old oldStored
        (supersededId_eq_some.mpr supersedes)
    · intro row stored old oldStored supersedes
      exact gradeSingle.within row stored old oldStored
        (supersededId_eq_some.mpr supersedes)
    · intro waveId rates done rate listed
      obtain ⟨arm, _, ok⟩ := of_mapM_ok done listed
      obtain ⟨ofTrials, ofVerdicts, ofPasses⟩ := armPassRate_ok interval ok
      rw [ofTrials, ofVerdicts, ofPasses]
      exact ⟨nPass_le db waveId arm.1, nVerdicts_le single waveId arm.1⟩
    · intro waveId
      apply exists_mapM_ok
      intro arm _
      apply exists_armPassRate interval
      exact (nPass_le db waveId arm.1).trans (nVerdicts_le single waveId arm.1)

/-! ### Runs -/

theorem Sound.singles_insert_iff {db after : Tables} (sound : Sound db)
    {entry : (table : TableName) × Entity table}
    (taken : EvalLedger.insertNext db entry = some after) :
    Singles after ↔ Singles db ∧ RowCorrects db entry := by
  obtain ⟨table, obj⟩ := entry
  obtain ⟨row, bound, ⟨impossible, _⟩ | ⟨admits, same⟩⟩ := insertRow_some (insertNext_some taken)
  · cases impossible
  subst same
  have corrects : RowCorrects db ⟨table, obj⟩ ↔
      (table = .trial → Corrects trialReading (db .trial) row) ∧
      (table = .grade → Corrects gradeReading (db .grade) row) := by
    simp only [RowCorrects, bound]
  rw [corrects]
  by_cases inTrials : table = .trial
  · subst inTrials
    have apart : TableName.trial ≠ .grade := by decide
    have grades : db.add .trial row .grade = db .grade := Database.add_of_ne (Ne.symm apart)
    have step : Single trialReading (db.add .trial row .trial) ↔
        Single trialReading (db .trial) ∧ Corrects trialReading (db .trial) row :=
      sound.single_add_iff trial_correctable cell bound admits
    simp only [Singles, grades, step, forall_const, apart, false_implies, and_true]
    exact and_right_comm
  · by_cases inGrades : table = .grade
    · subst inGrades
      have trials : db.add .grade row .trial = db .trial := Database.add_of_ne (Ne.symm inTrials)
      have step : Single gradeReading (db.add .grade row .grade) ↔
          Single gradeReading (db .grade) ∧ Corrects gradeReading (db .grade) row :=
        sound.single_add_iff grade_correctable _ bound admits
      simp only [Singles, trials, step, forall_const, inTrials, false_implies, true_and]
      exact and_assoc.symm
    · have trials : db.add table row .trial = db .trial := Database.add_of_ne (Ne.symm inTrials)
      have grades : db.add table row .grade = db .grade := Database.add_of_ne (Ne.symm inGrades)
      simp only [Singles, trials, grades, inTrials, inGrades, false_implies, and_true]

theorem Sound.singles_next_iff {db after : Tables} (sound : Sound db) {call : Call}
    (taken : EvalLedger.next db call = some after) :
    Singles after ↔ Singles db ∧ CallCorrects db call := by
  rcases perform_cases (next_some taken) with ⟨table, obj, same, allowed, inserted⟩ | replayed
  · subst same
    have kept : ∀ other, registerable other = false → after other = db other := by
      intro other observed
      obtain ⟨row, _, ⟨_, same⟩ | ⟨_, same⟩⟩ := insertRow_some inserted
      · rw [same]
      · rw [same]
        apply Database.add_of_ne
        intro equal
        rw [equal, allowed] at observed
        cases observed
    unfold Singles
    rw [kept .trial rfl, kept .grade rfl]
    exact (and_iff_left trivial).symm
  · exact replay_holds_iff (fun _ _ _ sound taken => sound.insertNext taken)
      (fun _ _ _ sound taken => sound.singles_insert_iff taken) sound replayed

theorem singles_empty : Singles empty :=
  ⟨⟨nodup_nil, nofun⟩, ⟨nodup_nil, nofun⟩⟩

/-- After a run there is one active trial a cell and one active grade a trial, and the pass
rates are computed, if and only if every row of the run corrected when it was appended. -/
theorem one_active_iff {Interval : Type} (interval : Nat → Nat → Interval) {calls : List Call}
    {db : Tables} (run : replay next empty calls = some db) :
    OneActive interval db ↔ Transition.Along next CallCorrects empty calls := by
  have sound := sound_of_reachable ⟨calls, run⟩
  have along := replay_holds_iff (fun _ _ _ sound taken => sound.next taken)
    (fun _ _ _ sound taken => sound.singles_next_iff taken) sound_empty run
  rw [sound.oneActive_iff, along]
  exact and_iff_right singles_empty

theorem one_active_iff_corrected : ∃ db,
    replay next empty (corrected "a" "b") = some db ∧
      OneActive (fun _ _ => ()) db := by
  have whole : (replay next empty (corrected "a" "b")).isSome = true := by
    decide +kernel
  obtain ⟨db, replayed⟩ := Option.isSome_iff_exists.mp whole
  have corrects : Transition.Along next CallCorrects empty (corrected "a" "b") := by
    decide +kernel
  exact ⟨db, replayed, (one_active_iff _ replayed).mpr corrects⟩

/-- A verdict on the trial `"a"`. -/
def passingGrade (id : String) : Entity .grade :=
  { values := [.str id, .str "a", .str "g", .str "pass", .str "pass", .none, .none, .none,
      .str "2026-01-02", .none]
    typed := by repeat first | exact .nil | refine .cons rfl ?_ }

def forked : List Call :=
  oneCell ++ [.appendTrial (cellTrial "a" none), .appendTrial (cellTrial "b" (some "a")),
    .appendTrial (cellTrial "c" (some "a"))]

def gradedTwice : List Call :=
  oneCell ++ [
    .register .planCell { values := [.str "w", .str "arm", .str "t", .int 1, .str "planned"] },
    .appendTrial (cellTrial "a" none), .appendGrade (passingGrade "x"),
    .appendGrade (passingGrade "y")]

/-- Two corrections are active at once, and two grades make the pass rates raise. -/
theorem two_rows_active :
    (∃ db, replay next empty forked = some db ∧ ¬ OneActive (fun _ _ => ()) db) ∧
    ∃ db, replay next empty gradedTwice = some db ∧
      armPassRates (fun _ _ => ()) db "w" =
        .error "invalid successes/total: successes=2, total=1" := by
  constructor
  · have run : (replay next empty forked).map
        (fun db => decide ((activeTrial db).map cell).Nodup) = some false := by decide +kernel
    obtain ⟨db, replayed, repeated⟩ := Option.map_eq_some_iff.mp run
    exact ⟨db, replayed, fun one => of_decide_eq_false repeated one.trials⟩
  · have run : (replay next empty gradedTwice).map
        (fun db => (armPassRates (fun _ _ => ()) db "w").map fun _ => ()) =
          some (.error "invalid successes/total: successes=2, total=1") := by decide +kernel
    obtain ⟨db, replayed, raised⟩ := Option.map_eq_some_iff.mp run
    refine ⟨db, replayed, ?_⟩
    cases rates : armPassRates (fun _ _ => ()) db "w" with
    | ok rates =>
        rw [rates] at raised
        cases raised
    | error message =>
        rw [rates] at raised
        cases raised
        rfl

end EvalLedger

end AgenticRuntime
