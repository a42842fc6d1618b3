/-
Exporting a ledger and importing it again.

The rows of a table are exported in the order of its primary key, and imported one by one
under immediate foreign keys. Only a trial or a grade refers to its own table, so the import
succeeds where no correction sorts before the row it supersedes.
-/

import AgenticRuntime.Evals.Ledger.Integrity

namespace AgenticRuntime

open List

namespace EvalLedger

open Python Sql LedgerStore

def SupersedesEarlier (db : Tables) : Prop :=
  (∀ row ∈ db .trial, row.get "supersedes" = .null ∨
    row.get "supersedes" ≤ row.get "trial_id") ∧
  ∀ row ∈ db .grade, row.get "supersedes" = .null ∨ row.get "supersedes" ≤ row.get "grade_id"

theorem self_references (table : TableName) : ∀ foreignKey ∈ (schema table).foreignKeys,
    foreignKey.parent = table →
      table = .trial ∧ foreignKey = references "supersedes" .trial "trial_id" ∨
      table = .grade ∧ foreignKey = references "supersedes" .grade "grade_id" := by
  cases table <;> decide

theorem refersBack_iff (db : Tables) : RefersBack schema db ↔ SupersedesEarlier db := by
  constructor
  · intro refers
    have ofTrial : references "supersedes" .trial "trial_id" ∈ (schema .trial).foreignKeys := by
      decide
    have ofGrade : references "supersedes" .grade "grade_id" ∈ (schema .grade).foreignKeys := by
      decide
    exact ⟨refers .trial _ ofTrial rfl, refers .grade _ ofGrade rfl⟩
  · rintro ⟨trials, grades⟩ table foreignKey declared own row stored
    rcases self_references table foreignKey declared own with ⟨inTable, same⟩ | ⟨inTable, same⟩
    · subst inTable same
      exact trials row stored
    · subst inTable same
      exact grades row stored

/-! ### Lines -/

theorem bindValue_loads (value : Sql.Value) : bindValue (jsonOf value).loads = .ok value := by
  cases value with
  | null => rfl
  | integer value =>
      change (if _ then _ else _) = _
      rw [if_pos ⟨value.le_toInt, value.toInt_lt⟩, Int64.ofInt_toInt]
  | real value => cases value <;> rfl
  | text text => rfl

theorem sortedEntries_perm (row : Row) : (sortedEntries row).Perm row.entries :=
  perm_insertionSort _ _

theorem insertRecord_canonicalJson {row : Row} (distinct : (row.entries.map Prod.fst).Nodup)
    (table : TableName) (db : Tables) : insertRecord table db (canonicalJson row) =
      wrapIntegrityError (Sql.insert schema false db table (sortedEntries row)) := by
  have names : ((sortedEntries row).map Prod.fst).Nodup :=
    ((sortedEntries_perm row).map Prod.fst).nodup_iff.mpr distinct
  have loaded : (canonicalJson row).loads = .dict ((sortedEntries row).map fun entry =>
      (.str entry.1, (jsonOf entry.2).loads)) := by
    simp only [canonicalJson, Json.loads, loadsMembers_eq, map_map]
    rw [ofMembers_of_distinct]
    · rw [map_map]
      rfl
    · simp only [Items.keys, map_map]
      exact names
  have given : ∀ entries : List (String × Sql.Value),
      (entries.map fun entry => (PyKey.str entry.1, (jsonOf entry.2).loads)).mapM columnOf =
        .ok entries := by
    intro entries
    induction entries with
    | nil => rfl
    | cons entry rest ih =>
        rw [map_cons, mapM_cons, ih]
        simp only [columnOf, bindValue_loads]
        rfl
  simp only [insertRecord, loaded, given]
  rfl

/-! ### Files -/

theorem importTable_eq {db : Tables} (consistent : Consistent schema db) {table : TableName}
    {rows : List Row} (stored : ∀ row ∈ rows, row ∈ db table) (start : Tables) :
    (rows.map canonicalJson).foldlM (insertRecord table) start =
      wrapIntegrityError
        (insertAll schema sortedEntries start (rows.map fun row => (table, row))) := by
  induction rows generalizing start with
  | nil => rfl
  | cons row rest ih =>
      have distinct : (row.entries.map Prod.fst).Nodup := by
        rw [← consistent.shaped table row (stored row mem_cons_self), TableSchema.row_names]
        exact schema_wellFormed.distinct table
      unfold insertAll at ih ⊢
      rw [map_cons, foldlM_cons, map_cons, foldlM_cons, insertRecord_canonicalJson distinct]
      cases inserted : Sql.insert schema false start table (sortedEntries row) with
      | error violation => rfl
      | ok after => exact ih (fun other member => stored other (mem_cons_of_mem _ member)) after

theorem importJsonl_eq {db : Tables} (consistent : Consistent schema db) (start : Tables) :
    importJsonl start (exportJsonl db) =
      wrapIntegrityError
        (insertAll schema sortedEntries start (inKeyOrder schema tableOrder db)) := by
  unfold importJsonl
  generalize tableOrder = tables
  induction tables generalizing start with
  | nil => rfl
  | cons table rest ih =>
      have lines : exportJsonl db table = (ordered schema db table).map canonicalJson := by
        unfold exportJsonl ordered
        rw [pkColumns_eq]
      have stored : ∀ row ∈ ordered schema db table, row ∈ db table :=
        fun row member => (perm_insertionSort _ _).mem_iff.mp member
      unfold inKeyOrder at ih ⊢
      unfold insertAll at ih ⊢
      rw [foldlM_cons, flatMap_cons, foldlM_append, lines, importTable_eq consistent stored]
      unfold insertAll
      cases inserted : List.foldlM (fun db entry => Sql.insert schema false db entry.1
          (sortedEntries entry.2)) start ((ordered schema db table).map fun row =>
            (table, row)) with
      | error violation => rfl
      | ok after => exact ih after

theorem Sound.roundTrips_iff {db : Tables} (sound : Sound db) :
    RoundTrips db ↔ SupersedesEarlier db := by
  have lists : ∀ table, (tablesOf (inKeyOrder schema tableOrder db) table).Perm (db table) := by
    intro table
    rw [tablesOf_inKeyOrder tableOrder_nodup (mem_tableOrder table)]
    exact perm_insertionSort _ _
  have records : ∀ row : Row, (row.entries.map Prod.fst).Nodup →
      (sortedEntries row).Perm row.entries := fun row _ => sortedEntries_perm row
  have imports := sound.consistent.insertAll_iff schema_wellFormed records lists
    (nil_append _).symm
  rw [← refersBack_iff, ← sound.consistent.admissible_iff sound.keyed tableOrder_nodup
    mem_tableOrder schema_parentsFirst]
  unfold RoundTrips
  rw [importJsonl_eq sound.consistent]
  constructor
  · rintro ⟨imported, done, _⟩
    cases inserted : insertAll schema sortedEntries empty
        (inKeyOrder schema tableOrder db) with
    | error violation =>
        rw [inserted] at done
        cases done
    | ok after => exact ((imports after).mp inserted).1
  · intro admissible
    have inserted : insertAll schema sortedEntries empty (inKeyOrder schema tableOrder db) =
        .ok (tablesOf (inKeyOrder schema tableOrder db)) :=
      (imports _).mpr ⟨admissible, rfl⟩
    refine ⟨_, ?_, lists⟩
    rw [inserted]
    rfl

/-- A reachable ledger survives export and import if and only if every correction of a
trial or a grade sorts after the row it supersedes. -/
theorem export_import_iff {db : Tables} (reachable : Reachable db) :
    RoundTrips db ↔ SupersedesEarlier db := by
  have sound := sound_of_reachable reachable
  exact sound.roundTrips_iff

def oneCell : List Call := [
  .register .model { values := [.str "m", .str "openai", .str "gpt", .str "gpt", .none, .none,
    .none, .str "hosted", .none, .str "2026-01-01"] },
  .register .workflow { values := [.str "wf", .str "fix", .str "d", .int 3] },
  .register .grader { values := [.str "g", .str "tests", .str "deterministic", .str "d", .none] },
  .register .image { values := [.str "i", .str "repo", .none, .str "sha256:0", .str "2026-01-01"] },
  .register .taskSet { values := [.str "ts", .str "swe", .str "hub", .str "1", .none, .int 1,
    .none, .str "2026-01-01"] },
  .register .task { values := [.str "t", .str "ts", .str "x-1", .str "repo", .str "c",
    .str "f.py", .str "i", .str "[]", .none, .none, .none, .none, .none, .none] },
  .register .substrate { values := [.str "s", .str "ts", .str "1", .str "d", .str "1", .str "g",
    .str "d"] },
  .register .armConfig { values := [.str "ac", .str "m", .none, .none, .none, .none, .none,
    .none, .none, .str "wf", .str "oracle", .none] },
  .register .campaign { values := [.str "c", .str "first", .str "q", .none, .str "2026-01-01",
    .str "open"] },
  .register .arm { values := [.str "arm", .str "c", .str "base", .str "ac", .str "control"] },
  .register .wave { values := [.str "w", .str "c", .int 1, .str "s", .none, .int 1,
    .str "2026-01-01"] }]

def cellTrial (id : String) (supersedes : Option String) : Entity .trial :=
  { values := [.str "w", .str "arm", .str "t", .int 1, .str id, .str "b", .str "s", .str "ac",
      .str "m", .str "[]", .str "2026-01-01", .none, .none, .str "ok", .none, .none, .none, .none,
      .str "trace", .none, .none, (supersedes.map PyValue.str).getD .none]
    typed := by
      cases supersedes <;> repeat first | exact .nil | refine .cons rfl ?_ }

def supersessions (db : Tables) : List (Sql.Value × Sql.Value) × List (Sql.Value × Sql.Value) :=
  ((db .trial).map fun row => (row.get "trial_id", row.get "supersedes"),
    (db .grade).map fun row => (row.get "grade_id", row.get "supersedes"))

theorem supersedesEarlier_iff (db : Tables) : SupersedesEarlier db ↔
    (∀ entry ∈ (supersessions db).1, entry.2 = .null ∨ entry.2 ≤ entry.1) ∧
      ∀ entry ∈ (supersessions db).2, entry.2 = .null ∨ entry.2 ≤ entry.1 := by
  simp only [SupersedesEarlier, supersessions, forall_mem_map]

def corrected (id correction : String) : List Call :=
  oneCell ++ [.appendTrial (cellTrial id none), .appendTrial (cellTrial correction (some id))]

theorem export_import_iff_ascending : ∃ db,
    Transition.replay next empty (corrected "a" "b") = some db ∧ RoundTrips db := by
  have run : (Transition.replay next empty (corrected "a" "b")).map supersessions =
      some ([(.text "a", .null), (.text "b", .text "a")], []) := by decide +kernel
  obtain ⟨db, replayed, rows⟩ := Option.map_eq_some_iff.mp run
  refine ⟨db, replayed, (export_import_iff ⟨_, replayed⟩).mpr ?_⟩
  rw [supersedesEarlier_iff, rows]
  decide

/-- The correction is exported first, and then nothing is there for it to refer to. -/
theorem export_lost_descending : ∃ db,
    Transition.replay next empty (corrected "b" "a") = some db ∧ ¬ RoundTrips db := by
  have run : (Transition.replay next empty (corrected "b" "a")).map supersessions =
      some ([(.text "b", .null), (.text "a", .text "b")], []) := by decide +kernel
  obtain ⟨db, replayed, rows⟩ := Option.map_eq_some_iff.mp run
  have sound := sound_of_reachable ⟨_, replayed⟩
  refine ⟨db, replayed, ?_⟩
  rw [sound.roundTrips_iff, supersedesEarlier_iff, rows]
  decide

end EvalLedger

end AgenticRuntime
