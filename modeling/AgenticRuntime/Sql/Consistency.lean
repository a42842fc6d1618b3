/-
What holds of the rows of a database that was filled by insertions alone.
-/

import AgenticRuntime.Sql.Tables
import Mathlib.Data.List.Pairwise
import Mathlib.Data.List.Nodup

namespace Sql

open List Function TableSchema

variable {Table : Type}

structure Schema.WellFormed (schema : Schema Table) : Prop where
  distinct : ∀ table, (schema table).columnNames.Nodup
  apart : ∀ table, ∀ guard ∈ (schema table).guards, guard.parent ≠ table
  keyed : ∀ table, ∀ guard ∈ (schema table).guards,
    { columns := [guard.parentKey] } ∈ (schema guard.parent).keys
  backed : ∀ table, ∀ guard ∈ (schema table).guards, ∃ foreignKey ∈ (schema table).foreignKeys,
    foreignKey.column = guard.key ∧ foreignKey.parent = guard.parent ∧
      foreignKey.key = guard.parentKey

structure Consistent (schema : Schema Table) (db : Database Table) : Prop where
  shaped : ∀ table, ∀ row ∈ db table, (schema table).row row.entries = row
  valid : ∀ table, ∀ row ∈ db table, (schema table).Valid row
  unique : ∀ table, ∀ key ∈ (schema table).keys,
    (db table).Pairwise fun left right => ¬ key.Conflicts left right
  closed : ∀ table, ∀ row ∈ db table, ∀ foreignKey ∈ (schema table).foreignKeys,
    foreignKey.Resolves db row
  agreeing : ∀ table, ∀ row ∈ db table, ∀ guard ∈ (schema table).guards,
    ∀ parent ∈ db guard.parent, parent.get guard.parentKey = row.get guard.key →
      row.get guard.key ≠ .null → ¬ guard.Refuses row parent

/-! ### Rows -/

private theorem lookup_map {columns : List Column} (distinct : (columns.map Column.name).Nodup)
    (value : Column → Value) {column : Column} (member : column ∈ columns) :
    (columns.map fun column => (column.name, value column)).lookup column.name =
      some (value column) := by
  induction columns with
  | nil => cases member
  | cons first rest ih =>
      obtain ⟨absent, others⟩ := nodup_cons.mp distinct
      rw [map_cons, lookup_cons]
      rcases List.mem_cons.mp member with same | later
      · rw [same, beq_self_eq_true]
      · have differs : column.name ≠ first.name := by
          intro same
          apply absent
          rw [← same]
          exact mem_map_of_mem later
        rw [beq_false_of_ne differs]
        exact ih others later

variable {table : TableSchema Table}

theorem TableSchema.get_row (distinct : table.columnNames.Nodup) {column : Column}
    (member : column ∈ table.columns) (given : List (String × Value)) :
    (table.row given).get column.name = (given.lookup column.name).getD column.default := by
  unfold row Row.get
  simp only
  rw [lookup_map distinct (fun column => (given.lookup column.name).getD column.default) member]
  rfl

theorem TableSchema.row_row (distinct : table.columnNames.Nodup) (given : List (String × Value)) :
    table.row (table.row given).entries = table.row given := by
  unfold row
  congr 1
  apply map_congr_left
  intro column member
  simp only
  rw [lookup_map distinct (fun column => (given.lookup column.name).getD column.default) member]
  rfl

theorem lookup_perm {left right : List (String × Value)} (same : left.Perm right)
    (distinct : (left.map Prod.fst).Nodup) (name : String) :
    left.lookup name = right.lookup name := by
  induction same with
  | nil => rfl
  | cons entry _ ih =>
      rw [lookup_cons, lookup_cons, ih (nodup_cons.mp distinct).2]
  | swap first second rest =>
      obtain ⟨absent, _⟩ := nodup_cons.mp distinct
      rw [lookup_cons, lookup_cons, lookup_cons, lookup_cons]
      cases atFirst : name == first.1 with
      | false => rfl
      | true =>
          have other : (name == second.1) = false := by
            apply beq_false_of_ne
            intro atSecond
            apply absent
            rw [map_cons, ← atSecond, eq_of_beq atFirst]
            exact mem_cons_self
          rw [other]
  | trans first _ ihFirst ihSecond =>
      rw [ihFirst distinct, ihSecond ((first.map Prod.fst).nodup_iff.mp distinct)]

theorem TableSchema.row_perm {left right : List (String × Value)} (same : left.Perm right)
    (distinct : (left.map Prod.fst).Nodup) :
    table.row left = table.row right := by
  unfold row
  congr 1
  apply map_congr_left
  intro column _
  rw [lookup_perm same distinct]

theorem TableSchema.row_names (table : TableSchema Table) (given : List (String × Value)) :
    (table.row given).entries.map Prod.fst = table.columnNames := by
  simp only [row, map_map, columnNames]
  rfl

/-! ### Keys -/

section

variable {schema : Schema Table} {db : Database Table} {table : Table}

theorem consistent_empty (schema : Schema Table) : Consistent schema fun _ => [] :=
  ⟨nofun, nofun, fun _ _ _ => List.Pairwise.nil, nofun, nofun⟩

theorem ForeignKey.Resolves.grow {foreignKey : ForeignKey Table} {more : Database Table} {row : Row}
    (resolves : foreignKey.Resolves db row)
    (grows : ∀ parent ∈ db foreignKey.parent, parent ∈ more foreignKey.parent) :
    foreignKey.Resolves more row := by
  rcases resolves with nothing | ⟨parent, stored, same⟩
  · exact .inl nothing
  · exact .inr ⟨parent, grows parent stored, same⟩

theorem Consistent.eq_of_key (consistent : Consistent schema db) {key : UniqueKey}
    (declared : key ∈ (schema table).keys) {left right : Row} (leftStored : left ∈ db table)
    (rightStored : right ∈ db table) (conflicts : key.Conflicts left right) : left = right := by
  by_contra differs
  have symmetric : Std.Symm fun left right => ¬ key.Conflicts left right :=
    ⟨fun _ _ apart conflicts => apart ⟨conflicts.2.1, conflicts.1, conflicts.2.2.symm⟩⟩
  exact (consistent.unique table key declared).forall leftStored rightStored differs conflicts

theorem conflicts_single {column : String} {left right : Row} (given : left.get column ≠ .null)
    (same : left.get column = right.get column) :
    UniqueKey.Conflicts { columns := [column] } left right := by
  have covers : ∀ row : Row, row.get column ≠ .null →
      UniqueKey.Covers { columns := [column] } row := by
    intro row present
    refine ⟨?_, nofun⟩
    intro other member
    rw [mem_singleton.mp member]
    exact present
  refine ⟨covers left given, covers right (same ▸ given), ?_⟩
  exact congrArg (fun value => [value]) same

theorem Guard.found_some {guard : Guard Table} {row parent : Row}
    (found : guard.found db row = some parent) : parent ∈ db guard.parent ∧
      parent.get guard.parentKey = row.get guard.key ∧ row.get guard.key ≠ .null := by
  have reads := List.find?_some found
  exact ⟨mem_of_find?_eq_some found, by simpa using reads⟩

theorem Consistent.found (wellFormed : schema.WellFormed) (consistent : Consistent schema db)
    {guard : Guard Table} (declared : guard ∈ (schema table).guards) {row parent : Row}
    (stored : parent ∈ db guard.parent) (same : parent.get guard.parentKey = row.get guard.key)
    (given : row.get guard.key ≠ .null) : guard.found db row = some parent := by
  obtain ⟨first, hit⟩ : ∃ first, guard.found db row = some first := by
    apply Option.isSome_iff_exists.mp
    exact List.find?_isSome.mpr ⟨parent, stored, decide_eq_true ⟨same, given⟩⟩
  obtain ⟨kept, matching, _⟩ := Guard.found_some hit
  rw [hit]
  congr 1
  apply consistent.eq_of_key (wellFormed.keyed table guard declared) kept stored
  exact conflicts_single (matching ▸ given) (matching.trans same.symm)

end

/-! ### One more row -/

section

variable [DecidableEq Table] {schema : Schema Table} {db : Database Table} {table : Table} {row : Row}

theorem Database.mem_add {other : Table} {stored : Row} :
    stored ∈ db.add table row other ↔ stored ∈ db other ∨ other = table ∧ stored = row := by
  unfold Database.add
  by_cases same : other = table
  · subst same
    rw [update_self, mem_append, mem_singleton]
    simp only [true_and]
  · rw [update_of_ne same]
    simp only [same, false_and, or_false]

theorem Database.add_of_ne {other : Table} (differs : other ≠ table) :
    db.add table row other = db other := by
  unfold Database.add
  rw [update_of_ne differs]

theorem Consistent.add (wellFormed : schema.WellFormed) (consistent : Consistent schema db)
    (shaped : (schema table).row row.entries = row) (admits : Admits schema db table row) :
    Consistent schema (db.add table row) := by
  have grows : ∀ other, ∀ stored ∈ db other, stored ∈ db.add table row other :=
    fun _ _ stored => Database.mem_add.mpr (.inl stored)
  constructor
  · intro other stored member
    rcases Database.mem_add.mp member with old | ⟨same, new⟩
    · exact consistent.shaped other stored old
    · rw [same, new]
      exact shaped
  · intro other stored member
    rcases Database.mem_add.mp member with old | ⟨same, new⟩
    · exact consistent.valid other stored old
    · rw [same, new]
      exact admits.valid
  · intro other key declared
    unfold Database.add
    by_cases same : other = table
    · subst same
      rw [update_self]
      apply pairwise_append.mpr
      refine ⟨consistent.unique other key declared, pairwise_singleton _ _, ?_⟩
      intro stored member added new
      rw [mem_singleton.mp new]
      exact admits.fresh key declared stored member
    · rw [update_of_ne same]
      exact consistent.unique other key declared
  · intro other stored member foreignKey declared
    rcases Database.mem_add.mp member with old | ⟨same, new⟩
    · exact (consistent.closed other stored old foreignKey declared).grow (grows _)
    · rw [new]
      rw [same] at declared
      exact admits.resolved foreignKey declared
  · intro other stored member guard declared parent read same given
    rcases Database.mem_add.mp member with old | ⟨atTable, new⟩
    · rcases Database.mem_add.mp read with before | ⟨atParent, added⟩
      · exact consistent.agreeing other stored old guard declared parent before same given
      · -- the parent of a stored row is there already, so the added row has another key
        obtain ⟨foreignKey, listed, column, toParent, key⟩ := wellFormed.backed other guard declared
        rcases consistent.closed other stored old foreignKey listed with nothing | found
        · rw [column] at nothing
          exact absurd nothing given
        · obtain ⟨first, kept, matching⟩ := found
          rw [toParent, atParent] at kept
          rw [key, column] at matching
          have unique := wellFormed.keyed other guard declared
          rw [atParent] at unique
          refine absurd ?_ (admits.fresh _ unique first kept)
          rw [← added]
          exact conflicts_single (matching ▸ given) (matching.trans same.symm)
    · rw [atTable] at declared
      rw [new] at same given ⊢
      rcases Database.mem_add.mp read with before | ⟨impossible, _⟩
      · have quiet := admits.quiet guard declared
        unfold Guard.aborts at quiet
        have found := consistent.found wellFormed declared before same given
        rw [found] at quiet
        intro refuses
        have aborts : (some parent).any (fun parent => guard.Refuses row parent) = true :=
          decide_eq_true refuses
        rw [aborts] at quiet
        cases quiet
      · exact absurd impossible (wellFormed.apart table guard declared)

end

end Sql
