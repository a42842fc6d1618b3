/-
Tables under constraints, and the insertion of one row.

A schema gives each table its columns, keys, checks, foreign keys and the triggers that
may refuse a row before it is inserted. Foreign keys are immediate: they are checked when
the row stands in its table, so that a row may refer to itself.
-/

import AgenticRuntime.Sql.Values
import Mathlib.Logic.Function.Basic

namespace Sql

structure Column where
  name : String
  notNull : Bool := false
  default : Value := .null

/-- A unique index, over the rows in which the columns `whereNull` are NULL. -/
structure UniqueKey where
  columns : List String
  whereNull : List String := []
  deriving DecidableEq

structure ForeignKey (Table : Type) where
  column : String
  parent : Table
  key : String
  deriving DecidableEq

inductive Operand where
  | column (name : String)
  | literal (text : String)

/-- `BEFORE INSERT WHEN expected <> (SELECT read FROM parent WHERE parentKey = NEW.key)`,
raising `message`. -/
structure Guard (Table : Type) where
  key : String
  parent : Table
  parentKey : String
  read : String
  expected : Operand
  message : String

structure TableSchema (Table : Type) where
  columns : List Column
  primaryKey : List String
  uniques : List UniqueKey := []
  checks : List Check := []
  foreignKeys : List (ForeignKey Table) := []
  guards : List (Guard Table) := []

abbrev Schema (Table : Type) := Table → TableSchema Table

abbrev Database (Table : Type) := Table → List Row

inductive Violation where
  | noColumn
  | raised (message : String)
  | notNull (column : String)
  | check
  | unique (columns : List String)
  | foreignKey (column : String)
  deriving DecidableEq, Repr

/-! ### Constraints -/

def UniqueKey.Covers (key : UniqueKey) (row : Row) : Prop :=
  (∀ column ∈ key.columns, row.get column ≠ .null) ∧
    ∀ column ∈ key.whereNull, row.get column = .null

instance (key : UniqueKey) (row : Row) : Decidable (key.Covers row) :=
  inferInstanceAs (Decidable (_ ∧ _))

def UniqueKey.Conflicts (key : UniqueKey) (left right : Row) : Prop :=
  key.Covers left ∧ key.Covers right ∧ key.columns.map left.get = key.columns.map right.get

instance (key : UniqueKey) (left right : Row) : Decidable (key.Conflicts left right) :=
  inferInstanceAs (Decidable (_ ∧ _))

def Operand.eval (row : Row) : Operand → Value
  | .column name => row.get name
  | .literal text => .text text

namespace TableSchema

variable {Table : Type} (table : TableSchema Table)

def columnNames : List String := table.columns.map Column.name

def keys : List UniqueKey := { columns := table.primaryKey } :: table.uniques

/-- The row that is inserted where `given` are the columns and values of the statement. -/
def row (given : List (String × Value)) : Row :=
  { entries := table.columns.map fun column =>
      (column.name, (given.lookup column.name).getD column.default) }

def MissesColumn (row : Row) (column : Column) : Prop :=
  column.notNull = true ∧ row.get column.name = .null

instance (row : Row) (column : Column) : Decidable (MissesColumn row column) :=
  inferInstanceAs (Decidable (_ ∧ _))

end TableSchema

section

variable {Table : Type}

def ForeignKey.Resolves (foreignKey : ForeignKey Table) (db : Database Table) (row : Row) : Prop :=
  row.get foreignKey.column = .null ∨
    ∃ parent ∈ db foreignKey.parent, parent.get foreignKey.key = row.get foreignKey.column

instance (foreignKey : ForeignKey Table) (db : Database Table) (row : Row) :
    Decidable (foreignKey.Resolves db row) :=
  inferInstanceAs (Decidable (_ ∨ _))

def Guard.found (guard : Guard Table) (db : Database Table) (row : Row) : Option Row :=
  (db guard.parent).find? fun parent =>
    parent.get guard.parentKey = row.get guard.key ∧ row.get guard.key ≠ .null

/-- `<>` between a value of the row and one of the row that was read. -/
def Guard.Refuses (guard : Guard Table) (row parent : Row) : Prop :=
  guard.expected.eval row ≠ .null ∧ parent.get guard.read ≠ .null ∧
    guard.expected.eval row ≠ parent.get guard.read

instance (guard : Guard Table) (row parent : Row) : Decidable (guard.Refuses row parent) :=
  inferInstanceAs (Decidable (_ ∧ _))

def Guard.aborts (guard : Guard Table) (db : Database Table) (row : Row) : Bool :=
  (guard.found db row).any fun parent => guard.Refuses row parent

variable [DecidableEq Table]

def Database.add (db : Database Table) (table : Table) (row : Row) : Database Table :=
  Function.update db table (db table ++ [row])

/-- `INSERT INTO table (columns) VALUES (values)`, with `ON CONFLICT DO NOTHING` where
conflicts are ignored. -/
def insert (schema : Schema Table) (ignoreConflicts : Bool) (db : Database Table) (table : Table)
    (given : List (String × Value)) : Except Violation (Database Table) :=
  let row := (schema table).row given
  let after := db.add table row
  if ¬ ∀ entry ∈ given, entry.1 ∈ (schema table).columnNames then .error .noColumn
  else match (schema table).guards.find? fun guard => guard.aborts db row with
  | some guard => .error (.raised guard.message)
  | none =>
  match (schema table).columns.find? fun column => TableSchema.MissesColumn row column with
  | some column => .error (.notNull column.name)
  | none =>
  if ∃ check ∈ (schema table).checks, check.eval row = some false then .error .check
  else match (schema table).keys.find? fun key =>
      ∃ other ∈ db table, key.Conflicts other row with
  | some key => if ignoreConflicts then .ok db else .error (.unique key.columns)
  | none =>
  match (schema table).foreignKeys.find? fun foreignKey => ¬ foreignKey.Resolves after row with
  | some foreignKey => .error (.foreignKey foreignKey.column)
  | none => .ok after

/-! ### What is inserted -/

structure TableSchema.Valid (table : TableSchema Table) (row : Row) : Prop where
  present : ∀ column ∈ table.columns, ¬ TableSchema.MissesColumn row column
  checked : ∀ check ∈ table.checks, check.eval row ≠ some false

structure Admits (schema : Schema Table) (db : Database Table) (table : Table) (row : Row) :
    Prop where
  quiet : ∀ guard ∈ (schema table).guards, guard.aborts db row = false
  valid : (schema table).Valid row
  fresh : ∀ key ∈ (schema table).keys, ∀ other ∈ db table, ¬ key.Conflicts other row
  resolved : ∀ foreignKey ∈ (schema table).foreignKeys,
    foreignKey.Resolves (db.add table row) row

variable {schema : Schema Table} {db after : Database Table} {table : Table}
  {given : List (String × Value)}

theorem insert_some {ignoreConflicts : Bool}
    (inserted : insert schema ignoreConflicts db table given = .ok after) :
    ignoreConflicts = true ∧ after = db ∨
      Admits schema db table ((schema table).row given) ∧
        after = db.add table ((schema table).row given) := by
  unfold insert at inserted
  simp only at inserted
  split at inserted
  · cases inserted
  split at inserted
  · cases inserted
  rename_i quiet
  split at inserted
  · cases inserted
  rename_i present
  split at inserted
  · cases inserted
  rename_i checked
  split at inserted
  · split at inserted
    · rename_i ignored
      cases inserted
      exact .inl ⟨ignored, rfl⟩
    · cases inserted
  rename_i fresh
  split at inserted
  · cases inserted
  rename_i resolved
  cases inserted
  refine .inr ⟨⟨?_, ⟨?_, ?_⟩, ?_, ?_⟩, rfl⟩
  · intro guard member
    exact Bool.eq_false_of_not_eq_true (List.find?_eq_none.mp quiet guard member)
  · intro column member missing
    exact List.find?_eq_none.mp present column member (decide_eq_true missing)
  · intro check member failed
    exact checked ⟨check, member, failed⟩
  · intro key member other stored conflict
    exact List.find?_eq_none.mp fresh key member (decide_eq_true ⟨other, stored, conflict⟩)
  · intro foreignKey member
    by_contra dangling
    exact List.find?_eq_none.mp resolved foreignKey member (decide_eq_true dangling)

theorem insert_of_admits (ignoreConflicts : Bool)
    (known : ∀ entry ∈ given, entry.1 ∈ (schema table).columnNames)
    (admits : Admits schema db table ((schema table).row given)) :
    insert schema ignoreConflicts db table given =
      .ok (db.add table ((schema table).row given)) := by
  have quiet : (schema table).guards.find? (fun guard =>
      guard.aborts db ((schema table).row given)) = none := by
    apply List.find?_eq_none.mpr
    intro guard member aborts
    rw [admits.quiet guard member] at aborts
    cases aborts
  have present : (schema table).columns.find? (fun column =>
      TableSchema.MissesColumn ((schema table).row given) column) = none := by
    apply List.find?_eq_none.mpr
    intro column member missing
    exact admits.valid.present column member (of_decide_eq_true missing)
  have checked : ¬ ∃ check ∈ (schema table).checks,
      check.eval ((schema table).row given) = some false := by
    rintro ⟨check, member, failed⟩
    exact admits.valid.checked check member failed
  have fresh : (schema table).keys.find? (fun key =>
      ∃ other ∈ db table, key.Conflicts other ((schema table).row given)) = none := by
    apply List.find?_eq_none.mpr
    intro key member conflict
    obtain ⟨other, stored, conflicts⟩ := of_decide_eq_true conflict
    exact admits.fresh key member other stored conflicts
  have resolved : (schema table).foreignKeys.find? (fun foreignKey => ¬ foreignKey.Resolves
      (db.add table ((schema table).row given)) ((schema table).row given)) = none := by
    apply List.find?_eq_none.mpr
    intro foreignKey member dangling
    exact of_decide_eq_true dangling (admits.resolved foreignKey member)
  simp only [insert, not_not.mpr known, if_false, quiet, present, checked, fresh, resolved]

theorem insert_ok_iff (known : ∀ entry ∈ given, entry.1 ∈ (schema table).columnNames) :
    insert schema false db table given = .ok after ↔
      Admits schema db table ((schema table).row given) ∧
        after = db.add table ((schema table).row given) := by
  constructor
  · intro inserted
    rcases insert_some inserted with ⟨impossible, _⟩ | added
    · cases impossible
    · exact added
  · rintro ⟨admits, same⟩
    rw [same]
    exact insert_of_admits false known admits

end

end Sql
