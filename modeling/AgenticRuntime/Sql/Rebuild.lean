/-
Filling an empty database with the rows of another one.

The only constraint that the order of the rows can break is a foreign key: the row it refers
to has to stand in its table first. Where parent tables come first and each table comes in
the order of its primary key, that is left to the references of a table to itself.
-/

import AgenticRuntime.Sql.Consistency
import Mathlib.Data.List.Sort
import Mathlib.Data.List.Lex

namespace Sql

open List hiding le_antisymm le_refl le_total le_trans lt_asymm lt_irrefl

variable {Table : Type} [DecidableEq Table]

def tablesOf (rows : List (Table × Row)) : Database Table := fun table =>
  rows.filterMap fun entry => if entry.1 = table then some entry.2 else none

variable (schema : Schema Table)

def insertAll (record : Row → List (String × Value)) :
    Database Table → List (Table × Row) → Except Violation (Database Table) :=
  List.foldlM fun db entry => insert schema false db entry.1 (record entry.2)

def AdmissibleAfter (earlier later : List (Table × Row)) : Prop :=
  ∀ before table row behind, later = before ++ (table, row) :: behind →
    ∀ foreignKey ∈ (schema table).foreignKeys,
      foreignKey.Resolves (tablesOf (earlier ++ before ++ [(table, row)])) row

theorem admissibleAfter_cons {schema : Schema Table} {earlier later : List (Table × Row)}
    {table : Table} {row : Row} :
    AdmissibleAfter schema earlier ((table, row) :: later) ↔
      (∀ foreignKey ∈ (schema table).foreignKeys,
        foreignKey.Resolves (tablesOf (earlier ++ [(table, row)])) row) ∧
      AdmissibleAfter schema (earlier ++ [(table, row)]) later := by
  constructor
  · intro admissible
    constructor
    · have resolves := admissible [] table row later rfl
      rw [append_nil] at resolves
      exact resolves
    · intro before other stored behind split
      have resolves := admissible ((table, row) :: before) other stored behind
        (congrArg (List.cons (table, row)) split)
      rw [append_cons earlier] at resolves
      exact resolves
  · rintro ⟨resolved, rest⟩ before other stored behind split
    cases before with
    | nil =>
        cases split
        rw [append_nil]
        exact resolved
    | cons head before =>
        obtain ⟨same, tail⟩ := cons_eq_cons.mp split
        rw [← same, append_cons earlier]
        exact rest before other stored behind tail

theorem mem_tablesOf {rows : List (Table × Row)} {table : Table} {row : Row} :
    row ∈ tablesOf rows table ↔ (table, row) ∈ rows := by
  unfold tablesOf
  rw [mem_filterMap]
  constructor
  · rintro ⟨entry, member, taken⟩
    split at taken
    · rename_i same
      cases taken
      rw [← same]
      exact member
    · cases taken
  · intro member
    exact ⟨(table, row), member, if_pos rfl⟩

theorem tablesOf_snoc (rows : List (Table × Row)) (table : Table) (row : Row) :
    tablesOf (rows ++ [(table, row)]) = Database.add (tablesOf rows) table row := by
  funext other
  unfold tablesOf Database.add
  rw [filterMap_append]
  by_cases same : other = table
  · subst same
    rw [Function.update_self]
    congr 1
    exact filterMap_cons_some (if_pos rfl)
  · rw [Function.update_of_ne same, filterMap_cons_none, filterMap_nil, append_nil]
    exact if_neg (Ne.symm same)

section

variable {schema : Schema Table} {db : Database Table} {record : Row → List (String × Value)}
  {rows : List (Table × Row)}

variable {earlier later : List (Table × Row)}

theorem Consistent.admits_again (consistent : Consistent schema db)
    (lists : ∀ table, (tablesOf rows table).Perm (db table)) {table : Table} {row : Row}
    (split : rows = earlier ++ (table, row) :: later) :
    Admits schema (tablesOf earlier) table row ↔ ∀ foreignKey ∈ (schema table).foreignKeys,
      foreignKey.Resolves (tablesOf (earlier ++ [(table, row)])) row := by
  have kept : ∀ other stored, stored ∈ tablesOf earlier other → stored ∈ db other := by
    intro other stored member
    apply (lists other).mem_iff.mp
    rw [mem_tablesOf, split]
    exact mem_append_left _ (mem_tablesOf.mp member)
  have stored : row ∈ db table := by
    apply (lists table).mem_iff.mp
    rw [mem_tablesOf, split]
    exact mem_append_right _ mem_cons_self
  rw [tablesOf_snoc]
  constructor
  · exact fun admits => admits.resolved
  · intro resolved
    refine ⟨?_, consistent.valid table row stored, ?_, resolved⟩
    · intro guard declared
      unfold Guard.aborts
      cases found : guard.found (tablesOf earlier) row with
      | none => rfl
      | some parent =>
          obtain ⟨read, same, given⟩ := Guard.found_some found
          apply decide_eq_false
          exact consistent.agreeing table row stored guard declared parent (kept _ _ read) same
            given
    · intro key declared other before conflicts
      have symmetric : ∀ {left right : Row}, ¬ key.Conflicts left right →
          ¬ key.Conflicts right left :=
        fun apart conflicts => apart ⟨conflicts.2.1, conflicts.1, conflicts.2.2.symm⟩
      have apart : (tablesOf rows table).Pairwise fun left right => ¬ key.Conflicts left right :=
        ((lists table).pairwise_iff symmetric).mpr (consistent.unique table key declared)
      have whole : tablesOf rows table =
          tablesOf earlier table ++ row :: tablesOf later table := by
        rw [split]
        unfold tablesOf
        rw [filterMap_append]
        congr 1
        exact filterMap_cons_some (if_pos rfl)
      rw [whole] at apart
      exact (pairwise_append.mp apart).2.2 other before row mem_cons_self conflicts

theorem Consistent.insert_again (wellFormed : schema.WellFormed) (consistent : Consistent schema db)
    (records : ∀ row, (row.entries.map Prod.fst).Nodup → (record row).Perm row.entries)
    (lists : ∀ table, (tablesOf rows table).Perm (db table)) {table : Table} {row : Row}
    (split : rows = earlier ++ (table, row) :: later) (after : Database Table) :
    Sql.insert schema false (tablesOf earlier) table (record row) = .ok after ↔
      (∀ foreignKey ∈ (schema table).foreignKeys,
        foreignKey.Resolves (tablesOf (earlier ++ [(table, row)])) row) ∧
      after = tablesOf (earlier ++ [(table, row)]) := by
  have stored : row ∈ db table := by
    apply (lists table).mem_iff.mp
    rw [mem_tablesOf, split]
    exact mem_append_right _ mem_cons_self
  have shape := consistent.shaped table row stored
  have names : row.entries.map Prod.fst = (schema table).columnNames := by
    rw [← shape]
    exact TableSchema.row_names _ _
  have distinct : (row.entries.map Prod.fst).Nodup := by
    rw [names]
    exact wellFormed.distinct table
  have same := records row distinct
  have rebuilt : (schema table).row (record row) = row := by
    rw [TableSchema.row_perm same ((same.map Prod.fst).nodup_iff.mpr distinct), shape]
  have known : ∀ entry ∈ record row, entry.1 ∈ (schema table).columnNames := by
    intro entry member
    rw [← names]
    exact mem_map_of_mem (same.mem_iff.mp member)
  rw [insert_ok_iff known, rebuilt, consistent.admits_again lists split, tablesOf_snoc]

theorem Consistent.insertAll_iff (wellFormed : schema.WellFormed)
    (consistent : Consistent schema db)
    (records : ∀ row, (row.entries.map Prod.fst).Nodup → (record row).Perm row.entries)
    (lists : ∀ table, (tablesOf rows table).Perm (db table)) (split : rows = earlier ++ later)
    (after : Database Table) :
    insertAll schema record (tablesOf earlier) later = .ok after ↔
      AdmissibleAfter schema earlier later ∧ after = tablesOf rows := by
  induction later generalizing earlier with
  | nil =>
      rw [append_nil] at split
      subst split
      constructor
      · intro inserted
        cases inserted
        refine ⟨?_, rfl⟩
        intro before table row behind impossible
        cases before <;> cases impossible
      · rintro ⟨_, same⟩
        rw [same]
        rfl
  | cons entry later ih =>
      obtain ⟨table, row⟩ := entry
      have next := consistent.insert_again wellFormed records lists split
      have shifted : rows = (earlier ++ [(table, row)]) ++ later := by
        rw [split, append_assoc]
        rfl
      rw [admissibleAfter_cons, and_assoc, ← ih shifted]
      unfold insertAll
      rw [foldlM_cons]
      constructor
      · intro inserted
        cases first : Sql.insert schema false (tablesOf earlier) table (record row) with
        | error violation =>
            simp only [first] at inserted
            cases inserted
        | ok middle =>
            obtain ⟨resolved, same⟩ := (next middle).mp first
            simp only [first] at inserted
            rw [same] at inserted
            exact ⟨resolved, inserted⟩
      · rintro ⟨resolved, inserted⟩
        have first := (next _).mpr ⟨resolved, rfl⟩
        simp only [first]
        exact inserted

end

/-! ### Tables in the order of their primary keys -/

def TableSchema.keyOf (table : TableSchema Table) (row : Row) : List Value :=
  table.primaryKey.map row.get

/-- `ORDER BY columns` -/
def orderedBy (columns : List String) (rows : List Row) : List Row :=
  rows.insertionSort fun left right => columns.map left.get ≤ columns.map right.get

def ordered (db : Database Table) (table : Table) : List Row :=
  orderedBy (schema table).primaryKey (db table)

def inKeyOrder (tables : List Table) (db : Database Table) :
    List (Table × Row) :=
  tables.flatMap fun table => (ordered schema db table).map fun row => (table, row)

def ParentsFirst (tables : List Table) : Prop :=
  ∀ table ∈ tables, ∀ foreignKey ∈ (schema table).foreignKeys,
    tables.idxOf foreignKey.parent < tables.idxOf table ∨
      foreignKey.parent = table ∧ (schema table).primaryKey = [foreignKey.key]

def RefersBack (db : Database Table) : Prop :=
  ∀ table, ∀ foreignKey ∈ (schema table).foreignKeys, foreignKey.parent = table →
    ∀ row ∈ db table, row.get foreignKey.column = .null ∨
      row.get foreignKey.column ≤ row.get foreignKey.key

def Keyed (db : Database Table) : Prop :=
  ∀ table, ∀ row ∈ db table, ∀ column ∈ (schema table).primaryKey, row.get column ≠ .null

section

variable {schema : Schema Table} {db : Database Table} {tables : List Table}

theorem tablesOf_inKeyOrder (distinct : tables.Nodup) {table : Table} (listed : table ∈ tables) :
    tablesOf (inKeyOrder schema tables db) table = ordered schema db table := by
  have each : ∀ other, ((ordered schema db other).map fun row => (other, row)).filterMap
      (fun entry => if entry.1 = table then some entry.2 else none) =
        if other = table then ordered schema db table else [] := by
    intro other
    rw [filterMap_map]
    by_cases same : other = table
    · subst same
      rw [if_pos rfl]
      have all : ((fun entry : Table × Row => if entry.1 = other then some entry.2 else none) ∘
          fun row => (other, row)) = some := funext fun _ => if_pos rfl
      rw [all, filterMap_some]
    · rw [if_neg same]
      apply filterMap_eq_nil_iff.mpr
      intro row _
      exact if_neg same
  unfold tablesOf inKeyOrder
  rw [filterMap_flatMap]
  simp only [each]
  clear each
  induction tables with
  | nil => cases listed
  | cons first rest ih =>
      obtain ⟨absent, others⟩ := nodup_cons.mp distinct
      rw [flatMap_cons]
      by_cases same : first = table
      · subst same
        have nothing : rest.flatMap (fun other =>
            if other = first then ordered schema db first else []) = [] := by
          apply flatMap_eq_nil_iff.mpr
          intro other member
          apply if_neg
          intro same
          exact absent (same ▸ member)
        rw [if_pos rfl, nothing, append_nil]
      · rw [if_neg same, nil_append]
        exact ih others ((List.mem_cons.mp listed).resolve_left (Ne.symm same))

private def position (schema : Schema Table) (tables : List Table) (entry : Table × Row) :
    ℕ ×ₗ List Value :=
  toLex (tables.idxOf entry.1, (schema entry.1).keyOf entry.2)

omit [DecidableEq Table] in
private theorem ordered_strict (consistent : Consistent schema db) (keyed : Keyed schema db)
    (table : Table) : (ordered schema db table).Pairwise fun left right =>
      (schema table).keyOf left < (schema table).keyOf right := by
  let below (left right : Row) : Prop := (schema table).keyOf left ≤ (schema table).keyOf right
  have total : Std.Total below := ⟨fun left right => le_total _ _⟩
  have transitive : IsTrans Row below := ⟨fun _ _ _ first second => le_trans first second⟩
  have sorted : (ordered schema db table).Pairwise below := pairwise_insertionSort below (db table)
  have same : (ordered schema db table).Perm (db table) := perm_insertionSort below (db table)
  have symmetric : ∀ {left right : Row},
      ¬ UniqueKey.Conflicts { columns := (schema table).primaryKey } left right →
      ¬ UniqueKey.Conflicts { columns := (schema table).primaryKey } right left :=
    fun apart conflicts => apart ⟨conflicts.2.1, conflicts.1, conflicts.2.2.symm⟩
  have distinct := (same.pairwise_iff symmetric).mpr
    (consistent.unique table { columns := (schema table).primaryKey } mem_cons_self)
  apply (sorted.and distinct).imp_of_mem
  rintro left right leftListed rightListed ⟨atMost, apart⟩
  apply lt_of_le_of_ne atMost
  intro sameKey
  have covers : ∀ row ∈ ordered schema db table,
      UniqueKey.Covers { columns := (schema table).primaryKey } row :=
    fun row listed => ⟨keyed table row (same.mem_iff.mp listed), nofun⟩
  exact apart ⟨covers left leftListed, covers right rightListed, sameKey⟩

private theorem inKeyOrder_strict (consistent : Consistent schema db) (keyed : Keyed schema db)
    (distinct : tables.Nodup) : (inKeyOrder schema tables db).Pairwise fun left right =>
      position schema tables left < position schema tables right := by
  apply pairwise_flatMap.mpr
  constructor
  · intro table _
    apply pairwise_map.mpr
    apply (ordered_strict consistent keyed table).imp
    intro left right less
    exact Prod.Lex.toLex_lt_toLex.mpr (.inr ⟨rfl, less⟩)
  · apply pairwise_iff_getElem.mpr
    intro i j inside within less left fromLeft right fromRight
    obtain ⟨_, _, sameLeft⟩ := mem_map.mp fromLeft
    obtain ⟨_, _, sameRight⟩ := mem_map.mp fromRight
    rw [← sameLeft, ← sameRight]
    apply Prod.Lex.toLex_lt_toLex.mpr
    left
    simp only
    rw [distinct.idxOf_getElem, distinct.idxOf_getElem]
    exact less

theorem Consistent.admissible_iff (consistent : Consistent schema db) (keyed : Keyed schema db)
    (distinct : tables.Nodup) (complete : ∀ table, table ∈ tables)
    (parents : ParentsFirst schema tables) :
    AdmissibleAfter schema [] (inKeyOrder schema tables db) ↔ RefersBack schema db := by
  have strict := inKeyOrder_strict consistent keyed distinct
  have listed : ∀ table row, (table, row) ∈ inKeyOrder schema tables db ↔ row ∈ db table := by
    intro table row
    rw [← mem_tablesOf, tablesOf_inKeyOrder distinct (complete table)]
    exact (perm_insertionSort _ _).mem_iff
  constructor
  · intro admissible table foreignKey declared own row stored
    obtain ⟨before, behind, split⟩ := append_of_mem ((listed table row).mpr stored)
    have resolves := admissible before table row behind split foreignKey declared
    rw [nil_append] at resolves
    rcases resolves with nothing | ⟨parent, earlier, same⟩
    · exact .inl nothing
    · right
      rw [own, mem_tablesOf, mem_append, mem_singleton] at earlier
      rw [← same]
      rcases earlier with earlier | itself
      · rw [split] at strict
        have less := (pairwise_append.mp strict).2.2 _ earlier _ mem_cons_self
        have key : (schema table).primaryKey = [foreignKey.key] := by
          rcases parents table (complete table) foreignKey declared with impossible | ⟨_, key⟩
          · rw [own] at impossible
            exact absurd impossible (lt_irrefl _)
          · exact key
        rcases Prod.Lex.toLex_lt_toLex.mp less with impossible | ⟨_, less⟩
        · exact absurd impossible (lt_irrefl _)
        · simp only [TableSchema.keyOf, key, map_cons, map_nil] at less
          exact head_le_of_lt less
      · cases itself
        exact le_refl _
  · intro refers before table row behind split foreignKey declared
    rw [nil_append]
    have stored : row ∈ db table := by
      rw [← listed, split]
      exact mem_append_right _ mem_cons_self
    rcases consistent.closed table row stored foreignKey declared with nothing | found
    · exact .inl nothing
    · obtain ⟨parent, kept, same⟩ := found
      refine .inr ⟨parent, ?_, same⟩
      rw [mem_tablesOf, mem_append, mem_singleton]
      have member := (listed foreignKey.parent parent).mpr kept
      rw [split] at member strict
      rcases mem_append.mp member with earlier | later
      · exact .inl earlier
      · right
        rcases List.mem_cons.mp later with itself | later
        · exact itself
        · exfalso
          have less := (pairwise_cons.mp (pairwise_append.mp strict).2.1).1 _ later
          rcases parents table (complete table) foreignKey declared with sooner | ⟨own, key⟩
          · rcases Prod.Lex.toLex_lt_toLex.mp less with after | ⟨level, _⟩
            · exact absurd after (lt_asymm sooner)
            · simp only at level
              rw [level] at sooner
              exact absurd sooner (lt_irrefl _)
          · rcases Prod.Lex.toLex_lt_toLex.mp less with after | ⟨_, less⟩
            · rw [own] at after
              exact absurd after (lt_irrefl _)
            · rw [own] at less
              simp only [TableSchema.keyOf, key, map_cons, map_nil] at less
              have inTable : parent ∈ db table := own ▸ kept
              have given : parent.get foreignKey.key ≠ .null :=
                keyed table parent inTable foreignKey.key (key ▸ mem_singleton_self _)
              rcases refers table foreignKey declared own row stored with nothing | atMost
              · exact given (same.trans nothing)
              · rw [← same] at atMost
                rw [le_antisymm (head_le_of_lt less) atMost] at less
                exact absurd less (lt_irrefl _)

end

end Sql
