/-
What holds of every ledger that calls have filled.

Every call comes down to insertions, so a ledger is consistent, and the values of its
primary keys are there, since their fields may not be `None`.
-/

import AgenticRuntime.Evals.Ledger.Store

namespace AgenticRuntime

open List Transition

namespace EvalLedger

open Python Sql LedgerStore

section

variable {table : TableName} {obj : Entity table} {row : Row}

theorem insertRow_some {ignoreConflicts : Bool} {db after : Tables}
    (inserted : insertRow ignoreConflicts db obj = .ok after) : ∃ row, obj.row = .ok row ∧
      (ignoreConflicts = true ∧ after = db ∨
        Admits schema db table row ∧ after = db.add table row) := by
  obtain ⟨values, bound, inserted⟩ := bind_ok inserted
  refine ⟨(schema table).row ((rowColumns table).zip values), ?_, ?_⟩
  · simp only [Entity.row, bound]
    rfl
  · cases result : Sql.insert schema ignoreConflicts db table ((rowColumns table).zip values) with
    | error violation =>
        rw [result] at inserted
        cases inserted
    | ok changed =>
        rw [result] at inserted
        cases inserted
        exact insert_some result

theorem row_of_ok (bound : obj.row = .ok row) : ∃ values,
    obj.values.mapM bindValue = .ok values ∧
      row = (schema table).row ((rowColumns table).zip values) := by
  obtain ⟨values, first, same⟩ := bind_ok bound
  exact ⟨values, first, (Except.ok.inj same).symm⟩

theorem row_shaped (bound : obj.row = .ok row) : (schema table).row row.entries = row := by
  obtain ⟨values, _, same⟩ := row_of_ok bound
  rw [same]
  exact TableSchema.row_row (schema_wellFormed.distinct table) _

/-- A value of a `str` or an `int` field is not NULL. -/
theorem bindValue_given {field : Field} {value : PyValue} {bound : Sql.Value}
    (admits : field.Admits value) (present : field.orNone = false) (proper : field.type ≠ .float)
    (done : bindValue value = .ok bound) : bound ≠ .null := by
  intro null
  subst null
  cases value with
  | none =>
      change field.orNone = true at admits
      rw [present] at admits
      cases admits
  | float value => exact proper admits
  | str text => cases done
  | int value =>
      simp only [bindValue] at done
      split at done <;> cases done
  | _ => exact admits

private theorem lookup_bound {declared : List Field} {values : List PyValue} {bound : List Sql.Value}
    (typed : List.Forall₂ Field.Admits declared values)
    (done : values.mapM bindValue = .ok bound) (distinct : (declared.map Field.name).Nodup)
    {field : Field} (member : field ∈ declared) : ∃ value result, field.Admits value ∧
      bindValue value = .ok result ∧
      ((declared.map Field.name).zip bound).lookup field.name = some result := by
  induction typed generalizing bound with
  | nil => cases member
  | @cons first value others rest admits _ ih =>
      rw [mapM_cons] at done
      obtain ⟨result, head, done⟩ := bind_ok done
      obtain ⟨results, tail, done⟩ := bind_ok done
      cases done
      obtain ⟨absent, distinct⟩ := nodup_cons.mp distinct
      rw [map_cons, zip_cons_cons, lookup_cons]
      rcases List.mem_cons.mp member with same | later
      · subst same
        rw [beq_self_eq_true]
        exact ⟨value, result, admits, head, rfl⟩
      · have differs : field.name ≠ first.name := by
          intro same
          apply absent
          rw [← same]
          exact mem_map_of_mem later
        rw [beq_false_of_ne differs]
        exact ih tail distinct later

theorem key_fields (table : TableName) : ∀ column ∈ (schema table).primaryKey,
    ∃ field ∈ fields table, field.name = column ∧ field.orNone = false ∧ field.type ≠ .float := by
  cases table <;> decide

theorem row_keyed (bound : obj.row = .ok row) :
    ∀ column ∈ (schema table).primaryKey, row.get column ≠ .null := by
  obtain ⟨values, done, same⟩ := row_of_ok bound
  intro column member
  obtain ⟨field, listed, name, present, proper⟩ := key_fields table column member
  have distinct := schema_wellFormed.distinct table
  rw [← fields_names] at distinct
  obtain ⟨value, result, admits, given, found⟩ := lookup_bound obj.typed done distinct listed
  have declared : field.name ∈ (schema table).columnNames := by
    rw [← fields_names]
    exact mem_map_of_mem listed
  obtain ⟨target, inTable, target_name⟩ := mem_map.mp declared
  rw [same, ← name, ← target_name, TableSchema.get_row (schema_wellFormed.distinct table) inTable,
    target_name]
  unfold rowColumns
  rw [found]
  exact bindValue_given admits present proper given

end

def Call.appended : Call → List ((table : TableName) × Entity table)
  | .register _ _ => []
  | .appendTrial trial => [⟨.trial, trial⟩]
  | .appendStepUsage rows => rows.map (Sigma.mk _)
  | .appendSpend spend => [⟨.spend, spend⟩]
  | .appendGrade grade => [⟨.grade, grade⟩]
  | .appendBatch trials stepUsage spends grades =>
      trials.map (Sigma.mk _) ++ stepUsage.map (Sigma.mk _) ++ spends.map (Sigma.mk _) ++
        grades.map (Sigma.mk _)

def insertNext (db : Tables) (entry : (table : TableName) × Entity table) : Option Tables :=
  (insertRow false db entry.2).toOption

variable {db after : Tables}

theorem insertNext_some {entry : (table : TableName) × Entity table}
    (taken : insertNext db entry = some after) : insertRow false db entry.2 = .ok after := by
  unfold insertNext at taken
  cases done : insertRow false db entry.2 with
  | error raised =>
      rw [done] at taken
      cases taken
  | ok changed =>
      rw [done] at taken
      cases taken
      rfl

theorem appendEach_replay {table : TableName} {rows : List (Entity table)}
    (done : appendEach db rows = .ok after) :
    replay insertNext db (rows.map (Sigma.mk table)) = some after := by
  unfold appendEach at done
  induction rows generalizing db with
  | nil =>
      cases done
      rfl
  | cons obj rest ih =>
      rw [foldlM_cons] at done
      obtain ⟨middle, first, done⟩ := bind_ok done
      have taken : insertNext db ⟨table, obj⟩ = some middle := by
        simp only [insertNext, first]
        rfl
      rw [map_cons, replay_cons_of_next taken]
      exact ih done

theorem perform_cases {call : Call} (done : call.perform db = .ok after) :
    (∃ table obj, call = .register table obj ∧ registerable table = true ∧
      insertRow true db obj = .ok after) ∨
    replay insertNext db call.appended = some after := by
  have single : ∀ {table : TableName} {obj : Entity table}, insertRow false db obj = .ok after →
      replay insertNext db [⟨table, obj⟩] = some after := by
    intro table obj inserted
    apply replay_single
    simp only [insertNext, inserted]
    rfl
  cases call with
  | register table obj =>
      left
      change LedgerStore.register db obj = .ok after at done
      unfold LedgerStore.register at done
      split at done
      · cases done
      · rename_i allowed
        obtain ⟨middle, first, done⟩ := bind_ok done
        obtain ⟨values, _, done⟩ := bind_ok done
        change (if _ then _ else _) = _ at done
        split at done
        · cases done
          exact ⟨table, obj, rfl, Bool.eq_true_of_not_eq_false allowed, first⟩
        · cases done
  | appendTrial trial | appendSpend spend | appendGrade grade => exact .inr (single done)
  | appendStepUsage rows => exact .inr (appendEach_replay done)
  | appendBatch trials stepUsage spends grades =>
      right
      obtain ⟨second, first, done⟩ := bind_ok done
      obtain ⟨third, usage, done⟩ := bind_ok done
      obtain ⟨fourth, spent, done⟩ := bind_ok done
      have toUsage := replay_append (appendEach_replay first) (appendEach_replay usage)
      have toSpends := replay_append toUsage (appendEach_replay spent)
      exact replay_append toSpends (appendEach_replay done)

/-! ### Reachable ledgers -/

structure Sound (db : Tables) : Prop where
  consistent : Consistent schema db
  keyed : Keyed schema db

theorem Sound.add (sound : Sound db) {table : TableName} {obj : Entity table} {row : Row}
    (bound : obj.row = .ok row) (admits : Admits schema db table row) :
    Sound (db.add table row) := by
  refine ⟨sound.consistent.add schema_wellFormed (row_shaped bound) admits, ?_⟩
  intro other stored member column inKey
  rcases Database.mem_add.mp member with old | ⟨same, new⟩
  · exact sound.keyed other stored old column inKey
  · subst same
    rw [new]
    exact row_keyed bound column inKey

theorem Sound.insertRow (sound : Sound db) {table : TableName} {obj : Entity table}
    {ignoreConflicts : Bool} (inserted : LedgerStore.insertRow ignoreConflicts db obj = .ok after) :
    Sound after := by
  obtain ⟨row, bound, ⟨_, same⟩ | ⟨admits, same⟩⟩ := insertRow_some inserted
  · rw [same]
    exact sound
  · rw [same]
    exact sound.add bound admits

theorem sound_empty : Sound empty := ⟨consistent_empty schema, nofun⟩

theorem next_some {call : Call} (taken : next db call = some after) :
    call.perform db = .ok after := by
  unfold next at taken
  cases done : call.perform db with
  | error raised =>
      rw [done] at taken
      cases taken
  | ok changed =>
      rw [done] at taken
      cases taken
      rfl

theorem Sound.insertNext (sound : Sound db) {entry : (table : TableName) × Entity table}
    (taken : EvalLedger.insertNext db entry = some after) : Sound after :=
  sound.insertRow (insertNext_some taken)

theorem Sound.next (sound : Sound db) {call : Call} (taken : EvalLedger.next db call = some after) :
    Sound after := by
  rcases perform_cases (next_some taken) with ⟨table, obj, _, _, inserted⟩ | replayed
  · exact sound.insertRow inserted
  · exact replay_invariant (fun _ _ _ sound taken => sound.insertNext taken) sound
      replayed

theorem sound_of_reachable (reachable : Reachable db) : Sound db :=
  reachable_invariant (fun _ _ _ sound taken => sound.next taken) sound_empty reachable

end EvalLedger

end AgenticRuntime
