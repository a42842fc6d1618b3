/-
Folding partial writes of a map, the last writer of a key winning.

A write is a partial map.  What a key holds after a fold depends on the order of
the writes exactly where two of them give it different values.
-/

import Mathlib.Data.List.Basic
import Mathlib.Data.List.Perm.Basic

namespace LastWriter

open List

variable {κ α : Type*}

def overwrite (base write : κ → Option α) (key : κ) : Option α := (write key).or (base key)

def folded (base : κ → Option α) (writes : List (κ → Option α)) : κ → Option α :=
  writes.foldl overwrite base

theorem folded_cons (base write : κ → Option α) (rest : List (κ → Option α)) :
    folded base (write :: rest) = folded (overwrite base write) rest := rfl

theorem folded_snoc (base write : κ → Option α) (earlier : List (κ → Option α)) :
    folded base (earlier ++ [write]) = overwrite (folded base earlier) write := by
  rw [folded, foldl_append]
  rfl

theorem folded_apply (base : κ → Option α) (writes : List (κ → Option α)) (key : κ) :
    folded base writes key = (writes.filterMap fun write => write key).getLast?.or (base key) := by
  induction writes generalizing base with
  | nil => rfl
  | cons write rest ih =>
      rw [folded_cons, ih, overwrite]
      cases given : write key with
      | none => simp only [filterMap_cons, given, Option.none_or]
      | some value =>
          simp only [filterMap_cons, given, List.getLast?_cons]
          cases (rest.filterMap fun write => write key).getLast? with
          | none => rfl
          | some later => rfl

theorem folded_eq_none_iff {base : κ → Option α} {writes : List (κ → Option α)} {key : κ} :
    folded base writes key = none ↔ base key = none ∧ ∀ write ∈ writes, write key = none := by
  rw [folded_apply, Option.or_eq_none_iff, List.getLast?_eq_none_iff, filterMap_eq_nil_iff]
  exact and_comm

theorem folded_of_agree {base : κ → Option α} {writes : List (κ → Option α)} {key : κ}
    {value : α} (written : ∃ write ∈ writes, write key = some value)
    (agree : ∀ write ∈ writes, ∀ other, write key = some other → other = value) :
    folded base writes key = some value := by
  rw [folded_apply]
  cases last : (writes.filterMap fun write => write key).getLast? with
  | none =>
      obtain ⟨write, member, given⟩ := written
      have listed : value ∈ writes.filterMap fun write => write key :=
        mem_filterMap.mpr ⟨write, member, given⟩
      rw [List.getLast?_eq_none_iff.mp last] at listed
      cases listed
  | some other =>
      obtain ⟨write, member, given⟩ := mem_filterMap.mp (mem_of_getLast? last)
      rw [agree write member other given]
      rfl

theorem forall_perm_iff {ι : Type*} (base : κ → Option α) {writers : List ι}
    (write : ι → κ → Option α) {key : κ} {value : α}
    (written : ∃ writer ∈ writers, write writer key = some value) :
    (∀ order : List ι, order.Perm writers → folded base (order.map write) key = some value) ↔
      ∀ writer ∈ writers, ∀ other, write writer key = some other → other = value := by
  constructor
  · intro survives writer member other given
    obtain ⟨before, after, split⟩ := append_of_mem member
    have moved : (before ++ after ++ [writer]).Perm writers := by
      rw [split]
      exact (perm_append_singleton writer (before ++ after)).trans perm_middle.symm
    have held := survives _ moved
    rw [map_append, map_singleton, folded_snoc, overwrite, given, Option.some_or] at held
    exact Option.some.inj held
  · intro agree order permuted
    apply folded_of_agree
    · obtain ⟨writer, member, given⟩ := written
      exact ⟨write writer, mem_map_of_mem (permuted.mem_iff.mpr member), given⟩
    · intro written member
      obtain ⟨writer, listed, same⟩ := mem_map.mp member
      rw [← same]
      exact agree writer (permuted.mem_iff.mp listed)

end LastWriter
