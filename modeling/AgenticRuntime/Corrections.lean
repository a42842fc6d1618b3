/-
Tables that are corrected by adding rows.

A row has a key and belongs to a cell, and it may supersede a row by its key. The rows that
none supersedes are the active ones. One active row a cell is kept by exactly those rows
that supersede, within their cell, the row that is active there.
-/

import Mathlib.Data.List.Nodup
import Mathlib.Tactic.MkIffOfInductiveProp

namespace Corrections

open List

structure Reading (Row Key Cell : Type*) where
  key : Row → Key
  supersedes : Row → Option Key
  cell : Row → Cell

variable {Row Key Cell : Type*} (reading : Reading Row Key Cell)

structure Kept (rows : List Row) : Prop where
  distinct : (rows.map reading.key).Nodup
  closed : ∀ row ∈ rows, ∀ key, reading.supersedes row = some key →
    key ∈ rows.map reading.key

theorem Kept.eq_of_key {reading : Reading Row Key Cell} {rows : List Row}
    (kept : Kept reading rows) {left right : Row} (leftMember : left ∈ rows)
    (rightMember : right ∈ rows) (same : reading.key left = reading.key right) : left = right :=
  inj_on_of_nodup_map kept.distinct leftMember rightMember same

theorem Kept.snoc {reading : Reading Row Key Cell} {rows : List Row} {row : Row}
    (kept : Kept reading rows) (fresh : reading.key row ∉ rows.map reading.key)
    (closed : ∀ key, reading.supersedes row = some key →
      key ∈ rows.map reading.key ∨ key = reading.key row) : Kept reading (rows ++ [row]) := by
  constructor
  · rw [map_append, map_singleton]
    refine nodup_append.mpr ⟨kept.distinct, nodup_singleton _, ?_⟩
    intro key member other added same
    rw [mem_singleton.mp added] at same
    exact fresh (same ▸ member)
  · intro other member key supersedes
    rw [map_append, map_singleton, mem_append, mem_singleton]
    rcases mem_append.mp member with old | new
    · exact .inl (kept.closed other old key supersedes)
    · rw [mem_singleton.mp new] at supersedes
      exact closed key supersedes

variable [DecidableEq Key]

def active (rows : List Row) : List Row :=
  rows.filter fun row => reading.key row ∉ rows.filterMap reading.supersedes

structure Single (rows : List Row) : Prop where
  once : ((active reading rows).map reading.cell).Nodup
  within : ∀ row ∈ rows, ∀ old ∈ rows, reading.supersedes row = some (reading.key old) →
    reading.cell row = reading.cell old

/-- The row takes the place of the row that is active in its cell, if there is one. -/
@[mk_iff]
structure Corrects (rows : List Row) (row : Row) : Prop where
  within : ∀ old ∈ rows, reading.supersedes row = some (reading.key old) →
    reading.cell row = reading.cell old
  replaces : reading.supersedes row = some (reading.key row) ∨
    ∀ old ∈ active reading rows, reading.cell old = reading.cell row →
      reading.supersedes row = some (reading.key old)

instance [DecidableEq Cell] (rows : List Row) (row : Row) :
    Decidable (Corrects reading rows row) :=
  decidable_of_iff _ (corrects_iff reading rows row).symm

variable {reading} {rows : List Row} {row : Row}

theorem mem_active : row ∈ active reading rows ↔
    row ∈ rows ∧ ∀ other ∈ rows, reading.supersedes other ≠ some (reading.key row) := by
  unfold active
  rw [mem_filter, decide_eq_true_eq, mem_filterMap]
  simp only [not_exists, not_and, ne_eq]

theorem mem_active_snoc (kept : Kept reading rows)
    (fresh : reading.key row ∉ rows.map reading.key) {other : Row} :
    other ∈ active reading (rows ++ [row]) ↔
      other ∈ active reading rows ∧ reading.supersedes row ≠ some (reading.key other) ∨
      other = row ∧ reading.supersedes row ≠ some (reading.key row) := by
  simp only [mem_active, mem_append, mem_singleton]
  constructor
  · rintro ⟨old | new, unsuperseded⟩
    · left
      exact ⟨⟨old, fun earlier member => unsuperseded earlier (.inl member)⟩,
        unsuperseded row (.inr rfl)⟩
    · right
      subst new
      exact ⟨rfl, unsuperseded other (.inr rfl)⟩
  · rintro (⟨⟨old, unsuperseded⟩, spared⟩ | ⟨same, spared⟩)
    · refine ⟨.inl old, ?_⟩
      rintro earlier (member | new)
      · exact unsuperseded earlier member
      · rw [new]
        exact spared
    · subst same
      refine ⟨.inr rfl, ?_⟩
      rintro earlier (member | new)
      · exact fun supersedes => fresh (kept.closed earlier member _ supersedes)
      · rw [new]
        exact spared

theorem Kept.once_iff (kept : Kept reading rows) :
    ((active reading rows).map reading.cell).Nodup ↔ ∀ left ∈ active reading rows,
      ∀ right ∈ active reading rows, reading.cell left = reading.cell right → left = right := by
  have distinct : (active reading rows).Nodup := (List.Nodup.of_map _ kept.distinct).filter _
  exact nodup_map_iff_inj_on distinct

theorem Kept.single_snoc_iff (kept : Kept reading rows)
    (fresh : reading.key row ∉ rows.map reading.key)
    (closed : ∀ key, reading.supersedes row = some key →
      key ∈ rows.map reading.key ∨ key = reading.key row) :
    Single reading (rows ++ [row]) ↔ Single reading rows ∧ Corrects reading rows row := by
  have member : ∀ {other}, other ∈ active reading rows → other ∈ rows :=
    fun listed => (mem_active.mp listed).1
  constructor
  · intro single
    have once := (kept.snoc fresh closed).once_iff.mp single.once
    have within : ∀ old ∈ rows, reading.supersedes row = some (reading.key old) →
        reading.cell row = reading.cell old := fun old listed =>
      single.within row (mem_append_right _ mem_cons_self) old
        (mem_append_left _ listed)
    -- an active row that stays active shares no cell with the new row
    have apart : reading.supersedes row ≠ some (reading.key row) →
        ∀ old ∈ active reading rows, reading.cell old = reading.cell row →
          reading.supersedes row = some (reading.key old) := by
      intro proper old listed same
      by_contra spared
      have oldActive := (mem_active_snoc kept fresh).mpr (.inl ⟨listed, spared⟩)
      have newActive : row ∈ active reading (rows ++ [row]) :=
        (mem_active_snoc kept fresh).mpr (.inr ⟨rfl, proper⟩)
      have equal := once old oldActive row newActive same
      exact fresh (equal ▸ mem_map_of_mem (member listed))
    have proper : ∀ old ∈ rows, reading.supersedes row = some (reading.key old) →
        reading.supersedes row ≠ some (reading.key row) := by
      intro old listed supersedes itself
      apply fresh
      rw [Option.some.inj (itself.symm.trans supersedes)]
      exact mem_map_of_mem listed
    have shared : ∀ left ∈ active reading rows, ∀ right ∈ active reading rows,
        reading.cell left = reading.cell right →
        reading.supersedes row = some (reading.key left) →
        reading.supersedes row = some (reading.key right) := by
      intro left leftActive right rightActive same supersedes
      have cell := within left (member leftActive) supersedes
      exact apart (proper left (member leftActive) supersedes) right rightActive
        (same.symm.trans cell.symm)
    refine ⟨⟨kept.once_iff.mpr ?_, ?_⟩, ⟨within, ?_⟩⟩
    · intro left leftActive right rightActive same
      by_cases spared : reading.supersedes row = some (reading.key left)
      · apply kept.eq_of_key (member leftActive) (member rightActive)
        exact Option.some.inj
          (spared.symm.trans (shared left leftActive right rightActive same spared))
      · have other : reading.supersedes row ≠ some (reading.key right) := fun supersedes =>
          spared (shared right rightActive left leftActive same.symm supersedes)
        exact once left ((mem_active_snoc kept fresh).mpr (.inl ⟨leftActive, spared⟩))
          right ((mem_active_snoc kept fresh).mpr (.inl ⟨rightActive, other⟩)) same
    · intro other listed old oldListed supersedes
      exact single.within other (mem_append_left _ listed) old
        (mem_append_left _ oldListed) supersedes
    · by_cases itself : reading.supersedes row = some (reading.key row)
      · exact .inl itself
      · exact .inr (apart itself)
  · rintro ⟨single, corrects⟩
    have once := kept.once_iff.mp single.once
    have replaced : reading.supersedes row ≠ some (reading.key row) →
        ∀ old ∈ active reading rows, reading.cell old = reading.cell row →
          reading.supersedes row = some (reading.key old) := fun proper =>
      corrects.replaces.resolve_left proper
    refine ⟨(kept.snoc fresh closed).once_iff.mpr ?_, ?_⟩
    · intro left leftActive right rightActive same
      rcases (mem_active_snoc kept fresh).mp leftActive with ⟨oldLeft, spared⟩ | ⟨newLeft, proper⟩
      · rcases (mem_active_snoc kept fresh).mp rightActive with ⟨oldRight, _⟩ | ⟨newRight, proper⟩
        · exact once left oldLeft right oldRight same
        · rw [newRight] at same
          exact absurd (replaced proper left oldLeft same) spared
      · rcases (mem_active_snoc kept fresh).mp rightActive with ⟨oldRight, spared⟩ | ⟨newRight, _⟩
        · rw [newLeft] at same
          exact absurd (replaced proper right oldRight same.symm) spared
        · rw [newLeft, newRight]
    · intro other listed old oldListed supersedes
      rcases mem_append.mp listed with earlier | new
      · rcases mem_append.mp oldListed with oldEarlier | oldNew
        · exact single.within other earlier old oldEarlier supersedes
        · rw [mem_singleton.mp oldNew] at supersedes
          exact absurd (kept.closed other earlier _ supersedes) fresh
      · rw [mem_singleton.mp new] at supersedes ⊢
        rcases mem_append.mp oldListed with oldEarlier | oldNew
        · exact corrects.within old oldEarlier supersedes
        · rw [mem_singleton.mp oldNew]

end Corrections
