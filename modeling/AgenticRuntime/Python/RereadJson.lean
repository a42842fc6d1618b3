/-
What writing a value with sorted keys, reading it back and writing it again gives.

The text is the same when every dict has its keys in the order of their names. Dicts with
string keys have; one with the keys 9 and 10 has not.
-/

import AgenticRuntime.Python.CanonicalJson

namespace Python

open List hiding le_of_lt le_total le_trans
open PyValue (canonical)
open PyKey
open Items

/-! ### The order of keys and of names -/

/-- `sorted(keys)` -/
def sortKeys (keys : List PyKey) : Option (List PyKey) :=
  if keys.Pairwise comparable then some (keys.insertionSort notAfter) else none

section

variable (floatRepr : PyFloat → String)

def NamesInOrder (keys : List PyKey) : Prop :=
  ∃ sorted names, sortKeys keys = some sorted ∧
    sorted.mapM (jsonName floatRepr) = some names ∧
      names.Pairwise fun left right => left < right

/-- JSON has the value, and every dict in it has its names in order. -/
inductive KeyOrder : PyValue → Prop where
  | none : KeyOrder .none
  | bool (value : Bool) : KeyOrder (.bool value)
  | int (value : Int) : KeyOrder (.int value)
  | float (value : PyFloat) : KeyOrder (.float value)
  | str (text : String) : KeyOrder (.str text)
  | list {items : List PyValue} (each : ∀ item ∈ items, KeyOrder item) : KeyOrder (.list items)
  | tuple {items : List PyValue} (each : ∀ item ∈ items, KeyOrder item) :
      KeyOrder (.tuple items)
  | dict {items : List (PyKey × PyValue)} (inOrder : NamesInOrder floatRepr (Items.keys items))
      (each : ∀ item ∈ items, KeyOrder item.2) : KeyOrder (.dict items)

def Stable (value : PyValue) : Prop :=
  ∃ tree, value.canonical floatRepr = some tree ∧ tree.loads.canonical floatRepr = some tree

variable {floatRepr}

theorem sortItems_keys {α : Type} (items : List (PyKey × α)) :
    (sortItems items).map Items.keys = sortKeys (Items.keys items) := by
  have mapped : (Items.keys items).Pairwise comparable ↔
      items.Pairwise fun left right => left.1.comparable right.1 := pairwise_map
  rw [sortItems, sortKeys]
  by_cases comparable : items.Pairwise fun left right => left.1.comparable right.1
  · rw [if_pos comparable, if_pos (mapped.mpr comparable)]
    apply congrArg some
    apply map_insertionSort
    intro left _ right _
    exact Iff.rfl
  · rw [if_neg comparable, if_neg fun held => comparable (mapped.mp held)]
    rfl

theorem namesInOrder_str {names : List String} (distinct : names.Nodup) :
    NamesInOrder floatRepr (names.map str) := by
  have comparable : (names.map str).Pairwise comparable := by
    rw [pairwise_map]
    exact pairwise_of_forall fun left right => rfl
  have sorted : (names.map str).insertionSort notAfter =
      (names.insertionSort fun left right => left ≤ right).map str := by
    apply Eq.symm
    apply map_insertionSort
    intro left _ right _
    exact notAfter_str.symm
  refine ⟨(names.insertionSort fun left right => left ≤ right).map str,
    names.insertionSort fun left right => left ≤ right, ?_, ?_, ?_⟩
  · rw [sortKeys, if_pos comparable, sorted]
  · apply mapM_eq_some_iff.mpr
    rw [forall₂_map_left_iff]
    exact forall₂_same.mpr fun name _ => rfl
  · have le := pairwise_insertionSort (fun left right : String => left ≤ right) names
    have nodup := ((perm_insertionSort (fun left right : String => left ≤ right)
      names).nodup_iff).mpr distinct
    exact (le.and nodup).imp fun both => lt_of_le_of_ne both.1 both.2

/-! ### Reading back a dict -/

def rereadItems (members : List (String × Json)) : List (String × PyValue) :=
  members.map fun member => (member.1, member.2.loads)

theorem keys_rereadItems (members : List (String × Json)) :
    Items.keys (rereadItems members) = Items.keys members := by
  rw [Items.keys, Items.keys, rereadItems, map_map]
  rfl

variable {members : List (String × Json)} {items : List (String × PyValue)}

theorem loads_object (distinct : (Items.keys members).Nodup) :
    (Json.object members).loads =
      .dict ((rereadItems members).map fun item => (.str item.1, item.2)) := by
  rw [Json.loads, loadsMembers_eq]
  apply congrArg PyValue.dict
  apply ofMembers_of_distinct
  rw [← keys_rereadItems] at distinct
  exact distinct

theorem distinct_of_sorted (sorted : (Items.keys members).Pairwise fun left right => left < right) :
    (Items.keys members).Nodup := sorted.imp fun less => ne_of_lt less

theorem canonical_reread (sorted : (Items.keys members).Pairwise fun left right => left < right)
    (each : ∀ member ∈ members, member.2.loads.canonical floatRepr = some member.2) :
    canonical floatRepr
      (.dict ((rereadItems members).map fun item => (.str item.1, item.2))) =
        some (.object members) := by
  have written : (rereadItems members).mapM (writeMember floatRepr) = some members := by
    apply mapM_eq_some_iff.mpr
    rw [rereadItems, forall₂_map_left_iff]
    apply forall₂_same.mpr
    intro member listed
    exact writeMember_eq_some.mpr ⟨rfl, each member listed⟩
  have inPlace : members.insertionSort nameLe = members := by
    apply List.Pairwise.insertionSort_eq
    exact (pairwise_map.mp sorted).imp fun less => le_of_lt less
  rw [canonical_named, written, Option.map_some, inPlace]

/-! ### Stable values -/

theorem stable_elements {items : List PyValue} (each : ∀ item ∈ items, Stable floatRepr item) :
    ∃ elements, items.mapM (canonical floatRepr) = some elements ∧
      (elements.map Json.loads).mapM (canonical floatRepr) = some elements := by
  induction items with
  | nil => exact ⟨[], rfl, rfl⟩
  | cons item rest ih =>
      obtain ⟨tree, written, again⟩ := each item mem_cons_self
      obtain ⟨elements, restWritten, restAgain⟩ :=
        ih fun other member => each other (mem_cons_of_mem _ member)
      refine ⟨tree :: elements, ?_, ?_⟩
      · rw [mapM_cons, written, restWritten]
        rfl
      · rw [map_cons, mapM_cons, again, restAgain]
        rfl

theorem stable_entries {items : List (PyKey × PyValue)}
    (each : ∀ item ∈ items, Stable floatRepr item.2) :
    ∃ entries, canonicalEntries floatRepr items = some entries ∧
      Items.keys entries = Items.keys items ∧
        ∀ entry ∈ entries, entry.2.loads.canonical floatRepr = some entry.2 := by
  induction items with
  | nil => exact ⟨[], rfl, rfl, fun entry listed => absurd listed not_mem_nil⟩
  | cons item rest ih =>
      obtain ⟨tree, written, again⟩ := each item mem_cons_self
      obtain ⟨entries, restWritten, sameKeys, restAgain⟩ :=
        ih fun other member => each other (mem_cons_of_mem _ member)
      refine ⟨(item.1, tree) :: entries, ?_, ?_, ?_⟩
      · rw [canonicalEntries, written, restWritten]
        rfl
      · exact congrArg (List.cons item.1) sameKeys
      · intro entry listed
        rcases List.mem_cons.mp listed with first | later
        · subst first
          exact again
        · exact restAgain entry later

theorem members_of_sorted {sorted : List (PyKey × Json)} {names : List String}
    (named : (Items.keys sorted).mapM (jsonName floatRepr) = some names) :
    ∃ members, sorted.mapM (nameItem floatRepr) = some members ∧ Items.keys members = names ∧
      ∀ member ∈ members, ∃ entry ∈ sorted, entry.2 = member.2 := by
  induction sorted generalizing names with
  | nil =>
      cases named
      exact ⟨[], rfl, rfl, fun member listed => absurd listed not_mem_nil⟩
  | cons entry rest ih =>
      have each := mapM_eq_some_iff.mp named
      cases each with
      | @cons _ name _ others head tail =>
          obtain ⟨members, written, sameNames, from_⟩ := ih (mapM_eq_some_iff.mpr tail)
          have isName : nameItem floatRepr entry = some (name, entry.2) := by
            rw [nameItem, head, Option.map_some]
          refine ⟨(name, entry.2) :: members, ?_, ?_, ?_⟩
          · rw [mapM_cons, isName, written]
            rfl
          · exact congrArg (List.cons name) sameNames
          · intro member listed
            rcases List.mem_cons.mp listed with first | later
            · subst first
              exact ⟨entry, mem_cons_self, rfl⟩
            · obtain ⟨source, there, same⟩ := from_ member later
              exact ⟨source, mem_cons_of_mem _ there, same⟩

theorem stable_dict {items : List (PyKey × PyValue)}
    (inOrder : NamesInOrder floatRepr (Items.keys items))
    (each : ∀ item ∈ items, Stable floatRepr item.2) : Stable floatRepr (.dict items) := by
  obtain ⟨entries, written, sameKeys, again⟩ := stable_entries each
  obtain ⟨sortedKeys, names, keysSorted, named, increasing⟩ := inOrder
  rw [← sameKeys, ← sortItems_keys, Option.map_eq_some_iff] at keysSorted
  obtain ⟨sorted, isSorted, areKeys⟩ := keysSorted
  rw [← areKeys] at named
  obtain ⟨members, areMembers, areNames, source⟩ := members_of_sorted named
  rw [← areNames] at increasing
  have canonical : canonical floatRepr (.dict items) = some (.object members) := by
    rw [canonical, written, Option.bind_eq_bind, Option.bind_some, isSorted,
      Option.bind_eq_bind, Option.bind_some, areMembers]
    rfl
  refine ⟨.object members, canonical, ?_⟩
  rw [loads_object (distinct_of_sorted increasing)]
  apply canonical_reread increasing
  intro member listed
  obtain ⟨entry, there, sameTree⟩ := source member listed
  have inEntries : entry ∈ entries := by
    rw [sortItems] at isSorted
    split at isSorted
    · cases isSorted
      exact (mem_insertionSort _).mp there
    · cases isSorted
  rw [← sameTree]
  exact again entry inEntries

theorem stable_of_keyOrder {value : PyValue} (ordered : KeyOrder floatRepr value) :
    Stable floatRepr value := by
  induction ordered with
  | none => exact ⟨.null, rfl, rfl⟩
  | bool value => exact ⟨.bool value, rfl, rfl⟩
  | int value => exact ⟨.int value, rfl, rfl⟩
  | float value => exact ⟨.float value, rfl, rfl⟩
  | str text => exact ⟨.str text, rfl, rfl⟩
  | list _ ih | tuple _ ih =>
      obtain ⟨elements, written, again⟩ := stable_elements ih
      refine ⟨.array elements, ?_, ?_⟩
      · rw [canonical, canonicalElements_eq, written, Option.map_some]
      · rw [Json.loads, loadsElements_eq, canonical, canonicalElements_eq, again,
          Option.map_some]
  | dict inOrder _ ih => exact stable_dict inOrder ih

/-! ### Dicts with string keys -/

theorem mapM_writeMember_filter (keep : String → Bool)
    (written : items.mapM (writeMember floatRepr) = some members) :
    (items.filter fun item => keep item.1).mapM (writeMember floatRepr) =
      some (members.filter fun member => keep member.1) := by
  have each := mapM_eq_some_iff.mp written
  apply mapM_eq_some_iff.mpr
  clear written
  induction each with
  | nil => exact List.Forall₂.nil
  | @cons item member _ _ head _ ih =>
      have sameName := (writeMember_eq_some.mp head).1
      by_cases kept : keep item.1 = true
      · rw [filter_cons, if_pos kept, filter_cons, sameName, if_pos kept]
        exact List.Forall₂.cons head ih
      · rw [filter_cons, if_neg kept, filter_cons, sameName, if_neg kept]
        exact ih

theorem pairwise_sorted (distinct : (Items.keys members).Nodup) :
    (Items.keys (members.insertionSort nameLe)).Pairwise fun left right => left < right := by
  have sorted : (members.insertionSort nameLe).Pairwise nameLe := by
    have : Std.Total (nameLe (α := Json)) := ⟨fun left right => le_total left.1 right.1⟩
    have : IsTrans (String × Json) nameLe := ⟨fun _ _ _ first second => le_trans first second⟩
    exact pairwise_insertionSort nameLe members
  have nodup : ((members.insertionSort nameLe).map Prod.fst).Nodup :=
    (((perm_insertionSort nameLe members).map Prod.fst).nodup_iff).mpr distinct
  exact pairwise_map.mpr
    ((sorted.and (pairwise_map.mp nodup)).imp fun both => lt_of_le_of_ne both.1 both.2)

theorem canonical_of_members {written : List (String × Json)}
    (isWritten : items.mapM (writeMember floatRepr) = some written) (perm : members.Perm written)
    (increasing : (Items.keys members).Pairwise fun left right => left < right) :
    canonical floatRepr (.dict (items.map fun item => (.str item.1, item.2))) =
      some (.object members) := by
  have toSorted : (written.insertionSort nameLe).Perm members :=
    (perm_insertionSort nameLe written).trans perm.symm
  have distinct : (Items.keys written).Nodup :=
    ((perm.map Prod.fst).nodup_iff).mp (distinct_of_sorted increasing)
  have same : written.insertionSort nameLe = members :=
    toSorted.eq_of_pairwise (fun left right _ _ first second =>
      absurd second (not_lt_of_gt first)) (pairwise_map.mp (pairwise_sorted distinct))
        (pairwise_map.mp increasing)
  rw [canonical_named, isWritten, Option.map_some, same]

theorem exists_written (each : ∀ item ∈ items, Stable floatRepr item.2) :
    ∃ written, items.mapM (writeMember floatRepr) = some written := by
  induction items with
  | nil => exact ⟨[], rfl⟩
  | cons item rest ih =>
      obtain ⟨tree, isTree, _⟩ := each item mem_cons_self
      obtain ⟨written, isWritten⟩ := ih fun other member => each other (mem_cons_of_mem _ member)
      have head : writeMember floatRepr item = some (item.1, tree) :=
        writeMember_eq_some.mpr ⟨rfl, isTree⟩
      refine ⟨(item.1, tree) :: written, ?_⟩
      rw [mapM_cons, head, isWritten]
      rfl

theorem exists_members (distinct : (Items.keys items).Nodup)
    (each : ∀ item ∈ items, Stable floatRepr item.2) :
    ∃ members written, items.mapM (writeMember floatRepr) = some written ∧
      members.Perm written ∧
        ((Items.keys members).Pairwise fun left right => left < right) ∧
          ∀ member ∈ members, member.2.loads.canonical floatRepr = some member.2 := by
  obtain ⟨written, isWritten⟩ := exists_written each
  have perm := perm_insertionSort nameLe written
  rw [← keys_of_written isWritten] at distinct
  refine ⟨written.insertionSort nameLe, written, isWritten, perm, pairwise_sorted distinct, ?_⟩
  intro member listed
  obtain ⟨value, there, isTree⟩ := exists_item_of_written isWritten (perm.mem_iff.mp listed)
  obtain ⟨tree, written, again⟩ := each (member.1, value) there
  have sameTree : tree = member.2 := Option.some.inj (written.symm.trans isTree)
  rw [← sameTree]
  exact again

end

end Python
