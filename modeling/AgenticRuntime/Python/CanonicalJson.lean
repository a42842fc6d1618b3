/-
`json.dumps` with sorted keys and no `default`.

The items of a dict are sorted by their keys as Python orders them, before the keys
become member names; so number keys stand in the order of the numbers. Reading the text
back gives string keys, whose order is that of the names.
-/

import AgenticRuntime.Python.Json
import Mathlib.Data.List.Sort
import Mathlib.Data.String.Basic
import Mathlib.Algebra.Order.Ring.Rat

namespace Python

open List hiding not_lt
open Option

/-! ### Sorting the items of a dict -/

/-- Python's `<` on floats; with a NaN it is false. -/
def PyFloat.lt : PyFloat → PyFloat → Bool
  | .finite left, .finite right => left < right
  | .negInf, .finite _ => true
  | .negInf, .inf => true
  | .finite _, .inf => true
  | _, _ => false

def PyKey.number? : PyKey → Option PyFloat
  | .bool true => some (.finite 1)
  | .bool false => some (.finite 0)
  | .int value => some (.finite value)
  | .float value => some value
  | _ => .none

/-- Python's `<` on keys; `none` is the `TypeError` of two keys without an order. -/
def PyKey.lt? (left right : PyKey) : Option Bool :=
  match left, right with
  | .str left, .str right => some (left < right)
  | _, _ =>
      match left.number?, right.number? with
      | some left, some right => some (left.lt right)
      | _, _ => .none

/-- `left` may stand before `right`. -/
def PyKey.notAfter (left right : PyKey) : Prop := right.lt? left ≠ some true

instance : DecidableRel PyKey.notAfter :=
  fun left right => inferInstanceAs (Decidable (right.lt? left ≠ some true))

def PyKey.comparable (left right : PyKey) : Prop := (left.lt? right).isSome

instance : DecidableRel PyKey.comparable :=
  fun left right => inferInstanceAs (Decidable ((left.lt? right).isSome = true))

/-- `sorted(items)`; a sort of keys of two kinds compares two of different kinds. -/
def sortItems {α : Type} (items : List (PyKey × α)) : Option (List (PyKey × α)) :=
  if items.Pairwise fun left right => left.1.comparable right.1 then
    some (items.insertionSort fun left right => left.1.notAfter right.1)
  else none

section

variable (floatRepr : PyFloat → String)

def nameItem (item : PyKey × Json) : Option (String × Json) :=
  (item.1.jsonName floatRepr).map fun name => (name, item.2)

mutual

/-- The tree that `json.dumps(value, sort_keys=True)` writes; `none` is a `TypeError`. -/
def PyValue.canonical : PyValue → Option Json
  | .none => some .null
  | .bool value => some (.bool value)
  | .int value => some (.int value)
  | .float value => some (.float value)
  | .str text => some (.str text)
  | .list items => (canonicalElements items).map .array
  | .tuple items => (canonicalElements items).map .array
  | .dict items => do
      let entries ← canonicalEntries items
      let sorted ← sortItems entries
      let members ← sorted.mapM (nameItem floatRepr)
      return .object members
  | .datetime _ => .none
  | .path _ => .none
  | .object _ => .none

def canonicalElements : List PyValue → Option (List Json)
  | [] => some []
  | item :: rest => do
      let element ← item.canonical
      let elements ← canonicalElements rest
      return element :: elements

def canonicalEntries : List (PyKey × PyValue) → Option (List (PyKey × Json))
  | [] => some []
  | (key, value) :: rest => do
      let member ← value.canonical
      let members ← canonicalEntries rest
      return (key, member) :: members

end

variable {floatRepr}

theorem mapM_eq_some_iff {α β : Type} {f : α → Option β} {items : List α} {results : List β} :
    items.mapM f = some results ↔ List.Forall₂ (fun item result => f item = some result)
      items results := by
  induction items generalizing results with
  | nil =>
      constructor
      · intro done
        cases done
        exact List.Forall₂.nil
      · intro related
        cases related
        rfl
  | cons item rest ih =>
      rw [mapM_cons]
      constructor
      · intro done
        cases head : f item with
        | none =>
            rw [head] at done
            cases done
        | some result =>
            rw [head] at done
            cases tail : rest.mapM f with
            | none =>
                rw [tail] at done
                cases done
            | some others =>
                rw [tail] at done
                cases done
                exact List.Forall₂.cons head (ih.mp tail)
      · intro related
        cases related with
        | cons head tail =>
            rw [head, ih.mpr tail]
            rfl

theorem canonicalElements_eq (items : List PyValue) :
    canonicalElements floatRepr items = items.mapM (PyValue.canonical floatRepr) := by
  induction items with
  | nil => rfl
  | cons item rest ih => rw [canonicalElements, mapM_cons, ih]

/-! ### Dicts with string keys -/

theorem lt?_str (left right : String) :
    (PyKey.str left).lt? (.str right) = some (decide (left < right)) := rfl

theorem notAfter_str {left right : String} :
    (PyKey.str left).notAfter (.str right) ↔ left ≤ right := by
  rw [PyKey.notAfter, lt?_str, ne_eq, some.injEq, decide_eq_true_eq, not_lt]

def nameLe {α : Type} (left right : String × α) : Prop := left.1 ≤ right.1

instance {α : Type} : DecidableRel (nameLe (α := α)) :=
  fun left right => inferInstanceAs (Decidable (left.1 ≤ right.1))

theorem sortItems_named {α : Type} (items : List (String × α)) :
    sortItems (items.map fun item => (.str item.1, item.2)) =
      some ((items.insertionSort nameLe).map fun item => (.str item.1, item.2)) := by
  have comparable : (items.map fun item => (PyKey.str item.1, item.2)).Pairwise
      fun left right => left.1.comparable right.1 := by
    rw [pairwise_map]
    exact pairwise_of_forall fun left right => rfl
  rw [sortItems, if_pos comparable]
  apply congrArg some
  apply Eq.symm
  apply map_insertionSort
  intro left _ right _
  exact notAfter_str.symm

theorem mapM_nameItem_named (members : List (String × Json)) :
    (members.map fun item => (PyKey.str item.1, item.2)).mapM (nameItem floatRepr) =
      some members := by
  apply mapM_eq_some_iff.mpr
  rw [forall₂_map_left_iff]
  exact forall₂_same.mpr fun member _ => rfl

variable (floatRepr) in
def writeMember (item : String × PyValue) : Option (String × Json) :=
  (item.2.canonical floatRepr).map fun member => (item.1, member)

theorem canonicalEntries_named (items : List (String × PyValue)) :
    canonicalEntries floatRepr (items.map fun item => (.str item.1, item.2)) =
      (items.mapM (writeMember floatRepr)).map (List.map fun item => (.str item.1, item.2)) := by
  induction items with
  | nil => rfl
  | cons item rest ih =>
      rw [map_cons, canonicalEntries, mapM_cons, ih, writeMember]
      cases item.2.canonical floatRepr with
      | none => rfl
      | some member =>
          cases rest.mapM (writeMember floatRepr) with
          | none => rfl
          | some members => rfl

theorem canonical_named (items : List (String × PyValue)) :
    PyValue.canonical floatRepr (.dict (items.map fun item => (.str item.1, item.2))) =
      (items.mapM (writeMember floatRepr)).map
        fun members => .object (members.insertionSort nameLe) := by
  rw [PyValue.canonical, canonicalEntries_named]
  cases items.mapM (writeMember floatRepr) with
  | none => rfl
  | some trees =>
      rw [map_some, bind_eq_bind, bind_some, sortItems_named, bind_eq_bind, bind_some,
        mapM_nameItem_named]
      rfl

theorem writeMember_eq_some {item : String × PyValue} {member : String × Json} :
    writeMember floatRepr item = some member ↔
      member.1 = item.1 ∧ item.2.canonical floatRepr = some member.2 := by
  obtain ⟨name, tree⟩ := member
  rw [writeMember, map_eq_some_iff]
  constructor
  · intro written
    obtain ⟨inner, isInner, same⟩ := written
    cases same
    exact ⟨rfl, isInner⟩
  · intro written
    exact ⟨tree, written.2, Prod.ext written.1.symm rfl⟩

variable {items others : List (String × PyValue)} {members : List (String × Json)}

theorem keys_of_written (written : items.mapM (writeMember floatRepr) = some members) :
    Items.keys members = Items.keys items := by
  have each := mapM_eq_some_iff.mp written
  clear written
  induction each with
  | nil => rfl
  | cons head _ ih => exact congrArg₂ List.cons (writeMember_eq_some.mp head).1 ih

theorem exists_item_of_written (written : items.mapM (writeMember floatRepr) = some members)
    {member : String × Json} (listed : member ∈ members) :
    ∃ value, (member.1, value) ∈ items ∧ value.canonical floatRepr = some member.2 := by
  have each := mapM_eq_some_iff.mp written
  clear written
  induction each with
  | nil => cases listed
  | @cons item _ _ _ head _ ih =>
      obtain ⟨named, tree⟩ := writeMember_eq_some.mp head
      rcases List.mem_cons.mp listed with first | later
      · subst first
        refine ⟨item.2, ?_, tree⟩
        rw [named]
        exact mem_cons_self
      · obtain ⟨value, there, isTree⟩ := ih later
        exact ⟨value, mem_cons_of_mem _ there, isTree⟩

theorem exists_member_of_written (written : items.mapM (writeMember floatRepr) = some members)
    {item : String × PyValue} (listed : item ∈ items) :
    ∃ tree, (item.1, tree) ∈ members ∧ item.2.canonical floatRepr = some tree := by
  have each := mapM_eq_some_iff.mp written
  clear written
  induction each with
  | nil => cases listed
  | @cons _ member _ _ head _ ih =>
      obtain ⟨named, isTree⟩ := writeMember_eq_some.mp head
      rcases List.mem_cons.mp listed with first | later
      · subst first
        refine ⟨member.2, ?_, isTree⟩
        rw [← named]
        exact mem_cons_self
      · obtain ⟨tree, there, isLater⟩ := ih later
        exact ⟨tree, mem_cons_of_mem _ there, isLater⟩

/-! ### Values with the same text -/

/-- Python's `==` on values that JSON has: dicts have the same keys, in any order, with
the same values. -/
inductive PyValue.Same : PyValue → PyValue → Prop where
  | none : Same .none .none
  | bool (value : Bool) : Same (.bool value) (.bool value)
  | int (value : Int) : Same (.int value) (.int value)
  | float (value : PyFloat) : Same (.float value) (.float value)
  | str (text : String) : Same (.str text) (.str text)
  | list {items others : List PyValue} (length : items.length = others.length)
      (each : ∀ (i : Nat) value other, items[i]? = some value → others[i]? = some other →
        Same value other) : Same (.list items) (.list others)
  | dict {items others : List (String × PyValue)}
      (names : ∀ name, name ∈ Items.keys items ↔ name ∈ Items.keys others)
      (each : ∀ name value other, (name, value) ∈ items → (name, other) ∈ others →
        Same value other) :
      Same (.dict (items.map fun item => (.str item.1, item.2)))
        (.dict (others.map fun item => (.str item.1, item.2)))

theorem perm_of_canonical {tree : Json}
    (left : PyValue.canonical floatRepr (.dict (items.map fun item => (.str item.1, item.2))) =
      some tree) (right : PyValue.canonical floatRepr
      (.dict (others.map fun item => (.str item.1, item.2))) = some tree) :
    ∃ members arranged, items.mapM (writeMember floatRepr) = some members ∧
      others.mapM (writeMember floatRepr) = some arranged ∧ members.Perm arranged := by
  rw [canonical_named, map_eq_some_iff] at left right
  obtain ⟨members, written, isTree⟩ := left
  obtain ⟨arranged, otherWritten, isOther⟩ := right
  have sorted := Json.object.inj (isTree.trans isOther.symm)
  refine ⟨members, arranged, written, otherWritten, ?_⟩
  exact (perm_insertionSort nameLe members).symm.trans
    (sorted ▸ perm_insertionSort nameLe arranged)

theorem names_of_perm {arranged : List (String × Json)}
    (written : items.mapM (writeMember floatRepr) = some members)
    (otherWritten : others.mapM (writeMember floatRepr) = some arranged)
    (perm : members.Perm arranged) (name : String) :
    name ∈ Items.keys items ↔ name ∈ Items.keys others := by
  rw [← keys_of_written written, ← keys_of_written otherWritten]
  exact (perm.map Prod.fst).mem_iff

theorem tree_of_perm {arranged : List (String × Json)}
    (written : items.mapM (writeMember floatRepr) = some members)
    (otherWritten : others.mapM (writeMember floatRepr) = some arranged)
    (perm : members.Perm arranged) (distinct : (Items.keys others).Nodup) {name : String}
    {value other : PyValue} (listed : (name, value) ∈ items)
    (otherListed : (name, other) ∈ others) :
    ∃ tree, value.canonical floatRepr = some tree ∧ other.canonical floatRepr = some tree := by
  obtain ⟨tree, there, isTree⟩ := exists_member_of_written written listed
  obtain ⟨found, foundListed, isFound⟩ := exists_item_of_written otherWritten (perm.mem_iff.mp there)
  have sameItem : (name, found) = (name, other) :=
    inj_on_of_nodup_map distinct foundListed otherListed rfl
  cases sameItem
  exact ⟨tree, isTree, isFound⟩

theorem Plain.values (plain : Plain (.dict (items.map fun item => (.str item.1, item.2)))) :
    ∀ item ∈ items, Plain item.2 := by
  generalize shape : PyValue.dict _ = value at plain
  cases plain with
  | @dict others distinct each =>
      intro item listed
      have same := PyValue.dict.inj shape
      have there : (PyKey.str item.1, item.2) ∈
          others.map fun item => (PyKey.str item.1, item.2) := by
        rw [← same]
        exact mem_map_of_mem listed
      obtain ⟨found, foundListed, isFound⟩ := mem_map.mp there
      have sameValue : found.2 = item.2 := (Prod.mk.inj isFound).2
      rw [← sameValue]
      exact each found foundListed
  | none => cases shape
  | bool value => cases shape
  | int value => cases shape
  | float value => cases shape
  | str text => cases shape
  | list each => cases shape

inductive Scalar : Json → Prop where
  | null : Scalar .null
  | bool (value : Bool) : Scalar (.bool value)
  | int (value : Int) : Scalar (.int value)
  | float (value : PyFloat) : Scalar (.float value)
  | str (text : String) : Scalar (.str text)

theorem canonical_cases {value : PyValue} {tree : Json} (plain : Plain value)
    (written : value.canonical floatRepr = some tree) :
    (Scalar tree ∧ value = tree.loads) ∨
      (∃ items elements, value = .list items ∧ tree = .array elements ∧
        ∀ item ∈ items, Plain item) ∨
      ∃ items : List (String × PyValue), ∃ members,
        value = .dict (items.map fun item => (.str item.1, item.2)) ∧ tree = .object members ∧
          (Items.keys items).Nodup ∧ ∀ item ∈ items, Plain item.2 := by
  cases plain with
  | none =>
      cases written
      exact .inl ⟨.null, rfl⟩
  | bool flag =>
      cases written
      exact .inl ⟨.bool flag, rfl⟩
  | int number =>
      cases written
      exact .inl ⟨.int number, rfl⟩
  | float number =>
      cases written
      exact .inl ⟨.float number, rfl⟩
  | str text =>
      cases written
      exact .inl ⟨.str text, rfl⟩
  | @list items each =>
      rw [PyValue.canonical, map_eq_some_iff] at written
      obtain ⟨elements, _, same⟩ := written
      exact .inr (.inl ⟨items, elements, rfl, same.symm, each⟩)
  | @dict items distinct each =>
      rw [canonical_named, map_eq_some_iff] at written
      obtain ⟨members, _, same⟩ := written
      exact .inr (.inr ⟨items, _, rfl, same.symm, distinct, each⟩)

theorem Scalar.same_loads {tree : Json} (scalar : Scalar tree) : tree.loads.Same tree.loads := by
  cases scalar with
  | null => exact .none
  | bool value => exact .bool value
  | int value => exact .int value
  | float value => exact .float value
  | str text => exact .str text

theorem same_of_scalar {left right : PyValue} (plain : Plain left) (other : Plain right)
    {tree : Json} (scalar : Scalar tree) (leftTree : left.canonical floatRepr = some tree)
    (rightTree : right.canonical floatRepr = some tree) : left.Same right := by
  have loaded : ∀ {value : PyValue}, Plain value → value.canonical floatRepr = some tree →
      value = tree.loads := by
    intro value isPlain written
    rcases canonical_cases isPlain written with whole | ⟨_, _, _, isArray, _⟩ |
      ⟨_, _, _, isObject, _⟩
    · exact whole.2
    · subst isArray
      cases scalar
    · subst isObject
      cases scalar
  rw [loaded plain leftTree, loaded other rightTree]
  exact scalar.same_loads

theorem elements_of_canonical {items : List PyValue} {elements : List Json}
    (written : PyValue.canonical floatRepr (.list items) = some (.array elements)) :
    List.Forall₂ (fun item element => item.canonical floatRepr = some element) items
      elements := by
  rw [PyValue.canonical, canonicalElements_eq, map_eq_some_iff] at written
  obtain ⟨found, inner, same⟩ := written
  cases same
  exact mapM_eq_some_iff.mp inner

theorem same_of_canonical {left right : PyValue} (plain : Plain left) (other : Plain right)
    {tree : Json} (leftTree : left.canonical floatRepr = some tree)
    (rightTree : right.canonical floatRepr = some tree) : left.Same right := by
  induction plain generalizing right tree with
  | none =>
      cases leftTree
      exact same_of_scalar .none other .null rfl rightTree
  | bool value =>
      cases leftTree
      exact same_of_scalar (.bool value) other (.bool value) rfl rightTree
  | int value =>
      cases leftTree
      exact same_of_scalar (.int value) other (.int value) rfl rightTree
  | float value =>
      cases leftTree
      exact same_of_scalar (.float value) other (.float value) rfl rightTree
  | str text =>
      cases leftTree
      exact same_of_scalar (.str text) other (.str text) rfl rightTree
  | @list items each ih =>
      have shape := leftTree
      rw [PyValue.canonical, map_eq_some_iff] at shape
      obtain ⟨elements, _, isArray⟩ := shape
      subst isArray
      rcases canonical_cases other rightTree with whole | ⟨others, found, isList, same, otherEach⟩ |
        ⟨_, _, _, isObject, _⟩
      · cases whole.1
      · subst isList
        have written := elements_of_canonical leftTree
        have otherWritten := elements_of_canonical rightTree
        apply PyValue.Same.list (written.length_eq.trans otherWritten.length_eq.symm)
        intro i value otherValue here there
        obtain ⟨bound, isValue⟩ := List.getElem?_eq_some_iff.mp here
        obtain ⟨otherBound, isOther⟩ := List.getElem?_eq_some_iff.mp there
        have tree := written.get bound (written.length_eq ▸ bound)
        have otherTree := otherWritten.get otherBound (otherWritten.length_eq ▸ otherBound)
        rw [get_eq_getElem, isValue] at tree
        rw [get_eq_getElem, isOther] at otherTree
        exact ih value (isValue ▸ getElem_mem bound)
          (otherEach otherValue (isOther ▸ getElem_mem otherBound)) tree otherTree
      · cases isObject
  | @dict items distinct each ih =>
      have shape := leftTree
      rw [canonical_named, map_eq_some_iff] at shape
      obtain ⟨_, _, isTree⟩ := shape
      subst isTree
      rcases canonical_cases other rightTree with whole | ⟨_, _, _, isArray, _⟩ |
        ⟨others, members, isDict, _, otherDistinct, otherEach⟩
      · cases whole.1
      · cases isArray
      · subst isDict
        obtain ⟨members, arranged, written, otherWritten, perm⟩ :=
          perm_of_canonical leftTree rightTree
        apply PyValue.Same.dict (names_of_perm written otherWritten perm)
        intro name value otherValue listed otherListed
        obtain ⟨tree, isTree, isOther⟩ :=
          tree_of_perm written otherWritten perm otherDistinct listed otherListed
        exact ih (name, value) listed (otherEach (name, otherValue) otherListed) isTree isOther

end

end Python
