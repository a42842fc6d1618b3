/-
Python's built-in values and its dict, as far as serialisation and conditions
look at them.

A dict is the list of its items in insertion order.  A finite float is the
rational it denotes, so that `repr` and reading back are the identity on it;
the two zeros are not told apart.
-/

import Mathlib.Data.Rat.Defs
import Mathlib.Data.List.Nodup

namespace Python

open List Prod

inductive PyFloat where
  | finite (value : ℚ)
  | inf
  | negInf
  | nan
  deriving DecidableEq, Repr

/-- What may be a dict key; `other` is a hashable value that JSON has no key for. -/
inductive PyKey where
  | none
  | bool (value : Bool)
  | int (value : Int)
  | float (value : PyFloat)
  | str (text : String)
  | other (text : String)
  deriving DecidableEq, Repr

/-- `True`, `1` and `1.0` are one key. -/
def PyKey.canon : PyKey → PyKey
  | .bool true => .int 1
  | .bool false => .int 0
  | .float (.finite value) => if value.den = 1 then .int value.num else .float (.finite value)
  | key => key

/-- Python's `==` on keys. -/
instance : BEq PyKey := ⟨fun left right => left.canon = right.canon⟩

/-- `datetime` and `path` carry their `isoformat()` and `str()`; `object` is any
other value, known by its `str()` only. -/
inductive PyValue where
  | none
  | bool (value : Bool)
  | int (value : Int)
  | float (value : PyFloat)
  | str (text : String)
  | list (items : List PyValue)
  | tuple (items : List PyValue)
  | dict (items : List (PyKey × PyValue))
  | datetime (iso : String)
  | path (text : String)
  | object (text : String)
  deriving Repr

/-- `type(value).__name__` -/
def PyValue.typeName : PyValue → String
  | .none => "NoneType"
  | .bool _ => "bool"
  | .int _ => "int"
  | .float _ => "float"
  | .str _ => "str"
  | .list _ => "list"
  | .tuple _ => "tuple"
  | .dict _ => "dict"
  | .datetime _ => "datetime"
  | .path _ => "Path"
  | .object _ => "object"

/-- `bool(value)` -/
def PyValue.truthy : PyValue → Bool
  | .none => false
  | .bool value => value
  | .int value => value ≠ 0
  | .float (.finite value) => value ≠ 0
  | .float _ => true
  | .str text => text ≠ ""
  | .list items => !items.isEmpty
  | .tuple items => !items.isEmpty
  | .dict items => !items.isEmpty
  | .datetime _ => true
  | .path _ => true
  | .object _ => true

/-- `isinstance(value, str)` -/
def PyValue.asStr? : PyValue → Option String
  | .str text => some text
  | _ => .none

abbrev Mapping := List (PyKey × PyValue)

/-- `isinstance(value, Mapping)` -/
def asMapping? : PyValue → Option Mapping
  | .dict items => some items
  | _ => .none

/-! ### Strings -/

/-- The characters for which `str.isspace` holds. -/
def isSpace (c : Char) : Bool :=
  let code := c.toNat
  (9 ≤ code ∧ code ≤ 13) ∨ (28 ≤ code ∧ code ≤ 32) ∨ code = 133 ∨ code = 160 ∨ code = 5760 ∨
    (8192 ≤ code ∧ code ≤ 8202) ∨ code = 8232 ∨ code = 8233 ∨ code = 8239 ∨ code = 8287 ∨
    code = 12288

/-- `text.strip() == ""` -/
def isBlank (text : String) : Bool := text.toList.all isSpace

/-! ### Dicts -/

namespace Items

variable {κ α : Type} [BEq κ]

/-- `items[key] = value`: a present key keeps its place. -/
def insert : List (κ × α) → κ → α → List (κ × α)
  | [], key, value => [(key, value)]
  | (present, old) :: rest, key, value =>
      if present == key then (present, value) :: rest
      else (present, old) :: insert rest key value

/-- `items.get(key)` -/
def get? : List (κ × α) → κ → Option α
  | [], _ => .none
  | (present, value) :: rest, key => if present == key then some value else get? rest key

/-- `items.pop(key, None)` -/
def erase : List (κ × α) → κ → List (κ × α)
  | [], _ => []
  | (present, value) :: rest, key =>
      if present == key then rest else (present, value) :: erase rest key

/-- `items.update(pairs)` for pairs already at hand. -/
def update (items pairs : List (κ × α)) : List (κ × α) :=
  pairs.foldl (fun merged pair => insert merged pair.1 pair.2) items

def keys (items : List (κ × α)) : List κ := items.map fst

theorem get?_map {β : Type} (f : α → β) (items : List (κ × α)) (key : κ) :
    get? (items.map fun item => (item.1, f item.2)) key = (get? items key).map f := by
  induction items with
  | nil => rfl
  | cons item rest ih =>
      obtain ⟨present, value⟩ := item
      simp only [map_cons, get?]
      split
      · rfl
      · exact ih

section

variable {κ' β : Type} [BEq κ'] {f : κ → κ'}
  (apart : ∀ left right, (f left == f right) = (left == right)) (g : α → β)

include apart

theorem get?_renamed (items : List (κ × α)) (key : κ) :
    get? (items.map (map f g)) (f key) = (get? items key).map g := by
  induction items with
  | nil => rfl
  | cons item rest ih =>
      obtain ⟨present, value⟩ := item
      rw [map_cons, map_apply, get?, get?, apart, ih]
      cases present == key with
      | true => rfl
      | false => rfl

theorem insert_renamed (items : List (κ × α)) (key : κ) (value : α) :
    insert (items.map (map f g)) (f key) (g value) =
      (insert items key value).map (map f g) := by
  induction items with
  | nil => rfl
  | cons item rest ih =>
      obtain ⟨present, old⟩ := item
      rw [map_cons, map_apply, insert, insert, apart, ih]
      cases present == key with
      | true => rfl
      | false => rfl

theorem update_renamed (items pairs : List (κ × α)) :
    update (items.map (map f g)) (pairs.map (map f g)) =
      (update items pairs).map (map f g) := by
  induction pairs generalizing items with
  | nil => rfl
  | cons pair rest ih =>
      have head := insert_renamed apart g items pair.1 pair.2
      have rest := ih (insert items pair.1 pair.2)
      rw [← head] at rest
      exact rest

end

theorem str_beq (left right : String) : (PyKey.str left == PyKey.str right) = (left == right) :=
  decide_eq_decide.mpr ⟨PyKey.str.inj, congrArg PyKey.str⟩

theorem insert_str {α : Type} (items : List (String × α)) (name : String) (value : α) :
    insert (items.map fun item => (.str item.1, item.2)) (PyKey.str name) value =
      (insert items name value).map fun item => (.str item.1, item.2) :=
  insert_renamed str_beq id items name value

theorem update_str {α : Type} (items pairs : List (String × α)) :
    update (items.map fun item => (PyKey.str item.1, item.2))
        (pairs.map fun item => (.str item.1, item.2)) =
      (update items pairs).map fun item => (.str item.1, item.2) :=
  update_renamed str_beq id items pairs

theorem erase_sublist (items : List (κ × α)) (key : κ) :
    (erase items key).Sublist items := by
  induction items with
  | nil => exact List.Sublist.refl _
  | cons item rest ih =>
      obtain ⟨present, value⟩ := item
      unfold erase
      split
      · exact sublist_cons_self _ _
      · exact ih.cons_cons _

theorem nodup_erase {items : List (κ × α)} (distinct : (keys items).Nodup) (key : κ) :
    (keys (erase items key)).Nodup :=
  distinct.sublist ((erase_sublist items key).map fst)

section

variable [LawfulBEq κ] {items pairs : List (κ × α)}

theorem mem_keys_insert {key other : κ} {value : α} :
    other ∈ keys (insert items key value) ↔ other ∈ keys items ∨ other = key := by
  induction items with
  | nil => simp [insert, keys]
  | cons item rest ih =>
      obtain ⟨present, old⟩ := item
      unfold insert
      by_cases same : present = key
      · subst present
        simp only [keys, BEq.rfl, if_true, map_cons, List.mem_cons]
        constructor
        · rintro (here | later)
          · exact .inr here
          · exact .inl (.inr later)
        · rintro ((here | later) | here)
          · exact .inl here
          · exact .inr later
          · exact .inl here
      · have differs : (present == key) = false := beq_eq_false_iff_ne.mpr same
        simp only [keys, differs, Bool.false_eq_true, if_false, map_cons, List.mem_cons]
          at ih ⊢
        rw [ih, or_assoc]

theorem nodup_insert (distinct : (keys items).Nodup) (key : κ) (value : α) :
    (keys (insert items key value)).Nodup := by
  induction items with
  | nil => simp [insert, keys]
  | cons item rest ih =>
      obtain ⟨present, old⟩ := item
      have inner : (keys rest).Nodup := (nodup_cons.mp distinct).2
      have fresh : present ∉ keys rest := (nodup_cons.mp distinct).1
      unfold insert
      by_cases same : present = key
      · subst present
        simpa [keys] using distinct
      · have differs : (present == key) = false := beq_eq_false_iff_ne.mpr same
        simp only [differs, Bool.false_eq_true, if_false]
        apply nodup_cons.mpr
        constructor
        · intro member
          rcases mem_keys_insert.mp member with earlier | here
          · exact fresh earlier
          · exact same here
        · exact ih inner

theorem mem_keys_update {key : κ} :
    key ∈ keys (update items pairs) ↔ key ∈ keys items ∨ key ∈ keys pairs := by
  induction pairs generalizing items with
  | nil => simp [update, keys]
  | cons pair rest ih =>
      have later : key ∈ keys (update items (pair :: rest)) ↔
          key ∈ keys (insert items pair.1 pair.2) ∨ key ∈ keys rest := ih
      rw [later, mem_keys_insert, or_assoc]
      simp [keys]

theorem nodup_update (distinct : (keys items).Nodup) (pairs : List (κ × α)) :
    (keys (update items pairs)).Nodup := by
  induction pairs generalizing items with
  | nil => exact distinct
  | cons pair rest ih => exact ih (nodup_insert distinct pair.1 pair.2)

theorem mem_of_get? {key : κ} {value : α} (found : get? items key = some value) :
    (key, value) ∈ items := by
  induction items with
  | nil => cases found
  | cons item rest ih =>
      obtain ⟨present, held⟩ := item
      unfold get? at found
      by_cases same : present = key
      · subst present
        simp only [BEq.rfl, if_true] at found
        cases found
        exact mem_cons_self
      · have differs : (present == key) = false := beq_eq_false_iff_ne.mpr same
        simp only [differs, Bool.false_eq_true, if_false] at found
        exact mem_cons_of_mem _ (ih found)

theorem mem_insert {key : κ} {value : α} {item : κ × α} (member : item ∈ insert items key value) :
    item ∈ items ∨ item = (key, value) := by
  induction items with
  | nil => exact .inr (mem_singleton.mp member)
  | cons head rest ih =>
      obtain ⟨present, old⟩ := head
      unfold insert at member
      by_cases same : present = key
      · subst present
        simp only [BEq.rfl, if_true, List.mem_cons] at member
        rcases member with here | later
        · exact .inr here
        · exact .inl (mem_cons_of_mem _ later)
      · have differs : (present == key) = false := beq_eq_false_iff_ne.mpr same
        simp only [differs, Bool.false_eq_true, if_false, List.mem_cons] at member
        rcases member with here | later
        · exact .inl (here ▸ mem_cons_self)
        · rcases ih later with earlier | new
          · exact .inl (mem_cons_of_mem _ earlier)
          · exact .inr new

theorem insert_of_fresh {key : κ} (fresh : key ∉ keys items) (value : α) :
    insert items key value = items ++ [(key, value)] := by
  induction items with
  | nil => rfl
  | cons head rest ih =>
      obtain ⟨present, old⟩ := head
      have differs : (present == key) = false := by
        apply beq_eq_false_iff_ne.mpr
        intro same
        exact fresh (same ▸ mem_cons_self)
      have later : key ∉ keys rest := fun member => fresh (mem_cons_of_mem _ member)
      simp only [insert, differs, Bool.false_eq_true, if_false, ih later, cons_append]

theorem update_of_distinct (distinct : (keys (items ++ pairs)).Nodup) :
    update items pairs = items ++ pairs := by
  induction pairs generalizing items with
  | nil => simp [update]
  | cons pair rest ih =>
      obtain ⟨key, value⟩ := pair
      have fresh : key ∉ keys items := by
        intro member
        rw [keys, map_append, map_cons] at distinct
        exact (nodup_append.mp distinct).2.2 key member key mem_cons_self rfl
      have regrouped : items ++ (key, value) :: rest = (items ++ [(key, value)]) ++ rest := by
        simp
      calc update items ((key, value) :: rest)
          = update (insert items key value) rest := rfl
        _ = update (items ++ [(key, value)]) rest := by rw [insert_of_fresh fresh]
        _ = (items ++ [(key, value)]) ++ rest := ih (regrouped ▸ distinct)
        _ = items ++ (key, value) :: rest := regrouped.symm

theorem get?_eq_none_iff {key : κ} :
    get? items key = none ↔ key ∉ keys items := by
  induction items with
  | nil => exact iff_of_true rfl not_mem_nil
  | cons item rest ih =>
      obtain ⟨present, value⟩ := item
      rw [get?, keys, map_cons, List.mem_cons, not_or]
      by_cases same : present = key
      · rw [if_pos (beq_iff_eq.mpr same)]
        exact iff_of_false (Option.some_ne_none value) fun apart => apart.1 same.symm
      · rw [if_neg fun equal => same (beq_iff_eq.mp equal), ih]
        exact ⟨fun absent => ⟨Ne.symm same, absent⟩, And.right⟩

theorem get?_insert [DecidableEq κ] (items : List (κ × α)) (key other : κ)
    (value : α) : get? (insert items key value) other =
      if key = other then some value else get? items other := by
  induction items with
  | nil =>
      rw [insert, get?, get?]
      by_cases same : key = other
      · rw [if_pos (beq_iff_eq.mpr same), if_pos same]
      · rw [if_neg fun equal => same (beq_iff_eq.mp equal), if_neg same]
        rfl
  | cons item rest ih =>
      obtain ⟨present, old⟩ := item
      rw [insert]
      by_cases here : present = key
      · subst here
        rw [if_pos (beq_self_eq_true present), get?, get?]
        by_cases same : present = other
        · rw [if_pos (beq_iff_eq.mpr same), if_pos same]
        · rw [if_neg fun equal => same (beq_iff_eq.mp equal), if_neg same,
            if_neg fun equal => same (beq_iff_eq.mp equal)]
      · rw [if_neg fun equal => here (beq_iff_eq.mp equal), get?, get?, ih]
        by_cases same : present = other
        · rw [if_pos (beq_iff_eq.mpr same), if_neg fun equal => here (same.trans equal.symm),
            if_pos (beq_iff_eq.mpr same)]
        · rw [if_neg fun equal => same (beq_iff_eq.mp equal),
            if_neg fun equal => same (beq_iff_eq.mp equal)]

theorem get?_erase [DecidableEq κ] (distinct : (keys items).Nodup) (key other : κ) :
    get? (erase items key) other = if key = other then .none else get? items other := by
  induction items with
  | nil =>
      unfold erase get?
      split <;> rfl
  | cons item rest ih =>
      obtain ⟨present, held⟩ := item
      have inner := (nodup_cons.mp distinct).2
      have absent : present ∉ keys rest := (nodup_cons.mp distinct).1
      unfold erase
      by_cases same : present = key
      · subst present
        rw [if_pos BEq.rfl]
        by_cases found : key = other
        · subst found
          rw [if_pos rfl]
          exact get?_eq_none_iff.mpr absent
        · have differs : (key == other) = false := beq_eq_false_iff_ne.mpr found
          simp only [get?, differs, if_neg found, Bool.false_eq_true, if_false]
      · have differs : (present == key) = false := beq_eq_false_iff_ne.mpr same
        simp only [differs, Bool.false_eq_true, if_false, get?, ih inner]
        by_cases found : present = other
        · subst found
          simp only [BEq.rfl, if_true, if_neg (Ne.symm same)]
        · have apart : (present == other) = false := beq_eq_false_iff_ne.mpr found
          simp only [apart, Bool.false_eq_true, if_false]

theorem get?_update [DecidableEq κ] (distinct : (keys pairs).Nodup) (items : List (κ × α))
    (key : κ) : get? (update items pairs) key = (get? pairs key).or (get? items key) := by
  induction pairs generalizing items with
  | nil => rfl
  | cons pair rest ih =>
      obtain ⟨name, value⟩ := pair
      obtain ⟨fresh, distinct⟩ := nodup_cons.mp distinct
      rw [update, foldl_cons]
      change get? (update (insert items name value) rest) key = _
      rw [ih distinct, get?_insert, get?]
      by_cases same : name = key
      · subst same
        rw [get?_eq_none_iff.mpr fresh, if_pos rfl, if_pos (beq_self_eq_true name)]
        rfl
      · rw [if_neg same, if_neg fun equal => same (beq_iff_eq.mp equal)]

theorem mem_update {item : κ × α} (member : item ∈ update items pairs) :
    item ∈ items ∨ item ∈ pairs := by
  induction pairs generalizing items with
  | nil => exact .inl member
  | cons pair rest ih =>
      have updated : item ∈ update (insert items pair.1 pair.2) rest := member
      rcases ih updated with grown | later
      · rcases mem_insert grown with old | new
        · exact .inl old
        · exact .inr (new ▸ mem_cons_self)
      · exact .inr (mem_cons_of_mem _ later)

end

end Items

structure Dict (α : Type) where
  items : List (String × α)
  distinct : (Items.keys items).Nodup

namespace Dict

variable {α : Type}

def empty : Dict α := ⟨[], nodup_nil⟩

def insert (dict : Dict α) (key : String) (value : α) : Dict α :=
  ⟨Items.insert dict.items key value, Items.nodup_insert dict.distinct key value⟩

def erase (dict : Dict α) (key : String) : Dict α :=
  ⟨Items.erase dict.items key, Items.nodup_erase dict.distinct key⟩

def get? (dict : Dict α) (key : String) : Option α := Items.get? dict.items key

def keys (dict : Dict α) : List String := Items.keys dict.items

/-- `dict.update(pairs)` -/
def update (dict : Dict α) (pairs : List (String × α)) : Dict α :=
  ⟨Items.update dict.items pairs, Items.nodup_update dict.distinct pairs⟩

def ofItems (pairs : List (String × α)) : Dict α := empty.update pairs

@[ext]
theorem ext {left right : Dict α} (same : left.items = right.items) : left = right := by
  cases left
  cases right
  cases same
  rfl

theorem ofItems_items (dict : Dict α) : ofItems dict.items = dict := by
  apply ext
  have whole : (Items.keys ([] ++ dict.items)).Nodup := dict.distinct
  exact Items.update_of_distinct whole

theorem get?_insert (dict : Dict α) (key other : String) (value : α) :
    (dict.insert key value).get? other = if key = other then some value else dict.get? other :=
  Items.get?_insert dict.items key other value

theorem get?_erase (dict : Dict α) (key other : String) :
    (dict.erase key).get? other = if key = other then none else dict.get? other :=
  Items.get?_erase dict.distinct key other

theorem get?_foldl_erase (names : List String) (dict : Dict α) (key : String) :
    (names.foldl Dict.erase dict).get? key = if key ∈ names then none else dict.get? key := by
  induction names generalizing dict with
  | nil => rfl
  | cons name rest ih =>
      rw [foldl_cons, ih, get?_erase]
      by_cases later : key ∈ rest
      · rw [if_pos later, if_pos (mem_cons_of_mem name later)]
      · rw [if_neg later]
        by_cases same : name = key
        · rw [if_pos same, if_pos (same ▸ mem_cons_self)]
        · rw [if_neg same, if_neg]
          exact List.mem_cons.not.mpr (not_or.mpr ⟨fun equal => same equal.symm, later⟩)

theorem get?_update (dict changes : Dict α) (key : String) :
    (dict.update changes.items).get? key = (changes.get? key).or (dict.get? key) :=
  Items.get?_update changes.distinct dict.items key

end Dict

/-! ### dict.update -/

def PyKey.toValue : PyKey → PyValue
  | .none => .none
  | .bool value => .bool value
  | .int value => .int value
  | .float value => .float value
  | .str text => .str text
  | .other text => .object text

/-- The value as a dict key; `none` when it is unhashable.  A tuple is refused
without looking at its parts: `json.loads`, whose values come here, builds none. -/
def PyKey.ofValue : PyValue → Option PyKey
  | .none => some .none
  | .bool value => some (.bool value)
  | .int value => some (.int value)
  | .float value => some (.float value)
  | .str text => some (.str text)
  | .list _ => .none
  | .tuple _ => .none
  | .dict _ => .none
  | .datetime iso => some (.other iso)
  | .path text => some (.other text)
  | .object text => some (.other text)

/-- `list(value)`; `none` when it is not iterable. -/
def PyValue.iterate? : PyValue → Option (List PyValue)
  | .str text => some (text.toList.map fun c => .str (String.singleton c))
  | .list items => some items
  | .tuple items => some items
  | .dict items => some (items.map fun item => item.1.toValue)
  | _ => .none

/-- Element `position` of a sequence given to `dict.update`, as the item it stands for. -/
def asItem (position : Nat) (element : PyValue) : Except String (PyKey × PyValue) :=
  match element.iterate? with
  | .none => .error s!"cannot convert dictionary update sequence element #{position} to a sequence"
  | some [first, second] =>
      match PyKey.ofValue first with
      | .none => .error s!"unhashable type: '{first.typeName}'"
      | some key => .ok (key, second)
  | some parts =>
      .error s!"dictionary update sequence element #{position} has length {parts.length}; 2 is required"

/-- `dict.update(elements)`: the items before a bad element stay in the dict. -/
def updateSequence (items : List (PyKey × PyValue)) :
    Nat → List PyValue → List (PyKey × PyValue) × Option String
  | _, [] => (items, .none)
  | position, element :: rest =>
      match asItem position element with
      | .error message => (items, some message)
      | .ok item => updateSequence (Items.insert items item.1 item.2) (position + 1) rest

/-- `dict.update(value)` with the error it raises, if it does. -/
def updateFrom (items : List (PyKey × PyValue)) (value : PyValue) :
    List (PyKey × PyValue) × Option String :=
  match value with
  | .dict pairs => (Items.update items pairs, .none)
  | _ =>
      match value.iterate? with
      | .none => (items, some s!"'{value.typeName}' object is not iterable")
      | some elements => updateSequence items 0 elements

/-! ### Exceptions -/

theorem bind_ok {ε α β : Type} {first : Except ε α} {next : α → Except ε β} {result : β}
    (succeeded : (first >>= next) = .ok result) : ∃ value, first = .ok value ∧
      next value = .ok result := by
  cases first with
  | error failure => cases succeeded
  | ok value => exact ⟨value, rfl, succeeded⟩

theorem guard_ok {ε α β : Type} {refused : Prop} [Decidable refused] {failure : ε}
    {never : β → Except ε α} {next : Except ε α} {result : α}
    (succeeded : (if refused then throw failure >>= never else next) = .ok result) :
    ¬ refused ∧ next = .ok result := by
  by_cases held : refused
  · rw [if_pos held] at succeeded
    cases succeeded
  · rw [if_neg held] at succeeded
    exact ⟨held, succeeded⟩

theorem of_mapM_ok {ε α β : Type} {compute : α → Except ε β} {items : List α} {results : List β}
    (done : items.mapM compute = .ok results) {result : β} (listed : result ∈ results) :
    ∃ item ∈ items, compute item = .ok result := by
  induction items generalizing results with
  | nil =>
      cases done
      cases listed
  | cons item rest ih =>
      rw [mapM_cons] at done
      obtain ⟨first, head, done⟩ := bind_ok done
      obtain ⟨others, tail, done⟩ := bind_ok done
      cases done
      rcases List.mem_cons.mp listed with same | later
      · exact ⟨item, mem_cons_self, same ▸ head⟩
      · obtain ⟨source, member, computed⟩ := ih tail later
        exact ⟨source, mem_cons_of_mem _ member, computed⟩

theorem map_of_mapM_ok {ε α β γ : Type} {compute : α → Except ε β} {items : List α}
    {results : List β} (done : items.mapM compute = .ok results) {ofItem : α → γ} {ofResult : β → γ}
    (reads : ∀ item result, compute item = .ok result → ofResult result = ofItem item) :
    results.map ofResult = items.map ofItem := by
  induction items generalizing results with
  | nil =>
      cases done
      rfl
  | cons item rest ih =>
      rw [mapM_cons] at done
      obtain ⟨first, head, done⟩ := bind_ok done
      obtain ⟨others, tail, done⟩ := bind_ok done
      cases done
      rw [map_cons, map_cons, ih tail, reads item first head]

theorem exists_mapM_ok {ε α β : Type} {compute : α → Except ε β} {items : List α}
    (each : ∀ item ∈ items, ∃ result, compute item = .ok result) :
    ∃ results, items.mapM compute = .ok results := by
  induction items with
  | nil => exact ⟨[], rfl⟩
  | cons item rest ih =>
      obtain ⟨first, head⟩ := each item mem_cons_self
      obtain ⟨others, tail⟩ := ih fun other member => each other (mem_cons_of_mem _ member)
      refine ⟨first :: others, ?_⟩
      rw [mapM_cons, head, tail]
      rfl

end Python
