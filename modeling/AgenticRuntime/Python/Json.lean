/-
The standard `json` module on syntax trees.

A JSON text is kept as its syntax tree, so an object may name a member twice.
`dumps` is total except on dict keys that JSON has no text for; `loads` keeps
the last member of a name.
-/

import AgenticRuntime.Python.Values

namespace Python

open List PyValue

inductive Json where
  | null
  | bool (value : Bool)
  | int (value : Int)
  | float (value : PyFloat)
  | str (text : String)
  | array (elements : List Json)
  | object (members : List (String × Json))
  deriving Repr

@[elab_as_elim]
theorem Json.induction {motive : Json → Prop} (null : motive .null)
    (bool : ∀ value, motive (.bool value)) (int : ∀ value, motive (.int value))
    (float : ∀ value, motive (.float value)) (str : ∀ text, motive (.str text))
    (array : ∀ elements, (∀ element ∈ elements, motive element) → motive (.array elements))
    (object : ∀ members, (∀ member ∈ members, motive member.2) → motive (.object members))
    (value : Json) : motive value :=
  match value with
  | .null => null
  | .bool value => bool value
  | .int value => int value
  | .float value => float value
  | .str text => str text
  | .array elements =>
      array elements fun element _ => element.induction null bool int float str array object
  | .object members =>
      object members fun member _ => member.2.induction null bool int float str array object
  termination_by sizeOf value
  decreasing_by
    · have smaller := sizeOf_lt_of_mem ‹element ∈ elements›
      simp only [Json.array.sizeOf_spec]
      omega
    · have smaller := sizeOf_lt_of_mem ‹member ∈ members›
      have inner : sizeOf member.2 < sizeOf member := by
        cases member
        simp only [Prod.mk.sizeOf_spec]
        omega
      simp only [Json.object.sizeOf_spec]
      omega

/-- Members as dict items, the last one of a name winning in the first one's place. -/
def ofMembers (members : List (String × PyValue)) : List (PyKey × PyValue) :=
  (Items.update [] members).map fun member => (.str member.1, member.2)

/-! ### json.loads -/

mutual

def Json.loads : Json → PyValue
  | .null => .none
  | .bool value => .bool value
  | .int value => .int value
  | .float value => .float value
  | .str text => .str text
  | .array elements => .list (loadsElements elements)
  | .object members => .dict (ofMembers (loadsMembers members))

def loadsElements : List Json → List PyValue
  | [] => []
  | element :: rest => element.loads :: loadsElements rest

def loadsMembers : List (String × Json) → List (String × PyValue)
  | [] => []
  | (name, value) :: rest => (name, value.loads) :: loadsMembers rest

end

/-! ### json.dumps with default=str -/

/-- `str(value)` for the values that `json` hands to `default`. -/
def PyValue.defaultStr : PyValue → String
  | .datetime iso => iso.map fun c => if c = 'T' then ' ' else c
  | .path text => text
  | .object text => text
  | _ => ""

/-- The member name of a key; `none` is the `TypeError` of an unsupported key. -/
def PyKey.jsonName (floatRepr : PyFloat → String) : PyKey → Option String
  | .none => some "null"
  | .bool true => some "true"
  | .bool false => some "false"
  | .int value => some (toString value)
  | .float value => some (floatRepr value)
  | .str text => some text
  | .other _ => .none

section

variable (floatRepr : PyFloat → String)

mutual

def PyValue.dumps : PyValue → Option Json
  | .none => some .null
  | .bool value => some (.bool value)
  | .int value => some (.int value)
  | .float value => some (.float value)
  | .str text => some (.str text)
  | .list items => (dumpsElements items).map .array
  | .tuple items => (dumpsElements items).map .array
  | .dict items => (dumpsMembers items).map .object
  | .datetime iso => some (.str (defaultStr (.datetime iso)))
  | .path text => some (.str text)
  | .object text => some (.str text)

def dumpsElements : List PyValue → Option (List Json)
  | [] => some []
  | item :: rest => do
      let element ← item.dumps
      let elements ← dumpsElements rest
      return element :: elements

def dumpsMembers : List (PyKey × PyValue) → Option (List (String × Json))
  | [] => some []
  | (key, value) :: rest => do
      let name ← key.jsonName floatRepr
      let member ← value.dumps
      let members ← dumpsMembers rest
      return (name, member) :: members

end

/-! ### Reading back what was written -/

mutual

def PyValue.asJson : PyValue → PyValue
  | .none => .none
  | .bool value => .bool value
  | .int value => .int value
  | .float value => .float value
  | .str text => .str text
  | .list items => .list (asJsonItems items)
  | .tuple items => .list (asJsonItems items)
  | .dict items => .dict (ofMembers (asJsonEntries items))
  | .datetime iso => .str (defaultStr (.datetime iso))
  | .path text => .str text
  | .object text => .str text

def asJsonItems : List PyValue → List PyValue
  | [] => []
  | item :: rest => item.asJson :: asJsonItems rest

def asJsonEntries : List (PyKey × PyValue) → List (String × PyValue)
  | [] => []
  | (key, value) :: rest =>
      ((key.jsonName floatRepr).getD "", value.asJson) :: asJsonEntries rest

end

end

/-- What `dumps` can write when it also takes the values of `extra`. -/
inductive Serialisable (extra : PyValue → Prop) : PyValue → Prop where
  | extra {value : PyValue} (allowed : extra value) : Serialisable extra value
  | none : Serialisable extra .none
  | bool (value : Bool) : Serialisable extra (.bool value)
  | int (value : Int) : Serialisable extra (.int value)
  | float (value : PyFloat) : Serialisable extra (.float value)
  | str (text : String) : Serialisable extra (.str text)
  | list {items : List PyValue} (each : ∀ item ∈ items, Serialisable extra item) :
      Serialisable extra (.list items)
  | tuple {items : List PyValue} (each : ∀ item ∈ items, Serialisable extra item) :
      Serialisable extra (.tuple items)
  | dict {items : List (PyKey × PyValue)}
      (named : ∀ item ∈ items, ∀ text, item.1 ≠ .other text)
      (each : ∀ item ∈ items, Serialisable extra item.2) : Serialisable extra (.dict items)

inductive Plain : PyValue → Prop where
  | none : Plain .none
  | bool (value : Bool) : Plain (.bool value)
  | int (value : Int) : Plain (.int value)
  | float (value : PyFloat) : Plain (.float value)
  | str (text : String) : Plain (.str text)
  | list {items : List PyValue} (each : ∀ item ∈ items, Plain item) : Plain (.list items)
  | dict {items : List (String × PyValue)} (distinct : (Items.keys items).Nodup)
      (each : ∀ item ∈ items, Plain item.2) :
      Plain (.dict (items.map fun item => (.str item.1, item.2)))

section

variable {floatRepr : PyFloat → String}

theorem loadsElements_eq (elements : List Json) :
    loadsElements elements = elements.map Json.loads := by
  induction elements with
  | nil => rfl
  | cons element rest ih => simp only [loadsElements, ih, map_cons]

theorem loadsMembers_eq (members : List (String × Json)) :
    loadsMembers members = members.map fun member => (member.1, member.2.loads) := by
  induction members with
  | nil => rfl
  | cons member rest ih => simp only [loadsMembers, ih, map_cons]

theorem asJsonItems_eq (items : List PyValue) :
    asJsonItems floatRepr items = items.map (asJson floatRepr) := by
  induction items with
  | nil => rfl
  | cons item rest ih => simp only [asJsonItems, ih, map_cons]

theorem asJsonEntries_eq (items : List (PyKey × PyValue)) :
    asJsonEntries floatRepr items =
      items.map fun item => ((item.1.jsonName floatRepr).getD "", item.2.asJson floatRepr) := by
  induction items with
  | nil => rfl
  | cons item rest ih => simp only [asJsonEntries, ih, map_cons]

theorem ofMembers_of_distinct {members : List (String × PyValue)}
    (distinct : (Items.keys members).Nodup) :
    ofMembers members = members.map fun member => (.str member.1, member.2) := by
  unfold ofMembers
  have whole : (Items.keys ([] ++ members)).Nodup := distinct
  rw [Items.update_of_distinct whole, nil_append]

theorem exists_jsonName {key : PyKey} (named : ∀ text, key ≠ .other text) :
    ∃ name, key.jsonName floatRepr = some name := by
  cases key with
  | none | int value | float value | str text => exact ⟨_, rfl⟩
  | bool value => cases value <;> exact ⟨_, rfl⟩
  | other text => exact absurd rfl (named text)

/-- `dumps` writes the value and `loads` reads its JSON form. -/
def Written (floatRepr : PyFloat → String) (value : PyValue) : Prop :=
  ∃ json, value.dumps floatRepr = some json ∧ json.loads = value.asJson floatRepr

theorem written_elements {items : List PyValue} (each : ∀ item ∈ items, Written floatRepr item) :
    ∃ elements, dumpsElements floatRepr items = some elements ∧
      loadsElements elements = asJsonItems floatRepr items := by
  induction items with
  | nil => exact ⟨[], rfl, rfl⟩
  | cons item rest ih =>
      obtain ⟨element, dumped, loaded⟩ := each item mem_cons_self
      obtain ⟨elements, restDumped, restLoaded⟩ :=
        ih fun other member => each other (mem_cons_of_mem _ member)
      refine ⟨element :: elements, ?_, ?_⟩
      · simp [dumpsElements, dumped, restDumped]
      · simp only [loadsElements, asJsonItems, loaded, restLoaded]

theorem written_members {items : List (PyKey × PyValue)}
    (named : ∀ item ∈ items, ∀ text, item.1 ≠ .other text)
    (each : ∀ item ∈ items, Written floatRepr item.2) :
    ∃ members, dumpsMembers floatRepr items = some members ∧
      loadsMembers members = asJsonEntries floatRepr items := by
  induction items with
  | nil => exact ⟨[], rfl, rfl⟩
  | cons item rest ih =>
      obtain ⟨key, value⟩ := item
      have naming : ∃ name, key.jsonName floatRepr = some name :=
        exists_jsonName (named (key, value) mem_cons_self)
      obtain ⟨name, isName⟩ := naming
      obtain ⟨member, dumped, loaded⟩ := each (key, value) mem_cons_self
      obtain ⟨members, restDumped, restLoaded⟩ :=
        ih (fun other there => named other (mem_cons_of_mem _ there))
          (fun other there => each other (mem_cons_of_mem _ there))
      refine ⟨(name, member) :: members, ?_, ?_⟩
      · simp [dumpsMembers, isName, dumped, restDumped]
      · simp only [loadsMembers, asJsonEntries, isName, Option.getD_some, loaded, restLoaded]

theorem written_of_serialisable {extra : PyValue → Prop} {value : PyValue}
    (extraWritten : ∀ value, extra value → Written floatRepr value)
    (serialisable : Serialisable extra value) : Written floatRepr value := by
  induction serialisable with
  | extra allowed => exact extraWritten _ allowed
  | none | bool value | int value | float value | str text => exact ⟨_, rfl, rfl⟩
  | list _ ih | tuple _ ih =>
      obtain ⟨elements, dumped, loaded⟩ := written_elements ih
      refine ⟨.array elements, ?_, ?_⟩
      · simp only [dumps, dumped, Option.map_some]
      · simp only [Json.loads, asJson, loaded]
  | dict named _ ih =>
      obtain ⟨members, dumped, loaded⟩ := written_members named ih
      refine ⟨.object members, ?_, ?_⟩
      · simp only [dumps, dumped, Option.map_some]
      · simp only [Json.loads, asJson, loaded]

/-- What only `default=str` can write. -/
def Opaque (value : PyValue) : Prop :=
  (∃ iso, value = .datetime iso) ∨ (∃ text, value = .path text) ∨ ∃ text, value = .object text

theorem written_of_opaque {value : PyValue} (allowed : Opaque value) :
    Written floatRepr value := by
  rcases allowed with ⟨iso, same⟩ | ⟨text, same⟩ | ⟨text, same⟩
  · subst value
    exact ⟨_, rfl, rfl⟩
  · subst value
    exact ⟨_, rfl, rfl⟩
  · subst value
    exact ⟨_, rfl, rfl⟩

theorem Serialisable.mono {weak strong : PyValue → Prop} {value : PyValue}
    (implies : ∀ value, strong value → weak value) (serialisable : Serialisable strong value) :
    Serialisable weak value := by
  induction serialisable with
  | extra allowed => exact .extra (implies _ allowed)
  | none => exact .none
  | bool value => exact .bool value
  | int value => exact .int value
  | float value => exact .float value
  | str text => exact .str text
  | list _ ih => exact .list ih
  | tuple _ ih => exact .tuple ih
  | dict named _ ih => exact .dict named ih

theorem Plain.serialisable {extra : PyValue → Prop} {value : PyValue} (plain : Plain value) :
    Serialisable extra value := by
  induction plain with
  | none => exact .none
  | bool value => exact .bool value
  | int value => exact .int value
  | float value => exact .float value
  | str text => exact .str text
  | list _ ih => exact .list ih
  | dict _ _ ih =>
      apply Serialisable.dict
      · intro item member text same
        obtain ⟨source, _, shape⟩ := mem_map.mp member
        rw [← shape] at same
        cases same
      · intro item member
        obtain ⟨source, there, shape⟩ := mem_map.mp member
        rw [← shape]
        exact ih source there

theorem asJson_of_plain {value : PyValue} (plain : Plain value) :
    value.asJson floatRepr = value := by
  induction plain with
  | none => rfl
  | bool value => rfl
  | int value => rfl
  | float value => rfl
  | str text => rfl
  | @list items _ ih =>
      rw [asJson, asJsonItems_eq, map_congr_left ih, map_id']
  | @dict items distinct _ ih =>
      have entries : asJsonEntries floatRepr (items.map fun item => (.str item.1, item.2)) =
          items := by
        rw [asJsonEntries_eq, map_map]
        calc items.map _
            = items.map id := by
              apply map_congr_left
              intro item member
              exact Prod.ext rfl (ih item member)
          _ = items := map_id items
      rw [asJson, entries, ofMembers_of_distinct distinct]

end

end Python
