/-
The two walks along a plain path.

`evaluate` walks over copies in which dicts have become namespaces, but for those
inside tuples and objects; `resolve_variable` walks over the data itself. Where both
find something it is the same, unless a quoted key is asked of a namespace.
-/

import AgenticRuntime.Engine.ConditionOutcome
import AgenticRuntime.Engine.PlainPath

namespace AgenticRuntime

open List ConditionEvaluator Python Segment

/-- Where a walk has come to: the data there, and whether `evaluate` has wrapped it. -/
structure Place where
  wrapped : Bool
  value : Operand

/-- An attribute, or `None` without one. -/
def Operand.attributed (methods : Operand → String → Option Nat) (value : Operand)
    (name : String) : Operand :=
  match value.getAttribute methods name with
  | .missing => .none
  | found => found

namespace Place

variable (methods : Operand → String → Option Nat) (place : Place)

def named (name : String) : Place :=
  match place.value with
  | .none => ⟨false, .none⟩
  | .missing => ⟨false, .none⟩
  | .dict items => ⟨place.wrapped, (Operand.valueAt? (.str name) items).getD .none⟩
  | value => ⟨false, value.attributed methods name⟩

def indexed (position : Int) : Place :=
  match place.value with
  | .list items =>
      if 0 ≤ position ∧ position < items.length then
        ⟨place.wrapped, items.getD position.toNat .none⟩
      else ⟨false, .none⟩
  | .tuple items =>
      if 0 ≤ position ∧ position < items.length then ⟨false, items.getD position.toNat .none⟩
      else ⟨false, .none⟩
  | .dict items =>
      if place.wrapped then ⟨false, .none⟩
      else ⟨false, (Operand.valueAt? (.int position) items).getD .none⟩
  | _ => ⟨false, .none⟩

def below : Segment → Place
  | .field name => place.named methods name
  | .index negative digits => place.indexed (position negative digits)
  | .key _ name => place.named methods name

variable (segments : List Segment)

def reach : Place :=
  segments.foldl (below methods) place

/-- The place is a dict that `evaluate` reads as one. -/
def isPlainDict : Bool := place.value.isDict && !place.wrapped

def loses : Segment → Bool
  | .key _ _ => !place.isPlainDict
  | _ => false

def lost (place : Place) : List Segment → Bool
  | [] => false
  | segment :: rest => place.loses segment || lost (place.below methods segment) rest

/-- What `evaluate` takes from the path: a namespace counts even if it is empty. -/
def seen : Bool :=
  !place.lost methods segments &&
    ((place.reach methods segments).value.truthy ||
      ((place.reach methods segments).wrapped && (place.reach methods segments).value.isDict))

def held : Bool :=
  (place.reach methods segments).value.fromNamespace.truthy

end Place

/-! ### The walk over the data -/

section

variable {methods : Operand → String → Option Nat}

theorem reach_cons (place : Place) (segment : Segment) (rest : List Segment) :
    place.reach methods (segment :: rest) = (place.below methods segment).reach methods rest :=
  rfl

theorem navigate_none (tokens : List PathToken) :
    navigate methods .none tokens = .none := by
  cases tokens with
  | nil | cons token rest => rfl

variable {tokens : List PathToken} {place : Place}

theorem navigate_attributed {answer : Operand} :
    (match answer with
      | .missing => Operand.none
      | found => navigate methods found tokens) ≠ Operand.none →
    (match answer with
      | .missing => Operand.none
      | found => navigate methods found tokens) =
      navigate methods
        (match answer with
          | .missing => Operand.none
          | found => found) tokens := by
  intro found
  cases answer with
  | missing => exact absurd rfl found
  | _ => rfl

theorem navigate_name {name : String}
    (found : navigate methods place.value (.name name :: tokens) ≠ .none) :
    navigate methods place.value (.name name :: tokens) =
      navigate methods (place.named methods name).value tokens := by
  obtain ⟨wrapped, value⟩ := place
  cases value with
  | none => exact absurd (navigate_none _) found
  | missing => exact absurd rfl found
  | dict items => rfl
  | _ => exact navigate_attributed found

theorem navigate_index {position : Int}
    (found : navigate methods place.value (.index position :: tokens) ≠ .none) :
    navigate methods place.value (.index position :: tokens) =
      navigate methods (place.indexed position).value tokens := by
  obtain ⟨wrapped, value⟩ := place
  cases value with
  | list items =>
      by_cases within : 0 ≤ position ∧ position < items.length
      · have place : Place.indexed ⟨wrapped, .list items⟩ position =
            ⟨wrapped, items.getD position.toNat .none⟩ := if_pos within
        rw [place]
        exact if_pos within
      · exact absurd (if_neg within) found
  | tuple items =>
      by_cases within : 0 ≤ position ∧ position < items.length
      · have place : Place.indexed ⟨wrapped, .tuple items⟩ position =
            ⟨false, items.getD position.toNat .none⟩ := if_pos within
        rw [place]
        exact if_pos within
      · exact absurd (if_neg within) found
  | none => exact absurd (navigate_none _) found
  | _ => exact absurd rfl found

theorem seen_cons {segment : Segment} {rest : List Segment} (kept : place.loses segment = false) :
    place.seen methods (segment :: rest) = (place.below methods segment).seen methods rest := by
  rw [Place.seen, Place.seen, Place.lost, kept, Bool.false_or, reach_cons]

theorem seen_lost {segment : Segment} {rest : List Segment} (loses : place.loses segment = true) :
    place.seen methods (segment :: rest) = false := by
  rw [Place.seen, Place.lost, loses, Bool.true_or, Bool.not_true, Bool.false_and]

/-- What `resolve_variable` finds is what stands at the path. -/
theorem navigate_reach {segments : List Segment}
    (found : navigate methods place.value (segments.map token) ≠
      .none) :
    navigate methods place.value (segments.map token) =
      (place.reach methods segments).value := by
  induction segments generalizing place with
  | nil => rfl
  | cons segment rest ih =>
      rw [map_cons] at found ⊢
      rw [reach_cons]
      cases segment with
      | field name | key double name =>
          have step := navigate_name found
          rw [token, step] at found ⊢
          exact ih found
      | index negative digits =>
          have step := navigate_index found
          rw [token, step] at found ⊢
          exact ih found

end

/-! ### The walk over the copies -/

/-- What `evaluate` has in hand at a place. -/
inductive Shown : Place → Operand → Prop where
  | absent (wrapped : Bool) {data value : Operand} (empty : data.isAbsent = true)
      (also : value.isAbsent = true) : Shown ⟨wrapped, data⟩ value
  | copied {data value : Operand} (converted : data.toNamespace = .ok value) :
      Shown ⟨true, data⟩ value
  | plain (value : Operand) : Shown ⟨false, value⟩ value

def Segment.ask (methods : Operand → String → Option Nat) (value : Operand) :
    Segment → Except Fault Operand
  | .field name => .ok (value.getAttribute methods name)
  | .index negative digits => value.getItem (.int (position negative digits))
  | .key _ name => value.getItem (.str name)

theorem shown_optional {wrapped : Bool} {data : Option Operand}
    (same : wrapped = false) : Shown ⟨wrapped, data.getD .none⟩ (data.getD .missing) := by
  subst same
  cases data with
  | none => exact .absent false rfl rfl
  | some value => exact .plain value

theorem shown_fields {items : List (Operand × Operand)} {fields : List (String × Operand)}
    (converted : Operand.toNamespaceFields items = .ok fields) (name : String) :
    Shown ⟨true, (Operand.valueAt? (.str name) items).getD .none⟩
      ((lookupField fields name).getD .missing) := by
  induction items generalizing fields with
  | nil =>
      cases converted
      exact .absent true rfl rfl
  | cons item rest ih =>
      obtain ⟨key, value⟩ := item
      rw [Operand.toNamespaceFields] at converted
      obtain ⟨copy, own, after⟩ := bind_ok converted
      obtain ⟨others, later, built⟩ := bind_ok after
      cases key with
      | str text =>
          cases built
          by_cases same : text = name
          · have found : Operand.valueAt? (.str name) ((.str text, value) :: rest) = some value :=
              if_pos (decide_eq_true same)
            rw [found, lookupField, if_pos same]
            exact .copied own
          · have further : Operand.valueAt? (.str name) ((.str text, value) :: rest) =
                Operand.valueAt? (.str name) rest :=
              if_neg fun equal => same (of_decide_eq_true equal)
            rw [further, lookupField, if_neg same]
            exact ih later
      | _ => cases built

theorem shown_items {items others : List Operand}
    (converted : Operand.toNamespaceItems items = .ok others) :
    others.length = items.length ∧
      ∀ place, Shown ⟨true, items.getD place .none⟩ (others.getD place .missing) := by
  induction items generalizing others with
  | nil =>
      cases converted
      refine ⟨rfl, ?_⟩
      intro place
      exact .absent true rfl rfl
  | cons item rest ih =>
      rw [Operand.toNamespaceItems] at converted
      obtain ⟨first, own, after⟩ := bind_ok converted
      obtain ⟨more, later, built⟩ := bind_ok after
      cases built
      obtain ⟨same, each⟩ := ih later
      refine ⟨congrArg (· + 1) same, ?_⟩
      intro place
      cases place with
      | zero => exact .copied own
      | succ place => exact each place

theorem shown_attributed {methods : Operand → String → Option Nat} (value : Operand)
    (name : String) :
    Shown ⟨false, value.attributed methods name⟩ (value.getAttribute methods name) := by
  unfold Operand.attributed
  cases value.getAttribute methods name with
  | missing => exact .absent false rfl rfl
  | _ => exact .plain _

section

variable {methods : Operand → String → Option Nat}
  (bare : ∀ name, isDunder name = false → methods .none name = none)
  (typed : ∀ items others name, methods (.list items) name = methods (.list others) name)

variable {value : Operand} {place : Place}

include bare in
theorem shown_named_absent {wrapped : Bool} {data : Operand} {name : String}
    (public_ : isDunder name = false) (empty : data.isAbsent = true)
    (also : value.isAbsent = true) :
    Shown (Place.named methods ⟨wrapped, data⟩ name) (value.getAttribute methods name) := by
  have nothing : Place.named methods ⟨wrapped, data⟩ name = ⟨false, .none⟩ := by
    cases data with
    | none | missing => rfl
    | _ => cases empty
  have missing : value.getAttribute methods name = .missing := by
    cases value with
    | none => simp only [Operand.getAttribute, bare name public_, Operand.integer?]
    | missing => rfl
    | _ => cases also
  rw [nothing, missing]
  exact .absent false rfl rfl

include bare typed in
theorem shown_named {name : String} (shown : Shown place value) (public_ : isDunder name = false) :
    Shown (place.named methods name) (value.getAttribute methods name) := by
  cases shown with
  | absent wrapped empty also => exact shown_named_absent bare public_ empty also
  | @copied data value converted =>
      cases data with
      | dict items =>
          rw [Operand.toNamespace] at converted
          obtain ⟨fields, copies, built⟩ := bind_ok converted
          cases built
          exact shown_fields copies name
      | list items =>
          rw [Operand.toNamespace] at converted
          obtain ⟨others, copies, built⟩ := bind_ok converted
          cases built
          have same : (Operand.list others).getAttribute methods name =
              (Operand.list items).getAttribute methods name := by
            simp only [Operand.getAttribute, typed others items name]
            rfl
          rw [same]
          exact shown_attributed (.list items) name
      | none | missing =>
          cases converted
          exact shown_named_absent bare public_ rfl rfl
      | _ =>
          cases converted
          exact shown_attributed _ name
  | plain value =>
      cases value with
      | none | missing => exact shown_named_absent bare public_ rfl rfl
      | dict items => exact shown_optional rfl
      | _ => exact shown_attributed _ name

theorem getItem_absent {key : Operand} (empty : value.isAbsent = true) :
    value.getItem key = .ok .missing := by
  cases value with
  | none | missing => rfl
  | _ => cases empty

theorem shown_indexed {position : Int} (shown : Shown place value) :
    ∃ next, value.getItem (.int position) = .ok next ∧ Shown (place.indexed position) next := by
  have nothing : Shown ⟨false, .none⟩ .missing := .absent false rfl rfl
  have ofTuple : ∀ (wrapped : Bool) (items : List Operand), ∃ next,
      (Operand.tuple items).getItem (.int position) = .ok next ∧
        Shown (Place.indexed ⟨wrapped, .tuple items⟩ position) next := by
    intro wrapped items
    by_cases within : 0 ≤ position ∧ position < items.length
    · refine ⟨items.getD position.toNat .missing, if_pos within, ?_⟩
      have place : Place.indexed ⟨wrapped, .tuple items⟩ position =
          ⟨false, items.getD position.toNat .none⟩ := if_pos within
      rw [place, getD_eq_getElem?_getD, getD_eq_getElem?_getD]
      exact shown_optional rfl
    · refine ⟨.missing, if_neg within, ?_⟩
      have place : Place.indexed ⟨wrapped, .tuple items⟩ position = ⟨false, .none⟩ :=
        if_neg within
      rw [place]
      exact nothing
  cases shown with
  | @absent wrapped data value empty also =>
      refine ⟨.missing, getItem_absent also, ?_⟩
      cases data with
      | none | missing => exact nothing
      | _ => cases empty
  | @copied data value converted =>
      cases data with
      | dict items =>
          rw [Operand.toNamespace] at converted
          obtain ⟨fields, copies, built⟩ := bind_ok converted
          cases built
          exact ⟨.missing, rfl, nothing⟩
      | list items =>
          rw [Operand.toNamespace] at converted
          obtain ⟨others, copies, built⟩ := bind_ok converted
          cases built
          obtain ⟨same, each⟩ := shown_items copies
          by_cases within : 0 ≤ position ∧ position < items.length
          · have place : Place.indexed ⟨true, .list items⟩ position =
                ⟨true, items.getD position.toNat .none⟩ := if_pos within
            rw [← same] at within
            refine ⟨others.getD position.toNat .missing, if_pos within, ?_⟩
            rw [place]
            exact each position.toNat
          · have place : Place.indexed ⟨true, .list items⟩ position = ⟨false, .none⟩ :=
              if_neg within
            rw [← same] at within
            refine ⟨.missing, if_neg within, ?_⟩
            rw [place]
            exact nothing
      | tuple items =>
          cases converted
          exact ofTuple true items
      | _ =>
          cases converted
          exact ⟨.missing, rfl, nothing⟩
  | plain value =>
      cases value with
      | dict items =>
          refine ⟨_, rfl, ?_⟩
          exact shown_optional rfl
      | list items =>
          by_cases within : 0 ≤ position ∧ position < items.length
          · refine ⟨items.getD position.toNat .missing, if_pos within, ?_⟩
            have place : Place.indexed ⟨false, .list items⟩ position =
                ⟨false, items.getD position.toNat .none⟩ := if_pos within
            rw [place, getD_eq_getElem?_getD, getD_eq_getElem?_getD]
            exact shown_optional rfl
          · refine ⟨.missing, if_neg within, ?_⟩
            have place : Place.indexed ⟨false, .list items⟩ position = ⟨false, .none⟩ :=
              if_neg within
            rw [place]
            exact nothing
      | tuple items => exact ofTuple false items
      | _ => exact ⟨.missing, rfl, nothing⟩

theorem shown_key {name : String} (shown : Shown place value) (read : place.isPlainDict = true) :
    ∃ next, value.getItem (.str name) = .ok next ∧ Shown (place.named methods name) next := by
  obtain ⟨isDict, unwrapped⟩ := (Bool.and_eq_true _ _).mp read
  obtain ⟨wrapped, data⟩ := place
  cases data with
  | dict items =>
      cases shown with
      | absent wrapped empty also => cases empty
      | copied converted => cases unwrapped
      | plain value => exact ⟨_, rfl, shown_optional rfl⟩
  | _ => cases isDict

theorem getItem_lost {name : String} (shown : Shown place value)
    (unread : place.isPlainDict = false) : value.getItem (.str name) = .ok .missing := by
  cases shown with
  | absent wrapped empty also => exact getItem_absent also
  | @copied data value converted =>
      cases data with
      | dict items =>
          rw [Operand.toNamespace] at converted
          obtain ⟨fields, copies, built⟩ := bind_ok converted
          cases built
          rfl
      | list items =>
          rw [Operand.toNamespace] at converted
          obtain ⟨others, copies, built⟩ := bind_ok converted
          cases built
          rfl
      | _ =>
          cases converted
          rfl
  | plain value =>
      cases value with
      | dict items => cases unread
      | _ => rfl

def Segment.Public : Segment → Prop
  | .field name => isDunder name = false
  | _ => True

include bare typed in
theorem shown_below {segment : Segment} (shown : Shown place value) (public_ : segment.Public)
    (kept : place.loses segment = false) :
    ∃ next, segment.ask methods value = .ok next ∧ Shown (place.below methods segment) next := by
  cases segment with
  | field name => exact ⟨_, rfl, shown_named bare typed shown public_⟩
  | index negative digits => exact shown_indexed shown
  | key double name => exact shown_key shown (Bool.not_eq_false' _ ▸ kept)

include bare in
theorem ask_absent {segments : List Segment} (empty : value.isAbsent = true)
    (public_ : ∀ segment, segment ∈ segments → segment.Public) :
    ∃ last, segments.foldlM (ask methods) value = .ok last ∧ last.isAbsent = true := by
  induction segments generalizing value with
  | nil => exact ⟨value, rfl, empty⟩
  | cons segment rest ih =>
      have later := fun other member => public_ other (mem_cons_of_mem _ member)
      have next : segment.ask methods value = .ok .missing := by
        cases segment with
        | field name =>
            have own : isDunder name = false := public_ (.field name) mem_cons_self
            cases value with
            | none =>
                simp only [ask, Operand.getAttribute, bare name own, Operand.integer?]
            | missing => rfl
            | _ => cases empty
        | index negative digits | key double name => exact getItem_absent empty
      rw [foldlM_cons, next]
      exact ih rfl later

theorem isEmpty_of_length {α β : Type} {items : List α} {others : List β}
    (same : others.length = items.length) : others.isEmpty = items.isEmpty := by
  cases items with
  | nil => rw [eq_nil_of_length_eq_zero same]; rfl
  | cons item rest =>
      cases others with
      | nil => cases same
      | cons other more => rfl

theorem shown_truthy (shown : Shown place value) :
    value.truthy = (place.value.truthy || (place.wrapped && place.value.isDict)) := by
  cases shown with
  | @absent wrapped data value empty also =>
      have falsy : ∀ operand : Operand, operand.isAbsent = true →
          operand.truthy = false ∧ operand.isDict = false := by
        intro operand absent
        cases operand with
        | none | missing => exact ⟨rfl, rfl⟩
        | _ => cases absent
      rw [(falsy value also).1]
      dsimp only
      rw [(falsy data empty).1, (falsy data empty).2, Bool.and_false, Bool.or_self]
  | @copied data value converted =>
      cases data with
      | dict items =>
          rw [Operand.toNamespace] at converted
          obtain ⟨fields, copies, built⟩ := bind_ok converted
          cases built
          exact (Bool.or_true _).symm
      | list items =>
          rw [Operand.toNamespace] at converted
          obtain ⟨others, copies, built⟩ := bind_ok converted
          cases built
          change (!others.isEmpty) = (!items.isEmpty || false)
          rw [Bool.or_false, isEmpty_of_length (shown_items copies).1]
      | _ =>
          cases converted
          exact (Bool.or_false _).symm
  | plain value => exact (Bool.or_false _).symm

include bare typed in
/-- What `evaluate` takes from a path is what is seen there. -/
theorem ask_seen {segments : List Segment} (shown : Shown place value)
    (public_ : ∀ segment, segment ∈ segments → segment.Public) :
    ∃ last, segments.foldlM (ask methods) value = .ok last ∧
      last.truthy = place.seen methods segments := by
  induction segments generalizing place value with
  | nil => exact ⟨value, rfl, shown_truthy shown⟩
  | cons segment rest ih =>
      have later := fun other member => public_ other (mem_cons_of_mem _ member)
      by_cases loses : place.loses segment = true
      · have missing : segment.ask methods value = .ok .missing := by
          cases segment with
          | key double name =>
              exact getItem_lost shown (Bool.not_eq_true' _ ▸ loses)
          | field name | index negative digits => cases loses
        obtain ⟨last, asked, absent⟩ := ask_absent bare (rfl : Operand.missing.isAbsent = true) later
        refine ⟨last, ?_, ?_⟩
        · rw [foldlM_cons, missing]
          exact asked
        · rw [seen_lost loses]
          cases last with
          | none | missing => rfl
          | _ => cases absent
      · have kept := Bool.eq_false_iff.mpr loses
        obtain ⟨next, asked, reached⟩ := shown_below bare typed shown
          (public_ segment mem_cons_self) kept
        obtain ⟨last, further, truth⟩ := ih reached later
        refine ⟨last, ?_, ?_⟩
        · rw [foldlM_cons, asked]
          exact further
        · rw [truth, seen_cons kept]

end

end AgenticRuntime
