/-
What the readers of a chain of contexts agree on.

On a plain name they all find the nearest context that has it. On a path `get` looks
on in the parents where the nearest one gives null, which the merged variables do not.
-/

import AgenticRuntime.Engine.ScopedVariables
import Mathlib.Data.List.TakeWhile

namespace AgenticRuntime

open Python List Option

namespace VariableScope

variable {search : String → Dict PyValue → Option PyValue} {key : String} {fallback : PyValue}
  {path : VariablePath}

/-! ### The merged variables -/

theorem allVariables_root (scope : VariableScope) (key : String) :
    (allVariables scope []).get? key = scope.own.get? key :=
  rfl

theorem allVariables_child (scope parent : VariableScope) (rest : List VariableScope)
    (key : String) : (allVariables scope (parent :: rest)).get? key =
      (scope.own.get? key).or
        (if key ∈ scope.masked then none else (allVariables parent rest).get? key) := by
  rw [allVariables, Dict.get?_update, Dict.get?_foldl_erase]

/-! ### Plain names -/

theorem takeWhile_ne {c : Char} {text : List Char} (absent : c ∉ text) :
    text.takeWhile (fun other => other ≠ c) = text := by
  apply takeWhile_eq_self_iff.mpr
  intro other member
  apply decide_eq_true
  intro same
  rw [same] at member
  exact absent member

theorem isQuery_eq_false (plain : isQuery key = false) : '.' ∉ key.toList ∧ '[' ∉ key.toList := by
  unfold isQuery at plain
  rw [Bool.or_eq_false_iff, decide_eq_false_iff_not, decide_eq_false_iff_not] at plain
  exact plain

theorem maskRoot_plain (plain : isQuery key = false) : maskRoot key = key := by
  obtain ⟨dotless, bracketless⟩ := isQuery_eq_false plain
  unfold maskRoot
  rw [takeWhile_ne dotless, takeWhile_ne bracketless]
  exact String.ofList_toList

theorem get_eq_getSync (scope : VariableScope) (parents : List VariableScope) :
    get search key fallback scope parents = getSync search key fallback scope parents := by
  induction parents generalizing scope with
  | nil =>
      unfold get getSync
      cases scope.localHit search key with
      | some value => rfl
      | none => simp
  | cons parent rest ih =>
      unfold get getSync
      cases scope.localHit search key with
      | some value => rfl
      | none => simp [ih parent]

theorem getSync_plain (plain : isQuery key = false) (scope : VariableScope)
    (parents : List VariableScope) : getSync search key fallback scope parents =
      ((allVariables scope parents).get? key).getD fallback := by
  have hit (scope : VariableScope) : scope.localHit search key = scope.own.get? key := by
    unfold localHit
    rw [plain]
    rfl
  induction parents generalizing scope with
  | nil =>
      unfold getSync
      rw [hit, maskRoot_plain plain, allVariables_root]
      cases scope.own.get? key with
      | some value => rfl
      | none => simp
  | cons parent rest ih =>
      unfold getSync
      rw [hit, maskRoot_plain plain, allVariables_child]
      cases scope.own.get? key with
      | some value => rfl
      | none =>
          rw [none_or]
          by_cases masked : key ∈ scope.masked
          · simp [masked]
          · simp [masked, ih parent]

theorem mem_keys_iff {held : Dict PyValue} : key ∈ held.keys ↔ held.get? key ≠ none := by
  unfold Dict.keys Dict.get?
  rw [ne_eq, Items.get?_eq_none_iff, not_not]

theorem has_iff (scope : VariableScope) (parents : List VariableScope) :
    has key scope parents = true ↔ key ∈ (allVariables scope parents).keys := by
  rw [mem_keys_iff]
  induction parents generalizing scope with
  | nil =>
      unfold has
      rw [allVariables_root]
      by_cases own : key ∈ scope.own.keys
      · rw [if_pos own]
        exact iff_of_true rfl (mem_keys_iff.mp own)
      · rw [if_neg own]
        apply iff_of_false
        · split
          · exact Bool.false_ne_true
          · exact Bool.false_ne_true
        · exact fun found => own (mem_keys_iff.mpr found)
  | cons parent rest ih =>
      unfold has
      rw [allVariables_child]
      by_cases own : key ∈ scope.own.keys
      · rw [if_pos own]
        apply iff_of_true rfl
        obtain ⟨value, held⟩ := ne_none_iff_exists'.mp (mem_keys_iff.mp own)
        rw [held]
        exact some_ne_none value
      · have unheld : scope.own.get? key = none := by
          by_contra found
          exact own (mem_keys_iff.mpr found)
        rw [if_neg own, unheld, none_or]
        by_cases masked : key ∈ scope.masked
        · rw [if_pos masked, if_pos masked]
          exact iff_of_false Bool.false_ne_true fun found => found rfl
        · rw [if_neg masked, if_neg masked]
          exact ih parent

/-! ### Paths -/

theorem ne_of_isPathName {name : String} (named : isPathName name = true) {c : Char}
    (member : c ∈ name.toList) : c ≠ '.' ∧ c ≠ '[' := by
  have lettered : c.isAlphanum = true ∨ c = '_' := by
    unfold isPathName at named
    split at named
    · cases named
    · rename_i first rest spelled
      rw [spelled] at member
      rw [Bool.and_eq_true, Bool.or_eq_true] at named
      rcases List.mem_cons.mp member with same | later
      · subst same
        rcases named.1 with alpha | line
        · left
          unfold Char.isAlphanum
          rw [alpha]
          rfl
        · exact .inr (of_decide_eq_true line)
      · have own := all_eq_true.mp named.2 c later
        rcases (Bool.or_eq_true _ _).mp own with alphanum | line
        · exact .inl alphanum
        · exact .inr (of_decide_eq_true line)
  constructor
  · intro same
    subst same
    rcases lettered with impossible | impossible
    · cases impossible
    · cases impossible
  · intro same
    subst same
    rcases lettered with impossible | impossible
    · cases impossible
    · cases impossible

theorem foldl_text (steps : List PathStep) (start : String) :
    (steps.foldl (fun text step => text ++ step.text) start).toList =
      start.toList ++ steps.flatMap fun step => step.text.toList := by
  induction steps generalizing start with
  | nil => simp
  | cons step rest ih =>
      rw [foldl_cons, ih, flatMap_cons, String.toList_append, append_assoc]

theorem stepText_toList (step : PathStep) :
    ∃ rest, step.text.toList = '.' :: rest ∨ step.text.toList = '[' :: rest := by
  cases step with
  | field name =>
      refine ⟨name.toList, .inl ?_⟩
      change ("." ++ name).toList = _
      rw [String.toList_append]
      rfl
  | index position =>
      refine ⟨(toString position ++ "]").toList, .inr ?_⟩
      change ("[" ++ toString position ++ "]").toList = _
      rw [String.append_assoc, String.toList_append]
      rfl

theorem pathText_toList (path : VariablePath) : ∃ rest,
    path.text.toList = path.root.toList ++ '.' :: rest ∨
      path.text.toList = path.root.toList ++ '[' :: rest := by
  unfold VariablePath.text
  rw [foldl_text]
  cases spelled : path.steps with
  | nil => exact absurd spelled path.deep
  | cons step rest =>
      rw [flatMap_cons]
      obtain ⟨more, dotted | indexed⟩ := stepText_toList step
      · rw [dotted]
        exact ⟨_, .inl rfl⟩
      · rw [indexed]
        exact ⟨_, .inr rfl⟩

theorem isQuery_path (path : VariablePath) : isQuery path.text = true := by
  unfold isQuery
  obtain ⟨rest, dotted | indexed⟩ := pathText_toList path
  · rw [dotted]
    simp
  · rw [indexed]
    simp

theorem maskRoot_path (path : VariablePath) : maskRoot path.text = path.root := by
  have dotless : '.' ∉ path.root.toList := fun member =>
    (ne_of_isPathName path.named member).1 rfl
  have bracketless : '[' ∉ path.root.toList := fun member =>
    (ne_of_isPathName path.named member).2 rfl
  have clear : ∀ c ∈ path.root.toList, decide (c ≠ '.') = true := by
    intro c member
    exact decide_eq_true fun same => dotless (same ▸ member)
  have open_ : ∀ c ∈ path.root.toList, decide (c ≠ '[') = true := by
    intro c member
    exact decide_eq_true fun same => bracketless (same ▸ member)
  unfold maskRoot
  obtain ⟨rest, dotted | indexed⟩ := pathText_toList path
  · rw [dotted, takeWhile_append_of_pos clear, takeWhile_cons_of_neg (by simp), append_nil,
      takeWhile_ne bracketless]
    exact String.ofList_toList
  · rw [indexed, takeWhile_append_of_pos clear, takeWhile_cons_of_pos (by simp),
      takeWhile_append_of_pos open_, takeWhile_cons_of_neg (by simp), append_nil]
    exact String.ofList_toList

theorem foldl_follow_none (steps : List PathStep) :
    steps.foldl PathStep.follow .none = .none := by
  induction steps with
  | nil => rfl
  | cons step rest ih =>
      rw [foldl_cons, PathStep.follow_none]
      exact ih

theorem value_congr {left right : Dict PyValue}
    (same : left.get? path.root = right.get? path.root) : path.value left = path.value right := by
  unfold VariablePath.value
  rw [same]

theorem value_absent {held : Dict PyValue} (absent : held.get? path.root = none) :
    path.value held = .none := by
  unfold VariablePath.value
  rw [absent]
  exact foldl_follow_none path.steps

def Documented (search : String → Dict PyValue → Option PyValue) (path : VariablePath) : Prop :=
  ∀ held, search path.text held = some (path.value held)

theorem localHit_path (documented : Documented search path) (scope : VariableScope) :
    (path.value scope.own = .none ∧ scope.localHit search path.text = none) ∨
      (path.value scope.own ≠ .none ∧
        scope.localHit search path.text = some (path.value scope.own)) := by
  unfold localHit
  rw [isQuery_path, if_pos rfl, documented]
  by_cases null : path.value scope.own = .none
  · rw [null]
    exact .inl ⟨rfl, rfl⟩
  · right
    refine ⟨null, ?_⟩
    split
    · rename_i impossible
      cases impossible
    · rename_i impossible
      exact absurd (some.inj impossible) null
    · rename_i value _ known
      exact known.symm

def Silent (path : VariablePath) : List VariableScope → Prop
  | [] => True
  | scope :: rest => path.value scope.own = .none ∧ (path.root ∈ scope.masked ∨ Silent path rest)

/-- Where the nearest context that holds the root gives the path null, no context behind it
gives it anything else. -/
def Shadows (path : VariablePath) : VariableScope → List VariableScope → Prop
  | scope, parents =>
      (path.root ∈ scope.own.keys → path.value scope.own ≠ .none ∨ path.root ∈ scope.masked ∨
        Silent path parents) ∧
      (path.root ∉ scope.own.keys → path.root ∈ scope.masked ∨
        match parents with
        | [] => True
        | parent :: rest => Shadows path parent rest)

theorem getSync_eq_none_iff (documented : Documented search path) (scope : VariableScope)
    (parents : List VariableScope) :
    getSync search path.text .none scope parents = .none ↔ Silent path (scope :: parents) := by
  induction parents generalizing scope with
  | nil =>
      unfold getSync
      rcases localHit_path documented scope with ⟨null, missed⟩ | ⟨held, hit⟩
      · rw [missed]
        apply iff_of_true
        · simp
        · exact ⟨null, .inr trivial⟩
      · rw [hit]
        exact iff_of_false held fun silent => held silent.1
  | cons parent rest ih =>
      unfold getSync
      rw [maskRoot_path]
      rcases localHit_path documented scope with ⟨null, missed⟩ | ⟨held, hit⟩
      · rw [missed]
        by_cases masked : path.root ∈ scope.masked
        · rw [if_pos masked]
          exact iff_of_true rfl ⟨null, .inl masked⟩
        · rw [if_neg masked]
          change getSync search path.text .none parent rest = .none ↔ _
          rw [ih parent]
          constructor
          · intro silent
            exact ⟨null, .inr silent⟩
          · intro silent
            exact silent.2.resolve_left masked
      · rw [hit]
        exact iff_of_false held fun silent => held silent.1

theorem getSync_path_iff (documented : Documented search path) (scope : VariableScope)
    (parents : List VariableScope) :
    getSync search path.text .none scope parents = path.value (allVariables scope parents) ↔
      Shadows path scope parents := by
  induction parents generalizing scope with
  | nil =>
      unfold getSync Shadows
      rcases localHit_path documented scope with ⟨null, missed⟩ | ⟨held, hit⟩
      · rw [missed]
        apply iff_of_true
        · change _ = path.value scope.own
          rw [null]
          simp
        · exact ⟨fun _ => .inr (.inr trivial), fun _ => .inr trivial⟩
      · rw [hit]
        exact iff_of_true rfl ⟨fun _ => .inl held, fun _ => .inr trivial⟩
  | cons parent rest ih =>
      have merged := allVariables_child scope parent rest path.root
      by_cases own : path.root ∈ scope.own.keys
      · obtain ⟨value, known⟩ := ne_none_iff_exists'.mp (mem_keys_iff.mp own)
        rw [known, some_or, ← known] at merged
        rw [value_congr merged]
        unfold Shadows
        rcases localHit_path documented scope with ⟨null, missed⟩ | ⟨held, hit⟩
        · rw [null, getSync_eq_none_iff documented]
          constructor
          · intro silent
            exact ⟨fun _ => .inr silent.2, fun absent => absurd own absent⟩
          · intro shadows
            exact ⟨null, (shadows.1 own).resolve_left fun held => held rfl⟩
        · unfold getSync
          rw [hit]
          exact iff_of_true rfl ⟨fun _ => .inl held, fun absent => absurd own absent⟩
      · have absent : scope.own.get? path.root = none := by
          by_contra found
          exact own (mem_keys_iff.mpr found)
        have null := value_absent absent
        rw [absent, none_or] at merged
        unfold getSync Shadows
        rw [maskRoot_path]
        rcases localHit_path documented scope with ⟨-, missed⟩ | ⟨held, -⟩
        · rw [missed]
          by_cases masked : path.root ∈ scope.masked
          · rw [if_pos masked] at merged ⊢
            rw [value_absent merged]
            exact iff_of_true rfl ⟨fun member => absurd member own, fun _ => .inl masked⟩
          · rw [if_neg masked] at merged ⊢
            change getSync search path.text .none parent rest = _ ↔ _
            rw [value_congr merged, ih parent]
            constructor
            · intro shadows
              exact ⟨fun member => absurd member own, fun _ => .inr shadows⟩
            · intro shadows
              exact (shadows.2 own).resolve_left masked
        · exact absurd null held

structure ReadersAgree (search : String → Dict PyValue → Option PyValue) (path : VariablePath)
    (scope : VariableScope) (parents : List VariableScope) : Prop where
  read : ∀ key fallback, isQuery key = false →
    get search key fallback scope parents =
        ((allVariables scope parents).get? key).getD fallback ∧
      getSync search key fallback scope parents =
        ((allVariables scope parents).get? key).getD fallback
  present : ∀ key, isQuery key = false →
    (has key scope parents = true ↔ key ∈ (allVariables scope parents).keys)
  queried :
    get search path.text .none scope parents = path.value (allVariables scope parents) ∧
      getSync search path.text .none scope parents = path.value (allVariables scope parents)

/-- After any calls on a chain, the readers of each context agree on every plain name; they agree
on a path if and only if the nearest context that holds its root gives it a value, masks the
root, or stands before contexts that are silent about the path. -/
theorem scoped_reads_agree_iff (search : String → Dict PyValue → Option PyValue)
    (path : VariablePath) (documented : Documented search path) (calls : List (Nat × ScopeCall))
    (chain : List VariableScope) (depth : Nat) (scope : VariableScope)
    (parents : List VariableScope)
    (_reached : (runCalls search calls chain).drop depth = scope :: parents) :
    ReadersAgree search path scope parents ↔ Shadows path scope parents := by
  rw [← getSync_path_iff documented]
  constructor
  · intro agree
    exact agree.queried.2
  · intro same
    constructor
    · intro key fallback plain
      rw [get_eq_getSync]
      exact ⟨getSync_plain plain scope parents, getSync_plain plain scope parents⟩
    · exact fun key _ => has_iff scope parents
    · rw [get_eq_getSync]
      exact ⟨same, same⟩

/-- `results.a` -/
def resultsA : VariablePath where
  root := "results"
  steps := [.field "a"]
  named := by decide +kernel
  deep := cons_ne_nil _ _
  fields := by
    intro name member
    rw [mem_singleton] at member
    cases member
    decide +kernel

def searchResultsA (key : String) (held : Dict PyValue) : Option PyValue :=
  if key = resultsA.text then some (resultsA.value held) else none

theorem searchResultsA_documented : Documented searchResultsA resultsA :=
  fun _ => if_pos rfl

def shadowingCalls : List (Nat × ScopeCall) :=
  [(1, .set "results" (.dict [(.str "a", .int 5)])),
    (0, .set "results" (.dict [(.str "b", .int 1)]))]

/-- The reader looks through the child's object at a field of the parent's. -/
theorem parent_field_shows_through :
    ∃ scope parents, (runCalls searchResultsA shadowingCalls [{}, {}]).drop 0 = scope :: parents ∧
      getSync searchResultsA resultsA.text .none scope parents = .int 5 ∧
      resultsA.value (allVariables scope parents) = .none ∧
      ¬ ReadersAgree searchResultsA resultsA scope parents := by
  refine ⟨_, _, rfl, rfl, rfl, ?_⟩
  intro agree
  have same := agree.queried.2
  cases same

def maskingCalls : List (Nat × ScopeCall) :=
  [(1, .set "results" (.dict [(.str "a", .int 5)])), (0, .maskInherited "results")]

theorem masked_object_reads_agree :
    ∃ scope parents, (runCalls searchResultsA maskingCalls [{}, {}]).drop 0 = scope :: parents ∧
      Shadows resultsA scope parents ∧ ReadersAgree searchResultsA resultsA scope parents := by
  have shadows : Shadows resultsA { masked := ["results"] }
      [{ own := ⟨[("results", .dict [(.str "a", .int 5)])], nodup_singleton _⟩ }] := by
    refine ⟨fun _ => .inr (.inl ?_), fun _ => .inl ?_⟩
    · exact mem_singleton_self _
    · exact mem_singleton_self _
  exact ⟨_, _, rfl, shadows,
    (scoped_reads_agree_iff searchResultsA resultsA searchResultsA_documented maskingCalls
      [{}, {}] 0 _ _ rfl).mpr shadows⟩

end VariableScope

end AgenticRuntime
