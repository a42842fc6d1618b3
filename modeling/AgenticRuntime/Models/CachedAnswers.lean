/-
When a cached answer is the original one.

Every entry of the cache goes back to the last call that wrote under its key; what is
left is that the entry keeps the answer and that the key keeps the request.
-/

import AgenticRuntime.Models.ResponseCache

namespace AgenticRuntime

open List hiding not_lt repr

namespace ResponseCache

open Python

/-! ### Caches that only lose entries -/

def Kept (smaller larger : Cache) : Prop :=
  ∀ key entry, smaller.get? key = some entry → larger.get? key = some entry

theorem kept_refl (cache : Cache) : Kept cache cache := fun _ _ => id

theorem kept_erase (cache : Cache) (key : String) : Kept (cache.erase key) cache := by
  intro other entry found
  rw [Dict.get?_erase] at found
  by_cases same : key = other
  · rw [if_pos same] at found
    cases found
  · rwa [if_neg same] at found

theorem kept_foldl_erase (items : List (String × CachedResponse)) (cache : Cache) :
    Kept (items.foldl (fun kept item => kept.erase item.1) cache) cache := by
  induction items generalizing cache with
  | nil => exact kept_refl cache
  | cons item rest ih =>
      intro key entry found
      exact kept_erase cache item.1 key entry (ih (cache.erase item.1) key entry found)

theorem kept_prune (cache : Cache) : Kept (prune cache) cache := by
  rw [prune]
  by_cases large : 1000 < cache.items.length
  · rw [if_pos large]
    exact kept_foldl_erase _ cache
  · rw [if_neg large]
    exact kept_refl cache

/-! ### One call -/

section

variable (client : Client)

def Record.Writes (record : Record) : Prop :=
  record.hit = false ∧ client.caches record.call = true ∧ record.answer.isSome = true

inductive Performed (cache : Cache) (call : Call) : Record → Cache → Prop
  | hit (key : String) (cached : CachedResponse) (answer : Answer) (left : Cache)
      (keyed : client.cacheKey call.request = some key) (used : client.caches call = true)
      (found : cache.get? key = some cached)
      (fresh : call.setting.now - cached.timestamp ≤ client.cacheTtlSeconds)
      (read : client.answer call.request.asked cached = some answer) (kept : Kept left cache) :
      Performed cache call ⟨call, some answer, true⟩ left
  | quiet (answer : Option Answer) (left : Cache)
      (silent : ¬ Record.Writes client ⟨call, answer, false⟩) (kept : Kept left cache) :
      Performed cache call ⟨call, answer, false⟩ left
  | stored (key : String) (entry : CachedResponse) (left : Cache)
      (keyed : client.cacheKey call.request = some key)
      (writes : Record.Writes client ⟨call, call.fresh, false⟩)
      (made : call.entry client = some entry)
      (kept : ∀ other value, left.get? other = some value →
        (other = key ∧ value = entry) ∨ (other ≠ key ∧ cache.get? other = some value)) :
      Performed cache call ⟨call, call.fresh, false⟩ left

variable {client}

theorem Performed.call_eq {cache left : Cache} {call : Call} {record : Record}
    (performed : Performed client cache call record left) : record.call = call := by
  cases performed with
  | hit => rfl
  | quiet => rfl
  | stored => rfl

theorem getCached_kept (cache : Cache) (key : String) (now : Rat) :
    Kept (getCached client cache key now).2 cache := by
  rw [getCached]
  by_cases disabled : ¬ client.enableCache
  · rw [if_pos disabled]
    exact kept_refl cache
  · rw [if_neg disabled]
    cases cache.get? key with
    | none => exact kept_refl cache
    | some cached =>
        dsimp only
        by_cases old : client.cacheTtlSeconds < now - cached.timestamp
        · rw [if_pos old]
          exact kept_erase cache key
        · rw [if_neg old]
          exact kept_refl cache

theorem getCached_some {cache : Cache} {key : String} {now : Rat} {cached : CachedResponse}
    (found : (getCached client cache key now).1 = some cached) :
    cache.get? key = some cached ∧ now - cached.timestamp ≤ client.cacheTtlSeconds := by
  rw [getCached] at found
  by_cases disabled : ¬ client.enableCache
  · rw [if_pos disabled] at found
    cases found
  · rw [if_neg disabled] at found
    cases there : cache.get? key with
    | none =>
        rw [there] at found
        cases found
    | some entry =>
        rw [there] at found
        dsimp only at found
        by_cases old : client.cacheTtlSeconds < now - entry.timestamp
        · rw [if_pos old] at found
          cases found
        · rw [if_neg old] at found
          cases found
          exact ⟨rfl, not_lt.mp old⟩

theorem fresh_of_entry {call : Call} {entry : CachedResponse}
    (made : call.entry client = some entry) : call.fresh.isSome = true := by
  cases call with
  | complete setting ek prompt tier model kwargs outcome
  | completeChat setting messages tools tier model kwargs outcome =>
      cases outcome with
      | none => cases made
      | some answer => rfl

theorem finish_performed {cache left : Cache} {key : String} {call : Call} (kept : Kept left cache)
    (keyed : client.cacheKey call.request = some key) :
    Performed client cache call (finish client left key call).1 (finish client left key call).2 := by
  rw [finish]
  by_cases used : client.caches call = true
  · rw [if_pos used]
    cases made : call.entry client with
    | none =>
        refine .quiet none left (fun writes => ?_) kept
        exact Bool.false_ne_true writes.2.2
    | some entry =>
        have enabled : client.enableCache = true := (Bool.and_eq_true_iff.mp used).2
        refine .stored key entry _ keyed ⟨rfl, used, fresh_of_entry made⟩ made ?_
        intro other value found
        have store : setCached client left key entry = prune (left.insert key entry) :=
          if_neg (not_not_intro enabled)
        dsimp only at found
        rw [store] at found
        have inserted := kept_prune _ other value found
        rw [Dict.get?_insert] at inserted
        by_cases same : key = other
        · rw [if_pos same] at inserted
          cases inserted
          exact .inl ⟨same.symm, rfl⟩
        · rw [if_neg same] at inserted
          exact .inr ⟨Ne.symm same, kept other value inserted⟩
  · rw [if_neg used]
    exact .quiet call.fresh left (fun writes => used writes.2.1) kept

theorem perform_performed (cache : Cache) (call : Call) :
    Performed client cache call (perform client cache call).1 (perform client cache call).2 := by
  rw [perform]
  cases keyed : client.cacheKey call.request with
  | none =>
      refine .quiet none cache (fun writes => ?_) (kept_refl cache)
      exact Bool.false_ne_true writes.2.2
  | some key =>
      dsimp only
      by_cases used : client.caches call = true
      · rw [if_pos used]
        have kept := @getCached_kept client cache key call.setting.now
        cases found : (getCached client cache key call.setting.now).1 with
        | none => exact finish_performed kept keyed
        | some cached =>
            obtain ⟨there, fresh⟩ := getCached_some found
            rw [Option.bind_some]
            cases read : client.answer call.request.asked cached with
            | none => exact finish_performed kept keyed
            | some answer => exact .hit key cached answer _ keyed used there fresh read kept
      · rw [if_neg used]
        exact finish_performed (kept_refl cache) keyed

end

/-! ### Where entries come from -/

section

variable (client : Client)

def Backs (log : List Record) (key : String) (entry : CachedResponse) : Prop :=
  ∃ older source between, log = older ++ source :: between ∧
    source.Writes client ∧ source.answer = source.call.fresh ∧
    client.cacheKey source.call.request = some key ∧ source.call.entry client = some entry ∧
    ∀ other, other ∈ between → other.Writes client →
      client.cacheKey other.call.request ≠ some key

def Backed (log : List Record) (cache : Cache) : Prop :=
  ∀ key entry, cache.get? key = some entry → Backs client log key entry

variable {client}

theorem Backs.append {log : List Record} {key : String} {entry : CachedResponse}
    (backs : Backs client log key entry) {record : Record}
    (apart : record.Writes client → client.cacheKey record.call.request ≠ some key) :
    Backs client (log ++ [record]) key entry := by
  obtain ⟨older, source, between, split, writes, fresh, keyed, made, last⟩ := backs
  refine ⟨older, source, between ++ [record], ?_, writes, fresh, keyed, made, ?_⟩
  · rw [split, append_assoc, cons_append]
  · intro other listed
    rcases mem_append.mp listed with earlier | final
    · exact last other earlier
    · rw [mem_singleton.mp final]
      exact apart

theorem Backed.step {log : List Record} {cache left : Cache} {call : Call} {record : Record}
    (backed : Backed client log cache) (performed : Performed client cache call record left) :
    Backed client (log ++ [record]) left := by
  intro key entry found
  cases performed with
  | hit _ _ _ _ _ _ _ _ _ kept =>
      exact (backed key entry (kept key entry found)).append
        fun writes => absurd writes.1.symm Bool.false_ne_true
  | quiet _ _ silent kept =>
      exact (backed key entry (kept key entry found)).append fun writes => absurd writes silent
  | stored own value _ keyed writes made kept =>
      rcases kept key entry found with ⟨same, rfl⟩ | ⟨apart, there⟩
      · rw [same]
        exact ⟨log, _, [], rfl, writes, rfl, keyed, made, fun other listed => by cases listed⟩
      · refine (backed key entry there).append fun _ clash => ?_
        rw [keyed] at clash
        exact apart (Option.some.inj clash).symm

/-! ### What the entry and the key keep -/

def Faithful : Call → Prop
  | .complete _ ek _ _ model _ outcome =>
      ek = true ∨ ∀ given, outcome = some given → model = some given.selected
  | .completeChat _ _ _ _ _ _ outcome => ∀ given, outcome = some given → Plain given.content

/-- `json.loads` reads back what `json.dumps` wrote of the response. -/
def Rereads (client : Client) : Call → Prop
  | .complete _ _ _ _ _ _ _ => True
  | .completeChat _ _ _ _ _ _ outcome => ∀ given, outcome = some given →
      ∀ json, given.content.dumps client.runtime.floatRepr = some json →
        client.runtime.read (client.runtime.write json) = some json

theorem answer_of_entry {call : Call} (faithful : Faithful call) (rereads : Rereads client call)
    {entry : CachedResponse} (made : call.entry client = some entry) :
    client.answer call.request.asked entry = call.fresh := by
  cases call with
  | complete setting ek prompt tier model kwargs outcome =>
      cases outcome with
      | none => cases made
      | some given =>
          have shape : entry = ⟨given.content, if ek then some given.selected else model,
              setting.done, given.tokens⟩ := (Option.some.inj made).symm
          have stored : (if ek then some given.selected else model) = some given.selected := by
            rcases faithful with path | override
            · rw [if_pos path]
            · rw [override given rfl, ite_self]
          rw [stored] at shape
          rw [shape]
          rfl
  | completeChat setting messages tools tier model kwargs outcome =>
      cases outcome with
      | none => cases made
      | some given =>
          have plain := faithful given rfl
          obtain ⟨json, written, reread⟩ := @written_of_serialisable client.runtime.floatRepr
            (fun _ => False) given.content (fun _ never => never.elim) plain.serialisable
          rw [asJson_of_plain plain] at reread
          have made : (if AuditLog.dumpable given.content then
              (given.content.dumps client.runtime.floatRepr).map fun json => CachedResponse.mk
                (client.runtime.write json) (some given.selected) setting.done given.tokens
              else none) = some entry := made
          by_cases dumps : AuditLog.dumpable given.content = true
          · rw [if_pos dumps, written] at made
            cases made
            change (client.runtime.read (client.runtime.write json)).map _ = _
            rw [rereads given rfl json written, Option.map_some, reread]
            rfl
          · rw [if_neg dumps] at made
            cases made

def Apart (client : Client) (calls : List Call) : Prop :=
  ∀ call, call ∈ calls → ∀ other, other ∈ calls → client.caches call = true →
    client.caches other = true → ∀ data, client.keyData call.request = some data →
      client.keyData other.request = some data → call.request = other.request

def HashInjective (client : Client) (calls : List Call) : Prop :=
  ∀ call, call ∈ calls → ∀ other, other ∈ calls → ∀ left, client.keyData call.request = some left →
    ∀ right, client.keyData other.request = some right →
      (client.runtime.sha256 left).toList.take 16 = (client.runtime.sha256 right).toList.take 16 →
        left = right

theorem request_eq_of_key {calls : List Call} (apart : Apart client calls)
    (injective : HashInjective client calls) {call other : Call} (listed : call ∈ calls)
    (there : other ∈ calls) (used : client.caches call = true)
    (otherUsed : client.caches other = true) {key : String}
    (keyed : client.cacheKey call.request = some key)
    (otherKeyed : client.cacheKey other.request = some key) : call.request = other.request := by
  obtain ⟨left, leftData, leftKey⟩ := Option.map_eq_some_iff.mp keyed
  obtain ⟨right, rightData, rightKey⟩ := Option.map_eq_some_iff.mp otherKeyed
  have same := injective call listed other there left leftData right rightData
    (String.ofList_injective (leftKey.trans rightKey.symm))
  exact apart call listed other there used otherUsed left leftData (same ▸ rightData)

/-- What a hit goes back to: the last call before it that wrote the same request. -/
def Original (client : Client) (log : List Record) (record : Record) : Prop :=
  ∃ older source between, log = older ++ source :: between ∧ source.Writes client ∧
    source.call.request = record.call.request ∧ source.answer = record.answer ∧
    record.call.setting.now - source.call.setting.done ≤ client.cacheTtlSeconds ∧
    ∀ other, other ∈ between → other.Writes client → other.call.request ≠ record.call.request

theorem entry_timestamp {call : Call} {entry : CachedResponse}
    (made : call.entry client = some entry) : entry.timestamp = call.setting.done := by
  cases call with
  | complete setting ek prompt tier model kwargs outcome =>
      obtain ⟨answer, _, shape⟩ := Option.map_eq_some_iff.mp made
      rw [← shape]
      rfl
  | completeChat setting messages tools tier model kwargs outcome =>
      obtain ⟨given, _, made⟩ := Option.bind_eq_some_iff.mp made
      by_cases dumps : AuditLog.dumpable given.content = true
      · rw [if_pos dumps] at made
        obtain ⟨json, _, shape⟩ := Option.map_eq_some_iff.mp made
        rw [← shape]
        rfl
      · rw [if_neg dumps] at made
        cases made

theorem original_of_performed {log : List Record} {cache left : Cache} {call : Call}
    {record : Record} (backed : Backed client log cache)
    (performed : Performed client cache call record left) (hit : record.hit = true)
    {calls : List Call} (past : ∀ other, other ∈ log → other.call ∈ calls) (listed : call ∈ calls)
    (faithful : ∀ call, call ∈ calls → Faithful call)
    (rereads : ∀ call, call ∈ calls → Rereads client call) (apart : Apart client calls)
    (injective : HashInjective client calls) : Original client log record := by
  cases performed with
  | quiet _ _ _ _ => cases hit
  | stored _ _ _ _ _ _ _ => cases hit
  | hit key cached answer _ keyed used found fresh read kept =>
      obtain ⟨older, source, between, split, writes, sourceFresh, sourceKeyed, made, last⟩ :=
        backed key cached found
      have member : source ∈ log := split ▸ mem_append_right older mem_cons_self
      have same : source.call.request = call.request :=
        request_eq_of_key apart injective (past source member) listed writes.2.1 used sourceKeyed
          keyed
      refine ⟨older, source, between, split, writes, same, ?_, ?_, ?_⟩
      · rw [sourceFresh, ← answer_of_entry (faithful _ (past source member))
          (rereads _ (past source member)) made, same]
        exact read
      · rwa [entry_timestamp made] at fresh
      · intro other there otherWrites clash
        exact last other there otherWrites (clash ▸ keyed)

theorem run_original {calls rest : List Call} {log : List Record} {cache : Cache}
    (backed : Backed client log cache) (past : ∀ other, other ∈ log → other.call ∈ calls)
    (listed : ∀ call, call ∈ rest → call ∈ calls)
    (faithful : ∀ call, call ∈ calls → Faithful call)
    (rereads : ∀ call, call ∈ calls → Rereads client call) (apart : Apart client calls)
    (injective : HashInjective client calls) {front behind : List Record} {record : Record}
    (split : (run client cache rest).1 = front ++ record :: behind) (hit : record.hit = true) :
    Original client (log ++ front) record := by
  induction rest generalizing log cache front with
  | nil => exact absurd split.symm (by simp [run])
  | cons call rest ih =>
      have performed := @perform_performed client cache call
      have own := listed call mem_cons_self
      have recorded := performed.call_eq
      rw [run] at split
      cases front with
      | nil =>
          obtain ⟨same, _⟩ := List.cons.inj split
          rw [append_nil, ← same]
          exact original_of_performed backed performed (same ▸ hit) past own faithful rereads
            apart injective
      | cons first front =>
          obtain ⟨same, tail⟩ := List.cons.inj split
          have grown := backed.step performed
          rw [same] at grown recorded
          have whole := ih grown (fun other there => by
            rcases mem_append.mp there with earlier | final
            · exact past other earlier
            · rw [mem_singleton.mp final, recorded]
              exact own) (fun other there => listed other (mem_cons_of_mem call there)) tail
          rwa [append_assoc, singleton_append] at whole

/-- A call answered from the cache returns what the last call that wrote the same request
returned. -/
theorem cached_answer_original (client : Client) (calls : List Call)
    (faithful : ∀ call, call ∈ calls → Faithful call)
    (rereads : ∀ call, call ∈ calls → Rereads client call) (apart : Apart client calls)
    (injective : HashInjective client calls) (front behind : List Record) (record : Record)
    (split : (run client Dict.empty calls).1 = front ++ record :: behind)
    (hit : record.hit = true) : Original client front record := by
  have empty : Backed client [] Dict.empty := fun key entry found => by cases found
  exact run_original empty (fun other listed => absurd listed not_mem_nil)
    (fun call listed => listed) faithful rereads apart injective split hit

/-! ### The same prompt twice -/

/-- A client whose prompts are all "hi" at the second tier, without more arguments. -/
def greeter (items digest : String) : Client where
  runtime := {
    repr := fun _ => items
    sha256 := fun _ => digest
    floatRepr := fun _ => ""
    write := fun _ => ""
    read := fun _ => none }

def greeting (ek : Bool) (model : Option String) (now : Rat) : Call :=
  .complete { now := now, done := now } ek "hi" .tier2 model []
    (some ⟨"hello", "local:phi4", 7⟩)

/-- The client for prompts without an override, and for those of `local:phi4`. -/
def plainGreeter : Client := greeter "[('model', None)]" "ef8578ecac5d0588"

def boundGreeter : Client := greeter "[('model', 'local:phi4')]" "39a1df2db0b3ae69"

theorem of_map_pair {α β : Type} {read : α → β} {items : List α} {left right : β}
    (mapped : items.map read = [left, right]) :
    ∃ first second, items = [first, second] ∧ read first = left ∧ read second = right := by
  match items, mapped with
  | [first, second], mapped =>
      obtain ⟨head, tail⟩ := List.cons.inj mapped
      exact ⟨first, second, rfl, head, (List.cons.inj tail).1⟩

theorem run_boundGreeter :
    ((run boundGreeter Dict.empty [greeting false (some "local:phi4") 0,
      greeting false (some "local:phi4") 1]).1.map Record.hit) = [false, true] := by
  decide +kernel

theorem cached_answer_original_bound : ∃ first second,
    (run boundGreeter Dict.empty [greeting false (some "local:phi4") 0,
      greeting false (some "local:phi4") 1]).1 = [first, second] ∧ second.hit = true ∧
      Original boundGreeter [first] second := by
  obtain ⟨first, second, split, _, hit⟩ := of_map_pair run_boundGreeter
  have each : ∀ call, call ∈ [greeting false (some "local:phi4") 0,
      greeting false (some "local:phi4") 1] → ∃ now, call = greeting false (some "local:phi4") now := by
    intro call listed
    rcases List.mem_cons.mp listed with same | later
    · exact ⟨0, same⟩
    · exact ⟨1, mem_singleton.mp later⟩
  refine ⟨first, second, split, hit, cached_answer_original boundGreeter _ ?_ ?_ ?_ ?_ [first] []
    second split hit⟩
  · intro call listed
    obtain ⟨now, rfl⟩ := each call listed
    refine .inr fun given same => ?_
    cases same
    rfl
  · intro call listed
    obtain ⟨now, rfl⟩ := each call listed
    trivial
  · intro call listed other there _ _ _ _ _
    obtain ⟨now, rfl⟩ := each call listed
    obtain ⟨later, rfl⟩ := each other there
    rfl
  · intro call listed other there left leftData right rightData _
    obtain ⟨now, rfl⟩ := each call listed
    obtain ⟨later, rfl⟩ := each other there
    exact Option.some.inj (leftData.symm.trans rightData)

theorem run_plainGreeter :
    ((run plainGreeter Dict.empty [greeting false none 0, greeting false none 1]).1.map fun record =>
      (record.answer.map Answer.model, record.hit)) =
      [(some (some "local:phi4"), false), (some none, true)] := by
  decide +kernel

/-- The second answer names no model. -/
theorem second_answer_differs : ∃ first second,
    (run plainGreeter Dict.empty [greeting false none 0, greeting false none 1]).1 =
      [first, second] ∧ second.hit = true ∧ ¬ Original plainGreeter [first] second := by
  obtain ⟨first, second, split, firstModel, secondModel⟩ := of_map_pair run_plainGreeter
  refine ⟨first, second, split, congrArg Prod.snd secondModel, ?_⟩
  intro ⟨older, source, between, log, _, _, same, _⟩
  have only : source = first := mem_singleton.mp (log ▸ mem_append_right older mem_cons_self)
  rw [only] at same
  have clash := (congrArg Prod.fst firstModel).symm.trans
    ((congrArg (Option.map Answer.model) same).trans (congrArg Prod.fst secondModel))
  cases clash

end

end ResponseCache

end AgenticRuntime
