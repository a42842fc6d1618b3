/-
The three replay stores keep the same events.

The abstract store remembers, for each run, every event since its last clear and
answers with the latest ones. A backend refines it when each call does to the
listed events what the abstract store does; runs of calls follow by induction.
-/

import AgenticRuntime.Server.ReplayBackends
import Mathlib.Algebra.Order.Group.Int

namespace AgenticRuntime

open Python Function SqliteReplayStore RedisList
open List hiding le_antisymm le_of_lt le_refl le_total le_trans lt_irrefl lt_of_le_of_lt not_le

section

variable {Item : Type} {maxlen : Nat} {items : List Item} {item : Item}

theorem pushBounded_eq_rtake : pushBounded maxlen items item = (items ++ [item]).rtake maxlen := by
  rw [pushBounded, rtake, length_append, length_singleton]

theorem rtake_push : (items.rtake maxlen ++ [item]).rtake maxlen = (items ++ [item]).rtake maxlen := by
  rcases maxlen with _ | room
  · rw [rtake_zero, rtake_zero]
  · have shorter : (items.rtake (room + 1)).rtake room = items.rtake room := by
      rw [rtake_eq_reverse_take_reverse, rtake_eq_reverse_take_reverse,
        rtake_eq_reverse_take_reverse, reverse_reverse, take_take]
      rw [Nat.min_eq_left (Nat.le_succ room)]
    rw [rtake_concat_succ, rtake_concat_succ, shorter]

end

/-! ### The abstract store -/

namespace ReplayCall

variable {Time : Type}

def extend (runId : String) (events : List PyValue) : ReplayCall Time → List PyValue
  | .append own event _ _ => if own = runId then events ++ [event.value] else events
  | .getEvents _ _ => events
  | .clear own _ => if own = runId then [] else events

def keep (maxEvents : Nat) (runId : String) (events : List PyValue) :
    ReplayCall Time → List PyValue
  | .append own event _ _ =>
      if own = runId then (events ++ [event.value]).rtake maxEvents else events
  | .getEvents _ _ => events
  | .clear own _ => if own = runId then [] else events

end ReplayCall

def appended {Time : Type} (calls : List (ReplayCall Time)) (runId : String) : List PyValue :=
  calls.foldl (ReplayCall.extend runId) []

/-- The last `maxEvents` of them. -/
def retained {Time : Type} (maxEvents : Nat) (calls : List (ReplayCall Time)) (runId : String) :
    List PyValue :=
  (appended calls runId).rtake maxEvents

/-- What the `get_events` calls must answer after the calls in `past`. -/
def expectedAnswers {Time : Type} (maxEvents : Nat) :
    List (ReplayCall Time) → List (ReplayCall Time) → List (List PyValue)
  | _, [] => []
  | past, call :: rest =>
      match call with
      | .getEvents runId _ =>
          retained maxEvents past runId :: expectedAnswers maxEvents (past ++ [call]) rest
      | _ => expectedAnswers maxEvents (past ++ [call]) rest

section

variable {Time : Type} {maxEvents : Nat} {past : List (ReplayCall Time)} {call : ReplayCall Time}
  {runId : String}

theorem appended_snoc : appended (past ++ [call]) runId = call.extend runId (appended past runId) := by
  rw [appended, foldl_append]
  rfl

theorem retained_snoc :
    retained maxEvents (past ++ [call]) runId =
      call.keep maxEvents runId (retained maxEvents past runId) := by
  rw [retained, retained, appended_snoc]
  cases call with
  | append own event created now =>
      simp only [ReplayCall.extend, ReplayCall.keep]
      split
      · exact rtake_push.symm
      · rfl
  | getEvents own now => rfl
  | clear own now =>
      simp only [ReplayCall.extend, ReplayCall.keep]
      split
      · exact rtake_nil maxEvents
      · rfl

theorem keep_other {events : List PyValue} (other : call.runId ≠ runId) :
    call.keep maxEvents runId events = events := by
  cases call with
  | append own event created now | clear own now =>
      have differs : own ≠ runId := other
      simp only [ReplayCall.keep, if_neg differs]
  | getEvents own now => rfl

end

/-! ### Refinement -/

/-- Each call does to the listed events of every run what the abstract store does. -/
structure ReplayBackend.Refines {Time Store : Type} (backend : ReplayBackend Time Store)
    (maxEvents : Nat) (inv : Store → Prop) : Prop where
  keeps : ∀ store call, inv store → backend.noExpiry store call → inv (backend.call store call).1
  lists : ∀ store call runId, inv store → backend.noExpiry store call →
    backend.listed (backend.call store call).1 runId =
      call.keep maxEvents runId (backend.listed store runId)
  answers : ∀ store runId now, inv store → backend.noExpiry store (.getEvents runId now) →
    (backend.getEvents store runId now).2 = backend.listed store runId

namespace ReplayBackend.Refines

variable {Time Store : Type} {backend : ReplayBackend Time Store} {maxEvents : Nat}
  {inv : Store → Prop} {store : Store} {past calls : List (ReplayCall Time)}

theorem listed_after (refines : backend.Refines maxEvents inv) (holds : inv store)
    (listing : ∀ runId, backend.listed store runId = retained maxEvents past runId)
    (unexpired : backend.Unexpired store calls) (runId : String) :
    backend.listed (backend.after store calls) runId =
      retained maxEvents (past ++ calls) runId := by
  induction calls generalizing store past with
  | nil =>
      rw [append_nil]
      exact listing runId
  | cons call rest ih =>
      have regrouped : past ++ call :: rest = past ++ [call] ++ rest := by
        rw [append_assoc, singleton_append]
      rw [regrouped]
      apply ih (refines.keeps store call holds unexpired.1) _ unexpired.2
      intro other
      rw [refines.lists store call other holds unexpired.1, listing, retained_snoc]

theorem answers_eq (refines : backend.Refines maxEvents inv) (holds : inv store)
    (listing : ∀ runId, backend.listed store runId = retained maxEvents past runId)
    (unexpired : backend.Unexpired store calls) :
    backend.answers store calls = expectedAnswers maxEvents past calls := by
  induction calls generalizing store past with
  | nil => rfl
  | cons call rest ih =>
      have later : ∀ runId, backend.listed (backend.call store call).1 runId =
          retained maxEvents (past ++ [call]) runId := by
        intro runId
        rw [refines.lists store call runId holds unexpired.1, listing, retained_snoc]
      have restAnswers := ih (refines.keeps store call holds unexpired.1) later unexpired.2
      rw [ReplayBackend.answers, restAnswers]
      cases call with
      | append runId event created now => rfl
      | getEvents runId now =>
          have answer := refines.answers store runId now holds unexpired.1
          rw [listing] at answer
          simp only [ReplayBackend.call, answer, Option.toList_some, expectedAnswers,
            singleton_append]
      | clear runId now => rfl

end ReplayBackend.Refines

/-! ### InMemoryReplayStore -/

theorem InMemoryReplayStore.refines {Time : Type} (maxEvents : Nat) :
    (backend maxEvents : ReplayBackend Time ReplayBuffers).Refines maxEvents fun _ => True where
  keeps _ _ _ _ := trivial
  lists buffers call runId _ _ := by
    cases call with
    | append own event created now =>
        simp only [backend, ReplayBackend.call, append, ReplayCall.keep]
        by_cases same : own = runId
        · subst own
          rw [update_self, Option.getD_some, pushBounded_eq_rtake, if_pos rfl]
        · rw [update_of_ne (Ne.symm same), if_neg same]
    | getEvents own now => rfl
    | clear own now =>
        simp only [backend, ReplayBackend.call, ReplayCall.keep]
        by_cases same : own = runId
        · subst own
          rw [update_self, Option.getD_none, if_pos rfl]
        · rw [update_of_ne (Ne.symm same), if_neg same]
  answers _ _ _ _ _ := rfl

theorem InMemoryReplayStore.unexpired {Time : Type} (maxEvents : Nat) (buffers : ReplayBuffers)
    (calls : List (ReplayCall Time)) : (backend maxEvents).Unexpired buffers calls := by
  induction calls generalizing buffers with
  | nil => trivial
  | cons call rest ih => exact ⟨trivial, ih _⟩

/-! ### SqliteReplayStore -/

namespace SqliteReplayStore

variable {Time : Type} {rows : List (ReplayRow Time)} {maxEvents : Nat} {runId : String}

/-- The rows of each run stand in the table in the order of their sequence numbers. -/
def Ascending (rows : List (ReplayRow Time)) : Prop :=
  ∀ runId, (ofRun rows runId).Pairwise fun first second => first.seq < second.seq

theorem lt_nextSeq {row : ReplayRow Time} (member : row ∈ ofRun rows runId) :
    row.seq < nextSeq rows runId := by
  unfold nextSeq
  have listed : row.seq ∈ (ofRun rows runId).map ReplayRow.seq := mem_map_of_mem member
  cases top : ((ofRun rows runId).map ReplayRow.seq).max? with
  | none =>
      rw [List.max?_eq_none_iff] at top
      rw [top] at listed
      cases listed
  | some greatest =>
      have below : row.seq ≤ greatest := (List.max?_eq_some_iff.mp top).2 row.seq listed
      rw [Option.getD_some]
      omega

theorem insertRow_nextSeq (event : Json) (created : Time) :
    insertRow rows ⟨runId, nextSeq rows runId, event, created⟩ =
      some (rows ++ [⟨runId, nextSeq rows runId, event, created⟩]) := by
  unfold insertRow
  apply if_neg
  intro taken
  obtain ⟨other, member, clash⟩ := any_eq_true.mp taken
  have parts : other.runId = runId ∧ other.seq = nextSeq rows runId := of_decide_eq_true clash
  have own : other ∈ ofRun rows runId := mem_filter.mpr ⟨member, decide_eq_true parts.1⟩
  have below := lt_nextSeq own
  omega

theorem ofRun_append (other : String) (more : List (ReplayRow Time)) :
    ofRun (rows ++ more) other = ofRun rows other ++ ofRun more other := filter_append ..

theorem ofRun_single (row : ReplayRow Time) (other : String) :
    ofRun [row] other = if row.runId = other then [row] else [] := by
  simp only [ofRun, filter_cons, filter_nil, decide_eq_true_eq]

theorem Ascending.insert (ascending : Ascending rows) (event : Json) (created : Time) :
    Ascending (rows ++ [⟨runId, nextSeq rows runId, event, created⟩]) := by
  intro other
  rw [ofRun_append, ofRun_single]
  by_cases same : runId = other
  · subst other
    rw [if_pos rfl, pairwise_append]
    refine ⟨ascending runId, pairwise_singleton _ _, ?_⟩
    intro row member new isNew
    rw [mem_singleton.mp isNew]
    exact lt_nextSeq member
  · rw [if_neg same, append_nil]
    exact ascending other

theorem Ascending.filter (ascending : Ascending rows) (chosen : ReplayRow Time → Bool) :
    Ascending (rows.filter chosen) := by
  intro other
  have sub : (ofRun (rows.filter chosen) other).Sublist (ofRun rows other) :=
    filter_sublist.filter _
  exact (ascending other).sublist sub

theorem Ascending.eq_of_seq (ascending : Ascending rows) {first second : ReplayRow Time}
    (firstIn : first ∈ ofRun rows runId) (secondIn : second ∈ ofRun rows runId)
    (same : first.seq = second.seq) : first = second := by
  have distinct : ((ofRun rows runId).map ReplayRow.seq).Nodup :=
    pairwise_map.mpr ((ascending runId).imp fun below => ne_of_lt below)
  exact inj_on_of_nodup_map distinct firstIn secondIn same

theorem insertionSort_newest (ascending : Ascending rows) :
    (ofRun rows runId).insertionSort (fun first second => second.seq ≤ first.seq) =
      (ofRun rows runId).reverse := by
  let newer : ReplayRow Time → ReplayRow Time → Prop := fun first second => second.seq ≤ first.seq
  have : Std.Total newer := ⟨fun first second => le_total second.seq first.seq⟩
  have : IsTrans (ReplayRow Time) newer := ⟨fun _ _ _ early late => le_trans late early⟩
  have reversed : (ofRun rows runId).reverse.Pairwise newer :=
    pairwise_reverse.mpr ((ascending runId).imp fun below => le_of_lt below)
  have sorted : ((ofRun rows runId).insertionSort newer).Pairwise newer :=
    pairwise_insertionSort newer _
  apply List.Perm.eq_of_pairwise _ sorted reversed
  · exact (perm_insertionSort newer _).trans (reverse_perm _).symm
  · intro first second firstIn secondIn above below
    apply ascending.eq_of_seq ((mem_insertionSort newer).mp firstIn)
      (mem_reverse.mp secondIn)
    exact le_antisymm below above

/-- The bound is the sequence number `maxEvents` places from the end. -/
theorem capBound_eq (ascending : Ascending rows) (positive : 1 ≤ maxEvents) :
    capBound maxEvents rows runId =
      (((ofRun rows runId).reverse.drop (maxEvents - 1)).head?).map ReplayRow.seq := by
  have offset : ((maxEvents : Int) - 1).toNat = maxEvents - 1 := by omega
  rw [capBound, insertionSort_newest ascending, offset]

theorem selectEvents_eq (ascending : Ascending rows) :
    selectEvents rows runId = (ofRun rows runId).map fun row => row.event.loads := by
  have sorted : (ofRun rows runId).Pairwise fun first second => first.seq ≤ second.seq :=
    (ascending runId).imp fun below => le_of_lt below
  rw [selectEvents, sorted.insertionSort_eq]

/-- The rows that `enforceCap` keeps of a run. -/
def notBelow (bound : Option Int) (row : ReplayRow Time) : Bool :=
  !match bound with
    | none => false
    | some seq => row.seq < seq

theorem filter_full {older rest : List (ReplayRow Time)} {bound : ReplayRow Time}
    (ascending : (older ++ bound :: rest).Pairwise fun first second => first.seq < second.seq) :
    (older ++ bound :: rest).filter (notBelow (some bound.seq)) = bound :: rest := by
  obtain ⟨_, latest, apart⟩ := pairwise_append.mp ascending
  have evicted : older.filter (notBelow (some bound.seq)) = [] := by
    apply filter_eq_nil_iff.mpr
    intro row member kept
    have below := apart row member bound mem_cons_self
    simp only [notBelow, below, decide_true, Bool.not_true] at kept
    cases kept
  have kept : (bound :: rest).filter (notBelow (some bound.seq)) = bound :: rest := by
    apply filter_eq_self.mpr
    intro row member
    have above : ¬ row.seq < bound.seq := by
      rcases List.mem_cons.mp member with here | later
      · rw [here]
        exact lt_irrefl _
      · exact not_lt_of_gt ((pairwise_cons.mp latest).1 row later)
    simp only [notBelow, above, decide_false, Bool.not_false]
  rw [filter_append, evicted, kept, nil_append]

/-- Among ascending rows, those not below the bound are the last `maxEvents`. -/
theorem filter_notBelow {own : List (ReplayRow Time)} (positive : 1 ≤ maxEvents)
    (ascending : own.Pairwise fun first second => first.seq < second.seq) :
    own.filter (notBelow (((own.reverse.drop (maxEvents - 1)).head?).map ReplayRow.seq)) =
      own.rtake maxEvents := by
  by_cases few : own.length < maxEvents
  · have unbounded : own.reverse.drop (maxEvents - 1) = [] := by
      apply drop_eq_nil_of_le
      rw [length_reverse]
      omega
    have nothing : own.length - maxEvents = 0 := by omega
    rw [unbounded, rtake, nothing, drop_zero]
    exact filter_eq_self.mpr fun row _ => rfl
  · obtain ⟨older, latest, split, full⟩ :
        ∃ older latest, own = older ++ latest ∧ latest.length = maxEvents := by
      refine ⟨own.take (own.length - maxEvents), own.drop (own.length - maxEvents),
        (take_append_drop _ _).symm, ?_⟩
      rw [length_drop]
      omega
    subst own
    cases latest with
    | nil =>
        rw [length_nil] at full
        omega
    | cons bound rest =>
        have tail : maxEvents - 1 = rest.reverse.length := by
          rw [length_cons] at full
          rw [length_reverse]
          omega
        have reversed : (older ++ bound :: rest).reverse =
            rest.reverse ++ bound :: older.reverse := by simp
        have cut : (older ++ bound :: rest).length - maxEvents = older.length := by
          rw [length_append, full, Nat.add_sub_cancel]
        rw [reversed, tail, drop_left, List.head?_cons, Option.map_some, filter_full ascending,
          rtake, ← full]
        rw [← full] at cut
        rw [cut, drop_left]

/-- The cap leaves the run its last `maxEvents` rows and other runs all of theirs. -/
theorem ofRun_enforceCap (ascending : Ascending rows) (positive : 1 ≤ maxEvents) (other : String) :
    ofRun (enforceCap maxEvents rows runId) other =
      if runId = other then (ofRun rows runId).rtake maxEvents else ofRun rows other := by
  have shape : ofRun (enforceCap maxEvents rows runId) other =
      (ofRun rows other).filter fun row =>
        !(row.runId = runId && !notBelow (capBound maxEvents rows runId) row) := by
    rw [enforceCap, ofRun, ofRun, filter_filter, filter_filter]
    apply filter_congr
    intro row _
    simp only [notBelow, Bool.not_not]
    exact Bool.and_comm _ _
  rw [shape]
  by_cases same : runId = other
  · subst other
    rw [if_pos rfl, ← filter_notBelow positive (ascending runId), ← capBound_eq ascending positive]
    apply filter_congr
    intro row member
    have own : decide (row.runId = runId) = true := (mem_filter.mp member).2
    rw [own, Bool.true_and, Bool.not_not]
  · rw [if_neg same]
    apply filter_eq_self.mpr
    intro row member
    have own : row.runId = other := of_decide_eq_true (mem_filter.mp member).2
    have foreign : decide (row.runId = runId) = false :=
      decide_eq_false fun equal => same (equal.symm.trans own)
    rw [foreign, Bool.false_and, Bool.not_false]

theorem ofRun_clear (other : String) :
    ofRun (rows.filter fun row => !(row.runId = runId)) other =
      if runId = other then [] else ofRun rows other := by
  rw [ofRun, filter_filter]
  by_cases same : runId = other
  · subst other
    rw [if_pos rfl]
    apply filter_eq_nil_iff.mpr
    intro row _
    cases decide (row.runId = runId) <;> decide
  · rw [if_neg same, ofRun]
    apply filter_congr
    intro row _
    by_cases own : row.runId = other
    · have foreign : row.runId ≠ runId := fun equal => same (equal.symm.trans own)
      simp [own, Ne.symm same]
    · simp [own]

section

variable [LinearOrder Time] [AddCommGroup Time] {retentionSeconds : Time}
  {floatRepr : PyFloat → String}

theorem purgeExpired_eq {now : Time}
    (fresh : ∀ row ∈ rows, expired retentionSeconds now row = false) :
    purgeExpired retentionSeconds now rows = rows := by
  apply filter_eq_self.mpr
  intro row member
  rw [fresh row member, Bool.not_false]

/-- What `append` leaves when nothing expires. -/
theorem append_eq (maxEvents : Nat) (floatRepr : PyFloat → String) (runId : String)
    (event : JsonEvent) {created now : Time}
    (fresh : ∀ row ∈ rows, expired retentionSeconds now row = false)
    (recent : 0 < retentionSeconds → now - retentionSeconds ≤ created) :
    ∃ serialized, serialized.loads = event.value ∧
      append maxEvents retentionSeconds floatRepr rows runId event created now =
        enforceCap maxEvents (rows ++ [⟨runId, nextSeq rows runId, serialized, created⟩])
          runId := by
  have writes : Written floatRepr event.value :=
    written_of_serialisable (fun value other => written_of_opaque other)
      event.plain.serialisable
  obtain ⟨serialized, dumped, loaded⟩ := writes
  refine ⟨serialized, loaded.trans (asJson_of_plain event.plain), ?_⟩
  rw [append, dumped]
  simp only [insertRow_nextSeq]
  apply purgeExpired_eq
  intro row member
  rcases mem_append.mp (mem_filter.mp member).1 with old | new
  · exact fresh row old
  · rw [mem_singleton.mp new]
    apply decide_eq_false
    intro gone
    exact absurd gone.2 (not_lt_of_ge (recent gone.1))

theorem append_ascending (maxEvents : Nat) (floatRepr : PyFloat → String) (runId : String)
    (event : JsonEvent) (ascending : Ascending rows) {created now : Time}
    (fresh : ∀ row ∈ rows, expired retentionSeconds now row = false)
    (recent : 0 < retentionSeconds → now - retentionSeconds ≤ created) :
    Ascending (append maxEvents retentionSeconds floatRepr rows runId event created now) := by
  obtain ⟨serialized, _, appended⟩ := append_eq maxEvents floatRepr runId event fresh recent
  rw [appended]
  exact (ascending.insert serialized created).filter _

theorem selectEvents_append (ascending : Ascending rows) (positive : 1 ≤ maxEvents)
    {event : JsonEvent} {created now : Time}
    (fresh : ∀ row ∈ rows, expired retentionSeconds now row = false)
    (recent : 0 < retentionSeconds → now - retentionSeconds ≤ created) (other : String) :
    selectEvents (append maxEvents retentionSeconds floatRepr rows runId event created now) other =
      if runId = other then (selectEvents rows other ++ [event.value]).rtake maxEvents
      else selectEvents rows other := by
  have stays := append_ascending maxEvents floatRepr runId event ascending fresh recent
  obtain ⟨serialized, loaded, appended⟩ := append_eq maxEvents floatRepr runId event fresh recent
  rw [selectEvents_eq stays, appended,
    ofRun_enforceCap (ascending.insert serialized created) positive, selectEvents_eq ascending,
    ofRun_append, ofRun_append, ofRun_single, ofRun_single]
  by_cases same : runId = other
  · subst other
    rw [if_pos rfl, if_pos rfl, if_pos rfl, rtake, rtake, map_drop, map_append,
      length_append, length_append, length_map, map_singleton, loaded]
    rfl
  · rw [if_neg same, if_neg same, if_neg same, append_nil]

theorem refines (positive : 1 ≤ maxEvents) :
    (backend maxEvents retentionSeconds floatRepr).Refines maxEvents Ascending where
  keeps rows call ascending unexpired := by
    cases call with
    | append own event created now =>
        exact append_ascending maxEvents floatRepr own event ascending unexpired.1 unexpired.2
    | getEvents own now | clear own now => exact ascending.filter _
  lists rows call runId ascending unexpired := by
    cases call with
    | append own event created now =>
        exact selectEvents_append ascending positive unexpired.1 unexpired.2 runId
    | getEvents own now =>
        change selectEvents (purgeExpired retentionSeconds now rows) runId =
          selectEvents rows runId
        rw [purgeExpired_eq unexpired]
    | clear own now =>
        change selectEvents (rows.filter fun row => !(row.runId = own)) runId =
          if own = runId then [] else selectEvents rows runId
        rw [selectEvents_eq (ascending.filter _), ofRun_clear, selectEvents_eq ascending]
        split
        · rfl
        · rfl
  answers rows runId now ascending unexpired := by
    change selectEvents (purgeExpired retentionSeconds now rows) runId = selectEvents rows runId
    rw [purgeExpired_eq unexpired]

end

end SqliteReplayStore

/-! ### RedisReplayStore -/

namespace RedisReplayStore

variable {Time : Type} {lists : RedisLists Time} {maxEvents : Nat} {runId : String}

theorem makeKey_injective {other : String} (same : makeKey runId = makeKey other) :
    runId = other := by
  have characters := congrArg String.toList same
  rw [makeKey, makeKey, String.toList_append, String.toList_append] at characters
  exact String.toList_injective (append_cancel_left characters)

/-- `LTRIM key -maxEvents -1` -/
theorem range_latest {Item : Type} (positive : 1 ≤ maxEvents) (items : List Item) :
    range (-(maxEvents : Int)) (-1) items = items.rtake maxEvents := by
  have first : (index items.length (-(maxEvents : Int))).toNat = items.length - maxEvents := by
    rw [index, if_pos (by omega)]
    omega
  have last : ((items.length : Int) + -1 + 1).toNat = items.length := by omega
  simp only [range, first]
  rw [if_pos (by omega), last, take_length, rtake]

/-- `LRANGE key 0 -1` -/
theorem range_all {Item : Type} (items : List Item) : range 0 (-1) items = items := by
  have first : (index items.length 0).toNat = 0 := by simp [index]
  have last : ((items.length : Int) + -1 + 1).toNat = items.length := by omega
  simp only [range, first, drop_zero]
  rw [if_pos (by omega), last, take_length]

theorem readEvents_eq : readEvents lists runId =
    (((lists (makeKey runId)).map items).getD []).map Json.loads := by
  rw [readEvents, lrange]
  cases lists (makeKey runId) with
  | none => rfl
  | some list =>
      rw [Option.map_some, Option.getD_some]
      dsimp only
      rw [range_all]

theorem store_self (key : String) (list : RedisList Time) (kept : list.items ≠ []) :
    store lists key list key = some list := by
  have nonempty : list.items.isEmpty = false := isEmpty_eq_false_iff.mpr kept
  rw [store, update_self, nonempty]
  rfl

theorem store_other {key other : String} (differs : other ≠ key) (list : RedisList Time) :
    store lists key list other = lists other :=
  update_of_ne differs _ _

/-- What is stored under the key after `RPUSH`. -/
theorem rpush_self (key : String) (item : Json) :
    ∃ deadline, rpush lists key item key =
      some ⟨((lists key).map items).getD [] ++ [item], deadline⟩ := by
  unfold rpush
  cases lists key with
  | none => exact ⟨none, store_self key _ (cons_ne_nil _ _)⟩
  | some list =>
      refine ⟨list.deadline, store_self key _ ?_⟩
      exact append_ne_nil_of_right_ne_nil _ (cons_ne_nil _ _)

theorem rpush_other {key other : String} (differs : other ≠ key) (item : Json) :
    rpush lists key item other = lists other := by
  unfold rpush
  cases lists key with
  | none | some list => exact store_other differs _

theorem ltrim_other {key other : String} (differs : other ≠ key) (start stop : Int) :
    ltrim lists key start stop other = lists other := by
  unfold ltrim
  cases lists key with
  | none => rfl
  | some list => exact store_other differs _

theorem ltrim_self {key : String} {list : RedisList Time} (held : lists key = some list)
    (positive : 1 ≤ maxEvents) (kept : list.items.rtake maxEvents ≠ []) :
    ltrim lists key (-(maxEvents : Int)) (-1) key =
      some { list with items := list.items.rtake maxEvents } := by
  have nonempty : ({ list with items := list.items.rtake maxEvents } :
      RedisList Time).items ≠ [] := kept
  rw [ltrim, held]
  dsimp only
  rw [range_latest positive, store_self key _ nonempty]

theorem readEvents_del (other : String) :
    readEvents (del lists (makeKey runId)) other =
      if runId = other then [] else readEvents lists other := by
  rw [readEvents_eq, readEvents_eq, del]
  by_cases same : runId = other
  · subst other
    rw [update_self, if_pos rfl]
    rfl
  · have apart : makeKey other ≠ makeKey runId := fun equal => same (makeKey_injective equal).symm
    rw [update_of_ne apart, if_neg same]

section

variable [LinearOrder Time] {now : Time}

theorem live_eq (fresh : ∀ key list, lists key = some list → expired now list = false) :
    live lists now = lists := by
  funext key
  rw [live]
  cases held : lists key with
  | none => rfl
  | some list =>
      have stays : (!expired now list) = true := by rw [fresh key list held, Bool.not_false]
      exact Option.filter_some_pos stays

theorem expired_earlier {horizon : Time} {list : RedisList Time} (earlier : now ≤ horizon)
    (stays : expired horizon list = false) : expired now list = false := by
  obtain ⟨items, deadline⟩ := list
  cases deadline with
  | none => rfl
  | some deadline =>
      have past : horizon < deadline := not_le.mp (of_decide_eq_false stays)
      exact decide_eq_false (not_le_of_gt (lt_of_le_of_lt earlier past))

variable [AddCommGroup Time] {ttlSeconds : Time} {floatRepr : PyFloat → String}

theorem expire_other {key other : String} (differs : other ≠ key) (now : Time) :
    expire lists key ttlSeconds now other = lists other := by
  unfold expire
  cases lists key with
  | none => rfl
  | some list =>
      dsimp only
      split
      · exact store_other differs _
      · exact update_of_ne differs _ _

theorem expire_self {key : String} {list : RedisList Time} (held : lists key = some list)
    (kept : list.items ≠ []) (lasting : 0 < ttlSeconds) (now : Time) :
    expire lists key ttlSeconds now key =
      some { list with deadline := some (now + ttlSeconds) } := by
  have nonempty : ({ list with deadline := some (now + ttlSeconds) } :
      RedisList Time).items ≠ [] := kept
  rw [expire, held]
  dsimp only
  rw [if_pos lasting, store_self key _ nonempty]

variable (event : JsonEvent)

theorem append_frame {key : String} (apart : key ≠ makeKey runId)
    (fresh : ∀ key list, lists key = some list → expired now list = false) :
    append maxEvents ttlSeconds floatRepr lists runId event now key = lists key := by
  unfold append
  cases event.value.dumps floatRepr with
  | none => rfl
  | some serialized =>
      dsimp only
      rw [expire_other apart, ltrim_other apart, rpush_other apart, live_eq fresh]

theorem append_self (positive : 1 ≤ maxEvents) (lasting : 0 < ttlSeconds)
    (fresh : ∀ key list, lists key = some list → expired now list = false) :
    ∃ serialized, serialized.loads = event.value ∧
      append maxEvents ttlSeconds floatRepr lists runId event now (makeKey runId) =
        some ⟨(((lists (makeKey runId)).map items).getD [] ++ [serialized]).rtake
          maxEvents, some (now + ttlSeconds)⟩ := by
  have writes : Written floatRepr event.value :=
    written_of_serialisable (fun value other => written_of_opaque other)
      event.plain.serialisable
  obtain ⟨serialized, dumped, loaded⟩ := writes
  have pushing : ∃ deadline, rpush lists (makeKey runId) serialized (makeKey runId) = some
      ⟨((lists (makeKey runId)).map items).getD [] ++ [serialized], deadline⟩ :=
    rpush_self (makeKey runId) serialized
  obtain ⟨deadline, pushed⟩ := pushing
  have kept : (((lists (makeKey runId)).map items).getD [] ++ [serialized]).rtake
      maxEvents ≠ [] := by
    obtain ⟨room, room_eq⟩ := Nat.exists_eq_add_of_le' positive
    rw [room_eq, rtake_concat_succ]
    exact append_ne_nil_of_right_ne_nil _ (cons_ne_nil _ _)
  have trimmed := ltrim_self pushed positive kept
  refine ⟨serialized, loaded.trans (asJson_of_plain event.plain), ?_⟩
  rw [append, dumped]
  dsimp only
  rw [live_eq fresh, expire_self trimmed kept lasting]

theorem readEvents_append (positive : 1 ≤ maxEvents) (lasting : 0 < ttlSeconds)
    (fresh : ∀ key list, lists key = some list → expired now list = false) (other : String) :
    readEvents (append maxEvents ttlSeconds floatRepr lists runId event now) other =
      if runId = other then (readEvents lists other ++ [event.value]).rtake maxEvents
      else readEvents lists other := by
  rw [readEvents_eq, readEvents_eq]
  by_cases same : runId = other
  · subst other
    have appending : ∃ serialized, serialized.loads = event.value ∧
        append maxEvents ttlSeconds floatRepr lists runId event now (makeKey runId) =
          some ⟨(((lists (makeKey runId)).map items).getD [] ++ [serialized]).rtake
            maxEvents, some (now + ttlSeconds)⟩ := append_self event positive lasting fresh
    obtain ⟨serialized, loaded, appended⟩ := appending
    rw [if_pos rfl, appended, Option.map_some, Option.getD_some, rtake, rtake, map_drop,
      map_append, map_singleton, loaded, length_append,
      length_append, length_map]
    rfl
  · have apart : makeKey other ≠ makeKey runId := fun equal => same (makeKey_injective equal).symm
    rw [if_neg same, append_frame event apart fresh]

theorem refines (positive : 1 ≤ maxEvents) :
    (backend maxEvents ttlSeconds floatRepr).Refines maxEvents fun _ => True where
  keeps _ _ _ _ := trivial
  lists lists call runId _ unexpired := by
    cases call with
    | append own event created now =>
        exact readEvents_append event positive unexpired.2 unexpired.1 runId
    | getEvents own now =>
        change readEvents (live lists now) runId = readEvents lists runId
        rw [live_eq unexpired]
    | clear own now =>
        change readEvents (del (live lists now) (makeKey own)) runId =
          if own = runId then [] else readEvents lists runId
        rw [live_eq unexpired, readEvents_del]
  answers lists runId now _ unexpired := by
    change readEvents (live lists now) runId = readEvents lists runId
    rw [live_eq unexpired]

/-- No list of the database expires by `horizon`. -/
def LastsPast (horizon : Time) (lists : RedisLists Time) : Prop :=
  ∀ key list, lists key = some list → expired horizon list = false

theorem lastsPast_append {horizon : Time} (positive : 1 ≤ maxEvents) (lasting : 0 < ttlSeconds)
    (lasts : LastsPast horizon lists) (within : horizon < now + ttlSeconds)
    (fresh : ∀ key list, lists key = some list → expired now list = false) :
    LastsPast horizon (append maxEvents ttlSeconds floatRepr lists runId event now) := by
  intro key list held
  by_cases same : key = makeKey runId
  · subst key
    obtain ⟨serialized, _, appended⟩ := append_self event positive lasting fresh
    rw [appended] at held
    cases held
    exact decide_eq_false (not_le_of_gt within)
  · rw [append_frame event same fresh] at held
    exact lasts key list held

theorem unexpired_of_within [IsOrderedAddMonoid Time] {start horizon : Time}
    {calls : List (ReplayCall Time)} (positive : 1 ≤ maxEvents) (lasting : 0 < ttlSeconds)
    (lasts : LastsPast horizon lists) (short : horizon < start + ttlSeconds)
    (inside : ∀ call ∈ calls, start ≤ call.now ∧ call.now ≤ horizon) :
    (backend maxEvents ttlSeconds floatRepr).Unexpired lists calls := by
  induction calls generalizing lists with
  | nil => trivial
  | cons call rest ih =>
      have times := inside call mem_cons_self
      have later : ∀ other ∈ rest, start ≤ other.now ∧ other.now ≤ horizon :=
        fun other member => inside other (mem_cons_of_mem _ member)
      have fresh : ∀ key list, lists key = some list → expired call.now list = false := by
        intro key list held
        exact expired_earlier times.2 (lasts key list held)
      cases call with
      | append own event created now =>
          have within : horizon < now + ttlSeconds :=
            lt_of_lt_of_le short (add_le_add_left times.1 ttlSeconds)
          exact ⟨⟨fresh, lasting⟩,
            ih (lastsPast_append event positive lasting lasts within fresh) later⟩
      | getEvents own now =>
          refine ⟨fresh, ih ?_ later⟩
          have same : live lists now = lists := live_eq fresh
          change LastsPast horizon (live lists now)
          rw [same]
          exact lasts
      | clear own now =>
          refine ⟨fresh, ih ?_ later⟩
          have same : live lists now = lists := live_eq fresh
          change LastsPast horizon (del (live lists now) (makeKey own))
          rw [same]
          intro key list held
          by_cases same : key = makeKey own
          · rw [del, same, update_self] at held
            cases held
          · rw [del, update_of_ne same] at held
            exact lasts key list held

end

end RedisReplayStore

/-! ### Interchangeable -/

/-- A backend that started empty answers every read with the last `maxEvents` events
of the run since its last clear, and a call on another run changes nothing. -/
def ReplayBackend.KeepsLatest {Time Store : Type} (backend : ReplayBackend Time Store)
    (maxEvents : Nat) (empty : Store) (calls : List (ReplayCall Time)) : Prop :=
  backend.answers empty calls = expectedAnswers maxEvents [] calls ∧
    ∀ before call later, calls = before ++ call :: later → ∀ runId, call.runId ≠ runId →
      backend.listed (backend.after empty (before ++ [call])) runId =
        backend.listed (backend.after empty before) runId

namespace ReplayBackend

variable {Time Store : Type} {backend : ReplayBackend Time Store} {maxEvents : Nat}
  {inv : Store → Prop} {empty : Store}

theorem unexpired_append {store : Store} {first second : List (ReplayCall Time)}
    (unexpired : backend.Unexpired store (first ++ second)) : backend.Unexpired store first := by
  induction first generalizing store with
  | nil => trivial
  | cons call rest ih => exact ⟨unexpired.1, ih unexpired.2⟩

theorem Refines.keepsLatest (refines : backend.Refines maxEvents inv) (holds : inv empty)
    (nothing : ∀ runId, backend.listed empty runId = []) {calls : List (ReplayCall Time)}
    (unexpired : backend.Unexpired empty calls) : backend.KeepsLatest maxEvents empty calls := by
  let past : List (ReplayCall Time) := []
  have initial : ∀ runId, backend.listed empty runId = retained maxEvents past runId := by
    intro runId
    rw [nothing]
    exact (rtake_nil maxEvents).symm
  constructor
  · exact refines.answers_eq holds initial unexpired
  · intro before call later shape runId other
    rw [shape] at unexpired
    have untilCall : backend.Unexpired empty (before ++ [call]) := by
      rw [← singleton_append, ← append_assoc] at unexpired
      exact unexpired_append unexpired
    rw [refines.listed_after holds initial untilCall,
      refines.listed_after holds initial (unexpired_append untilCall), nil_append,
      nil_append, retained_snoc, keep_other other]

end ReplayBackend

section

variable {Time : Type} [LinearOrder Time] [AddCommGroup Time]

/-- The three stores answer alike. -/
theorem replay_stores_agree (maxEvents : Nat) (positive : 1 ≤ maxEvents)
    (retentionSeconds ttlSeconds : Time) (floatRepr : PyFloat → String)
    (calls : List (ReplayCall Time))
    (rowsStay : (backend maxEvents retentionSeconds floatRepr).Unexpired []
      calls)
    (keysStay : (RedisReplayStore.backend maxEvents ttlSeconds floatRepr).Unexpired
      (fun _ => none) calls) :
    (InMemoryReplayStore.backend maxEvents).KeepsLatest maxEvents (fun _ => none) calls ∧
      (backend maxEvents retentionSeconds floatRepr).KeepsLatest maxEvents []
        calls ∧
      (RedisReplayStore.backend maxEvents ttlSeconds floatRepr).KeepsLatest maxEvents
        (fun _ => none) calls := by
  refine ⟨?_, ?_, ?_⟩
  · exact (InMemoryReplayStore.refines maxEvents).keepsLatest trivial (fun _ => rfl)
      (InMemoryReplayStore.unexpired maxEvents _ calls)
  · apply (refines positive).keepsLatest _ (fun _ => rfl) rowsStay
    intro runId
    exact List.Pairwise.nil
  · exact (RedisReplayStore.refines positive).keepsLatest trivial (fun _ => rfl) keysStay

def noteEvent (text : String) : JsonEvent := ⟨.str text, .str text⟩

/-- The second event of a run of at most one evicts the first, in all three stores. -/
theorem replay_stores_agree_evicting :
    (1 ≤ 1) ∧
      (backend 1 (0 : ℤ) fun _ => "").KeepsLatest 1 []
        [.append "a" (noteEvent "first") 0 0, .append "a" (noteEvent "second") 1 1,
          .getEvents "a" 2] := by
  refine ⟨le_refl 1, (replay_stores_agree 1 (le_refl 1) (0 : ℤ) 10 (fun _ => "") _ ?_ ?_).2.1⟩
  · refine ⟨⟨nofun, by decide⟩, ⟨?_, by decide⟩, ?_, trivial⟩
    · intro row _
      rfl
    · intro row _
      rfl
  · have short : (2 : ℤ) < 0 + 10 := by decide
    apply RedisReplayStore.unexpired_of_within (le_refl 1) (by decide) _ short
    · intro call member
      simp only [List.mem_cons, not_mem_nil, or_false] at member
      rcases member with here | here | here
      · rw [here]
        exact ⟨by decide, by decide⟩
      · rw [here]
        exact ⟨by decide, by decide⟩
      · rw [here]
        exact ⟨by decide, by decide⟩
    · intro key list held
      cases held

end

end AgenticRuntime
