/-
When the throttle's answers are exactly the lockouts of the client.

The invariant compares the entry of a client with its own calls; evictions by other
clients keep it.
-/

import AgenticRuntime.Server.AuthThrottle

namespace AgenticRuntime

open List hiding le_refl not_le not_lt

namespace AuthThrottle

/-! ### The failure deque -/

theorem dropWhile_eq_filter {times : List Rat} (ascending : times.Pairwise (· ≤ ·)) (cutoff : Rat) :
    times.dropWhile (fun time => time ≤ cutoff) = times.filter fun time => cutoff < time := by
  induction times with
  | nil => rfl
  | cons first rest ih =>
      obtain ⟨least, later⟩ := pairwise_cons.mp ascending
      by_cases old : first ≤ cutoff
      · rw [dropWhile_cons, if_pos (decide_eq_true old), ih later,
          filter_cons_of_neg (by simpa using old)]
      · rw [dropWhile_cons, if_neg (by simpa using old)]
        have kept : ∀ time, time ∈ first :: rest → decide (cutoff < time) = true := by
          intro time listed
          apply decide_eq_true
          rcases List.mem_cons.mp listed with same | after
          · rw [same]
            exact not_le.mp old
          · exact (not_le.mp old).trans_le (least time after)
        rw [filter_eq_self.mpr kept]

section

variable (throttle : AuthThrottle)

def recent (failures : List Rat) (now : Rat) : List Rat :=
  failures.reverse.filter fun time => now - throttle.window < time

variable (entry : Option ThrottleState)

def evicted (now : Rat) : Option ThrottleState :=
  entry.filter fun state => !expired throttle now state

def answer (now : Rat) : Bool :=
  match entry.bind ThrottleState.lockedUntil with
  | none => false
  | some release => now < release

def checked (now : Rat) : Option ThrottleState :=
  match entry.bind ThrottleState.lockedUntil with
  | none => entry
  | some release => if now < release then entry else some {}

theorem isLocked_answer (entries : Entries) (ip : String) (now : Rat) :
    (isLocked throttle entries ip now).1.1 = answer (evicted throttle (entries ip) now) now := by
  have left : evictExpired throttle now entries ip = evicted throttle (entries ip) now := rfl
  rw [isLocked, left, answer]
  cases evicted throttle (entries ip) now with
  | none => rfl
  | some state =>
      dsimp only
      rw [Option.bind_some]
      cases state.lockedUntil with
      | none => rfl
      | some release =>
          dsimp only
          by_cases on : now < release
          · rw [if_pos (sub_pos.mpr on), decide_eq_true on]
          · rw [if_neg fun positive => on (sub_pos.mp positive), decide_eq_false on]

theorem isLocked_entry (entries : Entries) (ip other : String) (now : Rat) :
    (isLocked throttle entries ip now).2 other =
      if other = ip then checked (evicted throttle (entries ip) now) now
      else evicted throttle (entries other) now := by
  have left : ∀ client, evictExpired throttle now entries client =
      evicted throttle (entries client) now := fun _ => rfl
  rw [isLocked, left, checked]
  by_cases same : other = ip
  · rw [if_pos same, same]
    cases remains : evicted throttle (entries ip) now with
    | none => exact (left ip).trans remains
    | some state =>
        dsimp only
        rw [Option.bind_some]
        cases state.lockedUntil with
        | none => exact (left ip).trans remains
        | some release =>
            dsimp only
            by_cases on : now < release
            · rw [if_pos (sub_pos.mpr on), if_pos on]
              exact (left ip).trans remains
            · rw [if_neg fun positive => on (sub_pos.mp positive), if_neg on]
              exact if_pos rfl
  · rw [if_neg same]
    cases evicted throttle (entries ip) now with
    | none => exact left other
    | some state =>
        dsimp only
        cases state.lockedUntil with
        | none => exact left other
        | some release =>
            dsimp only
            by_cases on : 0 < release - now
            · rw [if_pos on]
              exact left other
            · rw [if_neg on]
              exact (if_neg same).trans (left other)

theorem recent_append (failures : List Rat) (time now : Rat) :
    throttle.recent (failures ++ [time]) now =
      (if now - throttle.window < time then [time] else []) ++ throttle.recent failures now := by
  rw [recent, recent, reverse_append, filter_append]
  refine congrArg (· ++ _) ?_
  by_cases fresh : now - throttle.window < time
  · rw [if_pos fresh]
    exact filter_cons_of_pos (decide_eq_true fresh)
  · rw [if_neg fresh]
    exact filter_cons_of_neg (by simpa using fresh)

theorem recent_filter (failures : List Rat) {now later : Rat} (after : now ≤ later) :
    throttle.recent (failures.filter fun time => now - throttle.window < time) later =
      throttle.recent failures later := by
  rw [recent, recent, filter_reverse, filter_reverse, filter_filter]
  refine congrArg List.reverse (filter_congr fun time _ => ?_)
  rw [← Bool.decide_and, decide_eq_decide]
  exact and_iff_left_of_imp fun fresh => by linarith

end

/-! ### The entry of a client and its own calls -/

section

variable (throttle : AuthThrottle)

def Reads (entry : Option ThrottleState) (history : List Own) (now : Rat) : Prop :=
  match entry with
  | none => (∀ release, release ∈ throttle.unnoticed history → release ≤ now) ∧
      ∀ later, now ≤ later → throttle.counted (throttle.digest history) later = []
  | some state => state.lockedUntil = throttle.unnoticed history ∧
      state.failures.Pairwise (· ≤ ·) ∧ (∀ time, time ∈ state.failures → time ≤ now) ∧
      ∀ later, now ≤ later → (∀ release, release ∈ throttle.unnoticed history → later < release) →
        throttle.recent state.failures later = throttle.counted (throttle.digest history) later

structure Follows (entry : Option ThrottleState) (history : List Own) (now : Rat) : Prop where
  begun : ∀ time, time ∈ (throttle.digest history).lockouts → time ≤ now
  newest : ∀ last, last ∈ (throttle.digest history).lockouts.head? →
    ∀ time, time ∈ (throttle.digest history).lockouts → time ≤ last
  ends : ∀ release, release ∈ throttle.unnoticed history →
    ∃ last, last ∈ (throttle.digest history).lockouts.head? ∧ last + throttle.lockout = release
  inside : ∀ release, release ∈ throttle.unnoticed history →
    ∀ time, time ∈ (throttle.digest history).pending → time < release
  beyond : throttle.unnoticed history = none →
    ∀ last, last ∈ (throttle.digest history).lockouts.head? → last + throttle.lockout ≤ now
  reads : Reads throttle entry history now

variable {throttle} {entry : Option ThrottleState} {history : List Own} {now : Rat}

theorem follows_nil (now : Rat) : Follows throttle none [] now where
  begun := fun _ listed => absurd listed not_mem_nil
  newest := fun _ _ _ listed => absurd listed not_mem_nil
  ends := by
    intro release listed
    cases listed
  inside := by
    intro release listed
    cases listed
  beyond := by
    intro _ last listed
    cases listed
  reads := by
    constructor
    · intro release listed
      cases listed
    · intro later _
      rfl

theorem Follows.later (follows : Follows throttle entry history now) {next : Rat}
    (passes : now ≤ next) : Follows throttle entry history next where
  begun := fun time listed => (follows.begun time listed).trans passes
  newest := follows.newest
  ends := follows.ends
  inside := follows.inside
  beyond := fun none_ last listed => (follows.beyond none_ last listed).trans passes
  reads := by
    have reads := follows.reads
    cases entry with
    | none =>
        exact ⟨fun release listed => (reads.1 release listed).trans passes,
          fun later after => reads.2 later (passes.trans after)⟩
    | some state =>
        obtain ⟨locked, ascending, past, same⟩ := reads
        exact ⟨locked, ascending, fun time listed => (past time listed).trans passes,
          fun later after => same later (passes.trans after)⟩

theorem Follows.counted_of_released (follows : Follows throttle entry history now) {release : Rat}
    (pending : release ∈ throttle.unnoticed history) {later : Rat} (released : release ≤ later) :
    throttle.counted (throttle.digest history) later = [] := by
  obtain ⟨last, head, same⟩ := follows.ends release pending
  rw [counted, filter_eq_nil_iff]
  intro time listed counts
  have low := (of_decide_eq_true counts).2 last head (same ▸ released)
  exact absurd (follows.inside release pending time listed) (not_lt.mpr (same ▸ low))

theorem Follows.evict (follows : Follows throttle entry history now) :
    Follows throttle (evicted throttle entry now) history now where
  begun := follows.begun
  newest := follows.newest
  ends := follows.ends
  inside := follows.inside
  beyond := follows.beyond
  reads := by
    have reads := follows.reads
    cases entry with
    | none => exact reads
    | some state =>
        rw [evicted]
        by_cases gone : expired throttle now state = true
        · rw [Option.filter_some_neg (by simp [gone])]
          obtain ⟨locked, ascending, past, same⟩ := reads
          rw [expired, Bool.and_eq_true] at gone
          obtain ⟨released, old⟩ := gone
          have ended : ∀ release, release ∈ throttle.unnoticed history → release ≤ now := by
            intro release pending
            rw [locked, Option.mem_def.mp pending] at released
            exact of_decide_eq_true released
          refine ⟨ended, fun later after => ?_⟩
          cases unseen : throttle.unnoticed history with
          | some release =>
              exact follows.counted_of_released unseen ((ended release unseen).trans after)
          | none =>
              rw [← same later after (fun release pending => by rw [unseen] at pending; cases pending),
                recent, filter_eq_nil_iff]
              intro time listed fresh
              have inWindow := of_decide_eq_true fresh
              have bound : time ≤ now - throttle.window := by
                cases final : state.failures.getLast? with
                | none =>
                    rw [List.getLast?_eq_none_iff.mp final] at listed
                    cases listed
                | some last =>
                    rw [final] at old
                    obtain ⟨front, split⟩ := List.getLast?_eq_some_iff.mp final
                    rw [split] at listed ascending
                    have lastOld : last ≤ now - throttle.window := of_decide_eq_true old
                    rcases mem_append.mp (mem_reverse.mp listed) with earlier | atEnd
                    · exact ((pairwise_append.mp ascending).2.2 time earlier last
                        mem_cons_self).trans lastOld
                    · rw [mem_singleton.mp atEnd]
                      exact lastOld
              linarith
        · rw [Option.filter_some_pos (by simp [gone])]
          exact reads

theorem Follows.answer_iff (follows : Follows throttle entry history now) :
    answer entry now = true ↔ throttle.LockedAt history now := by
  have reads := follows.reads
  have on : ∀ release, release ∈ throttle.unnoticed history →
      (now < release ↔ throttle.LockedAt history now) := by
    intro release pending
    obtain ⟨last, head, same⟩ := follows.ends release pending
    constructor
    · intro before
      have listed := mem_of_mem_head? head
      exact ⟨last, listed, follows.begun last listed, same ▸ before⟩
    · intro ⟨time, listed, _, before⟩
      have newest := follows.newest last head time listed
      linarith
  have off : throttle.unnoticed history = none → ¬ throttle.LockedAt history now := by
    intro none_ ⟨time, listed, _, before⟩
    cases head : (throttle.digest history).lockouts.head? with
    | none =>
        rw [List.head?_eq_none_iff.mp head] at listed
        cases listed
    | some last =>
        have newest := follows.newest last head time listed
        have beyond := follows.beyond none_ last head
        linarith
  cases entry with
  | none =>
      apply iff_of_false Bool.false_ne_true
      cases unseen : throttle.unnoticed history with
      | none => exact off unseen
      | some release =>
          exact fun locked => absurd ((on release unseen).mpr locked)
            (not_lt.mpr (reads.1 release unseen))
  | some state =>
      rw [answer, Option.bind_some, reads.1]
      cases unseen : throttle.unnoticed history with
      | none => exact iff_of_false Bool.false_ne_true (off unseen)
      | some release =>
          rw [← on release unseen]
          exact decide_eq_true_iff

/-! ### One call -/

theorem unnoticed_check (time : Rat) : throttle.unnoticed (⟨time, .check⟩ :: history) =
    (throttle.unnoticed history).filter fun release => time < release := rfl

theorem unnoticed_failure (time : Rat) : throttle.unnoticed (⟨time, .failure⟩ :: history) =
    if throttle.Triggers (throttle.digest history) time then some (time + throttle.lockout)
    else throttle.unnoticed history := rfl

theorem digest_failure (time : Rat) : throttle.digest (⟨time, .failure⟩ :: history) =
    if throttle.Triggers (throttle.digest history) time then
      ⟨time :: (throttle.digest history).lockouts, []⟩
    else ⟨(throttle.digest history).lockouts, time :: (throttle.digest history).pending⟩ := rfl

theorem follows_success (history : List Own) (now : Rat) :
    Follows throttle none (⟨now, .success⟩ :: history) now :=
  { follows_nil now with }

theorem Follows.check (follows : Follows throttle entry history now) :
    Follows throttle (checked entry now) (⟨now, .check⟩ :: history) now := by
  have kept : ∀ release, release ∈ throttle.unnoticed (⟨now, .check⟩ :: history) →
      release ∈ throttle.unnoticed history := by
    intro release listed
    rw [unnoticed_check] at listed
    exact (Option.filter_eq_some_iff.mp listed).1
  constructor
  · exact follows.begun
  · exact follows.newest
  · exact fun release listed => follows.ends release (kept release listed)
  · exact fun release listed => follows.inside release (kept release listed)
  · intro none_ last head
    cases unseen : throttle.unnoticed history with
    | none => exact follows.beyond unseen last head
    | some release =>
        obtain ⟨other, first, same⟩ := follows.ends release unseen
        have twin : other = last := Option.mem_unique first head
        rw [unnoticed_check, unseen] at none_
        by_cases on : now < release
        · rw [Option.filter_some, if_pos (decide_eq_true on)] at none_
          cases none_
        · rw [← twin, same]
          exact not_lt.mp on
  · have reads := follows.reads
    cases entry with
    | none => exact ⟨fun release listed => reads.1 release (kept release listed), reads.2⟩
    | some state =>
        obtain ⟨locked, ascending, past, same⟩ := reads
        rw [checked, Option.bind_some, locked]
        cases unseen : throttle.unnoticed history with
        | none =>
            rw [unseen] at same
            refine ⟨?_, ascending, past, fun later after _ => same later after ?_⟩
            · rw [unnoticed_check, unseen, locked, unseen]
              rfl
            · intro release listed
              cases listed
        | some release =>
            dsimp only
            by_cases on : now < release
            · have still : throttle.unnoticed (⟨now, .check⟩ :: history) = some release := by
                rw [unnoticed_check, unseen, Option.filter_some, if_pos (decide_eq_true on)]
              rw [if_pos on]
              refine ⟨(locked.trans unseen).trans still.symm, ascending, past,
                fun later after before => same later after ?_⟩
              rw [unseen, ← still]
              exact before
            · have clear : throttle.unnoticed (⟨now, .check⟩ :: history) = none := by
                rw [unnoticed_check, unseen, Option.filter_some, if_neg (by simpa using on)]
              rw [if_neg on]
              refine ⟨clear.symm, List.Pairwise.nil, fun time listed => ?_, fun later after _ => ?_⟩
              · cases listed
              · exact (follows.counted_of_released unseen ((not_lt.mp on).trans after)).symm

theorem Follows.state (follows : Follows throttle entry history now)
    (noticed : ∀ release, release ∈ throttle.unnoticed history → now < release) :
    Reads throttle (some (entry.getD {})) history now := by
  have reads := follows.reads
  cases entry with
  | some state => exact reads
  | none =>
      have unseen : throttle.unnoticed history = none := by
        rw [Option.eq_none_iff_forall_not_mem]
        intro release listed
        exact absurd (noticed release listed) (not_lt.mpr (reads.1 release listed))
      refine ⟨unseen.symm, List.Pairwise.nil, fun time listed => ?_, fun later after _ => ?_⟩
      · cases listed
      · exact (reads.2 later after).symm

theorem Follows.counted_failure (follows : Follows throttle entry history now)
    (quiet : ¬ throttle.Triggers (throttle.digest history) now) {later : Rat}
    (before : ∀ release, release ∈ throttle.unnoticed history → later < release) :
    throttle.counted (throttle.digest (⟨now, .failure⟩ :: history)) later =
      (if later - throttle.window < now then [now] else []) ++
        throttle.counted (throttle.digest history) later := by
  have counts : throttle.Counts (throttle.digest history) later now ↔
      later - throttle.window < now := by
    refine and_iff_left_of_imp fun _ last head ended => ?_
    cases seen : throttle.unnoticed history with
    | none => exact follows.beyond seen last head
    | some release =>
        obtain ⟨other, first, atEnd⟩ := follows.ends release seen
        have twin : other = last := Option.mem_unique first head
        rw [twin] at atEnd
        exact absurd (before release seen) (not_lt.mpr (atEnd ▸ ended))
  have digested := @digest_failure throttle history now
  rw [if_neg quiet] at digested
  have whole : throttle.counted (throttle.digest (⟨now, .failure⟩ :: history)) later =
      (now :: (throttle.digest history).pending).filter fun time =>
        throttle.Counts (throttle.digest history) later time := by
    rw [digested]
    rfl
  rw [whole, filter_cons]
  by_cases fresh : later - throttle.window < now
  · rw [if_pos (decide_eq_true (counts.mpr fresh)), if_pos fresh]
    rfl
  · have stale := fun counted => fresh (counts.mp counted)
    rw [if_neg (by simpa using stale), if_neg fresh]
    rfl

theorem Follows.failed_eq (follows : Follows throttle entry history now)
    (noticed : ∀ release, release ∈ throttle.unnoticed history → now < release) :
    failed throttle entry now =
      if throttle.Triggers (throttle.digest history) now then
        { failures := [], lockedUntil := some (now + throttle.lockout) }
      else
        { failures := ((entry.getD {}).failures.filter fun time => now - throttle.window < time) ++
            [now],
          lockedUntil := throttle.unnoticed history } := by
  obtain ⟨locked, ascending, _, same⟩ := follows.state noticed
  have length : (((entry.getD {}).failures.filter fun time => now - throttle.window < time) ++
      [now]).length = (throttle.counted (throttle.digest history) now).length + 1 := by
    rw [← same now (le_refl now) noticed, recent, filter_reverse, length_reverse, length_append,
      length_singleton]
  rw [failed, dropWhile_eq_filter ascending, locked, length]
  rfl

theorem Follows.trigger (follows : Follows throttle entry history now)
    (triggers : throttle.Triggers (throttle.digest history) now) :
    Follows throttle (some { failures := [], lockedUntil := some (now + throttle.lockout) })
      (⟨now, .failure⟩ :: history) now := by
  have unseen := @unnoticed_failure throttle history now
  have digested := @digest_failure throttle history now
  rw [if_pos triggers] at unseen digested
  have bounded : ∀ time, time ∈ now :: (throttle.digest history).lockouts → time ≤ now := by
    intro time listed
    rcases List.mem_cons.mp listed with first | earlier
    · exact first.le
    · exact follows.begun time earlier
  constructor
  · rw [digested]
    exact bounded
  · rw [digested]
    intro last head
    cases head
    exact bounded
  · rw [unseen, digested]
    intro release listed
    cases listed
    exact ⟨now, rfl, rfl⟩
  · rw [digested]
    intro release _ time listed
    cases listed
  · rw [unseen]
    intro none_
    cases none_
  · refine ⟨unseen.symm, List.Pairwise.nil, fun time listed => ?_, fun later after _ => ?_⟩
    · cases listed
    · rw [digested]
      rfl

theorem Follows.fail (follows : Follows throttle entry history now)
    (noticed : ∀ release, release ∈ throttle.unnoticed history → now < release) :
    Follows throttle (some (failed throttle entry now)) (⟨now, .failure⟩ :: history) now := by
  obtain ⟨_, ascending, past, same⟩ := follows.state noticed
  rw [follows.failed_eq noticed]
  by_cases triggers : throttle.Triggers (throttle.digest history) now
  · rw [if_pos triggers]
    exact follows.trigger triggers
  · have unseen := @unnoticed_failure throttle history now
    have digested := @digest_failure throttle history now
    rw [if_neg triggers] at unseen digested ⊢
    constructor
    · rw [digested]
      exact follows.begun
    · rw [digested]
      exact follows.newest
    · rw [unseen, digested]
      exact follows.ends
    · rw [unseen, digested]
      intro release listed time member
      rcases List.mem_cons.mp member with first | earlier
      · exact first ▸ noticed release listed
      · exact follows.inside release listed time earlier
    · rw [unseen, digested]
      exact follows.beyond
    · refine ⟨unseen.symm, ?_, ?_, ?_⟩
      · apply pairwise_append.mpr
        refine ⟨ascending.filter _, pairwise_singleton _ _, ?_⟩
        intro time listed last atEnd
        rw [mem_singleton.mp atEnd]
        exact past time (mem_of_mem_filter listed)
      · intro time listed
        rcases mem_append.mp listed with earlier | atEnd
        · exact past time (mem_of_mem_filter earlier)
        · exact (mem_singleton.mp atEnd).le
      · rw [unseen]
        intro later after before
        rw [follows.counted_failure triggers before, ← same later after before, recent_append,
          recent_filter throttle _ after]

end

/-! ### Whole runs -/

section

variable {throttle : AuthThrottle}

theorem own_append (ip : String) (calls : List Call) (call : Call) :
    own ip (calls ++ [call]) =
      if call.ip = ip then ⟨call.time, call.kind⟩ :: own ip calls else own ip calls := by
  rw [own, filter_append, map_append, reverse_append]
  by_cases same : call.ip = ip
  · rw [if_pos same, filter_cons, if_pos (decide_eq_true same)]
    rfl
  · rw [if_neg same, filter_cons, if_neg (by simpa using same)]
    rfl

theorem own_filter (ip : String) (calls : List Call) :
    own ip (calls.filter fun call => call.ip = ip) = own ip calls := by
  rw [own, filter_filter]
  refine congrArg (fun kept : List Call => (kept.map _).reverse) (filter_congr fun call _ => ?_)
  exact Bool.and_self _

theorem follows_step {entries : Entries} {history : List Own} {call : Call} {ip : String}
    (follows : Follows throttle (entries ip) history call.time)
    (noticed : call.ip = ip → Noticed throttle (⟨call.time, call.kind⟩ :: history)) :
    Follows throttle (step throttle entries call ip)
      (if call.ip = ip then ⟨call.time, call.kind⟩ :: history else history) call.time := by
  obtain ⟨client, time, kind⟩ := call
  cases kind with
  | check =>
      change Follows throttle ((isLocked throttle entries client time).2 ip) _ time
      rw [isLocked_entry]
      by_cases same : client = ip
      · rw [if_pos same, if_pos same.symm, same]
        exact follows.evict.check
      · rw [if_neg same, if_neg (Ne.symm same)]
        exact follows.evict
  | failure =>
      change Follows throttle (if ip = client then some (failed throttle (entries client) time)
        else entries ip) _ time
      by_cases same : client = ip
      · have due := (noticed same).2 rfl
        rw [if_pos same, if_pos same.symm, same]
        exact follows.fail due
      · rw [if_neg same, if_neg (Ne.symm same)]
        exact follows
  | success =>
      change Follows throttle (if ip = client then none else entries ip) _ time
      by_cases same : client = ip
      · rw [if_pos same, if_pos same.symm]
        exact follows_success history time
      · rw [if_neg same, if_neg (Ne.symm same)]
        exact follows

theorem follows_after {calls : List Call}
    (ordered : calls.Pairwise fun earlier later => earlier.time ≤ later.time) {ip : String}
    (noticed : Noticed throttle (own ip calls)) {now : Rat}
    (passed : ∀ call, call ∈ calls → call.time ≤ now) :
    Follows throttle (after throttle calls ip) (own ip calls) now := by
  induction calls using List.reverseRecOn generalizing now with
  | nil => exact follows_nil now
  | append_singleton calls call ih =>
      obtain ⟨before, _, last⟩ := pairwise_append.mp ordered
      rw [own_append] at noticed
      have earlier : Noticed throttle (own ip calls) := by
        by_cases same : call.ip = ip
        · rw [if_pos same] at noticed
          exact noticed.1
        · rwa [if_neg same] at noticed
      have follows := ih before earlier fun other listed => last other listed call mem_cons_self
      have stepped : after throttle (calls ++ [call]) = step throttle (after throttle calls) call := by
        rw [after, foldl_append]
        rfl
      rw [stepped, own_append]
      refine (follows_step follows fun same => ?_).later
        (passed call (mem_append_right _ mem_cons_self))
      rwa [if_pos same] at noticed

theorem isLocked_iff {calls : List Call}
    (ordered : calls.Pairwise fun earlier later => earlier.time ≤ later.time) {ip : String}
    (noticed : Noticed throttle (own ip calls)) {now : Rat}
    (passed : ∀ call, call ∈ calls → call.time ≤ now) :
    (isLocked throttle (after throttle calls) ip now).1.1 = true ↔
      throttle.LockedAt (own ip calls) now := by
  rw [isLocked_answer]
  exact (follows_after ordered noticed passed).evict.answer_iff

def twice : AuthThrottle := ⟨1000, 2, 10⟩

/-- Three requests at once, the last of which fails after the lockout of the other two. -/
def overlapping : List Call :=
  [⟨"a", 0, .check⟩, ⟨"a", 0, .check⟩, ⟨"a", 0, .check⟩, ⟨"a", 1, .failure⟩, ⟨"a", 2, .failure⟩,
    ⟨"a", 20, .failure⟩, ⟨"a", 21, .check⟩, ⟨"a", 22, .failure⟩]

/-- The same with a request of another client, whose check evicts the ended lockout. -/
def evicting : List Call :=
  overlapping.take 5 ++ [⟨"b", 15, .check⟩, ⟨"b", 15, .success⟩] ++ overlapping.drop 5

end

end AuthThrottle

end AgenticRuntime
