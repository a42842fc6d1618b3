/-
What a request that is denied leaves of the budgets.

The request bucket is asked and charged before the token bucket, so a denial by the
second is paid for with a token of the first.
-/

import AgenticRuntime.Models.RateLimits
import AgenticRuntime.Transition
import Mathlib.Tactic.Linarith

namespace AgenticRuntime

/-! ### One bucket -/

namespace TokenBucket

variable {bucket : TokenBucket} {now : ℚ}

structure Bounded (bucket : TokenBucket) : Prop where
  nonneg : 0 ≤ bucket.tokens
  full : bucket.tokens ≤ bucket.capacity

structure Sound (bucket : TokenBucket) (now : ℚ) : Prop where
  bounded : bucket.Bounded
  rate : 0 ≤ bucket.refillRate
  past : bucket.lastRefill ≤ now

def remaining (bucket : TokenBucket) (now : ℚ) : ℚ := (bucket.refill now).tokens

theorem create_sound (capacity : Nat) {rate : ℚ} (nonneg : 0 ≤ rate) (now : ℚ) :
    (create capacity rate now).Sound now where
  bounded := ⟨Nat.cast_nonneg capacity, le_refl _⟩
  rate := nonneg
  past := le_refl now

theorem Sound.later {next : ℚ} (sound : bucket.Sound now) (later : now ≤ next) :
    bucket.Sound next := ⟨sound.bounded, sound.rate, sound.past.trans later⟩

theorem Sound.refill (sound : bucket.Sound now) : (bucket.refill now).Sound now where
  bounded := by
    constructor
    · have gained : 0 ≤ (now - bucket.lastRefill) * bucket.refillRate :=
        mul_nonneg (by linarith [sound.past]) sound.rate
      exact le_min (Nat.cast_nonneg _) (by linarith [sound.bounded.nonneg])
    · exact min_le_left _ _
  rate := sound.rate
  past := le_refl now

theorem refill_now (filled : bucket.lastRefill = now) :
    bucket.refill now = { bucket with tokens := min (bucket.capacity : ℚ) bucket.tokens } := by
  unfold TokenBucket.refill
  rw [filled]
  simp

theorem Sound.refill_refill (sound : bucket.Sound now) :
    (bucket.refill now).refill now = bucket.refill now := by
  have filled : (bucket.refill now).lastRefill = now := rfl
  rw [refill_now filled, min_eq_right sound.refill.bounded.full]

theorem consume_granted {tokens : Int} (enough : (tokens : ℚ) ≤ bucket.remaining now) :
    bucket.consume now tokens =
      (true, { bucket.refill now with tokens := bucket.remaining now - tokens }) :=
  if_pos enough

theorem consume_denied {tokens : Int} (short : ¬ (tokens : ℚ) ≤ bucket.remaining now) :
    bucket.consume now tokens = (false, bucket.refill now) := if_neg short

theorem remaining_consumed {tokens : Int} (enough : (tokens : ℚ) ≤ bucket.remaining now) :
    (bucket.consume now tokens).2.remaining now =
      min (bucket.capacity : ℚ) (bucket.remaining now - tokens) := by
  rw [consume_granted enough]
  exact congrArg TokenBucket.tokens (refill_now rfl)

theorem Sound.consume {tokens : Int} (sound : bucket.Sound now)
    (room : (tokens : ℚ) ≤ bucket.remaining now →
      bucket.remaining now - tokens ≤ bucket.capacity) :
    (bucket.consume now tokens).2.Sound now := by
  by_cases enough : (tokens : ℚ) ≤ bucket.remaining now
  · rw [consume_granted enough]
    exact ⟨⟨by simpa using enough, room enough⟩, sound.rate, le_refl now⟩
  · rw [consume_denied enough]
    exact sound.refill

theorem Sound.consume_one (sound : bucket.Sound now) : (bucket.consume now 1).2.Sound now := by
  apply sound.consume
  intro _
  have full : bucket.remaining now ≤ bucket.capacity := sound.refill.bounded.full
  push_cast
  linarith

theorem Sound.reset (sound : bucket.Sound now) (remaining : Nat) (seconds : Python.PyFloat) :
    (bucket.reset now remaining seconds).Sound now where
  bounded := ⟨Nat.cast_nonneg _, Nat.cast_le.mpr (Nat.min_le_right _ _)⟩
  rate := by
    unfold TokenBucket.reset
    dsimp only
    by_cases faster : (seconds.exceeds 0 && decide (remaining < bucket.capacity)) = true
    · rw [if_pos faster]
      cases seconds with
      | finite value =>
          have positive : 0 < value := of_decide_eq_true (Bool.and_eq_true_iff.mp faster).1
          exact div_nonneg (Nat.cast_nonneg _) positive.le
      | inf | negInf | nan => exact le_refl 0
    · rw [if_neg faster]
      exact sound.rate
  past := le_refl now

/-! ### What a bucket lets through -/

/-- How much of what is asked for, each time with its amount, the bucket grants. -/
def granted (bucket : TokenBucket) : List (ℚ × Nat) → Nat
  | [] => 0
  | (now, tokens) :: rest =>
      let answer := bucket.consume now tokens
      (if answer.1 then tokens else 0) + answer.2.granted rest

variable {next : ℚ}

theorem Sound.remaining_later (sound : bucket.Sound now) (later : now ≤ next) :
    bucket.remaining next ≤ bucket.remaining now + (next - now) * bucket.refillRate := by
  have gained : 0 ≤ (next - now) * bucket.refillRate :=
    mul_nonneg (sub_nonneg.mpr later) sound.rate
  change min _ _ ≤ min _ _ + _
  rcases min_choice (bucket.capacity : ℚ)
    (bucket.tokens + (now - bucket.lastRefill) * bucket.refillRate) with full | filling
  · rw [full]
    exact (min_le_left _ _).trans (by linarith)
  · rw [filling]
    exact (min_le_right _ _).trans (by linarith)

theorem consume_spends (sound : bucket.Sound now) (tokens : Nat) :
    (bucket.consume now tokens).2.Sound now ∧
      (bucket.consume now tokens).2.refillRate = bucket.refillRate ∧
      (if (bucket.consume now tokens).1 then tokens else 0 : Nat) +
        (bucket.consume now tokens).2.remaining now ≤ bucket.remaining now := by
  have full : bucket.remaining now ≤ bucket.capacity := sound.refill.bounded.full
  have spent : (0 : ℚ) ≤ ((tokens : Int) : ℚ) := Int.cast_nonneg (Int.natCast_nonneg tokens)
  refine ⟨sound.consume fun _ => by linarith, ?_⟩
  by_cases enough : ((tokens : Int) : ℚ) ≤ bucket.remaining now
  · have left := min_le_right (bucket.capacity : ℚ) (bucket.remaining now - (tokens : Int))
    rw [← remaining_consumed enough] at left
    rw [consume_granted enough] at left ⊢
    refine ⟨rfl, ?_⟩
    rw [if_pos rfl, ← Int.cast_natCast tokens]
    linarith
  · rw [consume_denied enough]
    refine ⟨rfl, ?_⟩
    rw [if_neg Bool.false_ne_true, Nat.cast_zero, zero_add]
    exact (congrArg TokenBucket.tokens sound.refill_refill).le

theorem granted_le_remaining {requests : List (ℚ × Nat)} {finish : ℚ} (sound : bucket.Sound now)
    (ordered : (now :: requests.map Prod.fst ++ [finish]).Pairwise (· ≤ ·)) :
    (bucket.granted requests : ℚ) ≤ bucket.remaining now + (finish - now) * bucket.refillRate := by
  induction requests generalizing bucket now with
  | nil =>
      have ends : now ≤ finish := List.rel_of_pairwise_cons ordered List.mem_cons_self
      have filled : 0 ≤ bucket.remaining now := sound.refill.bounded.nonneg
      have gained := mul_nonneg (sub_nonneg.mpr ends) sound.rate
      simp only [granted, Nat.cast_zero]
      linarith
  | cons request rest ih =>
      obtain ⟨time, tokens⟩ := request
      have later : now ≤ time := List.rel_of_pairwise_cons ordered List.mem_cons_self
      obtain ⟨kept, rate, spent⟩ := consume_spends (sound.later later) tokens
      have rested := ih kept ordered.of_cons
      have refilled := sound.remaining_later later
      rw [rate] at rested
      rw [granted, Nat.cast_add]
      linarith

/-- In any stretch of time a bucket grants at most what it holds when full and what it is
filled by in that time. -/
theorem granted_le {requests : List (ℚ × Nat)} {finish : ℚ} (sound : bucket.Sound now)
    (ordered : (now :: requests.map Prod.fst ++ [finish]).Pairwise (· ≤ ·)) :
    (bucket.granted requests : ℚ) ≤ bucket.capacity + (finish - now) * bucket.refillRate :=
  (granted_le_remaining sound ordered).trans (add_le_add_left sound.refill.bounded.full _)

theorem granted_le_minute :
    ((create 2 (2 / 60) 0).granted [(0, 1), (15, 2), (30, 2)] : ℚ) ≤ 2 + (30 - 0) * (2 / 60) :=
  granted_le (create_sound 2 (by norm_num) 0) (by decide +kernel)

end TokenBucket

/-! ### One provider -/

namespace ProviderRateLimits

variable {state : ProviderRateLimits} {now : ℚ}

structure Bounded (state : ProviderRateLimits) : Prop where
  rpm : state.rpmBucket.Bounded
  tpm : ∀ bucket, state.tpmBucket = some bucket → bucket.Bounded

structure Sound (state : ProviderRateLimits) (now : ℚ) : Prop where
  rpm : state.rpmBucket.Sound now
  tpm : ∀ bucket, state.tpmBucket = some bucket → bucket.Sound now

theorem Sound.bounded (sound : state.Sound now) : state.Bounded :=
  ⟨sound.rpm.bounded, fun bucket known => (sound.tpm bucket known).bounded⟩

theorem Sound.later {next : ℚ} (sound : state.Sound now) (later : now ≤ next) : state.Sound next :=
  ⟨sound.rpm.later later, fun bucket known => (sound.tpm bucket known).later later⟩

theorem initial_sound (provider : String) (now : ℚ) : (initial provider now).Sound now where
  rpm := TokenBucket.create_sound _ (div_nonneg (Nat.cast_nonneg _) (by norm_num)) now
  tpm := by
    intro bucket known
    cases known
    exact TokenBucket.create_sound _ (div_nonneg (Nat.cast_nonneg _) (by norm_num)) now

theorem Sound.resetRpm (sound : state.Sound now) (remaining : Option Nat)
    (reset : Option Python.PyFloat) : (state.resetRpm now remaining reset).Sound now := by
  unfold ProviderRateLimits.resetRpm
  split
  · exact ⟨sound.rpm.reset _ _, sound.tpm⟩
  · exact sound

theorem Sound.resetTpm (sound : state.Sound now) (remaining : Option Nat)
    (reset : Option Python.PyFloat) : (state.resetTpm now remaining reset).Sound now := by
  unfold ProviderRateLimits.resetTpm
  split
  · refine ⟨sound.rpm, ?_⟩
    intro bucket known
    obtain ⟨before, tracked, same⟩ := Option.map_eq_some_iff.mp known
    rw [← same]
    exact (sound.tpm before tracked).reset _ _
  · exact sound

section

variable (readers : RateLimits.Readers) (headers : List (String × String))

theorem Sound.parseBoth (sound : state.Sound now) (requests resets tokens tokenResets : List String) :
    (state.parseBoth readers now headers requests resets tokens tokenResets).1.Sound now := by
  unfold ProviderRateLimits.parseBoth
  dsimp only
  split
  · exact sound
  · exact (sound.resetRpm _ _).resetTpm _ _

theorem Sound.parseGithubHeaders (sound : state.Sound now) :
    (state.parseGithubHeaders readers now headers).1.Sound now := by
  have both : (state.parseOpenaiHeaders readers now headers).1.Sound now :=
    sound.parseBoth readers headers _ _ _ _
  unfold ProviderRateLimits.parseGithubHeaders
  split
  · rename_i parsed fault known
    rw [known] at both
    exact both
  · rename_i parsed cooldown known
    rw [known] at both
    exact both
  · rename_i parsed known
    rw [known] at both
    split
    · exact both
    · exact both.resetRpm _ _

theorem Sound.parseAnthropicHeaders (sound : state.Sound now) :
    (state.parseAnthropicHeaders readers now headers).1.Sound now := by
  unfold ProviderRateLimits.parseAnthropicHeaders
  split
  · exact sound
  · exact sound.resetRpm _ _

end

end ProviderRateLimits

/-! ### The tracker -/

inductive TrackerCall where
  | canRequest (model : String) (estimatedTokens : Int)
  | updateFromHeaders (readers : RateLimits.Readers) (model : String)
      (headers : List (String × String))
  | advance (seconds : ℚ)

namespace RateLimitTracker

variable {tracker : RateLimitTracker}

def step (tracker : RateLimitTracker) : TrackerCall → Option RateLimitTracker
  | .canRequest model estimatedTokens => some (tracker.canRequest model estimatedTokens).2
  | .updateFromHeaders readers model headers =>
      some (tracker.updateFromHeaders readers model headers).1
  | .advance seconds =>
      if 0 ≤ seconds then some { tracker with clock := tracker.clock + seconds } else none

def Sound (tracker : RateLimitTracker) : Prop :=
  ∀ provider state, tracker.providers provider = some state → state.Sound tracker.clock

def SameBudgets (now : ℚ) (before after : ProviderRateLimits) : Prop :=
  after.rpmBucket.refill now = before.rpmBucket.refill now ∧
    (after.tpmBucket.map fun bucket => bucket.refill now) =
      before.tpmBucket.map fun bucket => bucket.refill now

/-- The call leaves every bucket between empty and full, and where it answers no, the budgets
are what filling alone would have left of them. -/
structure Keeps (tracker : RateLimitTracker) (call : TrackerCall) : Prop where
  bounded : ∀ after, tracker.step call = some after →
    ∀ provider state, after.providers provider = some state → state.Bounded
  frame : ∀ model estimatedTokens, call = .canRequest model estimatedTokens →
    (tracker.canRequest model estimatedTokens).1 = false →
      SameBudgets tracker.clock (tracker.getProvider model)
        ((tracker.canRequest model estimatedTokens).2.getProvider model)

/-- Where the request bucket has a token, the token bucket has as many as are estimated; and a
negative estimate fits into the room that the bucket has. -/
def Affords (tracker : RateLimitTracker) : TrackerCall → Prop
  | .canRequest model estimatedTokens =>
      1 ≤ (tracker.getProvider model).rpmBucket.remaining tracker.clock →
        ∀ bucket, (tracker.getProvider model).tpmBucket = some bucket →
          (estimatedTokens : ℚ) ≤ bucket.remaining tracker.clock ∧
            bucket.remaining tracker.clock - estimatedTokens ≤ bucket.capacity
  | _ => True

theorem Sound.getProvider (sound : tracker.Sound) (model : String) :
    (tracker.getProvider model).Sound tracker.clock := by
  unfold RateLimitTracker.getProvider
  dsimp only
  cases known : tracker.providers (extractProvider model) with
  | none => exact ProviderRateLimits.initial_sound _ _
  | some state => exact sound _ _ known

theorem getProvider_setProvider (model : String) (state : ProviderRateLimits) :
    (tracker.setProvider model state).getProvider model = state := by
  simp [getProvider, setProvider]

theorem Sound.setProvider (sound : tracker.Sound) (model : String) {state : ProviderRateLimits}
    (own : state.Sound tracker.clock) : (tracker.setProvider model state).Sound := by
  intro provider found known
  by_cases same : provider = extractProvider model
  · simp only [RateLimitTracker.setProvider, same, Function.update_self] at known
    cases known
    exact own
  · simp only [RateLimitTracker.setProvider, Function.update_of_ne same] at known
    exact sound provider found known

theorem Sound.updateFromHeaders (sound : tracker.Sound) (readers : RateLimits.Readers)
    (model : String) (headers : List (String × String)) :
    (tracker.updateFromHeaders readers model headers).1.Sound := by
  have own := sound.getProvider model
  unfold RateLimitTracker.updateFromHeaders
  dsimp only
  split
  · exact sound.setProvider model ⟨own.rpm, own.tpm⟩
  · apply sound.setProvider model
    split
    · exact own.parseBoth readers headers _ _ _ _
    · split
      · exact own.parseGithubHeaders readers headers
      · split
        · exact own.parseBoth readers headers _ _ _ _
        · split
          · exact own.parseAnthropicHeaders readers headers
          · exact own

/-- How a request is answered, and what it leaves of the buckets of its provider. -/
inductive Answered (now : ℚ) (before : ProviderRateLimits) (estimatedTokens : Int) :
    Bool → ProviderRateLimits → Prop where
  | outOfRequests (short : ¬ 1 ≤ before.rpmBucket.remaining now) :
      Answered now before estimatedTokens false
        { before with rpmBucket := before.rpmBucket.refill now }
  | untracked (enough : 1 ≤ before.rpmBucket.remaining now) (none_ : before.tpmBucket = none) :
      Answered now before estimatedTokens true
        { before with rpmBucket := (before.rpmBucket.consume now 1).2 }
  | outOfTokens (bucket : TokenBucket) (enough : 1 ≤ before.rpmBucket.remaining now)
      (tracked : before.tpmBucket = some bucket)
      (short : ¬ (estimatedTokens : ℚ) ≤ bucket.remaining now) :
      Answered now before estimatedTokens false
        { before with
          rpmBucket := (before.rpmBucket.consume now 1).2
          tpmBucket := some (bucket.refill now) }
  | granted (bucket : TokenBucket) (enough : 1 ≤ before.rpmBucket.remaining now)
      (tracked : before.tpmBucket = some bucket)
      (covered : (estimatedTokens : ℚ) ≤ bucket.remaining now) :
      Answered now before estimatedTokens true
        { before with
          rpmBucket := (before.rpmBucket.consume now 1).2
          tpmBucket := some (bucket.consume now estimatedTokens).2 }

theorem canRequest_answered (tracker : RateLimitTracker) (model : String) (estimatedTokens : Int) :
    ∃ after, Answered tracker.clock (tracker.getProvider model) estimatedTokens
        (tracker.canRequest model estimatedTokens).1 after ∧
      (tracker.canRequest model estimatedTokens).2 = tracker.setProvider model after := by
  unfold canRequest
  dsimp only
  by_cases enough : 1 ≤ (tracker.getProvider model).rpmBucket.remaining tracker.clock
  · have one : (((1 : Int) : ℚ) ≤ (tracker.getProvider model).rpmBucket.remaining tracker.clock) := by
      rw [Int.cast_one]
      exact enough
    have allowed : ((tracker.getProvider model).rpmBucket.consume tracker.clock 1).1 = true := by
      rw [TokenBucket.consume_granted one]
    rw [allowed]
    cases tracked : (tracker.getProvider model).tpmBucket with
    | none =>
        refine ⟨_, .untracked enough tracked, ?_⟩
        rw [tracked]
        rfl
    | some bucket =>
        by_cases covered : (estimatedTokens : ℚ) ≤ bucket.remaining tracker.clock
        · have granted : (bucket.consume tracker.clock estimatedTokens).1 = true := by
            rw [TokenBucket.consume_granted covered]
          refine ⟨_, ?_, rfl⟩
          simp only [granted]
          exact .granted bucket enough tracked covered
        · refine ⟨_, ?_, rfl⟩
          simp only [TokenBucket.consume_denied covered]
          exact .outOfTokens bucket enough tracked covered
  · have short : ¬ (((1 : Int) : ℚ) ≤
        (tracker.getProvider model).rpmBucket.remaining tracker.clock) := by
      rw [Int.cast_one]
      exact enough
    rw [TokenBucket.consume_denied short]
    exact ⟨_, .outOfRequests enough, rfl⟩

theorem canRequest_clock (tracker : RateLimitTracker) (model : String) (estimatedTokens : Int) :
    (tracker.canRequest model estimatedTokens).2.clock = tracker.clock := by
  obtain ⟨after, _, same⟩ := canRequest_answered tracker model estimatedTokens
  rw [same]
  rfl

/-! ### One call -/

theorem Sound.canRequest (sound : tracker.Sound) {model : String} {estimatedTokens : Int}
    (affords : tracker.Affords (.canRequest model estimatedTokens)) :
    (tracker.canRequest model estimatedTokens).2.Sound := by
  have own := sound.getProvider model
  obtain ⟨after, answered, same⟩ := canRequest_answered tracker model estimatedTokens
  rw [same]
  apply sound.setProvider
  generalize (tracker.canRequest model estimatedTokens).1 = answer at answered
  cases answered with
  | outOfRequests short => exact ⟨own.rpm.refill, own.tpm⟩
  | untracked enough none_ => exact ⟨own.rpm.consume_one, own.tpm⟩
  | outOfTokens bucket enough tracked short =>
      exact absurd (affords enough bucket tracked).1 short
  | granted bucket enough tracked covered =>
      refine ⟨own.rpm.consume_one, ?_⟩
      intro found known
      cases known
      exact (own.tpm bucket tracked).consume fun _ => (affords enough bucket tracked).2

theorem Sound.step (sound : tracker.Sound) {call : TrackerCall} {after : RateLimitTracker}
    (affords : tracker.Affords call) (taken : tracker.step call = some after) : after.Sound := by
  cases call with
  | canRequest model estimatedTokens =>
      cases taken
      exact sound.canRequest affords
  | updateFromHeaders readers model headers =>
      cases taken
      exact sound.updateFromHeaders readers model headers
  | advance seconds =>
      simp only [RateLimitTracker.step] at taken
      split at taken
      · rename_i forward
        cases taken
        intro provider state known
        exact (sound provider state known).later (by dsimp only; linarith)
      · cases taken

theorem not_sameBudgets {now : ℚ} {before after : ProviderRateLimits}
    (charged : after.rpmBucket = (before.rpmBucket.consume now 1).2)
    (enough : 1 ≤ before.rpmBucket.remaining now) :
    ¬ SameBudgets now before after := by
  intro same
  have one : (((1 : Int) : ℚ) ≤ before.rpmBucket.remaining now) := by
    rw [Int.cast_one]
    exact enough
  have tokens : after.rpmBucket.remaining now = before.rpmBucket.remaining now :=
    congrArg TokenBucket.tokens same.1
  rw [charged, TokenBucket.remaining_consumed one] at tokens
  have spent := min_le_right (before.rpmBucket.capacity : ℚ)
    (before.rpmBucket.remaining now - ((1 : Int) : ℚ))
  rw [tokens, Int.cast_one] at spent
  linarith

theorem keeps_iff (sound : tracker.Sound) (call : TrackerCall) :
    tracker.Keeps call ↔ tracker.Affords call := by
  constructor
  · intro keeps
    cases call with
    | canRequest model estimatedTokens =>
        intro enough bucket tracked
        obtain ⟨after, answered, same⟩ := canRequest_answered tracker model estimatedTokens
        have frame := keeps.frame model estimatedTokens rfl
        have bounded := keeps.bounded _ rfl (extractProvider model) after
        rw [same] at bounded frame
        rw [getProvider_setProvider] at frame
        cases answer : (tracker.canRequest model estimatedTokens).1 with
        | false =>
            rw [answer] at answered
            cases answered with
            | outOfRequests short => exact absurd enough short
            | outOfTokens other _ _ short =>
                exact absurd (frame answer) (not_sameBudgets rfl enough)
        | true =>
            rw [answer] at answered
            cases answered with
            | untracked _ none_ =>
                rw [none_] at tracked
                cases tracked
            | granted other _ known covered =>
                cases tracked.symm.trans known
                refine ⟨covered, ?_⟩
                have full := (bounded (Function.update_self _ _ _)).tpm _ rfl
                rw [TokenBucket.consume_granted covered] at full
                exact full.full
    | updateFromHeaders readers model headers => trivial
    | advance seconds => trivial
  · intro affords
    constructor
    · intro after taken provider state known
      exact (sound.step affords taken provider state known).bounded
    · intro model estimatedTokens isRequest denied
      subst isRequest
      have own := sound.getProvider model
      obtain ⟨after, answered, same⟩ := canRequest_answered tracker model estimatedTokens
      rw [same, getProvider_setProvider]
      rw [denied] at answered
      cases answered with
      | outOfRequests short => exact ⟨own.rpm.refill_refill, rfl⟩
      | outOfTokens bucket enough tracked short =>
          exact absurd (affords enough bucket tracked).1 short

/-- Over every run of calls on a fresh tracker: each call leaves the buckets between empty and
full and each denial leaves the budgets alone, if and only if no call asks a token bucket for more
than it has while the request bucket has a token, or gives it back more than it can hold. -/
theorem denial_keeps_budgets_iff (start : ℚ) (calls : List TrackerCall) :
    Transition.Along step Keeps { clock := start } calls ↔
      Transition.Along step Affords { clock := start } calls := by
  have fresh : Sound { clock := start } := by
    intro provider state known
    cases known
  exact Transition.along_iff (fun tracker call sound => keeps_iff sound call)
    (fun tracker call after sound affords taken => sound.step affords taken) fresh

/-- The second of two requests asks for tokens that the first has used up, and costs a request. -/
theorem denied_request_charged :
    (canRequest (canRequest {} "openai:gpt-4o" 90000).2 "openai:gpt-4o" 1000).1 = false ∧
      ((canRequest {} "openai:gpt-4o" 90000).2.getProvider "openai:gpt-4o").rpmBucket.remaining 0 =
        59 ∧
      ((canRequest (canRequest {} "openai:gpt-4o" 90000).2 "openai:gpt-4o" 1000).2.getProvider
        "openai:gpt-4o").rpmBucket.remaining 0 = 58 ∧
      ¬ Transition.Along step Keeps {} [.canRequest "openai:gpt-4o" 90000,
        .canRequest "openai:gpt-4o" 1000] := by
  have counts : (canRequest (canRequest {} "openai:gpt-4o" 90000).2 "openai:gpt-4o" 1000).1 =
        false ∧
      ((canRequest {} "openai:gpt-4o" 90000).2.getProvider "openai:gpt-4o").rpmBucket.remaining 0 =
        59 ∧
      ((canRequest (canRequest {} "openai:gpt-4o" 90000).2 "openai:gpt-4o" 1000).2.getProvider
        "openai:gpt-4o").rpmBucket.remaining 0 = 58 := by
    decide +kernel
  obtain ⟨denied, before, after⟩ := counts
  refine ⟨denied, before, after, ?_⟩
  intro kept
  have frame := kept.2.1.frame "openai:gpt-4o" 1000 rfl denied
  have same := congrArg TokenBucket.tokens frame.1
  rw [canRequest_clock] at same
  change TokenBucket.remaining _ 0 = TokenBucket.remaining _ 0 at same
  rw [after, before] at same
  norm_num at same

end RateLimitTracker

end AgenticRuntime
