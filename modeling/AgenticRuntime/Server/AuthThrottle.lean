/-
The lockout of clients that fail to authenticate.

The state of the throttle is a dict by client, and any request drops entries of any
client from it.  A call carries the time the clock gave it.
-/

import Mathlib.Algebra.Order.Field.Rat
import Mathlib.Data.List.Basic
import Mathlib.Data.List.Induction
import Mathlib.Data.Rat.Cast.Order
import Mathlib.Tactic.Linarith

namespace AgenticRuntime

/-! ### auth.py -/

structure AuthThrottle where
  window : Rat
  threshold : Nat
  lockout : Rat

namespace AuthThrottle

/-- `_ThrottleState`, the failures with the oldest first. -/
structure ThrottleState where
  failures : List Rat := []
  lockedUntil : Option Rat := none
  deriving DecidableEq, Repr

abbrev Entries := String → Option ThrottleState

def Entries.set (entries : Entries) (ip : String) (entry : Option ThrottleState) : Entries :=
  fun other => if other = ip then entry else entries other

section

variable (throttle : AuthThrottle)

def expired (now : Rat) (state : ThrottleState) : Bool :=
  (match state.lockedUntil with
    | none => true
    | some release => release ≤ now) &&
  (match state.failures.getLast? with
    | none => true
    | some last => last ≤ now - throttle.window)

def evictExpired (now : Rat) (entries : Entries) : Entries :=
  fun ip => (entries ip).filter fun state => !expired throttle now state

/-- `is_locked`, with the state it leaves. -/
def isLocked (entries : Entries) (ip : String) (now : Rat) : (Bool × Rat) × Entries :=
  let entries := evictExpired throttle now entries
  match entries ip with
  | none => ((false, 0), entries)
  | some state =>
      match state.lockedUntil with
      | none => ((false, 0), entries)
      | some release =>
          let remaining := release - now
          if 0 < remaining then ((true, remaining), entries)
          else ((false, 0), entries.set ip (some { failures := [], lockedUntil := none }))

/-- The entry after `record_failure`. -/
def failed (entry : Option ThrottleState) (now : Rat) : ThrottleState :=
  let state := entry.getD {}
  let cutoff := now - throttle.window
  let failures := state.failures.dropWhile (fun time => time ≤ cutoff) ++ [now]
  if throttle.threshold ≤ failures.length then
    { failures := [], lockedUntil := some (now + throttle.lockout) }
  else { failures := failures, lockedUntil := state.lockedUntil }

def recordFailure (entries : Entries) (ip : String) (now : Rat) : Entries :=
  entries.set ip (some (failed throttle (entries ip) now))

def recordSuccess (entries : Entries) (ip : String) : Entries := entries.set ip none

end

/-! ### Runs -/

inductive Kind where
  | check
  | failure
  | success
  deriving DecidableEq, Repr

structure Call where
  ip : String
  time : Rat
  kind : Kind
  deriving DecidableEq, Repr

def step (throttle : AuthThrottle) (entries : Entries) (call : Call) : Entries :=
  match call.kind with
  | .check => (isLocked throttle entries call.ip call.time).2
  | .failure => recordFailure throttle entries call.ip call.time
  | .success => recordSuccess entries call.ip

def after (throttle : AuthThrottle) (calls : List Call) : Entries :=
  calls.foldl (step throttle) fun _ => none

/-- The calls are those of requests: each records its outcome once, after a check of its
client that found no lockout. -/
def ofRequests (throttle : AuthThrottle) : Entries → (String → Nat) → List Call → Bool
  | _, _, [] => true
  | entries, waiting, call :: rest =>
      let next := step throttle entries call
      match call.kind with
      | .check =>
          if (isLocked throttle entries call.ip call.time).1.1 then
            ofRequests throttle next waiting rest
          else
            ofRequests throttle next
              (fun ip => if ip = call.ip then waiting ip + 1 else waiting ip) rest
      | .failure => 0 < waiting call.ip && ofRequests throttle next
          (fun ip => if ip = call.ip then waiting ip - 1 else waiting ip) rest
      | .success => 0 < waiting call.ip && ofRequests throttle next
          (fun ip => if ip = call.ip then waiting ip - 1 else waiting ip) rest

/-! ### Lockouts of one client -/

structure Own where
  time : Rat
  kind : Kind
  deriving DecidableEq, Repr

def own (ip : String) (calls : List Call) : List Own :=
  ((calls.filter fun call => call.ip = ip).map fun call => ⟨call.time, call.kind⟩).reverse

/-- The lockouts with no later success by the time they began, and the failures since the last
of them, the newest first. -/
structure Digest where
  lockouts : List Rat
  pending : List Rat

section

variable (throttle : AuthThrottle)

/-- The failure at `time` counts at `now`: it is inside the window, and not from before the end
of the last lockout, if that has ended. -/
def Counts (digest : Digest) (now time : Rat) : Prop :=
  now - throttle.window < time ∧
    ∀ begun, begun ∈ digest.lockouts.head? → begun + throttle.lockout ≤ now →
      begun + throttle.lockout ≤ time

instance (digest : Digest) (now time : Rat) : Decidable (throttle.Counts digest now time) :=
  inferInstanceAs (Decidable (_ ∧ _))

def counted (digest : Digest) (now : Rat) : List Rat :=
  digest.pending.filter fun time => throttle.Counts digest now time

/-- A failure at `now` triggers a lockout. -/
def Triggers (digest : Digest) (now : Rat) : Prop :=
  throttle.threshold ≤ (throttle.counted digest now).length + 1

instance (digest : Digest) (now : Rat) : Decidable (throttle.Triggers digest now) :=
  inferInstanceAs (Decidable (_ ≤ _))

def digest : List Own → Digest
  | [] => ⟨[], []⟩
  | call :: history =>
      let past := digest history
      match call.kind with
      | .check => past
      | .success => ⟨[], []⟩
      | .failure =>
          if throttle.Triggers past call.time then ⟨call.time :: past.lockouts, []⟩
          else ⟨past.lockouts, call.time :: past.pending⟩

/-- Some lockout that no success has lifted is on at `now`. -/
def LockedAt (history : List Own) (now : Rat) : Prop :=
  ∃ begun, begun ∈ (throttle.digest history).lockouts ∧ begun ≤ now ∧
    now < begun + throttle.lockout

instance (history : List Own) (now : Rat) : Decidable (throttle.LockedAt history now) :=
  inferInstanceAs (Decidable (∃ begun, begun ∈ _ ∧ _))

/-- The end of the last lockout, until the client asks at that time or later. -/
def unnoticed : List Own → Option Rat
  | [] => none
  | call :: history =>
      match call.kind with
      | .check => (unnoticed history).filter fun release => call.time < release
      | .success => none
      | .failure =>
          if throttle.Triggers (throttle.digest history) call.time then
            some (call.time + throttle.lockout)
          else unnoticed history

/-- No failure is recorded between the end of a lockout and the client's next check. -/
def Noticed : List Own → Prop
  | [] => True
  | call :: history => Noticed history ∧
      (call.kind = .failure → ∀ release, release ∈ throttle.unnoticed history →
        call.time < release)

end

end AuthThrottle

end AgenticRuntime
