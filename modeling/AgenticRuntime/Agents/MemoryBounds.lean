/-
What a conversation memory stays within, over any calls.

A summary that is added is paid for in one of two ways: it fits beside what is kept, or what is
kept leaves the half of the budget that the summaries are cut to.
-/

import AgenticRuntime.Agents.ConversationMemory
import AgenticRuntime.Transition
import Mathlib.Algebra.Order.BigOperators.Group.List

namespace AgenticRuntime

open Python
open List hiding not_lt

namespace ConversationMemory

variable {Moment : Type}

/-! ### Costs -/

section

variable {tokenCounter : Option (String → Option Int)} {limit : Int}

theorem tokensOf_append (first second : List String) :
    tokensOf tokenCounter (first ++ second) =
      tokensOf tokenCounter first + tokensOf tokenCounter second := by
  unfold tokensOf
  rw [map_append, sum_append]

theorem tokensOf_le_of_sublist (tokenCounter : Option (String → Option Int))
    {fewer texts : List String} (sub : fewer.Sublist texts) :
    tokensOf tokenCounter fewer ≤ tokensOf tokenCounter texts := by
  unfold tokensOf
  exact (sub.map _).sum_le_sum (fun _ _ => Nat.zero_le _)

theorem dropOldest_sublist (tokenCounter : Option (String → Option Int)) (limit : Int)
    (texts : List String) :
    (dropOldest tokenCounter limit texts).Sublist texts := by
  induction texts with
  | nil => exact List.Sublist.refl _
  | cons text rest ih =>
      unfold dropOldest
      split
      · exact ih.cons text
      · exact List.Sublist.refl _

theorem dropOldest_cost (nonneg : 0 ≤ limit) (texts : List String) :
    (tokensOf tokenCounter (dropOldest tokenCounter limit texts) : Int) ≤ limit := by
  induction texts with
  | nil => exact nonneg
  | cons text rest ih =>
      unfold dropOldest
      split
      · exact ih
      · rename_i within
        omega

theorem lastSlice_sublist {α : Type} (count : Int) (items : List α) :
    (lastSlice count items).Sublist items := by
  unfold lastSlice
  split
  · exact drop_sublist _ _
  · exact drop_sublist _ _

theorem lastSlice_length {α : Type} {count : Int} (positive : 0 < count) (items : List α) :
    ((lastSlice count items).length : Int) ≤ count := by
  unfold lastSlice
  rw [if_pos positive, length_drop]
  omega

end

/-! ### Adding a summary -/

/-- What `appendSummary` leaves of the summaries. -/
structure Appended (memory : ConversationMemory Moment) (text : String) (left : List String) :
    Prop where
  blank : text = "" → left = memory.summaries
  sub : left.Sublist (memory.summaries ++ [text])
  few : text ≠ "" → 0 < memory.maxSummaries → (left.length : Int) ≤ memory.maxSummaries
  half : text ≠ "" → 0 ≤ memory.maxTokens →
    (tokensOf memory.tokenCounter left : Int) ≤ memory.maxTokens / 2

variable (memory : ConversationMemory Moment)

theorem appendSummary_spec (text : String) :
    ∃ left, memory.appendSummary text = { memory with summaries := left } ∧
      Appended memory text left := by
  unfold appendSummary
  by_cases blank : text = ""
  · rw [if_pos blank]
    refine ⟨memory.summaries, rfl, ?_⟩
    constructor
    · intro _
      rfl
    · exact sublist_append_left _ _
    · intro written
      exact absurd blank written
    · intro written
      exact absurd blank written
  · rw [if_neg blank]
    refine ⟨_, rfl, ?_⟩
    constructor
    · intro empty
      exact absurd empty blank
    · refine (dropOldest_sublist _ _ _).trans ?_
      split
      · exact lastSlice_sublist _ _
      · exact List.Sublist.refl _
    · intro _ positive
      have fewer := (dropOldest_sublist memory.tokenCounter (memory.maxTokens / 2)
        (if memory.maxSummaries < (memory.summaries ++ [text]).length then
          lastSlice memory.maxSummaries (memory.summaries ++ [text])
        else memory.summaries ++ [text])).length_le
      refine (Int.ofNat_le.mpr fewer).trans ?_
      split
      · exact lastSlice_length positive _
      · rename_i within
        exact not_lt.mp within
    · intro _ nonneg
      exact dropOldest_cost (Int.ediv_nonneg nonneg (by decide)) _

/-! ### What stays of the window -/

/-- What is left of the messages, with the first system message while anything is left. -/
structure Remains (messages left : List (ConversationMessage Moment)) : Prop where
  sub : left.Sublist messages
  system : left ≠ [] → left.find? isSystem = messages.find? isSystem

namespace Remains

variable {messages left last : List (ConversationMessage Moment)}

theorem refl (messages : List (ConversationMessage Moment)) : Remains messages messages :=
  ⟨List.Sublist.refl messages, fun _ => rfl⟩

theorem trans (first : Remains messages left) (second : Remains left last) :
    Remains messages last := by
  constructor
  · exact second.sub.trans first.sub
  · intro present
    have between : left ≠ [] := by
      intro empty
      apply present
      have shorter := second.sub
      rw [empty] at shorter
      exact sublist_nil.mp shorter
    exact (second.system present).trans (first.system between)

theorem length_le (remains : Remains messages left) : left.length ≤ messages.length :=
  remains.sub.length_le

theorem cost (remains : Remains messages left) (tokenCounter : Option (String → Option Int)) :
    tokensOf tokenCounter (contents left) ≤ tokensOf tokenCounter (contents messages) :=
  tokensOf_le_of_sublist tokenCounter (remains.sub.map _)

end Remains

theorem popOldest_cons (first second : ConversationMessage Moment)
    (rest : List (ConversationMessage Moment)) :
    popOldest (first :: second :: rest) =
      if isSystem first then some (second, first :: rest) else some (first, second :: rest) := rfl

theorem popOldest_remains {messages left : List (ConversationMessage Moment)}
    {popped : ConversationMessage Moment} (taken : popOldest messages = some (popped, left)) :
    Remains messages left ∧ left.length + 1 = messages.length := by
  match messages, taken with
  | [only], taken =>
      cases taken
      refine ⟨⟨nil_sublist _, ?_⟩, rfl⟩
      intro present
      exact absurd rfl present
  | first :: second :: rest, taken =>
      rw [popOldest_cons] at taken
      split at taken
      · rename_i system
        cases taken
        refine ⟨⟨(sublist_cons_self popped rest).cons_cons first, ?_⟩, rfl⟩
        intro _
        rw [List.find?_cons_of_pos system, List.find?_cons_of_pos system]
      · rename_i other
        cases taken
        refine ⟨⟨sublist_cons_self popped _, ?_⟩, rfl⟩
        intro _
        exact (List.find?_cons_of_neg other).symm

theorem popOldest_none {messages : List (ConversationMessage Moment)}
    (taken : popOldest messages = none) : messages = [] := by
  match messages, taken with
  | [], _ => rfl
  | first :: second :: rest, taken =>
      rw [popOldest_cons] at taken
      split at taken
      · cases taken
      · cases taken

theorem moveOut_spec (bound : Nat) (memory : ConversationMemory Moment)
    (enough : memory.messages.length ≤ bound) :
    ∃ left, (moveOut bound memory).1 = { memory with messages := left } ∧
      Remains memory.messages left ∧
      (left = [] ∨ ¬ OverLimits { memory with messages := left }) := by
  induction bound generalizing memory with
  | zero =>
      refine ⟨memory.messages, rfl, Remains.refl _, .inl ?_⟩
      exact length_eq_zero_iff.mp (Nat.le_zero.mp enough)
  | succ bound ih =>
      unfold moveOut
      split
      · cases taken : popOldest memory.messages with
        | none => exact ⟨memory.messages, rfl, Remains.refl _, .inl (popOldest_none taken)⟩
        | some popped =>
            obtain ⟨remains, shorter⟩ := popOldest_remains taken
            obtain ⟨left, same, later, within⟩ :=
              ih { memory with messages := popped.2 } (by dsimp only; omega)
            exact ⟨left, same, remains.trans later, within⟩
      · rename_i within
        exact ⟨memory.messages, rfl, Remains.refl _, .inr within⟩

section

variable (same : ConversationMessage Moment → ConversationMessage Moment → Bool)

theorem splitWindow_nil (keep : Nat) : splitWindow same keep [] = ([], []) := by
  unfold splitWindow
  rw [take_nil, drop_nil]
  rfl

def NoTwin (keep : Nat) (messages : List (ConversationMessage Moment)) : Prop :=
  ∀ system, (messages.take (messages.length - keep)).find? isSystem = some system →
    (messages.drop (messages.length - keep)).any (same system) = false

theorem splitWindow_sublist (keep : Nat) (messages : List (ConversationMessage Moment)) :
    (splitWindow same keep messages).1.Sublist messages := by
  unfold splitWindow
  dsimp only
  cases found : (messages.take (messages.length - keep)).find? isSystem with
  | none => exact drop_sublist _ _
  | some system =>
      dsimp only
      split
      · exact drop_sublist _ _
      · have older : [system].Sublist (messages.take (messages.length - keep)) :=
          singleton_sublist.mpr (mem_of_find?_eq_some found)
        have both := older.append (List.Sublist.refl (messages.drop (messages.length - keep)))
        rw [take_append_drop] at both
        exact both

theorem splitWindow_remains {keep : Nat} {messages : List (ConversationMessage Moment)}
    (noTwin : NoTwin same keep messages) :
    Remains messages (splitWindow same keep messages).1 := by
  have searched : messages.find? isSystem =
      ((messages.take (messages.length - keep)).find? isSystem).or
        ((messages.drop (messages.length - keep)).find? isSystem) := by
    rw [← List.find?_append, take_append_drop]
  constructor
  · exact splitWindow_sublist same keep messages
  · intro _
    unfold splitWindow
    dsimp only
    cases found : (messages.take (messages.length - keep)).find? isSystem with
    | none =>
        rw [found, Option.none_or] at searched
        exact searched.symm
    | some system =>
        rw [found, Option.some_or] at searched
        dsimp only
        rw [if_neg (by rw [noTwin system found]; decide), searched]
        exact List.find?_cons_of_pos (List.find?_some found)

end

/-! ### The bounds -/

structure Limits (memory : ConversationMemory Moment) : Prop where
  messages : 0 ≤ memory.maxMessages
  tokens : 0 ≤ memory.maxTokens
  summaries : 0 ≤ memory.maxSummaries

structure Bounded (memory : ConversationMemory Moment) : Prop where
  messages : (memory.messages.length : Int) ≤ memory.maxMessages
  tokens : (memory.totalTokens : Int) ≤ memory.maxTokens
  summaries : (memory.summaries.length : Int) ≤ memory.maxSummaries

structure SummariesBounded (memory : ConversationMemory Moment) : Prop where
  few : (memory.summaries.length : Int) ≤ memory.maxSummaries
  cost : (tokensOf memory.tokenCounter memory.summaries : Int) ≤ memory.maxTokens

def Slot (text : String) : Prop :=
  text = "" ∨ 0 < memory.maxSummaries

/-- A summary fits beside what is kept, or what is kept leaves the half that the summaries are
cut to. -/
def Fits (text : String) : Prop :=
  text = "" ∨ 0 < memory.maxSummaries ∧
    ((memory.totalTokens + estimateTokens memory.tokenCounter text : Int) ≤ memory.maxTokens ∨
      (tokensOf memory.tokenCounter (contents memory.messages) : Int) ≤
        memory.maxTokens - memory.maxTokens / 2)

section

variable {memory : ConversationMemory Moment} {text : String}

theorem Bounded.toSummaries (bounded : memory.Bounded) : memory.SummariesBounded := by
  constructor
  · exact bounded.summaries
  · have total := bounded.tokens
    unfold totalTokens at total
    omega

theorem appendSummary_summaries (limits : memory.Limits) (bounded : memory.SummariesBounded)
    (slot : memory.Slot text) : (memory.appendSummary text).SummariesBounded := by
  obtain ⟨left, same, appended⟩ := appendSummary_spec memory text
  rw [same]
  by_cases blank : text = ""
  · rw [appended.blank blank]
    exact bounded
  · have positive := slot.resolve_left blank
    constructor
    · exact appended.few blank positive
    · have cut := appended.half blank limits.tokens
      have half := limits.tokens
      dsimp only
      omega

theorem appendSummary_bounded (limits : memory.Limits) (bounded : memory.Bounded)
    (fits : memory.Fits text) : (memory.appendSummary text).Bounded := by
  obtain ⟨left, same, appended⟩ := appendSummary_spec memory text
  rw [same]
  by_cases blank : text = ""
  · rw [appended.blank blank]
    exact bounded
  · obtain ⟨positive, room⟩ := fits.resolve_left blank
    constructor
    · exact bounded.messages
    · change (tokensOf memory.tokenCounter (contents memory.messages) +
        tokensOf memory.tokenCounter left : Int) ≤ memory.maxTokens
      rcases room with beside | kept
      · have fewer := tokensOf_le_of_sublist memory.tokenCounter appended.sub
        rw [tokensOf_append] at fewer
        have one : tokensOf memory.tokenCounter [text] =
            estimateTokens memory.tokenCounter text := sum_singleton
        unfold totalTokens at beside
        omega
      · have cut := appended.half blank limits.tokens
        omega
    · exact appended.few blank positive

theorem moveOut_bounded (limits : memory.Limits) (bounded : memory.SummariesBounded) :
    (moveOut memory.messages.length memory).1.Bounded := by
  obtain ⟨left, same, _, within⟩ := moveOut_spec memory.messages.length memory le_rfl
  rw [same]
  rcases within with empty | within
  · subst empty
    constructor
    · exact limits.messages
    · have cost := bounded.cost
      change ((0 + tokensOf memory.tokenCounter memory.summaries : Nat) : Int) ≤ memory.maxTokens
      omega
    · exact bounded.few
  · obtain ⟨count, total⟩ := not_or.mp within
    exact ⟨not_lt.mp count, not_lt.mp total, bounded.few⟩

theorem Bounded.remains {left : List (ConversationMessage Moment)} (bounded : memory.Bounded)
    (remains : Remains memory.messages left) : Bounded { memory with messages := left } := by
  constructor
  · have fewer := remains.length_le
    have count := bounded.messages
    dsimp only
    omega
  · have cheaper := remains.cost memory.tokenCounter
    have total := bounded.tokens
    unfold totalTokens at total ⊢
    dsimp only
    omega
  · exact bounded.summaries

end

/-! ### One call -/

inductive Call (Moment : Type) where
  | add (message : ConversationMessage Moment)
  | compact (keepRecent : Option Int)

def grown (message : ConversationMessage Moment) :
    ConversationMemory Moment := { memory with messages := memory.messages ++ [message] }

theorem grown_present (message : ConversationMessage Moment) :
    (memory.grown message).messages ≠ [] :=
  append_ne_nil_of_right_ne_nil memory.messages (cons_ne_nil message [])

def trimKeep : Nat := (max 4 (memory.maxMessages / 2)).toNat

def compactKeep (keepRecent : Option Int) : Nat :=
  (max 0 (keepRecent.getD (max 2 (memory.maxMessages / 4)))).toNat

section

variable (same : ConversationMessage Moment → ConversationMessage Moment → Bool)
  (summarise : List (ConversationMessage Moment) → String)

def cut (keep : Nat) (memory : ConversationMemory Moment) : ConversationMemory Moment :=
  let split := splitWindow same keep memory.messages
  { memory with messages := split.1 }.appendSummary (summarise split.2)

def budgeted (memory : ConversationMemory Moment) :
    ConversationMemory Moment × List (ConversationMessage Moment) :=
  let memory := cut same summarise memory.trimKeep memory
  moveOut memory.messages.length memory

theorem summarizeAndTrim_eq {memory : ConversationMemory Moment} (present : memory.messages ≠ []) :
    memory.summarizeAndTrim same summarise =
      (budgeted same summarise memory).1.appendSummary
        (summarise (budgeted same summarise memory).2) := by
  unfold summarizeAndTrim
  rw [if_neg (by rw [List.isEmpty_iff]; exact present)]
  rfl

theorem compact_eq (memory : ConversationMemory Moment) (keepRecent : Option Int) :
    (memory.compact same summarise keepRecent).1 =
      if (splitWindow same (memory.compactKeep keepRecent) memory.messages).2 = [] then memory
      else cut same summarise (memory.compactKeep keepRecent) memory := by
  unfold compact
  by_cases empty : memory.messages = []
  · rw [if_pos (List.isEmpty_iff.mpr empty), empty, splitWindow_nil, if_pos rfl]
  · rw [if_neg (by rw [List.isEmpty_iff]; exact empty)]
    by_cases nothing : (splitWindow same (memory.compactKeep keepRecent) memory.messages).2 = []
    · rw [if_pos nothing]
      exact congrArg Prod.fst (if_pos (List.isEmpty_iff.mpr nothing))
    · rw [if_neg nothing]
      exact congrArg Prod.fst (if_neg (by rw [List.isEmpty_iff]; exact nothing))

/-- When the trimming that an added message starts stays within the bounds. -/
structure TrimFits (memory : ConversationMemory Moment) : Prop where
  noTwin : NoTwin same memory.trimKeep memory.messages
  slot : memory.Slot (summarise (splitWindow same memory.trimKeep memory.messages).2)
  fits : (budgeted same summarise memory).1.Fits (summarise (budgeted same summarise memory).2)

structure CompactFits (memory : ConversationMemory Moment) (keep : Nat) : Prop where
  noTwin : NoTwin same keep memory.messages
  fits : Fits { memory with messages := (splitWindow same keep memory.messages).1 }
    (summarise (splitWindow same keep memory.messages).2)

def CallFits (memory : ConversationMemory Moment) : Call Moment → Prop
  | .add message =>
      (memory.grown message).OverLimits → TrimFits same summarise (memory.grown message)
  | .compact keepRecent =>
      (splitWindow same (memory.compactKeep keepRecent) memory.messages).2 ≠ [] →
        CompactFits same summarise memory (memory.compactKeep keepRecent)

variable {memory : ConversationMemory Moment}

theorem cut_spec (keep : Nat) (memory : ConversationMemory Moment) :
    ∃ left summaries, cut same summarise keep memory =
        { memory with messages := left, summaries := summaries } ∧
      left.Sublist memory.messages ∧
      (NoTwin same keep memory.messages → Remains memory.messages left) := by
  obtain ⟨left, shape, _⟩ := appendSummary_spec
    { memory with messages := (splitWindow same keep memory.messages).1 }
    (summarise (splitWindow same keep memory.messages).2)
  exact ⟨_, left, shape, splitWindow_sublist same keep memory.messages, splitWindow_remains same⟩

theorem summarizeAndTrim_spec (present : memory.messages ≠ []) :
    ∃ left summaries, memory.summarizeAndTrim same summarise =
        { memory with messages := left, summaries := summaries } ∧
      left.Sublist memory.messages ∧
      (NoTwin same memory.trimKeep memory.messages → Remains memory.messages left) := by
  obtain ⟨kept, first, shape, sub, remains⟩ := cut_spec same summarise memory.trimKeep memory
  rw [summarizeAndTrim_eq same summarise present]
  obtain ⟨left, moved, fewer, _⟩ := moveOut_spec
    (cut same summarise memory.trimKeep memory).messages.length
    (cut same summarise memory.trimKeep memory) le_rfl
  obtain ⟨second, written, _⟩ := appendSummary_spec (budgeted same summarise memory).1
    (summarise (budgeted same summarise memory).2)
  have loop : (budgeted same summarise memory).1 =
      { cut same summarise memory.trimKeep memory with messages := left } := moved
  rw [shape] at fewer
  rw [written, loop, shape]
  exact ⟨left, second, rfl, fewer.sub.trans sub, fun noTwin => (remains noTwin).trans fewer⟩

theorem add_spec (memory : ConversationMemory Moment) (message : ConversationMessage Moment) :
    ∃ left summaries, memory.add same summarise message =
        { memory with messages := left, summaries := summaries } ∧
      left.Sublist (memory.messages ++ [message]) := by
  change ∃ left summaries, (if (memory.grown message).OverLimits then
      (memory.grown message).summarizeAndTrim same summarise
    else memory.grown message) = { memory with messages := left, summaries := summaries } ∧
      left.Sublist (memory.grown message).messages
  split
  · obtain ⟨left, summaries, shape, sub, _⟩ :=
      summarizeAndTrim_spec same summarise (grown_present memory message)
    exact ⟨left, summaries, shape, sub⟩
  · exact ⟨_, memory.summaries, rfl, List.Sublist.refl _⟩

theorem compact_spec (memory : ConversationMemory Moment) (keepRecent : Option Int) :
    ∃ left summaries, (memory.compact same summarise keepRecent).1 =
        { memory with messages := left, summaries := summaries } ∧
      left.Sublist memory.messages := by
  rw [compact_eq]
  split
  · exact ⟨memory.messages, memory.summaries, rfl, List.Sublist.refl _⟩
  · obtain ⟨left, summaries, shape, sub, _⟩ := cut_spec same summarise
      (memory.compactKeep keepRecent) memory
    exact ⟨left, summaries, shape, sub⟩

variable {same summarise}

theorem summarizeAndTrim_bounded (limits : memory.Limits) (bounded : memory.SummariesBounded)
    (present : memory.messages ≠ []) (fits : TrimFits same summarise memory) :
    (memory.summarizeAndTrim same summarise).Bounded := by
  obtain ⟨kept, first, shape, _⟩ := cut_spec same summarise memory.trimKeep memory
  have summaries : (cut same summarise memory.trimKeep memory).SummariesBounded :=
    appendSummary_summaries ⟨limits.messages, limits.tokens, limits.summaries⟩
      ⟨bounded.few, bounded.cost⟩ fits.slot
  have cutLimits : (cut same summarise memory.trimKeep memory).Limits := by
    rw [shape]
    exact ⟨limits.messages, limits.tokens, limits.summaries⟩
  obtain ⟨left, moved, _⟩ := moveOut_spec
    (cut same summarise memory.trimKeep memory).messages.length
    (cut same summarise memory.trimKeep memory) le_rfl
  have loopLimits : (budgeted same summarise memory).1.Limits := by
    have loop : (budgeted same summarise memory).1 =
        { cut same summarise memory.trimKeep memory with messages := left } := moved
    rw [loop]
    exact ⟨cutLimits.messages, cutLimits.tokens, cutLimits.summaries⟩
  rw [summarizeAndTrim_eq same summarise present]
  exact appendSummary_bounded loopLimits (moveOut_bounded cutLimits summaries) fits.fits

/-- What a call makes of the messages it starts from, an added one with them. -/
structure Kept (after : ConversationMemory Moment)
    (messages : List (ConversationMessage Moment)) : Prop where
  bounded : after.Bounded
  limits : after.Limits
  remains : Remains messages after.messages

theorem add_kept (limits : memory.Limits) (bounded : memory.Bounded)
    {message : ConversationMessage Moment}
    (fits : CallFits same summarise memory (.add message)) :
    Kept (memory.add same summarise message) (memory.messages ++ [message]) := by
  have grownLimits : (memory.grown message).Limits :=
    ⟨limits.messages, limits.tokens, limits.summaries⟩
  change Kept
    (if (memory.grown message).OverLimits then
      (memory.grown message).summarizeAndTrim same summarise
    else memory.grown message) (memory.grown message).messages
  split
  · rename_i overLimits
    have trimFits := fits overLimits
    have present := grown_present memory message
    have summaries : (memory.grown message).SummariesBounded :=
      ⟨bounded.toSummaries.few, bounded.toSummaries.cost⟩
    have stays := summarizeAndTrim_bounded grownLimits summaries present trimFits
    obtain ⟨left, written, shape, _, remains⟩ := summarizeAndTrim_spec same summarise present
    rw [shape] at stays ⊢
    exact ⟨stays, ⟨limits.messages, limits.tokens, limits.summaries⟩, remains trimFits.noTwin⟩
  · rename_i within
    obtain ⟨count, total⟩ := not_or.mp within
    exact ⟨⟨not_lt.mp count, not_lt.mp total, bounded.summaries⟩, grownLimits, Remains.refl _⟩

theorem compact_kept (limits : memory.Limits) (bounded : memory.Bounded) {keepRecent : Option Int}
    (fits : CallFits same summarise memory (.compact keepRecent)) :
    Kept (memory.compact same summarise keepRecent).1 memory.messages := by
  rw [compact_eq]
  split
  · exact ⟨bounded, limits, Remains.refl _⟩
  · rename_i something
    have compactFits := fits something
    have remains := splitWindow_remains same compactFits.noTwin
    have stays : (cut same summarise (memory.compactKeep keepRecent) memory).Bounded :=
      appendSummary_bounded ⟨limits.messages, limits.tokens, limits.summaries⟩
        (bounded.remains remains) compactFits.fits
    obtain ⟨left, written, shape, _, fewer⟩ := cut_spec same summarise
      (memory.compactKeep keepRecent) memory
    rw [shape] at stays ⊢
    exact ⟨stays, ⟨limits.messages, limits.tokens, limits.summaries⟩, fewer compactFits.noTwin⟩

end

/-! ### Runs -/

/-- A memory, with the first system message it was given since it last held nothing. -/
structure Watched (Moment : Type) where
  memory : ConversationMemory Moment
  firstSystem : Option (ConversationMessage Moment)

namespace Watched

variable (same : ConversationMessage Moment → ConversationMessage Moment → Bool)
  (summarise : List (ConversationMessage Moment) → String)

def leave (memory : ConversationMemory Moment) (firstSystem : Option (ConversationMessage Moment)) :
    Watched Moment :=
  { memory := memory, firstSystem := if memory.messages = [] then none else firstSystem }

def take (watched : Watched Moment) : Call Moment → Watched Moment
  | .add message =>
      leave (watched.memory.add same summarise message)
        (watched.firstSystem.or (if isSystem message then some message else none))
  | .compact keepRecent =>
      leave (watched.memory.compact same summarise keepRecent).1 watched.firstSystem

def next (watched : Watched Moment) (call : Call Moment) : Option (Watched Moment) :=
  some (watched.take same summarise call)

structure Within (watched : Watched Moment) : Prop where
  bounded : watched.memory.Bounded
  total : watched.memory.totalTokens =
    tokensOf watched.memory.tokenCounter (contents watched.memory.messages) +
      tokensOf watched.memory.tokenCounter watched.memory.summaries
  system : ∀ message, watched.firstSystem = some message → message ∈ watched.memory.messages

structure Invariant (watched : Watched Moment) : Prop where
  limits : watched.memory.Limits
  bounded : watched.memory.Bounded
  system : watched.firstSystem = watched.memory.messages.find? isSystem

variable {same summarise} {watched : Watched Moment}

theorem Invariant.within (invariant : watched.Invariant) :
    watched.Within := by
  constructor
  · exact invariant.bounded
  · rfl
  · intro message first
    rw [invariant.system] at first
    exact mem_of_find?_eq_some first

theorem leave_invariant {after : ConversationMemory Moment}
    {messages : List (ConversationMessage Moment)} (kept : Kept after messages)
    {firstSystem : Option (ConversationMessage Moment)}
    (system : firstSystem = messages.find? isSystem) : (leave after firstSystem).Invariant := by
  constructor
  · exact kept.limits
  · exact kept.bounded
  · change (if after.messages = [] then none else firstSystem) = after.messages.find? isSystem
    split
    · rename_i empty
      rw [empty]
      rfl
    · rename_i present
      rw [system, kept.remains.system present]

theorem take_invariant {call : Call Moment} (invariant : watched.Invariant)
    (fits : CallFits same summarise watched.memory call) :
    (watched.take same summarise call).Invariant := by
  cases call with
  | add message =>
      apply leave_invariant (add_kept invariant.limits invariant.bounded fits)
      rw [List.find?_append, invariant.system]
      congr 1
      by_cases system : isSystem message
      · rw [if_pos system, List.find?_cons_of_pos system]
      · rw [if_neg system, List.find?_cons_of_neg system]
        rfl
  | compact keepRecent =>
      exact leave_invariant (compact_kept invariant.limits invariant.bounded fits)
        invariant.system

structure Fresh (watched : Watched Moment) : Prop where
  messages : watched.memory.messages = []
  summaries : watched.memory.summaries = []
  firstSystem : watched.firstSystem = none
  limits : watched.memory.Limits

theorem Fresh.invariant (fresh : watched.Fresh) : watched.Invariant := by
  constructor
  · exact fresh.limits
  · constructor
    · rw [fresh.messages]
      exact fresh.limits.messages
    · unfold totalTokens
      rw [fresh.messages, fresh.summaries]
      exact fresh.limits.tokens
    · rw [fresh.summaries]
      exact fresh.limits.summaries
  · rw [fresh.firstSystem, fresh.messages]
    rfl

def empty (maxMessages maxTokens : Int) : Watched Nat :=
  { memory :=
      { messages := [], maxMessages := maxMessages, maxTokens := maxTokens, summaries := [],
        maxSummaries := 5, tokenCounter := none,
        caseFacts := ⟨[], Dict.empty, Dict.empty, [], 0⟩ }
    firstSystem := none }

def user (now : Nat) (text : String) : ConversationMessage Nat :=
  { role := "user", content := text, timestamp := now, toolCallId := none, toolName := none,
    metadata := Dict.empty }

def sameMessage (first second : ConversationMessage Nat) : Bool :=
  first.role == second.role && first.content == second.content &&
    first.timestamp == second.timestamp

end Watched

end ConversationMemory

end AgenticRuntime
