/-
One run of `_save_stats_to_redis`, from taking the lock to its end.

The iterator of the loop looks at the size of the live dict, so a model that is
added while a command is awaited ends the task with an exception, after however
many models it has saved.
-/

import AgenticRuntime.Models.SmartRouter
import AgenticRuntime.Transition
import Mathlib.Data.List.Count

namespace AgenticRuntime

open List Option RouterEvent

/-- The task ended without an exception, and each model it found is saved, to
Redis or to the file. -/
def SaveReport.Accounted {Model : Type} (report : SaveReport Model) : Prop :=
  report.raised = none ∧
    ∀ model, model ∈ report.present → model ∈ report.advanced ∨ report.fileWritten = true

/-- The events of the save task itself: the replies to its commands and its
resumptions. -/
def RouterEvent.ofSave {Model Rest : Type} : RouterEvent Model Rest → Bool
  | .read _ | .readFailed _ | .swapped _ _ | .swapFailed _ | .resume _ => true
  | _ => false

namespace Save

variable {Model Rest : Type}

/-- The models before the one that is being saved have been saved, unless a
failure has been noted. -/
def Covered (save : Save Model Rest) : Prop :=
  ∃ processed, save.present = processed ++ save.call.model :: save.remaining ∧
    (save.allPersisted = true → ∀ model, model ∈ processed → model ∈ save.advanced)

/-- The script has succeeded for the model, whether or not the task knows it. -/
def Swapped (save : Save Model Rest) (model : Model) : Prop :=
  model ∈ save.advanced ∨ save.call.phase = .swapped true ∧ save.call.model = model

def phaseWork : CasPhase Rest → Nat
  | .reading => 4
  | .read _ => 3
  | .swapping _ => 2
  | .swapped _ => 1

theorem phaseWork_pos (phase : CasPhase Rest) : 0 < phaseWork phase := by
  cases phase with
  | reading => exact Nat.succ_pos 3
  | read current => exact Nat.succ_pos 2
  | swapping expected => exact Nat.succ_pos 1
  | swapped success => exact Nat.succ_pos 0

def work (save : Save Model Rest) : Nat :=
  4 * casMaxRetries * save.remaining.length + 4 * save.call.retries + phaseWork save.call.phase

end Save

namespace SmartRouter

variable {Model Rest : Type} [DecidableEq Model]

/-- The event adds a model to `model_stats`. -/
def Inserts (router : SmartRouter Model Rest) : RouterEvent Model Rest → Prop
  | .record model _ | .touch model => model ∉ router.models
  | .loaded => ∃ entry, entry ∈ router.loading.getD [] ∧ entry.1 ∉ router.models
  | _ => False

def Undisturbed (router : SmartRouter Model Rest) (event : RouterEvent Model Rest) : Prop :=
  router.active.isSome = true → ¬ router.Inserts event

section

omit [DecidableEq Model] in
theorem iterate_cases (router : SmartRouter Model Rest) (rest : Model → Rest)
    (present advanced : List Model) (allPersisted : Bool) (remaining : List Model) :
    (∃ save skipped, router.iterate rest present advanced allPersisted remaining =
        { router with active := some save } ∧ save.present = present ∧ save.advanced = advanced ∧
      save.call.phase = .reading ∧ save.call.retries = casMaxRetries - 1 ∧
      remaining = skipped ++ save.call.model :: save.remaining ∧
      (save.allPersisted = true → allPersisted = true ∧ skipped = [])) ∨
    ∃ persisted raised, router.iterate rest present advanced allPersisted remaining =
        router.endSave present advanced persisted raised ∧
      (raised = none ↔ router.models.length = present.length) ∧
      (raised = none → persisted = true → allPersisted = true ∧ remaining = []) := by
  induction remaining generalizing allPersisted with
  | nil =>
      unfold iterate
      split
      · rename_i same
        exact .inr ⟨allPersisted, none, rfl, ⟨fun _ => same, fun _ => rfl⟩, fun _ all => ⟨all, rfl⟩⟩
      · rename_i grown
        exact .inr ⟨allPersisted, _, rfl, ⟨nofun, fun same => absurd same grown⟩, nofun⟩
  | cons model remaining ih =>
      unfold iterate
      split
      · split
        · exact .inl ⟨_, [], rfl, rfl, rfl, rfl, rfl, rfl, fun all => ⟨all, rfl⟩⟩
        · rcases ih false with
            ⟨save, skipped, started, found, advances, reads, tries, shape, all⟩ |
              ⟨persisted, raised, ended, size, all⟩
          · refine .inl ⟨save, model :: skipped, started, found, advances, reads, tries, ?_, ?_⟩
            · rw [shape, cons_append]
            · intro persists
              cases (all persists).1
          · refine .inr ⟨persisted, raised, ended, size, ?_⟩
            intro quiet persists
            cases (all quiet persists).1
      · rename_i grown
        exact .inr ⟨allPersisted, _, rfl, ⟨nofun, fun same => absurd same grown⟩, nofun⟩

structure Continues (router : SmartRouter Model Rest) (event : RouterEvent Model Rest)
    (save later : Save Model Rest) (after : SmartRouter Model Rest) : Prop where
  active : after.active = some later
  reports : after.reports = router.reports
  statsFile : after.statsFile = router.statsFile
  present : later.present = save.present
  covered : save.Covered → later.Covered
  swapped : ∀ model, later.Swapped model ↔ save.Swapped model ∨ event = .swapped model true
  work : later.work + (if event.ofSave then 1 else 0) ≤ save.work

structure Ends (router : SmartRouter Model Rest) (event : RouterEvent Model Rest)
    (save : Save Model Rest) (report : SaveReport Model) (after : SmartRouter Model Rest) :
    Prop where
  active : after.active = none
  reports : after.reports = router.reports ++ [report]
  resumed : ∃ rest, event = .resume rest
  present : report.present = save.present
  raised : report.raised = none ↔ router.models.length = save.present.length
  advanced : ∀ model, model ∈ report.advanced ↔ save.Swapped model
  written : report.fileWritten = true → router.statsFile = true
  complete : save.Covered → report.raised = none →
    (∀ model, model ∈ report.present → model ∈ report.advanced) ∨
      report.fileWritten = router.statsFile

end

section

variable {router after : SmartRouter Model Rest} {event : RouterEvent Model Rest}
  {save : Save Model Rest}

theorem getStats_length (router : SmartRouter Model Rest) (model : Model) :
    (router.getStats model).models.length =
      if model ∈ router.models then router.models.length else router.models.length + 1 := by
  unfold getStats
  split
  · rfl
  · simp

section

omit [DecidableEq Model]

theorem handleConnectionLoss_frame (router : SmartRouter Model Rest) (lost : Bool) :
    (router.handleConnectionLoss lost).models = router.models ∧
      (router.handleConnectionLoss lost).active = router.active ∧
      (router.handleConnectionLoss lost).reports = router.reports ∧
      (router.handleConnectionLoss lost).statsFile = router.statsFile := by
  unfold handleConnectionLoss
  split
  · exact ⟨rfl, rfl, rfl, rfl⟩
  · exact ⟨rfl, rfl, rfl, rfl⟩

theorem reply_some {phase : CasCall Model Rest → Option (CasPhase Rest)}
    (replied : router.reply phase = some after) : ∃ save later, router.active = some save ∧
      phase save.call = some later ∧ after = router.setPhase save later := by
  unfold reply at replied
  split at replied
  · cases replied
  · rename_i save active
    obtain ⟨later, known, same⟩ := map_eq_some_iff.mp replied
    exact ⟨save, later, active, known, same.symm⟩

end

theorem record_models (router : SmartRouter Model Rest) (model : Model) (kind : RecordKind) :
    (router.record model kind).models = (router.getStats model).models := by
  simp only [record, saveStats]
  split
  · split
    · rfl
    · rfl
  · rfl

private theorem loadOne_length (router : SmartRouter Model Rest) (entries : List (Model × Counters)) :
    router.models.length ≤ (entries.foldl loadOne router).models.length ∧
      ((∃ entry, entry ∈ entries ∧ entry.1 ∉ router.models) →
        router.models.length < (entries.foldl loadOne router).models.length) ∧
      ((∀ entry, entry ∈ entries → entry.1 ∈ router.models) →
        (entries.foldl loadOne router).models = router.models) := by
  induction entries generalizing router with
  | nil => simp
  | cons entry entries ih =>
      obtain ⟨longer, more, same⟩ := ih (router.loadOne entry)
      by_cases known : entry.1 ∈ router.models
      · have models : (router.loadOne entry).models = router.models := if_pos known
        rw [models] at longer more same
        refine ⟨longer, ?_, ?_⟩
        · rintro ⟨other, member, fresh⟩
          rcases List.mem_cons.mp member with head | tail
          · exact absurd (head ▸ known) fresh
          · exact more ⟨other, tail, fresh⟩
        · intro every
          exact same fun other member => every other (mem_cons_of_mem _ member)
      · have models : (router.loadOne entry).models = router.models ++ [entry.1] := if_neg known
        have length : (router.loadOne entry).models.length = router.models.length + 1 := by
          rw [models, length_append, length_singleton]
        rw [length] at longer
        change _ ≤ ((entries.foldl loadOne (router.loadOne entry)).models.length) at longer
        refine ⟨Nat.le_trans (Nat.le_succ _) longer, fun _ => longer, ?_⟩
        intro every
        exact absurd (every entry mem_cons_self) known

section

omit [DecidableEq Model]

private theorem iterate_models (router : SmartRouter Model Rest) (rest : Model → Rest)
    (present advanced : List Model) (allPersisted : Bool) (remaining : List Model) :
    (router.iterate rest present advanced allPersisted remaining).models = router.models := by
  rcases iterate_cases router rest present advanced allPersisted remaining with
    ⟨save, skipped, started, _⟩ | ⟨persisted, raised, ended, _⟩
  · rw [started]
  · rw [ended]
    rfl

private theorem conflict_models (router : SmartRouter Model Rest) (save : Save Model Rest)
    (rest : Model → Rest) : (router.conflict save rest).models = router.models := by
  unfold conflict
  split
  · exact iterate_models router rest _ _ _ _
  · split
    · rfl
    · exact iterate_models router rest _ _ _ _

end

variable {rest : Model → Rest}

private theorem resume_models (resumed : router.resume rest = some after) :
    after.models = router.models := by
  unfold resume at resumed
  split at resumed
  · cases resumed
  · split at resumed
    · cases resumed
      split
      · rfl
      · exact conflict_models router _ rest
    · cases resumed
      exact iterate_models _ rest _ _ _ _
    · cases resumed
      exact conflict_models router _ rest
    · cases resumed

theorem next_models (taken : router.next event = some after) :
    (router.Inserts event → router.models.length < after.models.length) ∧
      (¬ router.Inserts event → after.models = router.models) := by
  have unchanged : after.models = router.models → (router.Inserts event → False) →
      (router.Inserts event → router.models.length < after.models.length) ∧
        (¬ router.Inserts event → after.models = router.models) :=
    fun same never => ⟨fun inserts => (never inserts).elim, fun _ => same⟩
  have known : ∀ model, (model ∉ router.models →
      router.models.length < (router.getStats model).models.length) ∧
      (¬ model ∉ router.models → (router.getStats model).models = router.models) := by
    intro model
    refine ⟨?_, ?_⟩
    · intro fresh
      rw [getStats_length, if_neg fresh]
      exact Nat.lt_succ_self _
    · intro old
      rw [getStats, if_pos (not_not.mp old)]
  cases event with
  | record model kind =>
      simp only [next] at taken
      split at taken
      · cases taken
      · cases taken
        rw [record_models]
        exact known model
  | touch model =>
      simp only [next] at taken
      split at taken
      · cases taken
      · cases taken
        exact known model
  | beginLoad =>
      simp only [next] at taken
      split at taken
      · cases taken
      · cases taken
        exact unchanged rfl id
  | scanned model stats =>
      obtain ⟨entries, loads, same⟩ := map_eq_some_iff.mp taken
      subst same
      exact unchanged rfl id
  | loadFailed lost =>
      obtain ⟨entries, loads, same⟩ := map_eq_some_iff.mp taken
      subst same
      exact unchanged (handleConnectionLoss_frame _ lost).1 id
  | loaded =>
      obtain ⟨entries, loads, same⟩ := map_eq_some_iff.mp taken
      subst same
      obtain ⟨_, more, still⟩ := loadOne_length router entries
      simp only [Inserts, loads, getD_some]
      refine ⟨more, ?_⟩
      intro old
      apply still
      intro entry member
      by_contra fresh
      exact old ⟨entry, member, fresh⟩
  | acquire rest =>
      simp only [next] at taken
      split at taken
      · cases taken
        exact unchanged (iterate_models _ rest _ _ _ _) id
      · cases taken
  | read current | swapped model success =>
      simp only [next] at taken
      obtain ⟨save, later, _, _, same⟩ := reply_some taken
      exact unchanged (by rw [same]; rfl) id
  | readFailed lost | swapFailed lost =>
      simp only [next] at taken
      obtain ⟨save, later, _, _, same⟩ := reply_some taken
      exact unchanged (by rw [same]; exact (handleConnectionLoss_frame router lost).1) id
  | resume rest => exact unchanged (resume_models taken) id
  | close =>
      cases taken
      exact unchanged rfl id

section

omit [DecidableEq Model]

private theorem Continues.of_same (active : router.active = some save)
    (same : after.active = router.active) (reports : after.reports = router.reports)
    (statsFile : after.statsFile = router.statsFile) (foreign : event.ofSave = false) :
    Continues router event save save after := by
  refine ⟨same.trans active, reports, statsFile, rfl, id, ?_, ?_⟩
  · intro model
    constructor
    · exact Or.inl
    · rintro (swapped | impossible)
      · exact swapped
      · rw [impossible] at foreign
        cases foreign
  · rw [foreign]
    exact Nat.le_refl _

private theorem Continues.of_reply {phase : CasPhase Rest} {middle : SmartRouter Model Rest}
    (replied : after = middle.setPhase save phase) (reports : middle.reports = router.reports)
    (statsFile : middle.statsFile = router.statsFile)
    (unswapped : save.call.phase ≠ .swapped true)
    (swaps : phase = .swapped true ↔ event = .swapped save.call.model true)
    (foreign : ∀ model, event = .swapped model true → model = save.call.model)
    (lower : Save.phaseWork phase + 1 ≤ Save.phaseWork save.call.phase) :
    Continues router event save { save with call := { save.call with phase := phase } } after := by
  subst replied
  refine ⟨rfl, reports, statsFile, rfl, id, ?_, ?_⟩
  · intro model
    simp only [Save.Swapped]
    constructor
    · rintro (advanced | ⟨swapped, same⟩)
      · exact .inl (.inl advanced)
      · exact .inr (same ▸ swaps.mp swapped)
    · rintro ((advanced | ⟨swapped, _⟩) | swapped)
      · exact .inl advanced
      · exact absurd swapped unswapped
      · have same := foreign model swapped
        subst same
        exact .inr ⟨swaps.mpr swapped, rfl⟩
  · simp only [Save.work]
    split
    · omega
    · omega

private theorem iterate_active (middle : SmartRouter Model Rest) {advanced : List Model}
    {allPersisted : Bool} (models : middle.models = router.models)
    (reports : middle.reports = router.reports) (statsFile : middle.statsFile = router.statsFile)
    (iterated : after = middle.iterate rest save.present advanced allPersisted save.remaining)
    (swapped : ∀ model, model ∈ advanced ↔ save.Swapped model)
    (kept : allPersisted = true → save.allPersisted = true ∧ save.call.model ∈ advanced) :
    (∃ later, Continues router (.resume rest) save later after) ∨
      ∃ report, Ends router (.resume rest) save report after := by
  rcases iterate_cases middle rest save.present advanced allPersisted save.remaining with
    ⟨later, skipped, started, found, advances, reads, tries, shape, all⟩ |
      ⟨persisted, raised, ended, size, all⟩
  · left
    rw [started] at iterated
    subst iterated
    refine ⟨later, rfl, reports, statsFile, found, ?_, ?_, ?_⟩
    · rintro ⟨processed, present, saved⟩
      refine ⟨processed ++ save.call.model :: skipped, ?_, ?_⟩
      · rw [found, present, shape, append_assoc, cons_append]
      · intro persists model member
        obtain ⟨persisting, noSkips⟩ := all persists
        obtain ⟨before, own⟩ := kept persisting
        rw [advances]
        rw [noSkips, mem_append, mem_singleton] at member
        rcases member with old | same
        · exact (swapped model).mpr (.inl (saved before model old))
        · exact same ▸ own
    · intro model
      simp only [Save.Swapped, advances, reads, reduceCtorEq, false_and, or_false]
      exact swapped model
    · have length := congrArg List.length shape
      simp only [length_append, length_cons] at length
      have positive := Save.phaseWork_pos save.call.phase
      have first : Save.phaseWork later.call.phase = 4 := by
        rw [reads]
        rfl
      simp only [Save.work, first, tries, casMaxRetries, length, ofSave, if_true]
      omega
  · right
    rw [ended] at iterated
    subst iterated
    refine ⟨{
        present := save.present
        advanced := advanced
        raised := raised
        fileWritten := raised.isNone && !persisted && middle.statsFile },
      rfl, ?_, ⟨rest, rfl⟩, rfl, ?_, swapped, ?_, ?_⟩
    · simp only [endSave, reports]
    · rw [← models]
      exact size
    · intro written
      simp only [Bool.and_eq_true] at written
      rw [← statsFile]
      exact written.2
    · rintro ⟨processed, present, saved⟩ quiet
      change raised = none at quiet
      cases whole : persisted with
      | true =>
          left
          obtain ⟨persisting, last⟩ := all quiet whole
          obtain ⟨before, own⟩ := kept persisting
          intro model member
          change model ∈ save.present at member
          rw [present, last, mem_append, mem_singleton] at member
          rcases member with old | same
          · exact (swapped model).mpr (.inl (saved before model old))
          · exact same ▸ own
      | false =>
          right
          simp [quiet, statsFile]

private theorem conflict_active (conflicted : after = router.conflict save rest)
    (unswapped : save.call.phase ≠ .swapped true) :
    (∃ later, Continues router (.resume rest) save later after) ∨
      ∃ report, Ends router (.resume rest) save report after := by
  have swapped : ∀ model, model ∈ save.advanced ↔ save.Swapped model := by
    intro model
    simp only [Save.Swapped, unswapped, false_and, or_false]
  unfold conflict at conflicted
  split at conflicted
  · exact iterate_active router rfl rfl rfl conflicted swapped nofun
  · rename_i retries tries
    split at conflicted
    · left
      refine ⟨{ save with call := { save.call with retries := retries, phase := .reading } },
        by rw [conflicted], by rw [conflicted], by rw [conflicted], rfl, id, ?_, ?_⟩
      · intro model
        simp only [Save.Swapped, unswapped, reduceCtorEq, false_and, or_false]
      · have positive := Save.phaseWork_pos save.call.phase
        have first : Save.phaseWork (.reading : CasPhase Rest) = 4 := rfl
        simp only [Save.work, first, tries, ofSave, if_true]
        omega
    · exact iterate_active router rfl rfl rfl conflicted swapped nofun

end

private theorem resume_active (active : router.active = some save)
    (resumed : router.resume rest = some after) :
    (∃ later, Continues router (.resume rest) save later after) ∨
      ∃ report, Ends router (.resume rest) save report after := by
  simp only [resume, active] at resumed
  split at resumed
  · rename_i current reads
    have unswapped : save.call.phase ≠ .swapped true := by
      rw [reads]
      exact nofun
    rw [some.injEq] at resumed
    split at resumed
    · left
      refine ⟨_, .of_reply resumed.symm rfl rfl unswapped ⟨nofun, nofun⟩ nofun ?_⟩
      rw [reads]
      exact Nat.le_refl 3
    · exact conflict_active resumed.symm unswapped
  · rename_i swapped
    rw [some.injEq, persisted] at resumed
    refine iterate_active _ ?_ ?_ ?_ resumed.symm ?_ ?_
    · rfl
    · rfl
    · rfl
    · intro model
      simp only [mem_append, mem_singleton, Save.Swapped, swapped, true_and]
      rw [eq_comm (a := model)]
    · intro all
      exact ⟨all, mem_append_right _ (mem_singleton_self _)⟩
  · rename_i failed
    rw [some.injEq] at resumed
    exact conflict_active resumed.symm (by rw [failed]; exact nofun)
  · cases resumed

private theorem record_frame (router : SmartRouter Model Rest) (model : Model)
    (kind : RecordKind) : (router.record model kind).active = router.active ∧
      (router.record model kind).reports = router.reports ∧
      (router.record model kind).statsFile = router.statsFile := by
  have known : (router.getStats model).active = router.active ∧
      (router.getStats model).reports = router.reports ∧
      (router.getStats model).statsFile = router.statsFile := by
    unfold getStats
    split
    · exact ⟨rfl, rfl, rfl⟩
    · exact ⟨rfl, rfl, rfl⟩
  simp only [record, saveStats]
  split
  · split
    · exact known
    · exact known
  · exact known

private theorem loadOne_frame (router : SmartRouter Model Rest) (entries : List (Model × Counters)) :
    (entries.foldl loadOne router).active = router.active ∧
      (entries.foldl loadOne router).reports = router.reports ∧
      (entries.foldl loadOne router).statsFile = router.statsFile := by
  induction entries generalizing router with
  | nil => exact ⟨rfl, rfl, rfl⟩
  | cons entry entries ih => exact ih (router.loadOne entry)

private theorem next_foreign (taken : router.next event = some after)
    (foreign : event.ofSave = false) (waits : ∀ rest, event ≠ .acquire rest) :
    after.active = router.active ∧ after.reports = router.reports ∧
      after.statsFile = router.statsFile := by
  cases event with
  | record model kind =>
      simp only [next] at taken
      split at taken
      · cases taken
      · cases taken
        exact record_frame router model kind
  | touch model =>
      simp only [next, getStats] at taken
      split at taken
      · cases taken
      · split at taken
        · cases taken
          exact ⟨rfl, rfl, rfl⟩
        · cases taken
          exact ⟨rfl, rfl, rfl⟩
  | beginLoad =>
      simp only [next] at taken
      split at taken
      · cases taken
      · cases taken
        exact ⟨rfl, rfl, rfl⟩
  | scanned model stats =>
      obtain ⟨entries, loads, same⟩ := map_eq_some_iff.mp taken
      subst same
      exact ⟨rfl, rfl, rfl⟩
  | loadFailed lost =>
      obtain ⟨entries, loads, same⟩ := map_eq_some_iff.mp taken
      subst same
      exact (handleConnectionLoss_frame _ lost).2
  | loaded =>
      obtain ⟨entries, loads, same⟩ := map_eq_some_iff.mp taken
      subst same
      exact loadOne_frame router entries
  | acquire rest => exact absurd rfl (waits rest)
  | close =>
      cases taken
      exact ⟨rfl, rfl, rfl⟩
  | read current | readFailed lost | swapped model success | swapFailed lost | resume rest =>
      cases foreign

theorem next_active (active : router.active = some save) (taken : router.next event = some after) :
    (∃ later, Continues router event save later after) ∨
      ∃ report, Ends router event save report after := by
  cases event with
  | record | touch | beginLoad | scanned | loadFailed | loaded | close =>
      obtain ⟨same, reports, statsFile⟩ := next_foreign taken rfl nofun
      exact .inl ⟨save, .of_same active same reports statsFile rfl⟩
  | acquire rest => simp [next, active] at taken
  | read current =>
      simp only [next] at taken
      obtain ⟨own, phase, held, known, same⟩ := reply_some taken
      cases active.symm.trans held
      split at known
      · rename_i reads
        cases known
        left
        refine ⟨_, .of_reply same rfl rfl ?_ ⟨nofun, nofun⟩ nofun ?_⟩
        · rw [reads]
          exact nofun
        · rw [reads]
          exact Nat.le_refl 4
      · cases known
  | readFailed lost | swapFailed lost =>
      simp only [next] at taken
      obtain ⟨own, phase, held, known, same⟩ := reply_some taken
      obtain ⟨_, active', reports, statsFile⟩ := handleConnectionLoss_frame router lost
      cases active.symm.trans (active'.symm.trans held)
      split at known
      · rename_i waiting
        cases known
        left
        refine ⟨_, .of_reply same reports statsFile ?_ ⟨nofun, nofun⟩ nofun ?_⟩
        · rw [waiting]
          exact nofun
        · rw [waiting]
          exact Nat.le_refl _
      · cases known
  | swapped model success =>
      simp only [next] at taken
      obtain ⟨own, phase, held, known, same⟩ := reply_some taken
      cases active.symm.trans held
      split at known
      · rename_i own
        split at known
        · rename_i current swapping
          cases known
          left
          refine ⟨_, .of_reply same rfl rfl ?_ ?_ ?_ ?_⟩
          · rw [swapping]
            exact nofun
          · rw [own]
            simp
          · intro other equal
            cases equal
            exact own.symm
          · rw [swapping]
            exact Nat.le_refl 2
        · cases known
      · cases known
  | resume rest => exact resume_active active taken

end

section

open Transition

variable {router after finish : SmartRouter Model Rest} {event : RouterEvent Model Rest}
  {events : List (RouterEvent Model Rest)} {save : Save Model Rest}

def saves (router : SmartRouter Model Rest) : Nat :=
  router.reports.length + if router.active.isSome then 1 else 0

private theorem next_idle (idle : router.active = none) (taken : router.next event = some after) :
    (event.ofSave = false ∧ after.active = none ∧ after.reports = router.reports) ∨
      ∃ rest, event = .acquire rest := by
  cases event with
  | record | touch | beginLoad | scanned | loadFailed | loaded | close =>
      obtain ⟨same, reports, _⟩ := next_foreign taken rfl nofun
      exact .inl ⟨rfl, same.trans idle, reports⟩
  | acquire rest => exact .inr ⟨rest, rfl⟩
  | read current | swapped model success => simp [next, reply, idle] at taken
  | readFailed lost | swapFailed lost =>
      simp [next, reply, (handleConnectionLoss_frame router lost).2.1, idle] at taken
  | resume rest => simp [next, resume, idle] at taken

private theorem acquire_cases {rest : Model → Rest}
    (taken : router.next (.acquire rest) = some after) : router.active = none ∧
      after.models = router.models ∧ after.statsFile = router.statsFile ∧
      ((∃ save, after.active = some save ∧ after.reports = router.reports ∧
          save.present = router.models ∧ save.Covered ∧ (∀ model, ¬ save.Swapped model) ∧
          save.work ≤ 4 * casMaxRetries * router.models.length) ∨
        ∃ report, after.active = none ∧ after.reports = router.reports ++ [report] ∧
          report.present = router.models ∧ report.raised = none ∧ report.advanced = [] ∧
          (report.fileWritten = true → router.statsFile = true) ∧
          (router.models = [] ∨ report.fileWritten = router.statsFile)) := by
  simp only [next] at taken
  split at taken
  · rename_i free
    cases taken
    refine ⟨isNone_iff_eq_none.mp free.1, iterate_models _ rest _ _ _ _, ?_⟩
    rcases iterate_cases ({ router with queued := router.queued - 1 } : SmartRouter Model Rest) rest
        router.models [] true router.models with
      ⟨save, skipped, started, found, advances, reads, tries, shape, all⟩ |
        ⟨persisted, raised, ended, size, all⟩
    · refine ⟨by rw [acquire, started], .inl ⟨save, by rw [acquire, started],
        by rw [acquire, started], found, ?_, ?_, ?_⟩⟩
      · refine ⟨skipped, found.trans shape, ?_⟩
        intro persists model member
        rw [(all persists).2] at member
        cases member
      · intro model
        simp [Save.Swapped, advances, reads]
      · have length := congrArg List.length shape
        simp only [length_append, length_cons] at length
        have first : Save.phaseWork save.call.phase = 4 := by
          rw [reads]
          rfl
        simp only [Save.work, first, tries, casMaxRetries, length]
        omega
    · have quiet : raised = none := size.mpr rfl
      refine ⟨by rw [acquire, ended]; rfl, .inr ⟨_, by rw [acquire, ended]; rfl,
        by rw [acquire, ended]; rfl, rfl, quiet, rfl, ?_, ?_⟩⟩
      · intro written
        simp only [Bool.and_eq_true] at written
        exact written.2
      · cases whole : persisted with
        | true => exact .inl (all quiet whole).2
        | false =>
            right
            simp [quiet]
  · cases taken

private theorem next_saves (taken : router.next event = some after) :
    router.saves ≤ after.saves ∧ (∃ more, after.reports = router.reports ++ more) ∧
      ∀ rest, event = .acquire rest → router.saves < after.saves := by
  have kept : ∀ {first second : SmartRouter Model Rest}, second.reports = first.reports →
      ∃ more, second.reports = first.reports ++ more := fun same => ⟨[], by simp [same]⟩
  cases held : router.active with
  | some save =>
      have busy : ∀ rest, event = .acquire rest → router.saves < after.saves := by
        intro rest acquires
        subst acquires
        exact absurd (held.symm.trans (acquire_cases taken).1) nofun
      rcases next_active held taken with ⟨later, goes⟩ | ⟨report, ends⟩
      · refine ⟨?_, kept goes.reports, busy⟩
        simp [saves, goes.reports, goes.active, held]
      · refine ⟨?_, ⟨[report], ends.reports⟩, busy⟩
        simp [saves, ends.reports, ends.active, held]
  | none =>
      rcases next_idle held taken with ⟨foreign, idle, reports⟩ | ⟨rest, acquires⟩
      · refine ⟨?_, kept reports, ?_⟩
        · simp [saves, reports, idle, held]
        · intro rest acquires
          subst acquires
          obtain ⟨_, _, _, ⟨save, active, _⟩ | ⟨report, _, more, _⟩⟩ := acquire_cases taken
          · exact absurd (idle.symm.trans active) nofun
          · exact absurd (reports.symm.trans more) (by simp)
      · subst acquires
        obtain ⟨_, _, _, ⟨save, active, reports, _⟩ | ⟨report, idle, reports, _⟩⟩ :=
          acquire_cases taken
        · refine ⟨?_, kept reports, fun _ _ => ?_⟩
          · simp [saves, reports, held]
          · simp [saves, reports, active, held]
        · refine ⟨?_, ⟨[report], reports⟩, fun _ _ => ?_⟩
          · simp [saves, reports, idle, held]
          · simp [saves, reports, idle, held]

private theorem replay_saves (run : replay next router events = some finish) :
    router.saves ≤ finish.saves ∧ ∃ more, finish.reports = router.reports ++ more := by
  induction events generalizing router with
  | nil =>
      cases run
      exact ⟨Nat.le_refl _, [], (append_nil _).symm⟩
  | cons event events ih =>
      obtain ⟨after, taken, rest⟩ := replay_cons run
      obtain ⟨saved, ⟨first, grown⟩, _⟩ := next_saves taken
      obtain ⟨later, second, more⟩ := ih rest
      exact ⟨Nat.le_trans saved later, first ++ second, by rw [more, grown, append_assoc]⟩

private theorem idle_run (idle : router.active = none) (ends : finish.active = none)
    (reports : finish.reports = router.reports) (run : replay next router events = some finish) :
    Along next Undisturbed router events ∧ ∀ model, .swapped model true ∉ events := by
  induction events generalizing router with
  | nil => exact ⟨trivial, fun _ => not_mem_nil⟩
  | cons event events ih =>
      obtain ⟨after, taken, rest⟩ := replay_cons run
      rcases next_idle idle taken with ⟨foreign, still, same⟩ | ⟨started, acquires⟩
      · obtain ⟨along, never⟩ := ih still (reports.trans same.symm) rest
        simp only [Along, taken]
        refine ⟨⟨?_, along⟩, ?_⟩
        · intro held
          rw [idle] at held
          cases held
        · intro model member
          rcases List.mem_cons.mp member with head | tail
          · rw [← head] at foreign
            cases foreign
          · exact never model tail
      · have more := (next_saves taken).2.2 started acquires
        have kept := (replay_saves rest).1
        have same : finish.saves = router.saves := by simp [saves, reports, idle, ends]
        omega

/-- The report of a save that has been under way since `router`. -/
structure Closes (router : SmartRouter Model Rest) (events : List (RouterEvent Model Rest))
    (save : Save Model Rest) (report : SaveReport Model) : Prop where
  present : report.present = save.present
  raised : save.present.length ≤ router.models.length → (report.raised = none ↔
    router.models.length = save.present.length ∧ Along next Undisturbed router events)
  advanced : ∀ model, model ∈ report.advanced ↔
    save.Swapped model ∨ .swapped model true ∈ events
  written : report.fileWritten = true → router.statsFile = true
  complete : save.Covered → report.raised = none →
    (∀ model, model ∈ report.present → model ∈ report.advanced) ∨
      report.fileWritten = router.statsFile

private theorem active_run {report : SaveReport Model} (active : router.active = some save)
    (ends : finish.active = none) (reports : finish.reports = router.reports ++ [report])
    (run : replay next router events = some finish) : Closes router events save report := by
  induction events generalizing router save with
  | nil =>
      cases run
      cases active.symm.trans ends
  | cons event events ih =>
      obtain ⟨after, taken, rest⟩ := replay_cons run
      obtain ⟨grows, keeps⟩ := next_models taken
      rcases next_active active taken with ⟨later, goes⟩ | ⟨own, done⟩
      · have closes := ih goes.active (by rw [goes.reports]; exact reports) rest
        have present := goes.present
        constructor
        case present => exact closes.present.trans present
        case raised =>
          intro larger
          simp only [Along, taken]
          by_cases inserts : router.Inserts event
          · have longer := grows inserts
            rw [closes.raised (by rw [present]; omega), present]
            constructor
            · rintro ⟨same, _⟩
              omega
            · rintro ⟨_, undisturbed, _⟩
              exact absurd inserts (undisturbed (by rw [active]; rfl))
          · have models := keeps inserts
            rw [closes.raised (by rw [present, models]; exact larger), present, models]
            constructor
            · rintro ⟨same, along⟩
              exact ⟨same, fun _ => inserts, along⟩
            · rintro ⟨same, _, along⟩
              exact ⟨same, along⟩
        case advanced =>
          intro model
          rw [closes.advanced model, goes.swapped model, List.mem_cons]
          constructor
          · rintro ((swapped | head) | tail)
            · exact .inl swapped
            · exact .inr (.inl head.symm)
            · exact .inr (.inr tail)
          · rintro (swapped | head | tail)
            · exact .inl (.inl swapped)
            · exact .inl (.inr head.symm)
            · exact .inr tail
        case written =>
          intro written
          exact goes.statsFile ▸ closes.written written
        case complete =>
          intro covered quiet
          rw [← goes.statsFile]
          exact closes.complete (goes.covered covered) quiet
      · obtain ⟨_, more, grown⟩ := replay_saves rest
        have last : more = [] ∧ own = report := by
          rw [reports, done.reports, append_assoc] at grown
          have same := append_cancel_left grown
          cases more with
          | nil =>
              cases same
              exact ⟨rfl, rfl⟩
          | cons head tail => cases same
        obtain ⟨nothing, same⟩ := last
        subst same
        rw [nothing, append_nil] at grown
        obtain ⟨along, never⟩ := idle_run done.active ends grown rest
        obtain ⟨resumption, resumes⟩ := done.resumed
        constructor
        case present => exact done.present
        case raised =>
          intro _
          rw [done.raised]
          simp only [Along, taken]
          constructor
          · intro same
            refine ⟨same, ?_, along⟩
            intro _ inserts
            rw [resumes] at inserts
            exact inserts
          · exact And.left
        case advanced =>
          intro model
          rw [done.advanced model]
          constructor
          · exact Or.inl
          · rintro (swapped | member)
            · exact swapped
            · rcases List.mem_cons.mp member with head | tail
              · rw [resumes] at head
                cases head
              · exact absurd tail (never model)
        case written => exact done.written
        case complete => exact done.complete

private theorem active_work (active : router.active = some save)
    (open' : finish.reports = router.reports) (run : replay next router events = some finish) :
    ∃ later, finish.active = some later ∧ later.work + events.countP ofSave ≤ save.work := by
  induction events generalizing router save with
  | nil =>
      cases run
      exact ⟨save, active, Nat.le_refl _⟩
  | cons event events ih =>
      obtain ⟨after, taken, rest⟩ := replay_cons run
      rcases next_active active taken with ⟨later, goes⟩ | ⟨own, done⟩
      · obtain ⟨last, held, bound⟩ := ih goes.active (open'.trans goes.reports.symm) rest
        have lower := goes.work
        refine ⟨last, held, ?_⟩
        rw [countP_cons]
        omega
      · obtain ⟨_, more, grown⟩ := replay_saves rest
        rw [open', done.reports] at grown
        have length := congrArg List.length grown
        simp only [length_append, length_singleton] at length
        omega

private theorem active_moves (rest : Model → Rest) (active : router.active = some save) :
    ∃ event after, ofSave event = true ∧ router.next event = some after := by
  cases phase : save.call.phase with
  | reading => exact ⟨.read none, _, rfl, by simp [next, reply, active, phase]; rfl⟩
  | read current => exact ⟨.resume rest, _, rfl, by simp [next, resume, active, phase]; rfl⟩
  | swapping expected =>
      exact ⟨.swapped save.call.model false, _, rfl, by simp [next, reply, active, phase]; rfl⟩
  | swapped success =>
      cases success with
      | false | true => exact ⟨.resume rest, _, rfl, by simp [next, resume, active, phase]; rfl⟩

/-- A save that has the lock ends after a bounded number of replies. It accounts
for the models it found just when no model is added meanwhile, provided that
there is a file to fall back to or that Redis takes every one of them. -/
theorem save_accounts_iff (router finish : SmartRouter Model Rest) (rest : Model → Rest)
    (events : List (RouterEvent Model Rest))
    (run : replay next router (.acquire rest :: events) = some finish) :
    (finish.reports = router.reports →
      events.countP ofSave ≤ 4 * casMaxRetries * router.models.length ∧
        ∃ event after, ofSave event = true ∧ finish.next event = some after) ∧
    ∀ report, finish.active = none → finish.reports = router.reports ++ [report] →
      report.present = router.models ∧
        (report.Accounted ↔ Along next Undisturbed router (.acquire rest :: events) ∧
          (router.statsFile = true ∨
            ∀ model, model ∈ router.models → .swapped model true ∈ events)) := by
  obtain ⟨after, taken, later⟩ := replay_cons run
  obtain ⟨free, models, statsFile, outcome⟩ := acquire_cases taken
  constructor
  · intro waiting
    rcases outcome with ⟨save, active, reports, _, _, _, bound⟩ | ⟨report, _, reports, _⟩
    · obtain ⟨last, held, work⟩ := active_work active (waiting.trans reports.symm) later
      exact ⟨by omega, active_moves rest held⟩
    · obtain ⟨_, more, grown⟩ := replay_saves later
      rw [waiting, reports] at grown
      have length := congrArg List.length grown
      simp only [length_append, length_singleton] at length
      omega
  · intro report ends grown
    have first : router.Undisturbed (.acquire rest) := fun _ impossible => impossible
    simp only [Along, taken, first, true_and]
    -- the facts about the report, whether or not the save ever waited
    have facts : report.present = router.models ∧
        (report.raised = none ↔ Along next Undisturbed after events) ∧
        (∀ model, model ∈ report.advanced ↔ .swapped model true ∈ events) ∧
        (report.fileWritten = true → router.statsFile = true) ∧
        (report.raised = none → (∀ model, model ∈ report.present → model ∈ report.advanced) ∨
          report.fileWritten = router.statsFile) := by
      rcases outcome with ⟨save, active, reports, present, covered, fresh, _⟩ |
        ⟨own, idle, reports, present, quiet, none_advanced, written, complete⟩
      · have closes := active_run active ends (by rw [reports]; exact grown) later
        have size : after.models.length = save.present.length := by rw [models, present]
        refine ⟨closes.present.trans present, ?_, ?_, ?_, ?_⟩
        · rw [closes.raised (Nat.le_of_eq size.symm)]
          exact ⟨And.right, fun along => ⟨size, along⟩⟩
        · intro model
          rw [closes.advanced model]
          exact ⟨fun either => either.resolve_left (fresh model), Or.inr⟩
        · exact fun write => statsFile ▸ closes.written write
        · rw [← statsFile]
          exact closes.complete covered
      · obtain ⟨_, more, extended⟩ := replay_saves later
        rw [grown, reports, append_assoc] at extended
        have same := append_cancel_left extended
        cases more with
        | cons head tail => cases same
        | nil =>
            cases same
            obtain ⟨along, never⟩ := idle_run idle ends (grown.trans reports.symm) later
            refine ⟨present, ⟨fun _ => along, fun _ => quiet⟩, ?_, written, ?_⟩
            · intro model
              rw [none_advanced]
              exact ⟨fun advanced => absurd advanced not_mem_nil,
                fun member => absurd member (never model)⟩
            · intro _
              rcases complete with none | same
              · left
                intro model member
                rw [present, none] at member
                cases member
              · exact .inr same
    obtain ⟨present, raised, advanced, written, complete⟩ := facts
    refine ⟨present, ?_⟩
    rw [SaveReport.Accounted, raised, present]
    constructor
    · rintro ⟨along, each⟩
      refine ⟨along, ?_⟩
      cases file : router.statsFile with
      | true => exact .inl rfl
      | false =>
          right
          intro model member
          rcases each model member with saved | write
          · exact (advanced model).mp saved
          · exact absurd (written write) (by simp [file])
    · rintro ⟨along, saved⟩
      refine ⟨along, ?_⟩
      intro model member
      rcases saved with file | every
      · rcases complete (raised.mpr along) with all | same
        · exact .inl (all model (present ▸ member))
        · exact .inr (same.trans file)
      · exact .inl ((advanced model).mpr (every model member))

def recorded : SmartRouter String Unit :=
  (({ statsFile := true } : SmartRouter String Unit).record "phi4" .success).record "gpt-4o" .timeout

def lostSave : List (RouterEvent String Unit) :=
  [.read none, .resume fun _ => (), .swapped "phi4" true, .touch "gpt-4o", .resume fun _ => (),
    .readFailed true, .resume fun _ => ()]

theorem save_accounts_iff_lost : ∃ finish report,
    replay next recorded (.acquire (fun _ => ()) :: lostSave) = some finish ∧
      finish.reports = recorded.reports ++ [report] ∧ report.advanced = ["phi4"] ∧
      report.Accounted := by
  have whole : ∃ finish, replay next recorded (.acquire (fun _ => ()) :: lostSave) = some finish ∧
      finish.active = none ∧ finish.reports = recorded.reports ++ [{
        present := ["phi4", "gpt-4o"]
        advanced := ["phi4"]
        raised := none
        fileWritten := true }] := by
    refine ⟨_, rfl, ?_⟩
    refine ⟨rfl, rfl⟩
  obtain ⟨finish, run, idle, reports⟩ := whole
  refine ⟨finish, _, run, reports, rfl, ?_⟩
  refine (((save_accounts_iff recorded finish _ lostSave run).2 _ idle reports).2).mpr ⟨?_, ?_⟩
  · have known : "gpt-4o" ∈ recorded.models := by decide
    exact And.intro (fun _ => id) <| And.intro (fun _ => id) <| And.intro (fun _ => id) <|
      And.intro (fun _ => id) <| And.intro (fun _ fresh => fresh known) <|
      And.intro (fun _ => id) <| And.intro (fun _ => id) <| And.intro (fun _ => id) trivial
  · exact .inl rfl

def disturbedSave : List (RouterEvent String Unit) :=
  [.read none, .resume fun _ => (), .touch "claude-sonnet", .swapped "phi4" true,
    .resume fun _ => ()]

theorem save_raises_on_new_model : ∃ finish report,
    replay next recorded (.acquire (fun _ => ()) :: disturbedSave) = some finish ∧
      finish.active = none ∧ finish.reports = recorded.reports ++ [report] ∧
      report.raised = some "RuntimeError: dictionary changed size during iteration" ∧
      "gpt-4o" ∈ report.present ∧ "gpt-4o" ∉ report.advanced ∧ report.fileWritten = false ∧
      ¬ report.Accounted := by
  refine ⟨_, {
    present := ["phi4", "gpt-4o"]
    advanced := ["phi4"]
    raised := some "RuntimeError: dictionary changed size during iteration"
    fileWritten := false }, rfl, rfl, rfl, rfl, by decide, by decide, rfl, ?_⟩
  intro accounted
  cases accounted.1

end

end SmartRouter

end AgenticRuntime
