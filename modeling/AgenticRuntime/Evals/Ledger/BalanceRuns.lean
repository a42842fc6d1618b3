/-
The appends that keep the two balance checks in agreement, and runs of them.
-/

import AgenticRuntime.Evals.Ledger.BalanceAgreement

namespace AgenticRuntime

open Transition

namespace EvalLedger

open Python Sql LedgerStore Corrections

/-! ### Appends that keep a ledger comparable -/

/-- An ok trial is of a planned arm and takes the place of whatever failed trials are active in
its cell; a failed one is of a cell without an ok trial. -/
@[mk_iff]
structure TrialKept (db : Tables) (row : Row) : Prop where
  planned : isOk row = true → ∃ planned ∈ db .planCell,
    planned.get "wave_id" = row.get "wave_id" ∧ planned.get "arm_id" = row.get "arm_id"
  proper : isOk row = true → (row.get "supersedes").equals (row.get "trial_id") = false
  within : ∀ old ∈ db .trial, isOk old = true →
    (row.get "supersedes").equals (old.get "trial_id") = true → cell row = cell old
  failing : isOk row = false → ∀ old ∈ db .trial, isOk old = true → cell old ≠ cell row
  passing : isOk row = true → ∀ old ∈ activeTrial db, isOk old = false → cell old = cell row →
    (row.get "supersedes").equals (old.get "trial_id") = true

instance (db : Tables) (row : Row) : Decidable (TrialKept db row) :=
  decidable_of_iff _ (trialKept_iff db row).symm

/-- A passing grade takes the place of the active passing grade of its trial. -/
def GradeKept (db : Tables) (row : Row) : Prop :=
  isPass row = true → (row.get "supersedes").equals (row.get "grade_id") = true ∨
    ∀ old ∈ activeGrade db, isPass old = true → old.get "trial_id" = row.get "trial_id" →
      (row.get "supersedes").equals (old.get "grade_id") = true

instance (db : Tables) (row : Row) : Decidable (GradeKept db row) :=
  inferInstanceAs (Decidable (_ → _ ∨ _))

def RowKept (db : Tables) (entry : (table : TableName) × Entity table) : Prop :=
  match entry.2.row with
  | .error _ => True
  | .ok row => (entry.1 = .trial → TrialKept db row) ∧ (entry.1 = .grade → GradeKept db row)

instance (db : Tables) (entry : (table : TableName) × Entity table) :
    Decidable (RowKept db entry) :=
  match bound : entry.2.row with
  | .error _ => .isTrue (by simp only [RowKept, bound])
  | .ok row =>
      decidable_of_iff
        ((entry.1 = .trial → TrialKept db row) ∧ (entry.1 = .grade → GradeKept db row))
        (by simp only [RowKept, bound])

theorem Comparable.transfer {db after : Tables} (comparable : Comparable db)
    (trials : after .trial = db .trial) (grades : after .grade = db .grade)
    (plans : ∀ planned ∈ db .planCell, planned ∈ after .planCell) : Comparable after := by
  have activeTrials : activeTrial after = activeTrial db := congrArg (activeRows "trial_id") trials
  have activeGrades : activeGrade after = activeGrade db := congrArg (activeRows "grade_id") grades
  constructor
  case planned =>
    intro trial stored ok
    obtain ⟨planned, there, same⟩ := comparable.planned trial (trials ▸ stored) ok
    exact ⟨planned, plans planned there, same⟩
  case present =>
    rw [trials, activeTrials]
    exact comparable.present
  case alike =>
    rw [trials, activeTrials]
    exact comparable.alike
  case passes =>
    rw [activeGrades]
    exact comparable.passes

theorem Comparable.addTrial {db : Tables} (comparable : Comparable db) (sound : Sound db)
    {obj : Entity .trial} {row : Row} (bound : obj.row = .ok row)
    (admits : Admits schema db .trial row) (kept : TrialKept db row) :
    Comparable (db.add .trial row) := by
  have active : ∀ {other : Row}, other ∈ activeTrial (db.add .trial row) ↔
      other ∈ activeTrial db ∧ (row.get "supersedes").equals (other.get "trial_id") = false ∨
        other = row ∧ (row.get "supersedes").equals (row.get "trial_id") = false :=
    sound.mem_active_add trial_correctable bound admits
  have stored : ∀ {other : Row}, other ∈ db.add .trial row .trial ↔ other ∈ db .trial ∨ other = row := by
    intro other
    rw [Database.mem_add]
    simp only [true_and]
  have plans : db.add .trial row .planCell = db .planCell := Database.add_of_ne (by decide)
  have grades : db.add .trial row .grade = db .grade := Database.add_of_ne (by decide)
  constructor
  case planned =>
    intro trial listed ok
    rw [plans]
    rcases stored.mp listed with old | new
    · exact comparable.planned trial old ok
    · subst new
      exact kept.planned ok
  case present =>
    intro trial listed ok
    by_cases here : cell trial = cell row ∧ isOk row = true
    · exact ⟨row, active.mpr (.inr ⟨rfl, kept.proper here.2⟩), here.1.symm⟩
    · have old : trial ∈ db .trial := by
        rcases stored.mp listed with old | new
        · exact old
        · subst new
          exact absurd ⟨rfl, ok⟩ here
      obtain ⟨other, wasActive, same⟩ := comparable.present trial old ok
      refine ⟨other, active.mpr (.inl ⟨wasActive, ?_⟩), same⟩
      apply Bool.eq_false_of_not_eq_true
      intro supersedes
      have otherOk := comparable.alike trial old ok other wasActive same
      have within := kept.within other (mem_trial_of_active wasActive) otherOk supersedes
      apply here
      refine ⟨(within.trans same).symm, ?_⟩
      by_contra failed
      exact kept.failing (Bool.eq_false_of_not_eq_true failed) other
        (mem_trial_of_active wasActive) otherOk within.symm
  case alike =>
    intro trial listed ok other otherActive same
    rcases active.mp otherActive with ⟨wasActive, spared⟩ | ⟨new, _⟩
    · rcases stored.mp listed with old | newTrial
      · exact comparable.alike trial old ok other wasActive same
      · subst newTrial
        by_contra failed
        have replaced := kept.passing ok other wasActive (Bool.eq_false_of_not_eq_true failed) same
        rw [replaced] at spared
        cases spared
    · subst new
      rcases stored.mp listed with old | newTrial
      · by_contra failed
        exact kept.failing (Bool.eq_false_of_not_eq_true failed) trial old ok same.symm
      · exact newTrial ▸ ok
  case passes =>
    unfold activeGrade
    rw [grades]
    exact comparable.passes

theorem Comparable.addGrade {db : Tables} (comparable : Comparable db) (sound : Sound db)
    {obj : Entity .grade} {row : Row} (bound : obj.row = .ok row)
    (admits : Admits schema db .grade row) (kept : GradeKept db row) :
    Comparable (db.add .grade row) := by
  have active : ∀ {other : Row}, other ∈ activeGrade (db.add .grade row) ↔
      other ∈ activeGrade db ∧ (row.get "supersedes").equals (other.get "grade_id") = false ∨
        other = row ∧ (row.get "supersedes").equals (row.get "grade_id") = false :=
    sound.mem_active_add grade_correctable bound admits
  have plans : db.add .grade row .planCell = db .planCell := Database.add_of_ne (by decide)
  have trials : db.add .grade row .trial = db .trial := Database.add_of_ne (by decide)
  have activeTrials : activeTrial (db.add .grade row) = activeTrial db :=
    congrArg (activeRows "trial_id") trials
  -- an active passing grade that stays is of another trial than a passing new one
  have apart : ∀ old ∈ activeGrade db, (row.get "supersedes").equals (old.get "grade_id") = false →
      (row.get "supersedes").equals (row.get "grade_id") = false → isPass old = true →
        isPass row = true → old.get "trial_id" ≠ row.get "trial_id" := by
    intro old wasActive spared proper oldPass newPass same
    rcases kept newPass with itself | replaces
    · rw [itself] at proper
      cases proper
    · rw [replaces old wasActive oldPass same] at spared
      cases spared
  constructor
  case planned =>
    rw [trials, plans]
    exact comparable.planned
  case present =>
    rw [trials, activeTrials]
    exact comparable.present
  case alike =>
    rw [trials, activeTrials]
    exact comparable.alike
  case passes =>
    intro left leftListed leftPass right rightListed rightPass same
    rcases active.mp leftListed with ⟨oldLeft, leftSpared⟩ | ⟨newLeft, proper⟩
    · rcases active.mp rightListed with ⟨oldRight, _⟩ | ⟨newRight, proper⟩
      · exact comparable.passes left oldLeft leftPass right oldRight rightPass same
      · subst newRight
        exact absurd same (apart left oldLeft leftSpared proper leftPass rightPass)
    · rcases active.mp rightListed with ⟨oldRight, rightSpared⟩ | ⟨newRight, _⟩
      · subst newLeft
        exact absurd same.symm (apart right oldRight rightSpared proper rightPass leftPass)
      · exact newLeft.trans newRight.symm

theorem Comparable.insertNext {db after : Tables} (comparable : Comparable db) (sound : Sound db)
    {entry : (table : TableName) × Entity table} (kept : RowKept db entry)
    (taken : EvalLedger.insertNext db entry = some after) : Comparable after := by
  obtain ⟨table, obj⟩ := entry
  obtain ⟨row, bound, ⟨impossible, _⟩ | ⟨admits, same⟩⟩ := insertRow_some (insertNext_some taken)
  · cases impossible
  subst same
  simp only [RowKept, bound] at kept
  by_cases inTrials : table = .trial
  · subst inTrials
    exact comparable.addTrial sound bound admits (kept.1 rfl)
  · by_cases inGrades : table = .grade
    · subst inGrades
      exact comparable.addGrade sound bound admits (kept.2 rfl)
    · apply comparable.transfer
      · exact Database.add_of_ne (Ne.symm inTrials)
      · exact Database.add_of_ne (Ne.symm inGrades)
      · exact fun planned stored => Database.mem_add.mpr (.inl stored)

/-! ### Runs -/

section

variable {Interval Statistics : Type} (interval : Nat → Nat → Interval)
  (statistics : Tables → String → Except String Statistics)

/-- Every row of the call keeps the ledger comparable, and the statistics can still be given. -/
def CallKept (db : Tables) (call : Call) : Prop :=
  Along insertNext RowKept db call.appended ∧
    ∀ after, next db call = some after → ∀ waveId, ∃ figures, statistics after waveId = .ok figures

def Given (db : Tables) : Prop :=
  (∃ wave, wave ∈ db .wave) → ∀ waveId, ∃ figures, statistics db waveId = .ok figures

theorem Comparable.next {db after : Tables} (comparable : Comparable db) (sound : Sound db)
    {call : Call} (kept : Along EvalLedger.insertNext RowKept db call.appended)
    (taken : EvalLedger.next db call = some after) : Comparable after := by
  rcases perform_cases (next_some taken) with ⟨table, obj, same, allowed, inserted⟩ | replayed
  · obtain ⟨row, _, ⟨_, same⟩ | ⟨_, same⟩⟩ := insertRow_some inserted
    · exact same ▸ comparable
    · have observed : ∀ other, registerable other = false → other ≠ table := by
        intro other hidden equal
        rw [equal, allowed] at hidden
        cases hidden
      subst same
      apply comparable.transfer
      · exact Database.add_of_ne (observed .trial rfl)
      · exact Database.add_of_ne (observed .grade rfl)
      · exact fun planned stored => Database.mem_add.mpr (.inl stored)
  · have preserved : ∀ db entry after, Sound db ∧ Comparable db → RowKept db entry →
        EvalLedger.insertNext db entry = some after → Sound after ∧ Comparable after := by
      intro db entry after held kept taken
      exact ⟨held.1.insertNext taken, held.2.insertNext held.1 kept taken⟩
    exact (replay_invariant_along preserved ⟨sound, comparable⟩ kept replayed).2

theorem comparable_empty : Comparable empty := by
  constructor
  case planned => intro trial stored; cases stored
  case present => intro trial stored; cases stored
  case alike => intro trial stored; cases stored
  case passes => intro grade stored; cases stored

/-- After a run all of whose calls keep the ledger comparable, the store refuses the arms of
exactly those waves whose verdict carries the caveat. -/
theorem balance_checks_agree {calls : List Call} {db : Tables}
    (run : replay next empty calls = some db)
    (kept : Along next (CallKept statistics) empty calls) :
    ChecksAgree interval statistics db := by
  have preserved : ∀ db call after, Sound db ∧ Comparable db ∧ Given statistics db →
      CallKept statistics db call → next db call = some after →
        Sound after ∧ Comparable after ∧ Given statistics after := by
    intro db call after held kept taken
    exact ⟨held.1.next taken, held.2.1.next held.1 kept.1 taken, fun _ => kept.2 after taken⟩
  have nothing : Given statistics empty := fun ⟨_, stored⟩ => absurd stored List.not_mem_nil
  obtain ⟨sound, comparable, given⟩ := replay_invariant_along preserved
    ⟨sound_empty, comparable_empty, nothing⟩ kept run
  intro waveId known
  apply comparable.agree interval statistics sound known
  obtain ⟨wave, stored, _⟩ := known
  exact given ⟨wave, stored⟩ waveId

end

def armTrial (arm id opStatus : String) (supersedes : Option String) : Entity .trial :=
  { values := [.str "w", .str arm, .str "t", .int 1, .str id, .str "b", .str "s", .str "ac",
      .str "m", .str "[]", .str "2026-01-01", .none, .none, .str opStatus, .none, .none, .none,
      .none, .str "trace", .none, .none, (supersedes.map PyValue.str).getD .none]
    typed := by
      cases supersedes <;> repeat first | exact .nil | refine .cons rfl ?_ }

def plannedCell (arm : String) : Entity .planCell :=
  { values := [.str "w", .str arm, .str "t", .int 1, .str "planned"]
    typed := by repeat first | exact .nil | refine .cons rfl ?_ }

def twoArms : List Call :=
  oneCell ++ [
    .register .arm {
      values := [.str "other", .str "c", .str "next", .str "ac", .str "treatment"]
      typed := by repeat first | exact .nil | refine .cons rfl ?_ },
    .register .planCell (plannedCell "arm"), .register .planCell (plannedCell "other")]

def retried : List Call :=
  twoArms ++ [.appendTrial (armTrial "arm" "a" "timeout" none),
    .appendTrial (armTrial "arm" "b" "ok" (some "a"))]

theorem balance_checks_agree_retried : ∃ db,
    replay next empty retried = some db ∧
      ChecksAgree (fun _ _ => ()) (fun _ _ => .ok ()) db := by
  have whole : (replay next empty retried).isSome = true := by decide +kernel
  obtain ⟨db, replayed⟩ := Option.isSome_iff_exists.mp whole
  have rows : Along next
      (fun db call => Along insertNext RowKept db call.appended) empty retried := by
    decide +kernel
  have kept : Along next (CallKept fun _ _ => .ok ()) empty retried :=
    rows.mono fun _ _ kept => ⟨kept, fun _ _ _ => ⟨(), rfl⟩⟩
  exact ⟨db, replayed, balance_checks_agree _ _ replayed kept⟩

def withdrawn : List Call :=
  twoArms ++ [.appendTrial (armTrial "arm" "a" "ok" none),
    .appendTrial (armTrial "other" "b" "ok" none),
    .appendTrial (armTrial "other" "c" "error" (some "b"))]

/-- The store still counts the trial that the verdict no longer sees. -/
theorem withdrawn_trial_counted : ∃ db, replay next empty withdrawn = some db ∧
    ¬ ChecksAgree (fun _ _ => ()) (fun _ _ => .ok ()) db := by
  have run : (replay next empty withdrawn).map (fun db =>
      ((db .wave).map fun wave => wave.get "wave_id", (checkArmBalance db "w").isOk,
        (verdict (fun _ _ => ()) (fun _ _ => .ok ()) db "w").map fun result =>
          (result.caveats, result.isSound))) =
      some ([.text "w"], true, .ok ([.unbalanced], false)) := by decide +kernel
  obtain ⟨db, replayed, observed⟩ := Option.map_eq_some_iff.mp run
  obtain ⟨waves, rest⟩ := Prod.mk.inj observed
  obtain ⟨passes, reported⟩ := Prod.mk.inj rest
  refine ⟨db, replayed, ?_⟩
  intro agree
  have known : ∃ wave ∈ db .wave, wave.get "wave_id" = .text "w" := by
    have listed : Sql.Value.text "w" ∈ (db .wave).map fun wave => wave.get "wave_id" :=
      waves ▸ List.mem_cons_self
    exact List.mem_map.mp listed
  have raises : RaisesUnbalanced db "w" := by
    apply (agree "w" known).mpr
    cases given : verdict (fun _ _ => ()) (fun _ _ => Except.ok ()) db "w" with
    | error message =>
        rw [given] at reported
        cases reported
    | ok result =>
        rw [given] at reported
        obtain ⟨caveats, sound⟩ := Prod.mk.inj (Except.ok.inj reported)
        exact ⟨result, given, caveats ▸ List.mem_cons_self, sound⟩
  obtain ⟨_, _, _, _, raised⟩ := raises
  rw [raised] at passes
  cases passes

end EvalLedger

end AgenticRuntime
