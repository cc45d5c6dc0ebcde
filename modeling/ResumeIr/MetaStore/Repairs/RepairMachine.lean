import ResumeIr.Foundation.RetryBudget
import ResumeIr.MetaStore.Repairs.AttemptEffects

/-!
# Runs of repair attempts

The machine of the repair attempts takes the calls of a session in any order, with
any handles, ids and clock values; sessions that are lost; the operations of the
publication journal; and whatever the rest of the store does to the other tables,
which may remove an attempt's row but never rewrites it.

For one barrier, and for one repair context, the row that is stored is the record of
a budget of five attempts: every step is a move of that budget (`migration_move`,
`artifact_move`).
-/

namespace ResumeIr.MetaStore

open CoreDomain Foundation Fallible
open Foundation.RetryBudget

namespace SearchPublicationSession

/-! ## Calls of a session -/

section Call

variable {α : Type} {x : Option ContentDigest → Transaction α}
  {remember : α → SearchPublicationSession → SearchPublicationSession}

theorem run_call_of_ok {session : SearchPublicationSession} {outcome : α} {next : Db}
    (done : (x session.activeAttemptId).run session.store = .ok outcome next) :
    (call x remember).run session =
      .ok outcome (remember outcome { session with store := next }) :=
  run_zoom_bind_eq_ok.mpr ⟨outcome, next, done, rfl⟩

/-- A call that fails changes nothing in the store; one that succeeds leaves the
store as its transaction does. -/
theorem call_ends {p : Option α → Db → Prop} (atomic : ∀ active, Atomic (x active))
    (keeps : ∀ outcome session, (remember outcome session).store = session.store)
    (session : SearchPublicationSession) (failed : p none session.store)
    (done : ∀ {outcome next}, (x session.activeAttemptId).run session.store = .ok outcome next →
      p (some outcome) next) :
    p (answer (call x remember) session) (final (call x remember) session).store := by
  cases run : (x session.activeAttemptId).run session.store with
  | ok outcome next =>
    have ended := @run_call_of_ok _ _ remember _ _ _ run
    rw [answer_eq_some_iff.mpr ⟨_, ended⟩, final_of_ok ended, keeps]
    exact done run
  | error error next =>
    have same := atomic _ _ _ _ run
    subst same
    have stopped : (call x remember).run session = .error error session := by
      rw [call, run_get_bind]
      exact run_bind_of_error (run_zoom_of_error run)
    simp only [answer, stopped, final_of_error stopped]
    exact failed

end Call

variable (session : SearchPublicationSession)

theorem rememberMigration_store (outcome : MigrationRebuildPublicationAttemptAcquire) :
    (rememberMigration outcome session).store = session.store := by
  cases outcome <;> rfl

theorem rememberArtifact_store (outcome : ArtifactRepairAttemptAcquire) :
    (rememberArtifact outcome session).store = session.store := by
  cases outcome <;> rfl

theorem clearActiveAttemptIf_store (attemptId : ContentDigest) :
    (clearActiveAttemptIf attemptId session).store = session.store := by
  unfold clearActiveAttemptIf
  split <;> rfl

theorem acquireMigration_effect (sha256 : List UInt8 → ContentDigest)
    (barrier : MigrationRebuildBarrierToken) (attemptId : ContentDigest) (now : Int) :
    let acquire := acquireMigrationRebuildPublicationAttempt sha256 barrier attemptId now
    migrationTable.Acquires session.store (barrier.identityDigest sha256) now
      ((answer acquire session).bind (·.attempt?)) (final acquire session).store :=
  call_ends (p := fun outcome => migrationTable.Acquires session.store _ now
      (outcome.bind MigrationRebuildPublicationAttemptAcquire.attempt?))
    (fun _ => .transaction _) (fun outcome s => rememberMigration_store s outcome) session
    (.refused rfl (.refl _)) acquirePublicationAttempt_ok

theorem failMigration_effect (attempt : MigrationRebuildPublicationAttempt)
    (failure : MigrationRebuildPublicationFailure) (now : Int) :
    migrationTable.Fails session.store attempt
      (final (finishMigrationRebuildPublicationAttemptFailure attempt failure now)
        session).store :=
  call_ends (p := fun _ => migrationTable.Fails session.store attempt)
    (fun _ => .transaction _) (fun _ s => clearActiveAttemptIf_store s _) session .nothing
    finishPublicationAttemptFailure_ok

theorem abandonMigration_effect (attempt : MigrationRebuildPublicationAttempt) :
    let next := (final (abandonMigrationRebuildPublicationAttempt attempt) session).store
    next = session.store ∨ next = session.store.deleteMigrationAttempt attempt :=
  call_ends (p := fun _ next =>
      next = session.store ∨ next = session.store.deleteMigrationAttempt attempt)
    (fun _ => .transaction _) (fun _ s => clearActiveAttemptIf_store s _) session (.inl rfl)
    fun done => .inr (abandonPublicationAttempt_ok done)

theorem acquireArtifact_effect (key : ArtifactRepairKey) (attemptId : ContentDigest)
    (now : Int) :
    let acquire := acquireArtifactRepairAttempt key attemptId now
    artifactTable.Acquires session.store key now ((answer acquire session).bind (·.attempt?))
      (final acquire session).store :=
  call_ends (p := fun outcome => artifactTable.Acquires session.store key now
      (outcome.bind ArtifactRepairAttemptAcquire.attempt?))
    (fun _ => .transaction _) (fun outcome s => rememberArtifact_store s outcome) session
    (.refused rfl (.refl _)) acquireAttempt_ok

theorem failArtifact_effect (attempt : ArtifactRepairAttemptHandle)
    (failure : ArtifactRepairAttemptFailure) (now : Int) :
    artifactTable.Fails session.store attempt
      (final (finishArtifactRepairAttemptFailure attempt failure now) session).store :=
  call_ends (p := fun _ => artifactTable.Fails session.store attempt)
    (fun _ => .transaction _) (fun _ s => clearActiveAttemptIf_store s _) session .nothing
    finishAttemptFailure_ok

theorem cancelArtifact_effect (attempt : ArtifactRepairAttemptHandle) (restoredId : ContentDigest) :
    let cancel := cancelArtifactRepairAttempt attempt restoredId
    Cancels attempt restoredId session.store (answer cancel session)
      (final cancel session).store :=
  call_ends (p := Cancels attempt restoredId session.store) (fun _ => .transaction _)
    (fun _ s => clearActiveAttemptIf_store s _) session (.refused nofun) cancelAttempt_ok

end SearchPublicationSession

/-! ## The machine -/

open SearchPublicationSession

inductive RepairEvent where
  | acquireMigration (barrier : MigrationRebuildBarrierToken) (attemptId : ContentDigest)
      (now : Int)
  | failMigration (attempt : MigrationRebuildPublicationAttempt)
      (failure : MigrationRebuildPublicationFailure) (now : Int)
  | abandonMigration (attempt : MigrationRebuildPublicationAttempt)
  | acquireArtifact (key : ArtifactRepairKey) (attemptId : ContentDigest) (now : Int)
  | failArtifact (attempt : ArtifactRepairAttemptHandle) (failure : ArtifactRepairAttemptFailure)
      (now : Int)
  | cancelArtifact (attempt : ArtifactRepairAttemptHandle) (restoredId : ContentDigest)
  /-- The session is dropped or the process stops; the next session remembers nothing. -/
  | loseSession
  | operation (operation : Operation)
  | outside (store : Db)

/-- The session after an event. -/
def SearchPublicationSession.after (sha256 : List UInt8 → ContentDigest)
    (session : SearchPublicationSession) : RepairEvent → SearchPublicationSession
  | .acquireMigration barrier attemptId now =>
      final (acquireMigrationRebuildPublicationAttempt sha256 barrier attemptId now) session
  | .failMigration attempt failure now =>
      final (finishMigrationRebuildPublicationAttemptFailure attempt failure now) session
  | .abandonMigration attempt => final (abandonMigrationRebuildPublicationAttempt attempt) session
  | .acquireArtifact key attemptId now =>
      final (acquireArtifactRepairAttempt key attemptId now) session
  | .failArtifact attempt failure now =>
      final (finishArtifactRepairAttemptFailure attempt failure now) session
  | .cancelArtifact attempt restoredId =>
      final (cancelArtifactRepairAttempt attempt restoredId) session
  | .loseSession => { session with activeAttemptId := none }
  | .operation operation => { session with store := operation.after sha256 session.store }
  | .outside store => { session with store }

/-- The tables admit one to five attempts. -/
structure Db.CountsChecked (db : Db) : Prop where
  migration : ∀ row ∈ db.repair.migrationAttempt,
    1 ≤ row.attemptCount ∧ row.attemptCount ≤ maxAttempts
  artifact : ∀ row ∈ db.repair.artifactAttempt,
    1 ≤ row.attemptCount ∧ row.attemptCount ≤ maxAttempts

def repairMachine (sha256 : List UInt8 → ContentDigest) :
    Machine SearchPublicationSession RepairEvent where
  start session := session.store.CountsChecked
  step session event next :=
    next = session.after sha256 event ∧
      ∀ store, event = .outside store → RowsKept session.store store

/-! ## The budget of a barrier and of a repair context -/

def standing (phase : AttemptPhase) (nextRetryAt : Option Int) : Standing :=
  match phase with
  | .running => .running
  | .retryWait => nextRetryAt.elim .spent .waiting
  | .terminal => .spent

def MigrationRebuildAttempt.attempts (row : MigrationRebuildAttempt) : Attempts :=
  ⟨row.attemptCount, standing row.phase row.nextRetryAt⟩

def ArtifactRepairAttempt.attempts (row : ArtifactRepairAttempt) : Attempts :=
  ⟨row.attemptCount, standing row.phase row.nextRetryAt⟩

/-- The attempts for a barrier that are on record. -/
def migrationAttempts (digest : ContentDigest) (db : Db) : Option Attempts :=
  (db.repair.migrationAttempt.filter fun row => row.barrierDigest = digest).map (·.attempts)

/-- The attempts in a repair context that are on record. -/
def artifactAttempts (key : ArtifactRepairKey) (db : Db) : Option Attempts :=
  (db.repair.artifactAttempt.filter fun row => row.key = key).map (·.attempts)

/-- The attempts for a barrier that an event starts. -/
def migrationMarks (sha256 : List UInt8 → ContentDigest) (digest : ContentDigest)
    (session : SearchPublicationSession) : RepairEvent → List Mark
  | .acquireMigration barrier attemptId now =>
      match (answer (acquireMigrationRebuildPublicationAttempt sha256 barrier attemptId now)
          session).bind (·.attempt?) with
      | some attempt => if attempt.barrierDigest = digest then [.start now] else []
      | none => []
  | _ => []

/-- A request finds a wait that was recorded at a later time: the clock went back. -/
def SearchPublicationSession.rebases (session : SearchPublicationSession)
    (key : ArtifactRepairKey) (now : Int) : Bool :=
  session.store.repair.artifactAttempt.any fun row =>
    row.key = key && (row.phase = .retryWait && now < row.updatedAt)

/-- The attempts in a repair context that an event starts or cancels, and the wait that
it begins anew. -/
def artifactMarks (key : ArtifactRepairKey) (session : SearchPublicationSession) :
    RepairEvent → List Mark
  | .acquireArtifact asked attemptId now =>
      match (answer (acquireArtifactRepairAttempt asked attemptId now) session).bind
          (·.attempt?) with
      | some attempt => if attempt.key = key then [.start now] else []
      | none => if session.rebases asked now ∧ asked = key then [.rebase] else []
  | .cancelArtifact attempt restoredId =>
      if attempt.key = key ∧
          answer (cancelArtifactRepairAttempt attempt restoredId) session = some .restored then
        [.cancel]
      else []
  | _ => []

section Moves

variable {ρ ω κ η : Type} {table : AttemptTable ρ ω κ η} {db next : Db}

namespace AttemptTable

def attempts (table : AttemptTable ρ ω κ η) (row : ρ) : Attempts :=
  ⟨table.count row, standing (table.phase row) (table.deadline row)⟩

variable [DecidableEq κ]

/-- The attempts for a key that are on record. -/
def view (table : AttemptTable ρ ω κ η) (wanted : κ) (db : Db) : Option Attempts :=
  viewFor table.key table.attempts wanted (table.row db)

/-- A request begins the wait of the row anew, unless it starts an attempt. -/
def rebasing (table : AttemptTable ρ ω κ η) (db : Db) (key : κ) (now : Int) : Bool :=
  (table.row db).any fun row => table.key row = key && table.rebases row now

/-- The mark of a request, seen from any key. -/
def marks (table : AttemptTable ρ ω κ η) (wanted : κ) (db : Db) (key : κ) (now : Int) :
    Option η → List Mark
  | some attempt => if table.handleKey attempt = wanted then [.start now] else []
  | none => if table.rebasing db key now ∧ key = wanted then [.rebase] else []

theorem standing_of_halted {phase : AttemptPhase} (halted : phase ≠ .running)
    (nextRetryAt : Option Int) : standing phase nextRetryAt ≠ .running := by
  cases phase with
  | running => exact absurd rfl halted
  | retryWait => cases nextRetryAt <;> simp [standing]
  | terminal => simp [standing]

theorem Settles.move (settles : table.Settles db next) (wanted : κ) :
    Move maxAttempts (table.view wanted db) [] (table.view wanted next) := by
  cases settles with
  | kept rows => exact .of_sameOrGone rows
  | stopped stored written stops =>
    rw [view, view, stored, written]
    refine .of_counted stops.key stops.count (.inl ⟨?_, standing_of_halted stops.halted _, rfl⟩)
    rw [attempts, stops.running, standing]

/-- An attempt whose predecessor is on record starts after the deadline of that one. -/
theorem Acquires.due {key : κ} {now : Int} {attempt : η} {waits : Attempts}
    (effect : table.Acquires db key now (some attempt) next)
    (stored : table.view (table.handleKey attempt) db = some waits) :
    ∃ deadline ≤ now, waits.standing = .waiting deadline := by
  obtain ⟨named, _, follows, -⟩ := effect.of_started
  rw [named, view] at stored
  cases follows with
  | first other => exact absurd (stored.symm.trans (viewFor_other other)) nofun
  | next found own phase until_ due =>
    rw [found, viewFor_own own] at stored
    obtain rfl := Option.some.inj stored
    exact ⟨_, due, by rw [attempts, phase, until_]; rfl⟩

omit [DecidableEq κ] in
/-- A request that starts nothing leaves the key and the count of the row. -/
theorem Acquires.counts {key : κ} {now : Int} {row : ρ}
    (effect : table.Acquires db key now none next) (stored : table.row db = some row) :
    ∃ later, table.row next = some later ∧ table.Counts row later := by
  cases effect with
  | refused kept => exact ⟨row, kept.trans stored, rfl, rfl⟩
  | interrupts found written stops =>
    obtain rfl := Option.some.inj (stored.symm.trans found)
    exact ⟨_, written, stops.toCounts⟩
  | rebased found _ _ _ written counts =>
    obtain rfl := Option.some.inj (stored.symm.trans found)
    exact ⟨_, written, counts⟩

theorem Acquires.move {key : κ} {now : Int} {started : Option η}
    (effect : table.Acquires db key now started next) (wanted : κ) :
    Move maxAttempts (table.view wanted db) (table.marks wanted db key now started)
      (table.view wanted next) := by
  by_cases early : started = none ∧ table.rebasing db key now = true
  · obtain ⟨rfl, early⟩ := early
    obtain ⟨row, stored, own⟩ := (Option.any_eq_true _ _).mp early
    obtain ⟨later, written, counts⟩ := effect.counts stored
    rw [view, view, stored, written]
    refine .of_counted counts.key counts.count (.inr ?_)
    simp only [Bool.and_eq_true, decide_eq_true_eq] at own
    simp [marks, early, own.1]
  cases effect with
  | refused kept =>
    rw [marks, if_neg fun both => early ⟨rfl, both.1⟩]
    exact (Settles.kept (.inl kept)).move wanted
  | interrupts stored written stops =>
    rw [marks, if_neg fun both => early ⟨rfl, both.1⟩]
    exact (Settles.stopped stored written stops).move wanted
  | rebased stored own rebases =>
    exact absurd ⟨rfl, by simp [rebasing, stored, own, rebases]⟩ early
  | @started prior attempt row _ follows named written own count running =>
    have shape : table.attempts row = ⟨prior.elim 1 fun row => table.count row + 1, .running⟩ := by
      rw [attempts, count, running, standing]
    rw [view, view, written]
    refine .of_started ?_ (by decide) (by rw [marks, named, own])
    cases follows with
    | first other => exact .inl ⟨viewFor_other (own ▸ other), shape⟩
    | next stored same waits until_ due room =>
      refine .inr ⟨_, _, ?_, due, room, shape⟩
      rw [stored, viewFor_own (same.trans own.symm), attempts, waits, until_]
      rfl

end AttemptTable

theorem isOf_iff {row : ArtifactRepairAttempt} {attempt : ArtifactRepairAttemptHandle} :
    row.isOf attempt = true ↔
      row.key = attempt.key ∧ row.attemptId = attempt.attemptId ∧
        row.attemptCount = attempt.attemptCount := by
  simp [ArtifactRepairAttempt.isOf, and_assoc]

variable {attempt : ArtifactRepairAttemptHandle} {restoredId : ContentDigest}
  {outcome : Option ArtifactRepairAttemptCancellationOutcome}

theorem artifactAttempts_eq (key : ArtifactRepairKey) (db : Db) :
    artifactAttempts key db = viewFor (·.key) (·.attempts) key db.repair.artifactAttempt := rfl

/-- A cancellation takes the last start back, or removes the row of the first one. -/
theorem Cancels.move (effect : Cancels attempt restoredId db outcome next)
    (key : ArtifactRepairKey) :
    Move maxAttempts (artifactAttempts key db)
      (if attempt.key = key ∧ outcome = some .restored then [.cancel] else [])
      (artifactAttempts key next) := by
  cases effect with
  | refused kept =>
    rw [if_neg fun restored => kept restored.2]
    exact .stay _
  | @restored row stored own running =>
    obtain ⟨same, -, count⟩ := isOf_iff.mp own
    rw [attempt.counted] at count
    rw [artifactAttempts_eq, artifactAttempts_eq, stored]
    simp only [and_true, Db.setArtifactAttempt]
    by_cases own : attempt.key = key
    · rw [if_pos own, viewFor_own (same.trans own)]
      cases prior : attempt.priorRetry with
      | none => exact .removed _ _
      | some retry =>
        rw [prior] at count
        have kept : (row.restore retry restoredId).key = key := same.trans own
        rw [Option.map_some, viewFor_own kept]
        simp only [ArtifactRepairAttempt.attempts, running, count]
        exact .cancelled retry.attemptCount retry.nextRetryAt
    · have absent : ∀ restored ∈ attempt.priorRetry.map fun prior => row.restore prior restoredId,
          restored.key ≠ key := by
        intro restored there
        obtain ⟨retry, -, rfl⟩ := Option.map_eq_some_iff.mp there
        rw [← same] at own
        exact own
      rw [if_neg own, viewFor_other (by simpa [same] using own), viewFor_other absent]
      exact .stay none

theorem Cancels.migration (effect : Cancels attempt restoredId db outcome next) :
    next.repair.migrationAttempt = db.repair.migrationAttempt := by
  cases effect with
  | refused | restored => rfl

theorem abandoned_rows {handle : MigrationRebuildPublicationAttempt}
    (abandoned : next = db ∨ next = db.deleteMigrationAttempt handle) : RowsKept db next := by
  obtain rfl | rfl := abandoned
  · exact ⟨.refl _, .refl _⟩
  unfold Db.deleteMigrationAttempt
  split
  · exact ⟨.inr rfl, .refl _⟩
  · exact ⟨.refl _, .refl _⟩

end Moves

section Steps

variable {sha256 : List UInt8 → ContentDigest} {session next : SearchPublicationSession}
  {event : RepairEvent}

/-- **Every step is a move of the budget of each barrier.** -/
theorem migration_move (step : (repairMachine sha256).step session event next)
    (digest : ContentDigest) :
    Move maxAttempts (migrationAttempts digest session.store)
      (migrationMarks sha256 digest session event) (migrationAttempts digest next.store) := by
  obtain ⟨rfl, apart⟩ := step
  cases event with
  | acquireMigration barrier attemptId now =>
    have move := (session.acquireMigration_effect sha256 barrier attemptId now).move digest
    simp only [migrationMarks]
    cases started : (answer (acquireMigrationRebuildPublicationAttempt sha256 barrier attemptId now)
        session).bind (·.attempt?) with
    | none =>
      rw [started, AttemptTable.marks, if_neg (by simp [AttemptTable.rebasing, migrationTable])]
        at move
      exact move
    | some attempt =>
      rw [started] at move
      exact move
  | failMigration attempt failure now =>
    exact (session.failMigration_effect attempt failure now).both.1.move digest
  | abandonMigration attempt =>
    exact .of_sameOrGone (abandoned_rows (session.abandonMigration_effect attempt)).1
  | acquireArtifact key attemptId now =>
    exact .of_sameOrGone (session.acquireArtifact_effect key attemptId now).other
  | failArtifact attempt failure now =>
    exact .of_sameOrGone (session.failArtifact_effect attempt failure now).both.2
  | cancelArtifact attempt restoredId =>
    exact .of_sameOrGone (.inl (session.cancelArtifact_effect attempt restoredId).migration)
  | loseSession => exact .stay _
  | operation operation => exact (rows_after operation).migration.move digest
  | outside store => exact .of_sameOrGone (apart store rfl).1

/-- **Every step is a move of the budget of each repair context.** -/
theorem artifact_move (step : (repairMachine sha256).step session event next)
    (key : ArtifactRepairKey) :
    Move maxAttempts (artifactAttempts key session.store) (artifactMarks key session event)
      (artifactAttempts key next.store) := by
  obtain ⟨rfl, apart⟩ := step
  cases event with
  | acquireMigration barrier attemptId now =>
    exact .of_sameOrGone (session.acquireMigration_effect sha256 barrier attemptId now).other
  | failMigration attempt failure now =>
    exact .of_sameOrGone (session.failMigration_effect attempt failure now).both.2
  | abandonMigration attempt =>
    exact .of_sameOrGone (abandoned_rows (session.abandonMigration_effect attempt)).2
  | acquireArtifact asked attemptId now =>
    have move := (session.acquireArtifact_effect asked attemptId now).move key
    simp only [artifactMarks]
    cases started : (answer (acquireArtifactRepairAttempt asked attemptId now) session).bind
        (·.attempt?) with
    | none | some attempt =>
      rw [started] at move
      exact move
  | failArtifact attempt failure now =>
    exact (session.failArtifact_effect attempt failure now).both.1.move key
  | cancelArtifact attempt restoredId =>
    exact (session.cancelArtifact_effect attempt restoredId).move key
  | loseSession => exact .stay _
  | operation operation => exact (rows_after operation).artifact.move key
  | outside store => exact .of_sameOrGone (apart store rfl).2

/-- The counts of the rows stay within the budget. -/
theorem counted_le (reachable : (repairMachine sha256).Reachable session) :
    (∀ digest, counted (migrationAttempts digest session.store) ≤ maxAttempts) ∧
      ∀ key, counted (artifactAttempts key session.store) ≤ maxAttempts := by
  have kept : (repairMachine sha256).Inductive fun session =>
      (∀ digest, counted (migrationAttempts digest session.store) ≤ maxAttempts) ∧
        ∀ key, counted (artifactAttempts key session.store) ≤ maxAttempts := by
    constructor
    · intro session checked
      exact ⟨fun digest => counted_viewFor_le fun row stored => (checked.migration row stored).2,
        fun key => counted_viewFor_le fun row stored => (checked.artifact row stored).2⟩
    · intro session event next bounded step
      exact ⟨fun digest => (migration_move step digest).counted_le (bounded.1 digest),
        fun key => (artifact_move step key).counted_le (bounded.2 key)⟩
  exact kept.holds reachable

end Steps

end ResumeIr.MetaStore
