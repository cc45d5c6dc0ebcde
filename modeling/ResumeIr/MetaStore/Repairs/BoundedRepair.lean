import ResumeIr.MetaStore.Publication.HeadConsistency
import ResumeIr.MetaStore.Repairs.RepairMachine

/-!
# Repairs are bounded

`Bounded` collects what holds of the attempts at a repair from a session on: the
budget of every run that does not remove the record, the deadline before which no
attempt starts unless a clock that went back begins the wait anew, what becomes of an
interrupted and of a cancelled attempt, and that a call with the handle of another
attempt changes nothing. It holds in every reachable state (`reachable_bounded`).
-/

namespace ResumeIr.MetaStore

open CoreDomain Foundation Fallible
open Foundation.RetryBudget SearchPublicationSession

/-- The event removes the record of the attempts for a barrier, or in a repair
context. -/
abbrev RemovesRecord (sha256 : List UInt8 → ContentDigest) (view : Db → Option Attempts) :
    SearchPublicationSession → RepairEvent → Prop :=
  Removes (fun session => view session.store) (SearchPublicationSession.after sha256)

/-- What holds of the attempts at a repair from a session on. -/
structure Bounded (sha256 : List UInt8 → ContentDigest) (session : SearchPublicationSession) :
    Prop where
  /-- While the record of a barrier is not removed, the attempts that start for it fit
  into the budget with those already on record. -/
  migration_budget : ∀ digest events log later,
    ((repairMachine sha256).restrict fun session event =>
        ¬ RemovesRecord sha256 (migrationAttempts digest) session event).Logs
      (migrationMarks sha256 digest) session events log later →
    counted (migrationAttempts digest session.store) + starts log ≤ 5 + cancels log
  artifact_budget : ∀ key events log later,
    ((repairMachine sha256).restrict fun session event =>
        ¬ RemovesRecord sha256 (artifactAttempts key) session event).Logs
      (artifactMarks key) session events log later →
    counted (artifactAttempts key session.store) + starts log ≤ 5 + cancels log
  /-- A record that does not run stays as it is, with its deadline, until it is removed,
  an attempt is started or, in a repair context, its wait is begun anew. The attempt that
  follows is started after the deadline. -/
  migration_due : ∀ digest record events later,
    migrationAttempts digest session.store = some record → record.standing ≠ .running →
    ((repairMachine sha256).restrict fun session event =>
        ¬ RemovesRecord sha256 (migrationAttempts digest) session event).Logs
      (migrationMarks sha256 digest) session events [] later →
    migrationAttempts digest later.store = some record ∧
      ∀ barrier attemptId now attempt,
        answer (acquireMigrationRebuildPublicationAttempt sha256 barrier attemptId now) later =
          some (.started attempt) →
        attempt.barrierDigest = digest → ∃ deadline ≤ now, record.standing = .waiting deadline
  artifact_due : ∀ key record events later,
    artifactAttempts key session.store = some record → record.standing ≠ .running →
    ((repairMachine sha256).restrict fun session event =>
        ¬ RemovesRecord sha256 (artifactAttempts key) session event).Logs
      (artifactMarks key) session events [] later →
    artifactAttempts key later.store = some record ∧
      ∀ asked attemptId now attempt,
        answer (acquireArtifactRepairAttempt asked attemptId now) later =
          some (.started attempt) →
        attempt.key = key → ∃ deadline ≤ now, record.standing = .waiting deadline
  /-- An attempt that was interrupted starts no other; it is turned into a wait that
  keeps its count. -/
  migration_interrupted : ∀ barrier attemptId now row,
    session.store.repair.migrationAttempt = some row → row.phase = .running →
    row.barrierDigest = barrier.identityDigest sha256 →
    let acquire := acquireMigrationRebuildPublicationAttempt sha256 barrier attemptId now
    let after := (final acquire session).store
    (∀ attempt, answer acquire session ≠ some (.started attempt)) ∧
      (after.repair.migrationAttempt = some row ∨
        after.repair.migrationAttempt = some (row.wait .interrupted now))
  artifact_interrupted : ∀ key attemptId now row,
    session.store.repair.artifactAttempt = some row → row.phase = .running → row.key = key →
    let acquire := acquireArtifactRepairAttempt key attemptId now
    let after := (final acquire session).store
    (∀ attempt, answer acquire session ≠ some (.started attempt)) ∧
      (after.repair.artifactAttempt = some row ∨
        after.repair.artifactAttempt = some (row.wait .interrupted now))
  /-- A running attempt that is cancelled leaves the retry state from before its start,
  under a new id, and nothing if there was none. -/
  cancel_restores : ∀ key attemptId now attempt,
    answer (acquireArtifactRepairAttempt key attemptId now) session = some (.started attempt) →
    ∀ later restoredId, exactRunningAttempt later.store attempt = true →
      let cancel := cancelArtifactRepairAttempt attempt restoredId
      answer cancel later = some .restored ∧
        (final cancel later).store = later.store.setArtifactAttempt
          ((session.store.repair.artifactAttempt.filter fun row => row.key = key).map
            fun row => { row with attemptId := restoredId })
  /-- A handle that is not the attempt on record changes nothing in the store; nor does
  a report of a failure or a cancellation with one that no longer runs. -/
  stale_failMigration : ∀ attempt failure now,
    (∀ row ∈ session.store.repair.migrationAttempt,
      row.isOf attempt = true → row.phase ≠ .running) →
    (final (finishMigrationRebuildPublicationAttemptFailure attempt failure now)
      session).store = session.store
  stale_abandonMigration : ∀ attempt,
    (∀ row ∈ session.store.repair.migrationAttempt, row.isOf attempt = false) →
    (final (abandonMigrationRebuildPublicationAttempt attempt) session).store = session.store
  stale_failArtifact : ∀ attempt failure now,
    (∀ row ∈ session.store.repair.artifactAttempt,
      row.isOf attempt = true → row.phase ≠ .running) →
    (final (finishArtifactRepairAttemptFailure attempt failure now)
      session).store = session.store
  stale_cancelArtifact : ∀ attempt restoredId,
    (∀ row ∈ session.store.repair.artifactAttempt,
      row.isOf attempt = true → row.phase ≠ .running) →
    (final (cancelArtifactRepairAttempt attempt restoredId) session).store = session.store

section Bounded

variable {sha256 : List UInt8 → ContentDigest} {session : SearchPublicationSession}
  {attemptId : ContentDigest} {key : ArtifactRepairKey} {attempt : ArtifactRepairAttemptHandle}

theorem cancelAttempt_of_exact {db : Db}
    (fits : (attempt.key.visibleEpoch : Int) ≤ maxUnixSeconds) (restoredId : ContentDigest)
    (exact_ : exactRunningAttempt db attempt = true) :
    (cancelAttempt attempt restoredId).run db = .ok .restored
      (db.setArtifactAttempt (db.repair.artifactAttempt.bind fun row =>
        attempt.priorRetry.map fun prior => row.restore prior restoredId)) := by
  refine run_transaction_of_ok (run_require_bind_eq_ok.mpr ⟨fits, ?_⟩)
  rw [run_get_bind, if_pos exact_]
  rfl

/-- The row that a cancellation restores is the one before the start. -/
theorem restore_eq {row current : ArtifactRepairAttempt} {prior : ArtifactRepairRetrySnapshot}
    (waits : row.phase = .retryWait) (state : row.retryState = some prior)
    (same : current.key = row.key) (restoredId : ContentDigest) :
    current.restore prior restoredId = { row with attemptId := restoredId } := by
  obtain ⟨count, started, until_, kind, updated⟩ := retryState_eq_some.mp state
  simp only [ArtifactRepairAttempt.restore, same, ← count, ← started, ← until_, ← kind, ← updated,
    ← waits]

theorem cancelArtifact_restores {now : Int} {later : SearchPublicationSession}
    (started : answer (acquireArtifactRepairAttempt key attemptId now) session =
      some (.started attempt)) (restoredId : ContentDigest)
    (exact_ : exactRunningAttempt later.store attempt = true) :
    let cancel := cancelArtifactRepairAttempt attempt restoredId
    answer cancel later = some .restored ∧
      (final cancel later).store = later.store.setArtifactAttempt
        ((session.store.repair.artifactAttempt.filter fun row => row.key = key).map
          fun row => { row with attemptId := restoredId }) := by
  have acquired := session.acquireArtifact_effect key attemptId now
  simp only [started] at acquired
  obtain ⟨named, _, follows, fits, taken⟩ := acquired.of_started
  have done := cancelAttempt_of_exact fits restoredId exact_
  have cancelled := later.cancelArtifact_effect attempt restoredId
  have answered : answer (cancelArtifactRepairAttempt attempt restoredId) later = some .restored :=
    answer_eq_some_iff.mpr ⟨_, run_call_of_ok done⟩
  simp only [answered] at cancelled ⊢
  refine ⟨trivial, ?_⟩
  generalize (final (cancelArtifactRepairAttempt attempt restoredId) later).store = after
    at cancelled ⊢
  cases cancelled with
  | refused kept => exact absurd rfl kept
  | @restored row _ own =>
    refine congrArg later.store.setArtifactAttempt ?_
    cases follows with
    | first other =>
      rw [Option.filter_eq_none_iff.mpr (by simpa [artifactTable] using other)]
      simpa using taken
    | @next earlier _ before same waits =>
      obtain ⟨retry, prior, state⟩ := Option.map_eq_some_iff.mp taken
      have there : (session.store.repair.artifactAttempt.filter fun row => row.key = key) =
          some earlier := by
        simpa [Option.filter_eq_some_iff] using ⟨before, same⟩
      rw [there, prior]
      have names : row.key = earlier.key := (isOf_iff.mp own).1.trans (named.trans same.symm)
      exact congrArg some (restore_eq waits state.symm names restoredId)

theorem step_eq {event : RepairEvent} {next : SearchPublicationSession}
    (step : (repairMachine sha256).step session event next) :
    next = session.after sha256 event :=
  step.1

/-- **Bounded repair.** It holds from every reachable session on. -/
theorem reachable_bounded (reachable : (repairMachine sha256).Reachable session) :
    Bounded sha256 session where
  migration_budget digest _ _ _ logged :=
    starts_le step_eq (fun _ step => migration_move step digest) reachable
      ((counted_le reachable).1 digest) logged
  artifact_budget key _ _ _ logged :=
    starts_le step_eq (fun _ step => artifact_move step key) reachable
      ((counted_le reachable).2 key) logged
  migration_due digest _ _ later there halted logged := by
    have stays := waits_on step_eq (fun _ step => migration_move step digest) reachable there
      halted logged
    refine ⟨stays, fun barrier attemptId now attempt started own => ?_⟩
    have effect := later.acquireMigration_effect sha256 barrier attemptId now
    rw [← own] at stays
    simp only [started] at effect
    exact effect.due stays
  artifact_due key _ _ later there halted logged := by
    have stays := waits_on step_eq (fun _ step => artifact_move step key) reachable there
      halted logged
    refine ⟨stays, fun asked attemptId now attempt started own => ?_⟩
    have effect := later.acquireArtifact_effect asked attemptId now
    rw [← own] at stays
    simp only [started] at effect
    exact effect.due stays
  migration_interrupted barrier attemptId now row stored running own := by
    have effect := session.acquireMigration_effect sha256 barrier attemptId now
    obtain ⟨idle, kept⟩ := effect.of_running stored running own
    refine ⟨fun attempt started => ?_, kept⟩
    rw [started] at idle
    cases idle
  artifact_interrupted key attemptId now row stored running own := by
    have effect := session.acquireArtifact_effect key attemptId now
    obtain ⟨idle, kept⟩ := effect.of_running stored running own
    refine ⟨fun attempt started => ?_, kept⟩
    rw [started] at idle
    cases idle
  cancel_restores _ _ _ _ started _ restoredId := cancelArtifact_restores started restoredId
  stale_failMigration attempt failure now stale :=
    (session.failMigration_effect attempt failure now).of_stale stale
  stale_abandonMigration attempt stale := by
    obtain same | deleted := session.abandonMigration_effect attempt
    · exact same
    · rw [deleted, Db.deleteMigrationAttempt, if_neg]
      simpa [Option.any_eq_true] using stale
  stale_failArtifact attempt failure now stale :=
    (session.failArtifact_effect attempt failure now).of_stale stale
  stale_cancelArtifact attempt restoredId stale :=
    (session.cancelArtifact_effect attempt restoredId).of_stale stale

end Bounded

/-! A repair of artifacts whose first attempt was interrupted. -/

def sampleKey : ArtifactRepairKey := ⟨"base", ⟨"fingerprint"⟩, 1⟩

def sampleRepairStore : Db :=
  { sampleStore with
    head := ⟨.repairing .artifactUnavailable, some "base", 1, 0, nofun⟩
    repair := ⟨none, none, none, some sampleKey, none⟩ }

def sampleRepairEvents : List RepairEvent :=
  [.acquireArtifact sampleKey ⟨"first"⟩ 10, .loseSession, .acquireArtifact sampleKey ⟨"lost"⟩ 11]

def sampleRepair : SearchPublicationSession :=
  sampleRepairEvents.foldl (SearchPublicationSession.after sampleHash) ⟨sampleRepairStore, none⟩

theorem sampleRepair_reachable : (repairMachine sampleHash).Reachable sampleRepair := by
  have calls : ∀ event ∈ sampleRepairEvents, ∀ store, event ≠ .outside store := by
    simp [sampleRepairEvents]
  refine .foldl (fun _ event member => ?_) (.start ⟨nofun, nofun⟩)
  exact ⟨rfl, fun store outside => absurd outside (calls event member store)⟩

def sampleSecond : ArtifactRepairAttemptHandle :=
  newAttempt sampleKey (some ⟨1, 10, 12, .interrupted, 11⟩) ⟨"second"⟩

theorem sampleRepair_starts :
    answer (acquireArtifactRepairAttempt sampleKey ⟨"second"⟩ 20) sampleRepair =
      some (.started sampleSecond) := by
  decide +kernel

theorem reachable_bounded_of_sample :
    (artifactAttempts sampleKey (sampleRepair.after sampleHash .loseSession).store =
        some ⟨1, .waiting 12⟩ ∧ ∃ deadline ≤ 20, Standing.waiting 12 = .waiting deadline) ∧
      ∃ row, sampleRepair.store.repair.artifactAttempt = some row ∧
        (final (cancelArtifactRepairAttempt sampleSecond ⟨"third"⟩)
          (sampleRepair.after sampleHash
            (.acquireArtifact sampleKey ⟨"second"⟩ 20))).store.repair.artifactAttempt =
          some { row with attemptId := ⟨"third"⟩ } := by
  have bounded := reachable_bounded sampleRepair_reachable
  obtain ⟨row, stored, own⟩ : ∃ row, sampleRepair.store.repair.artifactAttempt = some row ∧
      row.key = sampleKey := ⟨_, rfl, by decide +kernel⟩
  have idle : ((repairMachine sampleHash).restrict fun session event =>
      ¬ RemovesRecord sampleHash (artifactAttempts sampleKey) session event).Logs
      (artifactMarks sampleKey) sampleRepair [.loseSession] []
      (sampleRepair.after sampleHash .loseSession) := by
    have lost : (repairMachine sampleHash).step sampleRepair .loseSession
        (sampleRepair.after sampleHash .loseSession) := ⟨rfl, by rintro _ ⟨⟩⟩
    have kept : ¬ RemovesRecord sampleHash (artifactAttempts sampleKey) sampleRepair
        .loseSession := fun removed => absurd removed.2 (by decide +kernel)
    exact .snoc (.nil sampleRepair) ⟨kept, lost⟩
  obtain ⟨stays, due⟩ :=
    bounded.artifact_due sampleKey ⟨1, .waiting 12⟩ _ _ (by decide +kernel) (by decide) idle
  have waited := due sampleKey ⟨"second"⟩ 20 sampleSecond (by decide +kernel) rfl
  have running : exactRunningAttempt (sampleRepair.after sampleHash
      (.acquireArtifact sampleKey ⟨"second"⟩ 20)).store sampleSecond = true := by
    decide +kernel
  have restored := bounded.cancel_restores _ _ _ _ sampleRepair_starts _ ⟨"third"⟩ running
  refine ⟨⟨stays, waited⟩, row, stored, ?_⟩
  rw [restored.2, stored]
  simp [own, Db.setArtifactAttempt]

/-- The clock goes back after the interrupted attempt was recorded: a request at 5
replaces the deadline 12 by 6, and the next attempt starts at 7. -/
theorem repair_starts_before_deadline :
    let back := sampleRepair.after sampleHash (.acquireArtifact sampleKey ⟨"back"⟩ 5)
    (repairMachine sampleHash).Reachable back ∧
      artifactAttempts sampleKey sampleRepair.store = some ⟨1, .waiting 12⟩ ∧
      artifactAttempts sampleKey back.store = some ⟨1, .waiting 6⟩ ∧
      ((answer (acquireArtifactRepairAttempt sampleKey ⟨"early"⟩ 7) back).bind
        (·.attempt?)).isSome = true := by
  refine ⟨sampleRepair_reachable.next ⟨rfl, by rintro _ ⟨⟩⟩, ?_⟩
  decide +kernel

end ResumeIr.MetaStore
