import ResumeIr.MetaStore.Publication.Journal
import ResumeIr.MetaStore.Repairs.Attempts

/-!
# What a call about an attempt does

The two tables of attempts are handled alike (`AttemptTable`). For each call there is
one list of everything it can do to the row of its table, with what it has found there.
To the row of the other table it does nothing, or the head takes it along. A call that
fails does nothing, since each is one transaction.
-/

namespace ResumeIr.MetaStore

open CoreDomain Foundation Fallible

variable {sha256 : List UInt8 → ContentDigest} {db next : Db} {active : Option ContentDigest}

/-- A row is as before, or it is gone. -/
def SameOrGone {α : Type} (before after : Option α) : Prop := after = before ∨ after = none

theorem SameOrGone.refl {α : Type} (row : Option α) : SameOrGone row row := .inl rfl

/-- A head that leaves the repair context takes the attempt along. -/
theorem updateHead_artifactAttempt (db : Db) (head : SearchProjectionState) :
    SameOrGone db.repair.artifactAttempt (db.updateHead head).repair.artifactAttempt := by
  simp only [Db.updateHead, repairAfterHeadUpdate]
  split
  · exact .inl rfl
  · exact .inr rfl

theorem updateHead_migrationAttempt (db : Db) (head : SearchProjectionState) :
    SameOrGone db.repair.migrationAttempt (db.updateHead head).repair.migrationAttempt := by
  simp only [Db.updateHead, repairAfterHeadUpdate]
  split
  · exact .inr rfl
  · exact .inl rfl

/-! ## The tables of attempts -/

/-- One of the two tables of attempts, with what is read of its row. -/
structure AttemptTable (ρ ω κ η : Type) where
  row : Db → Option ρ
  /-- The row of the other table. -/
  other : Db → Option ω
  key : ρ → κ
  count : ρ → Nat
  phase : ρ → AttemptPhase
  deadline : ρ → Option Int
  /-- The row of an attempt that was interrupted. -/
  interrupted : ρ → Int → ρ
  /-- The wait of the row is begun anew by a request at this time. -/
  rebases : ρ → Int → Bool
  /-- The row is the one of a handle, whatever its phase. -/
  isOf : ρ → η → Bool
  handleKey : η → κ
  /-- What a new handle takes from the row before it. -/
  takes : Option ρ → η → Prop

def migrationTable : AttemptTable MigrationRebuildAttempt ArtifactRepairAttempt ContentDigest
    MigrationRebuildPublicationAttempt where
  row db := db.repair.migrationAttempt
  other db := db.repair.artifactAttempt
  key := (·.barrierDigest)
  count := (·.attemptCount)
  phase := (·.phase)
  deadline := (·.nextRetryAt)
  interrupted row now := row.wait .interrupted now
  rebases _ _ := false
  isOf := MigrationRebuildAttempt.isOf
  handleKey := (·.barrierDigest)
  takes _ _ := True

def artifactTable : AttemptTable ArtifactRepairAttempt MigrationRebuildAttempt ArtifactRepairKey
    ArtifactRepairAttemptHandle where
  row db := db.repair.artifactAttempt
  other db := db.repair.migrationAttempt
  key := (·.key)
  count := (·.attemptCount)
  phase := (·.phase)
  deadline := (·.nextRetryAt)
  interrupted row now := row.wait .interrupted now
  rebases row now := row.phase = .retryWait && now < row.updatedAt
  isOf := ArtifactRepairAttempt.isOf
  handleKey := (·.key)
  takes prior attempt := (attempt.key.visibleEpoch : Int) ≤ maxUnixSeconds ∧
    attempt.priorRetry.map some = prior.map (·.retryState)

namespace AttemptTable

variable {ρ ω κ η : Type}

/-- The row of the same attempts: with the same key and count. -/
structure Counts (table : AttemptTable ρ ω κ η) (row later : ρ) : Prop where
  key : table.key later = table.key row
  count : table.count later = table.count row

/-- The attempt of a row stops. -/
structure Stops (table : AttemptTable ρ ω κ η) (row stopped : ρ) : Prop
    extends table.Counts row stopped where
  running : table.phase row = .running
  halted : table.phase stopped ≠ .running

/-- What may happen to the row without the start of an attempt. -/
inductive Settles (table : AttemptTable ρ ω κ η) (db next : Db) : Prop where
  | kept (rows : SameOrGone (table.row db) (table.row next))
  | stopped {row stopped : ρ} (stored : table.row db = some row)
      (written : table.row next = some stopped) (stops : table.Stops row stopped)

/-- The row that a new attempt follows: none for its key, or one that has waited long
enough. -/
inductive Follows (table : AttemptTable ρ ω κ η) (db : Db) (key : κ) (now : Int) :
    Option ρ → Prop where
  | first (other : ∀ row ∈ table.row db, table.key row ≠ key) : Follows table db key now none
  | next {row : ρ} {deadline : Int} (stored : table.row db = some row)
      (own : table.key row = key) (waits : table.phase row = .retryWait)
      (until_ : table.deadline row = some deadline) (due : deadline ≤ now)
      (room : table.count row < maxAttempts) : Follows table db key now (some row)

/-- What a request for an attempt does, with the handle that it answers. -/
inductive Acquires (table : AttemptTable ρ ω κ η) (db : Db) (key : κ) (now : Int) :
    Option η → Db → Prop where
  | refused {next : Db} (kept : table.row next = table.row db)
      (other : SameOrGone (table.other db) (table.other next)) :
      Acquires table db key now none next
  | interrupts {row : ρ} {next : Db} (stored : table.row db = some row)
      (written : table.row next = some (table.interrupted row now))
      (stops : table.Stops row (table.interrupted row now))
      (other : SameOrGone (table.other db) (table.other next)) :
      Acquires table db key now none next
  | rebased {row waiting : ρ} {next : Db} (stored : table.row db = some row)
      (own : table.key row = key) (early : table.rebases row now = true)
      (idle : table.phase row ≠ .running) (written : table.row next = some waiting)
      (counts : table.Counts row waiting)
      (other : SameOrGone (table.other db) (table.other next)) :
      Acquires table db key now none next
  | started {prior : Option ρ} {attempt : η} {row : ρ} {next : Db}
      (follows : table.Follows db key now prior) (named : table.handleKey attempt = key)
      (written : table.row next = some row) (own : table.key row = key)
      (count : table.count row = prior.elim 1 fun row => table.count row + 1)
      (running : table.phase row = .running) (takes : table.takes prior attempt)
      (other : SameOrGone (table.other db) (table.other next)) :
      Acquires table db key now (some attempt) next

/-- What a report of a failure does: nothing unless the handle is the running attempt
on record. -/
inductive Fails (table : AttemptTable ρ ω κ η) (db : Db) (attempt : η) : Db → Prop where
  | nothing : Fails table db attempt db
  | writes {row : ρ} {next : Db} (stored : table.row db = some row)
      (exact_ : table.isOf row attempt = true) (running : table.phase row = .running)
      (settles : table.Settles db next)
      (other : SameOrGone (table.other db) (table.other next)) : Fails table db attempt next

variable {table : AttemptTable ρ ω κ η} {key : κ} {now : Int} {row : ρ}

theorem Acquires.other {started : Option η} (effect : table.Acquires db key now started next) :
    SameOrGone (table.other db) (table.other next) := by
  cases effect with
  | refused _ other | interrupts _ _ _ other | rebased _ _ _ _ _ _ other
  | started _ _ _ _ _ _ _ other => exact other

theorem Fails.both {attempt : η} (effect : table.Fails db attempt next) :
    table.Settles db next ∧ SameOrGone (table.other db) (table.other next) := by
  cases effect with
  | nothing => exact ⟨.kept (.refl _), .refl _⟩
  | writes _ _ _ settles other => exact ⟨settles, other⟩

theorem Fails.of_stale {attempt : η} (effect : table.Fails db attempt next)
    (stale : ∀ row ∈ table.row db, table.isOf row attempt = true → table.phase row ≠ .running) :
    next = db := by
  cases effect with
  | nothing => rfl
  | writes stored own running => exact absurd running (stale _ stored own)

theorem Acquires.of_started {attempt : η}
    (effect : table.Acquires db key now (some attempt) next) :
    table.handleKey attempt = key ∧
      ∃ prior, table.Follows db key now prior ∧ table.takes prior attempt := by
  cases effect with
  | started follows named _ _ _ _ takes => exact ⟨named, _, follows, takes⟩

/-- An attempt that still runs is not followed by another one. -/
theorem Acquires.of_running {started : Option η}
    (effect : table.Acquires db key now started next) (stored : table.row db = some row)
    (running : table.phase row = .running) (own : table.key row = key) :
    started = none ∧
      (table.row next = some row ∨ table.row next = some (table.interrupted row now)) := by
  cases effect with
  | refused kept => exact ⟨rfl, .inl (kept.trans stored)⟩
  | interrupts found written =>
    obtain rfl := Option.some.inj (stored.symm.trans found)
    exact ⟨rfl, .inr written⟩
  | rebased found _ _ idle =>
    obtain rfl := Option.some.inj (stored.symm.trans found)
    exact absurd running idle
  | started follows =>
    cases follows with
    | first other => exact absurd own (other row stored)
    | next found _ waits =>
      obtain rfl := Option.some.inj (stored.symm.trans found)
      exact nomatch running.symm.trans waits

end AttemptTable

theorem MigrationRebuildAttempt.stops_wait {row : MigrationRebuildAttempt}
    (running : row.phase = .running) (errorClass : MigrationRebuildPublicationErrorClass)
    (now : Int) : migrationTable.Stops row (row.wait errorClass now) :=
  ⟨⟨rfl, rfl⟩, running, nofun⟩

theorem ArtifactRepairAttempt.stops_wait {row : ArtifactRepairAttempt}
    (running : row.phase = .running) (errorKind : ArtifactRepairAttemptErrorKind) (now : Int) :
    artifactTable.Stops row (row.wait errorKind now) :=
  ⟨⟨rfl, rfl⟩, running, nofun⟩

/-! ## Migration rebuilds -/

/-- The handle of an attempt that was started. -/
def MigrationRebuildPublicationAttemptAcquire.attempt? :
    MigrationRebuildPublicationAttemptAcquire → Option MigrationRebuildPublicationAttempt
  | .started attempt => some attempt
  | _ => none

section Migration

variable {outcome : MigrationRebuildPublicationAttemptAcquire}
  {attempt : MigrationRebuildPublicationAttempt} {barrier : MigrationRebuildBarrierToken}
  {attemptId : ContentDigest} {now : Int}

theorem blockExhaustedMigration_ok
    (done : (blockExhaustedMigration now).run db = .ok outcome next) :
    outcome.attempt? = none ∧ (next = db ∨ next = blockHead db now) := by
  unfold blockExhaustedMigration blockUnpublishedMigrationHead at done
  rw [run_get_bind] at done
  by_cases unpublished :
      db.head.serviceState = .repairing .migrationRebuild ∧ db.head.generation = none
  · rw [if_pos unpublished] at done
    cases done
    exact ⟨rfl, .inr rfl⟩
  · rw [if_neg unpublished] at done
    cases done
    exact ⟨rfl, .inl rfl⟩

theorem startPublicationAttempt_ok {prior : Option MigrationRebuildAttempt}
    (follows : migrationTable.Follows db (barrier.identityDigest sha256) now prior)
    (done : (startPublicationAttempt sha256 barrier attemptId
      (prior.elim 1 fun row => row.attemptCount + 1) now).run db = .ok outcome next) :
    migrationTable.Acquires db (barrier.identityDigest sha256) now outcome.attempt? next := by
  obtain ⟨-, done⟩ := run_require_bind_eq_ok.mp done
  cases done
  exact .started follows rfl rfl rfl rfl rfl trivial (.refl _)

theorem resumePublicationAttempt_ok {existing : MigrationRebuildAttempt}
    (stored : db.repair.migrationAttempt = some existing)
    (own : existing.barrierDigest = barrier.identityDigest sha256)
    (done : (resumePublicationAttempt sha256 active barrier existing attemptId now).run db =
      .ok outcome next) :
    migrationTable.Acquires db (barrier.identityDigest sha256) now outcome.attempt? next := by
  unfold resumePublicationAttempt at done
  cases phase : existing.phase with
  | running =>
    simp only [phase] at done
    split at done
    · cases done
      exact .refused rfl (.refl _)
    · obtain ⟨-, done⟩ := run_require_bind_eq_ok.mp done
      obtain ⟨-, done⟩ := run_require_bind_eq_ok.mp done
      have stops := MigrationRebuildAttempt.stops_wait phase .interrupted now
      split at done
      · obtain ⟨idle, rfl | rfl⟩ := blockExhaustedMigration_ok done
        · rw [idle]
          exact .interrupts stored rfl stops (.refl _)
        · rw [idle]
          exact .interrupts stored rfl stops (updateHead_artifactAttempt _ _)
      · cases done
        exact .interrupts stored rfl stops (.refl _)
  | retryWait =>
    simp only [phase] at done
    obtain ⟨deadline, until_, done⟩ := run_demand_bind_eq_ok.mp done
    split at done
    · cases done
      exact .refused rfl (.refl _)
    next early =>
      split at done
      · obtain ⟨idle, rfl | rfl⟩ := blockExhaustedMigration_ok done
        · rw [idle]
          exact .refused rfl (.refl _)
        · rw [idle]
          exact .refused rfl (updateHead_artifactAttempt _ _)
      next spent =>
        exact startPublicationAttempt_ok
          (.next stored own phase until_ (not_lt.mp early) (not_le.mp spent)) done
  | terminal =>
    simp only [phase] at done
    cases done

theorem acquirePublicationAttempt_ok
    (done : (acquirePublicationAttempt sha256 active barrier attemptId now).run db =
      .ok outcome next) :
    migrationTable.Acquires db (barrier.identityDigest sha256) now outcome.attempt? next := by
  obtain ⟨_, _, quiet, done⟩ := run_bind_eq_ok.mp (run_transaction_eq_ok.mp done)
  obtain ⟨rfl, -⟩ := ensureNoPendingRetirement_ok quiet
  rw [run_get_bind] at done
  split at done
  · cases stored : db.repair.migrationAttempt with
    | none =>
      simp only [stored] at done
      exact startPublicationAttempt_ok (.first (by simp [migrationTable, stored])) done
    | some existing =>
      simp only [stored] at done
      obtain ⟨-, done⟩ := run_require_bind_eq_ok.mp done
      split at done
      next own => exact resumePublicationAttempt_ok stored own done
      next own =>
        exact startPublicationAttempt_ok (.first (by simpa [migrationTable, stored] using own))
          done
  · cases done
    exact .refused rfl (.refl _)

theorem exactPublicationAttempt_iff :
    exactPublicationAttempt db attempt = true ↔
      ∃ row, db.repair.migrationAttempt = some row ∧ row.isOf attempt = true ∧
        row.phase = .running ∧
        db.repair.activeContractId = some attempt.processingContractId := by
  simp only [exactPublicationAttempt, Bool.and_eq_true, Option.any_eq_true, beq_iff_eq]
  constructor
  · rintro ⟨⟨row, stored, own, running⟩, contract⟩
    exact ⟨row, stored, own, running, contract⟩
  · rintro ⟨row, stored, own, running, contract⟩
    exact ⟨⟨row, stored, own, running⟩, contract⟩

theorem finishPublicationAttemptFailure_ok {failure : MigrationRebuildPublicationFailure}
    {outcome : AttemptFailureOutcome}
    (done : (finishPublicationAttemptFailure attempt failure now).run db = .ok outcome next) :
    migrationTable.Fails db attempt next := by
  replace done := run_transaction_eq_ok.mp done
  rw [run_get_bind] at done
  by_cases exact_ : exactPublicationAttempt db attempt = true
  · obtain ⟨row, stored, own, running, -⟩ := exactPublicationAttempt_iff.mp exact_
    dsimp only at done
    split at done
    · cases done
      refine .writes stored own running (.kept (.inr ?_)) ?_
      · simp [migrationTable, Db.deleteMigrationAttempt, Db.setMigrationAttempt, stored, own]
      · simp [migrationTable, Db.deleteMigrationAttempt, Db.setMigrationAttempt, stored, own,
          SameOrGone]
    · obtain ⟨-, done⟩ := run_require_bind_eq_ok.mp done
      simp only [stored] at done
      have stops := MigrationRebuildAttempt.stops_wait running failure.errorClass now
      have waits : migrationTable.Fails db attempt
          (db.setMigrationAttempt (some (row.wait failure.errorClass now))) :=
        .writes stored own running (.stopped stored rfl stops) (.refl _)
      split at done
      · split at done
        · cases done
          exact waits
        · split at done
          next blocked found =>
            cases done
            unfold blockUnpublishedMigrationHead at found
            split at found
            · cases found
              exact .writes stored own running (.stopped stored rfl stops)
                (updateHead_artifactAttempt _ _)
            · cases found
          next =>
            cases done
            exact waits
      · cases done
        exact waits
  · simp only [exact_, Bool.and_false] at done
    cases done
    exact .nothing

theorem abandonPublicationAttempt_ok {outcome : AttemptFailureOutcome}
    (done : (abandonPublicationAttempt attempt).run db = .ok outcome next) :
    next = db.deleteMigrationAttempt attempt := by
  rw [abandonPublicationAttempt, run_transaction_eq_ok, run_modify_bind] at done
  cases done
  rfl

end Migration

/-! ## Repairs of artifacts -/

def ArtifactRepairAttemptAcquire.attempt? :
    ArtifactRepairAttemptAcquire → Option ArtifactRepairAttemptHandle
  | .started attempt => some attempt
  | _ => none

section Artifact

variable {key : ArtifactRepairKey} {row : ArtifactRepairAttempt} {attemptId : ContentDigest}
  {now : Int} {outcome : ArtifactRepairAttemptAcquire} {attempt : ArtifactRepairAttemptHandle}

theorem retryState_eq_some {prior : ArtifactRepairRetrySnapshot} :
    row.retryState = some prior ↔
      row.attemptCount = prior.attemptCount ∧ row.startedAt = prior.startedAt ∧
        row.nextRetryAt = some prior.nextRetryAt ∧
        row.lastErrorKind = some prior.lastErrorKind ∧ row.updatedAt = prior.updatedAt := by
  cases row with
  | mk key attemptId attemptCount phase startedAt nextRetryAt lastErrorKind updatedAt =>
    cases prior
    cases nextRetryAt <;> cases lastErrorKind <;>
      simp [ArtifactRepairAttempt.retryState]

/-- The head stays in its repair context when it is blocked. -/
theorem blockHead_repair (inContext : exactRepairContextMatches db key = true) :
    (blockHead db now).repair = db.repair := by
  simp only [exactRepairContextMatches, exactRepairContext, Bool.and_eq_true, beq_iff_eq]
    at inContext
  obtain ⟨⟨⟨context, generation⟩, epoch⟩, -⟩ := inContext
  have stays : (blockHead db now).repair =
      { db.repair with artifactContext := db.repair.artifactContext } := by
    simp [blockHead, Db.updateHead, repairAfterHeadUpdate, SearchProjectionState.block, context,
      generation, epoch]
  exact stays

theorem blockExactHead_some {blocked : Db} (found : blockExactHead db row now = some blocked) :
    blocked.repair = db.repair := by
  unfold blockExactHead at found
  split at found
  next exact_ =>
    obtain rfl := Option.some.inj found
    exact blockHead_repair exact_.1
  next => cases found

theorem blockExhaustedRepair_ok (done : (blockExhaustedRepair row now).run db = .ok outcome next) :
    outcome.attempt? = none ∧ next.repair = db.repair := by
  unfold blockExhaustedRepair at done
  rw [run_get_bind] at done
  cases found : blockExactHead db row now with
  | some blocked =>
    simp only [found] at done
    cases done
    exact ⟨rfl, blockExactHead_some found⟩
  | none =>
    simp only [found] at done
    cases done
    exact ⟨rfl, rfl⟩

theorem startAttempt_ok {prior : Option ArtifactRepairAttempt}
    {retry : Option ArtifactRepairRetrySnapshot}
    (fits : (key.visibleEpoch : Int) ≤ maxUnixSeconds)
    (follows : artifactTable.Follows db key now prior)
    (same : retry.map some = prior.map (·.retryState))
    (count : (newAttempt key retry attemptId).attemptCount =
      prior.elim 1 fun row => row.attemptCount + 1)
    (done : (startAttempt key retry attemptId now).run db = .ok outcome next) :
    artifactTable.Acquires db key now outcome.attempt? next := by
  obtain ⟨-, done⟩ := run_require_bind_eq_ok.mp done
  obtain ⟨-, done⟩ := run_require_bind_eq_ok.mp done
  cases done
  exact .started follows rfl rfl rfl count rfl ⟨fits, same⟩ (.refl _)

theorem resumeAttempt_ok {existing : ArtifactRepairAttempt}
    (fits : (key.visibleEpoch : Int) ≤ maxUnixSeconds)
    (stored : db.repair.artifactAttempt = some existing) (own : existing.key = key)
    (done : (resumeAttempt active existing attemptId now).run db = .ok outcome next) :
    artifactTable.Acquires db key now outcome.attempt? next := by
  unfold resumeAttempt at done
  cases phase : existing.phase with
  | running =>
    simp only [phase] at done
    split at done
    · cases done
      exact .refused rfl (.refl _)
    · obtain ⟨-, done⟩ := run_require_bind_eq_ok.mp done
      obtain ⟨-, done⟩ := run_require_bind_eq_ok.mp done
      have stops := ArtifactRepairAttempt.stops_wait phase .interrupted now
      split at done
      · obtain ⟨idle, kept⟩ := blockExhaustedRepair_ok done
        rw [idle]
        exact .interrupts stored (congrArg (·.artifactAttempt) kept) stops
          (.inl (congrArg (·.migrationAttempt) kept))
      · cases done
        exact .interrupts stored rfl stops (.refl _)
  | retryWait =>
    simp only [phase] at done
    obtain ⟨deadline, until_, done⟩ := run_demand_bind_eq_ok.mp done
    obtain ⟨-, done⟩ := run_require_bind_eq_ok.mp done
    have idle : existing.phase ≠ .running := by simp [phase]
    split at done
    next back =>
      obtain ⟨-, done⟩ := run_require_bind_eq_ok.mp done
      cases done
      exact .rebased stored own (by simp [artifactTable, phase, back]) idle rfl ⟨rfl, rfl⟩ (.refl _)
    next =>
      split at done
      · cases done
        exact .refused rfl (.refl _)
      next early =>
        split at done
        · obtain ⟨idle, kept⟩ := blockExhaustedRepair_ok done
          rw [idle]
          exact .refused (congrArg (·.artifactAttempt) kept)
            (.inl (congrArg (·.migrationAttempt) kept))
        next spent =>
          obtain ⟨retry, state, done⟩ := run_demand_bind_eq_ok.mp done
          rw [own] at done
          refine startAttempt_ok fits
            (.next stored own phase until_ (not_lt.mp early) (not_le.mp spent)) ?_ ?_ done
          · rw [Option.map_some, Option.map_some, state]
          · exact congrArg (· + 1) (retryState_eq_some.mp state).1.symm
  | terminal =>
    simp only [phase] at done
    cases done

theorem acquireAttempt_ok
    (done : (acquireAttempt active key attemptId now).run db = .ok outcome next) :
    artifactTable.Acquires db key now outcome.attempt? next := by
  obtain ⟨fits, done⟩ := run_require_bind_eq_ok.mp (run_transaction_eq_ok.mp done)
  obtain ⟨_, _, quiet, done⟩ := run_bind_eq_ok.mp done
  obtain ⟨rfl, -⟩ := ensureNoPendingRetirement_ok quiet
  rw [run_get_bind] at done
  split at done
  · cases stored : db.repair.artifactAttempt with
    | none =>
      simp only [stored] at done
      exact startAttempt_ok fits (.first (by simp [artifactTable, stored])) rfl rfl done
    | some existing =>
      simp only [stored] at done
      split at done
      next own => exact resumeAttempt_ok fits stored own done
      next own =>
        exact startAttempt_ok fits (.first (by simpa [artifactTable, stored] using own)) rfl rfl
          done
  · cases done
    exact .refused rfl (.refl _)

theorem exactRunningAttempt_iff :
    exactRunningAttempt db attempt = true ↔
      ∃ row, db.repair.artifactAttempt = some row ∧ row.isOf attempt = true ∧
        row.phase = .running := by
  simp only [exactRunningAttempt, Bool.and_eq_true, Option.any_eq_true, beq_iff_eq]

theorem finishAttemptFailure_ok {failure : ArtifactRepairAttemptFailure}
    {outcome : AttemptFailureOutcome}
    (done : (finishAttemptFailure attempt failure now).run db = .ok outcome next) :
    artifactTable.Fails db attempt next := by
  obtain ⟨-, done⟩ := run_require_bind_eq_ok.mp (run_transaction_eq_ok.mp done)
  rw [run_get_bind] at done
  cases ended : failure.isTerminal && exactTerminalAttempt db attempt
      && exactTerminalBlockedRepairContextMatches db attempt.key with
  | true =>
    simp only [ended] at done
    cases done
    exact .nothing
  | false =>
    simp only [ended, Bool.false_eq_true, if_false] at done
    by_cases exact_ : exactRunningAttempt db attempt = true
    · obtain ⟨row, stored, own, running⟩ := exactRunningAttempt_iff.mp exact_
      split at done
      · cases done
        exact .writes stored own running (.kept (.inr rfl)) (.refl _)
      · obtain ⟨-, done⟩ := run_require_bind_eq_ok.mp done
        obtain ⟨found, present, done⟩ := run_demand_bind_eq_ok.mp done
        obtain rfl : row = found := Option.some.inj (stored.symm.trans present)
        have stops := ArtifactRepairAttempt.stops_wait running failure.errorKind now
        have waits : artifactTable.Fails db attempt
            (db.setArtifactAttempt (some (row.wait failure.errorKind now))) :=
          .writes stored own running (.stopped stored rfl stops) (.refl _)
        split at done
        · split at done
          next blocked found =>
            cases done
            have kept := blockExactHead_some found
            exact .writes stored own running
              (.stopped stored (congrArg (·.artifactAttempt) kept) stops)
              (.inl (congrArg (·.migrationAttempt) kept))
          next =>
            cases done
            exact waits
        · cases done
          exact waits
    · simp only [exact_] at done
      cases done
      exact .nothing

/-- What a cancellation does: nothing, or it restores the retry state of the handle. -/
inductive Cancels (attempt : ArtifactRepairAttemptHandle) (restoredId : ContentDigest) (db : Db) :
    Option ArtifactRepairAttemptCancellationOutcome → Db → Prop where
  | refused {outcome : Option ArtifactRepairAttemptCancellationOutcome}
      (kept : outcome ≠ some .restored) : Cancels attempt restoredId db outcome db
  | restored {row : ArtifactRepairAttempt} (stored : db.repair.artifactAttempt = some row)
      (own : row.isOf attempt = true) (running : row.phase = .running) :
      Cancels attempt restoredId db (some .restored) (db.setArtifactAttempt
        (attempt.priorRetry.map fun prior => row.restore prior restoredId))

theorem cancelAttempt_ok {restoredId : ContentDigest}
    {outcome : ArtifactRepairAttemptCancellationOutcome}
    (done : (cancelAttempt attempt restoredId).run db = .ok outcome next) :
    Cancels attempt restoredId db (some outcome) next := by
  obtain ⟨-, done⟩ := run_require_bind_eq_ok.mp (run_transaction_eq_ok.mp done)
  rw [run_get_bind] at done
  by_cases exact_ : exactRunningAttempt db attempt = true
  · obtain ⟨row, stored, own, running⟩ := exactRunningAttempt_iff.mp exact_
    simp only [if_pos exact_, stored] at done
    cases done
    exact .restored stored own running
  · simp only [if_neg exact_] at done
    cases done
    exact .refused nofun

theorem Cancels.of_stale {restoredId : ContentDigest}
    {outcome : Option ArtifactRepairAttemptCancellationOutcome}
    (effect : Cancels attempt restoredId db outcome next)
    (stale : ∀ row ∈ db.repair.artifactAttempt, row.isOf attempt = true → row.phase ≠ .running) :
    next = db := by
  cases effect with
  | refused => rfl
  | restored stored own running => exact absurd running (stale _ stored own)

end Artifact

/-! ## Operations of the journal -/

/-- Both rows are as before, or gone. -/
def RowsKept (db next : Db) : Prop :=
  SameOrGone db.repair.migrationAttempt next.repair.migrationAttempt ∧
    SameOrGone db.repair.artifactAttempt next.repair.artifactAttempt

/-- What an operation of the journal does to the rows: it keeps or removes them, or it
ends one for good because its artifacts could not be cleaned up. -/
structure RowsAfter (db next : Db) : Prop where
  migration : migrationTable.Settles db next
  artifact : artifactTable.Settles db next

theorem RowsAfter.of_eq (same : next.repair = db.repair) : RowsAfter db next :=
  ⟨.kept (.inl (congrArg (·.migrationAttempt) same)),
    .kept (.inl (congrArg (·.artifactAttempt) same))⟩

theorem Blocks.rows {row : JournalRow} {now : Int} (blocks : Blocks sha256 db row now next) :
    RowsAfter db next := by
  cases blocks with
  | currentHead => exact ⟨.kept (.refl _), .kept (updateHead_artifactAttempt _ _)⟩
  | migrationRebuild _ _ _ _ stored running =>
    simp only [exactRunningMigrationAttempt, migrationAttemptIs, stored, Option.any_some,
      Bool.and_eq_true, beq_iff_eq] at running
    exact ⟨.stopped stored rfl ⟨⟨rfl, rfl⟩, running.2, by rintro ⟨⟩⟩,
      .kept (updateHead_artifactAttempt _ _)⟩
  | @artifactRepair _ _ _ attempt _ stored running =>
    simp only [exactRunningArtifactAttempt, artifactAttemptIs, stored, Option.any_some,
      Bool.and_eq_true, beq_iff_eq] at running
    refine ⟨.kept (.refl _), ?_⟩
    obtain ended | gone := updateHead_artifactAttempt
      { db with repair.artifactAttempt := some (attempt.cleanupFailed now) } (db.head.block now)
    · exact .stopped stored ended ⟨⟨rfl, rfl⟩, running.1.1.1.1.2, by rintro ⟨⟩⟩
    · exact .kept (.inr gone)

theorem rows_after (operation : Operation) : RowsAfter db (operation.after sha256 db) := by
  have effect : Effect sha256 db (.operation operation) (operation.after sha256 db) :=
    after_effect operation
  generalize operation.after sha256 db = next at effect
  cases effect with
  | nothing | validates | settlesClaim | prunes => exact .of_eq rfl
  | begins _ begins =>
    cases begins with
    | applied => exact .of_eq rfl
    | superseded _ _ retires => exact .of_eq (by rw [retires.rest])
  | commits _ _ _ _ _ commits =>
    have rows : RowsKept db next := by
      rw [RowsKept, commits.repair]
      exact ⟨updateHead_migrationAttempt _ _, updateHead_artifactAttempt _ _⟩
    exact ⟨.kept rows.1, .kept rows.2⟩
  | retires _ _ retires => exact .of_eq (by rw [retires.rest])
  | completes completes => exact .of_eq (by rw [completes.rest])
  | blocks _ _ blocks => exact blocks.rows

end ResumeIr.MetaStore
