import ResumeIr.MetaStore.Publication.Store

/-!
# What each operation does to the tables

One lemma for each operation of the journal says what a successful call has
checked and which tables it wrote. Everything proved about runs of the journal
rests on these lemmas and never looks into the operations again.
-/

namespace ResumeIr.MetaStore

open CoreDomain Foundation Fallible

variable {sha256 : List UInt8 → ContentDigest} {db next : Db}

/-! ## Reading a row -/

variable {generation : String}

theorem searchPublication_ok {found : Option JournalRow}
    (done : (searchPublication sha256 generation).run db = .ok found next) :
    db = next ∧ found = db.journal.find? generation := by
  rw [searchPublication, run_get_bind] at done
  cases row : db.journal.find? generation with
  | none =>
    simp only [row] at done
    cases done
    exact ⟨rfl, rfl⟩
  | some row =>
    simp only [row, run_require_bind_eq_ok] at done
    obtain ⟨_, done⟩ := done
    cases done
    exact ⟨rfl, rfl⟩

/-- The row of a generation, when it must be there. -/
theorem searchPublication_demand_ok {error : MetaStoreError} {α : Type}
    {rest : JournalRow → Transaction α} {a : α}
    (done : (searchPublication sha256 generation >>= fun found =>
      demand found error >>= rest).run db = .ok a next) :
    ∃ row, db.journal.find? generation = some row ∧ (rest row).run db = .ok a next := by
  obtain ⟨found, _, read, done⟩ := run_bind_eq_ok.mp done
  obtain ⟨rfl, rfl⟩ := searchPublication_ok read
  exact run_demand_bind_eq_ok.mp done

variable {u : Unit}

theorem ensureNoPendingRetirement_ok (done : ensureNoPendingRetirement.run db = .ok u next) :
    db = next ∧ db.pendingRetirements = [] := by
  rw [ensureNoPendingRetirement, run_get_bind, run_require_bind_eq_ok, run_require_eq_ok] at done
  obtain ⟨_, empty, rfl⟩ := done
  exact ⟨rfl, empty⟩

/-! ## Retirement -/

/-- What a first retirement writes. -/
structure Retires (db : Db) (generation : String) (now : Int)
    (plan : SearchPublicationRetirementPlan) (row : JournalRow) (next : Db) : Prop where
  absent : db.retirement.find? generation = none
  recorded : db.retirement.insert? (plannedRetirement generation now plan) = some next.retirement
  abandoned : next.journal =
    if row.state = .abandoned then db.journal else moveRow db.journal generation .abandoned now
  rest : next = { db with retirement := next.retirement, journal := next.journal }

variable {now : Int} {row : JournalRow}

theorem recordRetirement_ok {plan : SearchPublicationRetirementPlan}
    (absent : db.retirement.find? generation = none)
    (done : (recordRetirement generation now plan row.state).run db = .ok u next) :
    Retires db generation now plan row next := by
  rw [recordRetirement, run_get_bind, run_require_bind_eq_ok, run_demand_bind_eq_ok] at done
  obtain ⟨_, retirement, inserted, written⟩ := done
  cases written
  exact ⟨absent, inserted, rfl, rfl⟩

/-- A retirement that begins is the first one of its publication, or repeats the
one there is and changes nothing. -/
theorem beginRetirement_ok {plan : SearchPublicationRetirementPlan}
    (done : (beginRetirement sha256 generation now plan).run db = .ok u next) :
    ∃ row, db.journal.find? generation = some row ∧ row.state ≠ .ready ∧
      ((row.state = .abandoned ∧ next = db) ∨ Retires db generation now plan row next) := by
  obtain ⟨row, found, done⟩ := searchPublication_demand_ok done
  rw [run_require_bind_eq_ok, run_get_bind] at done
  obtain ⟨notReady, done⟩ := done
  refine ⟨row, found, notReady, ?_⟩
  cases existing : db.retirement.find? generation with
  | some retirement =>
    simp only [existing, run_require_eq_ok] at done
    exact .inl ⟨done.1.2, done.2.symm⟩
  | none =>
    simp only [existing] at done
    exact .inr (recordRetirement_ok existing done)

/-- What the completion of an artifact writes. -/
structure Completes (db : Db) (generation : String)
    (artifact : SearchPublicationRetirementArtifact) (now : Int) (next : Db) : Prop where
  pending : ∃ row ∈ db.retirement.find? generation,
    row.phase = .pending ∧ row.isComplete artifact = false
  abandoned : ∃ row ∈ db.journal.find? generation, row.state = .abandoned
  rest : next =
    { db with
      retirement := db.retirement.update generation (fun row => row.complete now artifact)
        fun row => row.complete_generation now artifact }

theorem recordCompletion_ok {artifact : SearchPublicationRetirementArtifact}
    {existing : SearchPublicationRetirement}
    (found : db.retirement.find? generation = some existing)
    (incomplete : existing.isComplete artifact = false)
    (done : (recordCompletion generation artifact now existing).run db = .ok u next) :
    Completes db generation artifact now next := by
  rw [recordCompletion, run_require_bind_eq_ok, run_get_bind, run_require_bind_eq_ok] at done
  obtain ⟨pending, ⟨_, abandoned⟩, written⟩ := done
  cases written
  exact ⟨⟨existing, found, pending, incomplete⟩, abandoned, rfl⟩

/-- The completion of an artifact that is complete already changes nothing. -/
theorem completeArtifact_ok {artifact : SearchPublicationRetirementArtifact}
    (done : (completeSearchPublicationRetirementArtifact generation artifact now).run db =
      .ok u next) :
    (db = next ∧ ∃ row, db.retirement.find? generation = some row ∧
        row.isComplete artifact = true) ∨
      Completes db generation artifact now next := by
  replace done := run_transaction_eq_ok.mp done
  rw [run_get_bind, run_demand_bind_eq_ok] at done
  obtain ⟨existing, found, rest⟩ := done
  cases complete : existing.isComplete artifact with
  | true =>
    simp only [complete] at rest
    cases rest
    exact .inl ⟨rfl, existing, found, complete⟩
  | false =>
    simp only [complete] at rest
    exact .inr (recordCompletion_ok found complete rest)

/-! ## Settling a failure -/

/-- What a settlement that blocks the head has found, and what it writes: the
head, and the attempt of the publication if it belongs to one. -/
inductive Blocks (sha256 : List UInt8 → ContentDigest) (db : Db) (row : JournalRow) (now : Int) :
    Db → Prop where
  | currentHead (owned : row.authority = .currentHead) (ready : db.head.serviceState = .ready)
      (base : db.head.generation = row.baseGeneration)
      (epoch : db.head.visibleEpoch = row.expectedVisibleEpoch) :
      Blocks sha256 db row now (blockHead db now)
  | migrationRebuild {contractId : String} {barrierDigest attemptId : ContentDigest}
      {attemptCount : Nat} {attempt : MigrationRebuildAttempt}
      (owned : row.authority =
        .migrationRebuild contractId barrierDigest attemptId attemptCount)
      (repairing : db.head.serviceState = .repairing .migrationRebuild)
      (unpublished : db.head.generation = none)
      (barrier : migrationRebuildBarrierDigestMatches sha256 db contractId barrierDigest = true)
      (stored : db.repair.migrationAttempt = some attempt)
      (running : exactRunningMigrationAttempt db contractId barrierDigest attemptId
        attemptCount = true) :
      Blocks sha256 db row now
        (blockHead { db with repair.migrationAttempt := some (attempt.cleanupFailed now) } now)
  | artifactRepair {key : ArtifactRepairKey} {attemptId : ContentDigest} {attemptCount : Nat}
      {attempt : ArtifactRepairAttempt}
      (owned : row.authority = .artifactRepair key attemptId attemptCount)
      (stored : db.repair.artifactAttempt = some attempt)
      (running : exactRunningArtifactAttempt db key attemptId attemptCount = true) :
      Blocks sha256 db row now
        (blockHead { db with repair.artifactAttempt := some (attempt.cleanupFailed now) } now)

variable {outcome : SearchPublicationRetirementFailureOutcome}

theorem settleCurrentHead_ok (owned : row.authority = .currentHead)
    (done : (settleCurrentHead db row now).run db = .ok outcome next) :
    (outcome ≠ .headBlocked ∧ next = db) ∨
      (outcome = .headBlocked ∧ Blocks sha256 db row now next) := by
  unfold settleCurrentHead blockCurrentHead at done
  by_cases exact_ : db.head.serviceState = .ready ∧ db.head.generation = row.baseGeneration ∧
      db.head.visibleEpoch = row.expectedVisibleEpoch
  · rw [if_pos exact_] at done
    cases done
    exact .inr ⟨rfl, .currentHead owned exact_.1 exact_.2.1 exact_.2.2⟩
  · rw [if_neg exact_] at done
    cases done
    split <;> simp

/-- Writes that do not block the head are rolled back. -/
theorem settleWith_ok {settled : Option Db} (done : (settleWith settled).run db = .ok outcome next) :
    (outcome ≠ .headBlocked ∧ next = db) ∨ (outcome = .headBlocked ∧ settled = some next) := by
  cases settled with
  | none =>
    cases done
    exact .inl ⟨nofun, rfl⟩
  | some blocked =>
    cases done
    exact .inr ⟨rfl, rfl⟩

theorem settleMigrationRebuild_ok {contractId : String} {barrierDigest attemptId : ContentDigest}
    {attemptCount : Nat}
    (owned : row.authority = .migrationRebuild contractId barrierDigest attemptId attemptCount)
    (done : (settleMigrationRebuild sha256 db row contractId barrierDigest attemptId attemptCount
      now).run db = .ok outcome next) :
    (outcome ≠ .headBlocked ∧ next = db) ∨
      (outcome = .headBlocked ∧ Blocks sha256 db row now next) := by
  unfold settleMigrationRebuild at done
  split at done
  · cases done
    exact .inl ⟨nofun, rfl⟩
  split at done
  case isFalse =>
    cases done
    exact .inl ⟨nofun, rfl⟩
  case isTrue current =>
    refine (settleWith_ok (run_require_bind_eq_ok.mp done).2).imp_right ?_
    rintro ⟨blocked, settled⟩
    obtain ⟨_, ended, settled⟩ := Option.bind_eq_some_iff.mp settled
    obtain ⟨running, ⟨⟩⟩ := Option.ite_none_right_eq_some.mp ended
    obtain ⟨head, ⟨⟩⟩ := Option.ite_none_right_eq_some.mp settled
    cases stored : db.repair.migrationAttempt with
    | none => simp [exactRunningMigrationAttempt, migrationAttemptIs, stored] at running
    | some attempt =>
      exact ⟨blocked, .migrationRebuild owned head.1 head.2.1 current.1 stored running⟩

theorem settleArtifactRepair_ok {key : ArtifactRepairKey} {attemptId : ContentDigest}
    {attemptCount : Nat} (owned : row.authority = .artifactRepair key attemptId attemptCount)
    (done : (settleArtifactRepair db row key attemptId attemptCount now).run db =
      .ok outcome next) :
    (outcome ≠ .headBlocked ∧ next = db) ∨
      (outcome = .headBlocked ∧ Blocks sha256 db row now next) := by
  unfold settleArtifactRepair at done
  split at done
  · cases done
    exact .inl ⟨nofun, rfl⟩
  split at done
  case isFalse =>
    cases done
    exact .inl ⟨nofun, rfl⟩
  case isTrue running =>
    refine (settleWith_ok (run_require_bind_eq_ok.mp done).2).imp_right ?_
    rintro ⟨blocked, settled⟩
    obtain ⟨_, ended, settled⟩ := Option.bind_eq_some_iff.mp settled
    obtain ⟨_, ⟨⟩⟩ := Option.ite_none_right_eq_some.mp ended
    obtain ⟨_, ⟨⟩⟩ := Option.ite_none_right_eq_some.mp settled
    cases stored : db.repair.artifactAttempt with
    | none => simp [exactRunningArtifactAttempt, artifactAttemptIs, stored] at running
    | some attempt => exact ⟨blocked, .artifactRepair owned stored running⟩

/-- A settlement blocks the head that the failed publication owns, or changes
nothing. -/
theorem settleFailure_ok
    (done : (settleSearchPublicationRetirementFailure sha256 generation now).run db =
      .ok outcome next) :
    (outcome ≠ .headBlocked ∧ next = db) ∨
      (outcome = .headBlocked ∧ ∃ row, db.journal.find? generation = some row ∧
        row.state = .abandoned ∧ Blocks sha256 db row now next) := by
  replace done := run_transaction_eq_ok.mp done
  rw [run_get_bind, run_require_bind_eq_ok] at done
  obtain ⟨row, found, done⟩ := searchPublication_demand_ok done.2
  rw [run_require_bind_eq_ok] at done
  obtain ⟨abandoned, done⟩ := done
  have settled : (outcome ≠ .headBlocked ∧ next = db) ∨
      (outcome = .headBlocked ∧ Blocks sha256 db row now next) := by
    split at done
    case h_1 owned => exact settleCurrentHead_ok owned done
    case h_2 owned => exact settleMigrationRebuild_ok owned done
    case h_3 owned => exact settleArtifactRepair_ok owned done
  obtain stale | ⟨blocked, blocks⟩ := settled
  · exact .inl stale
  · exact .inr ⟨blocked, row, found, abandoned, blocks⟩

/-! ## Begin and validate -/

/-- What beginning a publication writes: the drafted row when the draft has an
authority, and otherwise the same row together with its retirement. -/
inductive Begins (sha256 : List UInt8 → ContentDigest) (db : Db)
    (attempt : Option ContentDigest) (draft : SearchPublicationDraft) :
    SearchPublicationOutcome → Db → Prop where
  | applied {authority : PublicationAuthority} {journal : Table JournalRow.key}
      (granted : authorityForBegin sha256 db attempt draft = some authority)
      (inserted : db.journal.insert? (draftRow draft authority) = some journal) :
      Begins sha256 db attempt draft .applied { db with journal }
  | superseded {journal : Table JournalRow.key} {next : Db}
      (refused : authorityForBegin sha256 db attempt draft = none)
      (inserted : db.journal.insert? (draftRow draft .currentHead) = some journal)
      (retires : Retires { db with journal } draft.generation draft.now .none
        (draftRow draft .currentHead) next) :
      Begins sha256 db attempt draft .superseded next

theorem begin_ok {attempt : Option ContentDigest} {draft : SearchPublicationDraft}
    {outcome : SearchPublicationOutcome}
    (done : (beginSearchPublication sha256 attempt draft).run db = .ok outcome next) :
    db.pendingRetirements = [] ∧ Begins sha256 db attempt draft outcome next := by
  replace done := run_transaction_eq_ok.mp done
  rw [run_ofExcept_bind_eq_ok] at done
  obtain ⟨_, _, checked⟩ := done
  obtain ⟨_, _, unblocked, admitted⟩ := run_bind_eq_ok.mp checked
  obtain ⟨rfl, quiet⟩ := ensureNoPendingRetirement_ok unblocked
  simp only [run_require_bind_eq_ok, run_get_bind, run_demand_bind_eq_ok] at admitted
  obtain ⟨_, _, journal, inserted, drafting⟩ := admitted
  obtain ⟨_, _, written, rest⟩ := run_bind_eq_ok.mp drafting
  cases written
  refine ⟨quiet, ?_⟩
  cases granted : authorityForBegin sha256 db attempt draft with
  | some authority =>
    simp only [granted] at rest inserted
    cases rest
    exact .applied granted inserted
  | none =>
    simp only [granted] at rest inserted
    obtain ⟨_, retired, retiring, superseded⟩ := run_bind_eq_ok.mp rest
    cases superseded
    have drafted : journal.find? draft.generation = some (draftRow draft .currentHead) :=
      Table.find?_inserted inserted
    obtain ⟨row, found, -, retires⟩ := beginRetirement_ok retiring
    obtain rfl : draftRow draft .currentHead = row := Option.some.inj (drafted.symm.trans found)
    obtain ⟨abandoned, -⟩ | retires := retires
    · cases abandoned
    · exact .superseded granted inserted retires

theorem validate_ok {validation : SearchPublicationValidation}
    (done : (validateSearchPublication sha256 validation).run db = .ok u next) :
    ∃ row, db.journal.find? validation.generation = some row ∧ row.state = .preparing ∧
      next = { db with journal := validateRow sha256 db.journal validation } := by
  replace done := run_transaction_eq_ok.mp done
  rw [run_ofExcept_bind_eq_ok] at done
  obtain ⟨_, _, done⟩ := done
  obtain ⟨row, found, done⟩ := searchPublication_demand_ok done
  simp only [run_require_bind_eq_ok, run_modify_eq_ok] at done
  obtain ⟨⟨preparing, _⟩, _, _, written⟩ := done
  exact ⟨row, found, preparing, written.symm⟩

/-! ## Commit -/

variable {commit : SearchPublicationCommit}

theorem validatedPublicationForCommit_ok {barrier : Option MigrationRebuildBarrierToken}
    {validated : Option (JournalRow × ServiceState)}
    (done : (validatedPublicationForCommit sha256 commit barrier).run db = .ok validated next) :
    db = next ∧ ∃ row, db.journal.find? commit.generation = some row ∧ row.state = .validated ∧
      (validated = none ∨ validated = some (row, db.head.serviceState)) := by
  obtain ⟨row, found, done⟩ := searchPublication_demand_ok done
  rw [run_require_bind_eq_ok, run_get_bind] at done
  obtain ⟨state, done⟩ := done
  split at done
  · cases done
    exact ⟨rfl, row, found, state, .inr rfl⟩
  · cases done
    exact ⟨rfl, row, found, state, .inl rfl⟩

/-- What an applied commit has checked and what it writes to the tables of the
journal. -/
structure Commits (sha256 : List UInt8 → ContentDigest) (db : Db)
    (commit : SearchPublicationCommit) (row : JournalRow) (next : Db) : Prop where
  digest : projectionDigest sha256 commit.projections = .ok row.projectionDigest
  base : db.head.generation = row.baseGeneration
  epoch : db.head.visibleEpoch = row.expectedVisibleEpoch
  head_generation : next.head.generation = some commit.generation
  head_epoch : next.head.visibleEpoch = row.expectedVisibleEpoch + 1
  journal : next.journal = moveRow db.journal commit.generation .ready commit.now
  retirement : next.retirement = db.retirement
  repair : next.repair = repairAfterHeadUpdate next.head db.repair
  active : ∃ documents : List Document, documents.length = commit.projectedDocuments.length ∧
    next.active = List.zipWith (activeRow commit.generation) commit.projections documents

theorem validateCommitAgainstPublication_ok {publication : SearchPublicationRecord}
    (done : (validateCommitAgainstPublication sha256 commit publication).run db = .ok u next) :
    db = next ∧ projectionDigest sha256 commit.projections = .ok publication.projectionDigest := by
  simp only [validateCommitAgainstPublication, run_demand_bind_eq_ok, run_ofExcept_bind_eq_ok,
    run_require_bind_eq_ok, run_get_bind, run_ofExcept_eq_ok] at done
  obtain ⟨_, _, _, _, digest, computed, ⟨named, _⟩, _, _, _, _, _, rfl⟩ := done
  exact ⟨rfl, named ▸ computed⟩

/-- A commit leaves the OCR tables alone until its claim is completed. -/
theorem apply_ok {state : ServiceState}
    (done : (applySearchPublicationCommit sha256 commit row state).run db = .ok u next) :
    Commits sha256 db commit row next ∧ next.ocr = db.ocr := by
  obtain ⟨_, _, checked, rest⟩ := run_bind_eq_ok.mp done
  obtain ⟨rfl, digest⟩ := validateCommitAgainstPublication_ok checked
  simp only [onFacts, onDocuments, run_zoom_bind_eq_ok, run_get_bind, run_demand_bind_eq_ok,
    run_require_bind_eq_ok] at rest
  obtain ⟨_, facts, _, _, documents, _, shown, collected, _, _, ⟨base, epoch, _⟩, written⟩ := rest
  cases written
  exact ⟨⟨digest, base, epoch, rfl, rfl, rfl, rfl, rfl, shown, length_of_mapM_eq_some collected,
    rfl⟩, rfl⟩

/-- The part of the shape of a commit that its writes rest on. -/
structure CommitShape (commit : SearchPublicationCommit) : Prop where
  aligned : commit.projectedDocuments.length = commit.projections.length

theorem validateCommitShape_ok (done : validateCommitShape commit = .ok u) :
    CommitShape commit := by
  unfold validateCommitShape at done
  split at done
  · cases done
  cases mapped : projectionMap commit.projections with
  | error error => simp [mapped] at done
  | ok active =>
    cases covered : projectionMap commit.vectorCoverage with
    | error error => simp [mapped, covered] at done
    | ok coverage =>
      simp only [mapped, covered] at done
      split at done
      · cases done
      case isFalse fits => exact ⟨not_not.mp fun differs => fits (.inl differs)⟩

/-- A commit is superseded and writes nothing, or it is applied. -/
theorem commit_ok {barrier : Option MigrationRebuildBarrierToken}
    {outcome : SearchPublicationOutcome}
    (done : (commitSearchPublication sha256 commit barrier).run db = .ok outcome next) :
    ∃ row, db.journal.find? commit.generation = some row ∧ row.state = .validated ∧
      ((outcome = .superseded ∧ db = next) ∨
        (outcome = .applied ∧ CommitShape commit ∧ Commits sha256 db commit row next)) := by
  replace done := run_transaction_eq_ok.mp done
  rw [run_ofExcept_bind_eq_ok] at done
  obtain ⟨_, shape, rest⟩ := done
  obtain ⟨_, _, read, decided⟩ := run_bind_eq_ok.mp rest
  obtain ⟨rfl, row, found, validated, superseded | current⟩ :=
    validatedPublicationForCommit_ok read
  · subst superseded
    cases decided
    exact ⟨row, found, validated, .inl ⟨rfl, rfl⟩⟩
  · subst current
    obtain ⟨_, _, applied, last⟩ := run_bind_eq_ok.mp decided
    cases last
    exact ⟨row, found, validated, .inr ⟨rfl, validateCommitShape_ok shape, (apply_ok applied).1⟩⟩

/-- What precedes and what follows the writes of a commit in the tables of facts
and of OCR claims does not matter to the journal. -/
theorem Commits.frame {facts : FactTables} {ocr : OcrTables}
    (commits : Commits sha256 { db with facts } commit row next) :
    Commits sha256 db commit row { next with ocr } :=
  ⟨commits.digest, commits.base, commits.epoch, commits.head_generation, commits.head_epoch,
    commits.journal, commits.retirement, commits.repair, commits.active⟩

/-- A commit of OCR results settles its claim and writes nothing else, or is
superseded and writes nothing, or is applied. -/
theorem commitOcr_ok {publication : OcrSearchPublicationCommit}
    {outcome : OcrSearchPublicationOutcome}
    (done : (commitOcrSearchPublication sha256 publication).run db = .ok outcome next) :
    (outcome = .claimSuperseded ∧ next = { db with ocr := next.ocr }) ∨
      (outcome = .publicationSuperseded ∧ db = next) ∨
      (outcome = .applied ∧ CommitShape publication.search ∧
        ∃ row, db.journal.find? publication.search.generation = some row ∧
          row.state = .validated ∧ Commits sha256 db publication.search row next) := by
  replace done := run_transaction_eq_ok.mp done
  rw [run_ofExcept_bind_eq_ok] at done
  obtain ⟨_, _, shaped⟩ := done
  rw [run_ofExcept_bind_eq_ok] at shaped
  obtain ⟨_, shape, rest⟩ := shaped
  rw [run_get_bind] at rest
  cases current : claimIsCurrent db publication.claimed with
  | false =>
    rw [current] at rest
    simp only [Bool.false_eq_true, if_false, onOcr, run_zoom_bind_eq_ok] at rest
    obtain ⟨_, _, _, last⟩ := rest
    cases last
    exact .inl ⟨rfl, rfl⟩
  | true =>
    rw [current] at rest
    obtain ⟨_, _, read, decided⟩ := run_bind_eq_ok.mp rest
    obtain ⟨rfl, row, found, validated, superseded | current⟩ :=
      validatedPublicationForCommit_ok read
    · subst superseded
      cases decided
      exact .inr (.inl ⟨rfl, rfl⟩)
    · subst current
      simp only [run_require_bind_eq_ok, onFacts, run_zoom_bind_eq_ok] at decided
      obtain ⟨_, _, facts, _, applying⟩ := decided
      obtain ⟨_, _, applied, completing⟩ := run_bind_eq_ok.mp applying
      rw [onOcr, run_zoom_bind_eq_ok] at completing
      obtain ⟨_, ocr, _, last⟩ := completing
      cases last
      exact .inr (.inr ⟨rfl, validateCommitShape_ok shape, row, found, validated,
        (apply_ok applied).1.frame⟩)

/-! ## Prune -/

theorem prune_ok {policy : SearchPublicationPrunePolicy} {count : Nat}
    (done : (pruneSearchPublicationHistory policy).run db = .ok count next) :
    let generations := (db.pruned policy).map (·.generation)
    next =
      { db with
        journal := db.journal.delete fun row => generations.contains row.generation
        retirement := db.retirement.delete fun row => generations.contains row.generation } := by
  replace done := run_transaction_eq_ok.mp done
  simp only [run_require_bind_eq_ok, run_get_bind] at done
  obtain ⟨_, _, _, rest⟩ := done
  obtain ⟨_, _, written, last⟩ := run_bind_eq_ok.mp rest
  cases written
  cases last
  rfl

end ResumeIr.MetaStore
