import ResumeIr.MetaStore.Publication.Competition

/-!
# The protocol of a retirement

A failed publication is retired in steps that may be repeated after a restart:
its row is abandoned together with the retirement that it begins, each artifact
is reported deleted, and a deletion that fails is settled.

Two facts hold in every reachable store. Each retirement belongs to an abandoned
publication, and its phase is the one its two artifacts have (`Retiring`). Each
row keeps the head, or the repair, that its authority was granted for
(`Granted`); a settlement therefore blocks the head only while that head and
that attempt are still the ones of the publication (`settle_owned`).
-/

namespace ResumeIr.MetaStore

open CoreDomain Foundation Fallible

variable {sha256 : List UInt8 → ContentDigest} {db next : Db}

/-! ## Retirements and their publications -/

/-- A retirement of an abandoned publication, in the phase of its artifacts. -/
structure Retiring (db : Db) (row : SearchPublicationRetirement) : Prop where
  abandoned : db.Abandoned row.generation
  phase : row.phase = phaseOf row.fulltextComplete row.vectorComplete

theorem phase_complete (row : SearchPublicationRetirement) (now : Int)
    (artifact : SearchPublicationRetirementArtifact) :
    (row.complete now artifact).phase =
      phaseOf (row.complete now artifact).fulltextComplete
        (row.complete now artifact).vectorComplete := by
  cases artifact with
  | fulltext | vector => simp [SearchPublicationRetirement.complete, phaseOf]

theorem phaseOf_eq_complete_iff {fulltextComplete vectorComplete : Bool} :
    phaseOf fulltextComplete vectorComplete = .complete ↔
      fulltextComplete = true ∧ vectorComplete = true := by
  cases fulltextComplete <;> cases vectorComplete <;> decide

variable {generation : String}

/-- Pruning a publication prunes its retirement. -/
theorem prune_forgets_retirement {policy : SearchPublicationPrunePolicy}
    {publication : JournalRow}
    (step : (journalMachine sha256).step db (.operation (.prune policy)) next)
    (found : db.journal.find? generation = some publication)
    (gone : next.journal.find? generation = none) : next.retirement.find? generation = none := by
  cases step_effect step with
  | nothing =>
    rw [found] at gone
    cases gone
  | commits _ asked => cases asked
  | prunes policy =>
    rw [find?_pruned, found] at gone
    rw [Table.find?_delete_contains]
    split at gone
    case isTrue listed => exact if_pos listed
    case isFalse => cases gone

variable {event : Event} {row : SearchPublicationRetirement}

/-- An abandoned row stays as long as its retirement does. -/
theorem abandoned_kept (step : (journalMachine sha256).step db event next)
    (abandoned : db.Abandoned generation) (retired : next.retirement.find? generation = some row) :
    next.Abandoned generation := by
  obtain ⟨publication, found, state⟩ := abandoned
  have change := row_change step generation
  rw [found] at change
  generalize after : next.journal.find? generation = now at change
  cases change with
  | kept => exact ⟨publication, after, state⟩
  | moved _ moves =>
    rw [state] at moves
    cases moves
  | pruned asked _ =>
    subst asked
    rw [prune_forgets_retirement step found after] at retired
    cases retired

theorem retiring_step (step : (journalMachine sha256).step db event next)
    (valid : ∀ generation row, db.retirement.find? generation = some row → Retiring db row)
    (generation : String) (row : SearchPublicationRetirement)
    (found : next.retirement.find? generation = some row) : Retiring next row := by
  obtain rfl : row.generation = generation := Table.find?_key found
  have kept : db.Abandoned row.generation → next.Abandoned row.generation :=
    fun abandoned => abandoned_kept step abandoned found
  have change := retirement_change step row.generation
  rw [found] at change
  generalize earlier : db.retirement.find? row.generation = before at change
  generalize named : row.generation = name at change earlier
  cases change with
  | kept =>
    have retiring := valid name row earlier
    exact ⟨kept retiring.abandoned, retiring.phase⟩
  | begun abandoned => exact ⟨abandoned, rfl⟩
  | @completed old artifact now _ _ =>
    have retiring := valid name old earlier
    have same : (old.complete now artifact).generation = old.generation :=
      old.complete_generation now artifact
    exact ⟨kept (same ▸ retiring.abandoned), phase_complete old now artifact⟩

theorem retiring_inductive (sha256 : List UInt8 → ContentDigest) :
    (journalMachine sha256).Inductive fun db =>
      ∀ generation row, db.retirement.find? generation = some row → Retiring db row where
  start := by
    rintro db starts generation row found
    have empty : db.retirement = .empty := by
      obtain fresh | ⟨_, empty⟩ := starts
      · exact fresh.retirement
      · exact empty.retirement
    rw [empty] at found
    cases found
  step valid step := retiring_step step valid

/-! ## Completing an artifact -/

/-- The artifact of a successful report is complete, and its publication is
abandoned. -/
theorem completeArtifact_complete {artifact : SearchPublicationRetirementArtifact} {now : Int}
    {u : Unit}
    (done : (completeSearchPublicationRetirementArtifact generation artifact now).run db =
      .ok u next) :
    (∃ row, db.retirement.find? generation = some row) ∧
      ∃ row, next.retirement.find? generation = some row ∧ row.isComplete artifact = true := by
  obtain ⟨rfl, row, found, complete⟩ | completes := completeArtifact_ok done
  · exact ⟨⟨row, found⟩, row, found, complete⟩
  · obtain ⟨row, found, -, -⟩ := completes.pending
    refine ⟨⟨row, found⟩, row.complete now artifact, ?_, ?_⟩
    · rw [completes.rest, Table.find?_update, if_pos rfl, found]
      rfl
    · cases artifact <;> rfl

/-- Reporting a complete artifact again changes nothing. -/
theorem completeArtifact_again {artifact : SearchPublicationRetirementArtifact}
    (found : db.retirement.find? generation = some row)
    (complete : row.isComplete artifact = true) (now : Int) :
    (completeSearchPublicationRetirementArtifact generation artifact now).run db =
      .ok () db := by
  refine run_transaction_eq_ok.mpr ?_
  rw [run_get_bind, run_demand_bind_eq_ok]
  refine ⟨row, found, ?_⟩
  simp only [complete]
  rfl

/-! ## Beginning while a retirement is pending -/

theorem begin_refused (there : row ∈ db.retirement) (pending : row.phase = .pending)
    (attempt : Option ContentDigest) (draft : SearchPublicationDraft) :
    ∃ error, (beginSearchPublication sha256 attempt draft).run db = .error error db := by
  obtain ⟨outcome, next, done⟩ | refused :=
    run_of_transaction (y := beginSearchPublication sha256 attempt draft) rfl db
  · obtain ⟨quiet, -⟩ := begin_ok done
    have listed : row ∈ db.pendingRetirements := List.mem_filter.mpr ⟨there, by simpa using pending⟩
    rw [quiet] at listed
    cases listed
  · exact refused

/-! ## What a publication owns -/

/-- The head as a granted authority found it. -/
def PublicationAuthority.HeadIs (authority : PublicationAuthority) (db : Db)
    (base : Option String) (epoch : Nat) : Prop :=
  match authority with
  | .currentHead => True
  | .migrationRebuild .. => base = none ∧ (db.head.generation = none → epoch = db.head.visibleEpoch)
  | .artifactRepair key .. => base = some key.generation ∧ epoch = key.visibleEpoch

/-- A row was drafted on the head that its authority is for. A migration rebuild
has no generation to name its head by; its epoch does, as long as nothing has
been published. -/
def Granted (db : Db) (row : JournalRow) : Prop :=
  row.authority.HeadIs db row.baseGeneration row.expectedVisibleEpoch

theorem authorityForBegin_some {attempt : Option ContentDigest} {draft : SearchPublicationDraft}
    {authority : PublicationAuthority}
    (granted : authorityForBegin sha256 db attempt draft = some authority) :
    authority.HeadIs db draft.baseGeneration draft.expectedVisibleEpoch := by
  unfold authorityForBegin at granted
  split at granted
  · cases granted
  case isFalse drafted =>
    obtain ⟨base, epoch⟩ := not_or.mp drafted
    rw [← not_not.mp base, ← not_not.mp epoch]
    split at granted
    · cases granted
      trivial
    case h_2 _ unpublished =>
      simp only [runningMigrationAuthority, Option.bind_eq_bind, Option.bind_eq_some_iff] at granted
      obtain ⟨_, _, attempt, _, granted⟩ := granted
      split at granted
      · cases granted
        exact ⟨unpublished, fun _ => rfl⟩
      · cases granted
    case h_3 =>
      simp only [runningArtifactAuthority, Option.bind_eq_bind, Option.bind_eq_some_iff] at granted
      obtain ⟨_, _, attempt, _, granted⟩ := granted
      split at granted
      case isTrue exact_ =>
        cases granted
        exact ⟨exact_.2.2.2.1, exact_.2.2.2.2⟩
      case isFalse => cases granted
    · cases granted

/-- While nothing is published the epoch stands still. -/
theorem unpublished_before (step : (journalMachine sha256).step db event next)
    (unpublished : next.head.generation = none) :
    db.head.generation = none ∧ next.head.visibleEpoch = db.head.visibleEpoch := by
  cases head_change step with
  | kept generation epoch _ => exact ⟨generation ▸ unpublished, epoch⟩
  | committed _ _ _ _ _ commits =>
    rw [commits.head_generation] at unpublished
    cases unpublished

theorem PublicationAuthority.HeadIs.step {authority : PublicationAuthority} {base : Option String}
    {epoch : Nat} (headIs : authority.HeadIs db base epoch)
    (step : (journalMachine sha256).step db event next) : authority.HeadIs next base epoch := by
  cases authority with
  | currentHead => trivial
  | migrationRebuild =>
    refine ⟨headIs.1, fun unpublished => ?_⟩
    obtain ⟨before, same⟩ := unpublished_before step unpublished
    rw [same]
    exact headIs.2 before
  | artifactRepair => exact headIs

/-- A row that moves was not ready. -/
theorem StateMoves.unready {first second : SearchPublicationState}
    (moves : StateMoves first second) : first ≠ .ready := by
  cases moves <;> nofun

theorem granted_step (step : (journalMachine sha256).step db event next)
    (valid : ∀ generation row, db.journal.find? generation = some row → row.state ≠ .ready →
      Granted db row) (generation : String) (row : JournalRow)
    (found : next.journal.find? generation = some row) (unready : row.state ≠ .ready) :
    Granted next row := by
  have change := row_change step generation
  rw [found] at change
  generalize earlier : db.journal.find? generation = before at change
  cases change with
  | kept => exact PublicationAuthority.HeadIs.step (valid generation row earlier unready) step
  | moved same moves =>
    have granted := PublicationAuthority.HeadIs.step
      (valid generation _ earlier moves.unready) step
    unfold Granted
    rw [same.authority, same.baseGeneration, same.expectedVisibleEpoch]
    exact granted
  | @begun attempt draft _ authority _ drafted _ _ granted =>
    unfold Granted
    rw [drafted.authority, drafted.baseGeneration, drafted.expectedVisibleEpoch]
    obtain rfl | granted := granted
    · trivial
    · exact (authorityForBegin_some granted).step step

theorem granted_inductive (sha256 : List UInt8 → ContentDigest) :
    (journalMachine sha256).Inductive fun db =>
      ∀ generation row, db.journal.find? generation = some row → row.state ≠ .ready →
        Granted db row where
  start := by
    rintro db (fresh | ⟨head, empty⟩) generation row found unready
    · rw [fresh.journal] at found
      cases found
    · have member := (Table.find?_eq_some_iff.mp found).1
      rw [Table.mem_rows, empty.journal] at member
      obtain rfl := List.mem_singleton.mp member
      exact absurd empty.row_ready unready
  step valid step := granted_step step valid

/-- The head, and the repair attempt if there is one, are still the ones that
the publication began on. -/
structure Owns (sha256 : List UInt8 → ContentDigest) (db : Db) (row : JournalRow) : Prop where
  base : db.head.generation = row.baseGeneration
  epoch : db.head.visibleEpoch = row.expectedVisibleEpoch
  attempt : match row.authority with
    | .currentHead => db.head.serviceState = .ready
    | .migrationRebuild contractId barrierDigest attemptId attemptCount =>
        db.head.serviceState = .repairing .migrationRebuild ∧
          migrationRebuildBarrierDigestMatches sha256 db contractId barrierDigest = true ∧
          exactRunningMigrationAttempt db contractId barrierDigest attemptId attemptCount = true
    | .artifactRepair key attemptId attemptCount =>
        exactRunningArtifactAttempt db key attemptId attemptCount = true

theorem exactRunningArtifactAttempt_head {key : ArtifactRepairKey} {attemptId : ContentDigest}
    {attemptCount : Nat} (running : exactRunningArtifactAttempt db key attemptId attemptCount = true) :
    db.head.generation = some key.generation ∧ db.head.visibleEpoch = key.visibleEpoch := by
  simp only [exactRunningArtifactAttempt, artifactAttemptIs, Bool.and_eq_true, beq_iff_eq] at running
  exact ⟨running.1.1.2, running.1.2⟩

theorem Blocks.owns {row : JournalRow} {now : Int} (blocks : Blocks sha256 db row now next)
    (granted : Granted db row) : Owns sha256 db row := by
  unfold Granted at granted
  cases blocks with
  | currentHead owned ready base epoch =>
    refine ⟨base, epoch, ?_⟩
    rw [owned]
    exact ready
  | migrationRebuild owned repairing unpublished barrier _ running =>
    rw [owned] at granted
    refine ⟨unpublished.trans granted.1.symm, (granted.2 unpublished).symm, ?_⟩
    rw [owned]
    exact ⟨repairing, barrier, running⟩
  | artifactRepair owned _ running =>
    rw [owned] at granted
    obtain ⟨head, epoch⟩ := exactRunningArtifactAttempt_head running
    refine ⟨head.trans granted.1.symm, epoch.trans granted.2.symm, ?_⟩
    rw [owned]
    exact running

/-- **Settlement.** A settlement that does not block the head changes nothing;
one that blocks it found the head and the attempt that the failed publication
owns, and rewrites only them (`Blocks`). -/
theorem settle_owned {now : Int}
    (granted : ∀ generation row, db.journal.find? generation = some row → row.state ≠ .ready →
      Granted db row)
    (step : (journalMachine sha256).step db (.operation (.settleFailure generation now)) next) :
    (answer (settleSearchPublicationRetirementFailure sha256 generation now) db ≠
        some .headBlocked → next = db) ∧
      (answer (settleSearchPublicationRetirementFailure sha256 generation now) db =
          some .headBlocked →
        ∃ row, db.journal.find? generation = some row ∧ row.state = .abandoned ∧
          Owns sha256 db row ∧ Blocks sha256 db row now next) := by
  have reached : next = final (settleSearchPublicationRetirementFailure sha256 generation now) db :=
    step
  obtain ⟨outcome, t, done⟩ | ⟨error, failed⟩ :=
    run_of_transaction (y := settleSearchPublicationRetirementFailure sha256 generation now) rfl db
  · obtain rfl : next = t := reached.trans (final_of_ok done)
    have answered := answer_eq_some_iff.mpr ⟨_, done⟩
    rw [answered]
    obtain ⟨other, same⟩ | ⟨rfl, row, found, abandoned, blocks⟩ := settleFailure_ok done
    · exact ⟨fun _ => same, fun blocked => absurd (Option.some.inj blocked) other⟩
    · have unready : row.state ≠ .ready := by
        rw [abandoned]
        nofun
      exact ⟨fun other => absurd rfl other, fun _ =>
        ⟨row, found, abandoned, blocks.owns (granted _ row found unready), blocks⟩⟩
  · obtain rfl : next = db := reached.trans (final_of_error failed)
    refine ⟨fun _ => rfl, fun blocked => ?_⟩
    obtain ⟨t, done⟩ := answer_eq_some_iff.mp blocked
    rw [failed] at done
    cases done

/-! ## The protocol -/

/-- **The retirement protocol.** In every reachable store: each retirement
belongs to an abandoned publication and is complete exactly when both artifacts
are; an artifact is reported deleted only for such a retirement, and reporting
it again changes nothing; while a retirement is pending no publication begins;
and a failed deletion blocks the head only if the publication still owns it, and
then writes the head and the attempt of the publication and nothing else. -/
theorem reachable_retirement_protocol (sha256 : List UInt8 → ContentDigest) {db : Db}
    (reachable : (journalMachine sha256).Reachable db) :
    (∀ row ∈ db.retirement, db.Abandoned row.generation ∧
      (row.phase = .complete ↔ row.fulltextComplete = true ∧ row.vectorComplete = true)) ∧
    (∀ generation artifact now u next,
      (completeSearchPublicationRetirementArtifact generation artifact now).run db = .ok u next →
        (∃ row ∈ db.retirement, row.generation = generation) ∧ db.Abandoned generation ∧
        ∀ later, (completeSearchPublicationRetirementArtifact generation artifact later).run next =
          .ok () next) ∧
    ((∃ row ∈ db.retirement, row.phase = .pending) → ∀ attempt draft,
      ∃ error, (beginSearchPublication sha256 attempt draft).run db = .error error db) ∧
    (∀ generation now next,
      (journalMachine sha256).step db (.operation (.settleFailure generation now)) next →
        (answer (settleSearchPublicationRetirementFailure sha256 generation now) db ≠
            some .headBlocked → next = db) ∧
          (answer (settleSearchPublicationRetirementFailure sha256 generation now) db =
              some .headBlocked →
            ∃ row, db.journal.find? generation = some row ∧ row.state = .abandoned ∧
              Owns sha256 db row ∧ Blocks sha256 db row now next)) := by
  have retiring := (retiring_inductive sha256).holds reachable
  have granted := (granted_inductive sha256).holds reachable
  refine ⟨?_, ?_, ?_, fun _ _ _ step => settle_owned granted step⟩
  · intro row there
    have valid := retiring row.generation row (Table.mem_iff_find?.mp there)
    refine ⟨valid.abandoned, ?_⟩
    rw [valid.phase]
    exact phaseOf_eq_complete_iff
  · intro generation artifact now u next done
    obtain ⟨⟨row, found⟩, after, recorded, complete⟩ := completeArtifact_complete done
    obtain ⟨there, rfl⟩ := Table.find?_eq_some_iff.mp found
    exact ⟨⟨row, there, rfl⟩, (retiring _ row found).abandoned,
      completeArtifact_again recorded complete⟩
  · rintro ⟨row, there, pending⟩ attempt draft
    exact begin_refused there pending attempt draft

/-- The second of the two competing publications is retired. -/
def sampleRetirement : Operation := .beginRetirement "second" 14 ⟨.published, .published⟩

def sampleRetiring : Db := sampleRetirement.after sampleHash sampleContested

/-- A publication that still owns the head is retired. -/
def sampleOwning : List Operation :=
  [.begin none (sampleDraft "first" "base" 1 [samplePair] 10),
    .beginRetirement "first" 11 ⟨.published, .published⟩]

/-- While the retirement of the second publication is pending nothing begins, and
its settlement is stale; a settlement for a publication that owns the head blocks
it. -/
theorem reachable_retirement_protocol_of_sampleRetiring :
    (∀ attempt draft, ∃ error,
      (beginSearchPublication sampleHash attempt draft).run sampleRetiring =
        .error error sampleRetiring) ∧
    (Operation.settleFailure "second" 15).after sampleHash sampleRetiring = sampleRetiring ∧
    ∃ row, (runOperations sampleHash sampleStore sampleOwning).journal.find? "first" = some row ∧
      Owns sampleHash (runOperations sampleHash sampleStore sampleOwning) row ∧
      Blocks sampleHash (runOperations sampleHash sampleStore sampleOwning) row 12
        ((Operation.settleFailure "first" 12).after sampleHash
          (runOperations sampleHash sampleStore sampleOwning)) := by
  have retiring : (journalMachine sampleHash).step sampleContested (.operation sampleRetirement)
      sampleRetiring := rfl
  have stale := (sampleContested_run.reachable (.start sampleStore_start)).next retiring
  have owning := (run_runOperations sampleHash sampleOwning sampleStore).reachable
    (.start sampleStore_start)
  obtain ⟨-, -, refused, settled⟩ := reachable_retirement_protocol sampleHash stale
  obtain ⟨-, -, -, blocked⟩ := reachable_retirement_protocol sampleHash owning
  refine ⟨refused (by decide +kernel), (settled "second" 15 _ rfl).1 (by decide +kernel), ?_⟩
  obtain ⟨row, found, -, owns, blocks⟩ := (blocked "first" 12 _ rfl).2 (by decide +kernel)
  exact ⟨row, found, owns, blocks⟩

end ResumeIr.MetaStore
