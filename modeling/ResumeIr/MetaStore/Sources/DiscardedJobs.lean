import ResumeIr.MetaStore.Imports.SingleHead
import ResumeIr.MetaStore.Publication.HeadConsistency
import ResumeIr.MetaStore.Sources.OcrMachine

/-!
# Jobs that were discarded once

The row of a discarded job stays when its source comes back and the job is
queued again. The next claim or recovery completes every pending job that has
such a row, so a job that was discarded once is never worked on again: it is
completed without a result although its source is current
(`ocr_jobs_survive_discard_iff`). In runs in which no such job is queued again,
a job with a current source is completed only by its result.

The rows do not block the queue. A job that has one is completed or queued, and
never running, so no later discard writes its row a second time.
-/

namespace ResumeIr.MetaStore

open CoreDomain Foundation Fallible

section

variable {jobIdOf : SourceRevisionId → String → IngestJobId}
  {sha256 : List UInt8 → ContentDigest} {s t : SourceStore} {event : OcrEvent}

/-! ## Where the rows are -/

/-- A job that was discarded is completed, or was queued again. -/
def DiscardsSettled (s : SourceStore) : Prop :=
  ∀ id, s.discarded id = true → ∃ job, s.ocrJob id = some job ∧
    (job.status = .completed ∨ job.status = .queued)

theorem NoOcrJobs.discarded (none : NoOcrJobs s) (id : IngestJobId) : s.discarded id = false := by
  unfold SourceStore.discarded
  rw [none.discards]
  rfl

/-- The event queues a job again that was discarded once. -/
def RequeuesDiscarded (jobIdOf : SourceRevisionId → String → IngestJobId) (s : SourceStore)
    (event : OcrEvent) : Prop :=
  ∃ revisionId triageEpoch queuedAt, event = .enqueue revisionId triageEpoch queuedAt ∧
    s.discarded (jobIdOf revisionId triageEpoch) = true ∧
    answer (enqueueOcrJobForSourceTriage jobIdOf revisionId triageEpoch queuedAt) s =
      some (jobIdOf revisionId triageEpoch, true)

/-- A job with a row that is completed or queued stays as it is, is completed, or
is queued again. It is never claimed. -/
theorem JobMove.of_discarded {job later : IngestJob} {row : Bool}
    (moved : JobMove jobIdOf sha256 s event job later row)
    (settled : s.discarded job.id = true → job.status = .completed ∨ job.status = .queued)
    (discarded : (s.discarded job.id || row) = true) :
    later.status = .completed ∨ (s.discarded job.id = true ∧ later = job) ∨
      (RequeuesDiscarded jobIdOf s event ∧ later.status = .queued) := by
  cases moved with
  | same =>
    rw [Bool.or_false] at discarded
    exact .inr (.inl ⟨discarded, rfl⟩)
  | requeued queuedAt named ended scheduled =>
    rw [Bool.or_false, ← named] at discarded
    exact .inr (.inr ⟨⟨_, _, queuedAt, rfl, discarded, scheduled⟩, rfl⟩)
  | swept | culled | discarded | finished => exact .inl rfl
  | claimed now free fresh =>
    rw [fresh] at discarded
    cases discarded
  | givenBack _ _ running =>
    simp [running] at settled
    rw [settled] at discarded
    cases discarded
  | failed _ _ _ runs =>
    simp [(runsClaim_iff.mp runs).2.2.1] at settled
    rw [settled] at discarded
    cases discarded
  | stopped now stale =>
    unfold IngestJob.stale at stale
    simp only [Bool.and_eq_true, decide_eq_true_eq] at stale
    simp [stale.1] at settled
    rw [settled] at discarded
    cases discarded

/-- What a step makes of a job that has a row afterwards. -/
theorem DiscardsSettled.later (settled : DiscardsSettled s)
    (effect : StepEffect jobIdOf sha256 s event t) {id : IngestJobId}
    (discarded : t.discarded id = true) :
    ∃ later, t.ocrJob id = some later ∧
      (later.status = .completed ∨ (s.discarded id = true ∧ s.ocrJob id = some later) ∨
        (RequeuesDiscarded jobIdOf s event ∧ later.status = .queued)) := by
  cases stored : s.ocrJob id with
  | none =>
    rw [(effect.absent id stored).1] at discarded
    obtain ⟨job, found, _⟩ := settled id discarded
    rw [stored] at found
    cases found
  | some job =>
    obtain ⟨later, row, found, moved, rows⟩ := effect.present id job stored
    obtain rfl := Table.find?_key (ocrJob_eq_some.mp stored).1
    have status : s.discarded job.id = true → job.status = .completed ∨ job.status = .queued := by
      intro was
      obtain ⟨other, there, status⟩ := settled job.id was
      obtain rfl : job = other := Option.some.inj (stored.symm.trans there)
      exact status
    refine ⟨later, found, (moved.of_discarded status (rows ▸ discarded)).imp_right ?_⟩
    exact Or.imp_left fun same => ⟨same.1, congrArg some same.2.symm⟩

theorem DiscardsSettled.step (settled : DiscardsSettled s)
    (effect : StepEffect jobIdOf sha256 s event t) : DiscardsSettled t := by
  intro id discarded
  obtain ⟨later, found, done | ⟨was, same⟩ | ⟨_, queued⟩⟩ := settled.later effect discarded
  · exact ⟨later, found, .inl done⟩
  · obtain ⟨job, there, status⟩ := settled id was
    obtain rfl : job = later := Option.some.inj (there.symm.trans same)
    exact ⟨job, found, status⟩
  · exact ⟨later, found, .inr queued⟩

theorem DiscardsSettled.inductive :
    (ocrMachine jobIdOf sha256).Inductive DiscardsSettled where
  start none id discarded := by
    rw [none.discarded] at discarded
    cases discarded
  step settled step := settled.step step.effect

/-- No running job has a row, so reporting the end of an attempt never writes one
twice. -/
theorem DiscardsSettled.not_running (settled : DiscardsSettled s) {id : IngestJobId}
    {job : IngestJob} (stored : s.job id = some job) (running : job.status = .running) :
    s.discarded id = false := by
  rw [← Bool.not_eq_true]
  intro discarded
  obtain ⟨other, found, status⟩ := settled id discarded
  obtain rfl : job = other := Option.some.inj (stored.symm.trans (ocrJob_eq_some.mp found).1)
  simp [running] at status

/-! ## Failures -/

theorem DiscardsSettled.finish_error (settled : DiscardsSettled s) {claimed : ClaimedOcrJob}
    {failure : OcrAttemptFailure} {now : Int} {e : MetaStoreError}
    (failed : (finishOcrAttemptFailure claimed failure now).run s = .error e t) : e ≠ .storage := by
  obtain other | ⟨job, stored, _, running, discarded⟩ := finishOcrAttemptFailure_error failed
  · exact other
  · rw [settled.not_running stored running] at discarded
    cases discarded

theorem finish_reachable (claimed : ClaimedOcrJob) (failure : OcrAttemptFailure) (now : Int) :
    Preserves (ocrMachine jobIdOf sha256).Reachable
      (finishOcrAttemptFailure claimed failure now) :=
  fun _ reachable => reachable.next (OcrStep.fail claimed failure now)

theorem failExhaustedJobs_reachable (now : Int) (jobs : List IngestJob) :
    Preserves (ocrMachine jobIdOf sha256).Reachable (failExhaustedJobs now jobs) := by
  induction jobs with
  | nil => exact .of_final_eq fun _ => rfl
  | cons job rest ih =>
    refine .bind (.of_final_eq final_get) fun s => ?_
    refine .bind (.of_final_eq (final_demand _ _)) fun claimed => ?_
    refine .bind (finish_reachable claimed .permanent now) fun outcome => ?_
    exact .bind ih fun _ => .of_final_eq fun _ => rfl

/-- A recovery is made of steps of the machine, however it ends. -/
theorem recoverStaleRunningIngestJobs_reachable (now staleBefore : Int) :
    Preserves (ocrMachine jobIdOf sha256).Reachable
      (recoverStaleRunningIngestJobs now staleBefore) := by
  refine .bind (fun _ reachable => reachable.next (OcrStep.sweep now)) fun discarded => ?_
  refine .bind (.of_final_eq final_get) fun s => ?_
  refine .bind (failExhaustedJobs_reachable now _) fun failed => ?_
  refine .bind (fun _ reachable => reachable.next (OcrStep.interrupt now staleBefore)) fun _ => ?_
  exact .of_final_eq fun _ => rfl

theorem failExhaustedJobs_error {now : Int} {jobs : List IngestJob} {e : MetaStoreError}
    (reachable : (ocrMachine jobIdOf sha256).Reachable s)
    (stopped : (failExhaustedJobs now jobs).run s = .error e t) : e ≠ .storage := by
  induction jobs generalizing s with
  | nil => cases stopped
  | cons job rest ih =>
    rw [failExhaustedJobs, run_get_bind] at stopped
    obtain missing | ⟨claimed, _, found, stopped⟩ := run_bind_eq_error.mp stopped
    · cases handle : s.claimedOcrJobFromJob job with
      | none =>
        rw [handle] at missing
        cases missing
        nofun
      | some claimed =>
        rw [handle] at missing
        cases missing
    obtain ⟨_, rfl⟩ := run_demand_eq_ok.mp found
    obtain failed | ⟨outcome, u, finished, stopped⟩ := run_bind_eq_error.mp stopped
    · exact (DiscardsSettled.inductive.holds reachable).finish_error failed
    have later := finish_reachable claimed .permanent now s reachable
    rw [final_of_ok finished] at later
    obtain failed | ⟨_, _, _, last⟩ := run_bind_eq_error.mp stopped
    · exact ih later failed
    · cases last

theorem recoverStaleRunningIngestJobs_error {now staleBefore : Int} {e : MetaStoreError}
    (reachable : (ocrMachine jobIdOf sha256).Reachable s)
    (stopped : (recoverStaleRunningIngestJobs now staleBefore).run s = .error e t) :
    e ≠ .storage := by
  obtain ⟨n, swept⟩ := discardStaleOcrJobs_run s now
  have later := reachable.next (OcrStep.sweep now)
  rw [recoverStaleRunningIngestJobs, run_bind_of_ok (run_transaction_of_ok swept),
    run_get_bind] at stopped
  obtain failed | ⟨_, u, _, stopped⟩ := run_bind_eq_error.mp stopped
  · exact failExhaustedJobs_error later failed
  · cases stopped

/-! ## What completes a job -/

/-- The event publishes a result of the job. -/
def GivesResult (sha256 : List UInt8 → ContentDigest) (s : SourceStore) (event : OcrEvent)
    (id : IngestJobId) : Prop :=
  ∃ publication, event = .result publication ∧ publication.claimed.job.id = id ∧
    answer (commitOcrResult sha256 publication) s = some .applied

/-- The job is completed. -/
def SourceStore.completed (s : SourceStore) (id : IngestJobId) : Prop :=
  ∃ job, s.ocrJob id = some job ∧ job.status = .completed

theorem GivesResult.completed {id : IngestJobId}
    (gives : GivesResult sha256 s event id) (step : OcrStep jobIdOf sha256 s event t) :
    t.completed id := by
  obtain ⟨publication, rfl, rfl, applied⟩ := gives
  obtain ⟨u, done⟩ := answer_eq_some_iff.mp applied
  cases step
  rw [final_of_ok done]
  cases commitOcrResult_ok done with
  | @applied job row db _ stored runs _ _ _ _ ocr =>
    refine ⟨job.finish (some publication.version.id) publication.search.now,
      ocrJob_eq_some.mpr ⟨?_, (runsClaim_iff.mp runs).2.1⟩, rfl⟩
    show db.ocr.jobs.find? _ = _
    rw [ocr]
    rw [finishedJobs_find?, if_pos rfl]
    exact congrArg (Option.map _) stored

/-- A pending job with a row is completed by every sweep. -/
theorem completed_of_sweep {id : IngestJobId} {job : IngestJob}
    (stored : s.ocrJob id = some job) (pending : job.pending = true)
    (discarded : s.discarded id = true) (sweeps : event.sweeps.isSome = true)
    (step : OcrStep jobIdOf sha256 s event t) : t.completed id := by
  obtain ⟨there, kind⟩ := ocrJob_eq_some.mp stored
  have swept : ∀ now, (s.sweep now).job id = some (job.discard now) := by
    intro now
    rw [sweep_job, there, Option.map_some, if_pos ((isSwept_iff there).mpr ⟨pending, .inl discarded⟩)]
  cases step with
  | sweep now =>
    exact ⟨job.discard now, ocrJob_eq_some.mpr ⟨swept now, kind⟩, rfl⟩
  | claim now =>
    obtain ⟨claimed, r, u, done, culls, claims⟩ := claimOcrJob_run s now
    rw [final_of_ok done]
    obtain ⟨still, _⟩ | ⟨free, _⟩ := culls.jobs id _ (swept now)
    case inr => simp at free
    refine ⟨job.discard now, ocrJob_eq_some.mpr ⟨?_, kind⟩, rfl⟩
    cases claims with
    | nothing => exact still
    | @claimed candidate selected selects =>
      rw [startClaim_job, if_neg, still]
      rintro rfl
      obtain rfl : selected = job.discard now :=
        Option.some.inj (selects.stored.symm.trans still)
      simpa using selects.free
  | enqueue | fail | settle | result | interrupt | outside => cases sweeps

/-- **A job with a current source is completed by its result, or by a sweep
because it was discarded once before.** -/
theorem completed_iff {id : IngestJobId} {job : IngestJob}
    (stored : s.ocrJob id = some job) (pending : job.pending = true)
    (current : s.sourceIsCurrent job = true) (step : OcrStep jobIdOf sha256 s event t) :
    t.completed id ↔
      GivesResult sha256 s event id ∨ (event.sweeps.isSome = true ∧ s.discarded id = true) := by
  constructor
  · rintro ⟨done, found, status⟩
    obtain ⟨later, row, there, moved, _⟩ := step.effect.present id job stored
    obtain rfl : later = done := Option.some.inj (there.symm.trans found)
    have named := Table.find?_key (ocrJob_eq_some.mp stored).1
    cases moved with
    | same => simp [IngestJob.pending, status] at pending
    | requeued | claimed | givenBack | stopped => cases status
    | swept sweeps _ reason =>
      rw [not_sourceIsLost current, named] at reason
      exact .inr ⟨by simp [sweeps], reason.resolve_right nofun⟩
    | culled now free lost | discarded _ _ _ lost =>
      rw [current] at lost
      cases lost
    | failed =>
      simp only [IngestJob.fail] at status
      split at status <;> cases status
    | @finished publication _ same runs applied =>
      exact .inl ⟨publication, rfl, same.trans named, applied⟩
  · rintro (gives | ⟨sweeps, discarded⟩)
    · exact gives.completed step
    · exact completed_of_sweep stored pending discarded sweeps step

/-! ## Runs that queue no discarded job again -/

/-- A job that was discarded is completed. -/
def DiscardsCompleted (s : SourceStore) : Prop :=
  ∀ id, s.discarded id = true → s.completed id

theorem DiscardsCompleted.settled (completed : DiscardsCompleted s) : DiscardsSettled s := by
  intro id discarded
  obtain ⟨job, found, status⟩ := completed id discarded
  exact ⟨job, found, .inl status⟩

theorem DiscardsCompleted.step (completed : DiscardsCompleted s)
    (allowed : ¬ RequeuesDiscarded jobIdOf s event)
    (effect : StepEffect jobIdOf sha256 s event t) : DiscardsCompleted t := by
  intro id discarded
  obtain ⟨later, found, done | ⟨was, same⟩ | ⟨requeues, _⟩⟩ :=
    completed.settled.later effect discarded
  · exact ⟨later, found, done⟩
  · obtain ⟨job, there, status⟩ := completed id was
    obtain rfl : job = later := Option.some.inj (there.symm.trans same)
    exact ⟨job, found, status⟩
  · exact absurd requeues allowed

theorem DiscardsCompleted.inductive :
    ((ocrMachine jobIdOf sha256).restrict fun s event =>
      ¬ RequeuesDiscarded jobIdOf s event).Inductive DiscardsCompleted where
  start none id discarded := by
    rw [none.discarded] at discarded
    cases discarded
  step completed taken := completed.step taken.1 taken.2.effect

end

/-- **What becomes of a job that was discarded once.** A pending job with a
current source is completed by its result, or by a claim or a recovery, and by
these exactly if it was discarded before. In runs that queue no discarded job
again, only its result completes it. A claim never fails, and no part of a
recovery fails because a row of a discarded job is there already. -/
theorem ocr_jobs_survive_discard_iff (jobIdOf : SourceRevisionId → String → IngestJobId)
    (sha256 : List UInt8 → ContentDigest) :
    (∀ (s : SourceStore) (event : OcrEvent) (t : SourceStore) (id : IngestJobId) (job : IngestJob),
      (ocrMachine jobIdOf sha256).Reachable s → (ocrMachine jobIdOf sha256).step s event t →
      s.ocrJob id = some job → job.pending = true → s.sourceIsCurrent job = true →
      (t.completed id ↔
        GivesResult sha256 s event id ∨ (event.sweeps.isSome = true ∧ s.discarded id = true))) ∧
    (∀ (s : SourceStore) (event : OcrEvent) (t : SourceStore) (id : IngestJobId) (job : IngestJob),
      ((ocrMachine jobIdOf sha256).restrict fun s event =>
        ¬ RequeuesDiscarded jobIdOf s event).Reachable s →
      (ocrMachine jobIdOf sha256).step s event t →
      s.ocrJob id = some job → job.pending = true → s.sourceIsCurrent job = true →
      (t.completed id ↔ GivesResult sha256 s event id)) ∧
    (∀ s : SourceStore, (ocrMachine jobIdOf sha256).Reachable s →
      (∀ now, ∃ claimed t, (claimNextOcrJob now).run s = .ok claimed t) ∧
      (∀ now staleBefore e t,
        (recoverStaleRunningIngestJobs now staleBefore).run s = .error e t → e ≠ .storage) ∧
      (∀ claimed failure now e t,
        (finishOcrAttemptFailure claimed failure now).run s = .error e t → e ≠ .storage)) := by
  refine ⟨?_, ?_, ?_⟩
  · intro s event t id job _ step stored pending current
    exact completed_iff stored pending current step
  · intro s event t id job reachable step stored pending current
    rw [completed_iff stored pending current step]
    refine or_iff_left ?_
    rintro ⟨_, discarded⟩
    obtain ⟨other, found, status⟩ := DiscardsCompleted.inductive.holds reachable id discarded
    obtain rfl : job = other := Option.some.inj (stored.symm.trans found)
    simp [IngestJob.pending, status] at pending
  · intro s reachable
    refine ⟨fun now => claimNextOcrJob_run s now, ?_, ?_⟩
    · intro now staleBefore e t failed
      exact recoverStaleRunningIngestJobs_error reachable failed
    · intro claimed failure now e t failed
      exact (DiscardsSettled.inductive.holds reachable).finish_error failed

/-! ## A run -/

def sampleOcrJobId : IngestJobId := ⟨"job_00000000000000000000000000000001", by decide⟩

/-- A scanned resume below the only root. -/
def sampleScannedDocument (status : DocumentStatus) : Document :=
  { sampleDocument status 1 with normalizedPath := "/resumes/a.pdf" }

def sampleRoot : SourceRoot := ⟨⟨"root"⟩, "/resumes", .active, 0⟩

def sampleOccurrence (state : SourceOccurrenceState) : SourceOccurrence :=
  ⟨⟨"root"⟩, "a.pdf", samplePair.documentId, sampleRevision.id, state, none⟩

/-- The file is there and waits for OCR, but no job has been queued. -/
def sampleScanned : SourceStore where
  toImportStore :=
    { sampleFreshImports with
      db := { sampleStore with documents := ⟨[sampleScannedDocument .ocrRequired], by decide⟩ }
      roots := ⟨[sampleRoot], by decide⟩ }
  occurrences := ⟨[sampleOccurrence .present], by decide⟩
  triages := ⟨[⟨sampleRevision.id, "ocr_v1", .ocrBacklog⟩], by decide⟩
  queue := .empty
  fences := .empty

/-- The file disappears, and its document with it. -/
def SourceStore.withoutSample (s : SourceStore) : SourceStore :=
  { s with
    db.documents := ⟨[{ sampleScannedDocument .deleted with isDeleted := true }], by decide⟩
    occurrences := ⟨[sampleOccurrence .removed], by decide⟩ }

/-- The file comes back with the same content. -/
def SourceStore.withSample (s : SourceStore) : SourceStore :=
  { s with
    db.documents := ⟨[sampleScannedDocument .ocrRequired], by decide⟩
    occurrences := ⟨[sampleOccurrence .present], by decide⟩ }

def sampleOcrMachine : Machine SourceStore OcrEvent :=
  ocrMachine (fun _ _ => sampleOcrJobId) sampleHash

def sampleEnqueue (queuedAt : Int) : SourceTransaction (IngestJobId × Bool) :=
  enqueueOcrJobForSourceTriage (fun _ _ => sampleOcrJobId) sampleRevision.id "ocr_v1" queuedAt

/-- The job is queued. -/
def sampleOcrQueued : SourceStore := final (sampleEnqueue 10) sampleScanned

/-- The file went away, and a claim discarded the job. -/
def sampleOcrDiscarded : SourceStore := final (claimOcrJob 20) sampleOcrQueued.withoutSample

/-- The file came back, and the job was queued again. -/
def sampleOcrRequeued : SourceStore := final (sampleEnqueue 30) sampleOcrDiscarded.withSample

theorem sampleOcrQueued_reachable : sampleOcrMachine.Reachable sampleOcrQueued := by
  have fresh : NoOcrJobs sampleScanned := ⟨fun _ => rfl, rfl⟩
  exact (Machine.Reachable.start fresh).next (OcrStep.enqueue sampleRevision.id "ocr_v1" 10)

theorem sampleOcrRequeued_reachable : sampleOcrMachine.Reachable sampleOcrRequeued := by
  have gone : OutsideOcr sampleOcrQueued sampleOcrQueued.withoutSample := ⟨fun _ => rfl, rfl, rfl⟩
  have discarded : sampleOcrMachine.Reachable sampleOcrDiscarded :=
    (sampleOcrQueued_reachable.next (OcrStep.outside gone)).next (OcrStep.claim 20)
  have back : OutsideOcr sampleOcrDiscarded sampleOcrDiscarded.withSample :=
    ⟨fun _ => rfl, rfl, rfl⟩
  exact (discarded.next (OcrStep.outside back)).next
    (OcrStep.enqueue sampleRevision.id "ocr_v1" 30)

/-- The job of a file that went away and came back is queued again and has a
current source. The next claim answers that there is nothing to do and completes
it without a result. -/
theorem requeued_job_is_discarded_again :
    sampleOcrMachine.Reachable sampleOcrRequeued ∧
      answer (sampleEnqueue 30) sampleOcrDiscarded.withSample = some (sampleOcrJobId, true) ∧
      (sampleOcrRequeued.ocrJob sampleOcrJobId).map (·.status) = some .queued ∧
      (sampleOcrRequeued.ocrJob sampleOcrJobId).any sampleOcrRequeued.sourceIsCurrent = true ∧
      answer (claimNextOcrJob 40) sampleOcrRequeued = some none ∧
      ((final (claimNextOcrJob 40) sampleOcrRequeued).ocrJob sampleOcrJobId).map (·.status) =
        some .completed := by
  refine ⟨sampleOcrRequeued_reachable, ?_⟩
  decide +kernel

/-- The first claim of a job that was never discarded does not complete it. -/
theorem ocr_jobs_survive_discard_of_queued :
    (sampleOcrQueued.ocrJob sampleOcrJobId).map (·.status) = some .queued ∧
      ¬ (final (claimOcrJob 20) sampleOcrQueued).completed sampleOcrJobId := by
  have stored : sampleOcrQueued.ocrJob sampleOcrJobId =
      some (newOcrJob sampleOcrJobId samplePair.documentId 10) := by
    decide +kernel
  have undiscarded : sampleOcrQueued.discarded sampleOcrJobId = false := by decide +kernel
  have completed := (ocr_jobs_survive_discard_iff (fun _ _ => sampleOcrJobId) sampleHash).1 _ _ _
    _ _ sampleOcrQueued_reachable (OcrStep.claim 20) stored rfl (by decide +kernel)
  refine ⟨by rw [stored]; rfl, fun done => ?_⟩
  obtain ⟨_, given, _⟩ | ⟨_, row⟩ := completed.mp done
  · cases given
  · rw [undiscarded] at row
    cases row

end ResumeIr.MetaStore
