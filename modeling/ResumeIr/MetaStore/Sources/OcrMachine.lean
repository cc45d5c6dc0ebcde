import ResumeIr.Foundation.Machine
import ResumeIr.MetaStore.Sources.OcrEffects

/-!
# Runs of the OCR queue

The transactions on OCR jobs, one after another, in any order and with any
handles: enqueues, claims, reported failures, given-up claims, results, and the
parts of a recovery. Between two of them everything else may change: documents,
revisions, triages, files, roots and their deletions.

`StepEffect` says what one transaction can do to each job. Everything proved
about runs rests on it.
-/

namespace ResumeIr.MetaStore

open CoreDomain Foundation Fallible

inductive OcrEvent where
  | enqueue (revisionId : SourceRevisionId) (triageEpoch : String) (queuedAt : Int)
  | claim (now : Int)
  /-- The first transaction of a recovery, and of a claim of another kind. -/
  | sweep (now : Int)
  | fail (claimed : ClaimedOcrJob) (failure : OcrAttemptFailure) (now : Int)
  | settle (claimed : ClaimedOcrJob) (now : Int)
  | result (publication : OcrSearchPublicationCommit)
  /-- The last statement of a recovery. -/
  | interrupt (now staleBefore : Int)
  | outside

namespace OcrEvent

/-- When the transaction first completes the pending jobs that were discarded. -/
def sweeps : OcrEvent → Option Int
  | .claim now => some now
  | .sweep now => some now
  | _ => none

/-- The handle with which the end of an attempt is reported. -/
def reports : OcrEvent → Option (ClaimedOcrJob × Int)
  | .fail claimed _ now => some (claimed, now)
  | .settle claimed now => some (claimed, now)
  | .result publication => some (publication.claimed, publication.search.now)
  | _ => none

end OcrEvent

/-- The OCR job with an id. -/
def SourceStore.ocrJob (s : SourceStore) (id : IngestJobId) : Option IngestJob :=
  (s.job id).filter (·.kind = .ocrDocument)

theorem ocrJob_eq_some {s : SourceStore} {id : IngestJobId} {job : IngestJob} :
    s.ocrJob id = some job ↔ s.job id = some job ∧ job.kind = .ocrDocument := by
  simp [SourceStore.ocrJob]

theorem ocrJob_eq_none {s : SourceStore} {id : IngestJobId} :
    s.ocrJob id = none ↔ ∀ job, s.job id = some job → job.kind ≠ .ocrDocument := by
  simp [SourceStore.ocrJob]

/-- What other components leave alone between two transactions. -/
structure OutsideOcr (s t : SourceStore) : Prop where
  jobs : ∀ id, t.ocrJob id = s.ocrJob id
  specs : t.db.ocr.specs = s.db.ocr.specs
  discards : t.db.ocr.discards = s.db.ocr.discards

/-- No OCR job has been queued yet. -/
structure NoOcrJobs (s : SourceStore) : Prop where
  jobs : ∀ id, s.ocrJob id = none
  discards : s.db.ocr.discards = .empty

section Machine

variable (jobIdOf : SourceRevisionId → String → IngestJobId)
  (sha256 : List UInt8 → ContentDigest)

/-- One transaction, whether or not it fails. -/
inductive OcrStep (s : SourceStore) : OcrEvent → SourceStore → Prop where
  | enqueue (revisionId : SourceRevisionId) (triageEpoch : String) (queuedAt : Int) :
      OcrStep s (.enqueue revisionId triageEpoch queuedAt)
        (final (enqueueOcrJobForSourceTriage jobIdOf revisionId triageEpoch queuedAt) s)
  | claim (now : Int) : OcrStep s (.claim now) (final (claimOcrJob now) s)
  | sweep (now : Int) : OcrStep s (.sweep now) (final (transaction (discardStaleOcrJobs now)) s)
  | fail (claimed : ClaimedOcrJob) (failure : OcrAttemptFailure) (now : Int) :
      OcrStep s (.fail claimed failure now) (final (finishOcrAttemptFailure claimed failure now) s)
  | settle (claimed : ClaimedOcrJob) (now : Int) :
      OcrStep s (.settle claimed now) (final (discardOcrClaimForSourceChange claimed now) s)
  | result (publication : OcrSearchPublicationCommit) :
      OcrStep s (.result publication) (final (commitOcrResult sha256 publication) s)
  | interrupt (now staleBefore : Int) :
      OcrStep s (.interrupt now staleBefore) (final (interruptStaleJobs now staleBefore) s)
  | outside {t : SourceStore} (rest : OutsideOcr s t) : OcrStep s .outside t

def ocrMachine : Machine SourceStore OcrEvent where
  start := NoOcrJobs
  step := OcrStep jobIdOf sha256

/-! ## What a step does to one job -/

/-- What a transaction may make of an OCR job, and whether it writes the row of a
discarded job. -/
inductive JobMove (s : SourceStore) : OcrEvent → IngestJob → IngestJob → Bool → Prop where
  | same (event : OcrEvent) (job : IngestJob) : JobMove s event job job false
  | requeued {revisionId : SourceRevisionId} {triageEpoch : String} {job : IngestJob}
      (queuedAt : Int) (named : jobIdOf revisionId triageEpoch = job.id)
      (ended : job.requeueable = true)
      (scheduled : answer (enqueueOcrJobForSourceTriage jobIdOf revisionId triageEpoch queuedAt) s =
        some (jobIdOf revisionId triageEpoch, true)) :
      JobMove s (.enqueue revisionId triageEpoch queuedAt) job (job.requeue queuedAt) false
  | swept {event : OcrEvent} {now : Int} {job : IngestJob} (sweeps : event.sweeps = some now)
      (pending : job.pending = true)
      (reason : s.discarded job.id = true ∨ s.sourceIsLost job = true) :
      JobMove s event job (job.discard now) true
  | culled {job : IngestJob} (now : Int) (free : job.claimable = true)
      (lost : s.sourceIsCurrent job = false) :
      JobMove s (.claim now) job (job.discard now) true
  | claimed {job : IngestJob} (now : Int) (free : job.claimable = true)
      (fresh : s.discarded job.id = false) : JobMove s (.claim now) job (job.claim now) false
  | givenBack {event : OcrEvent} {claimed : ClaimedOcrJob} {now : Int} {job : IngestJob}
      (reports : event.reports = some (claimed, now)) (named : claimed.job.id = job.id)
      (running : job.status = .running) (attempt : job.attemptCount = claimed.job.attemptCount)
      (current : s.sourceIsCurrent job = true) : JobMove s event job (job.interrupt now) false
  | discarded {event : OcrEvent} {claimed : ClaimedOcrJob} {now : Int} {job : IngestJob}
      (reports : event.reports = some (claimed, now)) (named : claimed.job.id = job.id)
      (runs : runsClaim claimed job = true) (lost : s.sourceIsCurrent job = false) :
      JobMove s event job (job.discard now) true
  | failed {claimed : ClaimedOcrJob} {job : IngestJob} (failure : OcrAttemptFailure) (now : Int)
      (named : claimed.job.id = job.id) (runs : runsClaim claimed job = true)
      (reported : answer (finishOcrAttemptFailure claimed failure now) s ≠ some .superseded) :
      JobMove s (.fail claimed failure now) job
        (job.fail (failsPermanently claimed failure) failure.kind now) false
  | finished {publication : OcrSearchPublicationCommit} {job : IngestJob}
      (named : publication.claimed.job.id = job.id)
      (runs : runsClaim publication.claimed job = true)
      (applied : answer (commitOcrResult sha256 publication) s = some .applied) :
      JobMove s (.result publication) job
        (job.finish (some publication.version.id) publication.search.now) false
  | stopped {job : IngestJob} {staleBefore : Int} (now : Int)
      (stale : job.stale staleBefore = true) :
      JobMove s (.interrupt now staleBefore) job (job.stop now) false

/-- What a transaction does to the jobs and to the rows of discarded jobs. -/
structure StepEffect (s : SourceStore) (event : OcrEvent) (t : SourceStore) : Prop where
  absent : ∀ id, s.ocrJob id = none → t.discarded id = s.discarded id ∧
    (t.ocrJob id = none ∨ ∃ revisionId triageEpoch queuedAt documentId,
      event = .enqueue revisionId triageEpoch queuedAt ∧ jobIdOf revisionId triageEpoch = id ∧
        t.ocrJob id = some (newOcrJob id documentId queuedAt) ∧
        answer (enqueueOcrJobForSourceTriage jobIdOf revisionId triageEpoch queuedAt) s =
          some (id, true))
  present : ∀ id job, s.ocrJob id = some job → ∃ later row, t.ocrJob id = some later ∧
    JobMove jobIdOf sha256 s event job later row ∧ t.discarded id = (s.discarded id || row)

end Machine

section Effects

variable {jobIdOf : SourceRevisionId → String → IngestJobId}
  {sha256 : List UInt8 → ContentDigest} {s t : SourceStore} {event : OcrEvent}

/-- The queue is as it was. -/
theorem StepEffect.of_same (jobs : ∀ id, t.ocrJob id = s.ocrJob id)
    (rows : ∀ id, t.discarded id = s.discarded id) : StepEffect jobIdOf sha256 s event t where
  absent id none := ⟨rows id, .inl ((jobs id).trans none)⟩
  present id job stored :=
    ⟨job, false, (jobs id).trans stored, .same event job, by rw [rows, Bool.or_false]⟩

theorem StepEffect.refl (event : OcrEvent) (s : SourceStore) :
    StepEffect jobIdOf sha256 s event s :=
  .of_same (fun _ => rfl) fun _ => rfl

/-- A transaction that rewrites one job. -/
theorem StepEffect.of_update {id : IngestJobId} {f : IngestJob → IngestJob} {row : Bool}
    {job : IngestJob} (stored : s.ocrJob id = some job) (kind : (f job).kind = .ocrDocument)
    (jobs : ∀ other, t.job other = if other = id then (s.job id).map f else s.job other)
    (rows : ∀ other, t.discarded other = (s.discarded other || (row && decide (id = other))))
    (moved : JobMove jobIdOf sha256 s event job (f job) row) :
    StepEffect jobIdOf sha256 s event t := by
  have rest : ∀ other, other ≠ id →
      t.ocrJob other = s.ocrJob other ∧ t.discarded other = s.discarded other := by
    intro other differs
    refine ⟨?_, ?_⟩
    · unfold SourceStore.ocrJob
      rw [jobs, if_neg differs]
    · simp [rows, Ne.symm differs]
  constructor
  · intro other none
    have differs : other ≠ id := by
      rintro rfl
      rw [stored] at none
      cases none
    obtain ⟨same, kept⟩ := rest other differs
    exact ⟨kept, .inl (same.trans none)⟩
  · intro other found there
    by_cases same : other = id
    · subst same
      obtain rfl : job = found := Option.some.inj (stored.symm.trans there)
      refine ⟨f job, row, ocrJob_eq_some.mpr ⟨?_, kind⟩, moved, by simp [rows]⟩
      rw [jobs, if_pos rfl, (ocrJob_eq_some.mp stored).1, Option.map_some]
    · obtain ⟨kept, rows⟩ := rest other same
      exact ⟨found, false, kept.trans there, .same event found, by simp [rows]⟩

theorem Settles.effect {claimed : ClaimedOcrJob} {now : Int} {discarded : Bool}
    (settles : Settles s claimed now discarded t) (reports : event.reports = some (claimed, now)) :
    StepEffect jobIdOf sha256 s event t := by
  cases settles with
  | untouched => exact .refl event s
  | givenBack stored kind running attempt current =>
    exact .of_update (ocrJob_eq_some.mpr ⟨stored, kind⟩) kind giveBack_job
      (fun _ => by rw [Bool.false_and, Bool.or_false]; rfl)
      (.givenBack reports (Table.find?_key stored).symm running attempt current)
  | discarded stored runs lost inserted =>
    have kind := (runsClaim_iff.mp runs).2.1
    refine .of_update (ocrJob_eq_some.mpr ⟨stored, kind⟩) kind withDiscard_job (fun other => ?_)
      (.discarded reports (Table.find?_key stored).symm runs lost)
    rw [withDiscard_discarded inserted, Bool.true_and, Bool.or_comm]

theorem Enqueues.effect {revisionId : SourceRevisionId} {triageEpoch : String} {queuedAt : Int}
    {answer : IngestJobId × Bool}
    (enqueues : Enqueues jobIdOf s revisionId triageEpoch queuedAt answer t)
    (done : (enqueueOcrJobForSourceTriage jobIdOf revisionId triageEpoch queuedAt).run s =
      .ok answer t) :
    StepEffect jobIdOf sha256 s (.enqueue revisionId triageEpoch queuedAt) t := by
  cases enqueues with
  | busy => exact .refl _ s
  | requeued stored kind ended =>
    exact .of_update (ocrJob_eq_some.mpr ⟨stored, kind⟩) kind requeueJob_job
      (fun _ => by rw [Bool.false_and, Bool.or_false]; rfl)
      (.requeued queuedAt (Table.find?_key stored).symm ended (answer_eq_some_iff.mpr ⟨_, done⟩))
  | @inserted documentId specs jobs specified created =>
    have found : ∀ id, jobs.find? id = if jobIdOf revisionId triageEpoch = id then
        some (newOcrJob id documentId queuedAt) else s.job id := by
      intro id
      have named : (newOcrJob (jobIdOf revisionId triageEpoch) documentId queuedAt).id =
        jobIdOf revisionId triageEpoch := rfl
      rw [Table.find?_insert? created, named]
      by_cases same : jobIdOf revisionId triageEpoch = id
      · rw [if_pos same, if_pos same, same]
      · rw [if_neg same, if_neg same]
    constructor
    · intro id none
      refine ⟨rfl, ?_⟩
      by_cases same : jobIdOf revisionId triageEpoch = id
      · refine .inr ⟨revisionId, triageEpoch, queuedAt, documentId, rfl, same, ?_, ?_⟩
        · exact ocrJob_eq_some.mpr ⟨by rw [SourceStore.job, found, if_pos same], rfl⟩
        · rw [← same]
          exact answer_eq_some_iff.mpr ⟨_, done⟩
      · refine .inl ?_
        unfold SourceStore.ocrJob SourceStore.job at none ⊢
        rw [found, if_neg same]
        exact none
    · intro id job stored
      refine ⟨job, false, ?_, .same _ job, by rw [Bool.or_false]; rfl⟩
      have differs : jobIdOf revisionId triageEpoch ≠ id := by
        rintro rfl
        have absent : s.job (jobIdOf revisionId triageEpoch) = none :=
          Table.find?_of_insert? created
        rw [(ocrJob_eq_some.mp stored).1] at absent
        cases absent
      unfold SourceStore.ocrJob SourceStore.job at stored ⊢
      rw [found, if_neg differs]
      exact stored

theorem Fails.effect {claimed : ClaimedOcrJob} {failure : OcrAttemptFailure} {now : Int}
    {outcome : OcrAttemptFailureOutcome} (fails : Fails s claimed failure now outcome t)
    (done : (finishOcrAttemptFailure claimed failure now).run s = .ok outcome t) :
    StepEffect jobIdOf sha256 s (.fail claimed failure now) t := by
  have answered : answer (finishOcrAttemptFailure claimed failure now) s = some outcome :=
    answer_eq_some_iff.mpr ⟨t, done⟩
  cases fails with
  | settled settles => exact settles.effect rfl
  | failed stored runs =>
    have kind := (runsClaim_iff.mp runs).2.1
    refine .of_update (ocrJob_eq_some.mpr ⟨stored, kind⟩) kind recordFailure_job
      (fun _ => by rw [Bool.false_and, Bool.or_false]; rfl)
      (.failed failure now (Table.find?_key stored).symm runs ?_)
    rw [answered]
    split <;> simp

theorem finishedJobs_find? {publication : OcrSearchPublicationCommit} {jobs : Table IngestJob.id}
    (other : IngestJobId) :
    (finishedJobs publication jobs).find? other =
      if other = publication.claimed.job.id then
        (jobs.find? publication.claimed.job.id).map
          (·.finish (some publication.version.id) publication.search.now)
      else jobs.find? other :=
  Table.find?_of_rows_update
    (f := fun job : IngestJob => job.finish (some publication.version.id) publication.search.now)
    rfl (fun _ => rfl) other

theorem ResultCommits.effect {publication : OcrSearchPublicationCommit}
    {outcome : OcrSearchPublicationOutcome}
    (commits : ResultCommits sha256 publication s outcome t)
    (done : (commitOcrResult sha256 publication).run s = .ok outcome t) :
    StepEffect jobIdOf sha256 s (.result publication) t := by
  cases commits with
  | claimSuperseded settles => exact settles.effect rfl
  | publicationSuperseded => exact .refl _ s
  | @applied job row db _ stored runs _ _ _ _ ocr =>
    have kind := (runsClaim_iff.mp runs).2.1
    refine .of_update
      (f := fun job => job.finish (some publication.version.id) publication.search.now)
      (ocrJob_eq_some.mpr ⟨stored, kind⟩) kind (fun other => ?_) (fun other => ?_)
      (.finished (Table.find?_key stored).symm runs (answer_eq_some_iff.mpr ⟨_, done⟩))
    · show db.ocr.jobs.find? other = _
      rw [ocr]
      exact finishedJobs_find? other
    · show (db.ocr.discards.find? other).isSome = _
      rw [ocr, Bool.false_and, Bool.or_false]
      rfl

theorem stopStale_effect (now staleBefore : Int) :
    StepEffect jobIdOf sha256 s (.interrupt now staleBefore) (s.stopStale now staleBefore) := by
  constructor
  · intro id none
    refine ⟨rfl, .inl (ocrJob_eq_none.mpr fun job found => ?_)⟩
    rw [stopStale_job] at found
    obtain ⟨old, there, rfl⟩ := Option.map_eq_some_iff.mp found
    have other := ocrJob_eq_none.mp none old there
    split <;> exact other
  · intro id job stored
    obtain ⟨there, kind⟩ := ocrJob_eq_some.mp stored
    have found : (s.stopStale now staleBefore).job id =
        some (if job.stale staleBefore then job.stop now else job) := by
      rw [stopStale_job, there, Option.map_some]
    cases stale : job.stale staleBefore with
    | true =>
      rw [stale] at found
      exact ⟨job.stop now, false, ocrJob_eq_some.mpr ⟨found, kind⟩, .stopped now stale,
        by rw [Bool.or_false]; rfl⟩
    | false =>
      rw [stale] at found
      exact ⟨job, false, ocrJob_eq_some.mpr ⟨found, kind⟩, .same _ job,
        by rw [Bool.or_false]; rfl⟩

/-! ## The sweep and the claim -/

theorem sweep_discarded (now : Int) (id : IngestJobId) :
    (s.sweep now).discarded id =
      (s.discarded id || (s.job id).any fun job =>
        job.kind = .ocrDocument && job.pending && s.sourceIsLost job) :=
  sweptDiscards_isSome id

theorem sweep_effect {now : Int} (sweeps : event.sweeps = some now) :
    StepEffect jobIdOf sha256 s event (s.sweep now) := by
  constructor
  · intro id none
    constructor
    · rw [sweep_discarded, (Option.any_eq_false _ _).mpr fun job found => ?_, Bool.or_false]
      simp [ocrJob_eq_none.mp none job found]
    · refine .inl (ocrJob_eq_none.mpr fun job found => ?_)
      rw [sweep_job] at found
      obtain ⟨old, there, rfl⟩ := Option.map_eq_some_iff.mp found
      have other := ocrJob_eq_none.mp none old there
      split <;> exact other
  · intro id job stored
    obtain ⟨there, kind⟩ := ocrJob_eq_some.mp stored
    have found : (s.sweep now).job id =
        some (if s.isSwept now job then job.discard now else job) := by
      rw [sweep_job, there, Option.map_some]
    have row : (s.sweep now).discarded id =
        (s.discarded id || (job.pending && s.sourceIsLost job)) := by
      rw [sweep_discarded, there]
      simp [kind]
    cases swept : s.isSwept now job with
    | true =>
      rw [swept] at found
      obtain ⟨pending, reason⟩ := (isSwept_iff there).mp swept
      refine ⟨job.discard now, true, ocrJob_eq_some.mpr ⟨found, kind⟩,
        .swept sweeps pending ?_, ?_⟩
      · rw [Table.find?_key there]
        exact reason.imp_right (·.2)
      · rw [row, pending]
        obtain old | ⟨_, lost⟩ := reason
        · simp [old]
        · simp [lost]
    | false =>
      rw [swept] at found
      refine ⟨job, false, ocrJob_eq_some.mpr ⟨found, kind⟩, .same _ job, ?_⟩
      have unswept : ¬ s.isSwept now job = true := by simp [swept]
      rw [isSwept_iff there] at unswept
      rw [row]
      cases pending : job.pending with
      | false => simp
      | true =>
        have kept : ¬ s.sourceIsLost job = true := fun lost =>
          unswept ⟨pending, .inr ⟨kind, lost⟩⟩
        simp [kept]

@[simp] theorem claim_claimable (job : IngestJob) (now : Int) :
    (job.claim now).claimable = false := by
  simp [IngestJob.claimable, IngestJob.claim]

/-- A job that can still be claimed during a claim has not been touched by it. -/
theorem JobMove.eq_of_claimable {now : Int} {job later : IngestJob} {row : Bool}
    (moved : JobMove jobIdOf sha256 s (.claim now) job later row) (free : later.claimable = true) :
    later = job ∧ row = false := by
  cases moved with
  | same => exact ⟨rfl, rfl⟩
  | swept | culled | claimed => simp at free
  | givenBack reports | discarded reports => cases reports

theorem Culls.effect {now : Int} (culls : Culls now (s.sweep now) t) :
    StepEffect jobIdOf sha256 s (.claim now) t := by
  have swept : StepEffect jobIdOf sha256 s (.claim now) (s.sweep now) := sweep_effect rfl
  -- a job that cannot be claimed is not looked at after the sweep
  have kept : ∀ id job, (s.sweep now).job id = some job → ¬ job.claimable = true →
      t.job id = some job ∧ t.discarded id = (s.sweep now).discarded id := by
    intro id job stored busy
    obtain same | ⟨free, _⟩ := culls.jobs id job stored
    · exact same
    · exact absurd free busy
  constructor
  · intro id none
    obtain ⟨row, missing | ⟨_, _, _, _, event, _⟩⟩ := swept.absent id none
    case inr => cases event
    cases there : (s.sweep now).job id with
    | none =>
      obtain ⟨gone, same⟩ := culls.absent id there
      exact ⟨same.trans row, .inl (ocrJob_eq_none.mpr (by simp [gone]))⟩
    | some job =>
      have kind := ocrJob_eq_none.mp missing job there
      obtain ⟨still, same⟩ := kept id job there fun free => kind (kind_of_claimable free)
      refine ⟨same.trans row, .inl (ocrJob_eq_none.mpr fun other found => ?_)⟩
      obtain rfl : job = other := Option.some.inj (still.symm.trans found)
      exact kind
  · intro id job stored
    obtain ⟨later, row, found, moved, rows⟩ := swept.present id job stored
    obtain ⟨there, kind⟩ := ocrJob_eq_some.mp found
    by_cases free : later.claimable = true
    · obtain ⟨rfl, rfl⟩ := moved.eq_of_claimable free
      obtain ⟨still, same⟩ | ⟨_, lost, gone, written⟩ := culls.jobs id later there
      · exact ⟨later, false, ocrJob_eq_some.mpr ⟨still, kind⟩, moved, same.trans rows⟩
      · refine ⟨later.discard now, true, ocrJob_eq_some.mpr ⟨gone, kind⟩,
          .culled now free lost, ?_⟩
        rw [written, Bool.or_true]
    · obtain ⟨still, same⟩ := kept id later there free
      exact ⟨later, row, ocrJob_eq_some.mpr ⟨still, kind⟩, moved, same.trans rows⟩

theorem Claims.effect {u : SourceStore} {now : Int} {claimed : Option IngestJobId}
    (culls : Culls now (s.sweep now) t) (claims : Claims now t claimed u) :
    StepEffect jobIdOf sha256 s (.claim now) u := by
  have before : StepEffect jobIdOf sha256 s (.claim now) t := culls.effect
  cases claims with
  | nothing => exact before
  | @claimed candidate selected selects =>
    have taken := selects.stored
    have fresh := culls.clean (sweep_clean s now) _ _ taken selects.free
    have kind := kind_of_claimable selects.free
    -- the other jobs are as the discards left them
    have rest : ∀ other, other ≠ candidate.jobId →
        (t.startClaim candidate selected now).ocrJob other = t.ocrJob other := by
      intro other differs
      unfold SourceStore.ocrJob
      rw [startClaim_job, if_neg differs]
    constructor
    · intro id none
      obtain ⟨row, missing | ⟨_, _, _, _, event, _⟩⟩ := before.absent id none
      case inr => cases event
      refine ⟨row, .inl ?_⟩
      rw [rest id ?_, missing]
      rintro rfl
      exact ocrJob_eq_none.mp missing selected taken kind
    · intro id job stored
      obtain ⟨later, row, found, moved, rows⟩ := before.present id job stored
      by_cases same : id = candidate.jobId
      · subst same
        obtain ⟨there, _⟩ := ocrJob_eq_some.mp found
        obtain rfl : selected = later := Option.some.inj (taken.symm.trans there)
        obtain ⟨rfl, rfl⟩ := moved.eq_of_claimable selects.free
        rw [Bool.or_false] at rows
        refine ⟨selected.claim now, false, ocrJob_eq_some.mpr ⟨?_, kind⟩,
          .claimed now selects.free ?_, rows.trans (Bool.or_false _).symm⟩
        · rw [startClaim_job, if_pos rfl, taken, Option.map_some]
        · rw [Table.find?_key taken, ← rows]
          exact fresh
      · exact ⟨later, row, (rest id same).trans found, moved, rows⟩

/-- **What one step does to the queue.** -/
theorem OcrStep.effect (step : OcrStep jobIdOf sha256 s event t) :
    StepEffect jobIdOf sha256 s event t := by
  cases step with
  | enqueue revisionId triageEpoch queuedAt =>
    exact Atomic.final_cases (.transaction _) (.refl _ s) fun _ _ done =>
      (enqueueOcrJob_ok done).effect done
  | claim now =>
    obtain ⟨claimed, r, u, done, culls, claims⟩ := claimOcrJob_run s now
    rw [final_of_ok done]
    exact claims.effect culls
  | sweep now =>
    exact sweep_effect rfl
  | fail claimed failure now =>
    refine Atomic.final_cases (.silent_bind (final_require _ _) fun _ => .transaction _)
      (.refl _ s) fun _ _ done => ?_
    exact (finishOcrAttemptFailure_ok done).effect done
  | settle claimed now =>
    refine Atomic.final_cases (.transaction _) (.refl _ s) fun _ _ done => ?_
    exact (settleSupersededClaim_ok (run_transaction_eq_ok.mp done)).effect rfl
  | result publication =>
    refine Atomic.final_cases (.transaction _) (.refl _ s) fun _ _ done => ?_
    exact (commitOcrResult_ok done).effect done
  | interrupt now staleBefore =>
    exact stopStale_effect now staleBefore
  | outside rest =>
    exact .of_same rest.jobs fun id => by
      unfold SourceStore.discarded
      rw [rest.discards]

end Effects

end ResumeIr.MetaStore
