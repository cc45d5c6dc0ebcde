import ResumeIr.MetaStore.Publication.Store
import ResumeIr.MetaStore.Sources.Tables

/-!
# The queue of OCR jobs

The id of an OCR job is a hash of the source revision and the triage epoch it
was made for, so the same content comes back to the same job. A job is claimed
for the best file that still has the content; each claim is one attempt, and a
claim ends with a result, with a failure, or because its file went away.

A job without a source is discarded: it is completed, and a row of its own says
why. The rows of discarded jobs are never deleted, and every claim and every
recovery first completes all pending jobs that have one.
-/

namespace ResumeIr.MetaStore

open CoreDomain Foundation Fallible

/-! ## Moves of a job -/

namespace IngestJob

/-- A queued or running job, or one that may be tried again. -/
def pending (job : IngestJob) : Bool :=
  job.status = .queued || job.status = .running || job.status = .interrupted
    || job.status = .failedRetryable

/-- A job that a claim may start. -/
def claimable (job : IngestJob) : Bool :=
  job.kind = .ocrDocument &&
    (job.status = .queued ||
      (job.status = .interrupted || job.status = .failedRetryable)
        && job.attemptCount < job.maxAttempts)

/-- A job that is over: an enqueue may start it again. -/
def requeueable (job : IngestJob) : Bool :=
  job.status = .completed || job.status = .failedPermanent ||
    (job.status = .failedRetryable || job.status = .interrupted)
      && job.maxAttempts ≤ job.attemptCount

def requeue (job : IngestJob) (queuedAt : Int) : IngestJob :=
  { job with
    status := .queued
    maxAttempts := job.attemptCount + 3
    startedAt := none
    finishedAt := none
    updatedAt := queuedAt
    failureKind := none }

def claim (job : IngestJob) (now : Int) : IngestJob :=
  { job with
    status := .running
    attemptCount := job.attemptCount + 1
    startedAt := some now
    finishedAt := none
    updatedAt := now
    failureKind := none }

def fail (job : IngestJob) (terminal : Bool) (kind : Option String) (now : Int) : IngestJob :=
  { job with
    status := if terminal then .failedPermanent else .failedRetryable
    finishedAt := some now
    updatedAt := now
    failureKind := kind }

/-- The job of a worker that is gone. -/
def stop (job : IngestJob) (now : Int) : IngestJob :=
  { job with
    status := .interrupted
    finishedAt := none
    updatedAt := now
    failureKind := none }

end IngestJob

/-! ## The source of a job -/

/-- Where a file is that a claim may be made for. -/
structure ClaimCandidate where
  jobId : IngestJobId
  documentId : DocumentId
  sourceRevisionId : SourceRevisionId
  triageEpoch : String
  rootId : SourceRootId
  relativePath : String
  rootEpoch : Nat
  canonicalPath : String
  normalizedPath : String
  deletionPhase : Option SourceRootDeletionPhase

/-- What a claim is bound to, joined by its fence. -/
structure PersistedBinding where
  job : IngestJob
  spec : OcrJobSpec
  document : Document
  canonicalPath : String
  relativePath : String
  deletionPhase : Option SourceRootDeletionPhase

/-- The root is not being deleted, and the document still lies at the path. -/
def fileIsCurrent (deletionPhase : Option SourceRootDeletionPhase)
    (canonicalPath relativePath normalizedPath : String) : Bool :=
  !deletionPhase.any (·.isActive) &&
    samePath (joinPath canonicalPath relativePath) normalizedPath

def ClaimCandidate.isCurrent (candidate : ClaimCandidate) : Bool :=
  fileIsCurrent candidate.deletionPhase candidate.canonicalPath candidate.relativePath
    candidate.normalizedPath

def PersistedBinding.isCurrent (binding : PersistedBinding) : Bool :=
  fileIsCurrent binding.deletionPhase binding.canonicalPath binding.relativePath
    binding.document.normalizedPath

/-- The order in which the occurrences of a document are preferred: those at the
path of the document first, then by root and relative path. -/
def occurrenceRank (document : Document) (place : SourceOccurrence × SourceRoot) :
    Nat × String × String :=
  let path := if place.2.canonicalPath = "/" then "/" ++ place.1.relativePath
    else place.2.canonicalPath ++ "/" ++ place.1.relativePath
  (if document.normalizedPath = path then 0 else 1, place.2.id.asStr, place.1.relativePath)

def rankedBefore (first second : Nat × String × String) : Prop :=
  first.1 < second.1 ∨ first.1 = second.1 ∧
    (first.2.1 < second.2.1 ∨ first.2.1 = second.2.1 ∧ first.2.2 ≤ second.2.2)

instance : DecidableRel rankedBefore := fun _ _ =>
  inferInstanceAs (Decidable (_ ∨ _ ∧ (_ ∨ _ ∧ _)))

namespace SourceStore

abbrev job (s : SourceStore) (id : IngestJobId) : Option IngestJob :=
  s.db.ocr.jobs.find? id

variable (s : SourceStore)

/-- Whether a job has been discarded once. -/
def discarded (id : IngestJobId) : Bool := (s.db.ocr.discards.find? id).isSome

/-- The document of a revision that is triaged for OCR, while it has that content
and is not deleted. -/
def triagedDocument (revisionId : SourceRevisionId) (triageEpoch : String) : Option Document := do
  let _ ← (s.triages.find? (revisionId, triageEpoch)).filter fun triage =>
    triage.status = .ocrBacklog
  let revision ← s.db.facts.sourceRevisions.find? revisionId
  (s.db.documents.find? revision.documentId).filter fun document =>
    document.contentHash = some revision.contentHash.asStr && !document.isDeleted

/-- The same document, while it waits for OCR. -/
def awaitingDocument (revisionId : SourceRevisionId) (triageEpoch : String) : Option Document :=
  (s.triagedDocument revisionId triageEpoch).filter (·.status = .ocrRequired)

/-- The present files of a document at a revision, with their roots. -/
def presentPlaces (documentId : DocumentId) (revisionId : SourceRevisionId) : List
    (SourceOccurrence × SourceRoot) :=
  s.occurrences.rows.filterMap fun occurrence =>
    if occurrence.documentId = documentId ∧ occurrence.sourceRevisionId = revisionId ∧
        occurrence.state = .present then
      ((s.roots.find? occurrence.rootId).filter
        (·.revocationEpoch ≤ maxRootRevocationEpoch)).map (occurrence, ·)
    else none

def rankedPlace (document : Document) (revisionId : SourceRevisionId) : Option
    (SourceOccurrence × SourceRoot) :=
  ((s.presentPlaces document.id revisionId).insertionSort fun first second =>
    rankedBefore (occurrenceRank document first) (occurrenceRank document second)).head?

/-- The join that finds the file of a job. -/
def claimCandidate (job : IngestJob) : Option ClaimCandidate := do
  let spec ← s.db.ocr.specs.find? job.id
  let document ← (s.awaitingDocument spec.sourceRevisionId spec.triageEpoch).filter
    (·.id = job.documentId)
  let (occurrence, root) ← s.rankedPlace document spec.sourceRevisionId
  pure
    { jobId := job.id
      documentId := job.documentId
      sourceRevisionId := spec.sourceRevisionId
      triageEpoch := spec.triageEpoch
      rootId := root.id
      relativePath := occurrence.relativePath
      rootEpoch := root.revocationEpoch
      canonicalPath := root.canonicalPath
      normalizedPath := document.normalizedPath
      deletionPhase := s.deletionPhase root.id }

/-- A claim of the job made now would be current. -/
def sourceIsCurrent (job : IngestJob) : Bool := (s.claimCandidate job).any (·.isCurrent)

/-- The document that a job was made for no longer waits for OCR of its source. -/
def sourceIsLost (job : IngestJob) : Bool :=
  (s.db.ocr.specs.find? job.id).any fun spec =>
    !(s.awaitingDocument spec.sourceRevisionId spec.triageEpoch).any (·.id = job.documentId)

/-! ## The fence of a claim -/

def binding (id : IngestJobId) : Option PersistedBinding := do
  let fence ← s.fences.find? id
  let job ← (s.job id).filter fun job =>
    job.documentId = fence.documentId && job.attemptCount = fence.attemptCount
  let spec ← (s.db.ocr.specs.find? id).filter fun spec =>
    spec.sourceRevisionId = fence.sourceRevisionId && spec.triageEpoch = fence.triageEpoch
  let document ← (s.triagedDocument spec.sourceRevisionId spec.triageEpoch).filter
    (·.id = fence.documentId)
  let _ ← (s.occurrences.find? (fence.rootId, fence.relativePath)).filter fun occurrence =>
    occurrence.documentId = fence.documentId
      && occurrence.sourceRevisionId = fence.sourceRevisionId && occurrence.state = .present
  let root ← (s.roots.find? fence.rootId).filter fun root =>
    root.revocationEpoch = fence.rootRevocationEpoch
      && root.revocationEpoch ≤ maxRootRevocationEpoch
  pure
    { job
      spec
      document
      canonicalPath := root.canonicalPath
      relativePath := fence.relativePath
      deletionPhase := s.deletionPhase root.id }

/-- The binding of a claim whose job has a status. Only a running claim needs the
document to wait for OCR. -/
def readBindingWithStatus (claimed : ClaimedOcrJob) (status : IngestJobStatus) : Option
    PersistedBinding :=
  (s.binding claimed.job.id).filter fun binding =>
    binding.job.documentId = claimed.job.documentId && binding.job.kind = .ocrDocument
      && binding.job.status = status && binding.job.attemptCount = claimed.job.attemptCount
      && binding.job.maxAttempts = claimed.job.maxAttempts
      && (status ≠ .running || binding.document.status = .ocrRequired)
      && binding.document.contentHash = some claimed.sourceFingerprint
      && binding.spec.sourceRevisionId = claimed.sourceRevisionId
      && binding.spec.triageEpoch = claimed.triageEpoch

/-- `source_root_ocr_claim_fence::is_current`. -/
def ocrClaimIsCurrent (claimed : ClaimedOcrJob) : Bool :=
  (s.readBindingWithStatus claimed .running).any (·.isCurrent)

/-! ## Reading the queue -/

def queuedAt (s : SourceStore) (id : IngestJobId) : Int :=
  ((s.queue.find? id).map (·.queuedAt)).getD 0

def claimCandidateLimit : Nat := 256

/-- The jobs that a claim looks at, longest queued first. -/
def claimCandidateJobs : List IngestJob :=
  ((s.db.ocr.jobs.rows.reverse.filter (·.claimable)).insertionSort fun first second =>
    s.queuedAt first.id ≤ s.queuedAt second.id).take claimCandidateLimit

/-- The handle of a job as it stands. -/
def claimedOcrJobFromJob (job : IngestJob) : Option ClaimedOcrJob := do
  let _ ← (s.job job.id).filter (·.kind = .ocrDocument)
  let spec ← s.db.ocr.specs.find? job.id
  let revision ← s.db.facts.sourceRevisions.find? spec.sourceRevisionId
  pure ⟨job, spec.sourceRevisionId, spec.triageEpoch, revision.contentHash.asStr⟩

/-- The running OCR jobs without an attempt left whose worker is gone. -/
def exhaustedJobs (staleBefore : Int) : List IngestJob :=
  s.db.ocr.jobs.rows.reverse.filter fun job =>
    job.kind = .ocrDocument && job.status = .running && job.maxAttempts ≤ job.attemptCount
      && job.updatedAt ≤ staleBefore

end SourceStore

/-! ## Enqueue -/

section Enqueue

variable (jobIdOf : SourceRevisionId → String → IngestJobId)

/-- The row of a job that is new. -/
def newOcrJob (id : IngestJobId) (documentId : DocumentId) (queuedAt : Int) : IngestJob where
  id := id
  documentId := documentId
  resumeVersionId := none
  kind := .ocrDocument
  status := .queued
  attemptCount := 0
  maxAttempts := 3
  startedAt := none
  finishedAt := none
  updatedAt := queuedAt
  failureKind := none

/-- The job of a source triage, if there is one. -/
def existingOcrJob (s : SourceStore) (revisionId : SourceRevisionId) (triageEpoch : String) :
    Option IngestJob :=
  let id := jobIdOf revisionId triageEpoch
  if (s.db.ocr.specs.find? id).any fun spec =>
      spec.sourceRevisionId = revisionId && spec.triageEpoch = triageEpoch then
    (s.job id).filter (·.kind = .ocrDocument)
  else none

def insertOcrJob (revisionId : SourceRevisionId) (triageEpoch : String) (documentId : DocumentId)
    (queuedAt : Int) : SourceTransaction Unit := do
  let s ← get
  let id := jobIdOf revisionId triageEpoch
  require (∀ spec ∈ s.db.ocr.specs,
    ¬ (spec.sourceRevisionId = revisionId ∧ spec.triageEpoch = triageEpoch)) .storage
  let specs ← demand (s.db.ocr.specs.insert? ⟨id, revisionId, triageEpoch⟩) .storage
  let jobs ← demand (s.db.ocr.jobs.insert? (newOcrJob id documentId queuedAt)) .storage
  set { s with
    db.ocr.specs := specs
    db.ocr.jobs := jobs
    queue := s.queue.upsert ⟨id, queuedAt⟩ }

/-- A job that is over, queued again. -/
def SourceStore.requeueJob (s : SourceStore) (id : IngestJobId) (queuedAt : Int) : SourceStore :=
  { s with
    db.ocr.jobs := s.db.ocr.jobs.update id (·.requeue queuedAt) fun _ => rfl
    queue := s.queue.upsert ⟨id, queuedAt⟩ }

/-- `enqueue_ocr_job_for_source_triage`: the job and whether it was scheduled. -/
def enqueueOcrJobForSourceTriage (revisionId : SourceRevisionId) (triageEpoch : String)
    (queuedAt : Int) : SourceTransaction (IngestJobId × Bool) :=
  transaction do
    let s ← get
    let document ← demand (s.awaitingDocument revisionId triageEpoch)
      (.notFound "source_revision_triage")
    let id := jobIdOf revisionId triageEpoch
    match existingOcrJob jobIdOf s revisionId triageEpoch with
    | none => do
        insertOcrJob jobIdOf revisionId triageEpoch document.id queuedAt
        pure (id, true)
    | some job => do
        require (job.attemptCount + 3 ≤ 4294967295)
          (.invalidPersistedValue "ingest_job.max_attempts")
        if job.documentId = document.id ∧ job.requeueable = true then
          set (s.requeueJob id queuedAt)
          pure (id, true)
        else pure (id, false)

end Enqueue

/-! ## Discards -/

namespace SourceStore

/-- The rows of discarded jobs with those of the pending jobs without a source. -/
def sweptDiscards (s : SourceStore) (now : Int) : Table OcrJobDiscard.ingestJobId :=
  s.db.ocr.discards.insertAll
    ((s.db.ocr.jobs.rows.filter fun job =>
      job.kind = .ocrDocument && job.pending && s.sourceIsLost job).map fun job => ⟨job.id, now⟩)

/-- A pending job that has such a row, new or old. -/
def isSwept (s : SourceStore) (now : Int) (job : IngestJob) : Bool :=
  job.pending && ((s.sweptDiscards now).find? job.id).isSome

def sweep (s : SourceStore) (now : Int) : SourceStore :=
  { s with
    db.ocr.discards := s.sweptDiscards now
    db.ocr.jobs := s.db.ocr.jobs.updateWhere (s.isSwept now) (·.discard now)
      (IngestJob.id_discard now) }

/-- The job completed without a result, and the row that says so. -/
def withDiscard (s : SourceStore) (id : IngestJobId) (now : Int)
    (discards : Table OcrJobDiscard.ingestJobId) : SourceStore :=
  { s with
    db.ocr.discards := discards
    db.ocr.jobs := s.db.ocr.jobs.update id (·.discard now) (IngestJob.id_discard now) }

end SourceStore

/-- `discard_stale_ocr_jobs_in_connection`. -/
def discardStaleOcrJobs (now : Int) : SourceTransaction Nat := do
  let s ← get
  set (s.sweep now)
  pure (s.db.ocr.jobs.rows.filter (s.isSwept now)).length

def recordDiscard (id : IngestJobId) (now : Int) : SourceTransaction Unit := do
  let s ← get
  let discards ← demand (s.db.ocr.discards.insert? ⟨id, now⟩) .storage
  set (s.withDiscard id now discards)

/-- `discard_unclaimable_ocr_jobs_in_connection`. -/
def discardUnclaimableOcrJobs (now : Int) : List IngestJobId → SourceTransaction Nat
  | [] => pure 0
  | id :: rest => do
      let s ← get
      if (s.job id).any (·.claimable) then do
        recordDiscard id now
        let discarded ← discardUnclaimableOcrJobs now rest
        pure (discarded + 1)
      else discardUnclaimableOcrJobs now rest

variable (s : SourceStore) (claimed : ClaimedOcrJob)

/-- `discard_ocr_claim_in_connection`: whether the claim was discarded. -/
def discardOcrClaim (now : Int) : SourceTransaction Bool := do
  let s ← get
  if (s.job claimed.job.id).any (runsClaim claimed) && specIs claimed s.db.ocr then do
    recordDiscard claimed.job.id now
    pure true
  else pure false

/-! ## Claims -/

def claimBatchLimit : Nat := 2

/-- The first current candidate. A batch without one is discarded. -/
def selectClaimCandidate (now : Int) : Nat → SourceTransaction (Option ClaimCandidate)
  | 0 => pure none
  | rounds + 1 => do
      let s ← get
      let jobs := s.claimCandidateJobs
      if jobs = [] then pure none
      else
        match (jobs.filterMap s.claimCandidate).find? (·.isCurrent) with
        | some candidate => pure (some candidate)
        | none => do
            let discarded ← discardUnclaimableOcrJobs now (jobs.map (·.id))
            require (discarded = jobs.length) .storageInvariant
            selectClaimCandidate now rounds

/-- The job of a candidate taken, with its fence. -/
def SourceStore.startClaim (candidate : ClaimCandidate) (job : IngestJob) (now : Int) :
    SourceStore :=
  { s with
    db.ocr.jobs := s.db.ocr.jobs.update candidate.jobId (·.claim now) fun _ => rfl
    fences := s.fences.upsert
      { ingestJobId := candidate.jobId
        attemptCount := (job.claim now).attemptCount
        documentId := candidate.documentId
        sourceRevisionId := candidate.sourceRevisionId
        triageEpoch := candidate.triageEpoch
        rootId := candidate.rootId
        relativePath := candidate.relativePath
        rootRevocationEpoch := candidate.rootEpoch } }

/-- `source_root_ocr_claim_fence::claim_next`. -/
def claimNext (now : Int) : SourceTransaction (Option IngestJobId) := do
  let selected ← selectClaimCandidate now claimBatchLimit
  match selected with
  | none => pure none
  | some candidate => do
      let s ← get
      match (s.job candidate.jobId).filter fun job =>
          job.documentId = candidate.documentId && job.claimable with
      | none => pure none
      | some job => do
          set (s.startClaim candidate job now)
          pure (some candidate.jobId)

/-- The transaction of a claim. -/
def claimOcrJob (now : Int) : SourceTransaction (Option IngestJobId) :=
  transaction do
    let _ ← discardStaleOcrJobs now
    claimNext now

/-- `claim_next_ocr_job`. The handle is read after the transaction. -/
def claimNextOcrJob (now : Int) : SourceTransaction (Option ClaimedOcrJob) := do
  let claimedId ← claimOcrJob now
  match claimedId with
  | none => pure none
  | some id => do
      let s ← get
      let job ← demand (s.job id) (.notFound "ingest_job")
      let claimed ← demand (s.claimedOcrJobFromJob job) .storageInvariant
      pure (some claimed)

/-! ## The end of an attempt -/

/-- The job of a claim given back for another attempt, which does not count. -/
def SourceStore.giveBack (id : IngestJobId) (now : Int) : SourceStore :=
  { s with
    db.ocr.jobs := s.db.ocr.jobs.update id (·.interrupt now) (IngestJob.id_interrupt now)
    fences := s.fences.delete fun fence => fence.ingestJobId = id }

/-- The job with an id, if it is running and has a current source. -/
def SourceStore.replaceable (id : IngestJobId) : Bool :=
  (s.job id).any fun job =>
    job.kind = .ocrDocument && job.status = .running && s.sourceIsCurrent job

/-- `source_root_ocr_claim_fence::settle_superseded`: whether the claim was
discarded. A claim whose job has a current source again is given back. -/
def settleSupersededClaim (now : Int) : SourceTransaction Bool := do
  let s ← get
  if s.replaceable claimed.job.id then do
    require ((s.job claimed.job.id).any (fun job =>
      job.status = .running && job.attemptCount = claimed.job.attemptCount
        && job.maxAttempts < 4294967295) = true) .invalidTransition
    set (s.giveBack claimed.job.id now)
    pure false
  else discardOcrClaim claimed now

def discardOcrClaimForSourceChange (now : Int) : SourceTransaction Bool :=
  transaction (settleSupersededClaim claimed now)

inductive OcrAttemptFailure where
  | retryable
  | retryableWithKind (kind : String)
  | permanent
  deriving DecidableEq

def OcrAttemptFailure.kind : OcrAttemptFailure → Option String
  | .retryableWithKind kind => some kind
  | _ => none

inductive OcrAttemptFailureOutcome where
  | retryable
  | failedPermanent
  | superseded
  deriving DecidableEq

/-- The document of a job that failed for good. -/
def failAwaitingDocument (documentId : DocumentId) (now : Int) (documents : Table Document.id) :
    Table Document.id :=
  documents.updateWhere
    (fun document => document.id = documentId && !document.isDeleted
      && document.status = .ocrRequired)
    (fun document => { document with status := .failedPermanent, updatedAt := now })
    fun _ => rfl

/-- Whether a failure of this claim is final. -/
def failsPermanently (failure : OcrAttemptFailure) : Bool :=
  failure = .permanent || claimed.job.maxAttempts ≤ claimed.job.attemptCount

/-- The job, and if the failure is final its document, of an attempt that failed. -/
def SourceStore.recordFailure (failure : OcrAttemptFailure) (now : Int) : SourceStore :=
  let terminal := failsPermanently claimed failure
  { s with
    db.ocr.jobs := s.db.ocr.jobs.update claimed.job.id (·.fail terminal failure.kind now)
      fun _ => rfl
    db.documents := if terminal then failAwaitingDocument claimed.job.documentId now s.db.documents
      else s.db.documents }

def finishOcrAttemptFailure (failure : OcrAttemptFailure) (now : Int) : SourceTransaction
    OcrAttemptFailureOutcome := do
  require (claimed.job.kind = .ocrDocument ∧ claimed.job.status = .running ∧
    0 < claimed.job.attemptCount) (.invalidPersistedValue "ingest_job.ocr_attempt")
  transaction do
    let s ← get
    if s.ocrClaimIsCurrent claimed then
      if (s.job claimed.job.id).any (runsClaim claimed) then do
        set (s.recordFailure claimed failure now)
        pure (if failsPermanently claimed failure then .failedPermanent else .retryable)
      else pure .superseded
    else do
      let _ ← settleSupersededClaim claimed now
      pure .superseded

/-! ## Recovery -/

/-- A job of any kind that has been running too long. -/
def IngestJob.stale (staleBefore : Int) (job : IngestJob) : Bool :=
  job.status = .running && job.updatedAt ≤ staleBefore

def SourceStore.stopStale (now staleBefore : Int) : SourceStore :=
  { s with
    db.ocr.jobs := s.db.ocr.jobs.updateWhere (·.stale staleBefore) (·.stop now) fun _ => rfl }

def interruptStaleJobs (now staleBefore : Int) : SourceTransaction Nat := do
  let s ← get
  set (s.stopStale now staleBefore)
  pure (s.db.ocr.jobs.rows.filter (·.stale staleBefore)).length

/-- Ends the attempts of the given jobs, and counts those that failed. -/
def failExhaustedJobs (now : Int) : List IngestJob → SourceTransaction Nat
  | [] => pure 0
  | job :: rest => do
      let s ← get
      let claimed ← demand (s.claimedOcrJobFromJob job) .storageInvariant
      let outcome ← finishOcrAttemptFailure claimed .permanent now
      let failed ← failExhaustedJobs now rest
      pure (if outcome = .failedPermanent then failed + 1 else failed)

/-- `recover_stale_running_ingest_jobs`. -/
def recoverStaleRunningIngestJobs (now staleBefore : Int) : SourceTransaction Nat := do
  let discarded ← transaction (discardStaleOcrJobs now)
  let s ← get
  let failed ← failExhaustedJobs now (s.exhaustedJobs staleBefore)
  let changed ← interruptStaleJobs now staleBefore
  pure (discarded + failed + changed)

/-! ## Results -/

def onDb {α : Type} (x : Transaction α) : SourceTransaction α :=
  zoom (·.db) (fun s db => { s with db }) x

/-- `commit_ocr_search_publication`, with the fence joined to the sources. -/
def commitOcrResult (sha256 : List UInt8 → ContentDigest)
    (publication : OcrSearchPublicationCommit) : SourceTransaction OcrSearchPublicationOutcome :=
  transaction do
    ofExcept (validateOcrSearchPublicationCommit publication)
    ofExcept (validateCommitShape publication.search)
    let s ← get
    if s.ocrClaimIsCurrent publication.claimed then
      let validated ← onDb (validatedPublicationForCommit sha256 publication.search none)
      match validated with
      | none => pure .publicationSuperseded
      | some (row, servicePrecondition) => do
          require (row.classifierEpoch = publication.classification.classifierEpoch)
            (publicationError .exactClassificationMissing)
          onDb do
            onFacts publication.insertFacts
            applySearchPublicationCommit sha256 publication.search row servicePrecondition
            onOcr (completeClaim publication)
          pure .applied
    else do
      let _ ← settleSupersededClaim publication.claimed publication.search.now
      pure .claimSuperseded

end ResumeIr.MetaStore
