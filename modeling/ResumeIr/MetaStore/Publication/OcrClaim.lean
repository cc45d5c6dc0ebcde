import ResumeIr.MetaStore.Publication.Validation

/-!
# The OCR claim of a publication

A publication of OCR results commits together with the claim it was made under.
The claim is current while its job is running at the claimed attempt, the
document still waits for OCR at the claimed content, and the claimed file is
still there. A claim that is no longer current is settled instead: the job is
interrupted when the file has a replacement, and discarded otherwise.
-/

namespace ResumeIr.MetaStore

open CoreDomain Foundation Fallible

structure ClaimedOcrJob where
  job : IngestJob
  sourceRevisionId : SourceRevisionId
  triageEpoch : String
  sourceFingerprint : String
  deriving DecidableEq

/-- A commit of OCR results. `insertFacts` stands for the inserts of the
revision, the version, its classification, its mentions and its candidate; it
may be any computation on the fact tables. -/
structure OcrSearchPublicationCommit where
  search : SearchPublicationCommit
  claimed : ClaimedOcrJob
  sourceRevision : SourceRevision
  version : ResumeVersionRow
  classification : ClassificationRow
  mentions : List EntityMentionRow
  emailHash : Option String
  phoneHash : Option String
  insertFacts : EStateM MetaStoreError FactTables Unit

inductive OcrSearchPublicationOutcome where
  | applied
  | claimSuperseded
  | publicationSuperseded
  deriving DecidableEq

/-! ## The check of a commit -/

variable (claimed : ClaimedOcrJob)

def validOcrTerminal (candidate : Bool) (terminal : TerminalDocumentUpdate) : Bool :=
  terminal.documentId == claimed.job.documentId
    && terminal.expectedStatus == .ocrRequired
    && !terminal.expectedIsDeleted
    && terminal.expectedContentHash.asStr == claimed.sourceFingerprint
    && terminal.terminalStatus == (if candidate then .searchable else .excluded)
    && !terminal.terminalIsDeleted

def validateOcrSearchPublicationCommit (publication : OcrSearchPublicationCommit) :
    Except MetaStoreError Unit :=
  let claimed := publication.claimed
  let job := claimed.job
  let candidate := decide (publication.classification.status = .resumeCandidate)
  let projectedVersion := versionOf publication.search.projections job.documentId
  if job.kind = .ocrDocument ∧ job.status = .running ∧ 0 < job.attemptCount ∧
      job.resumeVersionId = none ∧
      publication.search.terminalDocuments.length = 1 ∧
      publication.search.terminalDocuments.head?.any (validOcrTerminal claimed candidate) = true ∧
      publication.sourceRevision.documentId = job.documentId ∧
      publication.sourceRevision.id = claimed.sourceRevisionId ∧
      publication.sourceRevision.contentHash.asStr = claimed.sourceFingerprint ∧
      publication.version.documentId = job.documentId ∧
      publication.version.sourceRevisionId = publication.sourceRevision.id ∧
      publication.classification.resumeVersionId = publication.version.id ∧
      isCurrentClassifierEpoch publication.classification.classifierEpoch = true ∧
      publication.classification.status ≠ .ocrBacklog ∧
      candidate = decide (projectedVersion = some publication.version.id) ∧
      (candidate = true ∨ publication.mentions = []) ∧
      (candidate = true ∨ publication.emailHash = none ∧ publication.phoneHash = none) then
    .ok ()
  else .error (.invalidPersistedValue "ingest_job.ocr_search_publication")

/-! ## The claim -/

/-- The stored job is the claimed one at the claimed attempt, and running. -/
def runsClaim (job : IngestJob) : Bool :=
  job.documentId == claimed.job.documentId && job.kind == .ocrDocument
    && job.status == .running && job.attemptCount == claimed.job.attemptCount
    && job.maxAttempts == claimed.job.maxAttempts

def specIs (ocr : OcrTables) : Bool :=
  (ocr.specs.find? claimed.job.id).any fun spec =>
    spec.sourceRevisionId == claimed.sourceRevisionId && spec.triageEpoch == claimed.triageEpoch

/-- `source_root_ocr_claim_fence::is_current`. -/
def claimIsCurrent (db : Db) (claimed : ClaimedOcrJob) : Bool :=
  (db.ocr.jobs.find? claimed.job.id).any (runsClaim claimed)
    && specIs claimed db.ocr
    && ((db.documents.find? claimed.job.documentId).any fun document =>
      !document.isDeleted && document.status == .ocrRequired
        && document.contentHash == some claimed.sourceFingerprint)
    && decide (claimed.job.id ∈ db.ocr.fences)
    && decide (claimed.job.id ∈ db.ocr.boundClaims)

/-- The job given back for another attempt, which does not count. -/
def IngestJob.interrupt (job : IngestJob) (now : Int) : IngestJob :=
  { job with
    status := .interrupted
    maxAttempts := job.maxAttempts + 1
    startedAt := none
    finishedAt := none
    updatedAt := now
    failureKind := none }

def IngestJob.finish (job : IngestJob) (version : Option ResumeVersionId) (now : Int) :
    IngestJob :=
  { job with
    status := .completed
    resumeVersionId := version
    finishedAt := some now
    updatedAt := now
    failureKind := none }

def IngestJob.discard (job : IngestJob) (now : Int) : IngestJob :=
  { job.finish job.resumeVersionId now with startedAt := some (job.startedAt.getD now) }

theorem IngestJob.id_interrupt (now : Int) (job : IngestJob) :
    (job.interrupt now).id = job.id := rfl

theorem IngestJob.id_discard (now : Int) (job : IngestJob) : (job.discard now).id = job.id := rfl

theorem OcrSearchPublicationCommit.id_finish (publication : OcrSearchPublicationCommit)
    (job : IngestJob) :
    (job.finish (some publication.version.id) publication.search.now).id = job.id := rfl

def interruptClaim (now : Int) : EStateM MetaStoreError OcrTables Unit :=
  do
    let ocr ← get
    let job ← demand (ocr.jobs.find? claimed.job.id) .invalidTransition
    require (job.status = .running ∧ job.attemptCount = claimed.job.attemptCount ∧
      job.maxAttempts < 4294967295) .invalidTransition
    set { ocr with
      jobs := ocr.jobs.update claimed.job.id (·.interrupt now) (IngestJob.id_interrupt now)
      fences := ocr.fences.filter (· ≠ claimed.job.id) }

/-- A claim that no stored job matches is left alone. -/
def discardClaim (now : Int) : EStateM MetaStoreError OcrTables Unit :=
  do
    let ocr ← get
    if (ocr.jobs.find? claimed.job.id).any (runsClaim claimed) && specIs claimed ocr then
      let discards ← demand (ocr.discards.insert? ⟨claimed.job.id, now⟩) .storage
      set { ocr with
        jobs := ocr.jobs.update claimed.job.id (·.discard now) (IngestJob.id_discard now)
        discards }
    else pure ()

/-- `source_root_ocr_claim_fence::settle_superseded`. -/
def settleSuperseded (now : Int) : EStateM MetaStoreError OcrTables Unit := do
  let ocr ← get
  if (ocr.jobs.find? claimed.job.id).any (fun job =>
      job.kind == .ocrDocument && job.status == .running)
      && decide (claimed.job.id ∈ ocr.replacementClaims) then
    interruptClaim claimed now
  else discardClaim claimed now

def completeClaim (publication : OcrSearchPublicationCommit) :
    EStateM MetaStoreError OcrTables Unit := do
  let ocr ← get
  let claimed := publication.claimed
  require ((ocr.jobs.find? claimed.job.id).any (runsClaim claimed) = true) .invalidTransition
  set { ocr with
    jobs := ocr.jobs.update claimed.job.id
      (·.finish (some publication.version.id) publication.search.now) publication.id_finish }

end ResumeIr.MetaStore
