import ResumeIr.CoreDomain.Document
import ResumeIr.Foundation.Table
import ResumeIr.MetaStore.Publication.Model

/-!
# The tables of the publication journal

The metadata store keeps the head of search, the journal of publications, the
retirements of failed publications and the active projection in tables of one
database, and every operation on them is one transaction. This module holds the
rows and the database.

Four tables belong to the journal itself: `head`, `journal`, `retirement` and
`active`. The others are read by its transactions, and some are written by
them, but other components of the store write them too: documents, the facts
derived from them, the claims of OCR jobs, and the bookkeeping of repairs.
-/

namespace ResumeIr.MetaStore

open CoreDomain Foundation

/-! ## Errors -/

inductive SearchPublicationFailure where
  | invalidGeneration
  | invalidClassifierEpoch
  | invalidDescriptor
  | descriptorMismatch
  | invalidState
  | invalidPersistedState
  | projectionMismatch
  | invalidProjectionTransition
  | vectorCoverageMismatch
  | exactClassificationMissing
  | invalidDocumentState
  deriving DecidableEq

/-- The kinds of `MetaStoreError` that the modelled transactions can meet. -/
inductive MetaStoreError where
  | storage
  | invalidPersistedValue (field : String)
  | notFound (entity : String)
  | invalidTransition
  | immutableIdentityConflict (entity : String)
  | storageInvariant
  | searchPublication (failure : SearchPublicationFailure)
  deriving DecidableEq

def publicationError (failure : SearchPublicationFailure) : MetaStoreError :=
  .searchPublication failure

/-! ## The head -/

inductive RepairReason where
  | migrationRebuild
  | artifactUnavailable
  | sourceUnavailable
  | runtimeInvariant
  deriving DecidableEq

/-- The columns `service_state` and `repair_reason`. The schema wants a reason
exactly when the service is not ready, so the two are one value here. -/
inductive ServiceState where
  | ready
  | repairing (reason : RepairReason)
  | repairBlocked (reason : RepairReason)
  deriving DecidableEq

/-- The single row of `search_projection_state`. -/
structure SearchProjectionState where
  serviceState : ServiceState
  generation : Option String
  visibleEpoch : Nat
  updatedAt : Int
  ready_names : serviceState = .ready → generation.isSome = true

/-! ## The journal -/

/-- The head that an artifact repair rebuilds. -/
structure ArtifactRepairKey where
  generation : String
  publicationFingerprint : ContentDigest
  visibleEpoch : Nat
  deriving DecidableEq

/-- What a publication was allowed to replace when it began. -/
inductive PublicationAuthority where
  | currentHead
  | migrationRebuild (contractId : String) (barrierDigest attemptId : ContentDigest)
      (attemptCount : Nat)
  | artifactRepair (key : ArtifactRepairKey) (attemptId : ContentDigest) (attemptCount : Nat)
  deriving DecidableEq

/-- A row of `search_publication_journal`: the record and its authority. -/
structure JournalRow extends SearchPublicationRecord where
  authority : PublicationAuthority
  deriving DecidableEq

def JournalRow.key (row : JournalRow) : String := row.generation

/-! ## Retirements -/

inductive SearchArtifactExpectation where
  | none
  | mayExist
  | published
  deriving DecidableEq

structure SearchPublicationRetirementPlan where
  fulltext : SearchArtifactExpectation
  vector : SearchArtifactExpectation
  deriving DecidableEq

inductive SearchPublicationRetirementArtifact where
  | fulltext
  | vector
  deriving DecidableEq

inductive SearchPublicationRetirementPhase where
  | pending
  | complete
  deriving DecidableEq

/-- A row of `search_publication_retirement`. -/
structure SearchPublicationRetirement where
  generation : String
  phase : SearchPublicationRetirementPhase
  plan : SearchPublicationRetirementPlan
  fulltextComplete : Bool
  vectorComplete : Bool
  createdAt : Int
  updatedAt : Int

/-! ## The active projection -/

/-- A row of `active_search_projection`: the version that search shows for a
document and the document as it was when the row was written. -/
structure ActiveProjectionRow where
  document : Document
  resumeVersionId : ResumeVersionId
  generation : String
  deriving DecidableEq

def ActiveProjectionRow.projection (row : ActiveProjectionRow) : ActiveSearchProjection :=
  ⟨row.document.id, row.resumeVersionId⟩

/-! ## Facts about documents -/

structure ResumeVersionRow where
  id : ResumeVersionId
  documentId : DocumentId
  sourceRevisionId : SourceRevisionId

structure ClassificationRow where
  resumeVersionId : ResumeVersionId
  classifierEpoch : String
  status : ClassificationStatus

structure EntityMentionRow where
  id : EntityMentionId
  resumeVersionId : ResumeVersionId

structure CandidateRow where
  id : CandidateId
  versionCount : Nat

structure CandidateAssignmentRow where
  resumeVersionId : ResumeVersionId
  candidateId : CandidateId

structure ResumeVersionSealRow where
  resumeVersionId : ResumeVersionId
  sealedAt : Int
  entityMentionCount : Nat
  candidateId : Option CandidateId

/-- The immutable facts derived from documents, and their seals. -/
structure FactTables where
  sourceRevisions : Table SourceRevision.id
  resumeVersions : Table ResumeVersionRow.id
  classifications : Table fun row : ClassificationRow => (row.resumeVersionId, row.classifierEpoch)
  entityMentions : Table EntityMentionRow.id
  candidates : Table CandidateRow.id
  candidateAssignments : Table CandidateAssignmentRow.resumeVersionId
  seals : Table ResumeVersionSealRow.resumeVersionId

/-! ## OCR claims -/

structure IngestJob where
  id : IngestJobId
  documentId : DocumentId
  resumeVersionId : Option ResumeVersionId
  kind : IngestJobKind
  status : IngestJobStatus
  attemptCount : Nat
  maxAttempts : Nat
  startedAt : Option Int
  finishedAt : Option Int
  updatedAt : Int
  failureKind : Option String
  deriving DecidableEq

structure OcrJobSpec where
  ingestJobId : IngestJobId
  sourceRevisionId : SourceRevisionId
  triageEpoch : String

structure OcrJobDiscard where
  ingestJobId : IngestJobId
  discardedAt : Int

/-- OCR jobs and their claims. Whether the file a claim was made for is still
there is decided by a join over the source roots and their scans; its answer is
kept here as the jobs for which it holds, for the claim as it stands
(`boundClaims`) and for a new claim of the same job (`replacementClaims`). -/
structure OcrTables where
  jobs : Table IngestJob.id
  specs : Table OcrJobSpec.ingestJobId
  fences : List IngestJobId
  discards : Table OcrJobDiscard.ingestJobId
  boundClaims : List IngestJobId
  replacementClaims : List IngestJobId

/-! ## Repairs -/

/-- One authorized root with its latest completed import task. -/
structure MigrationRebuildRootHead where
  authorizedRootRowid : Nat
  latestTaskRowid : Nat
  latestTaskId : String
  completionRowid : Nat
  sourceManifestDigest : ContentDigest
  deriving DecidableEq

inductive AttemptPhase where
  | running
  | retryWait
  | terminal
  deriving DecidableEq

inductive MigrationRebuildPublicationErrorClass where
  | fullText
  | vector
  | metadata
  | cleanup
  | interrupted
  deriving DecidableEq

inductive ArtifactRepairAttemptErrorKind where
  | fullTextPublicationBusy
  | fullTextFailure
  | vectorPublicationBusy
  | vectorFailure
  | metadataFailure
  | cleanup
  | interrupted
  deriving DecidableEq

structure MigrationRebuildAttempt where
  processingContractId : String
  barrierDigest : ContentDigest
  attemptId : ContentDigest
  attemptCount : Nat
  phase : AttemptPhase
  startedAt : Int
  nextRetryAt : Option Int
  lastErrorClass : Option MigrationRebuildPublicationErrorClass
  updatedAt : Int

structure ArtifactRepairAttempt where
  key : ArtifactRepairKey
  attemptId : ContentDigest
  attemptCount : Nat
  phase : AttemptPhase
  startedAt : Int
  nextRetryAt : Option Int
  lastErrorKind : Option ArtifactRepairAttemptErrorKind
  updatedAt : Int

/-- The single rows that describe repairs. `barrierRoots` is the answer of the
query over the roots and their import tasks: the head of every active root, or
nothing while some root is not covered. -/
structure RepairTables where
  activeContractId : Option String
  barrierRoots : Option (List MigrationRebuildRootHead)
  migrationAttempt : Option MigrationRebuildAttempt
  artifactContext : Option ArtifactRepairKey
  artifactAttempt : Option ArtifactRepairAttempt

/-! ## The database -/

structure Db where
  head : SearchProjectionState
  journal : Table JournalRow.key
  retirement : Table SearchPublicationRetirement.generation
  active : List ActiveProjectionRow
  documents : Table Document.id
  facts : FactTables
  ocr : OcrTables
  repair : RepairTables

/-- A computation inside a transaction. -/
abbrev Transaction := EStateM MetaStoreError Db

end ResumeIr.MetaStore
