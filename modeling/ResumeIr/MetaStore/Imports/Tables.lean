import ResumeIr.CoreDomain.Text
import ResumeIr.MetaStore.Publication.Tables

/-!
# The tables of imports

An import task scans one root. Its row carries its place in the life of a task;
whether it was cancelled, which processing contract it is bound to and whether
it belongs to a migration rebuild stand in tables of their own, keyed by the
task. The newest task of a root is its head.

Beside the tasks stand the authorized roots, from which the scope of a new task
is taken, the source roots with their deletions and scans, the jobs that read
the files of a root again after a change of the PDF parser, and the two rows
that say which processing contract the writer may use: the authority and the
transition it is in.

The rows are kept newest first, so that the first row of a root in `tasks` is
the one with the greatest rowid.
-/

namespace ResumeIr.MetaStore

open CoreDomain Foundation

/-! ## Tasks -/

/-- Names of import tasks. -/
abbrev ImportTaskId := StableId "imp_"

/-- Where a task stands. -/
inductive ImportTaskStatus where
  | queued
  | running
  | completed
  | failedRetryable
  | failedPermanent
  deriving DecidableEq

/-- One import of a root. -/
structure ImportTask where
  id : ImportTaskId
  rootPath : String
  status : ImportTaskStatus
  queuedAt : Int
  startedAt : Option Int
  finishedAt : Option Int
  updatedAt : Int
  deriving DecidableEq

/-- A queued, running or retryably failed task. -/
def ImportTask.pending (task : ImportTask) : Bool :=
  task.status = .queued || task.status = .running || task.status = .failedRetryable

/-- A task was asked to stop. -/
structure ImportTaskCancellation where
  importTaskId : ImportTaskId
  requestedAt : Int

/-- The contract a task runs under. -/
structure ImportTaskContractBinding where
  importTaskId : ImportTaskId
  processingContractId : String

/-- What a task is for. -/
inductive ImportTaskPurpose where
  | configuredCatchUp
  | migrationRebuildFullCorpus
  deriving DecidableEq

/-- A row of `migration_rebuild_full_corpus_task`. -/
structure MigrationRebuildFullCorpusTask where
  importTaskId : ImportTaskId
  processingContractId : String

/-- A task has read its whole root. -/
structure ImportTaskCompletion where
  importTaskId : ImportTaskId
  processingContractId : String
  completedAt : Int

/-! ## Scopes and authorized roots -/

/-- How a root was chosen. -/
inductive ImportRootKind where
  | explicit
  | preset
  deriving DecidableEq

/-- The roots the program offers. -/
inductive ImportRootPreset where
  | localDiscovery
  deriving DecidableEq

/-- Which files a scan looks at. -/
inductive ImportScanProfile where
  | explicit
  | discovery
  deriving DecidableEq

/-- What the budget of a scan counts. -/
inductive ImportScanBudgetKind where
  | files
  deriving DecidableEq

/-- What a task scans. The counters of the scan are left out. -/
structure ImportScanScope where
  importTaskId : ImportTaskId
  rootKind : ImportRootKind
  rootPreset : Option ImportRootPreset
  scanProfile : ImportScanProfile
  requestedRootPath : String
  canonicalRootPath : String
  scanBudgetKind : Option ImportScanBudgetKind
  scanBudgetLimit : Option Nat
  scanBudgetObserved : Option Nat
  scanBudgetExhausted : Bool
  updatedAt : Int

/-- A root the user has configured. -/
structure AuthorizedImportRoot where
  canonicalRootPath : String
  requestedRootPath : String
  rootKind : ImportRootKind
  rootPreset : Option ImportRootPreset
  scanProfile : ImportScanProfile
  scanBudgetKind : Option ImportScanBudgetKind
  scanBudgetLimit : Option Nat
  paused : Bool
  updatedAt : Int

/-- Whether the user has paused a root. -/
inductive ImportRootControlStatus where
  | active
  | paused
  deriving DecidableEq

/-! ## Processing contracts -/

/-- The versions that files are processed with. -/
structure ImportProcessingContract where
  id : String
  primaryParseVersion : String
  ocrParseVersion : String
  derivedSchemaVersion : String
  classifierEpoch : String
  deriving DecidableEq

/-! ## Source roots -/

/-- Names of source roots. -/
structure SourceRootId where
  asStr : String
  deriving DecidableEq

/-- Whether a root can be reached. -/
inductive SourceRootState where
  | active
  | offline
  deriving DecidableEq

/-- A directory that is indexed. -/
structure SourceRoot where
  id : SourceRootId
  canonicalPath : String
  state : SourceRootState
  revocationEpoch : Nat

/-- How far a deletion has come. -/
inductive SourceRootDeletionPhase where
  | requested
  | quiescing
  | publishing
  | purging
  | verifying
  | complete
  | failed
  deriving DecidableEq

/-- The deletion is not over. -/
def SourceRootDeletionPhase.isActive (phase : SourceRootDeletionPhase) : Bool :=
  phase ≠ .complete && phase ≠ .failed

/-- A deletion receipt. The path is the one the root had when the deletion was
requested. -/
structure SourceRootDeletion where
  rootId : SourceRootId
  canonicalPath : String
  phase : SourceRootDeletionPhase

/-- Why a scan was requested. -/
inductive ScanTrigger where
  | initial
  | manual
  | watcher
  | periodic
  | recovery
  deriving DecidableEq

/-- How far a scan has come. -/
inductive ScanPhase where
  | queued
  | discovering
  | fingerprinting
  | classifying
  | parsing
  | ocr
  | publishing
  | complete
  | partly
  | failed
  deriving DecidableEq

/-- The scan is not over. -/
def ScanPhase.isActive (phase : ScanPhase) : Bool :=
  phase ≠ .complete && phase ≠ .partly && phase ≠ .failed

/-- Whether a scan has seen every file. -/
inductive ScanCompleteness where
  | unknown
  | complete
  | partly
  deriving DecidableEq

/-- A scan of a root. The id of a coordinated scan is that of its task; the
counters and rates are left out. -/
structure ScanSnapshot where
  id : String
  rootId : SourceRootId
  trigger : ScanTrigger
  phase : ScanPhase
  completeness : ScanCompleteness
  startedAt : Int
  updatedAt : Int
  completedAt : Option Int
  rootRevocationEpoch : Nat

/-! ## Jobs that read PDF files again -/

/-- Where a reprocess job stands. -/
inductive PdfReprocessState where
  | queued
  | scheduled
  | complete
  | cancelled
  deriving DecidableEq

/-- A PDF file that is to be read again. -/
structure PdfReprocessJob where
  sourceRevisionId : SourceRevisionId
  rootId : SourceRootId
  parserContract : String
  state : PdfReprocessState
  attempts : Nat
  scheduledTaskId : Option ImportTaskId
  processingContractId : Option String
  updatedAt : Int
  completedAt : Option Int

/-! ## The authority of the writer -/

/-- Whether the writer may write. -/
inductive WriterAuthorityHealthState where
  | ready
  | transitioning
  | unavailable
  | blocked
  deriving DecidableEq

/-- Why it may not. -/
inductive WriterHealthReason where
  | runtimeUnavailable
  | unsupportedTransition
  | blockedByRunningOwner
  | transitionInProgress
  deriving DecidableEq

/-- How far a transition has come. -/
inductive WriterTransitionPhase where
  | observed
  | claimsFenced
  | workersQuiesced
  | targetCommitted
  | writerReady
  deriving DecidableEq

/-- The columns of the single row of `writer_authority_state`. -/
structure WriterAuthorityColumns where
  healthState : WriterAuthorityHealthState
  healthReason : Option WriterHealthReason
  transitionPhase : Option WriterTransitionPhase
  activeTransitionId : Option String
  claimFenceEpoch : Nat
  committedContractId : Option String
  desiredContractId : Option String
  lastCompletedTransitionId : Option String
  updatedAt : Int
  deriving DecidableEq

/-- The table's check on the health columns. -/
def WriterAuthorityColumns.consistent (row : WriterAuthorityColumns) : Bool :=
  match row.healthState with
  | .ready => row.healthReason.isNone && row.activeTransitionId.isNone
  | .transitioning =>
      row.activeTransitionId.isSome && row.transitionPhase.isSome &&
        row.transitionPhase ≠ some .writerReady
  | .unavailable => row.healthReason.isSome
  | .blocked => row.healthReason.isSome

/-- The row, with its check. -/
structure WriterAuthority extends WriterAuthorityColumns where
  checked : toWriterAuthorityColumns.consistent = true
  deriving DecidableEq

/-- Why a transition waits. -/
inductive WriterTransitionFailure where
  | blockedByRunningOwner
  deriving DecidableEq

/-- A change from one contract to another. -/
structure WriterContractTransition where
  transitionId : String
  sourceContractId : Option String
  targetContractId : String
  phase : WriterTransitionPhase
  claimFenceEpoch : Nat
  failureClass : Option WriterTransitionFailure
  retryable : Bool
  createdAt : Int
  updatedAt : Int
  completedAt : Option Int

/-! ## The store -/

/-- The tables that imports read and write, with the rest of the database they
depend on: the head of search and the contract of an unpublished rebuild. -/
structure ImportStore where
  db : Db
  tasks : Table ImportTask.id
  scopes : Table ImportScanScope.importTaskId
  cancellations : Table ImportTaskCancellation.importTaskId
  bindings : Table ImportTaskContractBinding.importTaskId
  purposes : Table MigrationRebuildFullCorpusTask.importTaskId
  completions : Table ImportTaskCompletion.importTaskId
  authorizedRoots : Table AuthorizedImportRoot.canonicalRootPath
  contracts : Table ImportProcessingContract.id
  roots : Table SourceRoot.id
  deletions : Table SourceRootDeletion.rootId
  scans : Table ScanSnapshot.id
  pdfJobs : Table PdfReprocessJob.sourceRevisionId
  authority : WriterAuthority
  transitions : Table WriterContractTransition.transitionId

/-- A computation inside a transaction on these tables. -/
abbrev ImportTransaction := EStateM MetaStoreError ImportStore

namespace ImportStore

variable (s : ImportStore)

/-- Whether a task has been asked to stop. -/
def cancelled (id : ImportTaskId) : Bool := (s.cancellations.find? id).isSome

/-- The newest task of a root. -/
def canonicalImportTaskHead (rootPath : String) : Option ImportTask :=
  s.tasks.rows.find? fun task => decide (task.rootPath = rootPath)

/-- The purpose of a task. -/
def importTaskPurpose (id : ImportTaskId) : ImportTaskPurpose :=
  if (s.purposes.find? id).isSome then .migrationRebuildFullCorpus else .configuredCatchUp

/-- The contract of a task. -/
def processingContractId (s : ImportStore) (id : ImportTaskId) : Option String :=
  (s.bindings.find? id).map (·.processingContractId)

/-- The source root at a path. -/
def sourceRootByCanonicalPath (path : String) : Option SourceRoot :=
  s.roots.rows.find? fun root => decide (root.canonicalPath = path)

/-- The phase of the deletion of a root, if there is one. -/
def deletionPhase (root : SourceRootId) : Option SourceRootDeletionPhase :=
  (s.deletions.find? root).map (·.phase)

/-- Whether a deletion of the root is under way. -/
def deletionActive (root : SourceRootId) : Bool := (s.deletionPhase root).any (·.isActive)

/-- The root at a path is being deleted. -/
def sourceRootIsDeleting (path : String) : Bool :=
  (s.sourceRootByCanonicalPath path).any fun root => s.deletionActive root.id

/-- Whether a configured root is paused. -/
def importRootControlStatus (path : String) : Option ImportRootControlStatus :=
  (s.authorizedRoots.find? path).map fun root => if root.paused then .paused else .active

/-- The projection is being rebuilt and has never been published. -/
def unpublishedRebuild : Bool :=
  s.db.head.serviceState = .repairing .migrationRebuild && s.db.head.generation = none

/-- The contract of a rebuild that was never published. -/
def unpublishedMigrationContractId : Option String :=
  if s.unpublishedRebuild then s.db.repair.activeContractId else none

/-- The running task count counts cancelled tasks too. -/
def runningCount : Nat := (s.tasks.rows.filter fun task => decide (task.status = .running)).length

end ImportStore

end ResumeIr.MetaStore
