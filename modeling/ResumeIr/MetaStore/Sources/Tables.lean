import ResumeIr.CoreDomain.Paths
import ResumeIr.MetaStore.Imports.Tables

/-!
# The tables of sources

A file found under a source root is an occurrence of a document at one of its
source revisions. An occurrence whose file is gone stays as a removed row.

A source revision that holds only images is triaged for OCR. The triage is the
source of an OCR job. A claim of the job records in a fence the occurrence it
was made for, with the revocation epoch that the root had then.
-/

namespace ResumeIr.MetaStore

open CoreDomain Foundation

inductive SourceOccurrenceState where
  | present
  | removed
  deriving DecidableEq

structure SourceOccurrence where
  rootId : SourceRootId
  relativePath : String
  documentId : DocumentId
  sourceRevisionId : SourceRevisionId
  state : SourceOccurrenceState
  lastSeenScanId : Option String

def SourceOccurrence.key (occurrence : SourceOccurrence) : SourceRootId × String :=
  (occurrence.rootId, occurrence.relativePath)

structure SourceRevisionTriage where
  sourceRevisionId : SourceRevisionId
  triageEpoch : String
  status : ClassificationStatus

def SourceRevisionTriage.key (triage : SourceRevisionTriage) : SourceRevisionId × String :=
  (triage.sourceRevisionId, triage.triageEpoch)

/-- The column `queued_at_seconds` of an OCR job. -/
structure OcrQueueEntry where
  ingestJobId : IngestJobId
  queuedAt : Int

/-- A row of `ocr_claim_source_fence`. -/
structure OcrClaimSourceFence where
  ingestJobId : IngestJobId
  attemptCount : Nat
  documentId : DocumentId
  sourceRevisionId : SourceRevisionId
  triageEpoch : String
  rootId : SourceRootId
  relativePath : String
  rootRevocationEpoch : Nat

def maxRootRevocationEpoch : Nat := 9007199254740991

/-- The tables of imports with those of sources. What the journal of
publications keeps of the fences and their joins (`fences`, `boundClaims` and
`replacementClaims` of its OCR tables) is not read here: the fences and the
joined tables are. -/
structure SourceStore extends ImportStore where
  occurrences : Table SourceOccurrence.key
  triages : Table SourceRevisionTriage.key
  queue : Table OcrQueueEntry.ingestJobId
  fences : Table OcrClaimSourceFence.ingestJobId

/-- A computation inside a transaction on these tables. -/
abbrev SourceTransaction := EStateM MetaStoreError SourceStore

end ResumeIr.MetaStore
