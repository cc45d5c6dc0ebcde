import ResumeIr.CoreDomain.Identity

/-!
# Documents, source revisions and resume versions

The records of the domain that the metadata store keeps: a document as it was
last seen on disk, the exact content revisions that were read from it, and the
resume versions parsed from them.
-/

namespace ResumeIr.CoreDomain

abbrev SourceRevisionId := StableId "rev_"
abbrev CandidateId := StableId "cand_"
abbrev EntityMentionId := StableId "ent_"
abbrev IngestJobId := StableId "job_"

inductive FileExtension where
  | docx
  | pdf
  | doc
  | txt
  | image
  | other (name : String)
  deriving DecidableEq

inductive DocumentStatus where
  | discovered
  | fingerprinted
  | parseQueued
  | parseRunning
  | textExtracted
  | ocrRequired
  | ocrRunning
  | ocrDone
  | textCleaned
  | fieldsExtracted
  | embeddingDone
  | indexedPartial
  | searchable
  | excluded
  | failedRetryable
  | failedPermanent
  | deleted
  deriving DecidableEq

structure Document where
  id : DocumentId
  sourceUri : String
  normalizedPath : String
  fileName : String
  extension : FileExtension
  byteSize : Nat
  mtime : Int
  contentHash : Option String
  textHash : Option String
  isDeleted : Bool
  createdAt : Int
  updatedAt : Int
  status : DocumentStatus
  deriving DecidableEq

/-- One exact content of a document. -/
structure SourceRevision where
  id : SourceRevisionId
  documentId : DocumentId
  contentHash : ContentDigest
  byteSize : Nat

/-- What was parsed from one source revision. -/
structure ResumeVersion where
  id : ResumeVersionId
  documentId : DocumentId
  sourceRevisionId : SourceRevisionId
  normalizedTextHash : ContentDigest
  parseVersion : String
  schemaVersion : String
  rawText : Option String
  cleanText : Option String
  deriving DecidableEq

/-- What the id of a version is the hash of. -/
def ResumeVersion.identityParts (version : ResumeVersion) : List String :=
  [version.documentId.asStr, version.sourceRevisionId.asStr, version.normalizedTextHash.asStr,
    version.parseVersion, version.schemaVersion]

inductive IngestJobKind where
  | discoverDocument
  | fingerprintDocument
  | parseDocument
  | ocrDocument
  | cleanText
  | extractFields
  | updateIndex
  deriving DecidableEq

inductive IngestJobStatus where
  | queued
  | running
  | interrupted
  | completed
  | failedRetryable
  | failedPermanent
  deriving DecidableEq

/-- What the classifier says about one resume version. -/
inductive ClassificationStatus where
  | resumeCandidate
  | nonResume
  | needsReview
  | ocrBacklog
  | failed
  deriving DecidableEq

end ResumeIr.CoreDomain
