import ResumeIr.CoreDomain.Identity

/-!
# Search publications

A search publication is one generation of the immutable search artifacts: a
full-text snapshot and a vector snapshot built for one projection. Its journal
row records the head it was built on (a base generation and a visible epoch),
the digest of the projection, and, once both artifacts are validated, their
descriptors and the fingerprint of the whole.

This module holds the records that the journal stores and that the query
runtime reads.
-/

namespace ResumeIr.MetaStore

open CoreDomain

/-- The states of a journal row. -/
inductive SearchPublicationState where
  | preparing
  | validated
  | ready
  | abandoned
  deriving DecidableEq

/-- The answer of a commit or a begin. -/
inductive SearchPublicationOutcome where
  | applied
  | superseded
  deriving DecidableEq

/-- The full-text artifact of a publication. -/
structure FullTextSnapshotDescriptor where
  generation : String
  documentCount : Nat
  projectionDigest : SearchProjectionDigest
  logicalContentDigest : ContentDigest
  deriving DecidableEq

inductive VectorSnapshotMode where
  | disabled
  | enabled (modelId : String) (dimension : Nat)
  deriving DecidableEq

/-- The vector artifact of a publication. -/
structure VectorSnapshotDescriptor where
  generation : String
  mode : VectorSnapshotMode
  projectionCount : Nat
  projectionDigest : SearchProjectionDigest
  coverageDigest : SearchProjectionDigest
  vectorCount : Nat
  documentCount : Nat
  resumeVersionCount : Nat
  logicalContentDigest : ContentDigest
  deriving DecidableEq

/-- One row of the publication journal, as it is read back. -/
structure SearchPublicationRecord where
  generation : String
  baseGeneration : Option String
  expectedVisibleEpoch : Nat
  classifierEpoch : String
  projectionDigest : SearchProjectionDigest
  publicationFingerprint : Option ContentDigest
  state : SearchPublicationState
  fulltext : Option FullTextSnapshotDescriptor
  vector : Option VectorSnapshotDescriptor
  createdAt : Int
  updatedAt : Int
  deriving DecidableEq

/-- The head as a metadata snapshot reads it: its generation, the visible
epoch and the journal row it names. A snapshot refuses to open on a head whose
row is not ready or was built for another epoch. -/
structure SearchMetadataHead where
  generation : String
  visibleEpoch : Nat
  publication : SearchPublicationRecord
  named : publication.generation = generation
  ready : publication.state = .ready
  epoch : publication.expectedVisibleEpoch + 1 = visibleEpoch

end ResumeIr.MetaStore
