import ResumeIr.CoreDomain.Text
import ResumeIr.MetaStore.Publication.Tables

/-!
# The checks of a publication

A publication passes through four checks. Its draft names a well-formed
generation that differs from its base. Its two descriptors must agree with each
other and with the draft. A commit has a shape of its own: no document and no
version occurs twice in the projection, every projected document comes with the
action that makes it visible, and every terminal update fits the projection.
And inside the transaction the commit is compared with the publication it
commits and with the projection it replaces.

The maps that the source builds from lists are kept as lists here and read with
`versionOf` and the like; the shape check makes their keys distinct.
-/

namespace ResumeIr.MetaStore

open CoreDomain Foundation

/-! ## The requests -/

structure SearchPublicationDraft where
  generation : String
  baseGeneration : Option String
  expectedVisibleEpoch : Nat
  classifierEpoch : String
  projectionDigest : SearchProjectionDigest
  now : Int

structure SearchPublicationValidation where
  generation : String
  fulltext : FullTextSnapshotDescriptor
  vector : VectorSnapshotDescriptor
  now : Int

/-- How one projected document becomes visible. -/
inductive ProjectedDocumentSnapshot where
  | retainedUnchanged (projection : ActiveSearchProjection)
  | metadataChanged (projection : ActiveSearchProjection) (document : Document)
  | replacement (projection : ActiveSearchProjection) (document : Document)
  deriving DecidableEq

def ProjectedDocumentSnapshot.projection : ProjectedDocumentSnapshot → ActiveSearchProjection
  | .retainedUnchanged projection => projection
  | .metadataChanged projection _ => projection
  | .replacement projection _ => projection

def ProjectedDocumentSnapshot.document : ProjectedDocumentSnapshot → Option Document
  | .retainedUnchanged _ => none
  | .metadataChanged _ document => some document
  | .replacement _ document => some document

def ProjectedDocumentSnapshot.isReplacement : ProjectedDocumentSnapshot → Bool
  | .replacement _ _ => true
  | _ => false

structure TerminalDocumentUpdate where
  documentId : DocumentId
  expectedStatus : DocumentStatus
  expectedIsDeleted : Bool
  expectedContentHash : ContentDigest
  terminalStatus : DocumentStatus
  terminalIsDeleted : Bool

structure SearchPublicationCommit where
  generation : String
  terminalDocuments : List TerminalDocumentUpdate
  projections : List ActiveSearchProjection
  projectedDocuments : List ProjectedDocumentSnapshot
  vectorCoverage : List ActiveSearchProjection
  now : Int

/-! ## Names -/

def maxGenerationBytes : Nat := 128
def maxModelIdChars : Nat := 128
def maxVectorDimension : Nat := 65536

def isAsciiAlphanumeric (c : Char) : Bool :=
  ('0' ≤ c && c ≤ '9') || ('a' ≤ c && c ≤ 'z') || ('A' ≤ c && c ≤ 'Z')

def validGeneration (generation : String) : Bool :=
  !generation.isEmpty
    && generation.utf8ByteSize ≤ maxGenerationBytes
    && generation.toList.head? != some '.'
    && generation.toList.all fun c => isAsciiAlphanumeric c || c == '.' || c == '_' || c == '-'

def validModelId (modelId : String) : Bool :=
  1 ≤ modelId.length && modelId.length ≤ maxModelIdChars
    && !modelId.toList.any isControl
    && isTrimmed modelId

def isLowerHexdigit (c : Char) : Bool := ('0' ≤ c && c ≤ '9') || ('a' ≤ c && c ≤ 'f')

def classifierEpochDeterministic : String := "precision_first_v4"
def promotedEpochStem : String := "precision_first_v4_linear_"

/-- `CurrentClassifierEpoch::parse(value).is_some()`. -/
def isCurrentClassifierEpoch (value : String) : Bool :=
  value == classifierEpochDeterministic ||
    (promotedEpochStem.toList.isPrefixOf value.toList &&
      let suffix := value.toList.drop promotedEpochStem.length
      suffix.length == 12 && suffix.all isLowerHexdigit)

/-- Counts and epochs are stored as signed 64-bit numbers. -/
def fitsI64 (value : Nat) : Bool := value < 2 ^ 63

/-! ## Drafts and descriptors -/

def validateDraft (draft : SearchPublicationDraft) : Except MetaStoreError Unit :=
  if !validGeneration draft.generation ||
      draft.baseGeneration.any (fun base => !validGeneration base || base == draft.generation) then
    .error (publicationError .invalidGeneration)
  else if !isCurrentClassifierEpoch draft.classifierEpoch then
    .error (publicationError .invalidClassifierEpoch)
  else .ok ()

def fulltextManifestSchema : String := "fulltext.snapshot.v3"
def fulltextIndexSchema : String := "tantivy.fulltext.v3"
def vectorManifestSchema : String := "vector.snapshot.v4"
def vectorIndexSchema : String := "hnsw-vector.v4"

section Digests

variable (sha256 : List UInt8 → ContentDigest)

def projectionDigest (projections : List ActiveSearchProjection) :
    Except MetaStoreError SearchProjectionDigest :=
  match fromPairs sha256 projections with
  | .ok digest => .ok digest
  | .error _ => .error (publicationError .projectionMismatch)

/-- The four little-endian bytes of a 32-bit number. -/
def toLeBytes32 (n : Nat) : List UInt8 := (toLeBytes n).take 4

def searchPublicationFingerprint (classifierEpoch : String)
    (projectionDigest : SearchProjectionDigest) (fulltext : FullTextSnapshotDescriptor)
    (vector : VectorSnapshotDescriptor) : ContentDigest :=
  let text (value : String) := contentAddressedPart (bytesOf value)
  let count (value : Nat) := contentAddressedPart (toLeBytes value)
  sha256 <|
    text "resume-ir.search-publication.v1"
      ++ text classifierEpoch
      ++ text projectionDigest.digest.asStr
      ++ text fulltextManifestSchema
      ++ text fulltextIndexSchema
      ++ count fulltext.documentCount
      ++ text fulltext.projectionDigest.digest.asStr
      ++ text fulltext.logicalContentDigest.asStr
      ++ text vectorManifestSchema
      ++ text vectorIndexSchema
      ++ count vector.projectionCount
      ++ text vector.projectionDigest.digest.asStr
      ++ text vector.coverageDigest.digest.asStr
      ++ count vector.vectorCount
      ++ count vector.documentCount
      ++ count vector.resumeVersionCount
      ++ text vector.logicalContentDigest.asStr
      ++ match vector.mode with
        | .disabled => text "disabled"
        | .enabled modelId dimension =>
            text "enabled" ++ text modelId ++ contentAddressedPart (toLeBytes32 dimension)

/-- The conditions on the mode of a vector snapshot. -/
def validVectorMode (vector : VectorSnapshotDescriptor) : Bool :=
  match vector.mode with
  | .disabled =>
      vector.vectorCount == 0 && vector.documentCount == 0 && vector.resumeVersionCount == 0
        && fromPairs sha256 [] == .ok vector.coverageDigest
  | .enabled modelId dimension =>
      validModelId modelId && 1 ≤ dimension && dimension ≤ maxVectorDimension

def validateDescriptors (validation : SearchPublicationValidation) : Except MetaStoreError Unit :=
  let fulltext := validation.fulltext
  let vector := validation.vector
  if !validGeneration validation.generation
      || fulltext.generation != validation.generation
      || vector.generation != validation.generation
      || fulltext.projectionDigest != vector.projectionDigest
      || fulltext.documentCount != vector.projectionCount then
    .error (publicationError .descriptorMismatch)
  else if vector.projectionCount < vector.documentCount
      || vector.resumeVersionCount != vector.documentCount
      || vector.vectorCount < vector.documentCount then
    .error (publicationError .invalidDescriptor)
  else if !validVectorMode sha256 vector then
    .error (publicationError .invalidDescriptor)
  else .ok ()

end Digests

/-! ## The shape of a commit -/

/-- The version that a list of pairs gives a document. -/
def versionOf (projections : List ActiveSearchProjection) (document : DocumentId) :
    Option ResumeVersionId :=
  (projections.find? fun projection => projection.documentId = document).map (·.resumeVersionId)

/-- `projection_map` accepts a list in which no document and no version occurs
twice. -/
def projectionMap (projections : List ActiveSearchProjection) :
    Except MetaStoreError (List ActiveSearchProjection) :=
  if (projections.map (·.documentId)).Nodup ∧ (projections.map (·.resumeVersionId)).Nodup then
    .ok projections
  else .error (publicationError .projectionMismatch)

/-- A projected document belongs to the pair at its position. -/
def actionFits (action : ProjectedDocumentSnapshot) (projection : ActiveSearchProjection) : Bool :=
  action.projection == projection
    && action.document.all fun snapshot => snapshot.id == projection.documentId

def validTerminalShape (active : List ActiveSearchProjection) (update : TerminalDocumentUpdate) :
    Bool :=
  let isProjected := (versionOf active update.documentId).isSome
  match update.terminalStatus with
  | .searchable => isProjected && !update.terminalIsDeleted
  | .deleted => !isProjected && update.terminalIsDeleted
  | .excluded => !isProjected && !update.terminalIsDeleted
  | .failedPermanent => !isProjected && !update.terminalIsDeleted
  | _ => false

def validateCommitShape (commit : SearchPublicationCommit) : Except MetaStoreError Unit :=
  if !validGeneration commit.generation then .error (publicationError .invalidGeneration)
  else
    match projectionMap commit.projections with
    | .error error => .error error
    | .ok active =>
        match projectionMap commit.vectorCoverage with
        | .error error => .error error
        | .ok _ =>
            if commit.projectedDocuments.length ≠ commit.projections.length ∨
                ¬ (commit.projectedDocuments.zip commit.projections).all
                  (fun pair => actionFits pair.1 pair.2) then
              .error (publicationError .projectionMismatch)
            else if ¬ (commit.terminalDocuments.map (·.documentId)).Nodup ∨
                ¬ commit.terminalDocuments.all (validTerminalShape active) then
              .error (publicationError .invalidDocumentState)
            else .ok ()

/-! ## A commit against its publication -/

def isStableNonsearchTerminal : DocumentStatus → Bool
  | .excluded => true
  | .failedPermanent => true
  | .deleted => true
  | _ => false

/-- What may happen to a document that is projected now. -/
def validTransition (current : ResumeVersionId) (target : Option ResumeVersionId)
    (action : Option ProjectedDocumentSnapshot) (terminal : Option DocumentStatus) : Bool :=
  match target, action with
  | some version, some (.retainedUnchanged _) => version == current && terminal.isNone
  | some version, some (.metadataChanged _ _) => version == current && terminal.isNone
  | some version, some (.replacement _ _) => version != current && terminal == some .searchable
  | none, _ => terminal.any isStableNonsearchTerminal
  | _, _ => false

/-- What may happen to a document that is projected for the first time. -/
def validArrival (action : Option ProjectedDocumentSnapshot) (terminal : Option DocumentStatus) :
    Bool :=
  terminal == some .searchable && action.any (·.isReplacement)

def terminalStatusOf (terminals : List TerminalDocumentUpdate) (document : DocumentId) :
    Option DocumentStatus :=
  (terminals.find? fun terminal => terminal.documentId = document).map (·.terminalStatus)

def actionOf (actions : List ProjectedDocumentSnapshot) (document : DocumentId) :
    Option ProjectedDocumentSnapshot :=
  actions.find? fun action => action.projection.documentId = document

def validateProjectionTransitions (current : List ActiveProjectionRow)
    (commit : SearchPublicationCommit) (baseGeneration : Option String) :
    Except MetaStoreError Unit :=
  if ¬ ∀ row ∈ current, some row.generation = baseGeneration then
    .error (publicationError .invalidPersistedState)
  else if ¬ ∀ row ∈ current,
      validTransition row.resumeVersionId (versionOf commit.projections row.document.id)
        (actionOf commit.projectedDocuments row.document.id)
        (terminalStatusOf commit.terminalDocuments row.document.id) = true then
    .error (publicationError .invalidProjectionTransition)
  else if ¬ ∀ projection ∈ commit.projections,
      projection.documentId ∈ current.map (·.document.id) ∨
        validArrival (actionOf commit.projectedDocuments projection.documentId)
          (terminalStatusOf commit.terminalDocuments projection.documentId) = true then
    .error (publicationError .invalidProjectionTransition)
  else .ok ()

/-- The content hash of the revision that a version of a document was read
from. -/
def projectedContentHash (facts : FactTables) (version : ResumeVersionId)
    (document : DocumentId) : Option ContentDigest := do
  let row ← facts.resumeVersions.find? version
  if row.documentId = document then
    let revision ← facts.sourceRevisions.find? row.sourceRevisionId
    return revision.contentHash
  else none

/-- A document that becomes searchable is committed at the content it had. -/
def searchableTerminalMatches (facts : FactTables) (projections : List ActiveSearchProjection)
    (terminal : TerminalDocumentUpdate) : Bool :=
  match versionOf projections terminal.documentId with
  | none => false
  | some version =>
      projectedContentHash facts version terminal.documentId
        == some terminal.expectedContentHash

def hasResumeCandidateClassification (facts : FactTables) (version : ResumeVersionId)
    (classifierEpoch : String) : Bool :=
  (facts.classifications.find? (version, classifierEpoch)).any
    fun row => row.status == .resumeCandidate

def validateClassifications (facts : FactTables) (projections : List ActiveSearchProjection)
    (classifierEpoch : String) : Except MetaStoreError Unit :=
  if projections = [] then .ok ()
  else if !isCurrentClassifierEpoch classifierEpoch then
    .error (.invalidPersistedValue "resume_version_classification.classifier_epoch")
  else if ¬ ∀ projection ∈ projections,
      hasResumeCandidateClassification facts projection.resumeVersionId classifierEpoch = true then
    .error (publicationError .exactClassificationMissing)
  else .ok ()

/-- The covered documents are projected at the covered version, and the
descriptor counts and digests exactly them. -/
def coverageMatches (sha256 : List UInt8 → ContentDigest) (commit : SearchPublicationCommit)
    (vector : VectorSnapshotDescriptor) : Bool :=
  commit.vectorCoverage.all (fun covered =>
      versionOf commit.projections covered.documentId == some covered.resumeVersionId)
    && commit.vectorCoverage.length == vector.documentCount
    && projectionDigest sha256 commit.vectorCoverage == .ok vector.coverageDigest

open Fallible in
def validateCommitAgainstPublication (sha256 : List UInt8 → ContentDigest)
    (commit : SearchPublicationCommit) (publication : SearchPublicationRecord) :
    Transaction Unit := do
  let fulltext ← demand publication.fulltext (publicationError .invalidPersistedState)
  let vector ← demand publication.vector (publicationError .invalidPersistedState)
  let digest ← ofExcept (projectionDigest sha256 commit.projections)
  require (digest = publication.projectionDigest ∧ digest = fulltext.projectionDigest ∧
      digest = vector.projectionDigest ∧ fulltext.documentCount = commit.projections.length ∧
      vector.projectionCount = commit.projections.length)
    (publicationError .projectionMismatch)
  require (coverageMatches sha256 commit vector = true) (publicationError .vectorCoverageMismatch)
  let db ← get
  ofExcept (validateProjectionTransitions db.active commit publication.baseGeneration)
  require (∀ terminal ∈ commit.terminalDocuments, terminal.terminalStatus = .searchable →
      searchableTerminalMatches db.facts commit.projections terminal = true)
    (publicationError .invalidDocumentState)
  ofExcept (validateClassifications db.facts commit.projections publication.classifierEpoch)

/-! ## Reading a row back -/

/-- The conditions under which `read_publication` accepts a stored row. -/
def wellFormedRow (sha256 : List UInt8 → ContentDigest) (row : SearchPublicationRecord) : Bool :=
  match row.fulltext, row.vector, row.publicationFingerprint with
  | none, none, none => row.state != .validated && row.state != .ready
  | some fulltext, some vector, some fingerprint =>
      row.state != .preparing
        && validateDescriptors sha256 ⟨row.generation, fulltext, vector, 0⟩ == .ok ()
        && row.projectionDigest == fulltext.projectionDigest
        && fingerprint ==
          searchPublicationFingerprint sha256 row.classifierEpoch row.projectionDigest
            fulltext vector
  | _, _, _ => false

open Fallible in
/-- `search_publication_in_connection`: the row of a generation, if there is
one, provided it is well formed. -/
def searchPublication (sha256 : List UInt8 → ContentDigest) (generation : String) :
    Transaction (Option JournalRow) := do
  let db ← get
  match db.journal.find? generation with
  | none => pure none
  | some row =>
      require (wellFormedRow sha256 row.toSearchPublicationRecord = true)
        (publicationError .invalidPersistedState)
      pure (some row)

end ResumeIr.MetaStore
