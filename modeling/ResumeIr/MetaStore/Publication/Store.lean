import ResumeIr.MetaStore.Publication.OcrClaim
import ResumeIr.MetaStore.Publication.Retirement

/-!
# The operations of the publication journal

A publication begins with a draft on the head it wants to replace, is validated
once its two artifacts are built, and is committed when the head is still the
one it was drafted on. The commit writes the documents, the active projection,
the journal row and the head in one transaction. A publication whose head has
moved is superseded: beginning it records an abandoned row, and committing it
writes nothing.

Old rows are pruned from the journal, and the generations whose artifacts must
be kept are read from it.
-/

namespace ResumeIr.MetaStore

open CoreDomain Foundation Fallible

/-! ## Begin -/

/-- The row that a draft inserts. -/
def draftRow (draft : SearchPublicationDraft) (authority : PublicationAuthority) : JournalRow where
  generation := draft.generation
  baseGeneration := draft.baseGeneration
  expectedVisibleEpoch := draft.expectedVisibleEpoch
  classifierEpoch := draft.classifierEpoch
  projectionDigest := draft.projectionDigest
  publicationFingerprint := none
  state := .preparing
  fulltext := none
  vector := none
  createdAt := draft.now
  updatedAt := draft.now
  authority := authority

variable (sha256 : List UInt8 → ContentDigest)

/-- `begin_search_publication`. A draft without authority is recorded as a
publication of the current head and retired at once. -/
def beginSearchPublication (activeAttemptId : Option ContentDigest)
    (draft : SearchPublicationDraft) : Transaction SearchPublicationOutcome :=
  transaction do
    ofExcept (validateDraft draft)
    ensureNoPendingRetirement
    require (fitsI64 draft.expectedVisibleEpoch = true) (publicationError .invalidDescriptor)
    let db ← get
    require (0 ≤ draft.now) .storage
    let authority := authorityForBegin sha256 db activeAttemptId draft
    let journal ← demand (db.journal.insert? (draftRow draft (authority.getD .currentHead)))
      .storage
    set { db with journal }
    match authority with
    | some _ => pure .applied
    | none => do
        beginRetirement sha256 draft.generation draft.now .none
        pure .superseded

/-! ## Validate -/

/-- The row with its two descriptors and the fingerprint of the whole. -/
def JournalRow.validate (sha256 : List UInt8 → ContentDigest) (row : JournalRow)
    (validation : SearchPublicationValidation) : JournalRow :=
  { row with
    state := .validated
    publicationFingerprint := some (searchPublicationFingerprint sha256 row.classifierEpoch
      row.projectionDigest validation.fulltext validation.vector)
    fulltext := some validation.fulltext
    vector := some validation.vector
    updatedAt := validation.now }

/-- The journal with the row of a generation validated. -/
def validateRow (journal : Table JournalRow.key) (validation : SearchPublicationValidation) : Table
    JournalRow.key :=
  journal.update validation.generation (fun row => row.validate sha256 validation) fun _ => rfl

def descriptorCountsFit (validation : SearchPublicationValidation) : Bool :=
  fitsI64 validation.fulltext.documentCount && fitsI64 validation.vector.projectionCount
    && fitsI64 validation.vector.vectorCount && fitsI64 validation.vector.documentCount
    && fitsI64 validation.vector.resumeVersionCount

def validateSearchPublication (validation : SearchPublicationValidation) : Transaction Unit :=
  transaction do
    ofExcept (validateDescriptors sha256 validation)
    let found ← searchPublication sha256 validation.generation
    let publication ← demand found (publicationError .invalidState)
    require (publication.state = .preparing ∧
        publication.projectionDigest = validation.fulltext.projectionDigest)
      (publicationError .invalidState)
    require (descriptorCountsFit validation = true) (publicationError .invalidDescriptor)
    require (0 ≤ validation.now) .storage
    modify fun db => { db with journal := validateRow sha256 db.journal validation }

/-! ## Commit -/

/-- Fix the mentions and the candidate of a version; a version that is sealed
already must have the same. -/
def sealResumeVersion (now : Int) (version : ResumeVersionId) :
    EStateM MetaStoreError FactTables Unit := do
  let facts ← get
  let mentionCount :=
    (facts.entityMentions.rows.filter fun mention => mention.resumeVersionId = version).length
  let candidateId := (facts.candidateAssignments.find? version).map (·.candidateId)
  match facts.seals.find? version with
  | none => do
      let seals ← demand (facts.seals.insert? ⟨version, now, mentionCount, candidateId⟩) .storage
      set { facts with seals }
  | some existing =>
      require (existing.entityMentionCount = mentionCount ∧ existing.candidateId = candidateId)
        .storageInvariant

def sealResumeVersions (now : Int) (projections : List ActiveSearchProjection) :
    EStateM MetaStoreError FactTables Unit :=
  projections.forM fun projection => sealResumeVersion now projection.resumeVersionId

def applyTerminalDocumentUpdate (now : Int) (update : TerminalDocumentUpdate) :
    EStateM MetaStoreError (Table Document.id) Unit := do
  let documents ← get
  let document ← demand (documents.find? update.documentId)
    (publicationError .invalidDocumentState)
  require (document.status = update.expectedStatus ∧
      document.isDeleted = update.expectedIsDeleted ∧
      document.contentHash = some update.expectedContentHash.asStr)
    (publicationError .invalidDocumentState)
  set (documents.update update.documentId
    (fun document =>
      { document with
        status := update.terminalStatus
        isDeleted := update.terminalIsDeleted
        updatedAt := now })
    fun _ => rfl)

def applyTerminalDocumentUpdates (now : Int) (updates : List TerminalDocumentUpdate) :
    EStateM MetaStoreError (Table Document.id) Unit :=
  updates.forM (applyTerminalDocumentUpdate now)

def documentMatchesExactSourceRevision (facts : FactTables) (projection : ActiveSearchProjection)
    (document : Document) : Bool :=
  fitsI64 document.byteSize
    && (facts.resumeVersions.find? projection.resumeVersionId).any fun version =>
      version.documentId == projection.documentId
        && (facts.sourceRevisions.find? version.sourceRevisionId).any fun revision =>
          revision.documentId == version.documentId
            && document.contentHash == some revision.contentHash.asStr
            && revision.byteSize == document.byteSize

/-- The document that the active projection shows for a pair now. -/
def retainedDocument (active : List ActiveProjectionRow) (projection : ActiveSearchProjection) :
    Option Document :=
  (active.find? fun row => row.projection = projection).map (·.document)

/-- The document that an action makes visible, before the last checks. -/
def plannedDocument (db : Db) (action : ProjectedDocumentSnapshot) : Option Document :=
  let retained := retainedDocument db.active action.projection
  match action with
  | .retainedUnchanged _ => retained
  | .metadataChanged _ document =>
      if retained.any (· != document) && db.documents.find? document.id == some document then
        some document
      else none
  | .replacement _ document =>
      if retained.isNone && db.documents.find? document.id == some document then some document
      else none

def projectedDocumentSnapshot (db : Db) (action : ProjectedDocumentSnapshot) : Option Document :=
  (plannedDocument db action).filter fun document =>
    document.id == action.projection.documentId && !document.isDeleted
      && document.status == .searchable
      && documentMatchesExactSourceRevision db.facts action.projection document

def activeRow (generation : String) (projection : ActiveSearchProjection) (document : Document) :
    ActiveProjectionRow where
  document := { document with id := projection.documentId }
  resumeVersionId := projection.resumeVersionId
  generation := generation

/-- The number of active versions assigned to a candidate, for every
candidate. -/
def refreshAllCandidateVersionCounts (active : List ActiveProjectionRow) (facts : FactTables) :
    FactTables :=
  { facts with
    candidates := facts.candidates.mapRows
      (fun candidate =>
        { candidate with
          versionCount := (active.filter fun row =>
            (facts.candidateAssignments.find? row.resumeVersionId).any
              fun assignment => assignment.candidateId == candidate.id).length })
      fun _ => rfl }

/-- The writes of a commit whose checks have passed. -/
def Db.publish (db : Db) (commit : SearchPublicationCommit) (active : List ActiveProjectionRow)
    (nextEpoch : Nat) : Db :=
  Db.updateHead
    { db with
      active
      facts := refreshAllCandidateVersionCounts active db.facts
      journal := moveRow db.journal commit.generation .ready commit.now }
    { serviceState := .ready
      generation := some commit.generation
      visibleEpoch := nextEpoch
      updatedAt := commit.now
      ready_names := fun _ => rfl }

def onFacts {α : Type} (x : EStateM MetaStoreError FactTables α) : Transaction α :=
  zoom Db.facts (fun db facts => { db with facts }) x

def onDocuments {α : Type} (x : EStateM MetaStoreError (Table Document.id) α) : Transaction α :=
  zoom Db.documents (fun db documents => { db with documents }) x

def onOcr {α : Type} (x : EStateM MetaStoreError OcrTables α) : Transaction α :=
  zoom Db.ocr (fun db ocr => { db with ocr }) x

/-- The validated row of a commit together with the state of the head, or
nothing when the publication is superseded. -/
def validatedPublicationForCommit (commit : SearchPublicationCommit)
    (barrier : Option MigrationRebuildBarrierToken) : Transaction
    (Option (JournalRow × ServiceState)) := do
  let found ← searchPublication sha256 commit.generation
  let publication ← demand found (publicationError .invalidState)
  require (publication.state = .validated) (publicationError .invalidState)
  let db ← get
  if authorityMatchesCommit sha256 db publication.authority barrier = true ∧
      db.head.generation = publication.baseGeneration ∧
      db.head.visibleEpoch = publication.expectedVisibleEpoch then
    pure (some (publication, db.head.serviceState))
  else pure none

def applySearchPublicationCommit (commit : SearchPublicationCommit) (publication : JournalRow)
    (servicePrecondition : ServiceState) : Transaction Unit := do
  validateCommitAgainstPublication sha256 commit publication.toSearchPublicationRecord
  onFacts (sealResumeVersions commit.now commit.projections)
  onDocuments (applyTerminalDocumentUpdates commit.now commit.terminalDocuments)
  let db ← get
  let documents ← demand (commit.projectedDocuments.mapM (projectedDocumentSnapshot db))
    (publicationError .invalidDocumentState)
  require (0 ≤ commit.now) .storage
  let nextEpoch := publication.expectedVisibleEpoch + 1
  require (fitsI64 nextEpoch = true) (publicationError .invalidDescriptor)
  -- the compare-and-set of the head
  require (db.head.generation = publication.baseGeneration ∧
      db.head.visibleEpoch = publication.expectedVisibleEpoch ∧
      db.head.serviceState = servicePrecondition)
    (publicationError .invalidState)
  set (db.publish commit (List.zipWith (activeRow commit.generation) commit.projections documents)
    nextEpoch)

/-- `commit_search_publication` without a barrier, and
`commit_migration_rebuild_search_publication` with one. -/
def commitSearchPublication (commit : SearchPublicationCommit)
    (barrier : Option MigrationRebuildBarrierToken) : Transaction SearchPublicationOutcome :=
  transaction do
    ofExcept (validateCommitShape commit)
    let validated ← validatedPublicationForCommit sha256 commit barrier
    match validated with
    | none => pure .superseded
    | some (publication, servicePrecondition) => do
        applySearchPublicationCommit sha256 commit publication servicePrecondition
        pure .applied

def commitOcrSearchPublication (publication : OcrSearchPublicationCommit) : Transaction
    OcrSearchPublicationOutcome :=
  transaction do
    ofExcept (validateOcrSearchPublicationCommit publication)
    ofExcept (validateCommitShape publication.search)
    let db ← get
    if claimIsCurrent db publication.claimed then
      let validated ← validatedPublicationForCommit sha256 publication.search none
      match validated with
      | none => pure .publicationSuperseded
      | some (row, servicePrecondition) => do
          require (row.classifierEpoch = publication.classification.classifierEpoch)
            (publicationError .exactClassificationMissing)
          onFacts publication.insertFacts
          applySearchPublicationCommit sha256 publication.search row servicePrecondition
          onOcr (completeClaim publication)
          pure .applied
    else do
      onOcr (settleSuperseded publication.claimed publication.search.now)
      pure .claimSuperseded

/-! ## Prune and retention -/

structure SearchPublicationPrunePolicy where
  retainReady : Nat
  abandonedUpdatedBefore : Int
  maxDelete : Nat

/-- Newer first: a later update, or the same time and a greater generation. -/
def newerFirst (first second : JournalRow) : Prop :=
  second.updatedAt < first.updatedAt ∨
    (second.updatedAt = first.updatedAt ∧ second.generation ≤ first.generation)

instance : DecidableRel newerFirst := fun _ _ => inferInstanceAs (Decidable (_ < _ ∨ (_ = _ ∧ _ ≤ _)))

def olderFirst (first second : JournalRow) : Prop := newerFirst second first

instance : DecidableRel olderFirst := fun first second =>
  inferInstanceAs (Decidable (newerFirst second first))

/-- The newest ready rows. -/
def newestReady (journal : Table JournalRow.key) (count : Nat) : List JournalRow :=
  ((journal.rows.filter fun row => row.state = .ready).insertionSort newerFirst).take count

/-- A row that pruning may delete. -/
def Db.prunable (db : Db) (policy : SearchPublicationPrunePolicy) (row : JournalRow) : Bool :=
  db.head.generation != some row.generation
    && !(db.active.any fun projection => projection.generation == row.generation)
    && !((db.retirement.find? row.generation).any fun retirement => retirement.phase == .pending)
    && ((row.state == .abandoned && row.updatedAt ≤ policy.abandonedUpdatedBefore)
      || (row.state == .ready
        && !((newestReady db.journal policy.retainReady).any
          fun retained => retained.generation == row.generation)))

/-- The rows that pruning deletes, oldest first. -/
def Db.pruned (db : Db) (policy : SearchPublicationPrunePolicy) : List JournalRow :=
  ((db.journal.rows.filter (db.prunable policy)).insertionSort olderFirst).take policy.maxDelete

def pruneSearchPublicationHistory (policy : SearchPublicationPrunePolicy) : Transaction Nat :=
  transaction do
    require (1 ≤ policy.retainReady ∧ policy.retainReady ≤ 256)
      (publicationError .invalidDescriptor)
    require (1 ≤ policy.maxDelete ∧ policy.maxDelete ≤ 256) (publicationError .invalidDescriptor)
    let db ← get
    let generations := (db.pruned policy).map (·.generation)
    -- a row that the repair context refers to cannot be deleted
    require (∀ key ∈ db.repair.artifactContext, key.generation ∉ generations) .storage
    set { db with
      journal := db.journal.delete fun row => generations.contains row.generation
      retirement := db.retirement.delete fun row => generations.contains row.generation }
    pure generations.length

/-- `search_artifact_retention_generations`: the head, the publications in
progress and the newest ready ones. -/
def searchArtifactRetentionGenerations (retainReady : Nat) : Transaction (List String) := do
  require (1 ≤ retainReady ∧ retainReady ≤ 256) (publicationError .invalidDescriptor)
  let db ← get
  pure (db.head.generation.toList
    ++ (db.journal.rows.filter fun row => row.state = .preparing ∨ row.state = .validated).map
      (·.generation)
    ++ (newestReady db.journal retainReady).map (·.generation))

end ResumeIr.MetaStore
