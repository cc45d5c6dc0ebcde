import ResumeIr.ImportPipeline.VectorPublication
import ResumeIr.MetaStore.Publication.HeadConsistency

/-!
# The plan of a commit

The pipeline compares the projection it wants with the one it started from and
plans for every document whether it is retained, has new metadata or is
replaced. The plan is then bound to the documents that the caller hands over,
and every document that is not merely a change of metadata becomes a terminal
update. The store checks the result again, from its own tables.

The pipeline takes the status of a document that the caller hands over as it
is. A removal for a permanent exclusion hands over the document as it is stored,
and the store refuses the commit if the document is still searchable there. The
result of OCR makes its document terminal in any case, and is refused if search
shows that version already. `commit_plan_accepted_iff` says exactly when the two
sides agree.
-/

namespace ResumeIr.ImportPipeline

open CoreDomain IndexVector MetaStore Foundation
  Foundation.Fallible

/-! ## Planning -/

inductive ProjectedDocumentPlan where
  | retainedUnchanged (projection : ActiveSearchProjection)
  | metadataChanged (projection : ActiveSearchProjection)
  | replacement (projection : ActiveSearchProjection)
  deriving DecidableEq

/-- Whether the text of the version was staged, for this document. -/
def isStaged (staged : StagedSearchVersionTexts) (projection : ActiveSearchProjection) : Bool :=
  (staged.find? projection.resumeVersionId).any fun text =>
    text.documentId = projection.documentId

/-- A pair of the target is one of the base, or its text is staged. -/
def planFor (base : List ActiveSearchProjection) (staged : StagedSearchVersionTexts)
    (projection : ActiveSearchProjection) : Except ImportPipelineError ProjectedDocumentPlan :=
  match activeVersion base projection.documentId, isStaged staged projection with
  | some version, false =>
      if version = projection.resumeVersionId then .ok (.retainedUnchanged projection)
      else .error .storeInvariant
  | some version, true =>
      if version = projection.resumeVersionId then .ok (.metadataChanged projection)
      else .ok (.replacement projection)
  | none, true => .ok (.replacement projection)
  | none, false => .error .storeInvariant

def projectedDocumentPlan (base target : List ActiveSearchProjection)
    (staged : StagedSearchVersionTexts) : Except ImportPipelineError (List ProjectedDocumentPlan) :=
  target.mapM (planFor base staged)

variable (sha256 : List UInt8 → ContentDigest) (store : Table Document.id)

/-- The pairs whose vectors the generation has: all of them or, without a model,
none. -/
def validateVectorPublication (vector : VectorSnapshotSummary) (generation : String)
    (projections : List ActiveSearchProjection) (digest : SearchProjectionDigest) : Except
    ImportPipelineError (List ActiveSearchProjection) := do
  check (vector.generation = generation ∧ vector.projectionCount = projections.length ∧
    vector.projectionDigest = digest) .storeInvariant
  match vector.modelContract with
  | .disabled => do
      check (vector.vectorCount = 0 ∧ vector.vectorDocumentCount = 0 ∧
        fromPairs sha256 [] = .ok vector.coverageDigest) .storeInvariant
      return []
  | .enabled _ _ => do
      check (projections.length ≤ vector.vectorCount ∧
        vector.vectorDocumentCount = projections.length ∧ vector.coverageDigest = digest)
        .storeInvariant
      return projections

/-- An error of the store, reported by the pipeline. -/
def storeResult {α : Type} : Except MetaStoreError α → Except ImportPipelineError α
  | .ok a => .ok a
  | .error error => .error (.store error)

theorem storeResult_eq_ok {α : Type} {x : Except MetaStoreError α} {a : α} :
    storeResult x = .ok a ↔ x = .ok a := by
  cases x <;> simp [storeResult]

structure PreparedSearchPublication where
  fulltext : FullTextSnapshotDescriptor
  vector : VectorSnapshotSummary
  projections : List ActiveSearchProjection
  projectedDocuments : List ProjectedDocumentPlan
  vectorCoverage : List ActiveSearchProjection

/-- Documents that stay in search keep the epoch they were classified under. -/
def validateClassifierEpoch (base : SearchPublicationBase) (baseEpoch classifierEpoch : String) :
    Except ImportPipelineError Unit :=
  check (base.projections = [] ∨ classifierEpoch = baseEpoch) .storeInvariant

/-- What of `prepare_search_publication` the commit depends on: the plan, the
draft that the store accepts, and the two snapshots that were written. -/
def prepareSearchPublication (base : SearchPublicationBase) (baseEpoch : String)
    (visibleEpoch : Nat) (classifierEpoch generation : String) (now : Int)
    (projections : List ActiveSearchProjection) (staged : StagedSearchVersionTexts)
    (fulltext : FullTextSnapshotDescriptor) (vector : VectorSnapshotSummary) : Except
    ImportPipelineError PreparedSearchPublication := do
  validateClassifierEpoch base baseEpoch classifierEpoch
  let projectedDocuments ← projectedDocumentPlan base.projections projections staged
  let digest ← storeResult (MetaStore.projectionDigest sha256 projections)
  storeResult
    (validateDraft ⟨generation, base.generation, visibleEpoch, classifierEpoch, digest, now⟩)
  check (fulltext.generation = generation ∧ fulltext.documentCount = projections.length ∧
    fulltext.projectionDigest = digest) .storeInvariant
  let vectorCoverage ← validateVectorPublication sha256 vector generation projections digest
  return { fulltext, vector, projections, projectedDocuments, vectorCoverage }

/-! ## Binding -/

/-- The document that the caller hands over under an id. -/
def documentFor (documents : List Document) (id : DocumentId) : Option Document :=
  documents.find? fun document => document.id = id

def publicationDocumentMap (documents : List Document) : Except ImportPipelineError Unit :=
  check (documents.map (·.id)).Nodup .storeInvariant

def bindProjectedDocumentSnapshot (documents : List Document) :
    ProjectedDocumentPlan → Except ImportPipelineError ProjectedDocumentSnapshot
  | .retainedUnchanged projection => do
      check (documentFor documents projection.documentId = none) .storeInvariant
      return .retainedUnchanged projection
  | .metadataChanged projection => do
      let document ← present (documentFor documents projection.documentId) .storeInvariant
      return .metadataChanged projection document
  | .replacement projection => do
      let document ← present (documentFor documents projection.documentId) .storeInvariant
      return .replacement projection document

/-- `value.parse::<ContentDigest>()`. -/
def parseContentDigest (value : String) : Option ContentDigest :=
  let label := "sha256:".toList
  if label.isPrefixOf value.toList ∧ (value.toList.drop label.length).length = 64 ∧
      (value.toList.drop label.length).all isLowerHexdigit then some ⟨value⟩
  else none

/-- The update of a document: from what the store has to what was handed over. -/
def terminalDocumentUpdate (target : Document) : Except ImportPipelineError
    TerminalDocumentUpdate := do
  let current ← present (store.find? target.id) .storeInvariant
  let expectedContentHash ← present (current.contentHash.bind parseContentDigest) .storeInvariant
  return {
    documentId := target.id
    expectedStatus := current.status
    expectedIsDeleted := current.isDeleted
    expectedContentHash
    terminalStatus := target.status
    terminalIsDeleted := target.isDeleted }

def terminalDocumentUpdates (documents : List Document) : Except ImportPipelineError
    (List TerminalDocumentUpdate) := do
  check (documents.map (·.id)).Nodup .storeInvariant
  documents.mapM (terminalDocumentUpdate store)

def metadataChangedId : ProjectedDocumentSnapshot → Option DocumentId
  | .metadataChanged projection _ => some projection.documentId
  | _ => none

/-- The two snapshots are of one generation and hold the projection. -/
def PreparedSearchPublication.aligned (publication : PreparedSearchPublication) : Prop :=
  publication.fulltext.documentCount = publication.projections.length ∧
    publication.vector.projectionCount = publication.projections.length ∧
    publication.fulltext.generation = publication.vector.generation ∧
    publication.fulltext.generation ≠ ""

instance (publication : PreparedSearchPublication) : Decidable publication.aligned :=
  inferInstanceAs (Decidable (_ ∧ _))

/-- The commit that `decide_search_publication_with` hands to the store. -/
def searchPublicationCommit (publication : PreparedSearchPublication) (documents : List Document)
    (now : Int) : Except ImportPipelineError SearchPublicationCommit := do
  check publication.aligned .storeInvariant
  publicationDocumentMap documents
  let projectedDocuments ←
    publication.projectedDocuments.mapM (bindProjectedDocumentSnapshot documents)
  let terminalDocuments ← terminalDocumentUpdates store (documents.filter fun document =>
    document.id ∉ projectedDocuments.filterMap metadataChangedId)
  return {
    generation := publication.fulltext.generation
    terminalDocuments
    projections := publication.projections
    projectedDocuments
    vectorCoverage := publication.vectorCoverage
    now }

/-! ## Removals -/

inductive SearchProjectionRemovalReason where
  | confirmedSourceDeletion
  | permanentClassificationExclusion
  | privacyRevocation
  deriving DecidableEq

structure SearchProjectionRemoval where
  documentId : DocumentId
  reason : SearchProjectionRemovalReason

/-- The stored document as a removal hands it over. Only a permanent exclusion
leaves its status as it is. -/
def removedDocument (now : Int) (reason : SearchProjectionRemovalReason) (document : Document) :
    Document :=
  match reason with
  | .confirmedSourceDeletion | .privacyRevocation =>
      { document with isDeleted := true, status := .deleted, updatedAt := now }
  | .permanentClassificationExclusion => { document with updatedAt := now }

def removedDocuments (removals : List SearchProjectionRemoval) (now : Int) : List Document :=
  removals.filterMap fun removal =>
    (store.find? removal.documentId).map (removedDocument now removal.reason)

/-- The base that a publication loads from the store. -/
def publicationBase (db : Db) (contract : VectorModelContract) : SearchPublicationBase where
  generation := db.head.generation
  projections := db.active.map (·.projection)
  vectorContract := contract

/-- What a publication is given besides its documents. -/
structure PublicationInputs where
  contract : VectorModelContract
  baseEpoch : String
  classifierEpoch : String
  generation : String
  fulltext : FullTextSnapshotDescriptor
  vector : VectorSnapshotSummary
  now : Int

/-- `publish_incremental_search_artifacts` up to the decision. -/
def prepareIncrementalPublication (db : Db) (inputs : PublicationInputs)
    (replacements : List IndexDocument) (removed : List String) : Except ImportPipelineError
    PreparedSearchPublication := do
  let base := publicationBase db inputs.contract
  let staged ← stagedSearchVersionTexts replacements
  let projections ← projectionsAfterDelta base.projections replacements removed
  prepareSearchPublication sha256 base inputs.baseEpoch db.head.visibleEpoch
    inputs.classifierEpoch inputs.generation inputs.now projections staged inputs.fulltext
    inputs.vector

/-- The commit of `publish_search_projection_removals`. -/
def searchProjectionRemovalsCommit (db : Db) (inputs : PublicationInputs)
    (removals : List SearchProjectionRemoval) : Except ImportPipelineError
    SearchPublicationCommit := do
  let prepared ← prepareIncrementalPublication sha256 db inputs []
    (removals.map (·.documentId.asStr))
  searchPublicationCommit db.documents prepared
    (removedDocuments db.documents removals inputs.now) inputs.now

/-! ## Results of OCR -/

/-- The commit of `decide_ocr_search_publication`. The claimed document always
becomes terminal. -/
def ocrSearchPublicationCommit (publication : PreparedSearchPublication) (document : Document)
    (sourceRevision : SourceRevision) (admitted : Bool) (now : Int) :
    Except ImportPipelineError SearchPublicationCommit := do
  check publication.aligned .storeInvariant
  let documents :=
    if admitted then [{ document with status := .searchable, updatedAt := now }] else []
  publicationDocumentMap documents
  let projectedDocuments ←
    publication.projectedDocuments.mapM (bindProjectedDocumentSnapshot documents)
  return {
    generation := publication.fulltext.generation
    terminalDocuments := [{
      documentId := document.id
      expectedStatus := .ocrRequired
      expectedIsDeleted := false
      expectedContentHash := sourceRevision.contentHash
      terminalStatus := if admitted then .searchable else .excluded
      terminalIsDeleted := false }]
    projections := publication.projections
    projectedDocuments
    vectorCoverage := publication.vectorCoverage
    now }

/-- The commit of `index_claimed_ocr_text` for the text of a document. -/
def ocrTextCommit (db : Db) (inputs : PublicationInputs) (document : Document)
    (sourceRevision : SourceRevision) (version : ResumeVersionId) (text : String)
    (admitted : Bool) : Except ImportPipelineError SearchPublicationCommit := do
  let prepared ← prepareIncrementalPublication sha256 db inputs
    (if admitted then [⟨document.id, version, text⟩] else []) [document.id.asStr]
  ocrSearchPublicationCommit prepared document sourceRevision admitted inputs.now

/-! ## What the store accepts -/

variable {id : DocumentId} {document : Document}

section Accepted

variable {base target : List ActiveSearchProjection} {documents terminals : List Document}
  {commit : SearchPublicationCommit} {pair : ActiveSearchProjection}
  {action : ProjectedDocumentSnapshot}

theorem versionOf_isSome :
    (versionOf target id).isSome = true ↔ id ∈ target.map (·.documentId) := by
  simp [versionOf]

/-- The status that a terminal update may give a document. -/
def TerminalFits (target : List ActiveSearchProjection) (document : Document) : Prop :=
  match document.status with
  | .searchable => document.id ∈ target.map (·.documentId) ∧ document.isDeleted = false
  | .deleted => document.id ∉ target.map (·.documentId) ∧ document.isDeleted = true
  | .excluded | .failedPermanent =>
      document.id ∉ target.map (·.documentId) ∧ document.isDeleted = false
  | _ => False

/-- How a pair of the target is acted on, given the documents handed over. -/
inductive Acts (base : List ActiveSearchProjection) (documents : List Document)
    (pair : ActiveSearchProjection) : ProjectedDocumentSnapshot → Prop where
  | retained (known : pair ∈ base)
      (absent : ∀ document ∈ documents, document.id ≠ pair.documentId) :
      Acts base documents pair (.retainedUnchanged pair)
  | changed {document : Document} (known : pair ∈ base) (given : document ∈ documents)
      (same : document.id = pair.documentId) :
      Acts base documents pair (.metadataChanged pair document)
  | replaced {document : Document} (new : pair ∉ base) (given : document ∈ documents)
      (same : document.id = pair.documentId) :
      Acts base documents pair (.replacement pair document)

theorem Acts.projection_eq (acts : Acts base documents pair action) : action.projection = pair := by
  cases acts <;> rfl

theorem Acts.fits (acts : Acts base documents pair action) : actionFits action pair = true := by
  cases acts with
  | retained => simp [actionFits, ProjectedDocumentSnapshot.projection,
      ProjectedDocumentSnapshot.document]
  | changed _ _ same | replaced _ _ same => simp [actionFits,
      ProjectedDocumentSnapshot.projection, ProjectedDocumentSnapshot.document, same]

/-- What a terminal update makes of a document. -/
def Finishes (document : Document) (update : TerminalDocumentUpdate) : Prop :=
  update.documentId = document.id ∧ update.terminalStatus = document.status ∧
    update.terminalIsDeleted = document.isDeleted

/-- A commit that moves the store from one projection to another. The documents
that become terminal are listed with the status they get. -/
structure Plans (base target : List ActiveSearchProjection) (documents terminals : List Document)
    (commit : SearchPublicationCommit) : Prop where
  named : validGeneration commit.generation = true
  projections : commit.projections = target
  documents_distinct : (target.map (·.documentId)).Nodup
  versions_distinct : (target.map (·.resumeVersionId)).Nodup
  actions : List.Forall₂ (Acts base documents) target commit.projectedDocuments
  covered : commit.vectorCoverage = [] ∨ commit.vectorCoverage = target
  updates : List.Forall₂ Finishes terminals commit.terminalDocuments
  terminals_distinct : (terminals.map (·.id)).Nodup

theorem documentFor_eq_some (found : documentFor documents id = some document) :
    document ∈ documents ∧ document.id = id :=
  ⟨List.mem_of_find?_eq_some found, by simpa using List.find?_some found⟩

theorem documentFor_eq_none (missing : documentFor documents id = none) :
    ∀ document ∈ documents, document.id ≠ id := by
  simpa [documentFor] using missing

namespace Plans

variable (plans : Plans base target documents terminals commit)
include plans

theorem updates_distinct : (commit.terminalDocuments.map (·.documentId)).Nodup := by
  have same : terminals.map (·.id) = commit.terminalDocuments.map (·.documentId) := by
    rw [← List.forall₂_eq_eq_eq, List.forall₂_map_left_iff, List.forall₂_map_right_iff]
    exact plans.updates.imp fun document update finishes => finishes.1.symm
  exact same ▸ plans.terminals_distinct

/-- The status that a document is given. -/
theorem terminalStatusOf_eq :
    terminalStatusOf commit.terminalDocuments id = (documentFor terminals id).map (·.status) := by
  have related := find?_related plans.updates (p := fun document => document.id = id)
    (q := fun update => update.documentId = id) fun document update finishes => by
      rw [finishes.1]
  unfold terminalStatusOf documentFor
  obtain ⟨missing, absent⟩ | ⟨document, update, found, first, finishes⟩ := related
  · rw [missing, absent]
    rfl
  · rw [found, first]
    exact congrArg some finishes.2.1

/-- What holds of the status of every terminal document under an id, and not of
a missing one, says whether there is such a document. -/
theorem terminal_iff {p : Option DocumentStatus → Prop} (missing : ¬ p none)
    (each : ∀ document ∈ terminals, document.id = id → p (some document.status)) :
    p (terminalStatusOf commit.terminalDocuments id) ↔
      ∃ document ∈ terminals, document.id = id := by
  rw [plans.terminalStatusOf_eq]
  cases found : documentFor terminals id with
  | none =>
    refine iff_of_false missing ?_
    rintro ⟨document, there, same⟩
    exact documentFor_eq_none found document there same
  | some document =>
    obtain ⟨there, same⟩ := documentFor_eq_some found
    exact iff_of_true (each document there same) ⟨document, there, same⟩

/-- The target does not project a document, or acts on the pair it has. -/
theorem projected_or (id : DocumentId) :
    (id ∉ target.map (·.documentId) ∧ versionOf target id = none) ∨
      ∃ pair ∈ target, ∃ action, pair.documentId = id ∧
        versionOf target id = some pair.resumeVersionId ∧
        actionOf commit.projectedDocuments id = some action ∧ Acts base documents pair action := by
  have related := find?_related plans.actions (p := fun pair => pair.documentId = id)
    (q := fun action => action.projection.documentId = id) fun pair action acts => by
      rw [acts.projection_eq]
  obtain ⟨missing, -⟩ | ⟨pair, action, found, acted, acts⟩ := related
  · exact .inl ⟨by simpa using missing, congrArg (Option.map _) missing⟩
  · exact .inr ⟨pair, List.mem_of_find?_eq_some found, action,
      by simpa using List.find?_some found, congrArg (Option.map _) found, acted, acts⟩

/-! The shape of the commit depends on its terminal updates alone. -/

omit plans in
theorem validTerminalShape_iff {update : TerminalDocumentUpdate}
    (finishes : Finishes document update) :
    validTerminalShape target update = true ↔ TerminalFits target document := by
  obtain ⟨named, status, deleted⟩ := finishes
  unfold validTerminalShape TerminalFits
  rw [named, status, deleted]
  have projected : (versionOf target document.id).isSome = true ↔
      document.id ∈ target.map (·.documentId) := versionOf_isSome
  cases document.status <;> simp [← projected]

omit plans in
theorem projectionMap_of_distinct (distinct : (target.map (·.documentId)).Nodup)
    (versions : (target.map (·.resumeVersionId)).Nodup) : projectionMap target = .ok target :=
  if_pos ⟨distinct, versions⟩

theorem shape_iff :
    validateCommitShape commit = .ok () ↔ ∀ document ∈ terminals, TerminalFits target document := by
  have mapped := projectionMap_of_distinct plans.documents_distinct plans.versions_distinct
  have covered : projectionMap commit.vectorCoverage = .ok commit.vectorCoverage := by
    obtain none | all := plans.covered
    · rw [none]
      rfl
    · rw [all]
      exact mapped
  have fits : ¬ (commit.projectedDocuments.length ≠ target.length ∨
      ¬ (commit.projectedDocuments.zip target).all fun pair => actionFits pair.1 pair.2) := by
    rintro (lengths | misfit)
    · exact lengths plans.actions.length_eq.symm
    · refine misfit (List.all_eq_true.mpr fun entry listed => ?_)
      have acts := List.forall₂_iff_zip.mp plans.actions.flip |>.2 listed
      exact acts.fits
  have terminal : commit.terminalDocuments.all (validTerminalShape target) = true ↔
      ∀ document ∈ terminals, TerminalFits target document := by
    rw [List.all_eq_true]
    constructor
    · intro each document member
      obtain ⟨update, there, finishes⟩ := exists_related_right plans.updates member
      exact (validTerminalShape_iff finishes).mp (each update there)
    · intro each update member
      obtain ⟨document, there, finishes⟩ := exists_related_left plans.updates member
      exact (validTerminalShape_iff finishes).mpr (each document there)
  unfold validateCommitShape
  rw [plans.projections, mapped, covered]
  simp only [plans.named, if_neg fits]
  rw [← terminal]
  simp [plans.updates_distinct]

end Plans

/-- The document keeps its version in search. -/
def Remains (base target : List ActiveSearchProjection) (id : DocumentId) : Prop :=
  ∃ pair ∈ base, pair ∈ target ∧ pair.documentId = id

/-- The document becomes terminal exactly if it leaves search, arrives there or
changes its version. -/
def Settles (base target : List ActiveSearchProjection) (terminals : List Document)
    (id : DocumentId) : Prop :=
  (∃ document ∈ terminals, document.id = id) ↔ ¬ Remains base target id

def Accounts (base target : List ActiveSearchProjection) (terminals : List Document) : Prop :=
  ∀ id, id ∈ base.map (·.documentId) ∨ id ∈ target.map (·.documentId) →
    Settles base target terminals id

theorem not_remains (unprojected : id ∉ target.map (·.documentId)) : ¬ Remains base target id := by
  rintro ⟨pair, -, member, rfl⟩
  exact unprojected (List.mem_map_of_mem member)

namespace Plans

theorem searchable_of_projected (fits : TerminalFits target document)
    (projected : document.id ∈ target.map (·.documentId)) : document.status = .searchable := by
  unfold TerminalFits at fits
  cases status : document.status <;> simp_all

theorem stable_of_unprojected (fits : TerminalFits target document)
    (projected : document.id ∉ target.map (·.documentId)) :
    isStableNonsearchTerminal document.status = true := by
  unfold TerminalFits at fits
  cases status : document.status <;> simp_all [isStableNonsearchTerminal]

variable (plans : Plans base target documents terminals commit)
include plans

/-- A terminal document that the target projects becomes searchable. -/
theorem searchable_iff
    (fits : ∀ document ∈ terminals, TerminalFits target document) (member : pair ∈ target) :
    terminalStatusOf commit.terminalDocuments pair.documentId = some .searchable ↔
      ∃ document ∈ terminals, document.id = pair.documentId :=
  plans.terminal_iff (p := (· = some .searchable)) nofun fun document there same =>
    congrArg some
      (searchable_of_projected (fits document there) (same ▸ List.mem_map_of_mem member))

theorem not_remains_of_new (member : pair ∈ target) (new : pair ∉ base) :
    ¬ Remains base target pair.documentId := by
  rintro ⟨other, old, listed, same⟩
  exact new (List.inj_on_of_nodup_map plans.documents_distinct listed member same ▸ old)

/-- What the store asks of a document that search shows now. -/
theorem transition_iff (distinct : (base.map (·.documentId)).Nodup)
    (fits : ∀ document ∈ terminals, TerminalFits target document) (shown : pair ∈ base) :
    validTransition pair.resumeVersionId (versionOf commit.projections pair.documentId)
        (actionOf commit.projectedDocuments pair.documentId)
        (terminalStatusOf commit.terminalDocuments pair.documentId) = true ↔
      Settles base target terminals pair.documentId := by
  rw [plans.projections]
  obtain ⟨unprojected, version⟩ | ⟨next, member, action, same, version, found, acts⟩ :=
    plans.projected_or pair.documentId
  · rw [version, Settles, iff_true_right (not_remains unprojected)]
    exact plans.terminal_iff (p := fun status => status.any isStableNonsearchTerminal = true)
      nofun fun document there same =>
        stable_of_unprojected (fits document there) (same ▸ unprojected)
  · rw [version, found]
    cases acts with
    | retained old | changed old =>
      cases List.inj_on_of_nodup_map distinct old shown same
      rw [Settles, iff_false_right (not_not.mpr ⟨pair, old, member, rfl⟩),
        ← plans.terminal_iff (p := (· ≠ none)) (absurd rfl) fun _ _ _ => Option.some_ne_none _]
      simp [validTransition]
    | replaced new =>
      have differs : (next.resumeVersionId != pair.resumeVersionId) = true := by
        rw [bne_iff_ne]
        intro equal
        obtain ⟨_, _⟩ := next
        cases same
        cases equal
        exact new shown
      rw [← same, Settles, iff_true_right (plans.not_remains_of_new member new)]
      simp only [validTransition, differs, Bool.true_and, beq_iff_eq,
        plans.searchable_iff fits member]

/-- What is asked of a document that search does not show yet. -/
theorem arrival_iff
    (fits : ∀ document ∈ terminals, TerminalFits target document) (member : pair ∈ target)
    (new : pair ∉ base) :
    validArrival (actionOf commit.projectedDocuments pair.documentId)
        (terminalStatusOf commit.terminalDocuments pair.documentId) = true ↔
      Settles base target terminals pair.documentId := by
  obtain ⟨unprojected, -⟩ | ⟨next, listed, action, same, -, found, acts⟩ :=
    plans.projected_or pair.documentId
  · exact absurd (List.mem_map_of_mem member) unprojected
  cases List.inj_on_of_nodup_map plans.documents_distinct listed member same
  have replaces : action.isReplacement = true := by
    cases acts with
    | retained old | changed old => exact absurd old new
    | replaced => rfl
  rw [found, Settles, iff_true_right (plans.not_remains_of_new member new)]
  simp only [validArrival, Option.any_some, replaces, Bool.and_true, beq_iff_eq,
    plans.searchable_iff fits member]

theorem transitions_iff (distinct : (base.map (·.documentId)).Nodup)
    (fits : ∀ document ∈ terminals, TerminalFits target document)
    {rows : List ActiveProjectionRow} {generation : Option String}
    (shown : rows.map (·.projection) = base)
    (carried : ∀ row ∈ rows, some row.generation = generation) :
    validateProjectionTransitions rows commit generation = .ok () ↔
      Accounts base target terminals := by
  have inBase : ∀ row ∈ rows, row.projection ∈ base := fun row member =>
    shown ▸ List.mem_map_of_mem member
  have ids : rows.map (·.document.id) = base.map (·.documentId) := by
    rw [← shown, List.map_map]
    rfl
  unfold validateProjectionTransitions
  rw [if_neg (not_not.mpr carried)]
  constructor
  · intro accepted
    split at accepted
    · cases accepted
    case isFalse moves =>
    split at accepted
    · cases accepted
    case isFalse arrives =>
    have settled : ∀ id ∈ rows.map (·.document.id), Settles base target terminals id := by
      intro id member
      obtain ⟨row, there, rfl⟩ := List.mem_map.mp member
      exact (plans.transition_iff distinct fits (inBase row there)).mp (not_not.mp moves row there)
    rintro id (old | projected)
    · exact settled id (ids ▸ old)
    · obtain ⟨pair, member, rfl⟩ := List.mem_map.mp projected
      by_cases old : pair ∈ base
      · exact settled _ (ids ▸ List.mem_map_of_mem old)
      · obtain known | arrival := not_not.mp arrives pair (plans.projections.symm ▸ member)
        · exact settled _ known
        · exact (plans.arrival_iff fits member old).mp arrival
  · intro accounts
    refine (if_neg (not_not.mpr fun row there => ?_)).trans
      (if_neg (not_not.mpr fun projection listed => ?_))
    · exact (plans.transition_iff distinct fits (inBase row there)).mpr
        (accounts _ (.inl (List.mem_map_of_mem (inBase row there))))
    · have member : projection ∈ target := plans.projections ▸ listed
      by_cases old : projection ∈ base
      · exact .inl (ids ▸ List.mem_map_of_mem old)
      · exact .inr ((plans.arrival_iff fits member old).mpr
          (accounts _ (.inr (List.mem_map_of_mem member))))

/-- The store accepts a plan exactly when its terminal documents fit the target
and account for the change. -/
theorem accepted_iff (distinct : (base.map (·.documentId)).Nodup)
    {rows : List ActiveProjectionRow} {generation : Option String}
    (shown : rows.map (·.projection) = base)
    (carried : ∀ row ∈ rows, some row.generation = generation) :
    (validateCommitShape commit = .ok () ∧
        validateProjectionTransitions rows commit generation = .ok ()) ↔
      (∀ document ∈ terminals, TerminalFits target document) ∧
        Accounts base target terminals := by
  rw [plans.shape_iff]
  constructor
  · rintro ⟨fits, moves⟩
    exact ⟨fits, (plans.transitions_iff distinct fits shown carried).mp moves⟩
  · rintro ⟨fits, accounts⟩
    exact ⟨fits, (plans.transitions_iff distinct fits shown carried).mpr accounts⟩

end Plans

end Accepted

/-! ## What the pipeline builds -/

section Built

variable {sha256 : List UInt8 → ContentDigest} {base target : List ActiveSearchProjection}
  {staged : StagedSearchVersionTexts} {documents : List Document}
  {prepared : PreparedSearchPublication} {commit : SearchPublicationCommit}
  {pair : ActiveSearchProjection} {now : Int}

/-- A pair of the base is kept or has new metadata; any other pair replaces. -/
theorem planFor_ok (distinct : (base.map (·.documentId)).Nodup) {plan : ProjectedDocumentPlan}
    (done : planFor base staged pair = .ok plan) :
    (pair ∈ base ∧ (plan = .retainedUnchanged pair ∨ plan = .metadataChanged pair)) ∨
      (pair ∉ base ∧ plan = .replacement pair) := by
  have known : activeVersion base pair.documentId = some pair.resumeVersionId ↔ pair ∈ base :=
    activeVersion_eq_some_iff distinct
  unfold planFor at done
  cases version : activeVersion base pair.documentId with
  | none =>
    rw [version] at known done
    have new : pair ∉ base := fun member => by cases known.mpr member
    cases isStaged : isStaged staged pair with
    | false => simp [isStaged] at done
    | true =>
      simp only [isStaged, Except.ok.injEq] at done
      exact .inr ⟨new, done.symm⟩
  | some current =>
    rw [version] at known done
    by_cases same : current = pair.resumeVersionId
    · have old : pair ∈ base := known.mp (congrArg some same)
      cases isStaged : isStaged staged pair with
      | false | true =>
        simp only [isStaged, if_pos same, Except.ok.injEq] at done
        simp [old, done.symm]
    · have new : pair ∉ base := fun member => same (Option.some.inj (known.mpr member))
      cases isStaged : isStaged staged pair with
      | false => simp [isStaged, same] at done
      | true =>
        simp only [isStaged, if_neg same, Except.ok.injEq] at done
        exact .inr ⟨new, done.symm⟩

theorem acts_of_plan (distinct : (base.map (·.documentId)).Nodup) {plan : ProjectedDocumentPlan}
    {action : ProjectedDocumentSnapshot} (planned : planFor base staged pair = .ok plan)
    (bound : bindProjectedDocumentSnapshot documents plan = .ok action) :
    Acts base documents pair action := by
  obtain ⟨old, rfl | rfl⟩ | ⟨new, rfl⟩ := planFor_ok distinct planned
  · simp only [bindProjectedDocumentSnapshot, check_bind_eq_ok] at bound
    obtain ⟨missing, ⟨⟩⟩ := bound
    exact .retained old (documentFor_eq_none missing)
  · simp only [bindProjectedDocumentSnapshot, bind_ok_iff, present_eq_ok] at bound
    obtain ⟨document, found, ⟨⟩⟩ := bound
    obtain ⟨given, same⟩ := documentFor_eq_some found
    exact .changed old given same
  · simp only [bindProjectedDocumentSnapshot, bind_ok_iff, present_eq_ok] at bound
    obtain ⟨document, found, ⟨⟩⟩ := bound
    obtain ⟨given, same⟩ := documentFor_eq_some found
    exact .replaced new given same

theorem acts_of_plans (distinct : (base.map (·.documentId)).Nodup)
    {plans : List ProjectedDocumentPlan} {actions : List ProjectedDocumentSnapshot}
    (planned : List.Forall₂ (fun pair plan => planFor base staged pair = .ok plan) target plans)
    (bound : List.Forall₂ (fun plan action =>
      bindProjectedDocumentSnapshot documents plan = .ok action) plans actions) :
    List.Forall₂ (Acts base documents) target actions := by
  induction planned generalizing actions with
  | nil =>
    cases bound
    exact .nil
  | cons here _ ih =>
    cases bound with
    | cons binds rest => exact .cons (acts_of_plan distinct here binds) (ih rest)

/-- What a prepared publication has to offer its commit. -/
structure Prepared (base : List ActiveSearchProjection) (staged : StagedSearchVersionTexts)
    (prepared : PreparedSearchPublication) : Prop where
  named : validGeneration prepared.fulltext.generation = true
  documents_distinct : (prepared.projections.map (·.documentId)).Nodup
  versions_distinct : (prepared.projections.map (·.resumeVersionId)).Nodup
  plans : List.Forall₂ (fun pair plan => planFor base staged pair = .ok plan)
    prepared.projections prepared.projectedDocuments
  covered : prepared.vectorCoverage = [] ∨ prepared.vectorCoverage = prepared.projections

theorem validateDraft_named {draft : SearchPublicationDraft} {u : Unit}
    (done : validateDraft draft = .ok u) : validGeneration draft.generation = true := by
  unfold validateDraft at done
  split at done
  · cases done
  case isFalse named =>
    by_contra unnamed
    simp [unnamed] at named

theorem validateVectorPublication_ok {vector : VectorSnapshotSummary} {generation : String}
    {digest : SearchProjectionDigest} {coverage : List ActiveSearchProjection}
    (done : validateVectorPublication sha256 vector generation target digest = .ok coverage) :
    coverage = [] ∨ coverage = target := by
  unfold validateVectorPublication at done
  rw [check_bind_eq_ok] at done
  obtain ⟨-, rest⟩ := done
  cases contract : vector.modelContract with
  | disabled =>
    simp only [contract, check_bind_eq_ok] at rest
    obtain ⟨-, ⟨⟩⟩ := rest
    exact .inl rfl
  | enabled modelId dimension =>
    simp only [contract, check_bind_eq_ok] at rest
    obtain ⟨-, ⟨⟩⟩ := rest
    exact .inr rfl

theorem prepareSearchPublication_ok {base : SearchPublicationBase} {baseEpoch : String}
    {visibleEpoch : Nat} {classifierEpoch generation : String}
    {fulltext : FullTextSnapshotDescriptor} {vector : VectorSnapshotSummary}
    (done : prepareSearchPublication sha256 base baseEpoch visibleEpoch classifierEpoch generation
      now target staged fulltext vector = .ok prepared) :
    prepared.projections = target ∧ Prepared base.projections staged prepared := by
  simp only [prepareSearchPublication, bind_ok_iff, exists_const, check_eq_ok,
    storeResult_eq_ok, projectedDocumentPlan, mapM_eq_ok] at done
  obtain ⟨_, -, plans, planned, digest, digested, _, drafted, ⟨rfl, -⟩, coverage, covered, ⟨⟩⟩ :=
    done
  obtain ⟨documents, versions, -⟩ := fromPairs_eq_ok_iff.mp (projectionDigest_ok digested)
  exact ⟨rfl, validateDraft_named drafted, documents, versions, planned,
    validateVectorPublication_ok covered⟩

/-! ### Documents handed over -/

/-- The document keeps its place in search. -/
def Stays (base target : List ActiveSearchProjection) (document : Document) : Prop :=
  ∃ pair ∈ base, pair ∈ target ∧ pair.documentId = document.id

theorem terminalDocumentUpdates_ok {store : Table Document.id}
    {updates : List TerminalDocumentUpdate}
    (done : terminalDocumentUpdates store documents = .ok updates) :
    List.Forall₂ Finishes documents updates := by
  simp only [terminalDocumentUpdates, check_bind_eq_ok, mapM_eq_ok] at done
  refine done.2.imp fun document update here => ?_
  simp only [terminalDocumentUpdate, bind_ok_iff] at here
  obtain ⟨current, -, hash, -, ⟨⟩⟩ := here
  exact ⟨rfl, rfl, rfl⟩

/-- A document that is handed over is only a change of metadata exactly if it
stays. -/
theorem mem_metadataChangedIds_iff {actions : List ProjectedDocumentSnapshot}
    (acts : List.Forall₂ (Acts base documents) target actions) (given : document ∈ documents) :
    document.id ∈ actions.filterMap metadataChangedId ↔ Stays base target document := by
  rw [List.mem_filterMap]
  constructor
  · rintro ⟨action, there, named⟩
    obtain ⟨pair, member, known⟩ := exists_related_left acts there
    cases known with
    | retained | replaced => cases named
    | changed old _ _ => exact ⟨pair, old, member, Option.some.inj named⟩
  · rintro ⟨pair, old, member, same⟩
    obtain ⟨action, there, known⟩ := exists_related_right acts member
    cases known with
    | retained _ absent => exact absurd same.symm (absent document given)
    | changed => exact ⟨_, there, congrArg some same⟩
    | replaced new => exact absurd old new

theorem searchPublicationCommit_plans (distinct : (base.map (·.documentId)).Nodup)
    (ready : Prepared base staged prepared) {store : Table Document.id}
    (done : searchPublicationCommit store prepared documents now = .ok commit) :
    ∃ terminals, Plans base prepared.projections documents terminals commit ∧
      ∀ document, document ∈ terminals ↔
        document ∈ documents ∧ ¬ Stays base prepared.projections document := by
  simp only [searchPublicationCommit, publicationDocumentMap, bind_ok_iff, exists_const,
    check_eq_ok, mapM_eq_ok] at done
  obtain ⟨-, unique, actions, bound, updates, updated, ⟨⟩⟩ := done
  have acts := acts_of_plans distinct ready.plans bound
  refine ⟨documents.filter fun document => document.id ∉ actions.filterMap metadataChangedId,
    ⟨ready.named, rfl, ready.documents_distinct, ready.versions_distinct, acts, ready.covered,
      terminalDocumentUpdates_ok updated, (List.filter_sublist.map _).nodup unique⟩, ?_⟩
  intro document
  rw [List.mem_filter, decide_eq_true_iff]
  exact and_congr_right fun given => not_congr (mem_metadataChangedIds_iff acts given)

/-- The documents handed over fit the target, and every document that leaves
search is among them. -/
structure PlanFits (base target : List ActiveSearchProjection) (documents : List Document) :
    Prop where
  fits : ∀ document ∈ documents, ¬ Stays base target document → TerminalFits target document
  dropped : ∀ pair ∈ base, pair.documentId ∉ target.map (·.documentId) →
    ∃ document ∈ documents, document.id = pair.documentId

theorem planFits_iff {terminals : List Document}
    (plans : Plans base target documents terminals commit)
    (listed : ∀ document, document ∈ terminals ↔
      document ∈ documents ∧ ¬ Stays base target document) :
    (∀ document ∈ terminals, TerminalFits target document) ∧ Accounts base target terminals ↔
      PlanFits base target documents := by
  constructor
  · rintro ⟨fits, accounts⟩
    refine ⟨fun document given moves => fits document ((listed document).mpr ⟨given, moves⟩), ?_⟩
    intro pair member gone
    obtain ⟨document, there, same⟩ :=
      (accounts _ (.inl (List.mem_map_of_mem member))).mpr (not_remains gone)
    exact ⟨document, ((listed document).mp there).1, same⟩
  · intro plan
    refine ⟨fun document there => ?_, fun id shown => ⟨?_, fun moves => ?_⟩⟩
    · obtain ⟨given, moves⟩ := (listed document).mp there
      exact plan.fits document given moves
    · rintro ⟨document, there, rfl⟩
      exact ((listed document).mp there).2
    · have given : ∃ document ∈ documents, document.id = id := by
        by_cases projected : id ∈ target.map (·.documentId)
        · obtain ⟨pair, member, rfl⟩ := List.mem_map.mp projected
          obtain ⟨action, -, acts⟩ := exists_related_right plans.actions member
          cases acts with
          | retained old | changed old => exact absurd ⟨pair, old, member, rfl⟩ moves
          | replaced _ given same => exact ⟨_, given, same⟩
        · obtain ⟨pair, member, rfl⟩ := List.mem_map.mp (shown.resolve_right projected)
          exact plan.dropped pair member projected
      obtain ⟨document, given, rfl⟩ := given
      exact ⟨document, (listed document).mpr ⟨given, moves⟩, rfl⟩

/-! ### The delta -/

theorem mem_projectionsAfterDelta {replacements : List IndexDocument} {removals : List String}
    (done : projectionsAfterDelta base replacements removals = .ok target) :
    pair ∈ target ↔
      (pair ∈ base ∧ pair.documentId.asStr ∉ removals ∧
        pair.documentId ∉ replacements.map (·.docId)) ∨
      ∃ replacement ∈ replacements, ⟨replacement.docId, replacement.resumeVersionId⟩ = pair := by
  simp only [projectionsAfterDelta, check_bind_eq_ok] at done
  obtain ⟨-, ⟨⟩⟩ := done
  simp [List.mem_insertionSort]

theorem prepareIncrementalPublication_ok {db : Db} {inputs : PublicationInputs}
    {replacements : List IndexDocument} {removed : List String}
    (done : prepareIncrementalPublication sha256 db inputs replacements removed = .ok prepared) :
    projectionsAfterDelta (db.active.map (·.projection)) replacements removed =
        .ok prepared.projections ∧
      ∃ staged, Prepared (db.active.map (·.projection)) staged prepared := by
  simp only [prepareIncrementalPublication, bind_ok_iff] at done
  obtain ⟨staged, -, projections, delta, rest⟩ := done
  obtain ⟨rfl, ready⟩ := prepareSearchPublication_ok rest
  exact ⟨delta, staged, ready⟩

end Built

/-! ## The two sides compared -/

section Compared

variable {sha256 : List UInt8 → ContentDigest} {db : Db} {commit : SearchPublicationCommit}
  {inputs : PublicationInputs}

/-- The two checks of the store that depend on the plan, for a publication
whose base is the current head. -/
def Accepted (db : Db) (commit : SearchPublicationCommit) : Prop :=
  validateCommitShape commit = .ok () ∧
    validateProjectionTransitions db.active commit db.head.generation = .ok ()

theorem accepted_iff_of_plans (consistent : MetaStore.Consistent sha256 db)
    {target : List ActiveSearchProjection} {documents terminals : List Document}
    (plans : Plans (db.active.map (·.projection)) target documents terminals commit) :
    Accepted db commit ↔ (∀ document ∈ terminals, TerminalFits target document) ∧
      Accounts (db.active.map (·.projection)) target terminals :=
  plans.accepted_iff consistent.active_distinct.1 rfl
    fun row member => (consistent.carried row member).symm

theorem accepted_iff_planFits (consistent : MetaStore.Consistent sha256 db)
    {staged : StagedSearchVersionTexts} {prepared : PreparedSearchPublication}
    {documents : List Document} {now : Int}
    (ready : Prepared (db.active.map (·.projection)) staged prepared)
    (done : searchPublicationCommit db.documents prepared documents now = .ok commit) :
    Accepted db commit ↔
      PlanFits (db.active.map (·.projection)) prepared.projections documents := by
  obtain ⟨terminals, plans, listed⟩ :=
    searchPublicationCommit_plans consistent.active_distinct.1 ready done
  rw [accepted_iff_of_plans consistent plans, planFits_iff plans listed]

/-- The status of a document that search does not show. -/
def Unsearchable (document : Document) : Prop :=
  match document.status with
  | .deleted => document.isDeleted = true
  | .excluded | .failedPermanent => document.isDeleted = false
  | _ => False

theorem terminalFits_iff_unsearchable {target : List ActiveSearchProjection}
    (unprojected : document.id ∉ target.map (·.documentId)) :
    TerminalFits target document ↔ Unsearchable document := by
  unfold TerminalFits Unsearchable
  cases document.status <;> simp [unprojected]

theorem removedDocument_id (now : Int) (reason : SearchProjectionRemovalReason)
    (document : Document) : (removedDocument now reason document).id = document.id := by
  cases reason <;> rfl

/-- A removal hands over a document that search cannot show, unless it is for a
permanent exclusion and the stored document still has another status. -/
theorem unsearchable_removedDocument_iff {now : Int} {reason : SearchProjectionRemovalReason} :
    Unsearchable (removedDocument now reason document) ↔
      (reason = .permanentClassificationExclusion → Unsearchable document) := by
  cases reason <;> simp [removedDocument, Unsearchable]

theorem mem_removedDocuments {removals : List SearchProjectionRemoval} {now : Int}
    {store : Table Document.id} :
    document ∈ removedDocuments store removals now ↔
      ∃ removal ∈ removals, ∃ stored, store.find? removal.documentId = some stored ∧
        removedDocument now removal.reason stored = document := by
  simp [removedDocuments]

/-- What the removals must find in the store. -/
structure RemovalsFit (db : Db) (removals : List SearchProjectionRemoval) : Prop where
  excluded : ∀ removal ∈ removals, removal.reason = .permanentClassificationExclusion →
    ∀ document, db.documents.find? removal.documentId = some document → Unsearchable document
  stored : ∀ removal ∈ removals, removal.documentId ∈ db.active.map (·.document.id) →
    ∃ document, db.documents.find? removal.documentId = some document

theorem mem_active_ids :
    id ∈ (db.active.map (·.projection)).map (·.documentId) ↔
      id ∈ db.active.map (·.document.id) := by
  rw [List.map_map]
  rfl

theorem removals_accepted_iff (consistent : MetaStore.Consistent sha256 db)
    {removals : List SearchProjectionRemoval}
    (done : searchProjectionRemovalsCommit sha256 db inputs removals = .ok commit) :
    Accepted db commit ↔ RemovalsFit db removals := by
  rw [searchProjectionRemovalsCommit, bind_ok_iff] at done
  obtain ⟨prepared, prepares, decides⟩ := done
  obtain ⟨delta, staged, ready⟩ := prepareIncrementalPublication_ok prepares
  have kept : ∀ pair, pair ∈ prepared.projections ↔ pair ∈ db.active.map (·.projection) ∧
      pair.documentId ∉ removals.map (·.documentId) := by
    intro pair
    rw [mem_projectionsAfterDelta delta]
    simp [StableId.asStr_inj]
  have removedOnly : ∀ removal ∈ removals,
      removal.documentId ∉ prepared.projections.map (·.documentId) := by
    intro removal listed projected
    obtain ⟨pair, member, same⟩ := List.mem_map.mp projected
    exact ((kept pair).mp member).2 (same ▸ List.mem_map_of_mem listed)
  have stored : ∀ {id : DocumentId} {document : Document},
      db.documents.find? id = some document → document.id = id := fun found =>
    (Table.find?_eq_some_iff.mp found).2
  rw [accepted_iff_planFits consistent ready decides]
  constructor
  · intro plan
    refine ⟨fun removal listed reason document found => ?_, fun removal listed projected => ?_⟩
    · have unprojected := removedOnly removal listed
      rw [← stored found, ← removedDocument_id inputs.now removal.reason] at unprojected
      have moves : ¬ Stays (db.active.map (·.projection)) prepared.projections
          (removedDocument inputs.now removal.reason document) := by
        rintro ⟨pair, -, member, same⟩
        exact unprojected (same ▸ List.mem_map_of_mem member)
      have fits := plan.fits _
        (mem_removedDocuments.mpr ⟨removal, listed, document, found, rfl⟩) moves
      exact unsearchable_removedDocument_iff.mp
        ((terminalFits_iff_unsearchable unprojected).mp fits) reason
    · rw [← mem_active_ids] at projected
      obtain ⟨pair, member, same⟩ := List.mem_map.mp projected
      obtain ⟨document, given, named⟩ :=
        plan.dropped pair member (same ▸ removedOnly removal listed)
      obtain ⟨other, -, document', found, rfl⟩ := mem_removedDocuments.mp given
      rw [removedDocument_id, stored found, same] at named
      exact ⟨document', named ▸ found⟩
  · intro fit
    refine ⟨fun document given _ => ?_, fun pair member gone => ?_⟩
    · obtain ⟨removal, listed, document, found, rfl⟩ := mem_removedDocuments.mp given
      have unprojected := removedOnly removal listed
      rw [← stored found, ← removedDocument_id inputs.now removal.reason] at unprojected
      exact (terminalFits_iff_unsearchable unprojected).mpr
        (unsearchable_removedDocument_iff.mpr fun reason =>
          fit.excluded removal listed reason document found)
    · have removed : pair.documentId ∈ removals.map (·.documentId) := by
        by_contra unlisted
        exact gone (List.mem_map_of_mem ((kept pair).mpr ⟨member, unlisted⟩))
      obtain ⟨removal, listed, same⟩ := List.mem_map.mp removed
      obtain ⟨document, found⟩ := fit.stored removal listed
        (mem_active_ids.mp (same ▸ List.mem_map_of_mem member))
      refine ⟨_, mem_removedDocuments.mpr ⟨removal, listed, document, found, rfl⟩, ?_⟩
      rw [removedDocument_id, stored found, same]

/-- The document as the result of OCR leaves it. -/
def settledDocument (document : Document) (admitted : Bool) : Document :=
  { document with status := if admitted then .searchable else .excluded, isDeleted := false }

theorem ocrSearchPublicationCommit_plans (distinct : (db.active.map (·.document.id)).Nodup)
    {staged : StagedSearchVersionTexts} {prepared : PreparedSearchPublication}
    (ready : Prepared (db.active.map (·.projection)) staged prepared)
    {sourceRevision : SourceRevision} {admitted : Bool} {now : Int}
    (done : ocrSearchPublicationCommit prepared document sourceRevision admitted now =
      .ok commit) :
    ∃ documents, Plans (db.active.map (·.projection)) prepared.projections documents
      [settledDocument document admitted] commit := by
  simp only [ocrSearchPublicationCommit, publicationDocumentMap, bind_ok_iff, exists_const,
    check_eq_ok, mapM_eq_ok] at done
  obtain ⟨-, -, actions, bound, ⟨⟩⟩ := done
  have distinct : ((db.active.map (·.projection)).map (·.documentId)).Nodup := by
    rw [List.map_map]
    exact distinct
  exact ⟨_, ready.named, rfl, ready.documents_distinct, ready.versions_distinct,
    acts_of_plans distinct ready.plans bound, ready.covered, .cons ⟨rfl, rfl, rfl⟩ .nil,
    List.nodup_singleton _⟩

/-- The result of OCR is refused exactly if search shows the version already. -/
theorem ocr_accepted_iff (consistent : MetaStore.Consistent sha256 db)
    {sourceRevision : SourceRevision} {version : ResumeVersionId} {text : String}
    {admitted : Bool}
    (done : ocrTextCommit sha256 db inputs document sourceRevision version text admitted =
      .ok commit) :
    Accepted db commit ↔
      (admitted = true → ⟨document.id, version⟩ ∉ db.active.map (·.projection)) := by
  rw [ocrTextCommit, bind_ok_iff] at done
  obtain ⟨prepared, prepares, decides⟩ := done
  obtain ⟨delta, staged, ready⟩ := prepareIncrementalPublication_ok prepares
  have distinct := consistent.active_distinct.1
  rw [List.map_map] at distinct
  obtain ⟨documents, plans⟩ := ocrSearchPublicationCommit_plans distinct ready decides
  have listed : ∀ pair, pair ∈ prepared.projections ↔
      (pair ∈ db.active.map (·.projection) ∧ pair.documentId ≠ document.id) ∨
        (admitted = true ∧ pair = ⟨document.id, version⟩) := by
    intro pair
    rw [mem_projectionsAfterDelta delta]
    cases admitted <;> simp [StableId.asStr_inj, eq_comm]
  have fits : TerminalFits prepared.projections (settledDocument document admitted) := by
    cases admitted with
    | true =>
      have projected := (listed ⟨document.id, version⟩).mpr (.inr ⟨rfl, rfl⟩)
      exact ⟨List.mem_map_of_mem projected, rfl⟩
    | false =>
      refine ⟨fun projected => ?_, rfl⟩
      obtain ⟨pair, member, same⟩ := List.mem_map.mp projected
      obtain ⟨-, differs⟩ | ⟨⟨⟩, -⟩ := (listed pair).mp member
      exact differs same
  rw [accepted_iff_of_plans consistent plans]
  constructor
  · rintro ⟨-, accounts⟩ admits shown
    have remains : Remains (db.active.map (·.projection)) prepared.projections document.id :=
      ⟨_, shown, (listed _).mpr (.inr ⟨admits, rfl⟩), rfl⟩
    have settled := accounts document.id (.inl (List.mem_map_of_mem shown))
    exact settled.mp ⟨_, List.mem_singleton.mpr rfl, rfl⟩ remains
  · intro new
    refine ⟨fun other member => List.mem_singleton.mp member ▸ fits, fun id shown => ⟨?_, ?_⟩⟩
    · rintro ⟨other, there, rfl⟩ ⟨pair, old, member, same⟩
      rw [List.mem_singleton.mp there] at same
      obtain ⟨-, differs⟩ | ⟨admits, rfl⟩ := (listed pair).mp member
      · exact differs same
      · exact new admits old
    · intro moves
      refine ⟨_, List.mem_singleton.mpr rfl, ?_⟩
      by_contra differs
      have unchanged : ∀ pair ∈ db.active.map (·.projection), pair.documentId ≠ id := by
        rintro pair old rfl
        exact moves ⟨pair, old, (listed pair).mpr (.inl ⟨old, Ne.symm differs⟩), rfl⟩
      obtain old | projected := shown
      · obtain ⟨pair, member, same⟩ := List.mem_map.mp old
        exact unchanged pair member same
      · obtain ⟨pair, member, same⟩ := List.mem_map.mp projected
        obtain ⟨old, -⟩ | ⟨-, rfl⟩ := (listed pair).mp member
        · exact unchanged pair old same
        · exact differs same

end Compared

/-! ## A store with three searchable documents -/

def plannedHash : String :=
  "sha256:0000000000000000000000000000000000000000000000000000000000000000"

/-- The pair of a document with a version, each given by a digit. -/
def plannedPair (document version : Fin 4) : ActiveSearchProjection where
  documentId := ⟨s!"doc_0000000000000000000000000000000{document.val}", by
    revert document; decide⟩
  resumeVersionId := ⟨s!"ver_0000000000000000000000000000000{version.val}", by
    revert version; decide⟩

def plannedRevision (number : Fin 4) : SourceRevision where
  id := ⟨s!"rev_0000000000000000000000000000000{number.val}", by revert number; decide⟩
  documentId := (plannedPair number number).documentId
  contentHash := ⟨plannedHash⟩
  byteSize := 7

def plannedDocument (number : Fin 4) (status : DocumentStatus) (updatedAt : Int) : Document :=
  { sampleDocument status updatedAt with
    id := (plannedPair number number).documentId
    contentHash := some plannedHash }

/-- A ready store that shows nothing and knows three documents. -/
def plannedStore : Db :=
  { sampleStore with
    documents := ⟨[1, 2, 3].map (plannedDocument · .fieldsExtracted 1), by decide⟩
    facts := { sampleFacts with
      sourceRevisions := ⟨[1, 2, 3].map plannedRevision, by decide⟩
      resumeVersions := ⟨[1, 2, 3].map fun number => ⟨(plannedPair number number).resumeVersionId,
        (plannedPair number number).documentId, (plannedRevision number).id⟩, by decide⟩
      classifications := ⟨[1, 2, 3].map fun number =>
        ⟨(plannedPair number number).resumeVersionId, classifierEpochDeterministic,
          .resumeCandidate⟩, by decide⟩ } }

def plannedPairs : List ActiveSearchProjection :=
  [plannedPair 1 1, plannedPair 2 2, plannedPair 3 3]

def plannedPublication : List Operation :=
  [.begin none (sampleDraft "first" "base" 1 plannedPairs 10),
    .validate (sampleValidation "first" plannedPairs 11),
    .commit { sampleCommit "first" 12 with
      terminalDocuments := [1, 2, 3].map fun number => ⟨(plannedPair number number).documentId,
        .fieldsExtracted, false, ⟨plannedHash⟩, .searchable, false⟩
      projections := plannedPairs
      projectedDocuments := [1, 2, 3].map fun number =>
        .replacement (plannedPair number number) (plannedDocument number .searchable 12) } none]

def plannedPublished : Db := runOperations sampleHash plannedStore plannedPublication

theorem plannedPublished_reachable : (journalMachine sampleHash).Reachable plannedPublished := by
  have digest : fromPairs sampleHash [] = .ok (sampleDigest []) := rfl
  have start : (journalMachine sampleHash).start plannedStore :=
    .inr ⟨sampleBase, ⟨rfl, rfl, rfl, rfl, digest, rfl, rfl, rfl⟩⟩
  exact (run_runOperations sampleHash plannedPublication plannedStore).reachable (.start start)

/-- The inputs of a publication that shows some pairs. -/
def plannedInputs (target : List ActiveSearchProjection) : PublicationInputs where
  contract := .disabled
  baseEpoch := classifierEpochDeterministic
  classifierEpoch := classifierEpochDeterministic
  generation := "second"
  fulltext := ⟨"second", target.length, sampleDigest target, ⟨"fulltext"⟩⟩
  vector := ⟨"second", .disabled, target.length, 0, 0, sampleDigest target, sampleDigest [],
    ⟨"vector"⟩⟩
  now := 20

/-- The removal of the first document. -/
def plannedRemoval (reason : SearchProjectionRemovalReason) :
    Except ImportPipelineError SearchPublicationCommit :=
  searchProjectionRemovalsCommit sampleHash plannedPublished (plannedInputs plannedPairs.tail)
    [⟨(plannedPair 1 1).documentId, reason⟩]

/-- The store once the generation of the removal is written and validated. -/
def plannedValidated : Db :=
  runOperations sampleHash plannedPublished
    [.begin none (sampleDraft "second" "first" 2 plannedPairs.tail 20),
      .validate (sampleValidation "second" plannedPairs.tail 20)]

/-- The answer of the store to a commit of the removal. -/
def plannedAnswer (commit : SearchPublicationCommit) :
    Except MetaStoreError SearchPublicationOutcome :=
  match (commitSearchPublication sampleHash commit none).run plannedValidated with
  | .ok outcome _ => .ok outcome
  | .error error _ => .error error

/-- On an unchanged store, a plan that the pipeline has accepted passes the
checks of the store exactly if every document handed over that does not stay in
search has a status that fits the target, and every document that leaves search
is handed over. For removals this means that a permanent exclusion finds a
document that is no longer searchable; for the result of OCR, that search does
not show the same version already. -/
theorem commit_plan_accepted_iff (sha256 : List UInt8 → ContentDigest) {db : Db}
    (reachable : (journalMachine sha256).Reachable db) (inputs : PublicationInputs) :
    (∀ target staged prepared documents commit,
      prepareSearchPublication sha256 (publicationBase db inputs.contract) inputs.baseEpoch
          db.head.visibleEpoch inputs.classifierEpoch inputs.generation inputs.now target staged
          inputs.fulltext inputs.vector = .ok prepared →
        searchPublicationCommit db.documents prepared documents inputs.now = .ok commit →
          (Accepted db commit ↔ PlanFits (db.active.map (·.projection)) target documents)) ∧
      (∀ removals commit,
        searchProjectionRemovalsCommit sha256 db inputs removals = .ok commit →
          (Accepted db commit ↔ RemovalsFit db removals)) ∧
      ∀ document sourceRevision version text admitted commit,
        ocrTextCommit sha256 db inputs document sourceRevision version text admitted =
            .ok commit →
          (Accepted db commit ↔
            (admitted = true → ⟨document.id, version⟩ ∉ db.active.map (·.projection))) := by
  have consistent := (consistent_inductive sha256).holds reachable
  refine ⟨?_, fun removals commit => removals_accepted_iff consistent,
    fun document sourceRevision version text admitted commit => ocr_accepted_iff consistent⟩
  intro target staged prepared documents commit prepares decides
  obtain ⟨rfl, ready⟩ := prepareSearchPublication_ok prepares
  exact accepted_iff_planFits consistent ready decides

/-- A permanent exclusion of a searchable document is planned, and refused by
the store. -/
theorem exclusion_of_searchable_refused :
    (journalMachine sampleHash).Reachable plannedPublished ∧
      ∃ commit, plannedRemoval .permanentClassificationExclusion = .ok commit ∧
        validateCommitShape commit = .error (publicationError .invalidDocumentState) ∧
        plannedAnswer commit = .error (publicationError .invalidDocumentState) := by
  have refused : (plannedRemoval .permanentClassificationExclusion).toOption.any (fun commit =>
      decide (validateCommitShape commit = .error (publicationError .invalidDocumentState) ∧
        plannedAnswer commit = .error (publicationError .invalidDocumentState))) = true := by
    decide +kernel
  refine ⟨plannedPublished_reachable, ?_⟩
  cases planned : plannedRemoval .permanentClassificationExclusion with
  | error error =>
    rw [planned] at refused
    cases refused
  | ok commit =>
    rw [planned] at refused
    exact ⟨commit, rfl, of_decide_eq_true refused⟩

/-- The plan keeps the first document, replaces the version of the second and removes the
third. -/
def plannedMixed : Except ImportPipelineError PreparedSearchPublication :=
  let target := [plannedPair 1 1, plannedPair 2 0]
  let inputs := plannedInputs target
  prepareSearchPublication sampleHash (publicationBase plannedPublished inputs.contract)
    inputs.baseEpoch plannedPublished.head.visibleEpoch inputs.classifierEpoch inputs.generation
    inputs.now target
    ⟨[⟨(plannedPair 2 0).resumeVersionId, (plannedPair 2 0).documentId, "text"⟩], by decide⟩
    inputs.fulltext inputs.vector

/-- The documents that are handed over with the plan. -/
def plannedDocuments : List Document :=
  [plannedDocument 2 .searchable 20, { plannedDocument 3 .deleted 20 with isDeleted := true }]

theorem commit_plan_accepted_of_mixed :
    ∃ prepared commit, plannedMixed = .ok prepared ∧
      searchPublicationCommit plannedPublished.documents prepared plannedDocuments 20 =
        .ok commit ∧
      commit.projectedDocuments = [.retainedUnchanged (plannedPair 1 1),
        .replacement (plannedPair 2 0) (plannedDocument 2 .searchable 20)] ∧
      Accepted plannedPublished commit := by
  have evaluated : (plannedMixed.toOption.bind fun prepared => (searchPublicationCommit
      plannedPublished.documents prepared plannedDocuments 20).toOption).map
        (·.projectedDocuments) = some [.retainedUnchanged (plannedPair 1 1),
        .replacement (plannedPair 2 0) (plannedDocument 2 .searchable 20)] := by
    decide +kernel
  obtain ⟨commit, found, shown⟩ := Option.map_eq_some_iff.mp evaluated
  obtain ⟨prepared, prepares, decides⟩ := Option.bind_eq_some_iff.mp found
  rw [toOption_eq_some] at prepares decides
  have accepted := (commit_plan_accepted_iff sampleHash plannedPublished_reachable
    (plannedInputs [plannedPair 1 1, plannedPair 2 0])).1 _ _ prepared _ commit prepares decides
  refine ⟨prepared, commit, prepares, decides, shown, accepted.mpr ⟨?_, ?_⟩⟩
  · intro document given _
    obtain rfl | rfl : document = _ ∨ document = _ := by simpa [plannedDocuments] using given
    · exact ⟨by decide, rfl⟩
    · exact ⟨by decide, rfl⟩
  · decide +kernel

end ResumeIr.ImportPipeline
