import Mathlib.Data.List.Dedup
import ResumeIr.CoreDomain.Identity
import ResumeIr.Foundation.Fallible
import ResumeIr.IndexVector.Contract

/-!
# Vector documents

A vector document is the vector of one resume version of one document, under an
identity of its own. This module has the documents and the checks that a
generation makes on them, and the update by which a generation is derived from
an earlier one.

A projection that passes its check names every document once and every version
once, so it can be read as a map from documents to versions (`activeVersion`).
-/

namespace ResumeIr.IndexVector

open CoreDomain Foundation.Fallible

abbrev VectorRecordId := StableId "vec_"

/-! ## Documents -/

/-- A 32-bit floating-point number, as its bits. -/
abbrev F32 := UInt32

/-- Neither an infinity nor a NaN: not all bits of the exponent are set. -/
def F32.isFinite (value : F32) : Bool := (value >>> 23) &&& 0xff != 0xff

/-- The check of this crate on an id, which admits lower-case digits only. -/
def isLowerHexId {label : String} (id : StableId label) : Bool :=
  (id.asStr.toList.drop label.length).all fun c => ('0' ≤ c && c ≤ '9') || ('a' ≤ c && c ≤ 'f')

structure VectorDocumentIdentity where
  vectorId : VectorRecordId
  documentId : DocumentId
  resumeVersionId : ResumeVersionId
  modelId : String
  deriving DecidableEq

def VectorDocumentIdentity.new (vectorId : VectorRecordId) (documentId : DocumentId)
    (resumeVersionId : ResumeVersionId) (modelId : String) :
    Except VectorIndexError VectorDocumentIdentity := do
  check (isLowerHexId vectorId = true) .invalidIdentity
  check (isLowerHexId documentId = true) .invalidIdentity
  check (isLowerHexId resumeVersionId = true) .invalidIdentity
  validateModelId modelId
  return { vectorId, documentId, resumeVersionId, modelId }

structure VectorDocument where
  identity : VectorDocumentIdentity
  values : List F32
  deriving DecidableEq

namespace VectorDocument

abbrev vectorId (document : VectorDocument) : VectorRecordId := document.identity.vectorId

abbrev documentId (document : VectorDocument) : DocumentId := document.identity.documentId

abbrev resumeVersionId (document : VectorDocument) : ResumeVersionId :=
  document.identity.resumeVersionId

abbrev modelId (document : VectorDocument) : String := document.identity.modelId

/-- The document and the version that the vector belongs to. -/
def pair (document : VectorDocument) : ActiveSearchProjection :=
  ⟨document.documentId, document.resumeVersionId⟩

end VectorDocument

def validateDimension (expected : Nat) (values : List F32) : Except VectorIndexError Unit :=
  check (values.length = expected) (.invalidDimension expected values.length)

def validateValues (values : List F32) : Except VectorIndexError Unit := do
  check (values ≠ []) (.invalidDimension 1 0)
  check (values.all F32.isFinite = true) .invalidVectorValue

def VectorDocument.new (identity : VectorDocumentIdentity) (values : List F32) :
    Except VectorIndexError VectorDocument := do
  validateValues values
  return { identity, values }

/-! ## Projections -/

variable (sha256 : List UInt8 → ContentDigest) (projection : List ActiveSearchProjection)

/-- The version that a projection shows of a document. The source collects the
pairs in a map, so the last pair of a document counts. -/
def activeVersion (document : DocumentId) : Option ResumeVersionId :=
  (projection.reverse.find? fun entry => entry.documentId = document).map (·.resumeVersionId)

def projectionDigest : Except VectorIndexError SearchProjectionDigest :=
  match fromPairs sha256 projection with
  | .ok digest => .ok digest
  | .error _ => .error .publicationProjectionMismatch

/-- The map that the check returns is read by `activeVersion`. -/
def validateProjection : Except VectorIndexError Unit := do
  let _ ← projectionDigest sha256 projection

/-! ## The documents of a generation -/

/-- The check on one document after another. The ids and the versions seen so
far are carried along. -/
def checkDocuments (modelId : String) (dimension : Nat)
    (projection : List ActiveSearchProjection) :
    List VectorRecordId → List ActiveSearchProjection → List VectorDocument →
      Except VectorIndexError Unit
  | _, _, [] => .ok ()
  | vectorIds, documentVersions, document :: rest => do
      validateDimension dimension document.values
      validateValues document.values
      check (document.modelId = modelId) .invalidModelContract
      check (activeVersion projection document.documentId = some document.resumeVersionId)
        .publicationProjectionMismatch
      check (document.vectorId ∉ vectorIds) .duplicateVectorId
      check (∀ version ∈ activeVersion documentVersions document.documentId,
        version = document.resumeVersionId) .conflictingDocumentVersion
      checkDocuments modelId dimension projection (document.vectorId :: vectorIds)
        (documentVersions ++ [document.pair]) rest

def validateDocuments (contract : VectorModelContract) (projection : List ActiveSearchProjection)
    (documents : List VectorDocument) : Except VectorIndexError Unit := do
  contract.validate
  validateProjection sha256 projection
  match contract with
  | .disabled => check (documents = []) .invalidModelContract
  | .enabled modelId dimension => checkDocuments modelId dimension projection [] [] documents

/-! ## Updates -/

/-- What turns the documents of a base generation into those of the next. -/
structure VectorSnapshotUpdate where
  activeProjection : List ActiveSearchProjection
  replacementDocuments : List VectorDocument
  removedVectorIds : List VectorRecordId
  deriving DecidableEq

def VectorSnapshotUpdate.new (activeProjection : List ActiveSearchProjection)
    (replacementDocuments : List VectorDocument) (removedVectorIds : List VectorRecordId) : Except
    VectorIndexError VectorSnapshotUpdate := do
  validateProjection sha256 activeProjection
  check (∀ vectorId ∈ removedVectorIds, isLowerHexId vectorId = true) .invalidIdentity
  check (∀ document ∈ replacementDocuments,
    activeVersion activeProjection document.documentId = some document.resumeVersionId)
    .publicationProjectionMismatch
  return { activeProjection, replacementDocuments, removedVectorIds }

/-- Whether a document of the base stays: its version is still projected, and it
is neither removed nor replaced. -/
def VectorSnapshotUpdate.retains (update : VectorSnapshotUpdate) (document : VectorDocument) :
    Bool :=
  activeVersion update.activeProjection document.documentId = some document.resumeVersionId &&
    document.vectorId ∉ update.removedVectorIds &&
    document.vectorId ∉ update.replacementDocuments.map (·.vectorId)

def VectorSnapshotUpdate.apply (update : VectorSnapshotUpdate) (base : List VectorDocument) :
    List ActiveSearchProjection × List VectorDocument :=
  (update.activeProjection, base.filter update.retains ++ update.replacementDocuments)

/-! ## What the checks establish -/

section Checked

variable {sha256 : List UInt8 → ContentDigest} {projection : List ActiveSearchProjection}
  {document : DocumentId} {version : ResumeVersionId} {modelId : String} {dimension : Nat}
  {documents : List VectorDocument}

theorem mem_of_activeVersion (found : activeVersion projection document = some version) :
    ⟨document, version⟩ ∈ projection := by
  obtain ⟨entry, there, rfl⟩ := Option.map_eq_some_iff.mp found
  have named : entry.documentId = document := by simpa using List.find?_some there
  subst named
  exact List.mem_reverse.mp (List.mem_of_find?_eq_some there)

/-- In a projection that names every document once, the map has the pairs of the
projection and no others. -/
theorem activeVersion_eq_some_iff (distinct : (projection.map (·.documentId)).Nodup) :
    activeVersion projection document = some version ↔ ⟨document, version⟩ ∈ projection := by
  refine ⟨mem_of_activeVersion, fun member => ?_⟩
  cases found : activeVersion projection document with
  | none =>
    have missing := List.find?_eq_none.mp (Option.map_eq_none_iff.mp found)
      ⟨document, version⟩ (List.mem_reverse.mpr member)
    simp at missing
  | some other =>
    have same := List.inj_on_of_nodup_map distinct (mem_of_activeVersion found) member rfl
    cases same
    rfl

/-- Every document and every version occurs once. -/
structure Projects (projection : List ActiveSearchProjection) : Prop where
  documents : (projection.map (·.documentId)).Nodup
  versions : (projection.map (·.resumeVersionId)).Nodup

theorem projectionDigest_eq_ok {digest : SearchProjectionDigest} :
    projectionDigest sha256 projection = .ok digest ↔ fromPairs sha256 projection = .ok digest := by
  unfold projectionDigest
  cases fromPairs sha256 projection <;> simp

theorem validateProjection_eq_ok {u : Unit} :
    validateProjection sha256 projection = .ok u ↔ Projects projection := by
  unfold validateProjection
  rw [bind_ok_iff]
  constructor
  · rintro ⟨digest, known, -⟩
    obtain ⟨documents, versions, -⟩ := fromPairs_eq_ok_iff.mp (projectionDigest_eq_ok.mp known)
    exact ⟨documents, versions⟩
  · intro projects
    exact ⟨_, projectionDigest_eq_ok.mpr
      (fromPairs_eq_ok_iff.mpr ⟨projects.documents, projects.versions, rfl⟩), rfl⟩

/-- What one document must be like. -/
structure DocumentFits (modelId : String) (dimension : Nat)
    (projection : List ActiveSearchProjection) (document : VectorDocument) : Prop where
  dimension : document.values.length = dimension
  nonempty : document.values ≠ []
  finite : document.values.all F32.isFinite = true
  model : document.modelId = modelId
  active : activeVersion projection document.documentId = some document.resumeVersionId

theorem validateValues_eq_ok {values : List F32} {u : Unit} :
    validateValues values = .ok u ↔ values ≠ [] ∧ values.all F32.isFinite = true := by
  unfold validateValues
  rw [check_bind_eq_ok, check_eq_ok]

/-- The check passes exactly when every document fits and no vector id is
repeated. Two versions of one document never meet, since both would have to be
the active one. -/
theorem checkDocuments_eq_ok {u : Unit} {vectorIds : List VectorRecordId}
    {documentVersions : List ActiveSearchProjection}
    (seen : ∀ entry ∈ documentVersions,
      activeVersion projection entry.documentId = some entry.resumeVersionId) :
    checkDocuments modelId dimension projection vectorIds documentVersions documents = .ok u ↔
      (∀ document ∈ documents, DocumentFits modelId dimension projection document) ∧
        (∀ document ∈ documents, document.vectorId ∉ vectorIds) ∧
        (documents.map (·.vectorId)).Nodup := by
  induction documents generalizing vectorIds documentVersions with
  | nil => simp [checkDocuments]
  | cons document rest ih =>
    have step := fun active => List.forall_mem_append.mpr
      ⟨seen, (List.forall_mem_singleton (a := document.pair)).mpr active⟩
    have agrees : activeVersion projection document.documentId = some document.resumeVersionId →
        ∀ version ∈ activeVersion documentVersions document.documentId,
          version = document.resumeVersionId := by
      intro active version found
      have earlier := seen _ (mem_of_activeVersion found)
      exact Option.some.inj (earlier.symm.trans active)
    simp only [checkDocuments, bind_ok_iff, exists_const, validateDimension, check_eq_ok,
      validateValues_eq_ok, List.forall_mem_cons, List.map_cons, List.nodup_cons]
    constructor
    · rintro ⟨sized, ⟨nonempty, finite⟩, model, active, fresh, -, checked⟩
      obtain ⟨fit, others, distinct⟩ := (ih (step active)).mp checked
      refine ⟨⟨⟨sized, nonempty, finite, model, active⟩, fit⟩, ⟨fresh, ?_⟩, ?_, distinct⟩
      · exact fun other member old => others other member (List.mem_cons_of_mem _ old)
      · rintro repeated
        obtain ⟨other, member, same⟩ := List.mem_map.mp repeated
        exact others other member (List.mem_cons.mpr (.inl same))
    · rintro ⟨⟨fits, fit⟩, ⟨fresh, others⟩, unrepeated, distinct⟩
      refine ⟨fits.dimension, ⟨fits.nonempty, fits.finite⟩, fits.model, fits.active, fresh,
        agrees fits.active, (ih (step fits.active)).mpr ⟨fit, fun other member old => ?_, distinct⟩⟩
      obtain same | old := List.mem_cons.mp old
      · exact unrepeated (List.mem_map.mpr ⟨other, member, same⟩)
      · exact others other member old

/-- What the documents of an enabled generation must be like. -/
structure DocumentsFit (modelId : String) (dimension : Nat)
    (projection : List ActiveSearchProjection) (documents : List VectorDocument) : Prop where
  projects : Projects projection
  fits : ∀ document ∈ documents, DocumentFits modelId dimension projection document
  distinct : (documents.map (·.vectorId)).Nodup

theorem validateDocuments_eq_ok {u : Unit} :
    validateDocuments sha256 (.enabled modelId dimension) projection documents = .ok u ↔
      (VectorModelContract.enabled modelId dimension).validate = .ok () ∧
        DocumentsFit modelId dimension projection documents := by
  simp only [validateDocuments, bind_ok_iff, validateProjection_eq_ok]
  constructor
  · rintro ⟨_, contract, _, projects, checked⟩
    obtain ⟨fits, -, distinct⟩ := (checkDocuments_eq_ok (by simp)).mp checked
    exact ⟨contract, projects, fits, distinct⟩
  · rintro ⟨contract, projects, fits, distinct⟩
    exact ⟨(), contract, (), projects, (checkDocuments_eq_ok (by simp)).mpr
      ⟨fits, fun _ _ => List.not_mem_nil, distinct⟩⟩

end Checked

end ResumeIr.IndexVector
