import ResumeIr.Foundation.Table
import ResumeIr.IndexVector.Documents

/-!
# Vector snapshots

A generation of the vector index is one immutable snapshot: the complete
projection, the documents, and a manifest with counts and digests of both. It is
written, read back and compared before it appears under its name.

A manifest identifies what the snapshot says and not how it was put together:
its digests do not depend on the order of the documents
(`logicalContentDigest_perm`).
-/

namespace ResumeIr.IndexVector

open CoreDomain Foundation Fallible

/-! ## Digests -/

section Digests

variable (sha256 : List UInt8 → ContentDigest)

def canonicalProjection (projection : List ActiveSearchProjection) :
    Except VectorIndexError (List ActiveSearchProjection) := do
  validateProjection sha256 projection
  return projection.insertionSort pairLe

/-- The text of the digest of some bytes, as bytes. -/
def valueDigest (value : List UInt8) : List UInt8 := bytesOf (sha256 value).asStr

def contractBytes : VectorModelContract → List UInt8
  | .disabled => [0]
  | .enabled modelId dimension =>
      [1] ++ valueDigest sha256 (bytesOf modelId) ++ toLeBytes dimension

/-- The four little-endian bytes of a number. -/
def F32.toLeBytes (value : F32) : List UInt8 :=
  (List.range 4).map fun i => UInt8.ofNat (value.toNat / 256 ^ i)

def documentBytes (document : VectorDocument) : List UInt8 :=
  valueDigest sha256 (bytesOf document.vectorId.asStr) ++
    valueDigest sha256 (bytesOf document.documentId.asStr) ++
    valueDigest sha256 (bytesOf document.resumeVersionId.asStr) ++
    valueDigest sha256 (bytesOf document.modelId) ++
    toLeBytes document.values.length ++ document.values.flatMap F32.toLeBytes

/-- The order in which documents are written to the digest. -/
def vectorIdLe (first second : VectorDocument) : Prop :=
  first.vectorId.asStr ≤ second.vectorId.asStr

instance : DecidableRel vectorIdLe := fun _ _ => inferInstanceAs (Decidable (_ ≤ _))

def logicalContentDigest (contract : VectorModelContract)
    (projection : List ActiveSearchProjection) (documents : List VectorDocument) :
    Except VectorIndexError ContentDigest := do
  let digest ← projectionDigest sha256 projection
  return sha256 <|
    bytesOf "resume-ir.vector.logical-content.v4" ++ contractBytes sha256 contract ++
      bytesOf digest.digest.asStr ++ toLeBytes documents.length ++
      (documents.insertionSort vectorIdLe).flatMap fun document =>
        valueDigest sha256 (documentBytes sha256 document)

/-- The pairs that have a vector, each once. -/
def coveredPairs (documents : List VectorDocument) : List ActiveSearchProjection :=
  (documents.map (·.pair)).dedup

def coverageDigest (documents : List VectorDocument) :
    Except VectorIndexError SearchProjectionDigest :=
  projectionDigest sha256 (coveredPairs documents)

end Digests

/-! ## Snapshots -/

/-- What the manifest of a snapshot says. -/
structure VectorSnapshotSummary where
  generation : String
  modelContract : VectorModelContract
  projectionCount : Nat
  vectorCount : Nat
  vectorDocumentCount : Nat
  projectionDigest : SearchProjectionDigest
  coverageDigest : SearchProjectionDigest
  logicalContentDigest : ContentDigest
  deriving DecidableEq

structure VectorSnapshot where
  generation : String
  modelContract : VectorModelContract
  projection : List ActiveSearchProjection
  documents : List VectorDocument
  manifest : VectorSnapshotSummary

section Files

variable (sha256 : List UInt8 → ContentDigest)

/-- The summary of some contents. -/
def summarize (generation : String) (contract : VectorModelContract)
    (projection : List ActiveSearchProjection) (documents : List VectorDocument) :
    Except VectorIndexError VectorSnapshotSummary := do
  let projected ← projectionDigest sha256 projection
  let covered ← coverageDigest sha256 documents
  let content ← logicalContentDigest sha256 contract projection documents
  return {
    generation := generation
    modelContract := contract
    projectionCount := projection.length
    vectorCount := documents.length
    vectorDocumentCount := (documents.map (·.documentId)).dedup.length
    projectionDigest := projected
    coverageDigest := covered
    logicalContentDigest := content }

def writeSnapshot (generation : String) (contract : VectorModelContract)
    (projection : List ActiveSearchProjection) (documents : List VectorDocument) :
    Except VectorIndexError VectorSnapshot := do
  let projection ← canonicalProjection sha256 projection
  validateDocuments sha256 contract projection documents
  let manifest ← summarize sha256 generation contract projection documents
  return { generation, modelContract := contract, projection, documents, manifest }

/-- The counts of a manifest that can be checked without its payload. -/
def VectorSnapshotSummary.isConsistent (manifest : VectorSnapshotSummary) : Bool :=
  manifest.vectorDocumentCount ≤ manifest.vectorCount &&
    manifest.vectorDocumentCount ≤ manifest.projectionCount &&
    (manifest.modelContract != .disabled ||
      (manifest.vectorCount == 0 && manifest.vectorDocumentCount == 0))

/-- Contents that fail a check on reading are corrupt. -/
def orCorrupt {α : Type} (x : Except VectorIndexError α) : Except VectorIndexError α :=
  match x with
  | .ok a => .ok a
  | .error _ => .error .corruptSnapshot

/-- The payload and the manifest must be of the expected generation and
contract, the payload must pass the checks again, and the manifest must be its
summary. -/
def readSnapshot (snapshot : VectorSnapshot) (generation : String)
    (contract : VectorModelContract) : Except VectorIndexError VectorSnapshot := do
  contract.validate
  check (snapshot.manifest.generation = generation ∧ snapshot.manifest.modelContract = contract)
    .corruptSnapshot
  check (snapshot.manifest.isConsistent = true) .corruptSnapshot
  check (snapshot.generation = generation ∧ snapshot.modelContract = contract) .corruptSnapshot
  let projection ← orCorrupt (canonicalProjection sha256 snapshot.projection)
  orCorrupt (validateDocuments sha256 contract projection snapshot.documents)
  let summary ← orCorrupt (summarize sha256 generation contract projection snapshot.documents)
  check (summary = snapshot.manifest) .corruptSnapshot
  return { snapshot with projection }

/-! ## The directory of generations -/

def maxGenerationLen : Nat := 128

def isValidGeneration (generation : String) : Bool :=
  generation != "" && generation.utf8ByteSize ≤ maxGenerationLen &&
    !generation.toList.head?.any (· == '.') &&
    generation.toList.all fun c => c.isAlphanum || c == '-' || c == '_' || c == '.'

abbrev VectorDirectory := Table VectorSnapshot.generation

/-- `VectorSnapshotStore::publish_generation`. -/
def publishGeneration (directory : VectorDirectory) (contract : VectorModelContract)
    (generation : String) (projection : List ActiveSearchProjection)
    (documents : List VectorDocument) :
    Except VectorIndexError (VectorSnapshotSummary × VectorDirectory) := do
  check (isValidGeneration generation = true) .invalidGeneration
  validateDocuments sha256 contract projection documents
  check (directory.find? generation = none) .generationAlreadyExists
  let expected ← writeSnapshot sha256 generation contract projection documents
  let validated ← readSnapshot sha256 expected generation contract
  check (validated.manifest = expected.manifest) .corruptSnapshot
  let published ← present (directory.insert? expected) .generationAlreadyExists
  return (expected.manifest, published)

/-- `VectorSnapshotRoot::open_generation_for_republication`. -/
def openGeneration (directory : VectorDirectory) (generation : String)
    (contract : VectorModelContract) : Except VectorIndexError VectorSnapshot := do
  check (isValidGeneration generation = true) .invalidGeneration
  contract.validate
  let snapshot ← present (directory.find? generation) .generationNotFound
  readSnapshot sha256 snapshot generation contract

/-- `publish_generation_from_publication_reader`: the reader has the contract of
the store. -/
def publishGenerationFrom (directory : VectorDirectory) (contract : VectorModelContract)
    (base : VectorSnapshot) (generation : String) (update : VectorSnapshotUpdate) :
    Except VectorIndexError (VectorSnapshotSummary × VectorDirectory) := do
  check (base.manifest.modelContract = contract) .invalidModelContract
  let (projection, documents) := update.apply base.documents
  publishGeneration sha256 directory contract generation projection documents

end Files

/-! ## What publishing establishes -/

variable {other : List ActiveSearchProjection} {others : List VectorDocument}
  {summary : VectorSnapshotSummary} {contract : VectorModelContract} {directory : VectorDirectory}

section Published

variable {sha256 : List UInt8 → ContentDigest} {generation modelId : String} {dimension : Nat}
  {projection : List ActiveSearchProjection} {documents : List VectorDocument}

/-- The projection in its canonical order. -/
abbrev sorted (projection : List ActiveSearchProjection) : List ActiveSearchProjection :=
  projection.insertionSort pairLe

theorem sorted_sorted (projection : List ActiveSearchProjection) :
    sorted (sorted projection) = sorted projection :=
  (List.pairwise_insertionSort pairLe projection).insertionSort_eq

theorem Projects.perm (projects : Projects projection) (same : projection.Perm other) :
    Projects other :=
  ⟨(same.map _).nodup_iff.mp projects.documents, (same.map _).nodup_iff.mp projects.versions⟩

theorem activeVersion_perm (projects : Projects projection) (same : projection.Perm other)
    (document : DocumentId) : activeVersion other document = activeVersion projection document := by
  apply Option.ext
  intro version
  rw [activeVersion_eq_some_iff (projects.perm same).documents,
    activeVersion_eq_some_iff projects.documents]
  exact same.mem_iff.symm

theorem DocumentsFit.perm (fit : DocumentsFit modelId dimension projection documents)
    (same : projection.Perm other) :
    DocumentsFit modelId dimension other documents where
  projects := fit.projects.perm same
  fits document member :=
    { fit.fits document member with
      active := by
        rw [activeVersion_perm fit.projects same]
        exact (fit.fits document member).active }
  distinct := fit.distinct

theorem DocumentsFit.permDocuments (fit : DocumentsFit modelId dimension projection documents)
    (same : others.Perm documents) :
    DocumentsFit modelId dimension projection others where
  projects := fit.projects
  fits document member := fit.fits document (same.mem_iff.mp member)
  distinct := (same.map _).nodup_iff.mpr fit.distinct

/-- Every vector belongs to a pair of the projection. -/
theorem DocumentsFit.pair_mem (fit : DocumentsFit modelId dimension projection documents)
    {document : VectorDocument} (member : document ∈ documents) : document.pair ∈ projection :=
  mem_of_activeVersion (fit.fits document member).active

theorem orCorrupt_eq_ok {α : Type} {x : Except VectorIndexError α} {a : α} :
    orCorrupt x = .ok a ↔ x = .ok a := by
  cases x <;> simp [orCorrupt]

theorem canonicalProjection_eq_ok {canonical : List ActiveSearchProjection} :
    canonicalProjection sha256 projection = .ok canonical ↔
      Projects projection ∧ canonical = sorted projection := by
  simp only [canonicalProjection, bind_ok_iff, exists_const, validateProjection_eq_ok]
  constructor
  · rintro ⟨projects, ⟨⟩⟩
    exact ⟨projects, rfl⟩
  · rintro ⟨projects, rfl⟩
    exact ⟨projects, rfl⟩

/-- A generation that was published: its documents fit, its name was free, and
its manifest is the summary of its contents. -/
structure Published (sha256 : List UInt8 → ContentDigest) (modelId : String) (dimension : Nat)
    (generation : String) (projection : List ActiveSearchProjection)
    (documents : List VectorDocument) (directory : VectorDirectory)
    (summary : VectorSnapshotSummary) (next : VectorDirectory) : Prop where
  named : isValidGeneration generation = true
  contract : (VectorModelContract.enabled modelId dimension).validate = .ok ()
  fit : DocumentsFit modelId dimension projection documents
  summarized : summarize sha256 generation (.enabled modelId dimension) (sorted projection)
    documents = .ok summary
  inserted : directory.insert?
    ⟨generation, .enabled modelId dimension, sorted projection, documents, summary⟩ = some next

theorem publishGeneration_ok {directory next : VectorDirectory}
    (done : publishGeneration sha256 directory (.enabled modelId dimension) generation projection
      documents = .ok (summary, next)) :
    Published sha256 modelId dimension generation projection documents directory summary next := by
  simp only [publishGeneration, writeSnapshot, bind_ok_iff, exists_const, check_eq_ok,
    validateDocuments_eq_ok, canonicalProjection_eq_ok, present_eq_ok] at done
  obtain ⟨named, ⟨contract, fit⟩, -, expected, ⟨_, ⟨-, rfl⟩, -, manifest, summarized, ⟨⟩⟩, -, -, -,
    _, inserted, ⟨⟩⟩ := done
  exact ⟨named, contract, fit, summarized, inserted⟩

/-- Whatever the contract, what appears under the name is what was given. -/
theorem publishGeneration_inserted {directory next : VectorDirectory}
    (done : publishGeneration sha256 directory contract generation projection documents =
      .ok (summary, next)) :
    directory.insert? ⟨generation, contract, sorted projection, documents, summary⟩ = some next := by
  simp only [publishGeneration, writeSnapshot, bind_ok_iff, exists_const, check_eq_ok,
    canonicalProjection_eq_ok, present_eq_ok] at done
  obtain ⟨-, -, -, -, expected, ⟨_, ⟨-, rfl⟩, -, -, manifest, -, ⟨⟩⟩, -, -, -, _, inserted, ⟨⟩⟩ := done
  exact inserted

/-! ### A generation whose documents fit can be published -/

theorem mem_coveredPairs {pair : ActiveSearchProjection} :
    pair ∈ coveredPairs documents ↔ ∃ document ∈ documents, document.pair = pair := by
  simp [coveredPairs]

theorem DocumentsFit.covered (fit : DocumentsFit modelId dimension projection documents) :
    Projects (coveredPairs documents) := by
  have once : (coveredPairs documents).Nodup := List.nodup_dedup _
  have inside : ∀ pair ∈ coveredPairs documents, pair ∈ projection := by
    intro pair member
    obtain ⟨document, there, rfl⟩ := mem_coveredPairs.mp member
    exact fit.pair_mem there
  constructor
  · refine once.map_on fun first left second right same => ?_
    exact List.inj_on_of_nodup_map fit.projects.documents (inside first left)
      (inside second right) same
  · refine once.map_on fun first left second right same => ?_
    exact List.inj_on_of_nodup_map fit.projects.versions (inside first left)
      (inside second right) same

theorem Projects.projectionDigest (projects : Projects projection)
    (sha256 : List UInt8 → ContentDigest) :
    ∃ digest, projectionDigest sha256 projection = .ok digest :=
  ⟨_, projectionDigest_eq_ok.mpr
    (fromPairs_eq_ok_iff.mpr ⟨projects.documents, projects.versions, rfl⟩)⟩

theorem DocumentsFit.summarize (fit : DocumentsFit modelId dimension projection documents)
    (sha256 : List UInt8 → ContentDigest) (generation : String) (contract : VectorModelContract) :
    ∃ summary, summarize sha256 generation contract projection documents = .ok summary := by
  obtain ⟨projected, projectedEq⟩ := fit.projects.projectionDigest sha256
  obtain ⟨covered, coveredEq⟩ := fit.covered.projectionDigest sha256
  have content : logicalContentDigest sha256 contract projection documents = .ok _ :=
    bind_ok_iff.mpr ⟨projected, projectedEq, rfl⟩
  simp only [IndexVector.summarize, bind_ok_iff]
  exact ⟨_, projected, projectedEq, covered, coveredEq, _, content, rfl⟩

/-- The parts of a summary. -/
structure Summarizes (sha256 : List UInt8 → ContentDigest) (generation : String)
    (contract : VectorModelContract) (projection : List ActiveSearchProjection)
    (documents : List VectorDocument) (summary : VectorSnapshotSummary) : Prop where
  ofGeneration : summary.generation = generation
  ofContract : summary.modelContract = contract
  projectionCount : summary.projectionCount = projection.length
  vectorCount : summary.vectorCount = documents.length
  vectorDocumentCount :
    summary.vectorDocumentCount = (documents.map (·.documentId)).dedup.length
  projectionDigest : projectionDigest sha256 projection = .ok summary.projectionDigest
  content : logicalContentDigest sha256 contract projection documents =
    .ok summary.logicalContentDigest

theorem summarize_ok
    (done : summarize sha256 generation contract projection documents = .ok summary) :
    Summarizes sha256 generation contract projection documents summary := by
  simp only [summarize, bind_ok_iff] at done
  obtain ⟨projected, projectedEq, covered, -, content, contentEq, ⟨⟩⟩ := done
  exact ⟨rfl, rfl, rfl, rfl, rfl, projectedEq, contentEq⟩

/-- No more documents have a vector than are projected. -/
theorem DocumentsFit.vectorDocuments_le (fit : DocumentsFit modelId dimension projection documents) :
    (documents.map (·.documentId)).dedup.length ≤ projection.length := by
  have inside : (documents.map (·.documentId)).dedup ⊆ projection.map (·.documentId) := by
    intro id member
    obtain ⟨document, there, rfl⟩ := List.mem_map.mp (List.mem_dedup.mp member)
    exact List.mem_map.mpr ⟨document.pair, fit.pair_mem there, rfl⟩
  have bound := (List.subperm_of_subset (List.nodup_dedup _) inside).length_le
  rwa [List.length_map] at bound

theorem readSnapshot_written
    (contract : (VectorModelContract.enabled modelId dimension).validate = .ok ())
    (fit : DocumentsFit modelId dimension (sorted projection) documents)
    (summarized : IndexVector.summarize sha256 generation (.enabled modelId dimension)
      (sorted projection) documents = .ok summary) :
    readSnapshot sha256
        ⟨generation, .enabled modelId dimension, sorted projection, documents, summary⟩ generation
        (.enabled modelId dimension) =
      .ok ⟨generation, .enabled modelId dimension, sorted projection, documents, summary⟩ := by
  have parts := summarize_ok summarized
  have consistent : summary.isConsistent = true := by
    have deduped := (List.dedup_sublist (documents.map (·.documentId))).length_le
    have bound := fit.vectorDocuments_le
    rw [List.length_map] at deduped
    rw [List.length_insertionSort] at bound
    simp [VectorSnapshotSummary.isConsistent, parts.vectorDocumentCount, parts.vectorCount,
      parts.projectionCount, parts.ofContract, deduped, bound]
  simp only [readSnapshot, bind_ok_iff, exists_const, check_eq_ok, orCorrupt_eq_ok,
    canonicalProjection_eq_ok, validateDocuments_eq_ok]
  exact ⟨(), contract, ⟨parts.ofGeneration, parts.ofContract⟩, consistent, ⟨trivial, trivial⟩, _,
    ⟨fit.projects, (sorted_sorted projection).symm⟩, ⟨contract, fit⟩, summary, summarized, rfl, rfl⟩

/-- Documents that fit are published under a free name. -/
theorem DocumentsFit.publish (fit : DocumentsFit modelId dimension projection documents)
    (named : isValidGeneration generation = true)
    (contract : (VectorModelContract.enabled modelId dimension).validate = .ok ())
    (free : directory.find? generation = none) (sha256 : List UInt8 → ContentDigest) :
    ∃ summary next, publishGeneration sha256 directory (.enabled modelId dimension) generation
      projection documents = .ok (summary, next) := by
  have canonical := fit.perm (List.perm_insertionSort pairLe projection).symm
  obtain ⟨summary, summarized⟩ := canonical.summarize sha256 generation (.enabled modelId dimension)
  obtain ⟨next, inserted⟩ := Table.insert?_isSome (t := directory)
    (show directory.find? (VectorSnapshot.generation
      ⟨generation, .enabled modelId dimension, sorted projection, documents, summary⟩) = none
      from free)
  refine ⟨summary, next, ?_⟩
  simp only [publishGeneration, writeSnapshot, bind_ok_iff, exists_const, check_eq_ok,
    validateDocuments_eq_ok, canonicalProjection_eq_ok, present_eq_ok]
  exact ⟨named, ⟨contract, fit⟩, free, _,
    ⟨_, ⟨fit.projects, rfl⟩, ⟨contract, canonical⟩, summary, summarized, rfl⟩, _,
    readSnapshot_written contract canonical summarized, rfl, next, inserted, rfl⟩

/-! ### Opening a generation -/

theorem openGeneration_opened {opened : VectorSnapshot}
    (done : openGeneration sha256 directory generation contract = .ok opened) :
    ∃ snapshot, directory.find? generation = some snapshot ∧
      opened = { snapshot with projection := sorted snapshot.projection } := by
  simp only [openGeneration, readSnapshot, bind_ok_iff, exists_const, check_eq_ok, present_eq_ok,
    orCorrupt_eq_ok, canonicalProjection_eq_ok] at done
  obtain ⟨-, -, -, snapshot, found, -, -, -, -, -, _, ⟨-, rfl⟩, -, -, -, -, -, ⟨⟩⟩ := done
  exact ⟨snapshot, found, rfl⟩

theorem openGeneration_ok {opened : VectorSnapshot}
    (done : openGeneration sha256 directory generation (.enabled modelId dimension) = .ok opened) :
    ∃ snapshot, directory.find? generation = some snapshot ∧
      snapshot.modelContract = .enabled modelId dimension ∧
      opened = { snapshot with projection := sorted snapshot.projection } ∧
      DocumentsFit modelId dimension (sorted snapshot.projection) snapshot.documents ∧
      Summarizes sha256 generation (.enabled modelId dimension) (sorted snapshot.projection)
        snapshot.documents snapshot.manifest := by
  simp only [openGeneration, readSnapshot, bind_ok_iff, exists_const, check_eq_ok, present_eq_ok,
    orCorrupt_eq_ok, canonicalProjection_eq_ok, validateDocuments_eq_ok] at done
  obtain ⟨-, -, -, snapshot, found, -, -, -, -, ⟨-, contract⟩, _, ⟨-, rfl⟩, ⟨-, fit⟩, summary,
    summarized, rfl, ⟨⟩⟩ := done
  exact ⟨snapshot, found, contract, rfl, fit, summarize_ok summarized⟩

/-- When as many documents have a vector as are projected, every projected pair
has one. -/
theorem DocumentsFit.covers (fit : DocumentsFit modelId dimension projection documents)
    (full : (documents.map (·.documentId)).dedup.length = projection.length)
    {pair : ActiveSearchProjection} (member : pair ∈ projection) :
    ∃ document ∈ documents, document.pair = pair := by
  have inside : (documents.map (·.documentId)).dedup ⊆ projection.map (·.documentId) := by
    intro id there
    obtain ⟨document, held, rfl⟩ := List.mem_map.mp (List.mem_dedup.mp there)
    exact List.mem_map.mpr ⟨document.pair, fit.pair_mem held, rfl⟩
  have all : (documents.map (·.documentId)).dedup.Perm (projection.map (·.documentId)) := by
    refine (List.subperm_of_subset (List.nodup_dedup _) inside).perm_of_length_le ?_
    rw [List.length_map, full]
  have named : pair.documentId ∈ documents.map (·.documentId) :=
    List.mem_dedup.mp (all.mem_iff.mpr (List.mem_map_of_mem member))
  obtain ⟨document, held, same⟩ := List.mem_map.mp named
  exact ⟨document, held, List.inj_on_of_nodup_map fit.projects.documents (fit.pair_mem held) member same⟩

/-! ### The order of the documents does not matter -/

theorem insertionSort_vectorIdLe_perm (distinct : (documents.map (·.vectorId)).Nodup)
    (same : others.Perm documents) :
    others.insertionSort vectorIdLe = documents.insertionSort vectorIdLe := by
  have total : Std.Total vectorIdLe := ⟨fun first second => le_total _ _⟩
  have trans : IsTrans VectorDocument vectorIdLe := ⟨fun _ _ _ => le_trans⟩
  refine List.Perm.eq_of_pairwise ?_ (List.pairwise_insertionSort vectorIdLe others)
    (List.pairwise_insertionSort vectorIdLe documents)
    ((List.perm_insertionSort vectorIdLe others).trans
      (same.trans (List.perm_insertionSort vectorIdLe documents).symm))
  intro first second left right le ge
  refine List.inj_on_of_nodup_map distinct ?_ ?_ (StableId.ext_asStr (le_antisymm le ge))
  · exact same.mem_iff.mp ((List.perm_insertionSort vectorIdLe others).mem_iff.mp left)
  · exact (List.perm_insertionSort vectorIdLe documents).mem_iff.mp right

theorem logicalContentDigest_perm (distinct : (documents.map (·.vectorId)).Nodup)
    (same : others.Perm documents) :
    logicalContentDigest sha256 contract projection others =
      logicalContentDigest sha256 contract projection documents := by
  simp only [logicalContentDigest, insertionSort_vectorIdLe_perm distinct same, same.length_eq]

theorem coverageDigest_perm {digest : SearchProjectionDigest} (same : others.Perm documents)
    (known : coverageDigest sha256 documents = .ok digest) :
    coverageDigest sha256 others = .ok digest :=
  projectionDigest_eq_ok.mpr
    (fromPairs_perm (same.map _).dedup (projectionDigest_eq_ok.mp known))

/-- The manifest does not depend on the order of the documents. -/
theorem summarize_perm (distinct : (documents.map (·.vectorId)).Nodup)
    (same : others.Perm documents)
    (known : summarize sha256 generation contract projection documents = .ok summary) :
    summarize sha256 generation contract projection others = .ok summary := by
  simp only [summarize, bind_ok_iff] at known ⊢
  obtain ⟨projected, projectedEq, covered, coveredEq, content, contentEq, summarized⟩ := known
  refine ⟨projected, projectedEq, covered, coverageDigest_perm same coveredEq, content,
    (logicalContentDigest_perm distinct same).trans contentEq, ?_⟩
  rw [same.length_eq, ((same.map (·.documentId)).dedup).length_eq]
  exact summarized

end Published

end ResumeIr.IndexVector
