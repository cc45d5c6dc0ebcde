import ResumeIr.ImportPipeline.Embedding

/-!
# Publishing a vector generation

A publication derives the next projection from the base by replacements and
removals. If the vector generation of the base covers the base completely and is
of the same model, only the pairs that changed are embedded and the vectors of
the others are taken over (`publishFromBase`). Otherwise every pair is embedded
(`publishFromScratch`).

The two agree when every vector of the base is the one that embedding its pair
would give now (`Faithful`): they write the same documents in a different order,
so their manifests are equal (`publishFromBase_agrees`). And whatever a
vectorizer that embeds inputs one by one can publish from scratch, it can
publish from the base (`publishFromBase_succeeds`).
-/

namespace ResumeIr.ImportPipeline

open CoreDomain IndexVector MetaStore Foundation
  Foundation.Fallible

/-! ## The next projection -/

structure SearchPublicationBase where
  generation : Option String
  projections : List ActiveSearchProjection
  vectorContract : VectorModelContract

def documentLe (first second : ActiveSearchProjection) : Prop :=
  first.documentId.asStr ≤ second.documentId.asStr

instance : DecidableRel documentLe := fun _ _ => inferInstanceAs (Decidable (_ ≤ _))

def projectionsAfterDelta (base : List ActiveSearchProjection) (replacements : List IndexDocument)
    (removals : List String) : Except ImportPipelineError (List ActiveSearchProjection) := do
  let kept := base.filter fun projection =>
    !(projection.documentId.asStr ∈ removals ||
      projection.documentId ∈ replacements.map (·.docId))
  let added := replacements.map fun replacement =>
    ActiveSearchProjection.mk replacement.docId replacement.resumeVersionId
  let projections := (kept ++ added).insertionSort documentLe
  check (∀ pair ∈ projections.zip projections.tail, pair.1.documentId ≠ pair.2.documentId)
    .storeInvariant
  return projections

/-- The pairs of the target whose version is not the one of the base. -/
def changedProjections (base target : List ActiveSearchProjection) :
    List ActiveSearchProjection :=
  target.filter fun projection =>
    activeVersion base projection.documentId ≠ some projection.resumeVersionId

/-! ## Publication -/

section Publication

variable (sha256 : List UInt8 → ContentDigest) (stableId : List String → VectorRecordId)

/-- The model of the generation to be published: the one of the vectorizer, or
without a vectorizer the one of the base. -/
def targetContract (base : SearchPublicationBase)
    (vectorization : Option SearchPublicationVectorizer) :
    Except ImportPipelineError VectorModelContract :=
  match vectorization with
  | none => .ok base.vectorContract
  | some vectorizer => do
      let contract := VectorModelContract.enabled vectorizer.modelId vectorizer.dimension
      vectorResult contract.validate
      return contract

variable (directory : VectorDirectory)

/-- The generation of the base, if it can be opened under the target contract
and has a vector for every document of the base. -/
def coveredBase (base : SearchPublicationBase) (contract : VectorModelContract) : Option
    VectorSnapshot := do
  let generation ← base.generation
  guard (base.vectorContract = contract)
  let reader ← (openGeneration sha256 directory generation contract).toOption
  guard (reader.manifest.vectorDocumentCount = base.projections.length ∧
    reader.manifest.coverageDigest = reader.manifest.projectionDigest)
  return reader

def publishFromBase (versions : Table ResumeVersion.id) (generation : String)
    (base : SearchPublicationBase) (reader : VectorSnapshot)
    (projections : List ActiveSearchProjection) (staged : StagedSearchVersionTexts)
    (contract : VectorModelContract) (vectorization : Option SearchPublicationVectorizer) : Except
    ImportPipelineError (VectorSnapshotSummary × VectorDirectory) := do
  let replacements := changedProjections base.projections projections
  let replacementVectors ←
    embedProjections stableId versions replacements staged contract vectorization
  let update ← vectorResult (VectorSnapshotUpdate.new sha256 projections replacementVectors [])
  vectorResult (publishGenerationFrom sha256 directory contract reader generation update)

def publishFromScratch (versions : Table ResumeVersion.id) (generation : String)
    (projections : List ActiveSearchProjection) (staged : StagedSearchVersionTexts)
    (contract : VectorModelContract) (vectorization : Option SearchPublicationVectorizer) : Except
    ImportPipelineError (VectorSnapshotSummary × VectorDirectory) := do
  let vectors ← embedProjections stableId versions projections staged contract vectorization
  vectorResult (publishGeneration sha256 directory contract generation projections vectors)

def publishVectorGeneration (versions : Table ResumeVersion.id) (generation : String)
    (base : SearchPublicationBase) (projections : List ActiveSearchProjection)
    (staged : StagedSearchVersionTexts) (vectorization : Option SearchPublicationVectorizer) :
    Except ImportPipelineError (VectorSnapshotSummary × VectorDirectory) := do
  let contract ← targetContract base vectorization
  vectorResult contract.validate
  match contract with
  | .disabled =>
      vectorResult (publishGeneration sha256 directory .disabled generation projections [])
  | .enabled modelId dimension =>
      match coveredBase sha256 directory base (.enabled modelId dimension) with
      | some reader =>
          publishFromBase sha256 stableId directory versions generation base reader projections
            staged (.enabled modelId dimension) vectorization
      | none =>
          publishFromScratch sha256 stableId directory versions generation projections staged
            (.enabled modelId dimension) vectorization

end Publication

/-! ## The two ways agree -/

section Agreement

variable {sha256 : List UInt8 → ContentDigest} {contentId : List String → ResumeVersionId}
  {corpus : Corpus sha256 contentId} {stableId : List String → VectorRecordId}
  {embedding : SearchPublicationEmbeddingInput → List F32} {modelId : String} {dimension : Nat}
  {base projections projection : List ActiveSearchProjection}
  {documents replacements vectors : List VectorDocument}

/-- Every document is the one that embedding its pair gives. -/
def Faithful (stableId : List String → VectorRecordId) (corpus : Corpus sha256 contentId)
    (embedding : SearchPublicationEmbeddingInput → List F32) (modelId : String)
    (documents : List VectorDocument) : Prop :=
  ∀ document ∈ documents, EmbeddingOf stableId corpus embedding modelId document.pair document

/-- The documents of a projection, one for each pair. -/
structure Embedded (stableId : List String → VectorRecordId) (corpus : Corpus sha256 contentId)
    (embedding : SearchPublicationEmbeddingInput → List F32) (modelId : String)
    (projections : List ActiveSearchProjection) (documents : List VectorDocument) : Prop where
  faithful : Faithful stableId corpus embedding modelId documents
  pairs : documents.map (·.pair) = projections

theorem Embedded.of_forall₂
    (embedded : List.Forall₂ (EmbeddingOf stableId corpus embedding modelId) projections documents) :
    Embedded stableId corpus embedding modelId projections documents where
  faithful document member := by
    obtain ⟨pair, -, made⟩ := exists_related_left embedded member
    rwa [made.pair_eq]
  pairs := by
    induction embedded with
    | nil => rfl
    | cons made _ ih => rw [List.map_cons, made.pair_eq, ih]

/-- A faithful document belongs to an embedded projection as soon as its pair
does. -/
theorem Embedded.mem_iff {document : VectorDocument}
    (embedded : Embedded stableId corpus embedding modelId projections documents)
    (made : EmbeddingOf stableId corpus embedding modelId document.pair document) :
    document ∈ documents ↔ document.pair ∈ projections := by
  rw [← embedded.pairs]
  refine ⟨fun member => List.mem_map_of_mem member, fun member => ?_⟩
  obtain ⟨other, there, same⟩ := List.mem_map.mp member
  have faithful := embedded.faithful other there
  rw [same] at faithful
  rwa [made.unique faithful]

theorem mem_changedProjections {pair : ActiveSearchProjection} (projects : Projects base) :
    pair ∈ changedProjections base projections ↔ pair ∈ projections ∧ pair ∉ base := by
  rw [changedProjections, List.mem_filter, decide_eq_true_iff, Ne,
    activeVersion_eq_some_iff projects.documents]

section Incremental

variable (covered : DocumentsFit modelId dimension base documents)
  (full : (documents.map (·.documentId)).dedup.length = base.length)
  (faithful : Faithful stableId corpus embedding modelId documents)
  (embedded : Embedded stableId corpus embedding modelId
    (changedProjections base projections) replacements)
  (whole : Embedded stableId corpus embedding modelId projections vectors)
  (fit : DocumentsFit modelId dimension projections vectors)

include covered embedded whole in
/-- A replacement is the vector that embedding everything gives. -/
theorem replacement_mem {document : VectorDocument} (member : document ∈ replacements) :
    document ∈ vectors ∧ document.pair ∉ base := by
  have made := embedded.faithful document member
  obtain ⟨active, fresh⟩ := (mem_changedProjections covered.projects).mp
    ((embedded.mem_iff made).mp member)
  exact ⟨(whole.mem_iff made).mpr active, fresh⟩

include covered full faithful embedded whole fit in
/-- The incremental documents are those of the whole projection. -/
theorem mem_apply_iff {document : VectorDocument} :
    document ∈ ((VectorSnapshotUpdate.mk projections replacements []).apply documents).2 ↔
      document ∈ vectors := by
  simp only [VectorSnapshotUpdate.apply, List.mem_append, List.mem_filter]
  constructor
  · rintro (⟨member, retained⟩ | member)
    · simp only [VectorSnapshotUpdate.retains, Bool.and_eq_true, decide_eq_true_eq] at retained
      exact (whole.mem_iff (faithful document member)).mpr (mem_of_activeVersion retained.1.1)
    · exact (replacement_mem covered embedded whole member).1
  · intro member
    have made := whole.faithful document member
    have active := (whole.mem_iff made).mp member
    by_cases old : document.pair ∈ base
    · -- An unchanged pair has its document in the base, where nothing displaces it.
      obtain ⟨other, there, same⟩ := covered.covers full old
      have equal : other = document := by
        have known := faithful other there
        rw [same] at known
        exact known.unique made
      subst equal
      have kept : other.vectorId ∉ replacements.map (·.vectorId) := by
        intro displaced
        obtain ⟨replacement, new, sameId⟩ := List.mem_map.mp displaced
        obtain ⟨inside, fresh⟩ := replacement_mem covered embedded whole new
        rw [List.inj_on_of_nodup_map fit.distinct inside member sameId] at fresh
        exact fresh old
      refine .inl ⟨there, ?_⟩
      simpa [VectorSnapshotUpdate.retains, kept] using (fit.fits other member).active
    · exact .inr ((embedded.mem_iff made).mpr
        ((mem_changedProjections covered.projects).mpr ⟨active, old⟩))

include covered full faithful embedded whole fit in
theorem apply_perm :
    ((VectorSnapshotUpdate.mk projections replacements []).apply documents).2.Perm vectors := by
  refine (List.perm_ext_iff_of_nodup ?_ (List.Nodup.of_map _ fit.distinct)).mpr fun document =>
    mem_apply_iff covered full faithful embedded whole fit
  refine List.nodup_append.mpr ⟨(List.Nodup.of_map _ covered.distinct).filter _, ?_, ?_⟩
  · have pairs : (replacements.map (·.pair)).Nodup := by
      rw [embedded.pairs]
      exact (List.Nodup.of_map _ fit.projects.documents).filter _
    exact List.Nodup.of_map _ pairs
  · rintro document old other new rfl
    exact (replacement_mem covered embedded whole new).2
      (covered.pair_mem (List.mem_of_mem_filter old))

end Incremental

/-! ### The publications -/

section Publications

variable {directory next next' : VectorDirectory} {versions : Table ResumeVersion.id}
  {generation : String} {origin : SearchPublicationBase} {reader : VectorSnapshot}
  {staged : StagedSearchVersionTexts} {vectorization : Option SearchPublicationVectorizer}
  {summary summary' : VectorSnapshotSummary}

theorem publishFromScratch_ok
    (done : publishFromScratch sha256 stableId directory versions generation projections staged
      (.enabled modelId dimension) vectorization = .ok (summary, next)) :
    ∃ vectors, embedProjections stableId versions projections staged
        (.enabled modelId dimension) vectorization = .ok vectors ∧
      Published sha256 modelId dimension generation projections vectors directory summary next := by
  simp only [publishFromScratch, bind_ok_iff, vectorResult_eq_ok] at done
  obtain ⟨vectors, embedded, published⟩ := done
  exact ⟨vectors, embedded, publishGeneration_ok published⟩

theorem publishFromBase_ok
    (done : publishFromBase sha256 stableId directory versions generation origin reader projections
      staged (.enabled modelId dimension) vectorization = .ok (summary, next)) :
    ∃ replacements, embedProjections stableId versions
        (changedProjections origin.projections projections) staged
        (.enabled modelId dimension) vectorization = .ok replacements ∧
      Published sha256 modelId dimension generation projections
        ((VectorSnapshotUpdate.mk projections replacements []).apply reader.documents).2
        directory summary next := by
  simp only [publishFromBase, bind_ok_iff, vectorResult_eq_ok, VectorSnapshotUpdate.new,
    exists_const, publishGenerationFrom, check_eq_ok] at done
  obtain ⟨replacements, embedded, _, ⟨-, -, -, -, ⟨⟩⟩, -, published⟩ := done
  exact ⟨replacements, embedded, publishGeneration_ok published⟩

/-- A generation that the next one can be derived from: it covers the base, and
every vector of it is the one that embedding its pair gives. -/
structure Derivable (stableId : List String → VectorRecordId) (corpus : Corpus sha256 contentId)
    (embedding : SearchPublicationEmbeddingInput → List F32) (modelId : String) (dimension : Nat)
    (base : List ActiveSearchProjection) (reader : VectorSnapshot) : Prop where
  contract : reader.manifest.modelContract = .enabled modelId dimension
  fit : DocumentsFit modelId dimension base reader.documents
  full : (reader.documents.map (·.documentId)).dedup.length = base.length
  faithful : Faithful stableId corpus embedding modelId reader.documents

variable (derivable : Derivable stableId corpus embedding modelId dimension origin.projections reader)
  (computes : ∀ vectorizer ∈ vectorization, vectorizer.Computes embedding)
  (stored : ∀ version ∈ versions, corpus.holds version) (stages : Stages corpus staged)

include derivable computes stored stages in
theorem publishFromBase_agrees
    (incremental : publishFromBase sha256 stableId directory versions generation origin reader
      projections staged (.enabled modelId dimension) vectorization = .ok (summary, next))
    (scratch : publishFromScratch sha256 stableId directory versions generation projections staged
      (.enabled modelId dimension) vectorization = .ok (summary', next')) :
    summary = summary' ∧ ∃ snapshot snapshot', next.find? generation = some snapshot ∧
      next'.find? generation = some snapshot' ∧ snapshot.documents.Perm snapshot'.documents ∧
      snapshot'.documents.map (·.pair) = projections := by
  obtain ⟨replacements, embedded, published⟩ := publishFromBase_ok incremental
  obtain ⟨vectors, embeddedAll, published'⟩ := publishFromScratch_ok scratch
  have whole := Embedded.of_forall₂ (embedProjections_ok embeddedAll computes stored stages)
  have same := apply_perm derivable.fit derivable.full derivable.faithful
    (.of_forall₂ (embedProjections_ok embedded computes stored stages)) whole published'.fit
  have summaries : Except.ok summary = (Except.ok summary' : Except VectorIndexError _) :=
    published.summarized.symm.trans
      (summarize_perm published'.fit.distinct same published'.summarized)
  exact ⟨Except.ok.inj summaries, _, _, Table.find?_inserted published.inserted,
    Table.find?_inserted published'.inserted, same, whole.pairs⟩

include derivable computes stored stages in
theorem publishFromBase_succeeds
    (pointwise : ∀ vectorizer ∈ vectorization, ∃ embed, vectorizer.Pointwise embed)
    (scratch : publishFromScratch sha256 stableId directory versions generation projections staged
      (.enabled modelId dimension) vectorization = .ok (summary', next')) :
    ∃ summary next, publishFromBase sha256 stableId directory versions generation origin reader
      projections staged (.enabled modelId dimension) vectorization = .ok (summary, next) := by
  obtain ⟨vectors, embeddedAll, published⟩ := publishFromScratch_ok scratch
  have part : (changedProjections origin.projections projections).Sublist projections :=
    List.filter_sublist
  obtain ⟨replacements, embedded⟩ := embedProjections_of_subset embeddedAll pointwise
    part.subset (published.fit.projects.versions.sublist (part.map _))
  have changed := Embedded.of_forall₂ (embedProjections_ok embedded computes stored stages)
  have whole := Embedded.of_forall₂ (embedProjections_ok embeddedAll computes stored stages)
  have same := apply_perm derivable.fit derivable.full derivable.faithful changed whole published.fit
  have active : ∀ document ∈ replacements,
      activeVersion projections document.documentId = some document.resumeVersionId := by
    intro document member
    obtain ⟨there, -⟩ := replacement_mem derivable.fit changed whole member
    exact (published.fit.fits document there).active
  obtain ⟨summary, next, done⟩ := (published.fit.permDocuments same).publish published.named
    published.contract (Table.find?_of_insert? published.inserted) sha256
  refine ⟨summary, next, ?_⟩
  simp only [publishFromBase, bind_ok_iff, vectorResult_eq_ok, VectorSnapshotUpdate.new,
    exists_const, publishGenerationFrom, check_eq_ok, validateProjection_eq_ok]
  exact ⟨replacements, embedded, .mk projections replacements [],
    ⟨published.fit.projects, by rintro _ ⟨⟩, active, rfl⟩, derivable.contract, done⟩

end Publications

end Agreement

end ResumeIr.ImportPipeline
