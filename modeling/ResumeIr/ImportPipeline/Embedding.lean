import ResumeIr.IndexVector.Snapshot
import ResumeIr.MetaStore.ResumeVersions

/-!
# Embedding a projection

A publication embeds the text of resume versions in batches and binds each
output to the version whose id it carries. The text of a version is the staged
one, if the publication stages the version, and the stored one otherwise.

The vectorizer is whatever the host provides. All that is asked of it is that
the vector of an output depends on the input alone (`Computes`), not on the
batch it was sent in. Then embedding a projection gives one document for each of
its pairs, and which one is determined by the pair (`embedProjections_ok`,
`EmbeddingOf.unique`).
-/

namespace ResumeIr.ImportPipeline

open CoreDomain IndexVector MetaStore Foundation
  Foundation.Fallible

inductive ImportPipelineError where
  | cancelled
  | storeInvariant
  | vectorIo
  | vector (error : VectorIndexError)
  | store (error : MetaStoreError)
  deriving DecidableEq

/-- An error of the vector index, reported by the pipeline. -/
def vectorResult {α : Type} : Except VectorIndexError α → Except ImportPipelineError α
  | .ok a => .ok a
  | .error error => .error (.vector error)

theorem vectorResult_eq_ok {α : Type} {x : Except VectorIndexError α} {a : α} :
    vectorResult x = .ok a ↔ x = .ok a := by
  cases x <;> simp [vectorResult]

/-! ## The vectorizer -/

structure SearchPublicationEmbeddingInput where
  id : String
  text : String

structure SearchPublicationEmbeddingOutput where
  id : String
  modelId : String
  values : List F32

inductive SearchPublicationEmbeddingFailure where
  | cancelled
  | runtimeUnavailable
  | invalidOutput
  deriving DecidableEq

structure SearchPublicationVectorizer where
  modelId : String
  dimension : Nat
  maxBatchInputs : Nat
  maxTextBytes : Nat
  embedBatch : List SearchPublicationEmbeddingInput →
    Except SearchPublicationEmbeddingFailure (List SearchPublicationEmbeddingOutput)

/-! ## Texts -/

/-- What the full-text index is given of a document. -/
structure IndexDocument where
  docId : DocumentId
  resumeVersionId : ResumeVersionId
  cleanText : String

structure StagedSearchVersionText where
  resumeVersionId : ResumeVersionId
  documentId : DocumentId
  text : String

abbrev StagedSearchVersionTexts := Table StagedSearchVersionText.resumeVersionId

def stageTexts (staged : StagedSearchVersionTexts) :
    List IndexDocument → Except ImportPipelineError StagedSearchVersionTexts
  | [] => .ok staged
  | document :: rest => do
      check (trim document.cleanText ≠ "") .storeInvariant
      let next ← present
        (staged.insert? ⟨document.resumeVersionId, document.docId, document.cleanText⟩)
        .storeInvariant
      stageTexts next rest

def stagedSearchVersionTexts (documents : List IndexDocument) :
    Except ImportPipelineError StagedSearchVersionTexts :=
  stageTexts .empty documents

/-- The text that is embedded for a pair. -/
def projectionText (versions : Table ResumeVersion.id) (staged : StagedSearchVersionTexts)
    (projection : ActiveSearchProjection) : Except ImportPipelineError String :=
  match staged.find? projection.resumeVersionId with
  | some text => do
      check (text.documentId = projection.documentId) .storeInvariant
      return trim text.text
  | none => do
      let version ← present
        ((versions.find? projection.resumeVersionId).filter fun version =>
          version.documentId = projection.documentId) .storeInvariant
      present (((version.cleanText.or version.rawText).map trim).filter fun text => text ≠ "")
        .storeInvariant

/-! ## Batches -/

/-- The inputs cut into pieces of at most the given size. -/
def chunks {α : Type} (size : Nat) : Nat → List α → List (List α)
  | 0, _ => []
  | _ + 1, [] => []
  | fuel + 1, inputs => inputs.take size :: chunks size fuel (inputs.drop size)

/-- The outputs of a batch, added to those of the earlier batches. -/
def collectOutputs (modelId : String) (dimension : Nat) :
    List SearchPublicationEmbeddingOutput → List SearchPublicationEmbeddingOutput →
      Except ImportPipelineError (List SearchPublicationEmbeddingOutput)
  | outputs, [] => .ok outputs
  | outputs, output :: rest => do
      check (output.modelId = modelId ∧ output.values.length = dimension ∧
        output.id ∉ outputs.map (·.id)) .storeInvariant
      collectOutputs modelId dimension (outputs ++ [output]) rest

/-- A failure of the vectorizer, reported by the pipeline. -/
def embeddingResult {α : Type} :
    Except SearchPublicationEmbeddingFailure α → Except ImportPipelineError α
  | .ok a => .ok a
  | .error .cancelled => .error .cancelled
  | .error _ => .error .vectorIo

theorem embeddingResult_eq_ok {α : Type} {x : Except SearchPublicationEmbeddingFailure α} {a : α} :
    embeddingResult x = .ok a ↔ x = .ok a := by
  cases x with
  | ok a => simp [embeddingResult]
  | error failure => cases failure <;> simp [embeddingResult]

def embedBatches (vectorizer : SearchPublicationVectorizer) (modelId : String) (dimension : Nat) :
    List SearchPublicationEmbeddingOutput → List (List SearchPublicationEmbeddingInput) →
      Except ImportPipelineError (List SearchPublicationEmbeddingOutput)
  | outputs, [] => .ok outputs
  | outputs, batch :: rest => do
      let batchOutputs ← embeddingResult (vectorizer.embedBatch batch)
      check (batchOutputs.length = batch.length) .storeInvariant
      let next ← collectOutputs modelId dimension outputs batchOutputs
      embedBatches vectorizer modelId dimension next rest

/-! ## Documents -/

/-- The vector id of a version under a model. -/
def documentVectorId (stableId : List String → VectorRecordId) (modelId : String)
    (version : ResumeVersionId) : VectorRecordId :=
  stableId [version.asStr, modelId, "document"]

/-- The document of a pair, made of the output of its version. -/
def bindOutput (stableId : List String → VectorRecordId) (modelId : String)
    (projection : ActiveSearchProjection) (output : SearchPublicationEmbeddingOutput) :
    Except ImportPipelineError VectorDocument := do
  let identity ← vectorResult (VectorDocumentIdentity.new
    (documentVectorId stableId modelId projection.resumeVersionId) projection.documentId
    projection.resumeVersionId modelId)
  vectorResult (VectorDocument.new identity output.values)

/-- Each pair takes the output of its version; in the end none may be left. -/
def bindOutputs (stableId : List String → VectorRecordId) (modelId : String) :
    List ActiveSearchProjection → List SearchPublicationEmbeddingOutput →
      Except ImportPipelineError (List VectorDocument)
  | [], outputs => do
      check (outputs = []) .storeInvariant
      return []
  | projection :: rest, outputs => do
      let output ← present
        (outputs.find? fun output => output.id = projection.resumeVersionId.asStr) .storeInvariant
      let document ← bindOutput stableId modelId projection output
      let documents ← bindOutputs stableId modelId rest
        (outputs.filter fun other => other.id ≠ projection.resumeVersionId.asStr)
      return document :: documents

/-- What is sent to the vectorizer for a pair. -/
def embeddingInput (versions : Table ResumeVersion.id) (staged : StagedSearchVersionTexts)
    (maxTextBytes : Nat) (projection : ActiveSearchProjection) :
    Except ImportPipelineError SearchPublicationEmbeddingInput := do
  let text ← projectionText versions staged projection
  check (text ≠ "") .storeInvariant
  check (text.utf8ByteSize ≤ maxTextBytes) .vectorIo
  return ⟨projection.resumeVersionId.asStr, text⟩

def embedProjections (stableId : List String → VectorRecordId) (versions : Table ResumeVersion.id)
    (projections : List ActiveSearchProjection) (staged : StagedSearchVersionTexts)
    (contract : VectorModelContract) (vectorization : Option SearchPublicationVectorizer) :
    Except ImportPipelineError (List VectorDocument) := do
  if projections = [] then return []
  let vectorizer ← present vectorization .vectorIo
  match contract with
  | .disabled => throw .storeInvariant
  | .enabled modelId dimension =>
      check (vectorizer.modelId = modelId ∧ vectorizer.dimension = dimension ∧
        0 < vectorizer.maxBatchInputs ∧ 0 < vectorizer.maxTextBytes) .storeInvariant
      let inputs ← projections.mapM (embeddingInput versions staged vectorizer.maxTextBytes)
      let outputs ← embedBatches vectorizer modelId dimension []
        (chunks vectorizer.maxBatchInputs inputs.length inputs)
      bindOutputs stableId modelId projections outputs

/-! ## Texts of a corpus -/

section Texts

variable {sha256 : List UInt8 → ContentDigest} {contentId : List String → ResumeVersionId}
  {corpus : Corpus sha256 contentId} {projection : ActiveSearchProjection} {text : String}
  {versions : Table ResumeVersion.id} {staged : StagedSearchVersionTexts}

/-- The pair is one of a document and a version of it, and this is the text to
embed for it. -/
def Reads (corpus : Corpus sha256 contentId) (projection : ActiveSearchProjection)
    (text : String) : Prop :=
  ∃ version, corpus.holds version ∧ version.id = projection.resumeVersionId ∧
    version.documentId = projection.documentId ∧ version.cleanText.map trim = some text

/-- The version alone determines the text. -/
theorem Reads.unique {other : ActiveSearchProjection} {text' : String}
    (reads : Reads corpus projection text) (reads' : Reads corpus other text')
    (same : projection.resumeVersionId = other.resumeVersionId) : text = text' := by
  obtain ⟨version, held, named, -, clean⟩ := reads
  obtain ⟨version', held', named', -, clean'⟩ := reads'
  have texts := (Corpus.eq_of_id held held' (named.trans (same.trans named'.symm))).2
  rw [texts] at clean
  exact Option.some.inj (clean.symm.trans clean')

/-- The index document of a version carries its clean text. -/
def Indexes (corpus : Corpus sha256 contentId) (document : IndexDocument) : Prop :=
  ∃ version, corpus.holds version ∧ document.resumeVersionId = version.id ∧
    document.docId = version.documentId ∧ version.cleanText = some document.cleanText

/-- Every staged text is the one of a version. -/
def Stages (corpus : Corpus sha256 contentId) (staged : StagedSearchVersionTexts) : Prop :=
  ∀ entry ∈ staged, ∃ version, corpus.holds version ∧ entry.resumeVersionId = version.id ∧
    entry.documentId = version.documentId ∧ version.cleanText = some entry.text

theorem stageTexts_ok {documents : List IndexDocument} {next : StagedSearchVersionTexts}
    (done : stageTexts staged documents = .ok next) (before : Stages corpus staged)
    (indexed : ∀ document ∈ documents, Indexes corpus document) : Stages corpus next := by
  induction documents generalizing staged with
  | nil =>
    cases done
    exact before
  | cons document rest ih =>
    simp only [stageTexts, bind_ok_iff, exists_const, check_eq_ok, present_eq_ok] at done
    obtain ⟨-, table, inserted, done⟩ := done
    refine ih done ?_ fun other member => indexed other (List.mem_cons_of_mem _ member)
    intro entry member
    obtain rfl | old := (Table.mem_insert? inserted).mp member
    · exact indexed document List.mem_cons_self
    · exact before entry old

theorem stagedSearchVersionTexts_ok {documents : List IndexDocument}
    (done : stagedSearchVersionTexts documents = .ok staged)
    (indexed : ∀ document ∈ documents, Indexes corpus document) : Stages corpus staged :=
  stageTexts_ok done (fun entry member => absurd member (Table.not_mem_empty entry)) indexed

/-- Staged or stored, the text is the one of the version. -/
theorem projectionText_ok (done : projectionText versions staged projection = .ok text)
    (stored : ∀ version ∈ versions, corpus.holds version) (stages : Stages corpus staged) :
    Reads corpus projection text := by
  unfold projectionText at done
  cases found : staged.find? projection.resumeVersionId with
  | some entry =>
    simp only [found, bind_ok_iff, exists_const, check_eq_ok] at done
    obtain ⟨owned, ⟨⟩⟩ := done
    obtain ⟨member, named⟩ := Table.find?_eq_some_iff.mp found
    obtain ⟨version, held, sameId, sameDocument, clean⟩ := stages entry member
    exact ⟨version, held, sameId.symm.trans named, sameDocument.symm.trans owned, by simp [clean]⟩
  | none =>
    simp only [found, bind_ok_iff, present_eq_ok, Option.filter_eq_some_iff] at done
    obtain ⟨version, ⟨there, owned⟩, read, -⟩ := done
    obtain ⟨member, named⟩ := Table.find?_eq_some_iff.mp there
    have held := stored version member
    obtain ⟨-, clean, hasText, -⟩ := Corpus.identity held
    refine ⟨version, held, named, of_decide_eq_true owned, ?_⟩
    rwa [hasText, Option.some_or, ← hasText] at read

end Texts

/-! ## What embedding gives -/

variable {batches : List (List SearchPublicationEmbeddingInput)}
  {vectorization : Option SearchPublicationVectorizer}
  {inputs : List SearchPublicationEmbeddingInput}

section Embedded

variable {stableId : List String → VectorRecordId} {versions : Table ResumeVersion.id}
  {staged : StagedSearchVersionTexts} {vectorizer : SearchPublicationVectorizer}
  {modelId : String} {dimension : Nat} {projections : List ActiveSearchProjection}
  {documents : List VectorDocument}
  {embedding : SearchPublicationEmbeddingInput → List F32}
  {outputs collected : List SearchPublicationEmbeddingOutput}

/-- Every output of a batch is the vector of one of its inputs, and the vector
depends on nothing but the input. -/
def SearchPublicationVectorizer.Computes (vectorizer : SearchPublicationVectorizer)
    (embedding : SearchPublicationEmbeddingInput → List F32) : Prop :=
  ∀ batch batchOutputs, vectorizer.embedBatch batch = .ok batchOutputs →
    ∀ output ∈ batchOutputs, ∃ input ∈ batch,
      output.id = input.id ∧ output.values = embedding input

theorem flatten_chunks {α : Type} {size : Nat} (positive : 0 < size) (fuel : Nat)
    (inputs : List α) (enough : inputs.length ≤ fuel) :
    (chunks size fuel inputs).flatten = inputs := by
  induction fuel generalizing inputs with
  | zero =>
    rw [List.length_eq_zero_iff.mp (Nat.le_zero.mp enough)]
    rfl
  | succ fuel ih =>
    cases inputs with
    | nil => rfl
    | cons input rest =>
      have shorter : ((input :: rest).drop size).length ≤ fuel := by
        simp only [List.length_drop] at enough ⊢
        omega
      rw [chunks, List.flatten_cons, ih _ shorter, List.take_append_drop]
      exact nofun

/-- An output of the right model and dimension. -/
def SearchPublicationEmbeddingOutput.Fits (modelId : String) (dimension : Nat)
    (output : SearchPublicationEmbeddingOutput) : Prop :=
  output.modelId = modelId ∧ output.values.length = dimension

theorem collectOutputs_ok {batchOutputs : List SearchPublicationEmbeddingOutput}
    (done : collectOutputs modelId dimension outputs batchOutputs = .ok collected) :
    collected = outputs ++ batchOutputs ∧
      ∀ output ∈ batchOutputs, output.Fits modelId dimension := by
  induction batchOutputs generalizing outputs with
  | nil =>
    cases done
    simp
  | cons output rest ih =>
    obtain ⟨⟨model, sized, -⟩, done⟩ := check_bind_eq_ok.mp done
    obtain ⟨rfl, others⟩ := ih done
    exact ⟨List.append_assoc .., List.forall_mem_cons.mpr ⟨⟨model, sized⟩, others⟩⟩

/-- Where the outputs come from: if every output of a batch is made from one of
its inputs, then every output that was collected is. -/
theorem embedBatches_ok
    {made : SearchPublicationEmbeddingInput → SearchPublicationEmbeddingOutput → Prop}
    (makes : ∀ batch batchOutputs, vectorizer.embedBatch batch = .ok batchOutputs →
      ∀ output ∈ batchOutputs, ∃ input ∈ batch, made input output)
    (done : embedBatches vectorizer modelId dimension outputs batches = .ok collected) :
    ∀ output ∈ collected, output ∈ outputs ∨ ∃ input ∈ batches.flatten, made input output := by
  induction batches generalizing outputs with
  | nil =>
    cases done
    exact fun output member => .inl member
  | cons batch rest ih =>
    obtain ⟨batchOutputs, answered, done⟩ := bind_ok_iff.mp done
    obtain ⟨_, done⟩ := check_bind_eq_ok.mp done
    obtain ⟨next, collects, done⟩ := bind_ok_iff.mp done
    have embedded := embeddingResult_eq_ok.mp answered
    intro output member
    obtain earlier | ⟨input, later, known⟩ := ih done output member
    · rw [(collectOutputs_ok collects).1] at earlier
      obtain old | new := List.mem_append.mp earlier
      · exact .inl old
      · obtain ⟨input, there, known⟩ := makes batch batchOutputs embedded output new
        exact .inr ⟨input, List.mem_append_left _ there, known⟩
    · exact .inr ⟨input, List.mem_append_right _ later, known⟩

theorem bindOutput_ok {projection : ActiveSearchProjection}
    {output : SearchPublicationEmbeddingOutput} {document : VectorDocument}
    (done : bindOutput stableId modelId projection output = .ok document) :
    document = ⟨⟨documentVectorId stableId modelId projection.resumeVersionId,
      projection.documentId, projection.resumeVersionId, modelId⟩, output.values⟩ := by
  simp only [bindOutput, bind_ok_iff, vectorResult_eq_ok, VectorDocumentIdentity.new,
    VectorDocument.new, exists_const, check_eq_ok] at done
  obtain ⟨_, ⟨-, -, -, -, -, ⟨⟩⟩, -, -, ⟨⟩⟩ := done
  rfl

/-- A document is made of a pair and of the output of its version. -/
theorem bindOutputs_ok (done : bindOutputs stableId modelId projections outputs = .ok documents) :
    List.Forall₂ (fun projection document => ∃ output ∈ outputs,
      output.id = projection.resumeVersionId.asStr ∧
        bindOutput stableId modelId projection output = .ok document)
      projections documents := by
  induction projections generalizing outputs documents with
  | nil =>
    obtain ⟨_, ⟨⟩⟩ := check_bind_eq_ok.mp done
    exact .nil
  | cons projection rest ih =>
    simp only [bindOutputs, bind_ok_iff, present_eq_ok] at done
    obtain ⟨output, found, document, made, others, bound, ⟨⟩⟩ := done
    have there := List.mem_of_find?_eq_some found
    have named : output.id = projection.resumeVersionId.asStr := by
      simpa using List.find?_some found
    refine .cons ⟨output, there, named, made⟩ ((ih bound).imp ?_)
    rintro other document ⟨later, member, same⟩
    exact ⟨later, List.mem_of_mem_filter member, same⟩

/-- The output of a version is used up, so no version is bound twice. -/
theorem bindOutputs_distinct
    (done : bindOutputs stableId modelId projections outputs = .ok documents) :
    (projections.map (·.resumeVersionId)).Nodup := by
  induction projections generalizing outputs documents with
  | nil => exact List.nodup_nil
  | cons projection rest ih =>
    simp only [bindOutputs, bind_ok_iff, present_eq_ok] at done
    obtain ⟨_, -, _, -, _, bound, ⟨⟩⟩ := done
    refine List.nodup_cons.mpr ⟨fun again => ?_, ih bound⟩
    obtain ⟨later, there, same⟩ := List.mem_map.mp again
    obtain ⟨_, -, output, left, named, -⟩ := exists_related_right (bindOutputs_ok bound) there
    simpa [named, same] using (List.mem_filter.mp left).2

theorem embeddingInput_ok {maxTextBytes : Nat} {projection : ActiveSearchProjection}
    {input : SearchPublicationEmbeddingInput}
    (done : embeddingInput versions staged maxTextBytes projection = .ok input) :
    input.id = projection.resumeVersionId.asStr ∧
      projectionText versions staged projection = .ok input.text := by
  simp only [embeddingInput, bind_ok_iff, exists_const, check_eq_ok] at done
  obtain ⟨text, read, -, -, ⟨⟩⟩ := done
  exact ⟨rfl, read⟩

/-- The vector document that embedding a pair gives. -/
def EmbeddingOf {sha256 : List UInt8 → ContentDigest} {contentId : List String → ResumeVersionId}
    (stableId : List String → VectorRecordId) (corpus : Corpus sha256 contentId)
    (embedding : SearchPublicationEmbeddingInput → List F32) (modelId : String)
    (projection : ActiveSearchProjection) (document : VectorDocument) : Prop :=
  ∃ text, Reads corpus projection text ∧
    document = ⟨⟨documentVectorId stableId modelId projection.resumeVersionId,
      projection.documentId, projection.resumeVersionId, modelId⟩,
      embedding ⟨projection.resumeVersionId.asStr, text⟩⟩

section Corpora

variable {sha256 : List UInt8 → ContentDigest} {contentId : List String → ResumeVersionId}
  {corpus : Corpus sha256 contentId} {projection : ActiveSearchProjection}
  {document other : VectorDocument}

theorem EmbeddingOf.pair_eq
    (made : EmbeddingOf stableId corpus embedding modelId projection document) :
    document.pair = projection := by
  obtain ⟨text, -, rfl⟩ := made
  rfl

/-- The pair determines the document. -/
theorem EmbeddingOf.unique
    (made : EmbeddingOf stableId corpus embedding modelId projection document)
    (made' : EmbeddingOf stableId corpus embedding modelId projection other) :
    document = other := by
  obtain ⟨text, reads, rfl⟩ := made
  obtain ⟨text', reads', rfl⟩ := made'
  rw [reads.unique reads' rfl]

/-- The checks that embedding a projection with pairs makes before it asks the
vectorizer, and what it then does. -/
theorem embedProjections_eq_ok {contract : VectorModelContract} (nonempty : projections ≠ []) :
    embedProjections stableId versions projections staged contract vectorization = .ok documents ↔
      ∃ vectorizer inputs outputs, vectorization = some vectorizer ∧
        contract = .enabled vectorizer.modelId vectorizer.dimension ∧
        0 < vectorizer.maxBatchInputs ∧ 0 < vectorizer.maxTextBytes ∧
        projections.mapM (embeddingInput versions staged vectorizer.maxTextBytes) = .ok inputs ∧
        embedBatches vectorizer vectorizer.modelId vectorizer.dimension []
          (chunks vectorizer.maxBatchInputs inputs.length inputs) = .ok outputs ∧
        bindOutputs stableId vectorizer.modelId projections outputs = .ok documents := by
  unfold embedProjections
  rw [if_neg nonempty]
  cases vectorization with
  | none => simp [present, bind, Except.bind]
  | some vectorizer =>
    cases contract with
    | disabled => simp [present, bind, Except.bind]
    | enabled modelId dimension =>
      simp only [present, bind_ok_iff, check_eq_ok, exists_const, Option.some.injEq,
        VectorModelContract.enabled.injEq, Except.ok.injEq]
      constructor
      · rintro ⟨_, rfl, ⟨rfl, rfl, batch, bytes⟩, inputs, read, outputs, embedded, bound⟩
        exact ⟨_, inputs, outputs, rfl, ⟨rfl, rfl⟩, batch, bytes, read, embedded, bound⟩
      · rintro ⟨_, inputs, outputs, rfl, ⟨rfl, rfl⟩, batch, bytes, read, embedded, bound⟩
        exact ⟨_, rfl, ⟨rfl, rfl, batch, bytes⟩, inputs, read, outputs, embedded, bound⟩

/-- Embedding a projection gives the document of each of its pairs. -/
theorem embedProjections_ok
    (done : embedProjections stableId versions projections staged (.enabled modelId dimension)
      vectorization = .ok documents)
    (computes : ∀ vectorizer ∈ vectorization, vectorizer.Computes embedding)
    (stored : ∀ version ∈ versions, corpus.holds version) (stages : Stages corpus staged) :
    List.Forall₂ (EmbeddingOf stableId corpus embedding modelId) projections documents := by
  by_cases empty : projections = []
  · subst empty
    cases done
    exact .nil
  obtain ⟨vectorizer, inputs, outputs, rfl, same, batch, -, read, embedded, bound⟩ :=
    (embedProjections_eq_ok empty).mp done
  cases same
  have inputsOf := mapM_eq_ok.mp read
  have produced := embedBatches_ok (computes vectorizer rfl) embedded
  rw [flatten_chunks batch _ _ le_rfl] at produced
  have readable : ∀ projection ∈ projections, ∃ text, Reads corpus projection text := by
    intro projection member
    obtain ⟨input, -, known⟩ := exists_related_right inputsOf member
    exact ⟨_, projectionText_ok (embeddingInput_ok known).2 stored stages⟩
  refine ((List.forall₂_and_left _ _).mpr ⟨readable, bindOutputs_ok bound⟩).imp ?_
  rintro projection document ⟨⟨text, reads⟩, output, member, named, made⟩
  obtain old | ⟨input, sent, sameId, values⟩ := produced output member
  · cases old
  -- The input may be the one of another pair, but then the two have one version.
  obtain ⟨source, -, known⟩ := exists_related_left inputsOf sent
  obtain ⟨inputId, sourceText⟩ := embeddingInput_ok known
  have sameVersion : source.resumeVersionId = projection.resumeVersionId :=
    StableId.ext_asStr (inputId.symm.trans (sameId.symm.trans named))
  have sameText : input.text = text :=
    (projectionText_ok sourceText stored stages).unique reads sameVersion
  refine ⟨text, reads, ?_⟩
  rw [bindOutput_ok made, values, ← sameText, ← named, sameId]

end Corpora

/-! ## Embedding a part of a projection

A vectorizer that embeds every input on its own succeeds on any part of what it
has succeeded on. -/

section Parts

variable {embed : SearchPublicationEmbeddingInput →
  Except SearchPublicationEmbeddingFailure SearchPublicationEmbeddingOutput}

/-- Each input of a batch is embedded on its own, and its output keeps its id. -/
structure SearchPublicationVectorizer.Pointwise (vectorizer : SearchPublicationVectorizer)
    (embed : SearchPublicationEmbeddingInput →
      Except SearchPublicationEmbeddingFailure SearchPublicationEmbeddingOutput) : Prop where
  batch : ∀ batch, vectorizer.embedBatch batch = batch.mapM embed
  id : ∀ input output, embed input = .ok output → output.id = input.id

theorem map_id_eq
    {relates : SearchPublicationEmbeddingInput → SearchPublicationEmbeddingOutput → Prop}
    (pairs : List.Forall₂ relates inputs outputs)
    (ids : ∀ input output, relates input output → output.id = input.id) :
    outputs.map (·.id) = inputs.map (·.id) := by
  induction pairs with
  | nil => rfl
  | cons here _ ih => rw [List.map_cons, List.map_cons, ids _ _ here, ih]

theorem collectOutputs_of_fits {batchOutputs : List SearchPublicationEmbeddingOutput}
    (fits : ∀ output ∈ batchOutputs, output.Fits modelId dimension)
    (distinct : (outputs.map (·.id) ++ batchOutputs.map (·.id)).Nodup) :
    collectOutputs modelId dimension outputs batchOutputs = .ok (outputs ++ batchOutputs) := by
  induction batchOutputs generalizing outputs with
  | nil => simp [collectOutputs]
  | cons output rest ih =>
    obtain ⟨here, later⟩ := List.forall_mem_cons.mp fits
    have fresh : output.id ∉ outputs.map (·.id) := by
      intro old
      exact (List.nodup_append.mp distinct).2.2 _ old _ List.mem_cons_self rfl
    have moved : ((outputs ++ [output]).map (·.id) ++ rest.map (·.id)).Nodup := by
      simpa using distinct
    refine check_bind_eq_ok.mpr ⟨⟨here.1, here.2, fresh⟩, ?_⟩
    rw [ih later moved, List.append_assoc]
    rfl

/-- Every input of the batches has an output that fits. -/
theorem embedBatches_pointwise (pointwise : vectorizer.Pointwise embed)
    (done : embedBatches vectorizer modelId dimension outputs batches = .ok collected) :
    (∀ output ∈ outputs, output ∈ collected) ∧ ∀ input ∈ batches.flatten,
      ∃ output ∈ collected, embed input = .ok output ∧ output.Fits modelId dimension := by
  induction batches generalizing outputs with
  | nil =>
    cases done
    exact ⟨fun output member => member, nofun⟩
  | cons batch rest ih =>
    obtain ⟨batchOutputs, answered, done⟩ := bind_ok_iff.mp done
    obtain ⟨_, done⟩ := check_bind_eq_ok.mp done
    obtain ⟨next, collects, done⟩ := bind_ok_iff.mp done
    obtain ⟨rfl, fits⟩ := collectOutputs_ok collects
    obtain ⟨kept, later⟩ := ih done
    rw [embeddingResult_eq_ok, pointwise.batch] at answered
    refine ⟨fun output member => kept output (List.mem_append_left _ member), ?_⟩
    intro input member
    obtain here | there := List.mem_append.mp member
    · obtain ⟨output, made, known⟩ := exists_related_right (mapM_eq_ok.mp answered) here
      exact ⟨output, kept output (List.mem_append_right _ made), known, fits output made⟩
    · exact later input there

theorem embedBatches_of_pointwise (pointwise : vectorizer.Pointwise embed)
    (each : ∀ input ∈ batches.flatten,
      ∃ output, embed input = .ok output ∧ output.Fits modelId dimension)
    (distinct : (outputs.map (·.id) ++ batches.flatten.map (·.id)).Nodup) :
    ∃ more, embedBatches vectorizer modelId dimension outputs batches = .ok (outputs ++ more) ∧
      List.Forall₂ (fun input output => embed input = .ok output) batches.flatten more := by
  induction batches generalizing outputs with
  | nil => exact ⟨[], by simp [embedBatches], .nil⟩
  | cons batch rest ih =>
    rw [List.flatten_cons] at each distinct
    obtain ⟨batchOutputs, embedded⟩ := exists_mapM_eq_ok fun input member =>
      (each input (List.mem_append_left _ member)).imp fun output known => known.1
    have pairs := mapM_eq_ok.mp embedded
    have fits : ∀ output ∈ batchOutputs, output.Fits modelId dimension := by
      intro output member
      obtain ⟨input, sent, known⟩ := exists_related_left pairs member
      obtain ⟨other, known', fit⟩ := each input (List.mem_append_left _ sent)
      cases known.symm.trans known'
      exact fit
    have ids := map_id_eq pairs pointwise.id
    have first : (outputs.map (·.id) ++ batchOutputs.map (·.id)).Nodup := by
      rw [ids]
      rw [List.map_append, ← List.append_assoc] at distinct
      exact (List.nodup_append.mp distinct).1
    have second : ((outputs ++ batchOutputs).map (·.id) ++ rest.flatten.map (·.id)).Nodup := by
      rw [List.map_append, ids, List.append_assoc, ← List.map_append]
      exact distinct
    obtain ⟨more, done, later⟩ := ih
      (fun input member => each input (List.mem_append_right _ member)) second
    refine ⟨batchOutputs ++ more, ?_, ?_⟩
    · rw [← List.append_assoc]
      refine bind_ok_iff.mpr ⟨batchOutputs, ?_, check_bind_eq_ok.mpr ⟨pairs.length_eq.symm, ?_⟩⟩
      · rw [embeddingResult_eq_ok, pointwise.batch, embedded]
      · exact bind_ok_iff.mpr ⟨_, collectOutputs_of_fits fits first, done⟩
    · exact List.rel_append pairs later

theorem bindOutputs_of_each
    (pairs : List.Forall₂ (fun projection output =>
      output.id = projection.resumeVersionId.asStr) projections outputs)
    (distinct : (projections.map (·.resumeVersionId)).Nodup)
    (each : ∀ projection ∈ projections, ∀ output ∈ outputs,
      output.id = projection.resumeVersionId.asStr →
        ∃ document, bindOutput stableId modelId projection output = .ok document) :
    ∃ documents, bindOutputs stableId modelId projections outputs = .ok documents := by
  induction pairs with
  | nil => exact ⟨[], rfl⟩
  | @cons projection output rest others named pairs ih =>
    rw [List.map_cons, List.nodup_cons] at distinct
    have found : (output :: others).find? (fun output =>
        output.id = projection.resumeVersionId.asStr) = some output :=
      List.find?_cons_of_pos (by simpa using named)
    have left : (output :: others).filter (fun other =>
        other.id ≠ projection.resumeVersionId.asStr) = others := by
      rw [List.filter_cons_of_neg (by simpa using named), List.filter_eq_self]
      intro other member
      obtain ⟨owner, there, owned⟩ := exists_related_left pairs member
      have apart : other.id ≠ projection.resumeVersionId.asStr := by
        intro same
        have versions := StableId.ext_asStr (owned.symm.trans same)
        exact distinct.1 (List.mem_map.mpr ⟨owner, there, versions⟩)
      simpa using apart
    obtain ⟨document, made⟩ := each projection List.mem_cons_self output List.mem_cons_self named
    obtain ⟨documents, bound⟩ := ih distinct.2 fun owner there other member =>
      each owner (List.mem_cons_of_mem _ there) other (List.mem_cons_of_mem _ member)
    refine ⟨document :: documents, ?_⟩
    simp only [bindOutputs, bind_ok_iff, present_eq_ok]
    exact ⟨output, found, document, made, documents, by rw [left, bound], rfl⟩

theorem embeddingInputs_ids {maxTextBytes : Nat}
    (read : projections.mapM (embeddingInput versions staged maxTextBytes) = .ok inputs) :
    inputs.map (·.id) = projections.map (·.resumeVersionId.asStr) := by
  rw [← List.forall₂_eq_eq_eq, List.forall₂_map_left_iff, List.forall₂_map_right_iff]
  exact List.Forall₂.flip ((mapM_eq_ok.mp read).imp fun _ _ known => (embeddingInput_ok known).1)

theorem versionTexts_nodup (distinct : (projections.map (·.resumeVersionId)).Nodup) :
    (projections.map (·.resumeVersionId.asStr)).Nodup := by
  have texts : (projections.map (·.resumeVersionId)).map (·.asStr) =
      projections.map (·.resumeVersionId.asStr) := List.map_map
  rw [← texts]
  exact distinct.map fun _ _ => StableId.ext_asStr

/-- The inputs of a part of a projection are among those of the whole. -/
theorem embeddingInputs_of_subset {maxTextBytes : Nat} {part : List ActiveSearchProjection}
    (read : projections.mapM (embeddingInput versions staged maxTextBytes) = .ok inputs)
    (inside : part ⊆ projections) :
    ∃ partInputs, part.mapM (embeddingInput versions staged maxTextBytes) = .ok partInputs ∧
      partInputs ⊆ inputs := by
  have source : ∀ projection ∈ part, ∃ input ∈ inputs,
      embeddingInput versions staged maxTextBytes projection = .ok input :=
    fun projection member => exists_related_right (mapM_eq_ok.mp read) (inside member)
  obtain ⟨partInputs, partRead⟩ := exists_mapM_eq_ok fun projection member =>
    (source projection member).imp fun input known => known.2
  refine ⟨partInputs, partRead, fun input member => ?_⟩
  obtain ⟨projection, there, known⟩ := exists_related_left (mapM_eq_ok.mp partRead) member
  obtain ⟨other, held, known'⟩ := source projection there
  cases known.symm.trans known'
  exact held

/-- What was embedded as a part of a projection can be embedded on its own. -/
theorem embedProjections_of_subset {contract : VectorModelContract}
    {part : List ActiveSearchProjection}
    (done : embedProjections stableId versions projections staged contract vectorization =
      .ok documents)
    (pointwise : ∀ vectorizer ∈ vectorization, ∃ embed, vectorizer.Pointwise embed)
    (inside : part ⊆ projections) (partDistinct : (part.map (·.resumeVersionId)).Nodup) :
    ∃ others, embedProjections stableId versions part staged contract vectorization =
      .ok others := by
  by_cases empty : part = []
  · subst empty
    exact ⟨[], rfl⟩
  have nonempty : projections ≠ [] := by
    rintro rfl
    exact empty (List.subset_nil.mp inside)
  obtain ⟨vectorizer, inputs, outputs, rfl, rfl, batch, bytes, read, embedded, bound⟩ :=
    (embedProjections_eq_ok nonempty).mp done
  obtain ⟨embed, pointwise⟩ := pointwise vectorizer rfl
  have answered := (embedBatches_pointwise pointwise embedded).2
  rw [flatten_chunks batch _ _ le_rfl] at answered
  have inputsOnce : (inputs.map (·.id)).Nodup := by
    rw [embeddingInputs_ids read]
    exact versionTexts_nodup (bindOutputs_distinct bound)
  have origin : ∀ output ∈ outputs, ∃ input ∈ inputs, embed input = .ok output := by
    intro output member
    obtain old | made := embedBatches_ok (fun batch batchOutputs done output member => by
      rw [pointwise.batch] at done
      exact exists_related_left (mapM_eq_ok.mp done) member) embedded output member
    · cases old
    · rwa [flatten_chunks batch _ _ le_rfl] at made
  obtain ⟨partInputs, partRead, sent⟩ := embeddingInputs_of_subset read inside
  have whole : (chunks vectorizer.maxBatchInputs partInputs.length partInputs).flatten =
      partInputs := flatten_chunks batch _ _ le_rfl
  have embeddedPart : ∃ more, embedBatches vectorizer vectorizer.modelId vectorizer.dimension []
        (chunks vectorizer.maxBatchInputs partInputs.length partInputs) = .ok ([] ++ more) ∧
      List.Forall₂ (fun input output => embed input = .ok output)
        (chunks vectorizer.maxBatchInputs partInputs.length partInputs).flatten more := by
    refine embedBatches_of_pointwise pointwise ?_ ?_
    · intro input member
      rw [whole] at member
      obtain ⟨output, -, known, fits⟩ := answered input (sent member)
      exact ⟨output, known, fits⟩
    · rw [whole, embeddingInputs_ids partRead]
      exact versionTexts_nodup partDistinct
  obtain ⟨partOutputs, partEmbedded, partPairs⟩ := embeddedPart
  rw [whole] at partPairs
  have boundPart : ∃ others, bindOutputs stableId vectorizer.modelId part partOutputs =
      .ok others := by
    refine bindOutputs_of_each ?_ partDistinct ?_
    · have ids := (map_id_eq partPairs pointwise.id).trans (embeddingInputs_ids partRead)
      rw [← List.forall₂_eq_eq_eq, List.forall₂_map_left_iff, List.forall₂_map_right_iff] at ids
      exact ids.flip
    · intro projection member output made named
      obtain ⟨document, -, other, held, sameId, whole⟩ :=
        exists_related_right (bindOutputs_ok bound) (inside member)
      -- In the whole the pair was bound to the same output, since ids are distinct.
      obtain ⟨input, there, known⟩ := exists_related_left partPairs made
      obtain ⟨input', there', known'⟩ := origin other held
      have sameInput : input = input' := by
        refine List.inj_on_of_nodup_map inputsOnce (sent there) there' ?_
        rw [← pointwise.id _ _ known, ← pointwise.id _ _ known', named, sameId]
      subst sameInput
      cases known.symm.trans known'
      exact ⟨document, whole⟩
  obtain ⟨others, boundPart⟩ := boundPart
  exact ⟨others, (embedProjections_eq_ok empty).mpr ⟨vectorizer, partInputs, partOutputs, rfl, rfl,
    batch, bytes, partRead, partEmbedded, boundPart⟩⟩

/-- **The size of the batches does not matter.** A vectorizer that embeds every
input on its own gives the same documents in batches of any other size. -/
theorem embedding_ignores_batch_size {contract : VectorModelContract} {size : Nat}
    (pointwise : vectorizer.Pointwise embed) (positive : 0 < size)
    (done : embedProjections stableId versions projections staged contract (some vectorizer) =
      .ok documents) :
    embedProjections stableId versions projections staged contract
      (some { vectorizer with maxBatchInputs := size }) = .ok documents := by
  obtain rfl | nonempty := eq_or_ne projections []
  · exact done
  obtain ⟨_, inputs, outputs, ⟨⟩, rfl, batch, bytes, read, embedded, bound⟩ :=
    (embedProjections_eq_ok nonempty).mp done
  have answered := (embedBatches_pointwise pointwise embedded).2
  rw [flatten_chunks batch _ _ le_rfl] at answered
  -- Whatever the size, the outputs are those of the inputs one by one.
  have outputsOf : ∀ size, 0 < size → ∃ more, inputs.mapM embed = .ok more ∧
      embedBatches { vectorizer with maxBatchInputs := size } vectorizer.modelId
        vectorizer.dimension [] (chunks size inputs.length inputs) = .ok more := by
    intro size positive
    have alone : { vectorizer with maxBatchInputs := size }.Pointwise embed :=
      ⟨pointwise.batch, pointwise.id⟩
    have whole := flatten_chunks positive inputs.length inputs le_rfl
    have once : (([] : List SearchPublicationEmbeddingOutput).map (·.id) ++
        (chunks size inputs.length inputs).flatten.map (·.id)).Nodup := by
      rw [whole, embeddingInputs_ids read]
      exact versionTexts_nodup (bindOutputs_distinct bound)
    obtain ⟨more, ok, pairs⟩ := embedBatches_of_pointwise alone
      (fun input member => (answered input (whole ▸ member)).imp fun _ known => known.2) once
    exact ⟨more, mapM_eq_ok.mpr (whole ▸ pairs), ok⟩
  obtain ⟨_, first, again⟩ := outputsOf _ batch
  obtain ⟨_, second, resized⟩ := outputsOf size positive
  cases embedded.symm.trans again
  cases first.symm.trans second
  exact (embedProjections_eq_ok nonempty).mpr
    ⟨_, inputs, _, rfl, rfl, positive, bytes, read, resized, bound⟩

end Parts

end Embedded

end ResumeIr.ImportPipeline
