import ResumeIr.Foundation.Machine
import ResumeIr.ImportPipeline.VectorPublication

/-!
# Histories of a data directory

A data directory goes through publications, recoveries and collections of old
generations, with crashes in between. This module has the part of it that the
vectors of a publication depend on, as a machine: the stored resume versions,
the vector generations, the committed head, and a publication that is prepared
but not yet committed.

Whatever the history is, every vector in the directory is the one that embedding
its pair would give now, and the generation of the head has the projection of
the head (`Consistent`). So a generation derived from the head is the one that
embedding everything from scratch would give (`incremental_publication_agrees`).

The embedding is a function of the model and the input. A vectorizer that also
looks at the rest of its batch is deterministic too, but then the two generations
differ (`batch_dependent_vectorizer_disagrees`).
-/

namespace ResumeIr.ImportPipeline

open CoreDomain IndexVector MetaStore Foundation
  Foundation.Fallible

/-! ## The directory -/

structure DataDirectory where
  versions : Table ResumeVersion.id
  vectors : VectorDirectory
  head : SearchPublicationBase
  prepared : Option SearchPublicationBase

/-- The base of the first publication and of a migration rebuild. -/
def migrationRebuildBase : SearchPublicationBase := ⟨none, [], .disabled⟩

/-- A directory in which nothing has happened yet. -/
def DataDirectory.new : DataDirectory := ⟨.empty, .empty, migrationRebuildBase, none⟩

inductive HistoryEvent where
  | insertVersion (version : ResumeVersion)
  | publish (generation : String) (replacements : List IndexDocument) (removals : List String)
      (vectorization : Option SearchPublicationVectorizer)
  | rebuild (generation : String) (documents : List IndexDocument)
      (vectorization : Option SearchPublicationVectorizer)
  | recover (generation : String)
  | commit
  | abandon
  | removeGeneration (generation : String)

section Steps

variable (sha256 : List UInt8 → ContentDigest) (contentId : List String → ResumeVersionId)
  (stableId : List String → VectorRecordId)

variable (directory : DataDirectory)

/-- The vector part of `publish_incremental_search_artifacts`: texts are staged,
the next projection is derived from the base, and a generation is written for
it. -/
def publishSearchArtifacts (base : SearchPublicationBase) (generation : String)
    (replacements : List IndexDocument) (removals : List String)
    (vectorization : Option SearchPublicationVectorizer) : Except ImportPipelineError
    (SearchPublicationBase × VectorSnapshotSummary × VectorDirectory) := do
  let staged ← stagedSearchVersionTexts replacements
  let projections ← projectionsAfterDelta base.projections replacements removals
  let (summary, vectors) ← publishVectorGeneration sha256 stableId directory.vectors
    directory.versions generation base projections staged vectorization
  return (⟨some generation, projections, summary.modelContract⟩, summary, vectors)

/-- The generation of a publication is new: the journal knows the one of the
head and refuses to begin it again. -/
def prepare (directory : DataDirectory) (base : SearchPublicationBase) (generation : String)
    (replacements : List IndexDocument) (removals : List String)
    (vectorization : Option SearchPublicationVectorizer) : Option DataDirectory := do
  guard (directory.head.generation ≠ some generation)
  let (next, _, vectors) ← (publishSearchArtifacts sha256 stableId directory base generation
    replacements removals vectorization).toOption
  return { directory with vectors, prepared := some next }

/-- A complete generation that no publication names is taken over, if it has
exactly the projection of the head. -/
def recoverOrphan (generation : String) : Option DataDirectory := do
  guard (directory.head.generation ≠ some generation)
  let reader ← (openGeneration sha256 directory.vectors generation
    directory.head.vectorContract).toOption
  guard (reader.projection = directory.head.projections)
  return { directory with prepared := some { directory.head with generation := some generation } }

/-- What an event does to the directory, if it can happen. -/
def DataDirectory.next : HistoryEvent → Option DataDirectory
  | .insertVersion version =>
      (insertResumeVersion sha256 contentId directory.versions version).toOption.map
        fun inserted => { directory with versions := inserted.2 }
  | .publish generation replacements removals vectorization =>
      prepare sha256 stableId directory directory.head generation replacements removals
        vectorization
  | .rebuild generation documents vectorization =>
      prepare sha256 stableId directory migrationRebuildBase generation documents [] vectorization
  | .recover generation => recoverOrphan sha256 directory generation
  | .commit => directory.prepared.map fun base => { directory with head := base, prepared := none }
  | .abandon => some { directory with prepared := none }
  | .removeGeneration generation =>
      some { directory with vectors := directory.vectors.delete (·.generation = generation) }

/-- What a list of events leads to. -/
def DataDirectory.after (events : List HistoryEvent) : Option DataDirectory :=
  events.foldlM (DataDirectory.next sha256 contentId stableId) directory

end Steps

/-! ## The machine -/

section Machine

variable {sha256 : List UInt8 → ContentDigest} {contentId : List String → ResumeVersionId}

/-- Versions come from the corpus, the text given to search is the one of a
version, and vectorizers compute the embedding of their model. -/
def Admissible (corpus : Corpus sha256 contentId)
    (embedding : String → Nat → SearchPublicationEmbeddingInput → List F32) :
    HistoryEvent → Prop
  | .insertVersion version => corpus.holds version
  | .publish _ documents _ vectorization | .rebuild _ documents vectorization =>
      (∀ document ∈ documents, Indexes corpus document) ∧
        ∀ vectorizer ∈ vectorization,
          vectorizer.Computes (embedding vectorizer.modelId vectorizer.dimension)
  | _ => True

def vectorHistory (stableId : List String → VectorRecordId) (corpus : Corpus sha256 contentId)
    (embedding : String → Nat → SearchPublicationEmbeddingInput → List F32) :
    Machine DataDirectory HistoryEvent where
  start directory := directory = .new
  step directory event next := Admissible corpus embedding event ∧
    directory.next sha256 contentId stableId event = some next

end Machine

/-! ## What every history keeps -/

section Histories

variable {sha256 : List UInt8 → ContentDigest} {contentId : List String → ResumeVersionId}
  {corpus : Corpus sha256 contentId} {stableId : List String → VectorRecordId}
  {embedding : String → Nat → SearchPublicationEmbeddingInput → List F32}
  {directory next : DataDirectory} {base : SearchPublicationBase} {vectors : VectorDirectory}
  {generation : String} {vectorization : Option SearchPublicationVectorizer}

/-- The generation of a base has the projection of the base. -/
def Backed (vectors : VectorDirectory) (base : SearchPublicationBase) : Prop :=
  ∀ generation ∈ base.generation, ∀ snapshot ∈ vectors.find? generation,
    snapshot.projection.Perm base.projections

/-- Every vector is the one that embedding its pair under its model gives. -/
def FaithfulSnapshot (stableId : List String → VectorRecordId) (corpus : Corpus sha256 contentId)
    (embedding : String → Nat → SearchPublicationEmbeddingInput → List F32)
    (snapshot : VectorSnapshot) : Prop :=
  ∀ modelId dimension, snapshot.modelContract = .enabled modelId dimension →
    Faithful stableId corpus (embedding modelId dimension) modelId snapshot.documents

structure Consistent (stableId : List String → VectorRecordId) (corpus : Corpus sha256 contentId)
    (embedding : String → Nat → SearchPublicationEmbeddingInput → List F32)
    (directory : DataDirectory) : Prop where
  stored : ∀ version ∈ directory.versions, corpus.holds version
  faithful : ∀ snapshot ∈ directory.vectors, FaithfulSnapshot stableId corpus embedding snapshot
  head : Backed directory.vectors directory.head
  prepared : ∀ base ∈ directory.prepared, Backed directory.vectors base

/-- A base that covers its projection is one that the next generation can be
derived from. -/
theorem coveredBase_derivable {reader : VectorSnapshot} {modelId : String} {dimension : Nat}
    (covered : coveredBase sha256 vectors base (.enabled modelId dimension) = some reader)
    (faithful : ∀ snapshot ∈ vectors, FaithfulSnapshot stableId corpus embedding snapshot)
    (backed : Backed vectors base) :
    Derivable stableId corpus (embedding modelId dimension) modelId dimension base.projections
      reader := by
  simp only [coveredBase, Option.bind_eq_bind, Option.bind_eq_some_iff, Option.guard_eq_some',
    toOption_eq_some, exists_const] at covered
  obtain ⟨generation, named, -, reader, opened, ⟨count, -⟩, ⟨⟩⟩ := covered
  obtain ⟨snapshot, found, contract, rfl, fit, summarizes⟩ := openGeneration_ok opened
  have same := backed generation named snapshot found
  exact {
    contract := summarizes.ofContract
    fit := fit.perm ((List.perm_insertionSort pairLe snapshot.projection).trans same)
    full := summarizes.vectorDocumentCount.symm.trans count
    faithful := faithful snapshot (Table.find?_eq_some_iff.mp found).1 modelId dimension contract }

theorem targetContract_ok {modelId : String} {dimension : Nat}
    (done : targetContract base vectorization = .ok (.enabled modelId dimension)) :
    ∀ vectorizer ∈ vectorization, vectorizer.modelId = modelId ∧ vectorizer.dimension = dimension := by
  rintro vectorizer ⟨⟩
  simp only [targetContract, bind_ok_iff] at done
  obtain ⟨-, -, ⟨⟩⟩ := done
  exact ⟨rfl, rfl⟩

/-- One generation is added, with the vectors that embedding gives. -/
theorem publishVectorGeneration_ok {versions : Table ResumeVersion.id}
    {projections : List ActiveSearchProjection} {staged : StagedSearchVersionTexts}
    {summary : VectorSnapshotSummary} {published : VectorDirectory}
    (done : publishVectorGeneration sha256 stableId vectors versions generation base projections
      staged vectorization = .ok (summary, published))
    (computes : ∀ vectorizer ∈ vectorization,
      vectorizer.Computes (embedding vectorizer.modelId vectorizer.dimension))
    (stored : ∀ version ∈ versions, corpus.holds version) (stages : Stages corpus staged)
    (faithful : ∀ snapshot ∈ vectors, FaithfulSnapshot stableId corpus embedding snapshot)
    (backed : Backed vectors base) :
    ∃ snapshot, vectors.insert? snapshot = some published ∧ snapshot.generation = generation ∧
      snapshot.projection = sorted projections ∧
      FaithfulSnapshot stableId corpus embedding snapshot := by
  obtain ⟨contract, target, done⟩ := bind_ok_iff.mp done
  obtain ⟨_, _, done⟩ := bind_ok_iff.mp done
  cases contract with
  | disabled =>
    have inserted := publishGeneration_inserted (vectorResult_eq_ok.mp done)
    exact ⟨_, inserted, rfl, rfl, fun _ _ enabled => by cases enabled⟩
  | enabled modelId dimension =>
    have computes' : ∀ vectorizer ∈ vectorization,
        vectorizer.Computes (embedding modelId dimension) := by
      intro vectorizer given
      obtain ⟨rfl, rfl⟩ := targetContract_ok target vectorizer given
      exact computes vectorizer given
    cases covered : coveredBase sha256 vectors base (.enabled modelId dimension) with
    | none =>
      simp only [covered] at done
      obtain ⟨documents, embedded, written⟩ := publishFromScratch_ok done
      refine ⟨_, written.inserted, rfl, rfl, fun _ _ enabled => ?_⟩
      cases enabled
      exact (Embedded.of_forall₂ (embedProjections_ok embedded computes' stored stages)).faithful
    | some reader =>
      simp only [covered] at done
      obtain ⟨replacements, embedded, written⟩ := publishFromBase_ok done
      refine ⟨_, written.inserted, rfl, rfl, fun _ _ enabled => ?_⟩
      cases enabled
      have derivable := coveredBase_derivable covered faithful backed
      intro document member
      -- A document comes from the base or is one of the replacements.
      obtain old | new := List.mem_append.mp member
      · exact derivable.faithful document (List.mem_of_mem_filter old)
      · exact (Embedded.of_forall₂
          (embedProjections_ok embedded computes' stored stages)).faithful document new

theorem Backed.insert {snapshot : VectorSnapshot} {published : VectorDirectory}
    (backed : Backed vectors base) (inserted : vectors.insert? snapshot = some published)
    (other : base.generation ≠ some snapshot.generation) : Backed published base := by
  intro generation named found there
  rw [Table.find?_insert? inserted, if_neg] at there
  · exact backed generation named found there
  · rintro rfl
    exact other named

theorem prepare_consistent {documents : List IndexDocument} {removals : List String}
    (done : prepare sha256 stableId directory base generation documents removals vectorization =
      some next)
    (indexed : ∀ document ∈ documents, Indexes corpus document)
    (computes : ∀ vectorizer ∈ vectorization,
      vectorizer.Computes (embedding vectorizer.modelId vectorizer.dimension))
    (backed : Backed directory.vectors base)
    (consistent : Consistent stableId corpus embedding directory) :
    Consistent stableId corpus embedding next := by
  simp only [prepare, publishSearchArtifacts, Option.bind_eq_bind, Option.bind_eq_some_iff,
    Option.guard_eq_some', toOption_eq_some, exists_const, bind_ok_iff] at done
  obtain ⟨fresh, _, ⟨staged, stages, projections, -, ⟨summary, published⟩, written, ⟨⟩⟩, ⟨⟩⟩ := done
  obtain ⟨snapshot, inserted, rfl, projected, faithful⟩ := publishVectorGeneration_ok written computes
    consistent.stored (stagedSearchVersionTexts_ok stages indexed) consistent.faithful backed
  refine ⟨consistent.stored, ?_, consistent.head.insert inserted fresh, ?_⟩
  · intro other member
    obtain rfl | old := (Table.mem_insert? inserted).mp member
    · exact faithful
    · exact consistent.faithful other old
  · rintro _ ⟨⟩ _ ⟨⟩ found there
    cases (Table.find?_inserted inserted).symm.trans there
    rw [projected]
    exact List.perm_insertionSort pairLe projections

theorem recoverOrphan_consistent
    (done : recoverOrphan sha256 directory generation = some next)
    (consistent : Consistent stableId corpus embedding directory) :
    Consistent stableId corpus embedding next := by
  simp only [recoverOrphan, Option.bind_eq_bind, Option.bind_eq_some_iff, Option.guard_eq_some',
    toOption_eq_some, exists_const] at done
  obtain ⟨-, reader, opened, same, ⟨⟩⟩ := done
  obtain ⟨snapshot, there, rfl⟩ := openGeneration_opened opened
  refine ⟨consistent.stored, consistent.faithful, consistent.head, ?_⟩
  rintro _ ⟨⟩ _ ⟨⟩ _ found
  cases there.symm.trans found
  exact (List.perm_insertionSort pairLe snapshot.projection).symm.trans (.of_eq same)

theorem next_consistent {event : HistoryEvent}
    (done : directory.next sha256 contentId stableId event = some next)
    (admissible : Admissible corpus embedding event)
    (consistent : Consistent stableId corpus embedding directory) :
    Consistent stableId corpus embedding next := by
  cases event with
  | insertVersion version =>
    obtain ⟨⟨outcome, versions⟩, inserted, rfl⟩ := Option.map_eq_some_iff.mp done
    exact { consistent with
      stored := Corpus.insertResumeVersion_ok (toOption_eq_some.mp inserted) admissible
        consistent.stored }
  | publish generation documents removals vectorization =>
    exact prepare_consistent done admissible.1 admissible.2 consistent.head consistent
  | rebuild generation documents vectorization =>
    exact prepare_consistent done admissible.1 admissible.2 nofun consistent
  | recover generation => exact recoverOrphan_consistent done consistent
  | commit =>
    obtain ⟨base, prepared, rfl⟩ := Option.map_eq_some_iff.mp done
    exact { consistent with head := consistent.prepared base prepared, prepared := nofun }
  | abandon =>
    cases done
    exact { consistent with prepared := nofun }
  | removeGeneration generation =>
    cases done
    have kept : ∀ base, Backed directory.vectors base →
        Backed (directory.vectors.delete (·.generation = generation)) base := by
      intro base backed name named snapshot found
      rw [Table.find?_delete] at found
      exact backed name named snapshot (Option.filter_eq_some_iff.mp found).1
    exact {
      stored := consistent.stored
      faithful := fun snapshot member => consistent.faithful snapshot (Table.mem_delete.mp member).1
      head := kept _ consistent.head
      prepared := fun base given => kept base (consistent.prepared base given) }

theorem consistent_inductive :
    (vectorHistory stableId corpus embedding).Inductive (Consistent stableId corpus embedding) where
  start := by
    rintro _ rfl
    exact ⟨fun _ member => absurd member (Table.not_mem_empty _),
      fun _ member => absurd member (Table.not_mem_empty _), nofun, nofun⟩
  step consistent step := next_consistent step.2 step.1 consistent

theorem reachable_of_events {events : List HistoryEvent}
    (reachable : (vectorHistory stableId corpus embedding).Reachable directory)
    (admissible : ∀ event ∈ events, Admissible corpus embedding event)
    (done : directory.after sha256 contentId stableId events = some next) :
    (vectorHistory stableId corpus embedding).Reachable next := by
  induction events generalizing directory with
  | nil =>
    cases done
    exact reachable
  | cons event rest ih =>
    obtain ⟨middle, here, later⟩ := Option.bind_eq_some_iff.mp done
    obtain ⟨first, others⟩ := List.forall_mem_cons.mp admissible
    exact ih (reachable.next ⟨first, here⟩) others later

/-- **No vector is stale.** Whatever the history of the directory is, every vector
of a generation that can be opened is the one that embedding the text of its
version gives, and the generation of the head has the pairs of the head. -/
theorem opened_vectors_faithful
    (reachable : (vectorHistory stableId corpus embedding).Reachable directory)
    {generation modelId : String} {dimension : Nat} {opened : VectorSnapshot}
    (done : openGeneration sha256 directory.vectors generation (.enabled modelId dimension) =
      .ok opened) :
    (∀ document ∈ opened.documents, document.pair ∈ opened.projection ∧
      EmbeddingOf stableId corpus (embedding modelId dimension) modelId document.pair document) ∧
      (directory.head.generation = some generation →
        opened.projection.Perm directory.head.projections) := by
  have consistent := consistent_inductive.holds reachable
  obtain ⟨snapshot, found, contract, rfl, fit, -⟩ := openGeneration_ok done
  refine ⟨fun document member => ⟨fit.pair_mem member, ?_⟩, fun named => ?_⟩
  · exact consistent.faithful snapshot (Table.find?_eq_some_iff.mp found).1 modelId dimension
      contract document member
  · exact (List.perm_insertionSort pairLe _).trans (consistent.head generation named snapshot found)

end Histories

/-! ## From the head and from scratch -/

/-- The entries of a generation: document, version and vector. -/
def entriesOf (vectors : VectorDirectory) (generation : String) :
    Option (List (DocumentId × ResumeVersionId × List F32)) :=
  (vectors.find? generation).map fun snapshot =>
    snapshot.documents.map fun document =>
      (document.documentId, document.resumeVersionId, document.values)

/-- The base with its projection but without a generation to derive from, so that
every pair is embedded. -/
def SearchPublicationBase.withoutGeneration (base : SearchPublicationBase) :
    SearchPublicationBase :=
  { base with generation := none }

section Agreement

variable {sha256 : List UInt8 → ContentDigest} {contentId : List String → ResumeVersionId}
  {corpus : Corpus sha256 contentId} {stableId : List String → VectorRecordId}
  {embedding : String → Nat → SearchPublicationEmbeddingInput → List F32}
  {directory : DataDirectory} {base : SearchPublicationBase} {generation : String}
  {vectorizer : SearchPublicationVectorizer} {replacements : List IndexDocument}
  {removals : List String} {reader : VectorSnapshot}
  {result : SearchPublicationBase × VectorSnapshotSummary × VectorDirectory}

/-- The two ways a publication with a vectorizer can go. -/
theorem publishSearchArtifacts_eq_ok :
    publishSearchArtifacts sha256 stableId directory base generation replacements removals
        (some vectorizer) = .ok result ↔
      (VectorModelContract.enabled vectorizer.modelId vectorizer.dimension).validate = .ok () ∧
        ∃ staged projections summary vectors,
          stagedSearchVersionTexts replacements = .ok staged ∧
          projectionsAfterDelta base.projections replacements removals = .ok projections ∧
          (match coveredBase sha256 directory.vectors base
              (.enabled vectorizer.modelId vectorizer.dimension) with
            | some reader => publishFromBase sha256 stableId directory.vectors directory.versions
                generation base reader projections staged
                (.enabled vectorizer.modelId vectorizer.dimension) (some vectorizer)
            | none => publishFromScratch sha256 stableId directory.vectors directory.versions
                generation projections staged (.enabled vectorizer.modelId vectorizer.dimension)
                (some vectorizer)) = .ok (summary, vectors) ∧
          result = (⟨some generation, projections, summary.modelContract⟩, summary, vectors) := by
  simp only [publishSearchArtifacts, publishVectorGeneration, targetContract, bind_ok_iff,
    vectorResult_eq_ok]
  constructor
  · rintro ⟨staged, stages, projections, derived, ⟨summary, vectors⟩,
      ⟨_, ⟨_, -, ⟨⟩⟩, _, valid, written⟩, ⟨⟩⟩
    exact ⟨valid, staged, projections, summary, vectors, stages, derived, written, rfl⟩
  · rintro ⟨valid, staged, projections, summary, vectors, stages, derived, written, rfl⟩
    exact ⟨staged, stages, projections, derived, (summary, vectors),
      ⟨_, ⟨(), valid, rfl⟩, (), valid, written⟩, rfl⟩

/-- In a directory with any history whose head is completely covered, publishing
a change from the head and publishing it by embedding everything give the same
digests and the same entries, one for each pair after the change. And if the
vectorizer embeds its inputs one by one, the first succeeds whenever the second
does. -/
theorem incremental_publication_agrees
    (reachable : (vectorHistory stableId corpus embedding).Reachable directory)
    (covered : coveredBase sha256 directory.vectors directory.head
      (.enabled vectorizer.modelId vectorizer.dimension) = some reader)
    (indexed : ∀ document ∈ replacements, Indexes corpus document)
    (computes : vectorizer.Computes (embedding vectorizer.modelId vectorizer.dimension)) :
    (∀ incremental scratch,
      publishSearchArtifacts sha256 stableId directory directory.head generation replacements removals
        (some vectorizer) = .ok incremental →
      publishSearchArtifacts sha256 stableId directory directory.head.withoutGeneration generation
        replacements removals (some vectorizer) = .ok scratch →
      incremental.2.1.logicalContentDigest = scratch.2.1.logicalContentDigest ∧
      incremental.2.1.projectionDigest = scratch.2.1.projectionDigest ∧
      ∃ projections entries entries',
        projectionsAfterDelta directory.head.projections replacements removals =
          .ok projections ∧
        entriesOf incremental.2.2 generation = some entries ∧
        entriesOf scratch.2.2 generation = some entries' ∧ entries.Perm entries' ∧
        entries'.map (fun entry => ⟨entry.1, entry.2.1⟩) = projections) ∧
    ∀ scratch embed, vectorizer.Pointwise embed →
      publishSearchArtifacts sha256 stableId directory directory.head.withoutGeneration generation
        replacements removals (some vectorizer) = .ok scratch →
      ∃ incremental, publishSearchArtifacts sha256 stableId directory directory.head generation
        replacements removals (some vectorizer) = .ok incremental := by
  have consistent := consistent_inductive.holds reachable
  have derivable := coveredBase_derivable covered consistent.faithful consistent.head
  have computes : ∀ given ∈ some vectorizer,
      given.Computes (embedding vectorizer.modelId vectorizer.dimension) := by
    rintro _ ⟨⟩
    exact computes
  constructor
  · intro incremental scratch fromHead fromScratch
    obtain ⟨-, staged, projections, summary, vectors, stages, derived, written, rfl⟩ :=
      publishSearchArtifacts_eq_ok.mp fromHead
    obtain ⟨-, _, _, summary', vectors', stages', derived', written', rfl⟩ :=
      publishSearchArtifacts_eq_ok.mp fromScratch
    cases stages.symm.trans stages'
    cases derived.symm.trans derived'
    rw [covered] at written
    obtain ⟨rfl, snapshot, snapshot', found, found', same, pairs⟩ :=
      publishFromBase_agrees derivable computes consistent.stored
        (stagedSearchVersionTexts_ok stages indexed) written written'
    refine ⟨rfl, rfl, projections, _, _, derived, by rw [entriesOf, found, Option.map_some],
      by rw [entriesOf, found', Option.map_some], same.map _, ?_⟩
    rw [List.map_map]
    exact pairs
  · intro scratch embed pointwise fromScratch
    obtain ⟨valid, staged, projections, summary, vectors, stages, derived, written, rfl⟩ :=
      publishSearchArtifacts_eq_ok.mp fromScratch
    obtain ⟨summary', vectors', written'⟩ := publishFromBase_succeeds derivable computes
      consistent.stored (stagedSearchVersionTexts_ok stages indexed)
      (by rintro _ ⟨⟩; exact ⟨embed, pointwise⟩) written
    refine ⟨_, publishSearchArtifacts_eq_ok.mpr ⟨valid, staged, projections, summary', vectors', stages,
      derived, ?_, rfl⟩⟩
    rw [covered]
    exact written'

end Agreement

/-! ### A second resume beside a first -/

def sampleHash (bytes : List UInt8) : ContentDigest := ⟨toString bytes.length⟩

def sampleVersion (document : DocumentId) (id : ResumeVersionId) (text : String) : ResumeVersion where
  id := id
  documentId := document
  sourceRevisionId := ⟨"rev_00000000000000000000000000000000", by decide⟩
  normalizedTextHash := sampleHash (bytesOf text)
  parseVersion := "p"
  schemaVersion := "s"
  rawText := none
  cleanText := some text

def firstVersion : ResumeVersion :=
  sampleVersion ⟨"doc_00000000000000000000000000000000", Eq.refl true⟩
    ⟨"ver_00000000000000000000000000000000", Eq.refl true⟩ "one"

def secondVersion : ResumeVersion :=
  sampleVersion ⟨"doc_00000000000000000000000000000001", Eq.refl true⟩
    ⟨"ver_00000000000000000000000000000001", Eq.refl true⟩ "three"

def sampleContentId (parts : List String) : ResumeVersionId :=
  if parts = firstVersion.identityParts then firstVersion.id else secondVersion.id

def sampleStableId (parts : List String) : VectorRecordId :=
  if parts.head? = some firstVersion.id.asStr then
    ⟨"vec_00000000000000000000000000000000", Eq.refl true⟩
  else ⟨"vec_00000000000000000000000000000001", Eq.refl true⟩

def sampleCorpus : Corpus sampleHash sampleContentId where
  holds version := version = firstVersion ∨ version = secondVersion
  valid := by
    rintro _ (rfl | rfl)
    · decide +kernel
    · decide +kernel
  ids := by
    rintro _ _ (rfl | rfl) (rfl | rfl) same
    · rfl
    · exact absurd same (by decide +kernel)
    · exact absurd same (by decide +kernel)
    · rfl
  texts := by
    rintro _ _ (rfl | rfl) (rfl | rfl) _ ⟨⟩ _ ⟨⟩ same
    · rfl
    · exact absurd same (by decide +kernel)
    · exact absurd same (by decide +kernel)
    · rfl

def sampleIndexDocument (version : ResumeVersion) (text : String) : IndexDocument :=
  ⟨version.documentId, version.id, text⟩

def sampleEmbedding (input : SearchPublicationEmbeddingInput) : List F32 :=
  [UInt32.ofNat input.text.length]

def sampleVectorizer : SearchPublicationVectorizer where
  modelId := "m"
  dimension := 1
  maxBatchInputs := 1
  maxTextBytes := 64
  embedBatch batch := batch.mapM fun input => .ok ⟨input.id, "m", sampleEmbedding input⟩

/-- The first resume is published and committed. -/
def sampleEvents (vectorizer : SearchPublicationVectorizer) : List HistoryEvent :=
  [.publish "first" [sampleIndexDocument firstVersion "one"] [] (some vectorizer),
    .insertVersion firstVersion, .commit]

/-- The directory after these events. -/
def sampleDirectory : DataDirectory :=
  (DataDirectory.new.after sampleHash sampleContentId sampleStableId
    (sampleEvents sampleVectorizer)).getD .new

theorem sampleVectorizer_computes : sampleVectorizer.Computes sampleEmbedding := by
  intro batch outputs embedded output member
  obtain ⟨input, sent, ⟨⟩⟩ := exists_related_left (mapM_eq_ok.mp embedded) member
  exact ⟨input, sent, rfl, rfl⟩

theorem sampleDirectory_reachable :
    (vectorHistory sampleStableId sampleCorpus fun _ _ => sampleEmbedding).Reachable
      sampleDirectory := by
  have admissible : ∀ event ∈ sampleEvents sampleVectorizer,
      Admissible sampleCorpus (fun _ _ => sampleEmbedding) event := by
    simp only [sampleEvents, List.forall_mem_cons, Admissible]
    refine ⟨⟨⟨⟨firstVersion, .inl rfl, rfl, rfl, rfl⟩, nofun⟩, ?_⟩, .inl rfl, trivial, nofun⟩
    rintro _ ⟨⟩
    exact sampleVectorizer_computes
  have possible : (DataDirectory.new.after sampleHash sampleContentId sampleStableId
      (sampleEvents sampleVectorizer)).isSome = true := by decide +kernel
  obtain ⟨directory, done⟩ := Option.isSome_iff_exists.mp possible
  have same : sampleDirectory = directory := by rw [sampleDirectory, done, Option.getD_some]
  rw [same]
  exact reachable_of_events (.start rfl) admissible done

theorem opened_vectors_faithful_of_first :
    ∃ opened, openGeneration sampleHash sampleDirectory.vectors "first" (.enabled "m" 1) =
        .ok opened ∧
      (∀ document ∈ opened.documents, EmbeddingOf sampleStableId sampleCorpus sampleEmbedding "m"
        document.pair document) ∧
      opened.projection.Perm sampleDirectory.head.projections := by
  have opens : (openGeneration sampleHash sampleDirectory.vectors "first"
      (.enabled "m" 1)).toOption.isSome = true := by decide +kernel
  obtain ⟨opened, done⟩ := Option.isSome_iff_exists.mp opens
  rw [toOption_eq_some] at done
  obtain ⟨faithful, projects⟩ := opened_vectors_faithful sampleDirectory_reachable done
  exact ⟨opened, done, fun document member => (faithful document member).2,
    projects (by decide +kernel)⟩

/-- Two resumes, embedded in batches of some size. -/
def sampleEmbedded (size : Nat) : Except ImportPipelineError (List VectorDocument) :=
  embedProjections sampleStableId .empty
    [⟨firstVersion.documentId, firstVersion.id⟩, ⟨secondVersion.documentId, secondVersion.id⟩]
    ((stagedSearchVersionTexts [sampleIndexDocument firstVersion "one",
      sampleIndexDocument secondVersion "three"]).toOption.getD .empty)
    (.enabled "m" 1) (some { sampleVectorizer with maxBatchInputs := size })

/-- Two batches of one resume give what one batch of two gives. -/
theorem embedding_ignores_batch_size_of_first :
    ∃ documents, sampleEmbedded 1 = .ok documents ∧ sampleEmbedded 8 = .ok documents := by
  have embeds : (sampleEmbedded 1).toOption.isSome = true := by decide +kernel
  obtain ⟨documents, done⟩ := Option.isSome_iff_exists.mp embeds
  rw [toOption_eq_some] at done
  exact ⟨documents, done, embedding_ignores_batch_size ⟨fun _ => rfl, by rintro _ _ ⟨⟩; rfl⟩
    (by decide) done⟩

theorem incremental_publication_agrees_for_addition :
    ∃ incremental scratch,
      publishSearchArtifacts sampleHash sampleStableId sampleDirectory sampleDirectory.head "second"
        [sampleIndexDocument secondVersion "three"] [] (some sampleVectorizer) = .ok incremental ∧
      publishSearchArtifacts sampleHash sampleStableId sampleDirectory
        sampleDirectory.head.withoutGeneration "second"
        [sampleIndexDocument secondVersion "three"] [] (some sampleVectorizer) = .ok scratch ∧
      incremental.2.1.logicalContentDigest = scratch.2.1.logicalContentDigest ∧
      incremental.2.1.projectionDigest = scratch.2.1.projectionDigest ∧
      ∃ projections entries entries',
        projectionsAfterDelta sampleDirectory.head.projections
          [sampleIndexDocument secondVersion "three"] [] = .ok projections ∧
        entriesOf incremental.2.2 "second" = some entries ∧
        entriesOf scratch.2.2 "second" = some entries' ∧ entries.Perm entries' ∧
        entries'.map (fun entry => ⟨entry.1, entry.2.1⟩) = projections := by
  have covers : (coveredBase sampleHash sampleDirectory.vectors sampleDirectory.head
      (.enabled "m" 1)).isSome = true := by decide +kernel
  have possible : (publishSearchArtifacts sampleHash sampleStableId sampleDirectory
      sampleDirectory.head.withoutGeneration "second"
      [sampleIndexDocument secondVersion "three"] [] (some sampleVectorizer)).toOption.isSome =
        true := by decide +kernel
  obtain ⟨reader, covered⟩ := Option.isSome_iff_exists.mp covers
  obtain ⟨scratch, fromScratch⟩ := Option.isSome_iff_exists.mp possible
  rw [toOption_eq_some] at fromScratch
  have indexed : ∀ document ∈ [sampleIndexDocument secondVersion "three"],
      Indexes sampleCorpus document := by
    simpa using ⟨secondVersion, .inr rfl, rfl, rfl, rfl⟩
  have agrees := @incremental_publication_agrees _ _ _ _ _ _ "second" sampleVectorizer _ [] _
    sampleDirectory_reachable covered indexed sampleVectorizer_computes
  obtain ⟨incremental, fromHead⟩ := agrees.2 scratch _ ⟨fun _ => rfl, by rintro _ _ ⟨⟩; rfl⟩
    fromScratch
  exact ⟨incremental, scratch, fromHead, fromScratch,
    agrees.1 incremental scratch fromHead fromScratch⟩

/-- A vectorizer whose vectors depend on the number of inputs in the batch. -/
def batchVectorizer : SearchPublicationVectorizer where
  modelId := "m"
  dimension := 1
  maxBatchInputs := 8
  maxTextBytes := 64
  embedBatch batch :=
    batch.mapM fun input => .ok ⟨input.id, "m", [UInt32.ofNat batch.length]⟩

/-- The vectors of a second resume published beside the first, from a base with or
without its generation. -/
def batchVectors (from_ : SearchPublicationBase → SearchPublicationBase) :
    Option (List (List F32)) := do
  let directory ← DataDirectory.new.after sampleHash sampleContentId sampleStableId
    (sampleEvents batchVectorizer)
  guard (coveredBase sampleHash directory.vectors directory.head (.enabled "m" 1)).isSome
  let published ← (publishSearchArtifacts sampleHash sampleStableId directory
    (from_ directory.head) "second" [sampleIndexDocument secondVersion "three"] []
    (some batchVectorizer)).toOption
  (entriesOf published.2.2 "second").map (·.map (·.2.2))

/-- From the covered head each resume was embedded alone, from scratch the two are
embedded in one batch. -/
theorem batch_dependent_vectorizer_disagrees :
    batchVectors id = some [[1], [1]] ∧
      batchVectors SearchPublicationBase.withoutGeneration = some [[2], [2]] := by
  decide +kernel

end ResumeIr.ImportPipeline
