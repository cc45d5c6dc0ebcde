import ResumeIr.ImportPipeline.VectorPublication
import ResumeIr.IndexFulltext.Snapshots
import ResumeIr.Privacy.Redaction

/-!
# One delta, three lists

A publication applies one delta of replacements and removals in three places: to the
projection of the store, to the documents that an import keeps in memory, and to the
documents of the full-text snapshot that is its base. The three are computed by different
functions, which have to agree on the pairs of document and version.

They do whenever the projection is accepted (`document_delta`). It is refused when the id of
a replacement is malformed or a document is replaced twice; the other two functions make no
such check.
-/

namespace ResumeIr.ImportPipeline

open CoreDomain IndexVector
  Foundation.Fallible IndexFulltext Privacy

/-! ## The projection -/

def parseStableId (label value : String) : Option (StableId label) :=
  if valid : validateStableId label value = true then some ⟨value, valid⟩ else none

/-- A document of the full-text index with its ids parsed. -/
def parseIndexDocument (document : IndexFulltext.IndexDocument) :
    Except ImportPipelineError IndexDocument := do
  let docId ← present (parseStableId "doc_" document.docId) .storeInvariant
  let resumeVersionId ← present (parseStableId "ver_" document.resumeVersionId) .storeInvariant
  return ⟨docId, resumeVersionId, document.cleanText⟩

/-- `projections_after_delta` on replacements as the index has them. A malformed id and a
document that is there twice are the same error, so the ids may be parsed first. -/
def projectionsAfterIndexDelta (base : List ActiveSearchProjection)
    (replacements : List IndexFulltext.IndexDocument) (removals : List String) :
    Except ImportPipelineError (List ActiveSearchProjection) := do
  let parsed ← replacements.mapM parseIndexDocument
  projectionsAfterDelta base parsed removals

/-! ## The cache -/

structure CachedSearchDocument where
  docId : String
  resumeVersionId : String
  fileName : String
  cleanText : String
  sections : List IndexSection

def redactString (tables : UnicodeTables) (text : String) : String :=
  String.ofList (redactContactValues tables text.toList)

namespace CachedSearchDocument

def fromIndexDocument (tables : UnicodeTables) (document : IndexFulltext.IndexDocument) :
    CachedSearchDocument where
  docId := document.docId
  resumeVersionId := document.resumeVersionId
  fileName := redactString tables document.fileName
  cleanText := redactString tables document.cleanText
  sections := []

def key (document : CachedSearchDocument) : Key := (document.docId, document.resumeVersionId)

end CachedSearchDocument

def applyDocumentDelta (tables : UnicodeTables) (documents : List CachedSearchDocument)
    (replacements : List IndexFulltext.IndexDocument) (removals : List String) :
    List CachedSearchDocument :=
  let replacedOrRemovedIds := removals ++ replacements.map (·.docId)
  let kept := documents.filter (·.docId ∉ replacedOrRemovedIds)
  let added := replacements.map (CachedSearchDocument.fromIndexDocument tables)
  sortByKey CachedSearchDocument.key (kept ++ added)

/-! ## The pairs -/

def projectionKey (projection : ActiveSearchProjection) : Key :=
  (projection.documentId.asStr, projection.resumeVersionId.asStr)

/-- The pairs after a delta: a replacement wins over a removal of its document. -/
def keysAfterDelta (base : List Key) (replacements : List Key) (removals : List String) :
    List Key :=
  (base.filter (·.1 ∉ removals ++ replacements.map (·.1)) ++ replacements).insertionSort keyLe

section Pairs

variable {base : List Key} {replacements : List IndexFulltext.IndexDocument}
  {removals : List String}

theorem mem_keysAfterDelta {replacements : List Key} {key : Key} :
    key ∈ keysAfterDelta base replacements removals ↔
      key ∈ replacements ∨
        (key ∈ base ∧ key.1 ∉ removals ∧ key.1 ∉ replacements.map (·.1)) := by
  simp only [keysAfterDelta, List.mem_insertionSort, List.mem_append, List.mem_filter,
    decide_eq_true_eq, not_or]
  exact or_comm

theorem map_key_applyDocumentDelta {tables : UnicodeTables} {documents : List CachedSearchDocument}
    (same : (documents.map CachedSearchDocument.key).Perm base) :
    (applyDocumentDelta tables documents replacements removals).map CachedSearchDocument.key =
      keysAfterDelta base (replacements.map IndexFulltext.IndexDocument.key) removals := by
  simp only [applyDocumentDelta, map_sortByKey]
  refine insertionSort_eq_of_perm _ ?_
  rw [List.map_append, List.map_map, List.map_map]
  refine List.Perm.append ?_ (.of_eq rfl)
  have kept : (documents.filter (·.docId ∉ removals ++ replacements.map (·.docId))).map
        CachedSearchDocument.key =
      (documents.map CachedSearchDocument.key).filter
        (·.1 ∉ removals ++ replacements.map (·.docId)) := by
    rw [List.filter_map]
    rfl
  rw [kept]
  exact same.filter _

theorem map_key_incrementalSnapshotDocuments
    {snapshots : String → Option (List IndexFulltext.IndexDocument)}
    {baseSnapshot : Option String} {stored : List IndexFulltext.IndexDocument}
    (opened : snapshotDocumentsExcept snapshots baseSnapshot [] = .ok stored)
    (same : (stored.map IndexFulltext.IndexDocument.key).Perm base) :
    ∃ documents, incrementalSnapshotDocuments snapshots baseSnapshot replacements removals =
        .ok documents ∧
      documents.map IndexFulltext.IndexDocument.key =
        keysAfterDelta base (replacements.map IndexFulltext.IndexDocument.key) removals := by
  obtain ⟨kept, read, keys⟩ :=
    snapshotDocumentsExcept_ok opened (removals ++ replacements.map (·.docId))
  refine ⟨sortByKey IndexFulltext.IndexDocument.key (kept ++ replacements), ?_, ?_⟩
  · simp only [incrementalSnapshotDocuments, read]
    rfl
  · rw [map_sortByKey]
    refine insertionSort_eq_of_perm _ ?_
    rw [List.map_append, keys, List.map_map]
    exact (same.filter _).append_right _

end Pairs

/-! ## Adjacent documents -/

section Adjacent

variable {β γ : Type*} [LinearOrder γ] {f : β → γ}

/-- In a sorted list in which neighbours differ nothing is there twice. -/
theorem pairwise_lt_of_adjacent {items : List β} (sorted : items.Pairwise (f · ≤ f ·))
    (adjacent : ∀ pair ∈ items.zip items.tail, f pair.1 ≠ f pair.2) :
    items.Pairwise (f · < f ·) := by
  induction items with
  | nil => exact .nil
  | cons first rest ih =>
    obtain ⟨below, sorted⟩ := List.pairwise_cons.mp sorted
    cases rest with
    | nil => exact List.pairwise_singleton ..
    | cons second rest =>
      rw [List.tail_cons, List.zip_cons_cons, List.forall_mem_cons] at adjacent
      have later := ih sorted adjacent.2
      have less : f first < f second :=
        lt_of_le_of_ne (below second List.mem_cons_self) adjacent.1
      refine List.pairwise_cons.mpr ⟨fun other member => ?_, later⟩
      obtain rfl | member := List.mem_cons.mp member
      · exact less
      · exact less.trans (List.rel_of_pairwise_cons later member)

omit [LinearOrder γ] in
theorem adjacent_of_nodup {items : List β} (nodup : (items.map f).Nodup) :
    ∀ pair ∈ items.zip items.tail, f pair.1 ≠ f pair.2 := by
  induction items with
  | nil => nofun
  | cons first rest ih =>
    rw [List.map_cons, List.nodup_cons] at nodup
    cases rest with
    | nil => nofun
    | cons second rest =>
      rw [List.tail_cons, List.zip_cons_cons, List.forall_mem_cons]
      refine ⟨fun same => nodup.1 ?_, ih nodup.2⟩
      rw [show f first = f second from same]
      exact List.mem_cons_self

end Adjacent

/-! ## The projection is accepted -/

section Accepted

variable {base projections : List ActiveSearchProjection} {parsed : List IndexDocument}
  {replacements : List IndexFulltext.IndexDocument} {removals : List String}

/-- The pairs of the next projection, before they are sorted. -/
def unsortedAfterDelta (base : List ActiveSearchProjection) (replacements : List IndexDocument)
    (removals : List String) : List ActiveSearchProjection :=
  base.filter (fun projection =>
      !(projection.documentId.asStr ∈ removals ||
        projection.documentId ∈ replacements.map (·.docId))) ++
    replacements.map fun replacement => ⟨replacement.docId, replacement.resumeVersionId⟩

theorem map_key_unsortedAfterDelta :
    (unsortedAfterDelta base parsed removals).map projectionKey =
      (base.map projectionKey).filter
          (·.1 ∉ removals ++ (parsed.map fun replacement =>
            (replacement.docId.asStr, replacement.resumeVersionId.asStr)).map (·.1)) ++
        parsed.map fun replacement =>
          (replacement.docId.asStr, replacement.resumeVersionId.asStr) := by
  rw [unsortedAfterDelta, List.map_append, List.map_map, List.filter_map]
  congr 2
  refine List.filter_congr fun projection _ => Bool.eq_iff_iff.mpr ?_
  have replaced : projection.documentId ∈ parsed.map (·.docId) ↔
      projection.documentId.asStr ∈ (parsed.map fun replacement =>
        (replacement.docId.asStr, replacement.resumeVersionId.asStr)).map (·.1) := by
    simp [← StableId.asStr_inj]
  simp only [Bool.not_eq_true', Bool.or_eq_false_iff, decide_eq_false_iff_not, List.mem_append,
    not_or, replaced]
  exact decide_eq_true_iff.symm

theorem nodup_unsortedAfterDelta (one : (base.map (·.documentId)).Nodup) :
    ((unsortedAfterDelta base parsed removals).map (·.documentId)).Nodup ↔
      (parsed.map (·.docId)).Nodup := by
  rw [unsortedAfterDelta, List.map_append, List.map_map, List.nodup_append]
  constructor
  · exact fun all => all.2.1
  · intro replaced
    refine ⟨one.sublist (List.filter_sublist.map _), replaced, fun id kept other added same => ?_⟩
    obtain ⟨projection, inside, rfl⟩ := List.mem_map.mp kept
    have notReplaced := (List.mem_filter.mp inside).2
    rw [Bool.not_eq_true', Bool.or_eq_false_iff] at notReplaced
    exact of_decide_eq_false notReplaced.2 (same ▸ added)

instance : Std.Total documentLe where
  total first second := le_total first.documentId.asStr second.documentId.asStr

instance : IsTrans ActiveSearchProjection documentLe where
  trans _ _ _ := le_trans

theorem pairwise_lt_of_sorted {items : List ActiveSearchProjection}
    (sorted : items.Pairwise documentLe)
    (adjacent : ∀ pair ∈ items.zip items.tail, pair.1.documentId ≠ pair.2.documentId) :
    items.Pairwise (·.documentId.asStr < ·.documentId.asStr) :=
  pairwise_lt_of_adjacent sorted fun pair member same =>
    adjacent pair member (StableId.ext_asStr same)

theorem projectionsAfterDelta_eq_ok_iff (one : (base.map (·.documentId)).Nodup) :
    projectionsAfterDelta base parsed removals = .ok projections ↔
      (parsed.map (·.docId)).Nodup ∧
        projections = (unsortedAfterDelta base parsed removals).insertionSort documentLe := by
  have sorted := List.pairwise_insertionSort documentLe (unsortedAfterDelta base parsed removals)
  have nodup : ((((unsortedAfterDelta base parsed removals).insertionSort documentLe).map
      (·.documentId))).Nodup ↔ (parsed.map (·.docId)).Nodup :=
    ((List.perm_insertionSort documentLe _).map _).nodup_iff.trans (nodup_unsortedAfterDelta one)
  simp only [projectionsAfterDelta, check_bind_eq_ok]
  refine and_congr ⟨fun adjacent => nodup.mp ?_, fun distinct => ?_⟩ ?_
  · refine List.pairwise_map.mpr ((pairwise_lt_of_sorted sorted adjacent).imp fun less same => ?_)
    exact absurd (congrArg StableId.asStr same) (ne_of_lt less)
  · exact adjacent_of_nodup (nodup.mpr distinct)
  · exact ⟨fun same => (Except.ok.inj same).symm, fun same => same ▸ rfl⟩

/-- The projection, once accepted, has the pairs of the delta, sorted, each document once. -/
theorem map_key_projectionsAfterDelta (one : (base.map (·.documentId)).Nodup)
    (done : projectionsAfterDelta base parsed removals = .ok projections) :
    projections.map projectionKey =
        keysAfterDelta (base.map projectionKey)
          (parsed.map fun replacement =>
            (replacement.docId.asStr, replacement.resumeVersionId.asStr)) removals ∧
      (projections.map (·.documentId)).Nodup := by
  have ⟨distinct, unsorted⟩ := (projectionsAfterDelta_eq_ok_iff one).mp done
  have sorted := List.pairwise_insertionSort documentLe (unsortedAfterDelta base parsed removals)
  have nodup : (projections.map (·.documentId)).Nodup := by
    rw [unsorted, ((List.perm_insertionSort documentLe _).map _).nodup_iff]
    exact (nodup_unsortedAfterDelta one).mpr distinct
  rw [← unsorted] at sorted
  have increasing := pairwise_lt_of_sorted sorted (adjacent_of_nodup nodup)
  refine ⟨List.Perm.eq_of_pairwise' ?_ (List.pairwise_insertionSort keyLe _) ?_, nodup⟩
  · exact List.pairwise_map.mpr (increasing.imp .inl)
  · rw [unsorted]
    refine ((List.perm_insertionSort documentLe _).map projectionKey).trans ?_
    rw [map_key_unsortedAfterDelta]
    exact (List.perm_insertionSort keyLe _).symm

/-- Which replacements the pipeline can read. -/
def WellFormed (document : IndexFulltext.IndexDocument) : Prop :=
  validateStableId "doc_" document.docId = true ∧
    validateStableId "ver_" document.resumeVersionId = true

theorem parseStableId_eq_some_iff {label value : String} {id : StableId label} :
    parseStableId label value = some id ↔ id.asStr = value := by
  unfold parseStableId
  split
  next valid => exact ⟨fun same => by cases same; rfl, fun same => by cases same; rfl⟩
  next invalid =>
    constructor
    · nofun
    · rintro rfl
      exact absurd id.valid invalid

theorem parseIndexDocument_eq_ok_iff {document : IndexFulltext.IndexDocument}
    {result : IndexDocument} :
    parseIndexDocument document = .ok result ↔
      result.docId.asStr = document.docId ∧
        result.resumeVersionId.asStr = document.resumeVersionId ∧
        result.cleanText = document.cleanText := by
  simp only [parseIndexDocument, bind_ok_iff, present_eq_ok, parseStableId_eq_some_iff]
  constructor
  · rintro ⟨docId, document_, version, version_, ⟨⟩⟩
    exact ⟨document_, version_, rfl⟩
  · rintro ⟨document_, version_, text⟩
    exact ⟨result.docId, document_, result.resumeVersionId, version_, by rw [← text]; rfl⟩

theorem exists_parseIndexDocument {document : IndexFulltext.IndexDocument} :
    (∃ result, parseIndexDocument document = .ok result) ↔ WellFormed document := by
  constructor
  · rintro ⟨result, done⟩
    obtain ⟨docId, version, -⟩ := parseIndexDocument_eq_ok_iff.mp done
    exact ⟨docId ▸ result.docId.valid, version ▸ result.resumeVersionId.valid⟩
  · rintro ⟨docId, version⟩
    exact ⟨⟨⟨_, docId⟩, ⟨_, version⟩, document.cleanText⟩,
      parseIndexDocument_eq_ok_iff.mpr ⟨rfl, rfl, rfl⟩⟩

/-- Parsing keeps the pairs. -/
theorem keys_of_parsed (done : replacements.mapM parseIndexDocument = .ok parsed) :
    (parsed.map fun replacement =>
        (replacement.docId.asStr, replacement.resumeVersionId.asStr)) =
      replacements.map IndexFulltext.IndexDocument.key := by
  rw [mapM_eq_ok] at done
  induction done with
  | nil => rfl
  | cons here _ ih =>
    obtain ⟨docId, version, -⟩ := parseIndexDocument_eq_ok_iff.mp here
    rw [List.map_cons, ih, docId, version]
    rfl

theorem docIds_of_parsed (done : replacements.mapM parseIndexDocument = .ok parsed) :
    replacements.map (·.docId) = (parsed.map (·.docId)).map (·.asStr) := by
  have keys := congrArg (List.map Prod.fst) (keys_of_parsed done)
  rw [List.map_map, List.map_map] at keys
  rw [List.map_map]
  exact keys.symm

theorem exists_parsed :
    (∃ parsed, replacements.mapM parseIndexDocument = .ok parsed) ↔
      ∀ replacement ∈ replacements, WellFormed replacement := by
  simp only [mapM_eq_ok, ← exists_parseIndexDocument]
  induction replacements with
  | nil => simp
  | cons first rest ih =>
    rw [List.forall_mem_cons, ← ih]
    constructor
    · rintro ⟨results, all⟩
      cases all with
      | cons here later => exact ⟨⟨_, here⟩, _, later⟩
    · rintro ⟨⟨result, here⟩, results, later⟩
      exact ⟨result :: results, .cons here later⟩

end Accepted

/-! ## Agreement -/

section Agreement

variable {tables : UnicodeTables} {base : List ActiveSearchProjection}
  {cached : List CachedSearchDocument}
  {snapshots : String → Option (List IndexFulltext.IndexDocument)} {baseSnapshot : Option String}
  {stored : List IndexFulltext.IndexDocument}

/-- The cache and the snapshot have the same pairs after every delta, sorted: those of the
replacements, and those of the base that are neither replaced nor removed. The projection
is accepted exactly when all ids are well formed and no document is replaced twice, and then it
has these pairs too, each document once. -/
theorem document_delta (one : (base.map (·.documentId)).Nodup)
    (sameCache : (cached.map CachedSearchDocument.key).Perm (base.map projectionKey))
    (opened : snapshotDocumentsExcept snapshots baseSnapshot [] = .ok stored)
    (sameIndex : (stored.map IndexFulltext.IndexDocument.key).Perm (base.map projectionKey))
    (replacements : List IndexFulltext.IndexDocument) (removals : List String) :
    ∃ documents,
      incrementalSnapshotDocuments snapshots baseSnapshot replacements removals = .ok documents ∧
      (applyDocumentDelta tables cached replacements removals).map CachedSearchDocument.key =
        documents.map IndexFulltext.IndexDocument.key ∧
      (documents.map IndexFulltext.IndexDocument.key).Pairwise keyLe ∧
      (∀ key, key ∈ documents.map IndexFulltext.IndexDocument.key ↔
        (∃ replacement ∈ replacements, replacement.key = key) ∨
          (key ∈ base.map projectionKey ∧ key.1 ∉ removals ∧
            ∀ replacement ∈ replacements, replacement.docId ≠ key.1)) ∧
      ((∃ projections, projectionsAfterIndexDelta base replacements removals = .ok projections) ↔
        (∀ replacement ∈ replacements, WellFormed replacement) ∧
          (replacements.map (·.docId)).Nodup) ∧
      (∀ projections, projectionsAfterIndexDelta base replacements removals = .ok projections →
        projections.map projectionKey = documents.map IndexFulltext.IndexDocument.key ∧
          (projections.map (·.documentId)).Nodup) := by
  obtain ⟨documents, read, keys⟩ := map_key_incrementalSnapshotDocuments opened sameIndex
  refine ⟨documents, read, (map_key_applyDocumentDelta sameCache).trans keys.symm,
    keys ▸ List.pairwise_insertionSort keyLe _, fun key => ?_, ?_, fun projections done => ?_⟩
  · rw [keys, mem_keysAfterDelta]
    simp [IndexFulltext.IndexDocument.key]
  · simp only [projectionsAfterIndexDelta, bind_ok_iff, projectionsAfterDelta_eq_ok_iff one,
      ← exists_parsed]
    constructor
    · rintro ⟨projections, parsed, done, distinct, -⟩
      refine ⟨⟨parsed, done⟩, ?_⟩
      rw [docIds_of_parsed done]
      exact distinct.map fun _ _ => StableId.ext_asStr
    · rintro ⟨⟨parsed, done⟩, distinct⟩
      rw [docIds_of_parsed done] at distinct
      exact ⟨_, parsed, done, distinct.of_map _, rfl⟩
  · obtain ⟨parsed, parses, delta⟩ := bind_ok_iff.mp done
    obtain ⟨projected, nodup⟩ := map_key_projectionsAfterDelta one delta
    exact ⟨by rw [projected, keys, keys_of_parsed parses], nodup⟩

end Agreement

/-- **Deltas compose.** After two deltas the cache has the documents that it has
after one, made of the later replacements and of those earlier ones that the second
delta leaves alone. -/
theorem document_deltas_compose (tables : UnicodeTables) (documents : List CachedSearchDocument)
    (first second : List IndexFulltext.IndexDocument) (removed removedLater : List String) :
    (applyDocumentDelta tables (applyDocumentDelta tables documents first removed) second
      removedLater).Perm (applyDocumentDelta tables documents
        (first.filter (·.docId ∉ removedLater ++ second.map (·.docId)) ++ second)
        (removed ++ removedLater)) := by
  have sorted (documents : List CachedSearchDocument) :
      (sortByKey CachedSearchDocument.key documents).Perm documents := List.perm_insertionSort _ _
  refine (sorted _).trans ((((sorted _).filter _).append_right _).trans
    (.trans (.of_eq ?_) (sorted _).symm))
  rw [List.filter_append, List.filter_filter, List.filter_map, List.append_assoc]
  congr 1
  · refine List.filter_congr fun document _ => ?_
    simp only [List.mem_append, List.mem_map, List.mem_filter]
    grind
  · exact List.map_append.symm

section Samples

/-- The id of one of three documents. -/
def sampleDocumentId (number : Fin 3) : String :=
  "doc_0000000000000000000000000000000" ++ toString number

/-- The id of an old or of a new version. -/
def replacedVersion (old : Bool) : String :=
  if old then "ver_00000000000000000000000000000000" else "ver_11111111111111111111111111111111"

/-- A version of a document as the full-text index has it. -/
def replacementBy (number : Fin 3) (old : Bool) : IndexFulltext.IndexDocument where
  docId := sampleDocumentId number
  resumeVersionId := replacedVersion old
  fileName := ""
  cleanText := ""
  sections := []

/-- The pair of such a version. -/
def projectionTo (number : Fin 3) (old : Bool) : ActiveSearchProjection where
  documentId := ⟨sampleDocumentId number, by revert number; decide +kernel⟩
  resumeVersionId := ⟨replacedVersion old, by cases old <;> decide +kernel⟩

/-- Of three documents the second is removed, and the third is replaced and removed at once. -/
theorem document_delta_of_replaced_and_removed :
    ∃ documents,
      incrementalSnapshotDocuments
        (fun _ => some [replacementBy 2 true, replacementBy 1 true, replacementBy 0 true])
        (some "base") [replacementBy 2 false] [sampleDocumentId 1, sampleDocumentId 2] =
          .ok documents ∧
      (documents.map IndexFulltext.IndexDocument.key).Pairwise keyLe ∧
      projectionsAfterIndexDelta [projectionTo 0 true, projectionTo 1 true, projectionTo 2 true]
        [replacementBy 2 false] [sampleDocumentId 1, sampleDocumentId 2] =
          .ok [projectionTo 0 true, projectionTo 2 false] ∧
      [projectionTo 0 true, projectionTo 2 false].map projectionKey =
        documents.map IndexFulltext.IndexDocument.key := by
  obtain ⟨documents, read, -, sorted, -, -, agree⟩ :=
    @document_delta .ascii [projectionTo 0 true, projectionTo 1 true, projectionTo 2 true]
      ([replacementBy 1 true, replacementBy 2 true, replacementBy 0 true].map
        (CachedSearchDocument.fromIndexDocument .ascii))
      (fun _ => some [replacementBy 2 true, replacementBy 1 true, replacementBy 0 true])
      (some "base") [replacementBy 2 true, replacementBy 1 true, replacementBy 0 true]
      (by decide +kernel) (by decide +kernel) (by decide +kernel) (by decide +kernel)
      [replacementBy 2 false] [sampleDocumentId 1, sampleDocumentId 2]
  have accepted : projectionsAfterIndexDelta
      [projectionTo 0 true, projectionTo 1 true, projectionTo 2 true] [replacementBy 2 false]
      [sampleDocumentId 1, sampleDocumentId 2] = .ok [projectionTo 0 true, projectionTo 2 false] := by
    decide +kernel
  exact ⟨documents, read, sorted, accepted, (agree _ accepted).1⟩

/-- One document, replaced by two versions: the cache and the snapshot have it twice, and the
projection is refused. -/
theorem replaced_twice :
    projectionsAfterIndexDelta [] [replacementBy 0 true, replacementBy 0 false] [] =
        .error .storeInvariant ∧
      (applyDocumentDelta .ascii [] [replacementBy 0 true, replacementBy 0 false] []).map
        CachedSearchDocument.key =
          [(sampleDocumentId 0, replacedVersion true), (sampleDocumentId 0, replacedVersion false)] ∧
      incrementalSnapshotDocuments (fun _ => none) none
        [replacementBy 0 true, replacementBy 0 false] [] =
          .ok [replacementBy 0 true, replacementBy 0 false] := by
  decide +kernel

end Samples

end ResumeIr.ImportPipeline
