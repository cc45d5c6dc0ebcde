import ResumeIr.SearchRuntime.Coordinator

/-!
# Semantic candidates

The nearest documents are cut off at the limit first, and those that the filter does not
select are left out afterwards. Full-text retrieval hands the selection to the search instead.
So a document that is not selected can take the place of one that is
(`semantic_candidates_best_iff`).

The search in the index of neighbours is a parameter, as the arithmetic of the numbers is.
-/

namespace ResumeIr.IndexVector

open CoreDomain

/-! ## Nearest neighbours -/

def hnswEfSearch : Nat := 64

/-- The arithmetic of the 32-bit numbers, and the order in which they are compared. -/
structure FloatUnit (Score : Type) where
  sum : List F32 → F32
  mul : F32 → F32 → F32
  div : F32 → F32 → F32
  sqrt : F32 → F32
  value : F32 → Score

structure VectorHit where
  identity : VectorDocumentIdentity
  score : F32

section Knn

variable {Score : Type} [LinearOrder Score] (unit : FloatUnit Score)
  (search : List F32 → Nat → Nat → List Nat) (query : List F32)

def cosineSimilarity (left right : List F32) : F32 :=
  let dot := unit.sum (List.zipWith unit.mul left right)
  let leftNorm := unit.sqrt (unit.sum (left.map fun value => unit.mul value value))
  let rightNorm := unit.sqrt (unit.sum (right.map fun value => unit.mul value value))
  if unit.value leftNorm = unit.value 0 ∨ unit.value rightNorm = unit.value 0 then 0
  else unit.div dot (unit.mul leftNorm rightNorm)

def hit (document : VectorDocument) : VectorHit :=
  ⟨document.identity, cosineSimilarity unit query document.values⟩

/-- A higher score comes first, and the ids decide between equal ones. -/
def order (hit : VectorHit) : Scoreᵒᵈ ×ₗ String ×ₗ String ×ₗ String :=
  toLex (.toDual (unit.value hit.score), toLex (hit.identity.documentId.asStr,
    toLex (hit.identity.resumeVersionId.asStr, hit.identity.vectorId.asStr)))

def sortHits (hits : List VectorHit) : List VectorHit :=
  hits.insertionSort fun left right => order unit left ≤ order unit right

/-- The documents whose ids have not been seen. -/
def unseen : List VectorRecordId → List VectorDocument → List VectorDocument
  | _, [] => []
  | seen, document :: rest =>
      if document.vectorId ∈ seen then unseen seen rest
      else document :: unseen (document.vectorId :: seen) rest

variable (documents : List VectorDocument)

/-- An index without documents has no shard and no hits. -/
def annKnn (k : Nat) : List VectorHit :=
  let targetCount := min k documents.length
  if targetCount = 0 then []
  else
    let hits := ((search query targetCount (max hnswEfSearch targetCount)).filterMap
      fun id => documents[id]?).map (hit unit query)
    let hits :=
      if hits.length < targetCount then
        let backfill := (unseen (hits.map (·.identity.vectorId)) documents).map (hit unit query)
        hits ++ (sortHits unit backfill).take (targetCount - hits.length)
      else hits
    (sortHits unit hits).take targetCount

/-- The reader of a generation, with its contract and its documents. -/
def readerKnn (contract : VectorModelContract) (documents : List VectorDocument) (k : Nat) :
    Except VectorIndexError (List VectorHit) :=
  match contract with
  | .disabled => .error .semanticUnavailable
  | .enabled _ dimension => do
      validateDimension dimension query
      return annKnn unit search query documents k

/-- Where a document is ranked. -/
def key (document : VectorDocument) : Scoreᵒᵈ ×ₗ String ×ₗ String ×ₗ String :=
  order unit (hit unit query document)

/-- The documents in the order of their hits. -/
def ranked : List VectorDocument :=
  documents.insertionSort fun left right => key unit query left ≤ key unit query right

/-- The search finds the documents that are ranked first. -/
def ExactSearch : Prop :=
  ∀ count ≤ documents.length,
    ((search query count (max hnswEfSearch count)).filterMap fun id => documents[id]?).Perm
      ((ranked unit query documents).take count)

instance (documents : List VectorDocument) :
    Decidable (ExactSearch unit search query documents) :=
  inferInstanceAs (Decidable (∀ count ≤ documents.length, _))

/-- How many documents are ranked before this one. -/
def place (document : VectorDocument) : Nat := (ranked unit query documents).idxOf document

variable {unit search query} {documents : List VectorDocument} {document : VectorDocument}

theorem perm_ranked : (ranked unit query documents).Perm documents := List.perm_insertionSort ..

theorem pairwise_ranked (documents : List VectorDocument) :
    (ranked unit query documents).Pairwise fun left right =>
      key unit query left ≤ key unit query right := by
  exact List.pairwise_insertionSort _ documents

theorem sortHits_map (documents : List VectorDocument) :
    sortHits unit (documents.map (hit unit query)) =
      (ranked unit query documents).map (hit unit query) :=
  (List.map_insertionSort (fun left right => key unit query left ≤ key unit query right)
    (fun left right => order unit left ≤ order unit right) (hit unit query) documents
    fun _ _ _ _ => Iff.rfl).symm

variable (distinct : (documents.map (·.vectorId)).Nodup)
include distinct

theorem eq_of_key {first second : VectorDocument} (left : first ∈ documents)
    (right : second ∈ documents) (same : key unit query first = key unit query second) :
    first = second := by
  refine List.inj_on_of_nodup_map distinct left right (StableId.ext_asStr ?_)
  exact congrArg (fun key => (ofLex (ofLex (ofLex key).2).2).2) same

theorem nodup_ranked : (ranked unit query documents).Nodup :=
  perm_ranked.symm.nodup (.of_map _ distinct)

/-- An exact search makes the hits those of the documents that are ranked first. -/
theorem annKnn_eq (exact : ExactSearch unit search query documents) (k : Nat) :
    annKnn unit search query documents k =
      ((ranked unit query documents).take k).map (hit unit query) := by
  have total : (ranked unit query documents).length = documents.length := perm_ranked.length_eq
  rw [List.take_eq_take_min, total]
  set count := min k documents.length with few
  set found := (search query count (max hnswEfSearch count)).filterMap fun id => documents[id]?
    with known
  have perm : found.Perm ((ranked unit query documents).take count) := exact _ (min_le_right _ _)
  have length : found.length = count := by
    rw [perm.length_eq, List.length_take, total, min_eq_left (min_le_right _ _)]
  have sorted : ranked unit query found = (ranked unit query documents).take count := by
    have inside {document} (member : document ∈ found) : document ∈ documents :=
      perm_ranked.subset (List.mem_of_mem_take (perm.subset member))
    refine List.Perm.eq_of_pairwise ?_ (pairwise_ranked found)
      ((pairwise_ranked documents).sublist (List.take_sublist _ _)) (perm_ranked.trans perm)
    intro first second left right before after
    exact eq_of_key distinct (inside (perm_ranked.subset left)) (inside (perm.symm.subset right))
      (le_antisymm before after)
  simp only [annKnn, ← few, ← known, List.length_map, length, lt_irrefl, if_false, sortHits_map,
    sorted, ← List.map_take, List.take_take, min_self]
  split
  next none => rw [none, List.take_zero, List.map_nil]
  next => rfl

omit distinct in
theorem mem_take_ranked (member : document ∈ documents) {k : Nat} :
    document ∈ (ranked unit query documents).take k ↔ place unit query documents document < k :=
  List.mem_take_iff_idxOf_lt (perm_ranked.symm.subset member)

end Knn

end ResumeIr.IndexVector

namespace ResumeIr.SearchRuntime

open CoreDomain IndexVector

/-! ## Candidates -/

def maxQueryHits : Nat := 100

structure HitLimit where
  get : Nat
  positive : 0 < get
  bounded : get ≤ maxQueryHits

/-- The selected pairs, in the order of their documents. -/
structure FilterSelection where
  projections : List ActiveSearchProjection
  sorted : projections.Pairwise fun left right => left.documentId.asStr < right.documentId.asStr

/-- In a list in this order, the binary search finds what is there. -/
def FilterSelection.contains (selection : FilterSelection) (projection : ActiveSearchProjection) :
    Bool :=
  decide (projection ∈ selection.projections)

/-- Without a filter, everything is selected. -/
def selects (selection : Option FilterSelection) (projection : ActiveSearchProjection) : Bool :=
  selection.all (·.contains projection)

structure SemanticCandidate where
  projection : ActiveSearchProjection
  rank : Nat
  score : F32
  deriving DecidableEq

section Candidates

variable {Score : Type} [LinearOrder Score] (unit : FloatUnit Score)
  (search : List F32 → Nat → Nat → List Nat) (query : List F32) {documents : List VectorDocument}
  (selection : Option FilterSelection)

/-- What the selection leaves of the hits, counted from a rank on. -/
def selectedCandidates : Nat → List VectorHit → List SemanticCandidate
  | _, [] => []
  | rank, hit :: hits =>
      let projection := ⟨hit.identity.documentId, hit.identity.resumeVersionId⟩
      if selects selection projection then
        ⟨projection, rank + 1, hit.score⟩ :: selectedCandidates (rank + 1) hits
      else selectedCandidates (rank + 1) hits

def semanticCandidates (contract : VectorModelContract) (documents : List VectorDocument)
    (limit : HitLimit) : Except SearchRuntimeError (List SemanticCandidate) :=
  if contract = .disabled then .error .semanticDisabled
  else match readerKnn unit search query contract documents limit.get with
    | .error _ => .error .invalidRequest
    | .ok hits => .ok (selectedCandidates selection 0 hits)

/-- The selected documents that have a vector, as they are ranked. -/
def rankedSelected (documents : List VectorDocument) : List ActiveSearchProjection :=
  ((ranked unit query documents).filter (selects selection ·.pair)).map (·.pair)

/-- If a document that is not selected is ranked within the limit, then every selected one is. -/
def Undisturbed (documents : List VectorDocument) (limit : Nat) : Prop :=
  (∃ document ∈ documents, place unit query documents document < limit ∧
      selects selection document.pair = false) →
    ∀ document ∈ documents, selects selection document.pair = true →
      place unit query documents document < limit

variable {unit query selection}

theorem selectedCandidates_map (documents : List VectorDocument) (start : Nat) :
    (selectedCandidates selection start (documents.map (hit unit query))).map (·.projection) =
      (documents.filter (selects selection ·.pair)).map (·.pair) := by
  induction documents generalizing start with
  | nil => rfl
  | cons document documents ih =>
    rw [List.filter_cons]
    show List.map _ (if selects selection document.pair then _ else _) = _
    split
    · rw [List.map_cons, ih]
      rfl
    · exact ih _

theorem eq_take_append_iff {α : Type} {first rest : List α} {k : Nat} (short : first.length ≤ k) :
    first = (first ++ rest).take k ↔ first.length = k ∨ rest = [] := by
  rw [List.take_append, List.take_of_length_le short, List.self_eq_append_right,
    List.take_eq_nil_iff, Nat.sub_eq_zero_iff_le]
  exact or_congr_left ⟨le_antisymm short, Eq.ge⟩

/-- Selecting after the cut is selecting before it. -/
theorem best_iff (distinct : (documents.map (·.vectorId)).Nodup) {limit : Nat} :
    (((ranked unit query documents).take limit).filter (selects selection ·.pair)).map (·.pair) =
        (rankedSelected unit query selection documents).take limit ↔
      Undisturbed unit query selection documents limit := by
  have chosen_split : (ranked unit query documents).filter (selects selection ·.pair) =
      ((ranked unit query documents).take limit).filter (selects selection ·.pair) ++
        ((ranked unit query documents).drop limit).filter (selects selection ·.pair) := by
    rw [← List.filter_append, List.take_append_drop]
  have short : (((ranked unit query documents).take limit).filter
      (selects selection ·.pair)).length ≤ limit :=
    (List.length_filter_le _ _).trans (List.length_take_le _ _)
  rw [rankedSelected, chosen_split, List.map_append, eq_take_append_iff (by simpa using short),
    List.length_map, List.map_eq_nil_iff]
  constructor
  · rintro (full | none) ⟨other, there, early, unchosen⟩ document member chosen
    · have whole := le_antisymm (List.length_filter_le _ _)
        ((List.length_take_le limit (ranked unit query documents)).trans full.ge)
      have chosen := List.length_filter_eq_length_iff.mp whole other
        ((mem_take_ranked there).mpr early)
      rw [unchosen] at chosen
      cases chosen
    · have listed : document ∈ ranked unit query documents := perm_ranked.symm.subset member
      rw [← List.take_append_drop limit (ranked unit query documents), List.mem_append] at listed
      obtain here | later := listed
      · exact (mem_take_ranked member).mp here
      · exact absurd chosen (List.filter_eq_nil_iff.mp none document later)
  · intro quiet
    by_cases all : ∀ document ∈ (ranked unit query documents).take limit,
        selects selection document.pair = true
    · rw [List.filter_eq_self.mpr all]
      by_cases full : limit ≤ (ranked unit query documents).length
      · exact .inl (List.length_take_of_le full)
      · rw [List.drop_eq_nil_of_le (by omega)]
        exact .inr rfl
    · push Not at all
      obtain ⟨other, there, unchosen⟩ := all
      have known := perm_ranked.subset (List.mem_of_mem_take there)
      have early := (mem_take_ranked known).mp there
      refine .inr (List.filter_eq_nil_iff.mpr fun document later chosen => ?_)
      have member := perm_ranked.subset (List.mem_of_mem_drop later)
      have within := quiet ⟨other, known, early, Bool.eq_false_iff.mpr unchosen⟩ document member
        chosen
      exact List.disjoint_take_drop (nodup_ranked distinct) le_rfl
        ((mem_take_ranked member).mpr within) later

end Candidates

/-- **The best selected candidates.** With an exact search of neighbours, and for every query of
the dimension of the generation, every limit and every selection, the candidates are the
selected documents up to the limit, as they are ranked, exactly if no document that is not
selected takes the place of a selected one. -/
theorem semantic_candidates_best_iff {Score : Type} [LinearOrder Score] (unit : FloatUnit Score)
    (search : List F32 → Nat → Nat → List Nat) (sha256 : List UInt8 → ContentDigest)
    (projection : List ActiveSearchProjection) (documents : List VectorDocument)
    (modelId : String) (query : List F32) (selection : Option FilterSelection) (limit : HitLimit)
    (valid : validateDocuments sha256 (.enabled modelId query.length) projection documents = .ok ())
    (exact : ExactSearch unit search query documents) :
    ∃ candidates, semanticCandidates unit search query selection (.enabled modelId query.length)
        documents limit = .ok candidates ∧
      (candidates.map (·.projection) =
          (rankedSelected unit query selection documents).take limit.get ↔
        Undisturbed unit query selection documents limit.get) := by
  have distinct := (validateDocuments_eq_ok.mp valid).2.distinct
  have found : readerKnn unit search query (.enabled modelId query.length) documents limit.get =
      .ok (((ranked unit query documents).take limit.get).map (hit unit query)) := by
    rw [readerKnn, ← annKnn_eq distinct exact]
    simp only [validateDimension]
    rfl
  refine ⟨_, by rw [semanticCandidates, if_neg (by rintro ⟨⟩), found], ?_⟩
  rw [selectedCandidates_map]
  exact best_iff distinct

/-- Numbers that are compared as they are, with the first of a vector for its similarity. -/
def sampleUnit : FloatUnit Nat :=
  ⟨fun values => values.headD 0, fun _ right => right, fun dot _ => dot, id, UInt32.toNat⟩

def sampleNear : VectorDocument :=
  ⟨⟨⟨"vec_00000000000000000000000000000000", Eq.refl true⟩,
    ⟨"doc_00000000000000000000000000000000", Eq.refl true⟩,
    ⟨"ver_00000000000000000000000000000000", Eq.refl true⟩, "e5-small"⟩, [2]⟩

def sampleFar : VectorDocument :=
  ⟨⟨⟨"vec_11111111111111111111111111111111", by decide⟩,
    ⟨"doc_11111111111111111111111111111111", by decide⟩,
    ⟨"ver_11111111111111111111111111111111", by decide⟩, "e5-small"⟩, [1]⟩

/-- The nearest document is not selected, and there is room for the selected one beside it. -/
theorem semantic_candidates_best_of_selected :
    place sampleUnit [1] [sampleNear, sampleFar] sampleNear < 2 ∧
      ∃ candidates, semanticCandidates sampleUnit (fun _ count _ => List.range count) [1]
          (some ⟨[sampleFar.pair], by decide⟩) (.enabled "e5-small" 1) [sampleNear, sampleFar]
          ⟨2, by decide, by decide⟩ = .ok candidates ∧
        candidates.map (·.projection) = [sampleFar.pair] := by
  obtain ⟨candidates, done, best⟩ := semantic_candidates_best_iff sampleUnit
    (fun _ count _ => List.range count) (fun _ => ⟨""⟩) [sampleNear.pair, sampleFar.pair]
    [sampleNear, sampleFar] "e5-small" [1] (some ⟨[sampleFar.pair], by decide⟩)
    ⟨2, by decide, by decide⟩ (by decide +kernel) (by decide +kernel)
  refine ⟨by decide +kernel, candidates, done, (best.mpr fun _ => ?_).trans (by decide +kernel)⟩
  decide +kernel

/-- The nearest document is not selected, and the selected one is not found. -/
theorem unselected_document_hides_selected :
    ∃ (search : List F32 → Nat → Nat → List Nat) (selection : FilterSelection) (limit : HitLimit),
      ExactSearch sampleUnit search [1] [sampleNear, sampleFar] ∧
      validateDocuments (fun _ => ⟨""⟩) (.enabled "e5-small" 1) [sampleNear.pair, sampleFar.pair]
        [sampleNear, sampleFar] = .ok () ∧
      semanticCandidates sampleUnit search [1] (some selection)
        (.enabled "e5-small" 1) [sampleNear, sampleFar] limit = .ok [] ∧
      (rankedSelected sampleUnit [1] (some selection) [sampleNear, sampleFar]).take limit.get =
        [sampleFar.pair] := by
  refine ⟨fun _ count _ => List.range count, ⟨[sampleFar.pair], by decide⟩,
    ⟨1, by decide, by decide⟩, ?_⟩
  decide +kernel

end ResumeIr.SearchRuntime
