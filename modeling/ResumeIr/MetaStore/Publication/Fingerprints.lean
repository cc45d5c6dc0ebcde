import ResumeIr.MetaStore.Publication.Validation

/-!
# What the identity hashes are computed from

A publication is named by the hash of its descriptors, and a projection by the
hash of its pairs. Every part of the hashed bytes is preceded by its length, so
the parts can be cut off one after another (`parts_inj`). Equal bytes therefore
come from equal fields, whatever the hash does with them.

A text in memory has fewer than 2 ^ 64 bytes, and the counts and dimensions of
the source are 64-bit and 32-bit numbers. All three are unbounded in the model,
so the bounds are stated here.
-/

namespace ResumeIr.MetaStore

open CoreDomain

/-! ## Parts and numbers -/

theorem toLeBytes_inj {m n : Nat} (small : m < 2 ^ 64) (small' : n < 2 ^ 64)
    (same : toLeBytes m = toLeBytes n) : m = n := by
  simp [toLeBytes, List.range_succ, ← UInt8.toNat_inj] at same
  omega

theorem toLeBytes32_inj {m n : Nat} (small : m < 2 ^ 32) (small' : n < 2 ^ 32)
    (same : toLeBytes32 m = toLeBytes32 n) : m = n := by
  simp [toLeBytes32, toLeBytes, List.range_succ, ← UInt8.toNat_inj] at same
  omega

theorem bytesOf_inj {text other : String} : bytesOf text = bytesOf other ↔ text = other := by
  simp [bytesOf, ← ByteArray.ext_iff, String.toByteArray_inj]

/-- Parts with their lengths can be told apart. -/
theorem parts_inj {parts others : List (List UInt8)} (small : ∀ part ∈ parts, part.length < 2 ^ 64)
    (small' : ∀ part ∈ others, part.length < 2 ^ 64)
    (same : parts.flatMap contentAddressedPart = others.flatMap contentAddressedPart) :
    parts = others := by
  induction parts generalizing others with
  | nil =>
    cases others with
    | nil => rfl
    | cons part rest => simp [contentAddressedPart, toLeBytes] at same
  | cons part rest ih =>
    cases others with
    | nil => simp [contentAddressedPart, toLeBytes] at same
    | cons part' rest' =>
      obtain ⟨fits, later⟩ := List.forall_mem_cons.mp small
      obtain ⟨fits', later'⟩ := List.forall_mem_cons.mp small'
      simp only [List.flatMap_cons, contentAddressedPart, List.append_assoc] at same
      obtain ⟨lengths, same⟩ := List.append_inj same (by simp [toLeBytes])
      obtain ⟨rfl, rests⟩ := List.append_inj same (toLeBytes_inj fits fits' lengths)
      rw [ih later later' rests]

/-! ## Publications -/

/-- What the fingerprint of a publication is computed from. -/
structure Fingerprinted where
  classifierEpoch : String
  projectionDigest : SearchProjectionDigest
  fulltext : FullTextSnapshotDescriptor
  vector : VectorSnapshotDescriptor

namespace Fingerprinted

def fingerprint (sha256 : List UInt8 → ContentDigest) (p : Fingerprinted) : ContentDigest :=
  searchPublicationFingerprint sha256 p.classifierEpoch p.projectionDigest p.fulltext p.vector

/-- The parts of the hashed bytes, without their lengths. -/
def parts (p : Fingerprinted) : List (List UInt8) :=
  [bytesOf "resume-ir.search-publication.v1", bytesOf p.classifierEpoch,
    bytesOf p.projectionDigest.digest.asStr, bytesOf fulltextManifestSchema,
    bytesOf fulltextIndexSchema, toLeBytes p.fulltext.documentCount,
    bytesOf p.fulltext.projectionDigest.digest.asStr,
    bytesOf p.fulltext.logicalContentDigest.asStr, bytesOf vectorManifestSchema,
    bytesOf vectorIndexSchema, toLeBytes p.vector.projectionCount,
    bytesOf p.vector.projectionDigest.digest.asStr, bytesOf p.vector.coverageDigest.digest.asStr,
    toLeBytes p.vector.vectorCount, toLeBytes p.vector.documentCount,
    toLeBytes p.vector.resumeVersionCount, bytesOf p.vector.logicalContentDigest.asStr] ++
  match p.vector.mode with
  | .disabled => [bytesOf "disabled"]
  | .enabled modelId dimension => [bytesOf "enabled", bytesOf modelId, toLeBytes32 dimension]

theorem fingerprint_eq (sha256 : List UInt8 → ContentDigest) (p : Fingerprinted) :
    p.fingerprint sha256 = sha256 (p.parts.flatMap contentAddressedPart) := by
  unfold fingerprint searchPublicationFingerprint parts
  cases p.vector.mode <;> simp

/-- The texts fit into memory, and the numbers into their types. -/
structure Encodable (p : Fingerprinted) : Prop where
  texts : ∀ part ∈ p.parts, part.length < 2 ^ 64
  counts : ∀ count ∈ [p.fulltext.documentCount, p.vector.projectionCount, p.vector.vectorCount,
    p.vector.documentCount, p.vector.resumeVersionCount], count < 2 ^ 64
  dimension : ∀ modelId dimension, p.vector.mode = .enabled modelId dimension → dimension < 2 ^ 32

/-- All fields that enter the fingerprint are the same; only the generations may differ. -/
def Agrees (p q : Fingerprinted) : Prop :=
  p = { q with
    fulltext := { q.fulltext with generation := p.fulltext.generation }
    vector := { q.vector with generation := p.vector.generation } }

theorem agrees_of_parts {p q : Fingerprinted} (fits : p.Encodable) (fits' : q.Encodable)
    (same : p.parts = q.parts) : p.Agrees q := by
  obtain ⟨fields, modes⟩ := List.append_inj same rfl
  have counts := fits.counts
  have counts' := fits'.counts
  have mode : p.vector.mode = q.vector.mode := by
    cases mode : p.vector.mode with
    | disabled =>
      cases mode' : q.vector.mode with
      | disabled => rfl
      | enabled modelId dimension => simp [mode, mode'] at modes
    | enabled modelId dimension =>
      cases mode' : q.vector.mode with
      | disabled => simp [mode, mode'] at modes
      | enabled modelId' dimension' =>
        simp only [mode, mode', List.cons.injEq, bytesOf_inj, true_and, and_true] at modes
        rw [modes.1, toLeBytes32_inj (fits.dimension _ _ mode) (fits'.dimension _ _ mode') modes.2]
  obtain ⟨epoch, ⟨⟨digest⟩⟩, ⟨_, _, ⟨⟨_⟩⟩, ⟨_⟩⟩, ⟨_, _, _, ⟨⟨_⟩⟩, ⟨⟨_⟩⟩, _, _, _, ⟨_⟩⟩⟩ := p
  obtain ⟨epoch', ⟨⟨digest'⟩⟩, ⟨_, _, ⟨⟨_⟩⟩, ⟨_⟩⟩, ⟨_, _, _, ⟨⟨_⟩⟩, ⟨⟨_⟩⟩, _, _, _, ⟨_⟩⟩⟩ := q
  simp only [List.cons.injEq, bytesOf_inj, List.forall_mem_cons] at *
  grind [toLeBytes_inj, Agrees]

end Fingerprinted

/-! ## Projections -/

def pairParts (pair : ActiveSearchProjection) : List (List UInt8) :=
  [bytesOf pair.documentId.asStr, bytesOf pair.resumeVersionId.asStr]

theorem length_bytesOf_id {label : String} (id : StableId label) :
    (bytesOf id.asStr).length = label.utf8ByteSize + idDigestHexLen := by
  have valid := id.valid
  simp only [validateStableId, Bool.and_eq_true, beq_iff_eq] at valid
  exact valid.1.2

theorem length_pairParts (pairs : List ActiveSearchProjection) :
    ∀ part ∈ pairs.flatMap pairParts, part.length < 2 ^ 64 := by
  intro part member
  obtain ⟨pair, -, one⟩ := List.mem_flatMap.mp member
  simp only [pairParts, List.mem_cons, List.not_mem_nil, or_false] at one
  obtain rfl | rfl := one <;> rw [length_bytesOf_id] <;> decide

theorem projectionBytes_inj {pairs others : List ActiveSearchProjection}
    (same : projectionBytes pairs = projectionBytes others) : pairs = others := by
  have flat : ∀ list : List ActiveSearchProjection,
      (list.flatMap fun pair => contentAddressedPart (bytesOf pair.documentId.asStr) ++
        contentAddressedPart (bytesOf pair.resumeVersionId.asStr)) =
      (list.flatMap pairParts).flatMap contentAddressedPart := by
    simp [List.flatMap_assoc, pairParts]
  simp only [projectionBytes, flat] at same
  have parts := parts_inj (length_pairParts pairs) (length_pairParts others)
    (List.append_inj same (by simp [toLeBytes])).2
  clear same
  induction pairs generalizing others with
  | nil =>
    cases others with
    | nil => rfl
    | cons pair rest => cases parts
  | cons pair rest ih =>
    cases others with
    | nil => cases parts
    | cons pair' rest' =>
      simp only [List.flatMap_cons, pairParts, List.cons_append, List.cons.injEq, bytesOf_inj,
        StableId.asStr_inj] at parts
      obtain ⟨document, version, later⟩ := parts
      rw [ih later, show pair = pair' by cases pair; cases pair'; simp_all]

/-- Bytes that no hash tells apart are the same. -/
theorem eq_of_every_hash {bytes others : List UInt8}
    (same : ∀ sha256 : List UInt8 → ContentDigest, sha256 bytes = sha256 others) :
    bytes = others := by
  have told := same fun input => ⟨if input = bytes then "same" else "other"⟩
  by_contra apart
  simp [Ne.symm apart] at told

/-- **Identities are hashes of injective encodings.** If no hash tells the input of two
fingerprints apart, the fingerprinted fields are the same, and if no hash tells the input
of two projection digests apart, the projections have the same pairs. -/
theorem identity_encodings_injective (p q : Fingerprinted) (fits : p.Encodable)
    (fits' : q.Encodable) (pairs others : List ActiveSearchProjection) :
    ((∀ sha256, p.fingerprint sha256 = q.fingerprint sha256) → p.Agrees q) ∧
    ((∀ sha256, ∃ digest,
        fromPairs sha256 pairs = .ok digest ∧ fromPairs sha256 others = .ok digest) →
      ∀ pair, pair ∈ pairs ↔ pair ∈ others) := by
  constructor
  · intro same
    simp only [Fingerprinted.fingerprint_eq] at same
    exact Fingerprinted.agrees_of_parts fits fits'
      (parts_inj fits.texts fits'.texts (eq_of_every_hash same))
  · intro same pair
    have bytes : projectionBytes (pairs.insertionSort pairLe) =
        projectionBytes (others.insertionSort pairLe) := by
      refine eq_of_every_hash fun sha256 => ?_
      obtain ⟨digest, known, known'⟩ := same sha256
      obtain ⟨-, -, rfl⟩ := fromPairs_eq_ok_iff.mp known
      obtain ⟨-, -, digests⟩ := fromPairs_eq_ok_iff.mp known'
      simpa using digests
    rw [← List.mem_insertionSort pairLe, projectionBytes_inj bytes, List.mem_insertionSort]

/-- An empty publication with vectors. -/
def sampleFingerprinted (generation : String) : Fingerprinted where
  classifierEpoch := classifierEpochDeterministic
  projectionDigest := ⟨⟨"pairs"⟩⟩
  fulltext := ⟨generation, 0, ⟨⟨"pairs"⟩⟩, ⟨"texts"⟩⟩
  vector := ⟨generation, .enabled "e5-small" 384, 0, ⟨⟨"pairs"⟩⟩, ⟨⟨"pairs"⟩⟩, 0, 0, 0, ⟨"vectors"⟩⟩

/-- Two generations of it have one fingerprint, and differ in nothing that enters it. -/
theorem identity_encodings_injective_for_generations :
    (sampleFingerprinted "a").Agrees (sampleFingerprinted "b") := by
  have fits : ∀ generation, (sampleFingerprinted generation).Encodable := fun generation =>
    ⟨by change ∀ part ∈ (sampleFingerprinted "").parts, part.length < 2 ^ 64; decide +kernel,
      by change ∀ count ∈ [0, 0, 0, 0, 0], count < 2 ^ 64; decide, by rintro _ _ ⟨⟩; decide⟩
  exact (identity_encodings_injective _ _ (fits "a") (fits "b") [] []).1 fun _ => rfl

end ResumeIr.MetaStore
