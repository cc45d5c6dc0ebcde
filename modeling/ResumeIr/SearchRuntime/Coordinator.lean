import ResumeIr.IndexVector.Snapshot
import ResumeIr.MetaStore.Publication.Model

/-!
# The query coordinator

The coordinator owns the readers that queries run on. It keeps the validated
full-text reader and the validated vector reader of the generation it last
served, and at most one pending generation: a pair of readers prepared before
their publication is committed.

Every query reads the head in a metadata snapshot and compares the cached
readers with it. A reader of another generation, or of another publication
under the same generation name, is dropped and opened again.

Everything a call finds outside the coordinator is one record
(`Surroundings`): the leases, the head, the audited projection, the artifacts
and the end of the read transaction. Calls keep the writes made before a
failure, as methods on a mutable receiver do.
-/

namespace ResumeIr.SearchRuntime

open CoreDomain MetaStore IndexVector Foundation.Fallible

inductive SearchRuntimeError where
  | unavailable
  | integrity
  | semanticDisabled
  | selectionTooLarge
  | invalidRequest
  deriving DecidableEq

/-! ## Artifacts -/

/-- What the manifest of an opened full-text snapshot says. -/
structure FullTextSnapshotMetadata where
  generation : String
  documentCount : Nat
  projectionDigest : SearchProjectionDigest
  logicalContentDigest : ContentDigest

/-- An opened full-text snapshot. The identity pairs are read from the index
itself, which can fail. -/
structure FullTextIndex where
  snapshotMetadata : Option FullTextSnapshotMetadata
  exactIdentityPairs : Option (List (String × String))

/-- An opened vector snapshot. -/
structure VectorSnapshotReader where
  summary : VectorSnapshotSummary
  exactProjection : List ActiveSearchProjection

/-- What one call finds outside the coordinator. -/
structure Surroundings where
  /-- The canonical form of the data directory, if it can be resolved. -/
  canonicalDataDir : Option String
  /-- Whether a read lease on the full-text root is granted. -/
  fulltextLease : Bool
  /-- Whether the vector root can be used at all. -/
  vectorRoot : Bool
  /-- Whether a read lease on the vector root is granted. -/
  vectorLease : Bool
  /-- The ready head, or the error the transaction reports in its place. -/
  readyHead : Except SearchRuntimeError SearchMetadataHead
  /-- The audited active projection, absent when the audit fails. -/
  validatedActiveProjections : Option (List ActiveSearchProjection)
  /-- Opening a full-text generation: an error, no such generation, or a reader. -/
  openFulltext : String → Except Unit (Option FullTextIndex)
  /-- Opening a vector generation under a model contract. -/
  openVector : String → VectorModelContract → Option VectorSnapshotReader
  /-- Whether the read transaction ends without a storage error. -/
  commits : Bool

/-! ## The coordinator's state -/

/-- The exact publication a reader was validated for. -/
structure CacheKey where
  generation : String
  publicationFingerprint : ContentDigest
  deriving DecidableEq

structure ValidatedFullTextGeneration where
  key : CacheKey
  fulltext : FullTextIndex

structure ValidatedVectorGeneration where
  key : CacheKey
  vector : VectorSnapshotReader

/-- A pair of readers prepared for one publication. The only constructor of the
source opens both under one key. -/
structure PreparedQueryGeneration where
  dataDir : String
  fulltext : ValidatedFullTextGeneration
  vector : ValidatedVectorGeneration
  sameKey : fulltext.key = vector.key

structure QueryCoordinator where
  dataDir : String
  fulltextCache : Option ValidatedFullTextGeneration
  vectorCache : Option ValidatedVectorGeneration
  pendingGeneration : Option PreparedQueryGeneration
  pendingArtifactFault : Option CacheKey

/-- A call on the coordinator. -/
abbrev Call := EStateM SearchRuntimeError QueryCoordinator

/-- A coordinator as `open` returns it: nothing resident, nothing pending. -/
def QueryCoordinator.opened (dataDir : String) : QueryCoordinator where
  dataDir := dataDir
  fulltextCache := none
  vectorCache := none
  pendingGeneration := none
  pendingArtifactFault := none

/-! ## Opening and validating one generation -/

/-- A failed validation either blames the metadata or an exact artifact. -/
inductive GenerationValidationError where
  | metadata (error : SearchRuntimeError)
  | artifact (key : CacheKey) (error : SearchRuntimeError)

def cacheKey (publication : SearchPublicationRecord) : Except SearchRuntimeError CacheKey :=
  match publication.publicationFingerprint with
  | none => .error .integrity
  | some fingerprint => .ok ⟨publication.generation, fingerprint⟩

def validateFulltext (fulltext : FullTextIndex) (descriptor : FullTextSnapshotDescriptor)
    (projections : List ActiveSearchProjection) : Except SearchRuntimeError Unit :=
  match fulltext.snapshotMetadata, fulltext.exactIdentityPairs with
  | some metadata, some identities =>
      if metadata.generation ≠ descriptor.generation
          ∨ metadata.documentCount ≠ descriptor.documentCount
          ∨ metadata.projectionDigest ≠ descriptor.projectionDigest
          ∨ metadata.logicalContentDigest ≠ descriptor.logicalContentDigest
          ∨ identities ≠ projections.map fun p => (p.documentId.asStr, p.resumeVersionId.asStr)
      then .error .integrity
      else .ok ()
  | _, _ => .error .integrity

def vectorContract : VectorSnapshotMode → Except SearchRuntimeError VectorModelContract
  | .disabled => .ok .disabled
  | .enabled modelId dimension =>
      match (VectorModelContract.enabled modelId dimension).validate with
      | .ok () => .ok (.enabled modelId dimension)
      | .error _ => .error .integrity

def validateVector (vector : VectorSnapshotReader) (descriptor : VectorSnapshotDescriptor)
    (projections : List ActiveSearchProjection) (contract : VectorModelContract) :
    Except SearchRuntimeError Unit :=
  if vector.summary.generation ≠ descriptor.generation
      ∨ vector.summary.modelContract ≠ contract
      ∨ vector.summary.projectionCount ≠ descriptor.projectionCount
      ∨ vector.summary.vectorCount ≠ descriptor.vectorCount
      ∨ vector.summary.vectorDocumentCount ≠ descriptor.documentCount
      ∨ vector.summary.projectionDigest ≠ descriptor.projectionDigest
      ∨ vector.summary.coverageDigest ≠ descriptor.coverageDigest
      ∨ vector.summary.logicalContentDigest ≠ descriptor.logicalContentDigest
      ∨ vector.exactProjection ≠ projections
  then .error .integrity
  else .ok ()

def openFulltextGeneration (env : Surroundings) (key : CacheKey)
    (descriptor : FullTextSnapshotDescriptor) (projections : List ActiveSearchProjection) :
    Except GenerationValidationError ValidatedFullTextGeneration :=
  match env.openFulltext key.generation with
  | .error () => .error (.artifact key .integrity)
  | .ok none => .error (.artifact key .unavailable)
  | .ok (some fulltext) =>
      match validateFulltext fulltext descriptor projections with
      | .error error => .error (.artifact key error)
      | .ok () => .ok ⟨key, fulltext⟩

def openVectorGeneration (env : Surroundings) (key : CacheKey)
    (descriptor : VectorSnapshotDescriptor) (projections : List ActiveSearchProjection) :
    Except GenerationValidationError ValidatedVectorGeneration :=
  match vectorContract descriptor.mode with
  | .error error => .error (.metadata error)
  | .ok contract =>
      match env.openVector key.generation contract with
      | none => .error (.artifact key .integrity)
      | some vector =>
          match validateVector vector descriptor projections contract with
          | .error error => .error (.artifact key error)
          | .ok () => .ok ⟨key, vector⟩

def validateFulltextGeneration (env : Surroundings) (head : SearchMetadataHead) (key : CacheKey)
    (projections : List ActiveSearchProjection) :
    Except GenerationValidationError ValidatedFullTextGeneration :=
  match head.publication.fulltext with
  | none => .error (.metadata .integrity)
  | some descriptor =>
      if head.generation ≠ key.generation ∨ descriptor.generation ≠ key.generation then
        .error (.metadata .integrity)
      else openFulltextGeneration env key descriptor projections

def validateVectorGeneration (env : Surroundings) (head : SearchMetadataHead) (key : CacheKey)
    (projections : List ActiveSearchProjection) :
    Except GenerationValidationError ValidatedVectorGeneration :=
  match head.publication.vector with
  | none => .error (.metadata .integrity)
  | some descriptor =>
      if head.generation ≠ key.generation ∨ descriptor.generation ≠ key.generation then
        .error (.metadata .integrity)
      else openVectorGeneration env key descriptor projections

variable {env : Surroundings} {head : SearchMetadataHead} {key : CacheKey}
  {projections : List ActiveSearchProjection}

theorem openFulltextGeneration_key {descriptor : FullTextSnapshotDescriptor}
    {validated : ValidatedFullTextGeneration}
    (opened : openFulltextGeneration env key descriptor projections = .ok validated) :
    validated.key = key := by
  unfold openFulltextGeneration at opened
  split at opened <;> try cases opened
  split at opened <;> cases opened
  rfl

theorem openVectorGeneration_key {descriptor : VectorSnapshotDescriptor}
    {validated : ValidatedVectorGeneration}
    (opened : openVectorGeneration env key descriptor projections = .ok validated) :
    validated.key = key := by
  unfold openVectorGeneration at opened
  split at opened <;> try cases opened
  split at opened <;> try cases opened
  split at opened <;> cases opened
  rfl

/-- A validated full-text reader carries the key it was opened under. -/
theorem validateFulltextGeneration_key {validated : ValidatedFullTextGeneration}
    (opened : validateFulltextGeneration env head key projections = .ok validated) :
    validated.key = key := by
  unfold validateFulltextGeneration at opened
  split at opened
  · cases opened
  · split at opened
    · cases opened
    · exact openFulltextGeneration_key opened

/-- A validated vector reader carries the key it was opened under. -/
theorem validateVectorGeneration_key {validated : ValidatedVectorGeneration}
    (opened : validateVectorGeneration env head key projections = .ok validated) :
    validated.key = key := by
  unfold validateVectorGeneration at opened
  split at opened
  · cases opened
  · split at opened
    · cases opened
    · exact openVectorGeneration_key opened

/-! ## Prepared generations -/

def generationValidationError : GenerationValidationError → SearchRuntimeError
  | .metadata error => error
  | .artifact _ error => error

/-- `PreparedQueryGeneration::open`. The leases are taken after the record has
been checked and before either artifact is opened. -/
def PreparedQueryGeneration.open (env : Surroundings) (publication : SearchPublicationRecord)
    (projections : List ActiveSearchProjection) :
    Except SearchRuntimeError PreparedQueryGeneration :=
  if publication.state ≠ .validated ∧ publication.state ≠ .ready then .error .unavailable
  else
    match env.canonicalDataDir with
    | none => .error .unavailable
    | some dataDir =>
      match cacheKey publication with
      | .error error => .error error
      | .ok key =>
        match publication.fulltext, publication.vector with
        | some fulltextDescriptor, some vectorDescriptor =>
          if ¬ (env.fulltextLease ∧ env.vectorRoot ∧ env.vectorLease) then .error .unavailable
          else
            match hf : openFulltextGeneration env key fulltextDescriptor projections with
            | .error error => .error (generationValidationError error)
            | .ok fulltext =>
              match hv : openVectorGeneration env key vectorDescriptor projections with
              | .error error => .error (generationValidationError error)
              | .ok vector =>
                .ok ⟨dataDir, fulltext, vector,
                  (openFulltextGeneration_key hf).trans (openVectorGeneration_key hv).symm⟩
        | _, _ => .error .integrity

/-! ## The calls -/

/-- Whether a cached reader is the reader of the given publication. -/
def fulltextMatches (key : CacheKey) (c : QueryCoordinator) : Bool :=
  c.fulltextCache.any fun cached => cached.key == key

def vectorMatches (key : CacheKey) (c : QueryCoordinator) : Bool :=
  c.vectorCache.any fun cached => cached.key == key

/-- The end of a metadata snapshot: the result of its body, unless the body
succeeded and the read transaction fails to end. -/
def concludeSnapshot {α : Type} (env : Surroundings) (result : Except SearchRuntimeError α) :
    Call α :=
  match result with
  | .ok value => if env.commits then pure value else throw .unavailable
  | .error error => throw error

def prepareCurrentGeneration (env : Surroundings) : Call Unit := do
  let head ← ofExcept env.readyHead
  let projections ← demand env.validatedActiveProjections .integrity
  concludeSnapshot env (.ok ())
  let prepared ← ofExcept (PreparedQueryGeneration.open env head.publication projections)
  modify fun c =>
    { c with
      fulltextCache := some prepared.fulltext
      vectorCache := some prepared.vector
      pendingGeneration := none }

def installPreparedGeneration (prepared : PreparedQueryGeneration) : Call Unit := do
  let c ← get
  require (prepared.dataDir = c.dataDir) .integrity
  require (c.pendingGeneration = none) .unavailable
  set { c with pendingGeneration := some prepared }

def activatePreparedGeneration (env : Surroundings) : Call Unit := do
  let head ← ofExcept env.readyHead
  let key ← ofExcept (cacheKey head.publication)
  concludeSnapshot env (.ok ())
  let c ← get
  match c.pendingGeneration with
  | some prepared =>
      -- the pending pair is taken before it is compared, so a mismatch drops it
      set { c with pendingGeneration := none }
      require (prepared.fulltext.key = key ∧ prepared.vector.key = key) .integrity
      set { c with
        fulltextCache := some prepared.fulltext
        vectorCache := some prepared.vector
        pendingGeneration := none }
  | none => require (fulltextMatches key c ∧ vectorMatches key c) .unavailable

def discardPreparedGeneration : Call Unit :=
  modify fun c => { c with pendingGeneration := none }

/-- The keys of the resident readers, in the order they are collected. -/
def residentKeys (c : QueryCoordinator) : List CacheKey :=
  (c.fulltextCache.map (·.key)).toList ++ (c.vectorCache.map (·.key)).toList ++
    (c.pendingGeneration.map (·.fulltext.key)).toList

/-- Drop the elements equal to the one kept last. -/
def dedupAfter (kept : CacheKey) : List CacheKey → List CacheKey
  | [] => []
  | key :: rest => if key = kept then dedupAfter kept rest else key :: dedupAfter key rest

/-- Remove consecutive equal elements, keeping the first of each stretch. -/
def dedup : List CacheKey → List CacheKey
  | [] => []
  | key :: rest => key :: dedupAfter key rest

/-- `resident_generation_count`: sort by generation name, drop consecutive
duplicates, count. -/
def residentGenerationCount (c : QueryCoordinator) : Nat :=
  (dedup ((residentKeys c).insertionSort fun left right =>
    left.generation ≤ right.generation)).length

def takeArtifactFault : Call (Option CacheKey) := do
  let c ← get
  set { c with pendingArtifactFault := none }
  return c.pendingArtifactFault

def adoptPendingGeneration (key : CacheKey) : Call Unit := do
  let c ← get
  if fulltextMatches key c && vectorMatches key c then return
  match c.pendingGeneration with
  | none => return
  | some prepared =>
      require (prepared.fulltext.key = key ∧ prepared.vector.key = key) .unavailable
      set { c with
        fulltextCache := some prepared.fulltext
        vectorCache := some prepared.vector
        pendingGeneration := none }

/-- An artifact failure is remembered before it is reported. -/
def recordGenerationError {α : Type} : GenerationValidationError → Call α
  | .metadata error => throw error
  | .artifact key error => do
      modify fun c => { c with pendingArtifactFault := some key }
      throw error

def clearReaders : Call Unit :=
  modify fun c => { c with fulltextCache := none, vectorCache := none }

def reopenFulltext (env : Surroundings) (head : SearchMetadataHead) (key : CacheKey)
    (projections : List ActiveSearchProjection) : Call Unit :=
  match validateFulltextGeneration env head key projections with
  | .ok validated => modify fun c => { c with fulltextCache := some validated }
  | .error error => recordGenerationError error

def reopenVector (env : Surroundings) (head : SearchMetadataHead) (key : CacheKey)
    (projections : List ActiveSearchProjection) : Call Unit :=
  match validateVectorGeneration env head key projections with
  | .ok validated => modify fun c => { c with vectorCache := some validated }
  | .error error => recordGenerationError error

/-- What a composite operation is handed: the snapshot's head and both readers. -/
structure QueryScope where
  head : SearchMetadataHead
  fulltext : ValidatedFullTextGeneration
  vector : ValidatedVectorGeneration

/-- What a lexical operation is handed. -/
structure LexicalQueryScope where
  head : SearchMetadataHead
  fulltext : ValidatedFullTextGeneration

/-- Drop both readers and open the changed ones again. A reader that had not
changed is dropped all the same. -/
def reopenChanged (env : Surroundings) (head : SearchMetadataHead) (key : CacheKey)
    (projections : List ActiveSearchProjection) (fulltextChanged vectorChanged : Bool) :
    Call Unit := do
  clearReaders
  if fulltextChanged then reopenFulltext env head key projections
  if vectorChanged then reopenVector env head key projections

/-- Bring both readers up to the given publication. -/
def refreshReaders (env : Surroundings) (head : SearchMetadataHead) (key : CacheKey) :
    Call Unit := do
  let c ← get
  let fulltextChanged := !fulltextMatches key c
  let vectorChanged := !vectorMatches key c
  if fulltextChanged || vectorChanged then
    let projections ← demand env.validatedActiveProjections .integrity
    reopenChanged env head key projections fulltextChanged vectorChanged

/-- Bring the full-text reader up to the given publication. -/
def refreshFulltext (env : Surroundings) (head : SearchMetadataHead) (key : CacheKey) :
    Call Unit := do
  let c ← get
  if !fulltextMatches key c then
    clearReaders
    let projections ← demand env.validatedActiveProjections .integrity
    reopenFulltext env head key projections

/-- The start of every query: read the head, and take over a pending pair that
was prepared for exactly this head. -/
def adoptReadyHead (env : Surroundings) : Call (SearchMetadataHead × CacheKey) := do
  let head ← ofExcept env.readyHead
  let key ← ofExcept (cacheKey head.publication)
  adoptPendingGeneration key
  return (head, key)

/-- Hand out both resident readers. -/
def handReaders (head : SearchMetadataHead) : Call QueryScope := do
  let c ← get
  let fulltext ← demand c.fulltextCache .integrity
  let vector ← demand c.vectorCache .integrity
  return { head, fulltext, vector }

/-- Hand out the resident full-text reader. -/
def handFulltext (head : SearchMetadataHead) : Call LexicalQueryScope := do
  let c ← get
  let fulltext ← demand c.fulltextCache .integrity
  return { head, fulltext }

/-- The part of `with_query` before its operation runs. -/
def openQueryScope (env : Surroundings) : Call QueryScope := do
  require (env.fulltextLease = true) .unavailable
  require (env.vectorLease = true) .unavailable
  let (head, key) ← adoptReadyHead env
  refreshReaders env head key
  handReaders head

/-- The part of `with_lexical_query` before its operation runs. -/
def openLexicalQueryScope (env : Surroundings) : Call LexicalQueryScope := do
  require (env.fulltextLease = true) .unavailable
  let (head, key) ← adoptReadyHead env
  refreshFulltext env head key
  handFulltext head

def withQuery {α : Type} (env : Surroundings)
    (operation : QueryScope → Except SearchRuntimeError α) : Call α := do
  let scope ← openQueryScope env
  concludeSnapshot env (operation scope)

def withLexicalQuery {α : Type} (env : Surroundings)
    (operation : LexicalQueryScope → Except SearchRuntimeError α) : Call α := do
  let scope ← openLexicalQueryScope env
  concludeSnapshot env (operation scope)

end ResumeIr.SearchRuntime
