import ResumeIr.CoreDomain.Text
import ResumeIr.MetaStore.Publication.Tables

/-!
# Resume versions

A resume version is stored once and never changed. Its id is a hash of what the
version was made from, the digest of its text among the parts, so a version is
determined by its id as far as the hashes do not collide.

Ids have thirty-two digits, so two contents with one id exist. What the store
relies on is that no two versions it ever meets collide. A `Corpus` is a
collection of valid versions for which that is true, and in a corpus the id of a
version determines its document and its text (`Corpus.eq_of_id`).
-/

namespace ResumeIr.MetaStore

open CoreDomain Foundation Fallible

/-! ## Insertion -/

section Insertion

variable (sha256 : List UInt8 → ContentDigest) (contentId : List String → ResumeVersionId)

/-- The id of a version must be computed from its parts (`contentId` is
`ResumeVersionId::from_content_identity`) and its text must have the digest that
is one of them. -/
def validateResumeVersionIdentity (version : ResumeVersion) : Except MetaStoreError Unit := do
  let cleanText ← present version.cleanText (.invalidPersistedValue "resume_version.clean_text")
  check (cleanText.toList.contains (Char.ofNat 0) = false)
    (.invalidPersistedValue "resume_version.clean_text_nul")
  check (sha256 (bytesOf cleanText) = version.normalizedTextHash)
    (.invalidPersistedValue "resume_version.normalized_text_hash")
  check (contentId version.identityParts = version.id ∧ trim version.parseVersion ≠ "" ∧
    trim version.schemaVersion ≠ "") (.invalidPersistedValue "resume_version.identity")

inductive IdentityInsertOutcome where
  | inserted
  | alreadyPresent
  deriving DecidableEq

/-- `insert_resume_version_in_connection`. -/
def insertResumeVersion (versions : Table ResumeVersion.id) (version : ResumeVersion) :
    Except MetaStoreError (IdentityInsertOutcome × Table ResumeVersion.id) := do
  validateResumeVersionIdentity sha256 contentId version
  match versions.insert? version with
  | some next => return (.inserted, next)
  | none => do
      check (versions.find? version.id = some version) (.immutableIdentityConflict "resume_version")
      return (.alreadyPresent, versions)

end Insertion

/-! ## Corpora -/

/-- Valid versions, none of which collide: neither their ids nor the digests of
their texts. -/
structure Corpus (sha256 : List UInt8 → ContentDigest)
    (contentId : List String → ResumeVersionId) where
  holds : ResumeVersion → Prop
  valid : ∀ version, holds version →
    validateResumeVersionIdentity sha256 contentId version = .ok ()
  ids : ∀ first second, holds first → holds second →
    contentId first.identityParts = contentId second.identityParts →
      first.identityParts = second.identityParts
  texts : ∀ first second, holds first → holds second →
    ∀ left ∈ first.cleanText, ∀ right ∈ second.cleanText,
      sha256 (bytesOf left) = sha256 (bytesOf right) → left = right

namespace Corpus

variable {sha256 : List UInt8 → ContentDigest} {contentId : List String → ResumeVersionId}
  {corpus : Corpus sha256 contentId}

/-- What the validity of a version says about its id and its text. -/
theorem identity {version : ResumeVersion} (held : corpus.holds version) :
    contentId version.identityParts = version.id ∧
      ∃ text, version.cleanText = some text ∧
        sha256 (bytesOf text) = version.normalizedTextHash := by
  have valid := corpus.valid version held
  simp only [validateResumeVersionIdentity, bind_ok_iff, exists_const, check_eq_ok,
    present_eq_ok] at valid
  obtain ⟨text, clean, -, digest, identity, -, -⟩ := valid
  exact ⟨identity, text, clean, digest⟩

/-- The id of a version determines its document and its text. -/
theorem eq_of_id {first second : ResumeVersion} (left : corpus.holds first)
    (right : corpus.holds second) (same : first.id = second.id) :
    first.documentId = second.documentId ∧ first.cleanText = second.cleanText := by
  obtain ⟨firstId, firstText, firstClean, firstDigest⟩ := identity left
  obtain ⟨secondId, secondText, secondClean, secondDigest⟩ := identity right
  have parts := corpus.ids first second left right (firstId.trans (same.trans secondId.symm))
  simp only [ResumeVersion.identityParts, List.cons.injEq] at parts
  obtain ⟨documents, -, hashes, -⟩ := parts
  have digests : first.normalizedTextHash = second.normalizedTextHash := by
    cases hash : first.normalizedTextHash
    cases hash' : second.normalizedTextHash
    rw [hash, hash'] at hashes
    cases hashes
    rfl
  have texts := corpus.texts first second left right firstText firstClean secondText secondClean
    (by rw [firstDigest, secondDigest, digests])
  exact ⟨StableId.ext_asStr documents, by rw [firstClean, secondClean, texts]⟩

/-- A version that is inserted into a table of the corpus keeps it one. -/
theorem insertResumeVersion_ok {versions next : Table ResumeVersion.id} {version : ResumeVersion}
    {outcome : IdentityInsertOutcome}
    (done : insertResumeVersion sha256 contentId versions version = .ok (outcome, next))
    (held : corpus.holds version) (stored : ∀ other ∈ versions, corpus.holds other) :
    ∀ other ∈ next, corpus.holds other := by
  obtain ⟨_, _, done⟩ := bind_ok_iff.mp done
  cases inserted : versions.insert? version with
  | some table =>
    simp only [inserted] at done
    cases done
    intro other member
    obtain rfl | old := (Table.mem_insert? inserted).mp member
    · exact held
    · exact stored other old
  | none =>
    simp only [inserted] at done
    obtain ⟨_, ⟨⟩⟩ := check_bind_eq_ok.mp done
    exact stored

end Corpus

end ResumeIr.MetaStore
