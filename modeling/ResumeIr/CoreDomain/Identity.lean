import Mathlib.Data.List.Sort
import Mathlib.Data.Prod.Lex
import Mathlib.Data.String.Basic

/-!
# Content identities

Documents and resume versions are named by stable ids: a fixed label followed
by thirty-two hexadecimal digits. A search projection pairs a document with the
version of it that search shows, and the digest of a projection is the hash of
its canonical byte encoding.

The hash is a parameter of everything that computes a digest. The encoding is
the source's: every part is preceded by its length in eight little-endian
bytes, and the pairs are sorted before they are written, so the order in which
they are given does not matter (`fromPairs_perm`).
-/

namespace ResumeIr.CoreDomain

/-! ## Stable ids -/

/-- The number of hexadecimal digits after the label of a stable id. -/
def idDigestHexLen : Nat := 32

def isAsciiHexdigit (c : Char) : Bool :=
  ('0' ≤ c && c ≤ '9') || ('a' ≤ c && c ≤ 'f') || ('A' ≤ c && c ≤ 'F')

/-- The check that `from_str` makes for the id type with the given label. -/
def validateStableId (label value : String) : Bool :=
  label.toList.isPrefixOf value.toList
    && value.utf8ByteSize == label.utf8ByteSize + idDigestHexLen
    && (value.toList.drop label.length).all isAsciiHexdigit

/-- A text that the id type with the given label accepts. -/
structure StableId (label : String) where
  asStr : String
  valid : validateStableId label asStr = true
  deriving DecidableEq

instance (label : String) : LawfulBEq (StableId label) := inferInstance

abbrev DocumentId := StableId "doc_"
abbrev ResumeVersionId := StableId "ver_"

theorem StableId.ext_asStr {label : String} {first second : StableId label}
    (same : first.asStr = second.asStr) : first = second := by
  cases first
  cases second
  cases same
  rfl

theorem StableId.asStr_inj {label : String} {first second : StableId label} :
    first.asStr = second.asStr ↔ first = second :=
  ⟨ext_asStr, congrArg _⟩

/-- A content digest, as the text the source keeps it in. -/
structure ContentDigest where
  asStr : String
  deriving DecidableEq

/-- One document with the version of it that search shows. -/
structure ActiveSearchProjection where
  documentId : DocumentId
  resumeVersionId : ResumeVersionId
  deriving DecidableEq

/-! ## The projection digest -/

/-- The digest of a complete projection. -/
structure SearchProjectionDigest where
  digest : ContentDigest
  deriving DecidableEq

/-- `from_pairs` also rejects malformed ids; ids here are well formed by type. -/
inductive SearchProjectionDigestError where
  | duplicateDocument
  | duplicateResumeVersion
  deriving DecidableEq

/-- The eight little-endian bytes of a 64-bit number. -/
def toLeBytes (n : Nat) : List UInt8 :=
  (List.range 8).map fun i => UInt8.ofNat (n / 256 ^ i)

def bytesOf (text : String) : List UInt8 := text.toUTF8.data.toList

/-- A part of a hashed encoding, preceded by its length. -/
def contentAddressedPart (part : List UInt8) : List UInt8 :=
  toLeBytes part.length ++ part

/-- The order in which pairs are written: by document, then by version. -/
def pairLe (first second : ActiveSearchProjection) : Prop :=
  first.documentId.asStr < second.documentId.asStr ∨
    (first.documentId.asStr = second.documentId.asStr ∧
      first.resumeVersionId.asStr ≤ second.resumeVersionId.asStr)

instance : DecidableRel pairLe := fun _ _ =>
  inferInstanceAs (Decidable (_ < _ ∨ (_ = _ ∧ _ ≤ _)))

/-- The bytes hashed for a list of pairs that is already in order. -/
def projectionBytes (canonical : List ActiveSearchProjection) : List UInt8 :=
  contentAddressedPart (bytesOf "resume-ir.search-projection.v1") ++
    toLeBytes canonical.length ++
    canonical.flatMap fun pair =>
      contentAddressedPart (bytesOf pair.documentId.asStr) ++
        contentAddressedPart (bytesOf pair.resumeVersionId.asStr)

/-- Walk over the pairs and reject the first repeated document or version. -/
def checkDistinct (documents : List DocumentId) (versions : List ResumeVersionId) :
    List ActiveSearchProjection → Except SearchProjectionDigestError Unit
  | [] => .ok ()
  | pair :: rest =>
      if pair.documentId ∈ documents then .error .duplicateDocument
      else if pair.resumeVersionId ∈ versions then .error .duplicateResumeVersion
      else checkDistinct (pair.documentId :: documents) (pair.resumeVersionId :: versions) rest

/-- `SearchProjectionDigest::from_pairs`, over a hash of byte strings. -/
def fromPairs (sha256 : List UInt8 → ContentDigest) (pairs : List ActiveSearchProjection) :
    Except SearchProjectionDigestError SearchProjectionDigest :=
  match checkDistinct [] [] pairs with
  | .error error => .error error
  | .ok () => .ok ⟨sha256 (projectionBytes (pairs.insertionSort pairLe))⟩

/-! ## Order does not matter -/

theorem insertionSort_eq_of_perm {α : Type*} (r : α → α → Prop) [DecidableRel r] [Std.Total r]
    [IsTrans α r] [Std.Antisymm r] {first second : List α} (same : first.Perm second) :
    first.insertionSort r = second.insertionSort r :=
  List.Perm.eq_of_pairwise' (List.pairwise_insertionSort r first)
    (List.pairwise_insertionSort r second)
    ((List.perm_insertionSort r first).trans (same.trans (List.perm_insertionSort r second).symm))

/-- What the pairs are compared by. -/
def pairKey (pair : ActiveSearchProjection) : String ×ₗ String :=
  toLex (pair.documentId.asStr, pair.resumeVersionId.asStr)

theorem pairLe_iff {first second : ActiveSearchProjection} :
    pairLe first second ↔ pairKey first ≤ pairKey second := by
  rw [pairKey, pairKey, Prod.Lex.toLex_le_toLex]
  rfl

instance : Std.Total pairLe :=
  ⟨fun first second => (le_total (pairKey first) (pairKey second)).imp pairLe_iff.mpr pairLe_iff.mpr⟩

instance : IsTrans ActiveSearchProjection pairLe :=
  ⟨fun _ _ _ first second => pairLe_iff.mpr ((pairLe_iff.mp first).trans (pairLe_iff.mp second))⟩

instance : Std.Antisymm pairLe where
  antisymm := by
    rintro ⟨document, version⟩ ⟨document', version'⟩ le ge
    have same := toLex_inj.mp (le_antisymm (pairLe_iff.mp le) (pairLe_iff.mp ge))
    have sameDocument : document = document' := StableId.ext_asStr (congrArg Prod.fst same)
    have sameVersion : version = version' := StableId.ext_asStr (congrArg Prod.snd same)
    rw [sameDocument, sameVersion]

theorem checkDistinct_eq_ok_iff (pairs : List ActiveSearchProjection) :
    ∀ (documents : List DocumentId) (versions : List ResumeVersionId),
      checkDistinct documents versions pairs = .ok () ↔
        (pairs.map (·.documentId)).Nodup ∧ (∀ pair ∈ pairs, pair.documentId ∉ documents) ∧
          (pairs.map (·.resumeVersionId)).Nodup ∧
            ∀ pair ∈ pairs, pair.resumeVersionId ∉ versions := by
  induction pairs with
  | nil => simp [checkDistinct]
  | cons pair rest ih =>
    intro documents versions
    simp only [checkDistinct]
    split
    case isTrue repeated => simp [repeated]
    case isFalse fresh =>
      split
      case isTrue repeated => simp [repeated]
      case isFalse freshVersion =>
        grind

/-- Pairs have a digest exactly when no document and no version is repeated. -/
theorem fromPairs_eq_ok_iff {sha256 : List UInt8 → ContentDigest}
    {pairs : List ActiveSearchProjection} {digest : SearchProjectionDigest} :
    fromPairs sha256 pairs = .ok digest ↔
      (pairs.map (·.documentId)).Nodup ∧ (pairs.map (·.resumeVersionId)).Nodup ∧
        digest = ⟨sha256 (projectionBytes (pairs.insertionSort pairLe))⟩ := by
  have distinct := checkDistinct_eq_ok_iff pairs [] []
  unfold fromPairs
  cases checked : checkDistinct [] [] pairs with
  | error error =>
    rw [checked] at distinct
    simp only [reduceCtorEq, false_iff, List.not_mem_nil, not_false_eq_true, implies_true, true_and,
      and_true] at distinct
    simp only [reduceCtorEq, false_iff]
    exact fun all => distinct ⟨all.1, all.2.1⟩
  | ok _ =>
    rw [checked] at distinct
    simp only [true_iff] at distinct
    simp [distinct, eq_comm]

/-- The digest of a projection does not depend on the order of its pairs. -/
theorem fromPairs_perm {sha256 : List UInt8 → ContentDigest}
    {pairs others : List ActiveSearchProjection} {digest : SearchProjectionDigest}
    (same : others.Perm pairs) (known : fromPairs sha256 pairs = .ok digest) :
    fromPairs sha256 others = .ok digest := by
  obtain ⟨documents, versions, rfl⟩ := fromPairs_eq_ok_iff.mp known
  exact fromPairs_eq_ok_iff.mpr ⟨(same.map _).nodup_iff.mpr documents,
    (same.map _).nodup_iff.mpr versions, by rw [insertionSort_eq_of_perm pairLe same]⟩

end ResumeIr.CoreDomain
