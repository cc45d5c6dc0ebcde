import ResumeIr.CoreDomain.Identity
import ResumeIr.Foundation.Fallible

/-!
# The documents of a full-text snapshot

An incremental snapshot takes over the documents of its base except those that are replaced
or deleted, adds the replacements, and sorts them by document and version. The snapshots that
can be opened are a parameter: each is the list of the documents it stores, in any order.
-/

namespace ResumeIr.IndexFulltext

structure IndexSection where
  sectionType : String
  text : String
  deriving DecidableEq

structure IndexDocument where
  docId : String
  resumeVersionId : String
  fileName : String
  cleanText : String
  sections : List IndexSection
  deriving DecidableEq

inductive FullTextError where
  | internal (diagnostic : String)
  deriving DecidableEq

/-- A document and a version of it, as texts. -/
abbrev Key := String × String

def IndexDocument.key (document : IndexDocument) : Key :=
  (document.docId, document.resumeVersionId)

/-- By document, then by version. -/
def keyLe (first second : Key) : Prop :=
  first.1 < second.1 ∨ (first.1 = second.1 ∧ first.2 ≤ second.2)

instance : DecidableRel keyLe := fun _ _ => inferInstanceAs (Decidable (_ < _ ∨ (_ = _ ∧ _ ≤ _)))

def sortByKey {β : Type*} (key : β → Key) (documents : List β) : List β :=
  documents.insertionSort fun first second => keyLe (key first) (key second)

/-- What is stored of a document has no sections. -/
def storedDocumentsExcept (stored : List IndexDocument) (excludedDocIds : List String) :
    List IndexDocument :=
  (stored.filter (·.docId ∉ excludedDocIds)).map ({ · with sections := [] })

section Snapshots

variable (snapshots : String → Option (List IndexDocument))

def snapshotDocumentsExcept (baseSnapshot : Option String) (excludedDocIds : List String) :
    Except FullTextError (List IndexDocument) :=
  match baseSnapshot with
  | none => .ok []
  | some name =>
      match snapshots name with
      | none => .error (.internal "full-text base snapshot is unavailable")
      | some stored => .ok (storedDocumentsExcept stored excludedDocIds)

def incrementalSnapshotDocuments (baseSnapshot : Option String)
    (replacementDocuments : List IndexDocument) (deletedDocIds : List String) :
    Except FullTextError (List IndexDocument) := do
  let excludedDocIds := deletedDocIds ++ replacementDocuments.map (·.docId)
  let documents ← snapshotDocumentsExcept snapshots baseSnapshot excludedDocIds
  return sortByKey IndexDocument.key (documents ++ replacementDocuments)

end Snapshots

/-! ## The order of the keys -/

theorem keyLe_iff {first second : Key} : keyLe first second ↔ toLex first ≤ toLex second :=
  Prod.Lex.toLex_le_toLex.symm

instance : Std.Total keyLe :=
  ⟨fun first second => (le_total (toLex first) (toLex second)).imp keyLe_iff.mpr keyLe_iff.mpr⟩

instance : IsTrans Key keyLe :=
  ⟨fun _ _ _ first second => keyLe_iff.mpr ((keyLe_iff.mp first).trans (keyLe_iff.mp second))⟩

instance : Std.Antisymm keyLe :=
  ⟨fun _ _ le ge => toLex_inj.mp (le_antisymm (keyLe_iff.mp le) (keyLe_iff.mp ge))⟩

/-- The keys of a sorted list depend on the keys of the list only. -/
theorem map_sortByKey {β : Type*} (key : β → Key) (documents : List β) :
    (sortByKey key documents).map key = (documents.map key).insertionSort keyLe :=
  List.map_insertionSort _ _ _ _ fun _ _ _ _ => Iff.rfl

theorem map_key_storedDocumentsExcept (stored : List IndexDocument)
    (excludedDocIds : List String) :
    (storedDocumentsExcept stored excludedDocIds).map IndexDocument.key =
      (stored.map IndexDocument.key).filter (·.1 ∉ excludedDocIds) := by
  rw [storedDocumentsExcept, List.map_map, List.filter_map]
  rfl

/-- The base is filtered by the ids that are excluded. -/
theorem snapshotDocumentsExcept_ok {snapshots : String → Option (List IndexDocument)}
    {baseSnapshot : Option String} {base : List IndexDocument}
    (opened : snapshotDocumentsExcept snapshots baseSnapshot [] = .ok base)
    (excludedDocIds : List String) :
    ∃ documents, snapshotDocumentsExcept snapshots baseSnapshot excludedDocIds = .ok documents ∧
      documents.map IndexDocument.key =
        (base.map IndexDocument.key).filter (·.1 ∉ excludedDocIds) := by
  cases baseSnapshot with
  | none =>
    cases opened
    exact ⟨[], rfl, rfl⟩
  | some name =>
    simp only [snapshotDocumentsExcept] at opened ⊢
    cases found : snapshots name with
    | none =>
      rw [found] at opened
      cases opened
    | some stored =>
      rw [found] at opened
      cases opened
      refine ⟨_, rfl, ?_⟩
      rw [map_key_storedDocumentsExcept, map_key_storedDocumentsExcept]
      simp

end ResumeIr.IndexFulltext
