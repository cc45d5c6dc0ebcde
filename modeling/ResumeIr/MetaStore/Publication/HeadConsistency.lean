import Mathlib.Algebra.GroupWithZero.Nat
import ResumeIr.MetaStore.Publication.Journal

/-!
# The head and its projection

In every state that a run of the journal reaches, the head names a ready row,
the active projection is exactly the one that was published under that row, and
the visible epoch counts the applied commits.

The invariant (`Consistent`) is about every head that names a generation, also
while it is being repaired or blocked, because a repair starts from such a head.
-/

namespace ResumeIr.MetaStore

open CoreDomain Foundation Fallible

variable {sha256 : List UInt8 → ContentDigest} {db next : Db}

/-- The row that a head names is ready, was drafted on the epoch before and
records the digest of what search shows. -/
structure Describes (sha256 : List UInt8 → ContentDigest) (db : Db) (row : JournalRow) : Prop where
  ready : row.state = .ready
  epoch : row.expectedVisibleEpoch + 1 = db.head.visibleEpoch
  digest : fromPairs sha256 (db.active.map (·.projection)) = .ok row.projectionDigest

/-- The head, its row and the active projection belong together. -/
structure Consistent (sha256 : List UInt8 → ContentDigest) (db : Db) : Prop where
  named : ∀ generation, db.head.generation = some generation →
    ∃ row, db.journal.find? generation = some row ∧ Describes sha256 db row
  carried : ∀ row ∈ db.active, db.head.generation = some row.generation

/-! ## The start -/

theorem Db.Fresh.consistent (fresh : db.Fresh) : Consistent sha256 db where
  named generation names := by
    rw [fresh.unpublished] at names
    cases names
  carried row member := by
    rw [fresh.active] at member
    cases member

variable {row : JournalRow}

theorem Db.EmptyReady.consistent (empty : db.EmptyReady sha256 row) :
    Consistent sha256 db where
  named generation names := by
    rw [empty.generation] at names
    cases names
    have there : row ∈ db.journal := by
      rw [Table.mem_rows, empty.journal]
      exact List.mem_singleton.mpr rfl
    refine ⟨row, Table.mem_iff_find?.mp there, empty.row_ready, empty.row_epoch, ?_⟩
    rw [empty.active]
    exact empty.row_digest
  carried row member := by
    rw [empty.active] at member
    cases member

/-! ## One step -/

/-- The rows that a commit writes show its projection. -/
theorem projection_activeRows (generation : String) :
    ∀ (projections : List ActiveSearchProjection) (documents : List Document),
      documents.length = projections.length →
        (List.zipWith (activeRow generation) projections documents).map (·.projection) =
          projections
  | [], _, _ => rfl
  | _ :: _, [], lengths => by cases lengths
  | projection :: projections, _ :: documents, lengths => by
      have rest := projection_activeRows generation projections documents (Nat.succ.inj lengths)
      rw [List.zipWith_cons_cons, List.map_cons, rest]
      rfl

variable {commit : SearchPublicationCommit}

theorem Commits.active_projection (commits : Commits sha256 db commit row next)
    (shape : CommitShape commit) : next.active.map (·.projection) = commit.projections := by
  obtain ⟨documents, lengths, written⟩ := commits.active
  rw [written]
  exact projection_activeRows _ _ _ (lengths.trans shape.aligned)

theorem Commits.active_generation (commits : Commits sha256 db commit row next) :
    ∀ shown ∈ next.active, shown.generation = commit.generation := by
  obtain ⟨documents, -, written⟩ := commits.active
  intro shown member
  rw [written, ← List.map_uncurry_zip_eq_zipWith] at member
  obtain ⟨pair, -, rfl⟩ := List.mem_map.mp member
  rfl

theorem projectionDigest_ok {projections : List ActiveSearchProjection}
    {digest : SearchProjectionDigest} (done : projectionDigest sha256 projections = .ok digest) :
    fromPairs sha256 projections = .ok digest := by
  unfold projectionDigest at done
  cases computed : fromPairs sha256 projections with
  | ok known =>
    rw [computed] at done
    cases done
    rfl
  | error error =>
    rw [computed] at done
    cases done

/-- An applied commit makes its own row the head. -/
theorem Commits.consistent (commits : Commits sha256 db commit row next)
    (found : db.journal.find? commit.generation = some row) (shape : CommitShape commit) :
    Consistent sha256 next where
  named generation names := by
    rw [commits.head_generation] at names
    cases names
    refine ⟨row.moveTo .ready commit.now, ?_, rfl, commits.head_epoch.symm, ?_⟩
    · rw [commits.journal, find?_moveRow, if_pos rfl, found]
      rfl
    · rw [commits.active_projection shape]
      exact projectionDigest_ok commits.digest
  carried shown member := by
    rw [commits.head_generation, commits.active_generation shown member]

theorem prunable_unnamed {policy : SearchPublicationPrunePolicy}
    (prunable : db.prunable policy row = true) : db.head.generation ≠ some row.generation := by
  simp only [Db.prunable, Bool.and_eq_true, bne_iff_ne] at prunable
  exact prunable.1.1.1

variable {event : Event}

/-- The row of the head is ready, so a step can only leave it alone. -/
theorem head_row_kept {generation : String} (step : (journalMachine sha256).step db event next)
    (names : db.head.generation = some generation)
    (found : db.journal.find? generation = some row) (ready : row.state = .ready) :
    next.journal.find? generation = some row := by
  have change := row_change step generation
  rw [found] at change
  generalize next.journal.find? generation = after at change
  cases change with
  | kept => rfl
  | moved _ moves =>
    rw [ready] at moves
    cases moves
  | pruned _ prunable =>
    rw [← Table.find?_key found] at names
    exact absurd names (prunable_unnamed prunable)

theorem consistent_step (consistent : Consistent sha256 db)
    (step : (journalMachine sha256).step db event next) : Consistent sha256 next := by
  cases head_change step with
  | committed _ _ found _ shape commits => exact commits.consistent found shape
  | kept generation epoch active =>
    constructor
    · intro name names
      rw [generation] at names
      obtain ⟨row, found, describes⟩ := consistent.named name names
      refine ⟨row, head_row_kept step names found describes.ready, describes.ready, ?_, ?_⟩
      · rw [epoch]
        exact describes.epoch
      · rw [active]
        exact describes.digest
    · intro row member
      rw [active] at member
      rw [generation]
      exact consistent.carried row member

/-! ## Whole runs -/

theorem consistent_inductive (sha256 : List UInt8 → ContentDigest) :
    (journalMachine sha256).Inductive (Consistent sha256) where
  start := by
    rintro db (fresh | ⟨row, empty⟩)
    · exact fresh.consistent
    · exact empty.consistent
  step := consistent_step

theorem Consistent.active_distinct (consistent : Consistent sha256 db) :
    ((db.active.map (·.projection)).map (·.documentId)).Nodup ∧
      ((db.active.map (·.projection)).map (·.resumeVersionId)).Nodup := by
  cases names : db.head.generation with
  | none =>
    have empty : db.active = [] := List.eq_nil_iff_forall_not_mem.mpr fun row member => by
      have carried := consistent.carried row member
      rw [names] at carried
      cases carried
    simp [empty]
  | some generation =>
    obtain ⟨row, -, describes⟩ := consistent.named generation names
    obtain ⟨documents, versions, -⟩ := fromPairs_eq_ok_iff.mp describes.digest
    exact ⟨documents, versions⟩

/-- A commit that is applied has the effect of its row. -/
theorem AppliesCommit.commits (applies : AppliesCommit sha256 db event)
    (step : (journalMachine sha256).step db event next) :
    ∃ commit row, event.commits = some commit ∧
      db.journal.find? commit.generation = some row ∧ row.state = .validated ∧
      Commits sha256 db commit row next := by
  match event with
  | .operation (.commit request barrier) =>
    obtain ⟨reached, done⟩ := applies
    obtain ⟨row, found, validated, ⟨superseded, -⟩ | ⟨-, -, commits⟩⟩ := commit_ok done
    · cases superseded
    · obtain rfl : next = reached := Eq.trans step (final_of_ok done)
      exact ⟨request, row, rfl, found, validated, commits⟩
  | .operation (.commitOcr publication) =>
    obtain ⟨reached, done⟩ := applies
    obtain ⟨superseded, -⟩ | ⟨superseded, -⟩ | ⟨-, -, row, found, validated, commits⟩ :=
      commitOcr_ok done
    · cases superseded
    · cases superseded
    · obtain rfl : next = reached := Eq.trans step (final_of_ok done)
      exact ⟨publication.search, row, rfl, found, validated, commits⟩

/-- An applied commit advances the epoch by one. -/
theorem AppliesCommit.epoch (applies : AppliesCommit sha256 db event)
    (step : (journalMachine sha256).step db event next) :
    next.head.visibleEpoch = db.head.visibleEpoch + 1 := by
  obtain ⟨commit, row, -, -, -, commits⟩ := applies.commits step
  rw [commits.head_epoch, commits.epoch]

/-- A step that is not an applied commit keeps the epoch. -/
theorem epoch_kept (refused : ¬ AppliesCommit sha256 db event)
    (step : (journalMachine sha256).step db event next) :
    next.head.visibleEpoch = db.head.visibleEpoch := by
  cases head_change step with
  | kept _ epoch _ => exact epoch
  | committed applied => exact absurd applied refused

/-- **The head of every reachable store.** The ready head names a ready row of
the journal whose digest is that of the active rows, in whatever order they are
read; the active rows carry the generation of the head and repeat no document
and no version. An applied commit advances the visible epoch by one, and no
other operation changes it. -/
theorem reachable_head_consistent (sha256 : List UInt8 → ContentDigest) {db : Db}
    (reachable : (journalMachine sha256).Reachable db) :
    (db.head.serviceState = .ready →
      ∃ row ∈ db.journal, db.head.generation = some row.generation ∧ row.state = .ready ∧
        ∀ pairs, pairs.Perm (db.active.map (·.projection)) →
          fromPairs sha256 pairs = .ok row.projectionDigest) ∧
    (∀ row ∈ db.active, db.head.generation = some row.generation) ∧
    ((db.active.map (·.projection)).map (·.documentId)).Nodup ∧
    ((db.active.map (·.projection)).map (·.resumeVersionId)).Nodup ∧
    (∀ event next, (journalMachine sha256).step db event next →
      (AppliesCommit sha256 db event → next.head.visibleEpoch = db.head.visibleEpoch + 1) ∧
        (¬ AppliesCommit sha256 db event →
          next.head.visibleEpoch = db.head.visibleEpoch)) := by
  have consistent := (consistent_inductive sha256).holds reachable
  refine ⟨?_, consistent.carried, consistent.active_distinct.1, consistent.active_distinct.2,
    fun _ _ step => ⟨fun applies => applies.epoch step, fun refused => epoch_kept refused step⟩⟩
  intro ready
  obtain ⟨generation, names⟩ := Option.isSome_iff_exists.mp (db.head.ready_names ready)
  obtain ⟨row, found, describes⟩ := consistent.named generation names
  obtain ⟨there, rfl⟩ := Table.find?_eq_some_iff.mp found
  exact ⟨row, there, names, describes.ready, fun _ same => fromPairs_perm same describes.digest⟩

/-- **The visible epoch names what search shows.** Along every run it never goes
back, and while it stays, so do the generation of the head and the active rows. -/
theorem visible_epoch_names_projection {events : List Event}
    (run : (journalMachine sha256).Run db events next) :
    db.head.visibleEpoch ≤ next.head.visibleEpoch ∧
      (next.head.visibleEpoch = db.head.visibleEpoch →
        next.head.generation = db.head.generation ∧ next.active = db.active) := by
  induction run with
  | nil => exact ⟨le_rfl, fun _ => ⟨rfl, rfl⟩⟩
  | snoc _ step ih =>
    cases head_change step with
    | kept generation epoch active =>
      rw [generation, epoch, active]
      exact ih
    | committed applied =>
      have advanced := applied.epoch step
      exact ⟨by omega, fun same => by omega⟩

/-! ## A store with one document -/

/-- A checksum that stands in for the hash. -/
def sampleHash (bytes : List UInt8) : ContentDigest :=
  ⟨String.singleton (Char.ofNat ((bytes.map (·.toNat)).sum % 64 + 48))⟩

def samplePair : ActiveSearchProjection where
  documentId := ⟨"doc_00000000000000000000000000000001", by decide⟩
  resumeVersionId := ⟨"ver_00000000000000000000000000000001", by decide⟩

def sampleRevision : SourceRevision where
  id := ⟨"rev_00000000000000000000000000000001", Eq.refl true⟩
  documentId := samplePair.documentId
  contentHash := ⟨"content"⟩
  byteSize := 7

def sampleDocument (status : DocumentStatus) (updatedAt : Int) : Document where
  id := samplePair.documentId
  sourceUri := "file:///resume.txt"
  normalizedPath := "/resume.txt"
  fileName := "resume.txt"
  extension := .txt
  byteSize := 7
  mtime := 1
  contentHash := some "content"
  textHash := none
  isDeleted := false
  createdAt := 1
  updatedAt := updatedAt
  status := status

def sampleDigest (pairs : List ActiveSearchProjection) : SearchProjectionDigest :=
  ⟨sampleHash (projectionBytes pairs)⟩

def sampleDraft (generation base : String) (epoch : Nat) (pairs : List ActiveSearchProjection)
    (now : Int) : SearchPublicationDraft where
  generation := generation
  baseGeneration := some base
  expectedVisibleEpoch := epoch
  classifierEpoch := classifierEpochDeterministic
  projectionDigest := sampleDigest pairs
  now := now

def sampleValidation (generation : String) (pairs : List ActiveSearchProjection) (now : Int) :
    SearchPublicationValidation where
  generation := generation
  fulltext := ⟨generation, pairs.length, sampleDigest pairs, ⟨"fulltext"⟩⟩
  vector := ⟨generation, .disabled, pairs.length, sampleDigest pairs, sampleDigest [], 0, 0, 0,
    ⟨"vector"⟩⟩
  now := now

/-- The row of the first head, which shows nothing. -/
def sampleBase : JournalRow :=
  ((draftRow { sampleDraft "base" "none" 0 [] 0 with baseGeneration := none }
    .currentHead).validate sampleHash (sampleValidation "base" [] 0)).moveTo .ready 0

def sampleFacts : FactTables where
  sourceRevisions := ⟨[sampleRevision], by decide⟩
  resumeVersions := ⟨[⟨samplePair.resumeVersionId, samplePair.documentId, sampleRevision.id⟩],
    by decide⟩
  classifications := ⟨[⟨samplePair.resumeVersionId, classifierEpochDeterministic,
    .resumeCandidate⟩], by decide⟩
  entityMentions := .empty
  candidates := .empty
  candidateAssignments := .empty
  seals := .empty

/-- A ready store that shows nothing and knows one document. -/
def sampleStore : Db where
  head := ⟨.ready, some "base", 1, 0, fun _ => rfl⟩
  journal := ⟨[sampleBase], by decide⟩
  retirement := .empty
  active := []
  documents := ⟨[sampleDocument .fieldsExtracted 1], by decide⟩
  facts := sampleFacts
  ocr := ⟨.empty, .empty, [], .empty, [], []⟩
  repair := ⟨none, none, none, none, none⟩

def sampleCommit (generation : String) (now : Int) : SearchPublicationCommit where
  generation := generation
  terminalDocuments := [⟨samplePair.documentId, .fieldsExtracted, false, ⟨"content"⟩,
    .searchable, false⟩]
  projections := [samplePair]
  projectedDocuments := [.replacement samplePair (sampleDocument .searchable now)]
  vectorCoverage := []
  now := now

/-- The publication of the one document. -/
def samplePublication (generation : String) : List Operation :=
  [.begin none (sampleDraft generation "base" 1 [samplePair] 10),
    .validate (sampleValidation generation [samplePair] 11),
    .commit (sampleCommit generation 12) none]

theorem sampleStore_start : (journalMachine sampleHash).start sampleStore := by
  have digest : fromPairs sampleHash [] = .ok (sampleDigest []) := rfl
  exact .inr ⟨sampleBase, ⟨rfl, rfl, rfl, rfl, digest, rfl, rfl, rfl⟩⟩

/-- The store after its first publication. -/
def samplePublished : Db := runOperations sampleHash sampleStore (samplePublication "first")

theorem samplePublished_reachable : (journalMachine sampleHash).Reachable samplePublished :=
  (run_runOperations sampleHash (samplePublication "first") sampleStore).reachable
    (.start sampleStore_start)

theorem samplePublished_head :
    samplePublished.head.serviceState = .ready ∧ samplePublished.head.generation = some "first" ∧
      samplePublished.active.length = 1 := by
  decide +kernel

theorem reachable_head_consistent_of_samplePublished :
    samplePublished.active.length = 1 ∧
      ∃ row ∈ samplePublished.journal, row.generation = "first" ∧ row.state = .ready := by
  obtain ⟨ready, names, shown⟩ := samplePublished_head
  obtain ⟨row, there, named, published, -⟩ :=
    (reachable_head_consistent sampleHash samplePublished_reachable).1 ready
  rw [names] at named
  exact ⟨shown, row, there, (Option.some.inj named).symm, published⟩

/-- The epoch stays until the commit. -/
theorem visible_epoch_names_projection_of_samplePublished :
    sampleStore.head.visibleEpoch ≤ samplePublished.head.visibleEpoch ∧
      let validated := runOperations sampleHash sampleStore ((samplePublication "first").take 2)
      validated.head.generation = sampleStore.head.generation ∧
        validated.active = sampleStore.active := by
  refine ⟨?_, (visible_epoch_names_projection (run_runOperations _ _ _)).2 (by decide +kernel)⟩
  unfold samplePublished
  exact (visible_epoch_names_projection (run_runOperations _ _ _)).1

end ResumeIr.MetaStore
