import ResumeIr.MetaStore.Publication.RetirementProtocol

/-!
# What pruning and collection keep

Pruning deletes old rows from the journal, and the collection of artifacts keeps
exactly the generations that the journal retains. Both order the ready rows by
the wall clock, which may stand still or go backwards; only the number of ready
rows that come before a row matters for it (`rank_of_not_newest`).

The retained generations are those of the head and of the publications in
progress, besides the newest ready ones. A row enters the states in progress by
a begin only and becomes the head from there only, so the retained set stays
sufficient for as long as the generation in question is not begun anew
(`retained_later`).
-/

namespace ResumeIr.MetaStore

open CoreDomain Foundation Fallible

variable {sha256 : List UInt8 → ContentDigest} {db next : Db}

/-! ## The order of the rows -/

instance : Std.Total newerFirst where
  total first second := by
    rcases lt_trichotomy first.updatedAt second.updatedAt with less | same | more
    · exact .inr (.inl less)
    · rcases le_total first.generation second.generation with le | ge
      · exact .inr (.inr ⟨same, le⟩)
      · exact .inl (.inr ⟨same.symm, ge⟩)
    · exact .inl (.inl more)

instance : IsTrans JournalRow newerFirst where
  trans first second third := by
    rintro (less | ⟨same, le⟩) (less' | ⟨same', le'⟩)
    · exact .inl (less'.trans less)
    · exact .inl (same' ▸ less)
    · exact .inl (same ▸ less')
    · exact .inr ⟨same'.trans same, le'.trans le⟩

/-- A member of a sorted list that is not among its first elements has all of
them before it. -/
theorem le_length_filter_of_not_mem_take {α : Type} [DecidableEq α] {before : α → α → Prop}
    [DecidableRel before] {l : List α} {x : α} {n : Nat} (sorted : l.Pairwise before)
    (member : x ∈ l) (later : x ∉ l.take n) :
    n ≤ (l.filter fun y => y ≠ x ∧ before y x).length := by
  rw [← List.take_append_drop n l] at sorted member
  have dropped : x ∈ l.drop n := (List.mem_append.mp member).resolve_left later
  have earlier : ∀ y ∈ l.take n, y ≠ x ∧ before y x := by
    intro y taken
    refine ⟨?_, (List.pairwise_append.mp sorted).2.2 y taken x dropped⟩
    rintro rfl
    exact later taken
  have long : n < l.length := by
    have positive := List.length_pos_of_mem dropped
    rw [List.length_drop] at positive
    omega
  have kept : (l.take n).filter (fun y => y ≠ x ∧ before y x) = l.take n :=
    List.filter_eq_self.mpr fun y taken => decide_eq_true (earlier y taken)
  calc n = (l.take n).length := by rw [List.length_take]; omega
    _ = ((l.take n).filter fun y => y ≠ x ∧ before y x).length := by rw [kept]
    _ ≤ (l.filter fun y => y ≠ x ∧ before y x).length :=
        ((List.take_sublist n l).filter _).length_le

/-- The other ready rows of the journal that come before a row. -/
def Db.readyBefore (db : Db) (row : JournalRow) : List JournalRow :=
  db.journal.rows.filter fun other => other.state = .ready ∧ other ≠ row ∧ newerFirst other row

/-- A ready row that is not among the newest ones has that many before it. -/
theorem rank_of_not_newest {row : JournalRow} {count : Nat} (there : row ∈ db.journal)
    (ready : row.state = .ready) (old : row ∉ newestReady db.journal count) :
    count ≤ (db.readyBefore row).length := by
  let rows := db.journal.rows.filter fun row => row.state = .ready
  have member : row ∈ rows.insertionSort newerFirst :=
    (List.mem_insertionSort _).mpr (List.mem_filter.mpr ⟨there, by simpa using ready⟩)
  have ranked := le_length_filter_of_not_mem_take (List.pairwise_insertionSort newerFirst rows)
    member old
  have same := ((List.perm_insertionSort newerFirst rows).filter fun other =>
    other ≠ row ∧ newerFirst other row).length_eq
  rw [same, List.filter_filter] at ranked
  have swapped : (fun other : JournalRow => decide (other ≠ row ∧ newerFirst other row) &&
      decide (other.state = .ready)) = fun other =>
        decide (other.state = .ready ∧ other ≠ row ∧ newerFirst other row) := by
    funext other
    rw [Bool.and_comm, ← Bool.decide_and]
  rw [swapped] at ranked
  exact ranked

/-! ## Pruning -/

/-- A publication between its begin and its end. -/
def SearchPublicationState.InProgress (state : SearchPublicationState) : Prop :=
  state = .preparing ∨ state = .validated

/-- What a row must be for pruning to delete it. -/
structure Prunable (db : Db) (policy : SearchPublicationPrunePolicy) (row : JournalRow) :
    Prop where
  not_head : db.head.generation ≠ some row.generation
  not_active : ∀ shown ∈ db.active, shown.generation ≠ row.generation
  settled : ¬ row.state.InProgress
  not_pending : ∀ retirement ∈ db.retirement, retirement.generation = row.generation →
    retirement.phase ≠ .pending
  not_newest : row.state = .ready → policy.retainReady ≤ (db.readyBefore row).length

theorem prunable_eq_true {policy : SearchPublicationPrunePolicy} {row : JournalRow}
    (there : row ∈ db.journal) (prunable : db.prunable policy row = true) :
    Prunable db policy row := by
  simp only [Db.prunable, Bool.and_eq_true, bne_iff_ne, Bool.not_eq_true', Bool.or_eq_true,
    beq_iff_eq] at prunable
  obtain ⟨⟨⟨notHead, notActive⟩, notPending⟩, decided⟩ := prunable
  refine ⟨notHead, ?_, ?_, ?_, ?_⟩
  · intro shown member same
    have some_ := List.any_eq_false.mp notActive shown member
    simp [same] at some_
  · intro progress
    obtain ⟨abandoned, -⟩ | ⟨ready, -⟩ := decided
    · rw [abandoned] at progress
      obtain progress | progress := progress <;> cases progress
    · rw [ready] at progress
      obtain progress | progress := progress <;> cases progress
  · intro retirement member same pending
    have found : db.retirement.find? row.generation = some retirement :=
      Table.find?_eq_some_iff.mpr ⟨member, same⟩
    rw [found] at notPending
    simp [pending] at notPending
  · intro ready
    obtain ⟨abandoned, -⟩ | ⟨-, old⟩ := decided
    · rw [ready] at abandoned
      cases abandoned
    · refine rank_of_not_newest there ready fun newest => ?_
      have none_ := List.any_eq_false.mp old row newest
      simp at none_

/-- **Pruning.** A row that a prune deletes was prunable. -/
theorem prune_deletes_prunable {policy : SearchPublicationPrunePolicy} {row : JournalRow}
    (step : (journalMachine sha256).step db (.operation (.prune policy)) next)
    (there : row ∈ db.journal) (gone : next.journal.find? row.generation = none) :
    Prunable db policy row := by
  have change := row_change step row.generation
  have found : db.journal.find? row.generation = some row := Table.mem_iff_find?.mp there
  rw [found, gone] at change
  cases change with
  | pruned asked prunable =>
    cases asked
    exact prunable_eq_true there prunable

/-! ## Retention -/

/-- The set contains the head and the publications in progress. -/
structure Retains (kept : List String) (db : Db) : Prop where
  head : ∀ generation, db.head.generation = some generation → generation ∈ kept
  progress : ∀ row ∈ db.journal, row.state.InProgress → row.generation ∈ kept

theorem retention_retains {retainReady : Nat} {kept : List String}
    (done : (searchArtifactRetentionGenerations retainReady).run db = .ok kept next) :
    Retains kept db := by
  rw [searchArtifactRetentionGenerations, run_require_bind_eq_ok] at done
  obtain ⟨-, collected⟩ := done
  cases collected
  constructor
  · intro generation names
    simp [names]
  · intro row there progress
    refine List.mem_append_left _ (List.mem_append_right _ ?_)
    exact List.mem_map_of_mem (List.mem_filter.mpr ⟨there, decide_eq_true progress⟩)

/-- A begin of the generation is among the events. -/
def BeginsGeneration (events : List Event) (generation : String) : Prop :=
  ∃ attempt draft, .operation (.begin attempt draft) ∈ events ∧ draft.generation = generation

theorem BeginsGeneration.append {events more : List Event} {generation : String}
    (begins : BeginsGeneration events generation) : BeginsGeneration (events ++ more) generation := by
  obtain ⟨attempt, draft, member, named⟩ := begins
  exact ⟨attempt, draft, List.mem_append_left _ member, named⟩

/-- A row in progress was in progress before, unless it was begun. -/
theorem progress_before {event : Event} {generation : String} {row : JournalRow}
    (step : (journalMachine sha256).step db event next)
    (found : next.journal.find? generation = some row) (progress : row.state.InProgress) :
    (∃ old, db.journal.find? generation = some old ∧ old.state.InProgress) ∨
      BeginsGeneration [event] generation := by
  have change := row_change step generation
  rw [found] at change
  generalize earlier : db.journal.find? generation = before at change
  cases change with
  | kept => exact .inl ⟨row, rfl, progress⟩
  | @begun attempt draft _ _ began _ named =>
    exact .inr ⟨attempt, draft, began ▸ List.mem_singleton.mpr rfl, named⟩
  | @moved old _ _ moves =>
    refine .inl ⟨old, rfl, ?_⟩
    cases state : old.state with
    | preparing => exact .inl rfl
    | validated => exact .inr rfl
    | ready | abandoned =>
      rw [state] at moves
      cases moves

/-- **Retention.** A retained set stays sufficient along a run: whatever is the
head or in progress later is in it, or was begun in between. -/
theorem retained_later {kept : List String} {events : List Event} {later : Db}
    (retains : Retains kept db) (run : (journalMachine sha256).Run db events later) :
    (∀ generation, later.head.generation = some generation →
        generation ∈ kept ∨ BeginsGeneration events generation) ∧
      ∀ generation row, later.journal.find? generation = some row → row.state.InProgress →
        generation ∈ kept ∨ BeginsGeneration events generation := by
  induction run with
  | nil =>
    refine ⟨fun generation names => .inl (retains.head generation names), ?_⟩
    intro generation row found progress
    obtain ⟨there, rfl⟩ := Table.find?_eq_some_iff.mp found
    exact .inl (retains.progress row there progress)
  | @snoc before after events event _ step ih =>
    obtain ⟨head, rows⟩ := ih
    constructor
    · intro generation names
      cases head_change step with
      | kept same _ _ =>
        rw [same] at names
        exact (head generation names).imp id .append
      | committed _ _ found validated _ commits =>
        rw [commits.head_generation] at names
        cases names
        exact (rows _ _ found (.inr validated)).imp id .append
    · intro generation row found progress
      obtain ⟨old, there, before⟩ | ⟨attempt, draft, begun, named⟩ :=
        progress_before step found progress
      · exact (rows generation old there before).imp id .append
      · exact .inr ⟨attempt, draft, List.mem_append_right _ begun, named⟩

/-! ## Pruning and retention together -/

/-- **Pruning and retention.** In every store, so after any history, a prune
deletes no row of the head, of an active projection, of a publication in
progress, of a pending retirement, and no ready row with fewer ready rows before
it than it was asked to keep. The generations retained in any store contain the
head and every publication in progress, and also every generation that is the
head after a further run in which it is not begun anew. -/
theorem prune_and_retention_are_safe (sha256 : List UInt8 → ContentDigest) (db : Db) :
    (∀ policy next, (journalMachine sha256).step db (.operation (.prune policy)) next →
      ∀ row ∈ db.journal, next.journal.find? row.generation = none → Prunable db policy row) ∧
    (∀ retainReady kept next,
      (searchArtifactRetentionGenerations retainReady).run db = .ok kept next →
        Retains kept db ∧
        ∀ events later, (journalMachine sha256).Run db events later →
          ∀ generation, later.head.generation = some generation →
            ¬ BeginsGeneration events generation → generation ∈ kept) := by
  refine ⟨fun policy next step row there gone => prune_deletes_prunable step there gone, ?_⟩
  intro retainReady kept next done
  have retains := retention_retains done
  refine ⟨retains, ?_⟩
  intro events later run generation names unbegun
  exact ((retained_later retains run).1 generation names).resolve_right unbegun

def samplePolicy : SearchPublicationPrunePolicy where
  retainReady := 1
  abandonedUpdatedBefore := 0
  maxDelete := 8

theorem prune_and_retention_of_sampleContested :
    (∃ row ∈ sampleContested.journal, row.generation = "base" ∧
      Prunable sampleContested samplePolicy row) ∧
      Retains ["first", "second", "first"] sampleContested := by
  obtain ⟨prunes, retains⟩ := prune_and_retention_are_safe sampleHash sampleContested
  have there : ∃ row ∈ sampleContested.journal, row.generation = "base" := by decide +kernel
  have gone : ((Operation.prune samplePolicy).after sampleHash sampleContested).journal.find?
      "base" = none := by decide +kernel
  have listed : answer (searchArtifactRetentionGenerations 1) sampleContested =
      some ["first", "second", "first"] := by decide +kernel
  obtain ⟨row, member, named⟩ := there
  obtain ⟨next, done⟩ := answer_eq_some_iff.mp listed
  exact ⟨⟨row, member, named, prunes samplePolicy _ rfl row member (named ▸ gone)⟩,
    (retains 1 _ next done).1⟩

end ResumeIr.MetaStore
