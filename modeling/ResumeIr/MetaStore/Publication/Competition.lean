import ResumeIr.MetaStore.Publication.HeadConsistency

/-!
# Publications that compete for one head

Two publications may be drafted on the same head and be built side by side. The
commit compares the head with the one its row was drafted on, so the log of the
applied rows of a run has strictly increasing epochs (`applied_increasing`), and
of all rows drafted on one head at most one is in it. Every row in the log was
begun in the run (`applied_begun`).

A commit that is not applied writes nothing outside the OCR tables
(`refused_commit_writes_nothing`). In particular it leaves its own row
validated: it is the retirement that its caller begins next that abandons the
row.
-/

namespace ResumeIr.MetaStore

open CoreDomain Foundation Fallible

variable {sha256 : List UInt8 → ContentDigest} {start db next : Db}

/-! ## The log of applied rows -/

/-- The row that an event makes the head: that of a commit that answers that it
was applied. -/
def appliedRow (sha256 : List UInt8 → ContentDigest) (db : Db) : Event → Option JournalRow
  | .operation (.commit request barrier) =>
      match (commitSearchPublication sha256 request barrier).run db with
      | .ok .applied _ => db.journal.find? request.generation
      | _ => none
  | .operation (.commitOcr publication) =>
      match (commitOcrSearchPublication sha256 publication).run db with
      | .ok .applied _ => db.journal.find? publication.search.generation
      | _ => none
  | _ => none

/-- A run of the journal with the rows that it made the head. -/
abbrev AppliedLog (sha256 : List UInt8 → ContentDigest) (start : Db) (events : List Event)
    (applied : List JournalRow) (db : Db) : Prop :=
  (journalMachine sha256).Logs (fun db event => (appliedRow sha256 db event).toList) start events
    applied db

variable {event : Event}

theorem appliesCommit_of_appliedRow {row : JournalRow}
    (applied : appliedRow sha256 db event = some row) :
    AppliesCommit sha256 db event ∧
      ∃ commit, event.commits = some commit ∧ db.journal.find? commit.generation = some row := by
  match event with
  | .operation (.commit request barrier) =>
    simp only [appliedRow] at applied
    split at applied
    case h_1 reached done => exact ⟨⟨reached, done⟩, request, rfl, applied⟩
    case h_2 => cases applied
  | .operation (.commitOcr publication) =>
    simp only [appliedRow] at applied
    split at applied
    case h_1 reached done => exact ⟨⟨reached, done⟩, publication.search, rfl, applied⟩
    case h_2 => cases applied

theorem appliedRow_of_appliesCommit (applies : AppliesCommit sha256 db event) :
    ∃ row, appliedRow sha256 db event = some row := by
  match event with
  | .operation (.commit request barrier) =>
    obtain ⟨reached, done⟩ := applies
    obtain ⟨row, found, -⟩ := commit_ok done
    exact ⟨row, by simp only [appliedRow, done, found]⟩
  | .operation (.commitOcr publication) =>
    obtain ⟨reached, done⟩ := applies
    obtain ⟨superseded, -⟩ | ⟨superseded, -⟩ | ⟨-, -, row, found, -⟩ := commitOcr_ok done
    · cases superseded
    · cases superseded
    · exact ⟨row, by simp only [appliedRow, done, found]⟩

/-- The row that a step makes the head was validated and drafted on the head
before. -/
theorem appliedRow_drafted_on_head {row : JournalRow}
    (applied : appliedRow sha256 db event = some row)
    (step : (journalMachine sha256).step db event next) :
    db.journal.find? row.generation = some row ∧ row.state = .validated ∧
      row.baseGeneration = db.head.generation ∧
      row.expectedVisibleEpoch = db.head.visibleEpoch := by
  obtain ⟨applies, commit, asked, found⟩ := appliesCommit_of_appliedRow applied
  obtain ⟨other, row', asked', found', validated, commits⟩ := applies.commits step
  obtain rfl : commit = other := Option.some.inj (asked.symm.trans asked')
  obtain rfl : row = row' := Option.some.inj (found.symm.trans found')
  have named : row.key = commit.generation := Table.find?_key found
  exact ⟨(congrArg db.journal.find? named).trans found, validated, commits.base.symm, commits.epoch.symm⟩

/-- The epoch counts the applied rows. -/
theorem epoch_after (step : (journalMachine sha256).step db event next) :
    next.head.visibleEpoch =
      db.head.visibleEpoch + (appliedRow sha256 db event).toList.length := by
  by_cases applies : AppliesCommit sha256 db event
  · obtain ⟨row, applied⟩ := appliedRow_of_appliesCommit applies
    rw [applies.epoch step, applied]
    rfl
  · cases applied : appliedRow sha256 db event with
    | none => exact epoch_kept applies step
    | some row => exact absurd (appliesCommit_of_appliedRow applied).1 applies

variable {events : List Event} {applied : List JournalRow}

theorem epoch_counts_applied (history : AppliedLog sha256 start events applied db) :
    db.head.visibleEpoch = start.head.visibleEpoch + applied.length := by
  induction history with
  | nil => rfl
  | snoc _ step ih => rw [epoch_after step, ih, List.length_append, Nat.add_assoc]

/-! ## Increasing epochs -/

/-- **Compare and set.** The applied rows of a run were drafted on increasing
epochs, all of them behind the epoch that the run reaches. -/
theorem applied_increasing (history : AppliedLog sha256 start events applied db) :
    applied.Pairwise (fun earlier later =>
        earlier.expectedVisibleEpoch < later.expectedVisibleEpoch) ∧
      ∀ row ∈ applied, row.expectedVisibleEpoch < db.head.visibleEpoch := by
  induction history with
  | nil => exact ⟨.nil, fun _ member => by cases member⟩
  | @snoc db next _ log event _ step ih =>
    obtain ⟨increasing, behind⟩ := ih
    have epoch := epoch_after step
    cases applied : appliedRow sha256 db event with
    | none =>
      rw [applied] at epoch
      simp only [Option.toList_none, List.append_nil] at epoch ⊢
      rw [epoch]
      exact ⟨increasing, behind⟩
    | some row =>
      obtain ⟨-, -, -, drafted⟩ := appliedRow_drafted_on_head applied step
      rw [applied] at epoch
      simp only [Option.toList_some, List.length_singleton] at epoch ⊢
      constructor
      · refine List.pairwise_append.mpr ⟨increasing, List.pairwise_singleton _ _, ?_⟩
        intro earlier member later last
        obtain rfl := List.mem_singleton.mp last
        rw [drafted]
        exact behind earlier member
      · intro earlier member
        obtain old | new := List.mem_append.mp member
        · have := behind earlier old
          omega
        · obtain rfl := List.mem_singleton.mp new
          omega

/-- Among rows with increasing epochs at most one has a given epoch. -/
theorem length_filter_le_one (increasing : applied.Pairwise (fun earlier later =>
      earlier.expectedVisibleEpoch < later.expectedVisibleEpoch)) (base : Option String)
    (epoch : Nat) :
    (applied.filter fun row =>
      row.baseGeneration = base ∧ row.expectedVisibleEpoch = epoch).length ≤ 1 := by
  have filtered := increasing.filter fun row =>
    decide (row.baseGeneration = base ∧ row.expectedVisibleEpoch = epoch)
  match kept : applied.filter fun row =>
      decide (row.baseGeneration = base ∧ row.expectedVisibleEpoch = epoch) with
  | [] => rw [kept]; exact Nat.zero_le 1
  | [_] => rw [kept]; exact Nat.le_refl 1
  | first :: second :: rest =>
    have same : ∀ row ∈ first :: second :: rest, row.expectedVisibleEpoch = epoch := by
      intro row member
      rw [← kept] at member
      exact (of_decide_eq_true (List.mem_filter.mp member).2).2
    rw [kept] at filtered
    have less := (List.pairwise_cons.mp filtered).1 second (List.mem_cons_self ..)
    have one := same first (List.mem_cons_self ..)
    have two := same second (List.mem_cons_of_mem _ (List.mem_cons_self ..))
    omega

/-! ## The origin of a row -/

/-- A begin among the events drafted the row. -/
def Begun (events : List Event) (row : JournalRow) : Prop :=
  ∃ attempt draft authority, .operation (.begin attempt draft) ∈ events ∧
    (draftRow draft authority).SameDraft row

theorem Begun.append {events more : List Event} {row : JournalRow} (begun : Begun events row) :
    Begun (events ++ more) row := by
  obtain ⟨attempt, draft, authority, member, same⟩ := begun
  exact ⟨attempt, draft, authority, List.mem_append_left _ member, same⟩

theorem JournalRow.SameDraft.trans {first second third : JournalRow}
    (earlier : first.SameDraft second) (later : second.SameDraft third) : first.SameDraft third :=
  ⟨later.generation.trans earlier.generation, later.baseGeneration.trans earlier.baseGeneration,
    later.expectedVisibleEpoch.trans earlier.expectedVisibleEpoch,
    later.projectionDigest.trans earlier.projectionDigest,
    later.authority.trans earlier.authority⟩

theorem Begun.of_sameDraft {row after : JournalRow} (begun : Begun events row)
    (same : row.SameDraft after) : Begun events after := by
  obtain ⟨attempt, draft, authority, member, drafted⟩ := begun
  exact ⟨attempt, draft, authority, member, drafted.trans same⟩

/-- A row that is not ready at the end of a run was begun in it. -/
theorem row_begun (starts : (journalMachine sha256).start start)
    (run : (journalMachine sha256).Run start events db) (generation : String) :
    ∀ row, db.journal.find? generation = some row → row.state = .ready ∨ Begun events row := by
  induction run with
  | nil =>
    intro row found
    obtain fresh | ⟨head, empty⟩ := starts
    · rw [fresh.journal] at found
      cases found
    · have member := (Table.find?_eq_some_iff.mp found).1
      rw [Table.mem_rows, empty.journal] at member
      obtain rfl := List.mem_singleton.mp member
      exact .inl empty.row_ready
  | snoc _ step ih =>
    intro row found
    have change := row_change step generation
    rw [found] at change
    generalize earlier : (Table.find? _ generation) = before at change
    cases change with
    | kept =>
      obtain ready | begun := ih row earlier
      · exact .inl ready
      · exact .inr begun.append
    | @begun attempt draft _ authority began drafted =>
      refine .inr ⟨attempt, draft, authority, ?_, drafted⟩
      exact List.mem_append_right _ (began ▸ List.mem_singleton.mpr rfl)
    | @moved old _ same moves =>
      obtain ready | begun := ih old earlier
      · rw [ready] at moves
        cases moves
      · exact .inr (begun.of_sameDraft same).append

/-- Every applied row of a run was begun in it. -/
theorem applied_begun (starts : (journalMachine sha256).start start)
    (history : AppliedLog sha256 start events applied db) : ∀ row ∈ applied, Begun events row := by
  induction history with
  | nil =>
    intro row member
    cases member
  | @snoc db _ _ _ event earlier step ih =>
    intro row member
    obtain old | new := List.mem_append.mp member
    · exact (ih row old).append
    · obtain ⟨found, validated, -⟩ :=
        appliedRow_drafted_on_head (Option.mem_toList.mp new) step
      obtain ready | begun := row_begun starts earlier.run _ row found
      · rw [validated] at ready
        cases ready
      · exact begun.append

/-! ## The commit that loses -/

/-- A commit that is not applied writes nothing outside the OCR tables. -/
theorem refused_commit_writes_nothing {commit : SearchPublicationCommit}
    (asked : event.commits = some commit) (refused : appliedRow sha256 db event = none)
    (step : (journalMachine sha256).step db event next) : next = { db with ocr := next.ocr } := by
  cases step_effect step with
  | nothing => rfl
  | settlesClaim => rfl
  | commits applied =>
    obtain ⟨row, made⟩ := appliedRow_of_appliesCommit applied
    rw [made] at refused
    cases refused
  | outside | begins | validates | retires | completes | blocks | prunes => cases asked

/-- A superseded commit leaves its own row validated. -/
theorem superseded_commit_stays_validated {request : SearchPublicationCommit}
    {barrier : Option MigrationRebuildBarrierToken}
    (done : (commitSearchPublication sha256 request barrier).run db = .ok .superseded next) :
    next = db ∧ ∃ row, db.journal.find? request.generation = some row ∧
      row.state = .validated := by
  obtain ⟨row, found, validated, ⟨-, rfl⟩ | ⟨applied, -⟩⟩ := commit_ok done
  · exact ⟨rfl, row, found, validated⟩
  · cases applied

/-- A retirement abandons its own row and touches neither the head nor what
search shows. -/
theorem retirement_abandons_own_row {generation : String} {now : Int}
    {plan : SearchPublicationRetirementPlan} {u : Unit}
    (done : (beginSearchPublicationRetirement sha256 generation now plan).run db = .ok u next) :
    next.head = db.head ∧ next.active = db.active ∧ next.documents = db.documents ∧
      (∀ other, other ≠ generation → next.journal.find? other = db.journal.find? other) ∧
      next.Abandoned generation := by
  obtain ⟨row, found, -, ⟨abandoned, rfl⟩ | retires⟩ :=
    beginRetirement_ok (run_transaction_eq_ok.mp done)
  · exact ⟨rfl, rfl, rfl, fun _ _ => rfl, row, found, abandoned⟩
  · have abandoned := retires.abandoned_row found
    have journal := retires.abandoned
    rw [retires.rest] at abandoned ⊢
    refine ⟨rfl, rfl, rfl, ?_, abandoned⟩
    intro other apart
    rw [journal]
    split
    · rfl
    · rw [find?_moveRow, if_neg apart]

/-! ## Competing publications -/

/-- **Competing publications.** In every run, of the publications begun on one
base generation and one epoch at most one is applied. A commit that is not
applied writes nothing outside the OCR tables; a superseded one leaves the whole
store as it is, its own row validated. The row leaves the states in progress by the retirement that
follows, which touches no other row, nor the head, nor what search shows. -/
theorem competing_publications (sha256 : List UInt8 → ContentDigest) {start db : Db}
    {events : List Event} {applied : List JournalRow}
    (starts : (journalMachine sha256).start start)
    (history : AppliedLog sha256 start events applied db) :
    (∀ base epoch, (applied.filter fun row =>
      row.baseGeneration = base ∧ row.expectedVisibleEpoch = epoch).length ≤ 1) ∧
    (∀ row ∈ applied, Begun events row) ∧
    (∀ event commit next, event.commits = some commit → appliedRow sha256 db event = none →
      (journalMachine sha256).step db event next → next = { db with ocr := next.ocr }) ∧
    (∀ request barrier next,
      (commitSearchPublication sha256 request barrier).run db = .ok .superseded next →
        next = db ∧ ∃ row, db.journal.find? request.generation = some row ∧
          row.state = .validated) ∧
    (∀ generation now plan u next,
      (beginSearchPublicationRetirement sha256 generation now plan).run db = .ok u next →
        next.head = db.head ∧ next.active = db.active ∧ next.documents = db.documents ∧
          (∀ other, other ≠ generation → next.journal.find? other = db.journal.find? other) ∧
          next.Abandoned generation) := by
  exact ⟨length_filter_le_one (applied_increasing history).1, applied_begun starts history,
    fun _ _ _ asked refused step => refused_commit_writes_nothing asked refused step,
    fun _ _ _ done => superseded_commit_stays_validated done,
    fun _ _ _ _ _ done => retirement_abandons_own_row done⟩

/-! ## Two publications of one document -/

/-- Two publications are drafted on the same head and validated; the first is
committed. -/
def sampleCompetition : List Operation :=
  [.begin none (sampleDraft "first" "base" 1 [samplePair] 10),
    .begin none (sampleDraft "second" "base" 1 [samplePair] 10),
    .validate (sampleValidation "first" [samplePair] 11),
    .validate (sampleValidation "second" [samplePair] 11),
    .commit (sampleCommit "first" 12) none]

def sampleContested : Db := runOperations sampleHash sampleStore sampleCompetition

theorem sampleContested_run :
    (journalMachine sampleHash).Run sampleStore (sampleCompetition.map .operation)
      sampleContested :=
  run_runOperations sampleHash sampleCompetition sampleStore

/-- One of the two is applied; the commit of the other writes nothing outside the
OCR tables. -/
theorem competing_publications_of_sampleCompetition :
    ∃ applied, AppliedLog sampleHash sampleStore (sampleCompetition.map .operation) applied
        sampleContested ∧
      applied.length = 1 ∧
      (applied.filter fun row =>
        row.baseGeneration = some "base" ∧ row.expectedVisibleEpoch = 1).length ≤ 1 ∧
      (∀ row ∈ applied, Begun (sampleCompetition.map .operation) row) ∧
      ∀ next, (journalMachine sampleHash).step sampleContested
        (.operation (.commit (sampleCommit "second" 13) none)) next →
          next = { sampleContested with ocr := next.ocr } := by
  obtain ⟨applied, history⟩ := sampleContested_run.logs _
  have reached : sampleContested.head.visibleEpoch = 1 + 1 := by decide +kernel
  have counted : sampleContested.head.visibleEpoch = 1 + applied.length :=
    epoch_counts_applied history
  obtain ⟨one, begun, refused, -⟩ := competing_publications sampleHash sampleStore_start history
  have loses : appliedRow sampleHash sampleContested
      (.operation (.commit (sampleCommit "second" 13) none)) = none := by decide +kernel
  exact ⟨applied, history, by omega, one (some "base") 1, begun,
    fun next step => refused _ _ next rfl loses step⟩

/-- The commit of the second publication is superseded, and its row stays
validated. -/
theorem superseded_row_stays_in_progress :
    (journalMachine sampleHash).Reachable sampleContested ∧
      answer (commitSearchPublication sampleHash (sampleCommit "second" 13) none)
        sampleContested = some .superseded ∧
      ((Operation.commit (sampleCommit "second" 13) none).after sampleHash
        sampleContested).journal.find? "second" = sampleContested.journal.find? "second" ∧
      (sampleContested.journal.find? "second").map (·.state) = some .validated := by
  have superseded : answer (commitSearchPublication sampleHash (sampleCommit "second" 13) none)
      sampleContested = some .superseded := by decide +kernel
  obtain ⟨next, done⟩ := answer_eq_some_iff.mp superseded
  obtain ⟨unchanged, row, found, validated⟩ := superseded_commit_stays_validated done
  have same : (Operation.commit (sampleCommit "second" 13) none).after sampleHash sampleContested =
      sampleContested := (final_of_ok done).trans unchanged
  refine ⟨sampleContested_run.reachable (.start sampleStore_start), superseded, ?_, ?_⟩
  · rw [same]
  · change sampleContested.journal.find? "second" = some row at found
    rw [found, Option.map_some, validated]

end ResumeIr.MetaStore
