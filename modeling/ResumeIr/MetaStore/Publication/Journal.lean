import ResumeIr.Foundation.Machine
import ResumeIr.MetaStore.Publication.Effects

/-!
# Runs of the publication journal

The journal is a machine whose steps are its operations, each one transaction,
in any order and with any arguments. Between two of them the rest of the store
may do what it likes with its own tables and with the service state of the head;
it changes neither the generation nor the visible epoch of the head and none of
the journal, the retirements and the active projection (`Outside`).

What a step can do is said once (`Effect`, `step_effect`). From it follow the
changes of each thing the journal keeps: the head with its projection
(`head_change`), the row of a generation (`row_change`) and the retirement of a
generation (`retirement_change`). All statements about runs are drawn from
these.
-/

namespace ResumeIr.MetaStore

open CoreDomain Foundation Fallible

/-! ## The machine -/

inductive Operation where
  | begin (attempt : Option ContentDigest) (draft : SearchPublicationDraft)
  | validate (validation : SearchPublicationValidation)
  | commit (request : SearchPublicationCommit) (barrier : Option MigrationRebuildBarrierToken)
  | commitOcr (publication : OcrSearchPublicationCommit)
  | beginRetirement (generation : String) (now : Int) (plan : SearchPublicationRetirementPlan)
  | completeArtifact (generation : String) (artifact : SearchPublicationRetirementArtifact)
      (now : Int)
  | settleFailure (generation : String) (now : Int)
  | prune (policy : SearchPublicationPrunePolicy)

variable (sha256 : List UInt8 → ContentDigest)

/-- The database after an operation, whether or not it succeeded. -/
def Operation.after : Operation → Db → Db
  | .begin attempt draft => final (beginSearchPublication sha256 attempt draft)
  | .validate validation => final (validateSearchPublication sha256 validation)
  | .commit request barrier => final (commitSearchPublication sha256 request barrier)
  | .commitOcr publication => final (commitOcrSearchPublication sha256 publication)
  | .beginRetirement generation now plan =>
      final (beginSearchPublicationRetirement sha256 generation now plan)
  | .completeArtifact generation artifact now =>
      final (completeSearchPublicationRetirementArtifact generation artifact now)
  | .settleFailure generation now =>
      final (settleSearchPublicationRetirementFailure sha256 generation now)
  | .prune policy => final (pruneSearchPublicationHistory policy)

/-- An operation of the journal, or whatever the rest of the store does. -/
inductive Event where
  | operation (operation : Operation)
  | outside

/-- A change that leaves the journal and what search shows as they are. -/
structure Outside (db next : Db) : Prop where
  generation : next.head.generation = db.head.generation
  epoch : next.head.visibleEpoch = db.head.visibleEpoch
  journal : next.journal = db.journal
  retirement : next.retirement = db.retirement
  active : next.active = db.active

/-- A store that waits for its first publication. -/
structure Db.Fresh (db : Db) : Prop where
  repairing : db.head.serviceState = .repairing .migrationRebuild
  unpublished : db.head.generation = none
  journal : db.journal = .empty
  retirement : db.retirement = .empty
  active : db.active = []

/-- A store whose ready head is a publication without documents. -/
structure Db.EmptyReady (db : Db) (row : JournalRow) : Prop where
  ready : db.head.serviceState = .ready
  generation : db.head.generation = some row.generation
  row_ready : row.state = .ready
  row_epoch : row.expectedVisibleEpoch + 1 = db.head.visibleEpoch
  row_digest : fromPairs sha256 [] = .ok row.projectionDigest
  journal : db.journal.rows = [row]
  retirement : db.retirement = .empty
  active : db.active = []

def journalMachine : Machine Db Event where
  start db := db.Fresh ∨ ∃ row, db.EmptyReady sha256 row
  step db event next :=
    match event with
    | .operation operation => next = operation.after sha256 db
    | .outside => Outside db next

/-- The database after operations in order. -/
def runOperations (db : Db) (operations : List Operation) : Db :=
  operations.foldl (fun db operation => operation.after sha256 db) db

theorem run_runOperations (operations : List Operation) (db : Db) :
    (journalMachine sha256).Run db (operations.map .operation)
      (runOperations sha256 db operations) := by
  induction operations generalizing db with
  | nil => exact .nil db
  | cons operation rest ih => exact .cons rfl (ih (operation.after sha256 db))

variable {sha256 : List UInt8 → ContentDigest} {db next : Db}

/-! ## The effect of a step -/

/-- The commit that an event asks for. -/
def Event.commits : Event → Option SearchPublicationCommit
  | .operation (.commit request _) => some request
  | .operation (.commitOcr publication) => some publication.search
  | _ => none

/-- The event is a commit, and it answers that it was applied. -/
def AppliesCommit (sha256 : List UInt8 → ContentDigest) (db : Db) : Event → Prop
  | .operation (.commit request barrier) =>
      ∃ next, (commitSearchPublication sha256 request barrier).run db = .ok .applied next
  | .operation (.commitOcr publication) =>
      ∃ next, (commitOcrSearchPublication sha256 publication).run db = .ok .applied next
  | _ => False

/-- Everything that a step can do, with what it has checked. -/
inductive Effect (sha256 : List UInt8 → ContentDigest) (db : Db) : Event → Db → Prop where
  | nothing (event : Event) : Effect sha256 db event db
  | outside {next : Db} (apart : Outside db next) : Effect sha256 db .outside next
  | begins {attempt : Option ContentDigest} {draft : SearchPublicationDraft}
      {outcome : SearchPublicationOutcome} {next : Db} (quiet : db.pendingRetirements = [])
      (begins : Begins sha256 db attempt draft outcome next) :
      Effect sha256 db (.operation (.begin attempt draft)) next
  | validates {validation : SearchPublicationValidation} {row : JournalRow}
      (found : db.journal.find? validation.generation = some row)
      (preparing : row.state = .preparing) :
      Effect sha256 db (.operation (.validate validation))
        { db with journal := validateRow sha256 db.journal validation }
  | commits {event : Event} {commit : SearchPublicationCommit} {row : JournalRow} {next : Db}
      (applied : AppliesCommit sha256 db event) (asked : event.commits = some commit)
      (found : db.journal.find? commit.generation = some row) (validated : row.state = .validated)
      (shape : CommitShape commit) (commits : Commits sha256 db commit row next) :
      Effect sha256 db event next
  | settlesClaim (publication : OcrSearchPublicationCommit) (ocr : OcrTables) :
      Effect sha256 db (.operation (.commitOcr publication)) { db with ocr }
  | retires {generation : String} {now : Int} {plan : SearchPublicationRetirementPlan}
      {row : JournalRow} {next : Db} (found : db.journal.find? generation = some row)
      (unready : row.state ≠ .ready) (retires : Retires db generation now plan row next) :
      Effect sha256 db (.operation (.beginRetirement generation now plan)) next
  | completes {generation : String} {artifact : SearchPublicationRetirementArtifact} {now : Int}
      {next : Db} (completes : Completes db generation artifact now next) :
      Effect sha256 db (.operation (.completeArtifact generation artifact now)) next
  | blocks {generation : String} {now : Int} {row : JournalRow} {next : Db}
      (found : db.journal.find? generation = some row) (abandoned : row.state = .abandoned)
      (blocks : Blocks sha256 db row now next) :
      Effect sha256 db (.operation (.settleFailure generation now)) next
  | prunes (policy : SearchPublicationPrunePolicy) :
      Effect sha256 db (.operation (.prune policy))
        { db with
          journal := db.journal.delete fun row =>
            ((db.pruned policy).map (·.generation)).contains row.generation
          retirement := db.retirement.delete fun row =>
            ((db.pruned policy).map (·.generation)).contains row.generation }

variable {event : Event}

/-- An operation has the effect of its success, or none. -/
theorem Effect.of_transaction {α : Type} {y x : Transaction α} (atomic : y = transaction x)
    (success : ∀ {a next}, y.run db = .ok a next → Effect sha256 db event next) :
    Effect sha256 db event (final y db) := by
  obtain same | ⟨_, done⟩ := final_of_transaction atomic db
  · rw [same]
    exact .nothing event
  · exact success done

theorem after_effect (operation : Operation) :
    Effect sha256 db (.operation operation) (operation.after sha256 db) := by
  cases operation with
  | begin attempt draft =>
    refine Effect.of_transaction rfl fun done => ?_
    obtain ⟨quiet, begins⟩ := begin_ok done
    exact .begins quiet begins
  | validate validation =>
    refine Effect.of_transaction rfl fun done => ?_
    obtain ⟨row, found, preparing, rfl⟩ := validate_ok done
    exact .validates found preparing
  | commit request barrier =>
    refine Effect.of_transaction rfl fun done => ?_
    obtain ⟨row, found, validated, ⟨-, rfl⟩ | ⟨rfl, shape, commits⟩⟩ := commit_ok done
    · exact .nothing _
    · exact .commits ⟨_, done⟩ rfl found validated shape commits
  | commitOcr publication =>
    refine Effect.of_transaction rfl fun done => ?_
    obtain ⟨-, settled⟩ | ⟨-, rfl⟩ | ⟨rfl, shape, row, found, validated, commits⟩ :=
      commitOcr_ok done
    · rw [settled]
      exact .settlesClaim publication _
    · exact .nothing _
    · exact .commits ⟨_, done⟩ rfl found validated shape commits
  | beginRetirement generation now plan =>
    refine Effect.of_transaction rfl fun done => ?_
    obtain ⟨row, found, unready, ⟨-, rfl⟩ | retires⟩ :=
      beginRetirement_ok (run_transaction_eq_ok.mp done)
    · exact .nothing _
    · exact .retires found unready retires
  | completeArtifact generation artifact now =>
    refine Effect.of_transaction rfl fun done => ?_
    obtain ⟨rfl, -⟩ | completes := completeArtifact_ok done
    · exact .nothing _
    · exact .completes completes
  | settleFailure generation now =>
    refine Effect.of_transaction rfl fun done => ?_
    obtain ⟨-, rfl⟩ | ⟨-, row, found, abandoned, blocks⟩ := settleFailure_ok done
    · exact .nothing _
    · exact .blocks found abandoned blocks
  | prune policy =>
    refine Effect.of_transaction rfl fun done => ?_
    rw [prune_ok done]
    exact .prunes policy

/-- **The effect of a step.** -/
theorem step_effect (step : (journalMachine sha256).step db event next) :
    Effect sha256 db event next := by
  cases event with
  | outside => exact .outside step
  | operation operation =>
    obtain rfl : next = operation.after sha256 db := step
    exact after_effect operation

/-! ## The head and the active projection -/

variable {generation : String} {now : Int} {plan : SearchPublicationRetirementPlan}
  {row : JournalRow}

theorem Retires.keeps_head (retires : Retires db generation now plan row next) :
    next.head = db.head ∧ next.active = db.active := by
  rw [retires.rest]
  exact ⟨rfl, rfl⟩

theorem Begins.keeps_head {attempt : Option ContentDigest} {draft : SearchPublicationDraft}
    {outcome : SearchPublicationOutcome} (begins : Begins sha256 db attempt draft outcome next) :
    next.head = db.head ∧ next.active = db.active := by
  cases begins with
  | applied => exact ⟨rfl, rfl⟩
  | superseded _ _ retires => exact retires.keeps_head

theorem Blocks.keeps_tables (blocks : Blocks sha256 db row now next) :
    next.head = db.head.block now ∧ next.active = db.active ∧ next.journal = db.journal ∧
      next.retirement = db.retirement := by
  cases blocks <;> exact ⟨rfl, rfl, rfl, rfl⟩

/-- What a step does to the head and to the active projection. -/
inductive HeadChange (sha256 : List UInt8 → ContentDigest) (db : Db) (event : Event) (next : Db) :
    Prop where
  | kept (generation : next.head.generation = db.head.generation)
      (epoch : next.head.visibleEpoch = db.head.visibleEpoch) (active : next.active = db.active)
  | committed {commit : SearchPublicationCommit} {row : JournalRow}
      (applied : AppliesCommit sha256 db event) (asked : event.commits = some commit)
      (found : db.journal.find? commit.generation = some row) (validated : row.state = .validated)
      (shape : CommitShape commit) (commits : Commits sha256 db commit row next)

/-- **The head.** A step keeps the generation and the epoch of the head and the
active projection, unless it is a commit that is applied. -/
theorem head_change (step : (journalMachine sha256).step db event next) :
    HeadChange sha256 db event next := by
  cases step_effect step with
  | nothing | validates | settlesClaim | prunes => exact .kept rfl rfl rfl
  | outside apart => exact .kept apart.generation apart.epoch apart.active
  | begins _ begins =>
    obtain ⟨head, active⟩ := begins.keeps_head
    exact .kept (by rw [head]) (by rw [head]) active
  | commits applied asked found validated shape commits =>
    exact .committed applied asked found validated shape commits
  | retires _ _ retires =>
    obtain ⟨head, active⟩ := retires.keeps_head
    exact .kept (by rw [head]) (by rw [head]) active
  | completes completes =>
    rw [completes.rest]
    exact .kept rfl rfl rfl
  | blocks _ _ blocks =>
    obtain ⟨head, active, -⟩ := blocks.keeps_tables
    exact .kept (by rw [head]; rfl) (by rw [head]; rfl) active

/-! ## The row of a generation -/

/-- The columns of a row that are written once. -/
structure JournalRow.SameDraft (row next : JournalRow) : Prop where
  generation : next.generation = row.generation
  baseGeneration : next.baseGeneration = row.baseGeneration
  expectedVisibleEpoch : next.expectedVisibleEpoch = row.expectedVisibleEpoch
  projectionDigest : next.projectionDigest = row.projectionDigest
  authority : next.authority = row.authority

theorem JournalRow.SameDraft.moveTo (row : JournalRow) (state : SearchPublicationState)
    (now : Int) : row.SameDraft (row.moveTo state now) :=
  ⟨rfl, rfl, rfl, rfl, rfl⟩

/-- The moves between the states of a row. -/
inductive StateMoves : SearchPublicationState → SearchPublicationState → Prop where
  | validated : StateMoves .preparing .validated
  | abandonedEarly : StateMoves .preparing .abandoned
  | abandonedLate : StateMoves .validated .abandoned
  | ready : StateMoves .validated .ready

/-- What a step does to the row of a generation. -/
inductive RowChange (sha256 : List UInt8 → ContentDigest) (db : Db) (event : Event)
    (generation : String) : Option JournalRow → Option JournalRow → Prop where
  | kept (row : Option JournalRow) : RowChange sha256 db event generation row row
  | begun {attempt : Option ContentDigest} {draft : SearchPublicationDraft} {row : JournalRow}
      {authority : PublicationAuthority} (began : event = .operation (.begin attempt draft))
      (drafted : (draftRow draft authority).SameDraft row) (named : draft.generation = generation)
      (state : row.state = .preparing ∨ row.state = .abandoned)
      (granted : authority = .currentHead ∨
        authorityForBegin sha256 db attempt draft = some authority) :
      RowChange sha256 db event generation none (some row)
  | moved {row next : JournalRow} (same : row.SameDraft next)
      (moves : StateMoves row.state next.state) :
      RowChange sha256 db event generation (some row) (some next)
  | pruned {row : JournalRow} {policy : SearchPublicationPrunePolicy}
      (asked : event = .operation (.prune policy)) (prunable : db.prunable policy row = true) :
      RowChange sha256 db event generation (some row) none

theorem find?_moveRow (journal : Table JournalRow.key) (generation : String)
    (state : SearchPublicationState) (now : Int) (other : String) :
    (moveRow journal generation state now).find? other =
      if other = generation then
        (journal.find? generation).map fun row => row.moveTo state now
      else journal.find? other :=
  Table.find?_update other

theorem find?_validateRow (journal : Table JournalRow.key)
    (validation : SearchPublicationValidation) (other : String) :
    (validateRow sha256 journal validation).find? other =
      if other = validation.generation then
        (journal.find? validation.generation).map fun row => row.validate sha256 validation
      else journal.find? other :=
  Table.find?_update other

/-- Rewriting one row is a change of that row only. -/
theorem RowChange.update {generation target : String} {journal : Table JournalRow.key}
    {f : JournalRow → JournalRow} (written : ∀ other, journal.find? other =
      if other = target then (db.journal.find? target).map f else db.journal.find? other)
    (found : db.journal.find? target = some row) (same : row.SameDraft (f row))
    (moves : StateMoves row.state (f row).state) :
    RowChange sha256 db event generation (db.journal.find? generation) (journal.find? generation) := by
  rw [written]
  split
  case isTrue here =>
    rw [here, found]
    exact .moved same moves
  case isFalse => exact .kept _

theorem stateMoves_abandoned {state : SearchPublicationState} (unready : state ≠ .ready)
    (open_ : state ≠ .abandoned) : StateMoves state .abandoned := by
  cases state with
  | preparing => exact .abandonedEarly
  | validated => exact .abandonedLate
  | ready => exact absurd rfl unready
  | abandoned => exact absurd rfl open_

theorem Retires.row_change {other : String} (retires : Retires db generation now plan row next)
    (found : db.journal.find? generation = some row) (unready : row.state ≠ .ready) :
    RowChange sha256 db event other (db.journal.find? other) (next.journal.find? other) := by
  rw [retires.abandoned]
  split
  case isTrue => exact .kept _
  case isFalse open_ =>
    exact RowChange.update (find?_moveRow _ _ _ _) found (.moveTo _ _ _)
      (stateMoves_abandoned unready open_)

/-- The row of a generation after a begin. -/
theorem Begins.row_change {attempt : Option ContentDigest} {draft : SearchPublicationDraft}
    {outcome : SearchPublicationOutcome} (begins : Begins sha256 db attempt draft outcome next) :
    RowChange sha256 db (.operation (.begin attempt draft)) generation (db.journal.find? generation)
      (next.journal.find? generation) := by
  cases begins with
  | @applied authority journal granted inserted =>
    have fresh : db.journal.find? draft.generation = none := Table.find?_of_insert? inserted
    rw [Table.find?_insert? inserted]
    split
    case isTrue named =>
      obtain rfl : draft.generation = generation := named
      rw [fresh]
      exact .begun rfl ⟨rfl, rfl, rfl, rfl, rfl⟩ rfl (.inl rfl) (.inr granted)
    case isFalse => exact .kept _
  | @superseded journal _ refused inserted retires =>
    have fresh : db.journal.find? draft.generation = none := Table.find?_of_insert? inserted
    have drafted : journal.find? draft.generation = some (draftRow draft .currentHead) :=
      Table.find?_inserted inserted
    rw [retires.abandoned, if_neg (by rintro ⟨⟩), find?_moveRow]
    split
    case isTrue named =>
      subst named
      rw [fresh, drafted]
      exact .begun rfl (.moveTo _ _ _) rfl (.inr rfl) (.inl rfl)
    case isFalse other =>
      have kept : journal.find? generation = db.journal.find? generation := by
        rw [Table.find?_insert? inserted, if_neg fun named => other named.symm]
      rw [kept]
      exact .kept _

variable {policy : SearchPublicationPrunePolicy}

theorem mem_pruned (member : row ∈ db.pruned policy) :
    row ∈ db.journal ∧ db.prunable policy row = true := by
  have sorted := List.mem_of_mem_take member
  rw [List.mem_insertionSort, List.mem_filter] at sorted
  exact sorted

/-- A row whose generation is pruned is prunable. -/
theorem prunable_of_contains (there : row ∈ db.journal)
    (gone : ((db.pruned policy).map (·.generation)).contains row.generation = true) :
    db.prunable policy row = true := by
  obtain ⟨other, member, named⟩ := List.mem_map.mp (List.contains_iff_mem.mp gone)
  obtain ⟨present, prunable⟩ := mem_pruned member
  rw [Table.eq_of_key there present named.symm]
  exact prunable

theorem find?_pruned (generation : String) :
    (db.journal.delete fun row =>
        ((db.pruned policy).map (·.generation)).contains row.generation).find? generation =
      if ((db.pruned policy).map (·.generation)).contains generation = true then none
      else db.journal.find? generation :=
  Table.find?_delete_contains generation

/-- **The rows.** A step begins the row of a generation, moves it along its
states, prunes it or leaves it alone. -/
theorem row_change (step : (journalMachine sha256).step db event next) (generation : String) :
    RowChange sha256 db event generation (db.journal.find? generation)
      (next.journal.find? generation) := by
  cases step_effect step with
  | nothing | settlesClaim => exact .kept _
  | outside apart =>
    rw [apart.journal]
    exact .kept _
  | begins _ begins => exact begins.row_change
  | validates found preparing =>
    exact RowChange.update (find?_validateRow _ _) found ⟨rfl, rfl, rfl, rfl, rfl⟩
      (preparing ▸ .validated)
  | commits _ _ found validated _ commits =>
    rw [commits.journal]
    exact RowChange.update (find?_moveRow _ _ _ _) found (.moveTo _ _ _) (validated ▸ .ready)
  | retires found unready retires => exact retires.row_change found unready
  | completes completes =>
    rw [completes.rest]
    exact .kept _
  | blocks _ _ blocks =>
    rw [blocks.keeps_tables.2.2.1]
    exact .kept _
  | prunes policy =>
    rw [find?_pruned]
    split
    case isFalse => exact .kept _
    case isTrue gone =>
      cases found : db.journal.find? generation with
      | none => exact .kept none
      | some row =>
        obtain ⟨there, rfl⟩ := Table.find?_eq_some_iff.mp found
        exact .pruned rfl (prunable_of_contains there gone)

/-! ## The retirement of a generation -/

/-- The publication of a generation is abandoned. -/
def Db.Abandoned (db : Db) (generation : String) : Prop :=
  ∃ publication, db.journal.find? generation = some publication ∧ publication.state = .abandoned

/-- What a step does to the retirement of a generation. -/
inductive RetirementChange (event : Event) (next : Db) (generation : String) :
    Option SearchPublicationRetirement → Option SearchPublicationRetirement → Prop where
  | kept (row : Option SearchPublicationRetirement) :
      RetirementChange event next generation row row
  | begun {now : Int} {plan : SearchPublicationRetirementPlan}
      (abandoned : next.Abandoned generation) :
      RetirementChange event next generation none (some (plannedRetirement generation now plan))
  | completed {row : SearchPublicationRetirement} {artifact : SearchPublicationRetirementArtifact}
      {now : Int} (pending : row.phase = .pending) (incomplete : row.isComplete artifact = false) :
      RetirementChange event next generation (some row) (some (row.complete now artifact))
  | pruned {row : SearchPublicationRetirement} {policy : SearchPublicationPrunePolicy}
      (asked : event = .operation (.prune policy)) :
      RetirementChange event next generation (some row) none

theorem Retires.abandoned_row (retires : Retires db generation now plan row next)
    (found : db.journal.find? generation = some row) : next.Abandoned generation := by
  unfold Db.Abandoned
  rw [retires.abandoned]
  split
  case isTrue abandoned => exact ⟨row, found, abandoned⟩
  case isFalse =>
    refine ⟨row.moveTo .abandoned now, ?_, rfl⟩
    rw [find?_moveRow, if_pos rfl, found]
    rfl

theorem Retires.retirement_change {generation other : String}
    (retires : Retires db generation now plan row next)
    (found : db.journal.find? generation = some row) :
    RetirementChange event next other (db.retirement.find? other)
      (next.retirement.find? other) := by
  rw [Table.find?_insert? retires.recorded]
  split
  case isTrue named =>
    obtain rfl : generation = other := named
    rw [retires.absent]
    exact .begun (retires.abandoned_row found)
  case isFalse => exact .kept _

theorem Completes.retirement_change {generation other : String}
    {artifact : SearchPublicationRetirementArtifact}
    (completes : Completes db generation artifact now next) :
    RetirementChange event next other (db.retirement.find? other)
      (next.retirement.find? other) := by
  obtain ⟨row, found, pending, incomplete⟩ := completes.pending
  have written : next.retirement.find? other = _ := congrArg (·.retirement.find? other) completes.rest
  rw [written, Table.find?_update]
  split
  case isTrue named =>
    rw [named, found]
    exact .completed pending incomplete
  case isFalse => exact .kept _

/-- **The retirements.** A step begins the retirement of a generation, records
one of its artifacts as deleted, prunes it or leaves it alone. -/
theorem retirement_change (step : (journalMachine sha256).step db event next)
    (generation : String) :
    RetirementChange event next generation (db.retirement.find? generation)
      (next.retirement.find? generation) := by
  cases step_effect step with
  | nothing | validates | settlesClaim => exact .kept _
  | outside apart =>
    rw [apart.retirement]
    exact .kept _
  | begins _ begins =>
    cases begins with
    | applied => exact .kept _
    | superseded _ inserted retires => exact retires.retirement_change (Table.find?_inserted inserted)
  | commits _ _ _ _ _ commits =>
    rw [commits.retirement]
    exact .kept _
  | retires found _ retires => exact retires.retirement_change found
  | completes completes => exact completes.retirement_change
  | blocks _ _ blocks =>
    rw [blocks.keeps_tables.2.2.2]
    exact .kept _
  | prunes policy =>
    rw [Table.find?_delete_contains]
    split
    case isFalse => exact .kept _
    case isTrue =>
      cases db.retirement.find? generation with
      | none => exact .kept none
      | some row => exact .pruned rfl

end ResumeIr.MetaStore
