import ResumeIr.MetaStore.Imports.Worker

/-!
# What the import operations write

Head coordination, the worker operations and the controls of a root are built
from a few kinds of statements (`TaskStatement`). Tasks are rewritten in place,
and none becomes pending by it. A task is inserted after every pending task of
its root was cancelled. A scan is started for a root in the epoch the root is
in, and otherwise scans only change their progress. The remaining statements
write beside the tasks.

Each operation that succeeds is a sequence of statements (`TaskStatements`).
The invariants of the later modules are shown for one statement.
-/

namespace ResumeIr.MetaStore

open Foundation Fallible

inductive TaskStatement (s t : ImportStore) : Prop where
  | rewrite (g : ImportTask → ImportTask) (rows : t.tasks.rows = s.tasks.rows.map g)
      (same : ∀ task, (g task).id = task.id)
      (path : ∀ task, (g task).rootPath = task.rootPath)
      (pending : ∀ task, (g task).pending = true → task.pending = true)
      (kept : ∀ id, s.cancelled id = true → t.cancelled id = true)
      (named : ∀ id, t.cancelled id = true →
        s.cancelled id = true ∨ (s.tasks.find? id).isSome = true)
      (rest : t = { s with tasks := t.tasks, cancellations := t.cancellations })
  | insert (task : ImportTask) (scope : ImportScanScope) (contract : ImportProcessingContract)
      (done : (insertImportTaskWithScanScope task scope contract).run s = .ok () t)
      (retired : ∀ other ∈ s.tasks, other.rootPath = task.rootPath → other.pending = true →
        s.cancelled other.id = true)
  | authorize (scope : ImportScanScope) (valid : validateImportScanScope scope = .ok ())
      (rest : t = upsertAuthorizedImportRoot scope s)
  | control (path : String) (paused : Bool) (updatedAt : Int)
      (rest : t = setRootPaused path paused updatedAt s)
  | annotate (rest : t = { s with
      scopes := t.scopes
      purposes := t.purposes
      completions := t.completions })
  | startScan (root : SourceRoot) (snapshot : ScanSnapshot)
      (found : s.roots.find? root.id = some root) (rootId : snapshot.rootId = root.id)
      (epoch : snapshot.rootRevocationEpoch = root.revocationEpoch)
      (inactive : activeScan s root.id = none) (scans : s.scans.insert? snapshot = some t.scans)
      (rest : t = { s with scans := t.scans })
  | moveScan (g : ScanSnapshot → ScanSnapshot) (rows : t.scans.rows = s.scans.rows.map g)
      (same : ∀ scan, (g scan).id = scan.id) (rootId : ∀ scan, (g scan).rootId = scan.rootId)
      (epoch : ∀ scan, (g scan).rootRevocationEpoch = scan.rootRevocationEpoch)
      (rest : t = { s with scans := t.scans })
  | block (head : SearchProjectionState) (rest : t = { s with db := { s.db with head := head } })

/-- Statements one after another. -/
abbrev TaskStatements : ImportStore → ImportStore → Prop := Relation.ReflTransGen TaskStatement

/-! ## Rewriting tasks -/

/-- Rewriting the rows that meet a condition, none of which becomes pending. -/
theorem TaskStatement.updateWhere (s : ImportStore) {condition : ImportTask → Bool}
    {f : ImportTask → ImportTask} {same : ∀ task, (f task).id = task.id}
    (path : ∀ task, (f task).rootPath = task.rootPath)
    (pending : ∀ task, condition task = true → (f task).pending = true → task.pending = true) :
    TaskStatement s { s with tasks := s.tasks.updateWhere condition f same } := by
  refine .rewrite _ rfl ?_ ?_ ?_ (fun _ gone => gone) (fun _ gone => .inl gone) rfl
  · intro task
    split
    · exact same task
    · rfl
  · intro task
    split
    · exact path task
    · rfl
  · intro task waiting
    split at waiting
    case isTrue met => exact pending task met waiting
    case isFalse => exact waiting

variable {s t : ImportStore}

/-- Cancelling tasks that are there, with new times for some of them. -/
theorem TaskStatement.cancel {condition : ImportTask → Prop} [DecidablePred condition]
    {time : ImportTask → Int} (stopped : List ImportTaskCancellation)
    (known : ∀ row ∈ stopped, (s.tasks.find? row.importTaskId).isSome = true)
    (rows : t.tasks.rows = s.tasks.rows.map fun task =>
      if condition task then { task with updatedAt := time task } else task)
    (cancellations : t.cancellations = s.cancellations.insertAll stopped)
    (rest : t = { s with tasks := t.tasks, cancellations := t.cancellations }) :
    TaskStatement s t := by
  have cancelled_eq : ∀ id, t.cancelled id =
      (s.cancelled id || stopped.any fun row => decide (row.importTaskId = id)) := by
    intro id
    unfold ImportStore.cancelled
    rw [cancellations, Table.find?_insertAll_isSome]
  refine .rewrite _ rows ?_ ?_ ?_ ?_ ?_ rest
  · intro task
    split <;> rfl
  · intro task
    split <;> rfl
  · intro task
    split <;> exact fun waiting => waiting
  · intro id gone
    rw [cancelled_eq, gone, Bool.true_or]
  · intro id gone
    rw [cancelled_eq, Bool.or_eq_true, List.any_eq_true] at gone
    obtain earlier | ⟨row, member, named⟩ := gone
    · exact .inl earlier
    · right
      rw [← of_decide_eq_true named]
      exact known row member

variable {path : String} {task : ImportTask}

theorem mem_newlyRetired {retained : Option ImportTaskId} :
    task ∈ newlyRetired s path retained ↔
      task ∈ s.tasks ∧ task.retires path retained = true ∧ s.cancelled task.id = false := by
  simp [newlyRetired, Table.mem_rows]

/-- A row of a table is found. -/
theorem find?_isSome_of_mem (member : task ∈ s.tasks) : (s.tasks.find? task.id).isSome = true := by
  rw [Table.mem_iff_find?.mp member]
  rfl

theorem TaskStatement.retire (path : String) (retained : Option ImportTaskId) (requestedAt : Int)
    (s : ImportStore) : TaskStatement s (retirePendingTasks path retained requestedAt s) := by
  refine .cancel _ (fun row member => ?_) rfl rfl rfl
  obtain ⟨task, retired, rfl⟩ := List.mem_map.mp member
  exact find?_isSome_of_mem (mem_newlyRetired.mp retired).1

theorem cancelled_retirePendingTasks (path : String) (retained : Option ImportTaskId)
    (requestedAt : Int) (s : ImportStore) (id : ImportTaskId) :
    (retirePendingTasks path retained requestedAt s).cancelled id =
      (s.cancelled id || (newlyRetired s path retained).any fun task => decide (task.id = id)) := by
  show ((Table.insertAll _ _).find? id).isSome = _
  rw [Table.find?_insertAll_isSome, List.any_map]
  rfl

/-- After all pending tasks of a root were retired, none is left uncancelled. -/
theorem cancelled_of_retirePendingTasks {requestedAt : Int}
    (member : task ∈ (retirePendingTasks path none requestedAt s).tasks)
    (here : task.rootPath = path) (waiting : task.pending = true) :
    (retirePendingTasks path none requestedAt s).cancelled task.id = true := by
  obtain ⟨old, there, made⟩ := List.mem_map.mp (Table.mem_rows.mp member)
  have same : task.id = old.id ∧ task.rootPath = old.rootPath ∧ task.pending = old.pending := by
    subst made
    split <;> exact ⟨rfl, rfl, rfl⟩
  rw [cancelled_retirePendingTasks, same.1, Bool.or_eq_true, or_iff_not_imp_left]
  intro uncancelled
  refine List.any_eq_true.mpr ⟨old, mem_newlyRetired.mpr ⟨there, ?_, by simpa using uncancelled⟩,
    by simp⟩
  simp [ImportTask.retires, ← same.2.1, here, ← same.2.2, waiting]

/-! ## Head coordination -/

/-- The two states differ in what is noted about the tasks at most. -/
def Annotates (s t : ImportStore) : Prop :=
  t = { s with scopes := t.scopes, purposes := t.purposes, completions := t.completions }

/-- What the coordination of a root does to its head. A head that is kept is queued, unless
the request is a reconciliation. A head that the request keeps is not replaced. -/
inductive HeadMove (reconciles : Prop) (keeps : CanonicalHeadRecord → Bool) (path : String)
    (s : ImportStore) : ImportRootTaskHeadOutcome → ImportStore → Prop where
  | refused {outcome : ImportRootTaskHeadOutcome} (none : outcome.task? = none) :
      HeadMove reconciles keeps path s outcome s
  | kept {outcome : ImportRootTaskHeadOutcome} {t : ImportStore} (head : CanonicalHeadRecord)
      (requestedAt : Int) (found : canonicalHeadRecord s path = some head)
      (live : head.cancelled = false) (waits : head.task.status = .queued ∨ reconciles)
      (answer : outcome.task? = some head.task)
      (noted : Annotates (retirePendingTasks path (some head.task.id) requestedAt s) t) :
      HeadMove reconciles keeps path s outcome t
  | replaced {outcome : ImportRootTaskHeadOutcome} {q t : ImportStore}
      (kind : MigrationHeadRequestKind) (task : ImportTask) (scope : ImportScanScope)
      (contract : ImportProcessingContract) (requestedAt : Int) (here : task.rootPath = path)
      (queued : task.status = .queued) (answer : outcome.task? = some task)
      (passed : ∀ head ∈ canonicalHeadRecord s path, keeps head = false)
      (inserted : (insertImportTaskWithScanScope task scope contract).run
        (retirePendingTasks path none requestedAt
          (supersedeCompleted (canonicalHeadRecord s path) kind requestedAt s)) = .ok () q)
      (noted : Annotates q t) : HeadMove reconciles keeps path s outcome t

/-- The heads that a rebuild leaves as they are. -/
def migrationKeeps (s : ImportStore) (path : String) (taskId : ImportTaskId)
    (contract : ImportProcessingContract) (queuedAt : Int) (kind : MigrationHeadRequestKind)
    (head : CanonicalHeadRecord) : Bool :=
  match authorizedRootTaskScope s path taskId queuedAt with
  | .ok scope => head.keptBy contract.id (clearBudget scope) kind ||
      (decide (kind = .reconciliation) && head.running)
  | .error _ => false

/-- The heads that a request keeps, or does not touch because they run. -/
def ImportRootTaskHeadRequest.keeps (s : ImportStore) :
    ImportRootTaskHeadRequest → CanonicalHeadRecord → Bool
  | .configured task scope contract =>
      match s.unpublishedMigrationContractId with
      | some _ => migrationKeeps (upsertAuthorizedImportRoot scope s) task.rootPath task.id contract
          task.queuedAt (.configuredSourceChange (pendingHeadPolicy s task scope))
      | none => fun head => head.running || head.reusable contract.id scope
  | .migrationRebuild path taskId contract queuedAt =>
      migrationKeeps s path taskId contract queuedAt .reconciliation

instance : IsPreorder ImportStore Annotates where
  refl _ := rfl
  trans _ _ _ before after := by
    unfold Annotates at *
    rw [after, before]

theorem clearImportTaskScanBudget_annotates (taskId : ImportTaskId) :
    Within Annotates (clearImportTaskScanBudget taskId) :=
  .get_bind fun _ => .require_bind fun _ => .write fun _ => rfl

theorem insertMarker_annotates (taskId : ImportTaskId) (contractId : String) :
    Within Annotates (insertMigrationRebuildFullCorpusTaskMarker taskId contractId) := by
  intro s _ t done
  obtain ⟨_, _, rfl⟩ := Table.run_insertRow_eq_ok.mp done
  rfl

section Moves

variable {reconciles : Prop} {keeps : CanonicalHeadRecord → Bool} {head : CanonicalHeadRecord}
  {outcome : ImportRootTaskHeadOutcome}
  {scope : ImportScanScope} {contract : ImportProcessingContract} {taskId : ImportTaskId}
  {queuedAt : Int} {kind : MigrationHeadRequestKind}

theorem retainHead_move {purpose : ImportTaskPurpose} (found : canonicalHeadRecord s path = some head)
    (live : head.cancelled = false) (waits : head.task.status = .queued ∨ reconciles)
    (done : (retainHead path head purpose queuedAt).run s = .ok outcome t) :
    HeadMove reconciles keeps path s outcome t := by
  obtain ⟨scope, _, done⟩ := run_demand_bind_eq_ok.mp done
  cases done
  exact .kept head queuedAt found live waits rfl rfl

theorem promoteHead_move {contractId : String} (found : canonicalHeadRecord s path = some head)
    (live : head.cancelled = false) (waits : head.task.status = .queued ∨ reconciles)
    (done : (promoteHead path head contractId queuedAt).run s = .ok outcome t) :
    HeadMove reconciles keeps path s outcome t := by
  unfold promoteHead at done
  rw [run_get_bind, run_modify_bind] at done
  obtain ⟨_, q, cleared, done⟩ := run_bind_eq_ok.mp done
  obtain ⟨_, p, marked, done⟩ := run_bind_eq_ok.mp done
  obtain ⟨scope, _, done⟩ := run_demand_bind_eq_ok.mp done
  cases done
  have noted := trans_of Annotates (clearImportTaskScanBudget_annotates _ _ _ _ cleared)
    (insertMarker_annotates _ _ _ _ _ marked)
  exact .kept head queuedAt found live waits rfl noted

theorem insertMigrationHead_move
    (passed : ∀ head ∈ canonicalHeadRecord s path, keeps head = false)
    (done : (insertMigrationHead path (canonicalHeadRecord s path) taskId contract queuedAt kind
      scope).run s = .ok outcome t) : HeadMove reconciles keeps path s outcome t := by
  unfold insertMigrationHead at done
  rw [run_get_bind, run_modify_bind, run_get_bind, run_modify_bind] at done
  obtain ⟨_, q, inserted, done⟩ := run_bind_eq_ok.mp done
  obtain ⟨_, p, cleared, done⟩ := run_bind_eq_ok.mp done
  obtain ⟨_, o, marked, done⟩ := run_bind_eq_ok.mp done
  cases done
  have noted := trans_of Annotates (clearImportTaskScanBudget_annotates _ _ _ _ cleared)
    (insertMarker_annotates _ _ _ _ _ marked)
  exact .replaced kind _ scope contract queuedAt rfl rfl rfl passed inserted noted

theorem replaceHead_move (queued : task.status = .queued)
    (passed : ∀ head ∈ canonicalHeadRecord s task.rootPath, keeps head = false)
    (done : (replaceHead task scope contract).run s = .ok outcome t) :
    HeadMove reconciles keeps task.rootPath s outcome t := by
  unfold replaceHead at done
  rw [run_get_bind, run_modify_bind] at done
  obtain ⟨_, q, inserted, done⟩ := run_bind_eq_ok.mp done
  cases done
  exact .replaced .reconciliation task scope contract task.updatedAt rfl queued rfl passed inserted
    rfl

theorem live_of_fits {contractId : String} (fits : head.fits contractId scope = true) :
    head.cancelled = false := by
  simp only [CanonicalHeadRecord.fits, Bool.and_eq_true, Bool.not_eq_true'] at fits
  exact fits.1.1

/-- What a changed source keeps as the head of its root is queued. -/
theorem queued_of_waits (waits : head.waits kind = true) :
    head.task.status = .queued ∨ kind = .reconciliation := by
  simp only [CanonicalHeadRecord.waits, Bool.and_eq_true, Bool.or_eq_true, decide_eq_true_eq]
    at waits
  exact waits.1.imp_right And.right

theorem settleMigrationHead_move (asks : kind = .reconciliation → reconciles)
    (done : (settleMigrationHead path (canonicalHeadRecord s path) taskId contract queuedAt kind
      scope).run s = .ok outcome t) :
    HeadMove reconciles (fun head => head.keptBy contract.id (clearBudget scope) kind ||
      (decide (kind = .reconciliation) && head.running)) path s outcome t := by
  dsimp only [settleMigrationHead] at done
  split at done
  next head kept =>
    obtain ⟨found, promotable⟩ := Option.filter_eq_some_iff.mp kept
    simp only [CanonicalHeadRecord.promotable, Bool.and_eq_true] at promotable
    exact promoteHead_move found (live_of_fits promotable.1.1)
      ((queued_of_waits promotable.2).imp_right asks) done
  next unpromoted =>
  split at done
  next head kept =>
    obtain ⟨found, retainable⟩ := Option.filter_eq_some_iff.mp kept
    simp only [CanonicalHeadRecord.retainable, CanonicalHeadRecord.covers, Bool.and_eq_true,
      Bool.or_eq_true] at retainable
    obtain retained | covered := retainable
    · exact retainHead_move found (live_of_fits retained.1.1)
        ((queued_of_waits retained.2).imp_right asks) done
    · exact retainHead_move found (live_of_fits covered.1.1.1)
        (.inr (asks (of_decide_eq_true covered.2))) done
  next unretained =>
  split at done
  · cases done
    exact .refused rfl
  next idle =>
    refine insertMigrationHead_move (fun head found => ?_) done
    rw [Option.filter_eq_none_iff] at unpromoted unretained
    have other := unretained head found
    rw [found, Option.any_some, not_and, Bool.not_eq_true] at idle
    simp only [Bool.or_eq_true, not_or, Bool.not_eq_true] at other
    simpa [CanonicalHeadRecord.keptBy, unpromoted head found, other] using idle

theorem coordinateMigrationHead_move (asks : kind = .reconciliation → reconciles)
    (done : (coordinateMigrationHead path taskId contract queuedAt kind).run s = .ok outcome t) :
    HeadMove reconciles (migrationKeeps s path taskId contract queuedAt kind) path s outcome t := by
  unfold coordinateMigrationHead at done
  rw [run_get_bind] at done
  split at done
  · cases done
    exact .refused rfl
  split at done
  · cases done
    exact .refused rfl
  split at done
  · cases done
    exact .refused rfl
  · obtain ⟨scope, read, done⟩ := run_ofExcept_bind_eq_ok.mp done
    have same : migrationKeeps s path taskId contract queuedAt kind =
        (fun head => head.keptBy contract.id (clearBudget scope) kind ||
          (decide (kind = .reconciliation) && head.running)) := by
      funext head
      simp only [migrationKeeps, read]
    rw [same]
    exact settleMigrationHead_move asks done

theorem coordinateConfiguredCatchUp_move (queued : task.status = .queued)
    (done : (coordinateConfiguredCatchUp task scope contract).run s = .ok outcome t) :
    HeadMove reconciles (fun head => head.running || head.reusable contract.id scope)
      task.rootPath s outcome t := by
  unfold coordinateConfiguredCatchUp at done
  rw [run_get_bind] at done
  split at done
  next absent => exact replaceHead_move queued (by simp [absent]) done
  next head found =>
    split at done
    · cases done
      exact .refused rfl
    next idle =>
    split at done
    next reusable =>
      simp only [CanonicalHeadRecord.reusable, Bool.and_eq_true, Bool.not_eq_true',
        decide_eq_true_eq] at reusable
      obtain ⟨⟨⟨⟨live, queued⟩, _⟩, _⟩, _⟩ := reusable
      exact retainHead_move found live (.inl queued) done
    next other => exact replaceHead_move queued (by simp [found, idle, other]) done

theorem of_validateConfiguredRequest {u : Unit}
    (valid : validateConfiguredRequest task scope = .ok u) :
    validateImportScanScope scope = .ok () ∧ task.status = .queued := by
  obtain ⟨_, _, valid⟩ := bind_ok_iff.mp valid
  obtain ⟨_, scopeValid, valid⟩ := bind_ok_iff.mp valid
  exact ⟨scopeValid, (check_eq_ok.mp valid).1⟩

/-- While the rebuild is not published the root is configured first. -/
theorem coordinateConfiguredHead_move
    (done : (coordinateConfiguredHead task scope contract).run s = .ok outcome t) :
    let keeps := ImportRootTaskHeadRequest.keeps s (.configured task scope contract)
    HeadMove False keeps task.rootPath s outcome t ∨ validateImportScanScope scope = .ok () ∧
      HeadMove False keeps task.rootPath (upsertAuthorizedImportRoot scope s) outcome t := by
  obtain ⟨_, valid, done⟩ := run_ofExcept_bind_eq_ok.mp done
  obtain ⟨valid, queued⟩ := of_validateConfiguredRequest valid
  rw [run_get_bind] at done
  split at done
  · cases done
    exact .inl (.refused rfl)
  split at done
  · cases done
    exact .inl (.refused rfl)
  split at done
  next rebuild =>
    unfold coordinateConfiguredRebuild at done
    split at done
    · cases done
      exact .inl (.refused rfl)
    · simp only [ImportRootTaskHeadRequest.keeps, rebuild]
      exact .inr ⟨valid, coordinateMigrationHead_move (by rintro ⟨⟩) done⟩
  next published =>
    simp only [ImportRootTaskHeadRequest.keeps, published]
    exact .inl (coordinateConfiguredCatchUp_move queued done)

/-- The head of a root is one of its tasks. -/
theorem mem_of_canonicalHeadRecord (found : canonicalHeadRecord s path = some head) :
    head.task ∈ s.tasks := by
  obtain ⟨task, first, rfl⟩ := Option.map_eq_some_iff.mp found
  exact List.mem_of_find?_eq_some first

/-- Cancelling a completed head. -/
theorem supersedeCompleted_statements (path : String) (kind : MigrationHeadRequestKind)
    (requestedAt : Int) (s : ImportStore) :
    TaskStatements s (supersedeCompleted (canonicalHeadRecord s path) kind requestedAt s) := by
  unfold supersedeCompleted cancelSupersededCompletedHead
  split
  · exact .refl
  · split
    · exact .refl
    case h_2 record found =>
      refine .single (@TaskStatement.cancel s _ (fun _ => False) _ (fun _ => 0)
        [⟨record.task.id, max requestedAt record.task.updatedAt⟩] ?_ ?_ rfl rfl)
      · intro row member
        obtain rfl := List.mem_singleton.mp member
        exact find?_isSome_of_mem
          (mem_of_canonicalHeadRecord (Option.filter_eq_some_iff.mp found).1)
      · exact (List.map_id _).symm

theorem HeadMove.statements (move : HeadMove reconciles keeps path s outcome t) :
    TaskStatements s t := by
  cases move with
  | refused => exact .refl
  | kept head requestedAt _ _ _ _ noted =>
    exact .tail (.single (.retire path _ requestedAt s)) (.annotate noted)
  | replaced kind task scope contract requestedAt here _ _ _ inserted noted =>
    subst here
    calc TaskStatements s _ := supersedeCompleted_statements task.rootPath kind requestedAt s
      TaskStatements _ _ := .single (.retire task.rootPath none requestedAt _)
      TaskStatements _ _ := .single (.insert task scope contract inserted
        fun _ member here waiting => cancelled_of_retirePendingTasks member here waiting)
      TaskStatements _ t := .single (.annotate noted)

end Moves

variable {contract : ImportProcessingContract} {scope : ImportScanScope}

theorem coordinateHead_statements (request : ImportRootTaskHeadRequest) :
    Within TaskStatements (coordinateImportRootTaskHeadInConnection request) := by
  intro s outcome t done
  cases request with
  | configured task scope contract =>
    obtain move | ⟨valid, move⟩ := coordinateConfiguredHead_move done
    · exact move.statements
    · exact .head (.authorize scope valid rfl) move.statements
  | migrationRebuild path taskId contract queuedAt =>
    exact (coordinateMigrationHead_move (fun _ => trivial) done).statements

theorem coordinateEach_statements (requests : List ImportRootTaskHeadRequest) :
    Within TaskStatements (coordinateEach requests) := by
  induction requests with
  | nil => exact .pure _
  | cons request rest ih =>
    refine .bind (coordinateHead_statements request) fun outcome => ?_
    split
    · exact .pure _
    · exact .require_bind fun _ => .bind ih fun _ => .pure _

theorem coordinateHeads_statements (requests : List ImportRootTaskHeadRequest) :
    Within TaskStatements (coordinateImportRootTaskHeads requests) :=
  .ofExcept_bind fun _ _ => .bind (coordinateEach_statements requests).transactionIf
    fun _ => .pure _

/-! ## Scan coordination -/

/-- The tables that no statement writes. -/
structure TaskFrame (s t : ImportStore) : Prop where
  roots : t.roots = s.roots
  deletions : t.deletions = s.deletions
  pdfJobs : t.pdfJobs = s.pdfJobs
  authority : t.authority = s.authority
  transitions : t.transitions = s.transitions

theorem TaskStatement.frame (statement : TaskStatement s t) : TaskFrame s t := by
  cases statement with
  | insert task scope contract done _ =>
    obtain ⟨_, _, _, _, _, _, _, rfl⟩ := run_insertImportTaskWithScanScope_eq_ok.mp done
    exact ⟨rfl, rfl, rfl, rfl, rfl⟩
  | rewrite _ _ _ _ _ _ _ rest | authorize _ _ rest | control _ _ _ rest | annotate rest
  | startScan _ _ _ _ _ _ _ rest | moveScan _ _ _ _ _ rest | block _ rest =>
    rw [rest]; exact ⟨rfl, rfl, rfl, rfl, rfl⟩

theorem TaskStatements.frame (statements : TaskStatements s t) : TaskFrame s t := by
  induction statements with
  | refl => exact ⟨rfl, rfl, rfl, rfl, rfl⟩
  | tail _ statement ih =>
    have last := statement.frame
    exact ⟨last.roots.trans ih.roots, last.deletions.trans ih.deletions,
      last.pdfJobs.trans ih.pdfJobs, last.authority.trans ih.authority,
      last.transitions.trans ih.transitions⟩

theorem validateScanCommit_statements (rootId : SourceRootId) (taskId : ImportTaskId) :
    Within TaskStatements (validateScanCommit rootId taskId) :=
  .get_bind fun _ => .demand_bind fun _ _ => .require_bind fun _ => .require _ _

/-- Starting the scan of a root that is there. -/
theorem insertScanSnapshot_statements {root : SourceRoot} {snapshot : ScanSnapshot} {u : Unit}
    (found : s.roots.find? root.id = some root) (rootId : snapshot.rootId = root.id)
    (epoch : snapshot.rootRevocationEpoch = root.revocationEpoch)
    (done : (insertScanSnapshot snapshot).run s = .ok u t) : TaskStatements s t := by
  obtain ⟨inactive, done⟩ := run_require_bind_eq_ok.mp done
  obtain ⟨scans, inserted, rfl⟩ := Table.run_insertRow_eq_ok.mp done
  exact .single (.startScan root snapshot found rootId epoch (rootId ▸ inactive) inserted rfl)

theorem startSourceRootScan_statements {root : SourceRoot} {trigger : ScanTrigger} {now : Int}
    {outcome : SourceRootScanCoordination} (found : s.roots.find? root.id = some root)
    (done : (startSourceRootScan root trigger task scope contract now).run s = .ok outcome t) :
    TaskStatements s t := by
  obtain ⟨taskHead, r, coordinated, done⟩ := run_bind_eq_ok.mp done
  have before := coordinateHead_statements _ s _ r coordinated
  split at done
  · cases done
    exact before
  · unfold snapshotForHead at done
    rw [run_get_bind] at done
    split at done
    · obtain ⟨_, done⟩ := run_require_bind_eq_ok.mp done
      cases done
      exact before
    · obtain ⟨_, q, inserted, done⟩ := run_bind_eq_ok.mp done
      obtain ⟨_, p, checked, done⟩ := run_bind_eq_ok.mp done
      cases done
      have still : r.roots.find? root.id = some root := by rwa [before.frame.roots]
      exact before.trans ((insertScanSnapshot_statements still rfl rfl inserted).trans
        (validateScanCommit_statements _ _ _ _ _ checked))

theorem closeOrphan_statements (active : Option ScanSnapshot) (now : Int) (s : ImportStore) :
    TaskStatements s (closeOrphan active now s) := by
  cases active with
  | none => exact .refl
  | some snapshot =>
    refine .single (.moveScan _ rfl ?_ ?_ ?_ rfl)
    · intro scan
      split <;> rfl
    · intro scan
      split <;> rfl
    · intro scan
      split <;> rfl

theorem coordinateScan_statements (rootId : SourceRootId) (trigger : ScanTrigger)
    (task : ImportTask) (scope : ImportScanScope) (contract : ImportProcessingContract)
    (now : Int) :
    Within TaskStatements
      (coordinateSourceRootScan rootId trigger task scope contract now) := by
  refine .transaction fun s outcome t done => ?_
  obtain ⟨_, _, done⟩ := run_ofExcept_bind_eq_ok.mp done
  obtain ⟨root, found, done⟩ := run_demand_bind_eq_ok.mp done
  obtain ⟨_, done⟩ := run_require_bind_eq_ok.mp done
  split at done
  · cases done
    exact .refl
  · have before := closeOrphan_statements (activeScan s rootId) now s
    obtain rfl : root.id = rootId := Table.find?_key found
    refine before.trans (startSourceRootScan_statements ?_ done)
    rwa [before.frame.roots]

/-! ## Workers -/

theorem updateTasks_statements {condition : ImportStore → ImportTask → Bool}
    {f : ImportStore → ImportTask → ImportTask} {same : ∀ s task, (f s task).id = task.id}
    (path : ∀ s task, (f s task).rootPath = task.rootPath)
    (pending : ∀ s task, condition s task = true → (f s task).pending = true →
      task.pending = true) :
    Within TaskStatements (updateTasks condition f same) :=
  .get_bind fun _ => .write_bind (fun s => .single (.updateWhere s (path s) (pending s))) (.pure _)

theorem restartFailedScanAttempt_statements (taskId : ImportTaskId) (now : Int) :
    Within TaskStatements (restartFailedScanAttempt taskId now) := by
  refine .get_bind fun s => ?_
  split
  · exact .pure _
  · refine .require_bind fun _ => .write fun r => .single (.moveScan _ rfl ?_ ?_ ?_ rfl)
    · intro scan
      split <;> rfl
    · intro scan
      split <;> rfl
    · intro scan
      split <;> rfl

theorem claim_statements (observed : ImportTask) (updatedAt : Int) :
    Within TaskStatements (claimObservedImportTaskForWorker observed updatedAt) := by
  refine .transaction <| .ite (fun _ => .pure _) fun waiting => .get_bind fun s =>
    .bind (updateTasks_statements (fun _ _ => rfl) ?_) fun changed =>
      .ite (fun _ => ?_) fun _ => .pure _
  · intro s task met _
    simp only [claimable, Bool.and_eq_true, decide_eq_true_eq] at met
    have status : task.status = observed.status := by tauto
    simp only [ImportTask.pending, status, Bool.or_eq_true, decide_eq_true_eq]
    tauto
  · exact .bind (.write_bind (fun _ => .single (.annotate rfl))
      (restartFailedScanAttempt_statements _ _)) fun _ => .pure _

theorem requeueFrom_statements {status : ImportTaskStatus} (id : ImportTaskId)
    (observedUpdatedAt updatedAt : Int)
    (waits : status = .running ∨ status = .failedRetryable) :
    Within TaskStatements (requeueFrom status id observedUpdatedAt updatedAt) := by
  refine updateTasks_statements (fun _ _ => rfl) fun s task met _ => ?_
  simp only [Bool.and_eq_true, decide_eq_true_eq] at met
  simp only [ImportTask.pending, met.1.1.2, Bool.or_eq_true, decide_eq_true_eq]
  tauto

theorem heartbeat_statements (id : ImportTaskId) (updatedAt : Int) :
    Within TaskStatements (heartbeatRunningImportTask id updatedAt) :=
  updateTasks_statements (fun _ _ => rfl) fun _ _ _ waiting => waiting

theorem normalize_statements (observed : ImportTask) (failedAt : Int) :
    Within TaskStatements (normalizeObservedOrphanedRunningImportTask observed failedAt) := by
  refine .require_bind fun _ => updateTasks_statements (fun _ _ => rfl) fun s task met _ => ?_
  simp only [Bool.and_eq_true] at met
  simp [ImportTask.pending, met.1.2]

/-- A running task is pending. -/
theorem ImportTask.pending_of_runs {id : ImportTaskId} (runs : task.runs id = true) :
    task.pending = true := by
  simp only [ImportTask.runs, Bool.and_eq_true] at runs
  simp [ImportTask.pending, runs.2]

theorem complete_statements (taskId : ImportTaskId) (contractId : String)
    (finalScope : ImportScanScope) (completedAt : Int) (manifestExact : Bool) :
    Within TaskStatements
      (completeImportTask taskId contractId finalScope completedAt manifestExact) := by
  refine .transaction <| .ofExcept_bind fun _ _ => .require_bind fun _ => .get_bind fun s =>
    .demand_bind fun task _ => .require_bind fun _ => .require_bind fun _ => .require_bind fun _ =>
    .write_bind (fun _ => .single (.annotate rfl)) <| .bind ?_ fun _ =>
    .write fun r => .single (.updateWhere r (fun _ => rfl) fun row met _ => ?_)
  · intro s _ t done
    obtain ⟨_, _, rfl⟩ := Table.run_insertRow_eq_ok.mp done
    exact .single (.annotate rfl)
  · simp only [Bool.and_eq_true] at met
    exact ImportTask.pending_of_runs met.1

theorem blockProjection_statements (reason : Option RepairReason) (failedAt : Int)
    (s : ImportStore) : TaskStatements s (blockProjection reason failedAt s) := by
  unfold blockProjection
  split
  · exact .refl
  · split
    · exact .single (.block _ rfl)
    · exact .refl

theorem fail_statements (observed : ImportTask) (failure : ImportTaskFailure)
    (blockReason : Option RepairReason) (failedAt : Int) :
    Within TaskStatements (failObservedImportTask observed failure blockReason failedAt) := by
  refine .transaction <| .require_bind fun _ => .get_bind fun s => .require_bind fun _ =>
    .bind (updateTasks_statements (fun _ _ => rfl) fun s task met _ => ?_) fun changed =>
    .ite (fun _ => .write_bind (blockProjection_statements _ _) (.pure _)) fun _ => .pure _
  simp only [failsWith, Bool.and_eq_true, decide_eq_true_eq] at met
  have running : task.status = .running := by tauto
  simp [ImportTask.pending, running]

theorem updateStatus_statements (id : ImportTaskId) (failure : ImportTaskFailure)
    (updatedAt : Int) : Within TaskStatements (updateImportTaskStatus id failure updatedAt) :=
  .transaction <| .get_bind fun _ => .demand_bind fun _ _ => .require_bind fun _ =>
    .require_bind fun _ => .ofExcept_bind fun _ _ => .write fun r =>
      .single (.updateWhere r (fun _ => rfl) fun _ met _ => ImportTask.pending_of_runs met)

/-! ## Cancelling, pausing and resuming -/

theorem cancel_statements (id : ImportTaskId) (requestedAt : Int) :
    Within TaskStatements (cancelImportTask id requestedAt) := by
  refine .transaction fun s _ t done => ?_
  obtain ⟨task, found, done⟩ := run_demand_bind_eq_ok.mp done
  obtain ⟨_, done⟩ := run_require_bind_eq_ok.mp done
  obtain ⟨_, done⟩ := run_require_bind_eq_ok.mp done
  cases done
  refine .single (.cancel [⟨id, requestedAt⟩] (fun row member => ?_) rfl rfl rfl)
  rw [List.mem_singleton.mp member, found]
  rfl

theorem pauseRoot_statements (path : String) (updatedAt : Int) :
    Within TaskStatements (pauseImportRoot path updatedAt) := by
  refine .transaction <| .get_bind fun _ => .demand_bind fun _ _ =>
    .write_bind (fun _ => .single (.control path true updatedAt rfl)) <|
      .write_bind (fun s => .single (.cancel _ (fun row member => ?_) rfl rfl rfl)) (.pure _)
  obtain ⟨task, retired, rfl⟩ := List.mem_map.mp member
  exact find?_isSome_of_mem (Table.mem_rows.mpr (List.mem_of_mem_filter retired))

theorem resumeRoot_statements (path : String) (taskId : ImportTaskId)
    (contract : ImportProcessingContract) (updatedAt : Int) :
    Within TaskStatements (resumeImportRoot path taskId contract updatedAt) :=
  .transaction <| .get_bind fun _ => .demand_bind fun _ _ => .ite (fun _ => .pure _) fun _ =>
    .write_bind (fun _ => .single (.control path false updatedAt rfl)) <|
      .get_bind fun _ => .ofExcept_bind fun _ _ => .bind (coordinateHead_statements _)
        fun _ => .pure _

theorem upsertScope_statements (scope : ImportScanScope) :
    Within TaskStatements (upsertImportScanScope scope) :=
  .transaction <| .ofExcept_bind fun _ valid =>
    .write_bind (fun _ => .single (.authorize scope valid rfl)) <|
      .get_bind fun _ => .require_bind fun _ => .write fun _ => .single (.annotate rfl)

end ResumeIr.MetaStore
