import ResumeIr.MetaStore.Imports.SingleHead

/-!
# The tasks that an operation ends

A live task ends when it is cancelled, completed, failed for good or removed. Which tasks
an operation ends is said by its arguments and the store before it
(`ImportOperation.ends`); every other live task stays live (`ImportOperation.spares`). The
transition of the writer is left to `LiveTasksMoved`: it puts another task in the place of
each one it ends.
-/

namespace ResumeIr.MetaStore

open Foundation Fallible

/-! ## What is ended -/

/-- An active scan of the root whose task may still run or is running. -/
def ImportStore.liveScan (s : ImportStore) (rootId : SourceRootId) : Option ScanSnapshot :=
  (activeScan s rootId).filter fun active => activeScanHasLiveTask s active.id

namespace ImportRootTaskHeadRequest

/-- A request ends the tasks of its root, except the head that it keeps. -/
def ends (s : ImportStore) (request : ImportRootTaskHeadRequest) (task : ImportTask) : Bool :=
  decide (task.rootPath = request.root) &&
    !(canonicalHeadRecord s request.root).any fun head =>
      request.keeps s head && decide (head.task.id = task.id)

/-- The requests of a batch are coordinated one after another. -/
def endsEach : List ImportRootTaskHeadRequest → ImportStore → ImportTask → Bool
  | [], _, _ => false
  | request :: rest, s, task => request.ends s task ||
      endsEach rest (final (coordinateImportRootTaskHeadInConnection request) s) task

end ImportRootTaskHeadRequest

/-- A contract replaces that of a rebuild, and every task is removed. -/
def ImportStore.hardCuts (s : ImportStore) (contractId : String) : Bool :=
  (s.unpublishedRebuild || blockedContractHardCut s contractId) &&
    !(s.unpublishedRebuild && decide (s.db.repair.activeContractId = some contractId)) &&
    decide (s.runningCount = 0)

/-- The request that resumes a root, once it is no longer paused. -/
def resumeEnds (path : String) (taskId : ImportTaskId) (contract : ImportProcessingContract)
    (updatedAt : Int) (s : ImportStore) (task : ImportTask) : Bool :=
  match authorizedRootTaskScope s path taskId updatedAt with
  | .ok scope =>
      ImportRootTaskHeadRequest.ends s (.configured (queuedTask taskId path updatedAt) scope contract)
        task
  | .error _ => false

/-- Whether an operation ends a live task. -/
def ImportOperation.ends (s : ImportStore) (task : ImportTask) : ImportOperation → Bool
  | .coordinateHeads requests => ImportRootTaskHeadRequest.endsEach requests s task
  | .coordinateScan rootId _ new scope contract _ =>
      (s.liveScan rootId).isNone &&
        ImportRootTaskHeadRequest.ends s (.configured new scope contract) task
  | .complete taskId _ _ _ manifestExact => manifestExact && task.runs taskId
  | .fail observed failure _ _ => decide (failure = .permanently) && failsWith observed s task
  | .updateStatus id failure _ => decide (failure = .permanently) && task.runs id
  | .cancel id requestedAt => decide (task.id = id) && decide (task.updatedAt ≤ requestedAt)
  | .pauseRoot path _ => decide (task.rootPath = path)
  | .resumeRoot path taskId contract updatedAt => s.rootPaused path &&
      resumeEnds path taskId contract updatedAt (setRootPaused path false updatedAt s) task
  | .purgeTasks doomed => doomed.contains task.id
  | .purgeRoot path => decide (task.rootPath = path)
  | .activateRebuild contract _ => s.hardCuts contract.id
  | _ => false

/-! ## What is spared -/

section SameTasks

variable {s t : ImportStore}

/-- Neither the tasks nor their cancellations have changed. -/
structure SameTasks (s t : ImportStore) : Prop where
  tasks : t.tasks = s.tasks
  cancellations : t.cancellations = s.cancellations

instance : IsPreorder ImportStore SameTasks where
  refl _ := ⟨rfl, rfl⟩
  trans _ _ _ before after :=
    ⟨after.tasks.trans before.tasks, after.cancellations.trans before.cancellations⟩

theorem Annotates.sameTasks (noted : Annotates s t) : SameTasks s t := by
  rw [noted]
  exact ⟨rfl, rfl⟩

theorem within_snapshotForHead (rootId : SourceRootId) (trigger : ScanTrigger) (epoch : Nat)
    (now : Int) (taskHead : ImportRootTaskHeadOutcome) (task : ImportTask) :
    Within SameTasks (snapshotForHead rootId trigger epoch now taskHead task) := by
  refine .get_bind fun s => ?_
  split
  · exact .require_bind fun _ => .pure _
  · refine .bind ?_ fun _ => .bind ?_ fun _ => .pure _
    · intro s _ t done
      obtain ⟨_, done⟩ := run_require_bind_eq_ok.mp done
      obtain ⟨_, _, rfl⟩ := Table.run_insertRow_eq_ok.mp done
      exact ⟨rfl, rfl⟩
    · exact .get_bind fun _ => .demand_bind fun _ _ => .require_bind fun _ => .require _ _

end SameTasks

/-- Live tasks stay live and keep their root, except those that are ended. -/
def Spares (ended : ImportTask → Bool) (s t : ImportStore) : Prop :=
  ∀ task ∈ s.tasks, s.live task = true → ended task = false →
    ∃ later ∈ t.tasks, later.id = task.id ∧ later.rootPath = task.rootPath ∧ t.live later = true

/-- No live task ends. -/
abbrev SparesAll : ImportStore → ImportStore → Prop := Spares fun _ => false

section Spares

variable {s t u : ImportStore} {ended : ImportTask → Bool}

theorem Spares.trans {first second : ImportTask → Bool} (before : Spares first s t)
    (after : Spares second t u)
    (narrow : ∀ task later, later.id = task.id → later.rootPath = task.rootPath →
      ended task = false → first task = false ∧ second later = false) : Spares ended s u := by
  intro task there alive spared
  obtain ⟨middle, inside, same, path, still⟩ :=
    before task there alive (narrow task task rfl rfl spared).1
  obtain ⟨later, last, same', path', lives⟩ :=
    after middle inside still (narrow task middle same path spared).2
  exact ⟨later, last, same'.trans same, path'.trans path, lives⟩

theorem Spares.of_all (all : SparesAll s t) : Spares ended s t :=
  fun task there alive _ => all task there alive rfl

theorem Spares.final {α : Type} {x : ImportTransaction α} (atomic : Atomic x)
    (done : ∀ a t, x.run s = .ok a t → Spares ended s t) : Spares ended s (final x s) :=
  atomic.final_cases (fun task there alive _ => ⟨task, there, rfl, rfl, alive⟩) done

theorem Spares.then_all (before : Spares ended s t) (after : SparesAll t u) : Spares ended s u :=
  before.trans after fun _ _ _ _ spared => ⟨spared, rfl⟩

theorem SameTasks.spares (same : SameTasks s t) : SparesAll s t := by
  intro task there alive _
  refine ⟨task, same.tasks ▸ there, rfl, rfl, ?_⟩
  simpa only [ImportStore.live, ImportStore.cancelled, same.cancellations] using alive

instance : IsPreorder ImportStore SparesAll where
  refl s := (refl_of SameTasks s).spares
  trans _ _ _ := Spares.then_all

/-- Rewriting the tasks that meet a condition. -/
theorem Spares.updateWhere (s : ImportStore) {condition : ImportTask → Bool}
    {f : ImportTask → ImportTask} {same : ∀ task, (f task).id = task.id}
    (path : ∀ task, (f task).rootPath = task.rootPath)
    (pending : ∀ task, condition task = true → ended task = false → (f task).pending = true) :
    Spares ended s { s with tasks := s.tasks.updateWhere condition f same } := by
  intro task there alive spared
  obtain ⟨waiting, uncancelled⟩ := ImportStore.live_iff.mp alive
  by_cases met : condition task = true
  · refine ⟨f task, List.mem_map.mpr ⟨task, there, if_pos met⟩, same task, path task, ?_⟩
    exact ImportStore.live_iff.mpr ⟨pending task met spared, by rw [same]; exact uncancelled⟩
  · exact ⟨task, List.mem_map.mpr ⟨task, there, if_neg met⟩, rfl, rfl, alive⟩

/-- Cancelling tasks, with new times for some of them. -/
theorem Spares.cancel {condition : ImportTask → Prop} [DecidablePred condition]
    {time : ImportTask → Int} (stopped : List ImportTaskCancellation)
    (named : ∀ row ∈ stopped, ∀ task ∈ s.tasks, task.id = row.importTaskId →
      s.live task = true → ended task = true)
    (rows : t.tasks.rows = s.tasks.rows.map fun task =>
      if condition task then { task with updatedAt := time task } else task)
    (cancellations : t.cancellations = s.cancellations.insertAll stopped) : Spares ended s t := by
  intro task there alive spared
  obtain ⟨waiting, uncancelled⟩ := ImportStore.live_iff.mp alive
  refine ⟨if condition task then { task with updatedAt := time task } else task, ?_, ?_, ?_, ?_⟩
  · rw [Table.mem_rows, rows]
    exact List.mem_map_of_mem there
  · split <;> rfl
  · split <;> rfl
  · rw [ImportStore.live_iff]
    constructor
    · split <;> exact waiting
    · have same : (if condition task then { task with updatedAt := time task } else task).id =
          task.id := by split <;> rfl
      rw [same, ImportStore.cancelled, cancellations, Table.find?_insertAll_isSome,
        Bool.or_eq_false_iff]
      refine ⟨uncancelled, List.any_eq_false.mpr fun row listed same => ?_⟩
      rw [named row listed task there (of_decide_eq_true same).symm alive] at spared
      cases spared

theorem spares_retire (path : String) (retained : Option ImportTaskId) (requestedAt : Int)
    (s : ImportStore) :
    Spares (·.retires path retained) s (retirePendingTasks path retained requestedAt s) := by
  refine .cancel _ (fun row listed task there same _ => ?_) rfl rfl
  obtain ⟨retired, member, rfl⟩ := List.mem_map.mp listed
  obtain ⟨known, retires, _⟩ := mem_newlyRetired.mp member
  rwa [Table.eq_of_key there known same]

theorem spares_insert {task : ImportTask} {scope : ImportScanScope}
    {contract : ImportProcessingContract} {v : Unit}
    (done : (insertImportTaskWithScanScope task scope contract).run s = .ok v t) :
    SparesAll s t := by
  obtain ⟨_, tasks, _, _, inserted, _, _, rfl⟩ := run_insertImportTaskWithScanScope_eq_ok.mp done
  intro old there alive _
  exact ⟨old, (Table.mem_insert? inserted).mpr (.inr there), rfl, rfl, alive⟩

/-- The head that is superseded is complete, so it is not live. -/
theorem spares_supersede (path : String) (kind : MigrationHeadRequestKind) (requestedAt : Int)
    (s : ImportStore) :
    SparesAll s (supersedeCompleted (canonicalHeadRecord s path) kind requestedAt s) := by
  unfold supersedeCompleted cancelSupersededCompletedHead
  split
  · exact refl_of SparesAll s
  split
  · exact refl_of SparesAll s
  next record found =>
    obtain ⟨here, settled⟩ := Option.filter_eq_some_iff.mp found
    refine @Spares.cancel s _ _ (fun _ => False) _ (fun _ => 0)
      [⟨record.task.id, max requestedAt record.task.updatedAt⟩] ?_ ?_ rfl
    · intro row listed task there same alive
      obtain rfl := List.mem_singleton.mp listed
      obtain rfl := Table.eq_of_key there (mem_of_canonicalHeadRecord here) same
      simp only [Bool.and_eq_true, decide_eq_true_eq] at settled
      simp [ImportStore.live, ImportTask.pending, settled.2] at alive
    · exact (List.map_id _).symm

/-! ## Coordination -/

variable {outcome : ImportRootTaskHeadOutcome} {path : String}

theorem HeadMove.spares {reconciles : Prop} {keeps : CanonicalHeadRecord → Bool}
    (move : HeadMove reconciles keeps path s outcome t) :
    Spares (fun task => decide (task.rootPath = path) &&
      !(canonicalHeadRecord s path).any fun head => keeps head && decide (head.task.id = task.id))
      s t := by
  cases move with
  | refused => exact .of_all (refl_of SparesAll s)
  | kept head requestedAt found _ _ _ noted =>
    refine .then_all ?_ noted.sameTasks.spares
    refine (spares_retire path (some head.task.id) requestedAt s).trans (refl_of SparesAll _) ?_
    intro task _ _ _ spared
    simp only [found, Option.any_some, Bool.and_eq_false_iff, decide_eq_false_iff_not,
      Bool.not_eq_false', Bool.and_eq_true, decide_eq_true_eq] at spared
    obtain apart | ⟨_, same⟩ := spared
    · simp [ImportTask.retires, apart]
    · simp [ImportTask.retires, same]
  | replaced kind task scope contract requestedAt here _ _ passed inserted noted =>
    refine .then_all ?_ (trans_of SparesAll (spares_insert inserted) noted.sameTasks.spares)
    refine (spares_supersede path kind requestedAt s).trans (spares_retire path none _ _) ?_
    intro task later _ root spared
    have apart : task.rootPath ≠ path := by
      intro here
      simp only [here, decide_true, Bool.true_and, Bool.not_eq_false', Option.any_eq_true,
        Bool.and_eq_true] at spared
      obtain ⟨head, found, kept, _⟩ := spared
      rw [passed head found] at kept
      cases kept
    simp [ImportTask.retires, root, apart]

/-- The coordination of a root ends the tasks it says. -/
theorem spares_coordinate {request : ImportRootTaskHeadRequest}
    (done : (coordinateImportRootTaskHeadInConnection request).run s = .ok outcome t) :
    Spares (request.ends s) s t := by
  cases request with
  | configured task scope contract =>
    obtain move | ⟨_, move⟩ := coordinateConfiguredHead_move done
    · exact move.spares
    · exact move.spares
  | migrationRebuild path taskId contract queuedAt =>
    exact (coordinateMigrationHead_move (fun _ => trivial) done).spares

theorem endsEach_congr {task later : ImportTask} (same : later.id = task.id)
    (path : later.rootPath = task.rootPath) (requests : List ImportRootTaskHeadRequest)
    (s : ImportStore) : ImportRootTaskHeadRequest.endsEach requests s later =
      ImportRootTaskHeadRequest.endsEach requests s task := by
  induction requests generalizing s with
  | nil => rfl
  | cons request rest ih =>
    simp only [ImportRootTaskHeadRequest.endsEach, ImportRootTaskHeadRequest.ends, same, path, ih]

theorem spares_coordinateEach {requests : List ImportRootTaskHeadRequest}
    {outcomes : Except ImportRootTaskHeadBatchRejection (List ImportRootTaskHeadOutcome)}
    (done : (coordinateEach requests).run s = .ok outcomes t) :
    Spares (ImportRootTaskHeadRequest.endsEach requests s) s t := by
  induction requests generalizing s outcomes with
  | nil =>
    cases done
    exact refl_of SparesAll _
  | cons request rest ih =>
    obtain ⟨outcome, r, coordinated, done⟩ := run_bind_eq_ok.mp done
    have first := spares_coordinate coordinated
    split at done
    · cases done
      refine first.trans (refl_of SparesAll _) fun task _ _ _ spared => ⟨?_, rfl⟩
      exact (Bool.or_eq_false_iff.mp spared).1
    · obtain ⟨_, done⟩ := run_require_bind_eq_ok.mp done
      obtain ⟨others, q, each, done⟩ := run_bind_eq_ok.mp done
      cases done
      refine first.trans (ih each) fun task later same path spared => ?_
      simp only [ImportRootTaskHeadRequest.endsEach, final_of_ok coordinated,
        Bool.or_eq_false_iff] at spared
      exact ⟨spared.1, (endsEach_congr same path rest r).trans spared.2⟩

theorem spares_coordinateHeads (requests : List ImportRootTaskHeadRequest) (s : ImportStore) :
    Spares (ImportRootTaskHeadRequest.endsEach requests s) s
      (final (coordinateImportRootTaskHeads requests) s) := by
  refine .final (coordinateHeads_atomic requests) fun _ t done => ?_
  obtain ⟨_, _, done⟩ := run_ofExcept_bind_eq_ok.mp done
  obtain ⟨outcomes, r, coordinated, done⟩ := run_bind_eq_ok.mp done
  cases done
  obtain ⟨_, rfl⟩ | ⟨_, each⟩ := run_transactionIf_cases coordinated
  · exact .of_all (refl_of SparesAll _)
  · exact spares_coordinateEach each

theorem spares_coordinateScan (rootId : SourceRootId) (trigger : ScanTrigger) (new : ImportTask)
    (scope : ImportScanScope) (contract : ImportProcessingContract) (now : Int) (s : ImportStore) :
    Spares (fun task => (s.liveScan rootId).isNone &&
        ImportRootTaskHeadRequest.ends s (.configured new scope contract) task) s
      (final (coordinateSourceRootScan rootId trigger new scope contract now) s) := by
  refine .final (.transaction _) fun _ t done => ?_
  have done := run_transaction_eq_ok.mp done
  obtain ⟨_, _, done⟩ := run_ofExcept_bind_eq_ok.mp done
  obtain ⟨root, _, done⟩ := run_demand_bind_eq_ok.mp done
  obtain ⟨_, done⟩ := run_require_bind_eq_ok.mp done
  split at done
  · cases done
    exact .of_all (refl_of SparesAll _)
  next idle =>
    obtain ⟨_, r, written, done⟩ := run_bind_eq_ok.mp done
    obtain rfl := run_modify_eq_ok.mp written
    obtain ⟨taskHead, q, headed, done⟩ := run_bind_eq_ok.mp done
    have first := spares_coordinate headed
    have idle : s.liveScan rootId = none := idle
    simp only [idle, Option.isNone_none, Bool.true_and]
    -- closing the orphan of an earlier scan touches neither the tasks nor what a request reads
    have closed : Spares (ImportRootTaskHeadRequest.ends s (.configured new scope contract)) s q := by
      unfold closeOrphan at first
      split at first <;> exact first
    refine closed.then_all ?_
    split at done
    · cases done
      exact refl_of SparesAll _
    · exact (within_snapshotForHead _ _ _ _ _ _ _ _ _ done).spares

/-! ## Workers and controls -/

theorem spares_updateTasks {condition : ImportStore → ImportTask → Bool}
    {f : ImportStore → ImportTask → ImportTask} {same : ∀ s task, (f s task).id = task.id}
    (path : ∀ s task, (f s task).rootPath = task.rootPath)
    (pending : ∀ s task, condition s task = true → (f s task).pending = true) :
    Within SparesAll (updateTasks condition f same) :=
  .get_bind fun _ => .write_bind
    (fun s => .updateWhere s (path s) fun task met _ => pending s task met) (.pure _)

theorem spares_restart (taskId : ImportTaskId) (now : Int) :
    Within SparesAll (restartFailedScanAttempt taskId now) := by
  refine .get_bind fun s => ?_
  split
  · exact .pure _
  · exact .require_bind fun _ => .write fun r => SameTasks.spares ⟨rfl, rfl⟩

theorem spares_claim (observed : ImportTask) (updatedAt : Int) :
    Within SparesAll (claimObservedImportTaskForWorker observed updatedAt) :=
  .transaction <| .ite (fun _ => .pure _) fun _ => .get_bind fun _ =>
    .bind (spares_updateTasks (fun _ _ => rfl) fun _ _ _ => rfl) fun _ =>
      .ite (fun _ => .bind (.write_bind (fun _ => SameTasks.spares ⟨rfl, rfl⟩) (spares_restart _ _))
        fun _ => .pure _) fun _ => .pure _

theorem spares_requeueFrom (status : ImportTaskStatus) (id : ImportTaskId)
    (observedUpdatedAt updatedAt : Int) :
    Within SparesAll (requeueFrom status id observedUpdatedAt updatedAt) :=
  spares_updateTasks (fun _ _ => rfl) fun _ _ _ => rfl

theorem spares_heartbeat (id : ImportTaskId) (updatedAt : Int) :
    Within SparesAll (heartbeatRunningImportTask id updatedAt) := by
  refine spares_updateTasks (fun _ _ => rfl) fun _ task met => ?_
  simp only [Bool.and_eq_true, decide_eq_true_eq] at met
  simp [ImportTask.pending, met.1.2]

theorem spares_normalize (observed : ImportTask) (failedAt : Int) :
    Within SparesAll (normalizeObservedOrphanedRunningImportTask observed failedAt) := by
  refine .require_bind fun _ => spares_updateTasks (fun _ _ => rfl) fun s task _ => ?_
  cases s.cancelled task.id <;> simp [ImportTask.pending]

theorem spares_upsertScope (scope : ImportScanScope) :
    Within SparesAll (upsertImportScanScope scope) :=
  .transaction <| .ofExcept_bind fun _ _ => .write_bind (fun _ => SameTasks.spares ⟨rfl, rfl⟩) <|
    .get_bind fun _ => .require_bind fun _ => .write fun _ => SameTasks.spares ⟨rfl, rfl⟩

theorem spares_complete (taskId : ImportTaskId) (contractId : String)
    (finalScope : ImportScanScope) (completedAt : Int) (manifestExact : Bool) (s : ImportStore) :
    Spares (fun task => manifestExact && task.runs taskId) s
      (final (completeImportTask taskId contractId finalScope completedAt manifestExact) s) := by
  refine .final (.transaction _) fun _ t done => ?_
  obtain ⟨_, _, done⟩ := run_ofExcept_bind_eq_ok.mp (run_transaction_eq_ok.mp done)
  obtain ⟨_, done⟩ := run_require_bind_eq_ok.mp done
  obtain ⟨found, _, done⟩ := run_demand_bind_eq_ok.mp done
  obtain ⟨_, done⟩ := run_require_bind_eq_ok.mp done
  obtain ⟨exact_, done⟩ := run_require_bind_eq_ok.mp done
  obtain ⟨_, done⟩ := run_require_bind_eq_ok.mp done
  rw [run_modify_bind] at done
  obtain ⟨_, r, noted, done⟩ := run_bind_eq_ok.mp done
  obtain ⟨_, _, rfl⟩ := Table.run_insertRow_eq_ok.mp noted
  obtain rfl := run_modify_eq_ok.mp done
  refine Spares.updateWhere { s with scopes := _, completions := _ } (fun _ => rfl) ?_
  intro task met spared
  rw [exact_.2, Bool.true_and] at spared
  simp [spared] at met

theorem spares_fail (observed : ImportTask) (failure : ImportTaskFailure)
    (blockReason : Option RepairReason) (failedAt : Int) (s : ImportStore) :
    Spares (fun task => decide (failure = .permanently) && failsWith observed s task) s
      (final (failObservedImportTask observed failure blockReason failedAt) s) := by
  refine .final (.transaction _) fun _ t done => ?_
  obtain ⟨_, done⟩ := run_require_bind_eq_ok.mp (run_transaction_eq_ok.mp done)
  obtain ⟨_, done⟩ := run_require_bind_eq_ok.mp done
  obtain ⟨changed, r, updated, done⟩ := run_bind_eq_ok.mp done
  have failed : Spares (fun task => decide (failure = .permanently) && failsWith observed s task)
      s r := by
    cases updated
    refine .updateWhere s (fun _ => rfl) fun task met spared => ?_
    cases failure with
    | retryable => rfl
    | permanently => simp [met] at spared
  refine failed.then_all ?_
  split at done
  · cases done
    unfold blockProjection
    split
    · exact refl_of SparesAll _
    split
    · exact SameTasks.spares ⟨rfl, rfl⟩
    · exact refl_of SparesAll _
  · cases done
    exact refl_of SparesAll _

theorem spares_updateStatus (id : ImportTaskId) (failure : ImportTaskFailure) (updatedAt : Int)
    (s : ImportStore) :
    Spares (fun task => decide (failure = .permanently) && task.runs id) s
      (final (updateImportTaskStatus id failure updatedAt) s) := by
  refine .final (.transaction _) fun _ t done => ?_
  obtain ⟨_, _, done⟩ := run_demand_bind_eq_ok.mp (run_transaction_eq_ok.mp done)
  obtain ⟨_, done⟩ := run_require_bind_eq_ok.mp done
  obtain ⟨_, done⟩ := run_require_bind_eq_ok.mp done
  obtain ⟨_, _, done⟩ := run_ofExcept_bind_eq_ok.mp done
  obtain rfl := run_modify_eq_ok.mp done
  refine .updateWhere s (fun _ => rfl) fun task met spared => ?_
  cases failure with
  | retryable => rfl
  | permanently => simp [met] at spared

theorem spares_cancel (id : ImportTaskId) (requestedAt : Int) (s : ImportStore) :
    Spares (fun task => decide (task.id = id) && decide (task.updatedAt ≤ requestedAt)) s
      (final (cancelImportTask id requestedAt) s) := by
  refine .final (.transaction _) fun _ t done => ?_
  obtain ⟨found, there, done⟩ := run_demand_bind_eq_ok.mp (run_transaction_eq_ok.mp done)
  obtain ⟨_, done⟩ := run_require_bind_eq_ok.mp done
  obtain ⟨early, done⟩ := run_require_bind_eq_ok.mp done
  cases done
  refine .cancel [⟨id, requestedAt⟩] (fun row listed task member same _ => ?_) rfl rfl
  obtain rfl := List.mem_singleton.mp listed
  obtain rfl : task = found :=
    Option.some.inj ((Table.mem_iff_find?.mp member).symm.trans (by rw [same]; exact there))
  simp [show task.id = id from same, early]

theorem spares_pauseRoot (path : String) (updatedAt : Int) (s : ImportStore) :
    Spares (fun task => decide (task.rootPath = path)) s
      (final (pauseImportRoot path updatedAt) s) := by
  refine .final (.transaction _) fun _ t done => ?_
  obtain ⟨_, _, done⟩ := run_demand_bind_eq_ok.mp (run_transaction_eq_ok.mp done)
  cases done
  refine .cancel _ (fun row listed task member same _ => ?_) rfl rfl
  obtain ⟨retired, there, rfl⟩ := List.mem_map.mp listed
  obtain ⟨known, retires⟩ := List.mem_filter.mp there
  obtain rfl := Table.eq_of_key member (Table.mem_rows.mpr known) same
  simp only [ImportTask.retires, Bool.and_eq_true] at retires
  exact retires.1.1

theorem spares_resumeRoot (path : String) (taskId : ImportTaskId)
    (contract : ImportProcessingContract) (updatedAt : Int) (s : ImportStore) :
    Spares (fun task => s.rootPaused path &&
        resumeEnds path taskId contract updatedAt (setRootPaused path false updatedAt s) task) s
      (final (resumeImportRoot path taskId contract updatedAt) s) := by
  refine .final (.transaction _) fun _ t done => ?_
  obtain ⟨status, known, done⟩ := run_demand_bind_eq_ok.mp (run_transaction_eq_ok.mp done)
  split at done
  · cases done
    exact .of_all (refl_of SparesAll _)
  next inactive =>
    have paused : s.rootPaused path = true := by
      cases status with
      | active => exact absurd rfl inactive
      | paused => simp [ImportStore.rootPaused, known]
    rw [run_modify_bind, run_get_bind] at done
    obtain ⟨scope, read, done⟩ := run_ofExcept_bind_eq_ok.mp done
    obtain ⟨outcome, r, coordinated, done⟩ := run_bind_eq_ok.mp done
    cases done
    simp only [paused, Bool.true_and, resumeEnds, read]
    exact spares_coordinate coordinated

/-! ## Removing tasks -/

theorem spares_purge (doomed : ImportTaskId → Bool) (s : ImportStore) :
    Spares (fun task => doomed task.id) s (purgeImportTasks doomed s) := by
  intro task there alive spared
  obtain ⟨waiting, uncancelled⟩ := ImportStore.live_iff.mp alive
  refine ⟨task, Table.mem_delete.mpr ⟨there, spared⟩, rfl, rfl, ImportStore.live_iff.mpr
    ⟨waiting, ?_⟩⟩
  simp only [ImportStore.cancelled, Option.isSome_eq_false_iff, Option.isNone_iff_eq_none]
    at uncancelled
  simp [ImportStore.cancelled, purgeImportTasks, Table.find?_delete, uncancelled]

theorem spares_activate (contract : ImportProcessingContract) (now : Int) (s : ImportStore) :
    Spares (fun _ => s.hardCuts contract.id) s
      (final (activateMigrationRebuildContract contract now) s) := by
  cases cut : s.hardCuts contract.id with
  | true => exact fun _ _ _ spared => nomatch spared
  | false =>
    refine .final (.transactionIf _ _) fun _ t done => ?_
    obtain ⟨_, rfl⟩ | ⟨_, done⟩ := run_transactionIf_cases done
    · exact refl_of SparesAll _
    obtain ⟨_, r, stored, done⟩ := run_bind_eq_ok.mp done
    obtain ⟨_, rfl⟩ := run_insertImportProcessingContract_eq_ok.mp stored
    rw [run_get_bind] at done
    dsimp only at done
    split at done
    · cases done
      exact SameTasks.spares ⟨rfl, rfl⟩
    next due =>
    split at done
    · obtain ⟨_, q, written, done⟩ := run_bind_eq_ok.mp done
      cases done
      have only := updateAuthority_only _ _ _ _ written
      exact SameTasks.spares ⟨by rw [only], by rw [only]⟩
    next other =>
    split at done
    · cases done
      exact SameTasks.spares ⟨rfl, rfl⟩
    next quiet =>
      have cuts : s.hardCuts contract.id = true := by
        simp only [ImportStore.hardCuts, Bool.and_eq_true, Bool.or_eq_true, Bool.not_eq_true',
          Bool.and_eq_false_iff, decide_eq_false_iff_not, decide_eq_true_eq]
        refine ⟨⟨?_, ?_⟩, Nat.eq_zero_of_not_pos quiet⟩
        · by_contra neither
          simp only [not_or, Bool.not_eq_true] at neither
          exact due neither
        · by_contra both
          simp only [not_or, Bool.not_eq_false, not_not] at both
          exact other both
      rw [cuts] at cut
      cases cut

end Spares

/-- **What an operation ends.** Every other live task stays live and keeps its root. -/
theorem ImportOperation.spares (names : TransitionNames) (op : ImportOperation) (s : ImportStore)
    (other : ∀ desired now, op ≠ .onlineTransition desired now) :
    Spares (fun task => op.ends s task) s (op.apply names s) := by
  have latch : ∀ f, SparesAll s (final (updateAuthority f) s) := by
    refine fun f => .final (updateAuthority_atomic f) fun _ t done => ?_
    have only := updateAuthority_only _ _ _ _ done
    exact SameTasks.spares ⟨by rw [only], by rw [only]⟩
  cases op with
  | coordinateHeads requests => exact spares_coordinateHeads requests s
  | coordinateScan rootId trigger task scope contract now =>
    exact spares_coordinateScan rootId trigger task scope contract now s
  | claim observed updatedAt => exact (spares_claim _ _).final (.transaction _) s
  | upsertScope scope => exact (spares_upsertScope _).final (.transaction _) s
  | complete taskId contractId finalScope completedAt manifestExact =>
    exact spares_complete _ _ _ _ _ s
  | fail observed failure blockReason failedAt => exact spares_fail _ _ _ _ s
  | updateStatus id failure updatedAt => exact spares_updateStatus _ _ _ s
  | requeueRunning id observedUpdatedAt updatedAt =>
    exact (spares_requeueFrom _ _ _ _).final updateTasks_atomic s
  | requeueInterrupted id observedUpdatedAt updatedAt =>
    exact (spares_requeueFrom _ _ _ _).final updateTasks_atomic s
  | heartbeat id updatedAt => exact (spares_heartbeat _ _).final updateTasks_atomic s
  | normalizeOrphan observed failedAt =>
    exact (spares_normalize _ _).final
      (.silent_bind (final_require _ _) fun _ => updateTasks_atomic) s
  | cancel id requestedAt => exact spares_cancel id requestedAt s
  | pauseRoot path updatedAt => exact spares_pauseRoot path updatedAt s
  | resumeRoot path taskId contract updatedAt => exact spares_resumeRoot _ _ _ _ s
  | purgeTasks doomed => exact spares_purge (fun id => doomed.contains id) s
  | purgeRoot path =>
    intro task there alive spared
    refine spares_purge (fun id => (s.tasks.find? id).any fun task => task.rootPath = path) s task
      there alive ?_
    simpa [Table.mem_iff_find?.mp there, ends] using spared
  | onlineTransition desired now => exact absurd rfl (other desired now)
  | activateRebuild contract now => exact spares_activate contract now s
  | markRuntimeUnavailable | reconcileRuntime | markUnsupported | clearUnsupported | markBlocked
  | clearBlocked => exact latch _
  | schedulePdf | completePdf | requeuePdf => exact SameTasks.spares ⟨rfl, rfl⟩

end ResumeIr.MetaStore
