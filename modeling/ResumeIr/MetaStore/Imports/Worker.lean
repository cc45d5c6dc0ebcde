import ResumeIr.MetaStore.Imports.TaskHead

/-!
# What workers do with import tasks

A worker claims the task it observed, runs it, and completes or fails it. A task
whose worker was interrupted goes back to the queue, and a task left running by
an earlier process is normalized when the store is opened. The owner of a root
can cancel its task, pause the root and resume it.

Most of these are one conditional update of the row of the task (`updateTasks`).
The condition repeats what the worker saw, so an update that comes too late
changes nothing.
-/

namespace ResumeIr.MetaStore

open Foundation Fallible

/-- One conditional update of tasks. The answer says whether it found a row. -/
def updateTasks (condition : ImportStore → ImportTask → Bool)
    (f : ImportStore → ImportTask → ImportTask) (same : ∀ s task, (f s task).id = task.id) :
    ImportTransaction Bool := do
  let s ← get
  modify fun s => { s with tasks := s.tasks.updateWhere (condition s) (f s) (same s) }
  return s.tasks.rows.any (condition s)

/-! ## Claiming -/

/-- The task belongs to the rebuild that is under way. -/
def activeFullCorpusTask (s : ImportStore) (id : ImportTaskId) : Bool :=
  (s.purposes.find? id).any fun purpose =>
    s.processingContractId id = some purpose.processingContractId &&
      s.db.repair.activeContractId = some purpose.processingContractId

def ImportStore.rootPaused (s : ImportStore) (path : String) : Bool :=
  s.importRootControlStatus path = some .paused

variable (observed : ImportTask) (id : ImportTaskId)

/-- What the claim of a task wants of its row. -/
def claimable (s : ImportStore) (task : ImportTask) : Bool :=
  task.id = observed.id && task.status = observed.status && task.updatedAt = observed.updatedAt &&
    !s.cancelled task.id && !s.rootPaused task.rootPath && !s.sourceRootIsDeleting task.rootPath &&
    (s.completions.find? task.id).isNone &&
    (!s.unpublishedRebuild || activeFullCorpusTask s task.id) &&
    s.authority.healthState = .ready

def ImportTask.start (task : ImportTask) (time : Int) : ImportTask :=
  { task with status := .running, startedAt := some time, finishedAt := none, updatedAt := time }

def ImportScanScope.reset (scope : ImportScanScope) (updatedAt : Int) : ImportScanScope :=
  { scope with
    scanBudgetObserved := scope.scanBudgetLimit.map fun _ => 0
    scanBudgetExhausted := false
    updatedAt := updatedAt }

/-- The scan of a task that is tried again is active again. At most one scan of
a root is active. -/
def restartFailedScanAttempt (taskId : ImportTaskId) (now : Int) : ImportTransaction Unit := do
  let s ← get
  match (s.scans.find? taskId.asStr).filter fun scan =>
      scan.phase = .partly || scan.phase = .failed with
  | none => return ()
  | some scan =>
      require (activeScan s scan.rootId = none) .storage
      modify fun s => { s with
        scans := s.scans.update scan.id (fun scan => { scan with
          phase := .queued
          completeness := .unknown
          startedAt := now
          updatedAt := now
          completedAt := none }) fun _ => rfl }

def resetUnsealedImportAttempt (taskId : ImportTaskId) (updatedAt : Int) :
    ImportTransaction Unit := do
  modify fun s => { s with scopes := s.scopes.update taskId (·.reset updatedAt) fun _ => rfl }
  restartFailedScanAttempt taskId updatedAt

def claimObservedImportTaskForWorker (updatedAt : Int) : ImportTransaction (Option ImportTask) :=
  transaction do
  if observed.status ≠ .queued ∧ observed.status ≠ .failedRetryable then
    return none
  else
    let claimedAt := max updatedAt observed.updatedAt
    let s ← get
    let changed ← updateTasks (claimable observed) (fun _ task => task.start claimedAt)
      fun _ _ => rfl
    if changed then
      resetUnsealedImportAttempt observed.id claimedAt
      return (s.tasks.find? observed.id).map (·.start claimedAt)
    else return none

/-! ## Requeueing and heartbeats -/

def ImportTask.requeue (task : ImportTask) (updatedAt : Int) : ImportTask :=
  { task with
    status := .queued
    startedAt := none
    finishedAt := none
    updatedAt := max task.updatedAt updatedAt }

/-- Puts a task in a given status back into the queue. -/
def requeueFrom (status : ImportTaskStatus) (id : ImportTaskId) (observedUpdatedAt updatedAt : Int) :
    ImportTransaction Bool :=
  updateTasks
    (fun s task => task.id = id && task.status = status && task.updatedAt = observedUpdatedAt &&
      !s.cancelled task.id)
    (fun _ task => task.requeue updatedAt) fun _ _ => rfl

def requeueRunningImportTask (observedUpdatedAt updatedAt : Int) : ImportTransaction Bool :=
  requeueFrom .running id observedUpdatedAt updatedAt

def requeueInterruptedImportTask (observedUpdatedAt updatedAt : Int) : ImportTransaction Bool :=
  requeueFrom .failedRetryable id observedUpdatedAt updatedAt

def heartbeatRunningImportTask (updatedAt : Int) : ImportTransaction Bool :=
  updateTasks
    (fun _ task => task.id = id && task.status = .running && task.updatedAt ≤ updatedAt)
    (fun _ task => { task with updatedAt := updatedAt }) fun _ _ => rfl

/-- A task that an earlier process left running. -/
def normalizeObservedOrphanedRunningImportTask (failedAt : Int) : ImportTransaction Bool := do
  require (observed.status = .running) .invalidTransition
  let failed := max failedAt observed.updatedAt
  updateTasks
    (fun _ task => task.id = observed.id && task.status = .running &&
      task.updatedAt = observed.updatedAt)
    (fun s task => { task with
      status := if s.cancelled task.id then .failedRetryable else .queued
      startedAt := if s.cancelled task.id then task.startedAt else none
      finishedAt := if s.cancelled task.id then some failed else none
      updatedAt := failed })
    fun _ _ => rfl

/-! ## Ending a task -/

def ImportTask.runs (task : ImportTask) (id : ImportTaskId) : Bool :=
  task.id = id && task.status = .running

/-- Completes a running task. Whether the staged dispositions are an exact
manifest of the files that were found is decided elsewhere (`manifestExact`). -/
def completeImportTask (taskId : ImportTaskId) (contractId : String)
    (finalScope : ImportScanScope) (completedAt : Int) (manifestExact : Bool) :
    ImportTransaction Unit := transaction do
  ofExcept (validateImportScanScope finalScope)
  require (finalScope.importTaskId = taskId)
    (.invalidPersistedValue "import_scan_scope.import_task_id")
  let s ← get
  let task ← demand (s.tasks.find? taskId) (.notFound "import_task")
  require (task.status = .running ∧ task.rootPath = finalScope.canonicalRootPath ∧
      task.updatedAt ≤ completedAt ∧ s.processingContractId taskId = some contractId)
    .invalidTransition
  require ((s.contracts.find? contractId).isSome = true ∧ manifestExact = true) .storageInvariant
  require ((s.scopes.find? taskId).isSome = true) (.notFound "import_scan_scope")
  modify fun s => { s with
    scopes := s.scopes.update taskId
      (fun scope => { finalScope with importTaskId := scope.importTaskId }) fun _ => rfl }
  Table.insertRow ImportStore.completions
    (fun s completions => { s with completions := completions })
    ⟨taskId, contractId, completedAt⟩ .storage
  modify fun s => { s with
    tasks := s.tasks.updateWhere
      (fun row => row.runs taskId && row.updatedAt = task.updatedAt)
      (fun row => { row with
        status := .completed
        finishedAt := some completedAt
        updatedAt := completedAt }) fun _ => rfl }

inductive ImportTaskFailure where
  | retryable
  | permanently
  deriving DecidableEq

def ImportTaskFailure.terminalStatus : ImportTaskFailure → ImportTaskStatus
  | .retryable => .failedRetryable
  | .permanently => .failedPermanent

inductive ObservedImportTaskFailureOutcome where
  | applied
  | superseded
  deriving DecidableEq

/-- The observed task was running, and a reason to block the rebuild is one a
task can give. -/
def failureObserved (blockReason : Option RepairReason) (failedAt : Int) : Bool :=
  observed.status = .running && observed.startedAt.isSome && observed.finishedAt.isNone &&
    observed.startedAt.getD observed.queuedAt ≤ failedAt &&
    blockReason.all fun reason => reason = .sourceUnavailable || reason = .runtimeInvariant

def failsWith (s : ImportStore) (task : ImportTask) : Bool :=
  task.id = observed.id && task.rootPath = observed.rootPath && task.status = .running &&
    task.queuedAt = observed.queuedAt && task.startedAt = observed.startedAt &&
    task.startedAt.isSome && task.finishedAt.isNone && !s.cancelled task.id &&
    !s.rootPaused task.rootPath

def SearchProjectionState.blockFor (head : SearchProjectionState) (reason : RepairReason)
    (failedAt : Int) : SearchProjectionState :=
  { head with
    serviceState := .repairBlocked reason
    updatedAt := max head.updatedAt failedAt
    ready_names := nofun }

/-- The failure of a task of the rebuild can block the rebuild. -/
def blockProjection (blockReason : Option RepairReason) (failedAt : Int) (s : ImportStore) :
    ImportStore :=
  match blockReason with
  | none => s
  | some reason =>
      if s.unpublishedRebuild then
        { s with db := { s.db with head := s.db.head.blockFor reason failedAt } }
      else s

def failObservedImportTask (failure : ImportTaskFailure) (blockReason : Option RepairReason)
    (failedAt : Int) : ImportTransaction ObservedImportTaskFailureOutcome := transaction do
  require (failureObserved observed blockReason failedAt = true) .invalidTransition
  let s ← get
  require (s.unpublishedRebuild = true → activeFullCorpusTask s observed.id = true ∧
    (failure = .permanently → blockReason.isSome = true)) .invalidTransition
  let changed ← updateTasks (failsWith observed)
    (fun _ task => { task with
      status := failure.terminalStatus
      finishedAt := some (max task.updatedAt failedAt)
      updatedAt := max task.updatedAt failedAt }) fun _ _ => rfl
  if changed then
    modify (blockProjection blockReason failedAt)
    return .applied
  else return .superseded

/-- Fails a running task, whatever was observed of it. -/
def updateImportTaskStatus (failure : ImportTaskFailure) (updatedAt : Int) : ImportTransaction
    Unit := transaction do
  let s ← get
  let task ← demand (s.tasks.find? id) (.notFound "import_task")
  require (task.updatedAt ≤ updatedAt) (.invalidPersistedValue "import_task.timestamps")
  require (task.status = .running) .invalidTransition
  let next := { task with
    status := failure.terminalStatus
    startedAt := some (task.startedAt.getD updatedAt)
    finishedAt := some updatedAt
    updatedAt := updatedAt }
  ofExcept (validateImportTask next)
  modify fun s => { s with
    tasks := s.tasks.updateWhere (·.runs id)
      (fun row => { row with
        status := failure.terminalStatus
        finishedAt := some updatedAt
        updatedAt := updatedAt }) fun _ => rfl }

/-! ## Cancelling, pausing and resuming -/

def cancelImportTask (requestedAt : Int) : ImportTransaction Bool :=
  transaction do
    let s ← get
    let task ← demand (s.tasks.find? id) (.notFound "import_task")
    require (task.pending = true) .invalidTransition
    require (task.updatedAt ≤ requestedAt) (.invalidPersistedValue "import_task.timestamps")
    modify fun s => { s with
      tasks := s.tasks.update id (fun row => { row with updatedAt := requestedAt }) fun _ => rfl
      cancellations := s.cancellations.insertOrIgnore ⟨id, requestedAt⟩ }
    return !s.cancelled id

structure ImportRootControlUpdate where
  status : ImportRootControlStatus
  changed : Bool
  cancellationRequests : Nat
  catchUpQueued : Bool

def setRootPaused (path : String) (paused : Bool) (updatedAt : Int) (s : ImportStore) :
    ImportStore :=
  { s with
    authorizedRoots := s.authorizedRoots.update path
      (fun root => { root with paused := paused, updatedAt := updatedAt }) fun _ => rfl }

def pauseImportRoot (path : String) (updatedAt : Int) :
    ImportTransaction ImportRootControlUpdate := transaction do
  let s ← get
  let status ← demand (s.importRootControlStatus path) (.notFound "import_root")
  modify (setRootPaused path true updatedAt)
  modify fun s => { s with
    tasks := s.tasks.updateWhere (·.retires path none)
      (fun task => { task with updatedAt := max task.updatedAt updatedAt })
      (ImportTask.id_touch updatedAt)
    cancellations := s.cancellations.insertAll
      ((s.tasks.rows.filter (·.retires path none)).map fun task => ⟨task.id, updatedAt⟩) }
  return {
    status := .paused
    changed := status = .active
    cancellationRequests := (newlyRetired s path none).length
    catchUpQueued := false }

def ImportRootTaskHeadOutcome.inserted : ImportRootTaskHeadOutcome → Bool
  | .headInserted _ _ _ _ => true
  | _ => false

def resumeImportRoot (path : String) (taskId : ImportTaskId) (contract : ImportProcessingContract)
    (updatedAt : Int) : ImportTransaction ImportRootControlUpdate := transaction do
  let s ← get
  let status ← demand (s.importRootControlStatus path) (.notFound "import_root")
  if status = .active then
    return ⟨.active, false, 0, false⟩
  else
    modify (setRootPaused path false updatedAt)
    let t ← get
    let scope ← ofExcept (authorizedRootTaskScope t path taskId updatedAt)
    let outcome ← coordinateImportRootTaskHeadInConnection
      (.configured (queuedTask taskId path updatedAt) scope contract)
    return ⟨.active, true, 0, outcome.inserted⟩

/-- Writes the scope of a task, with what the scan has found so far. -/
def upsertImportScanScope (scope : ImportScanScope) : ImportTransaction Unit := transaction do
  ofExcept (validateImportScanScope scope)
  modify (upsertAuthorizedImportRoot scope)
  let s ← get
  require ((s.tasks.find? scope.importTaskId).isSome = true) .storage
  modify fun s => { s with
    scopes := (s.scopes.update scope.importTaskId
      (fun row => { scope with importTaskId := row.importTaskId }) fun _ => rfl).insertOrIgnore
        scope }

/-! ## Removing tasks -/

/-- The rows of deleted tasks and of everything that hangs on them. Scans and
reprocess jobs name their task without a reference and stay. -/
def purgeImportTasks (doomed : ImportTaskId → Bool) (s : ImportStore) : ImportStore :=
  { s with
    tasks := s.tasks.delete fun row => doomed row.id
    scopes := s.scopes.delete fun row => doomed row.importTaskId
    cancellations := s.cancellations.delete fun row => doomed row.importTaskId
    bindings := s.bindings.delete fun row => doomed row.importTaskId
    purposes := s.purposes.delete fun row => doomed row.importTaskId
    completions := s.completions.delete fun row => doomed row.importTaskId }

end ResumeIr.MetaStore
