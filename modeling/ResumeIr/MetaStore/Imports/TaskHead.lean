import ResumeIr.MetaStore.Imports.Tables

/-!
# Import root heads

A root has at most one task that still has work to do, and it is the newest one.
Every request for an import goes through the coordination of the head: the head
is kept when it already stands for the request, and otherwise every pending task
of the root is cancelled and a new one inserted, in one transaction. While the
projection is being rebuilt and nothing has been published yet, the head is a
full scan for the rebuild instead.

A batch of requests is coordinated as a whole. A scan of a source root is
coordinated together with the snapshot that reports its progress.
-/

namespace ResumeIr.MetaStore

open CoreDomain Foundation Fallible

/-! ## Validation -/

namespace ImportTask

/-- The times of a task follow one another. -/
def timestampsOrdered (task : ImportTask) : Bool :=
  task.queuedAt ≤ task.updatedAt &&
    (task.startedAt.all fun started => task.queuedAt ≤ started && started ≤ task.updatedAt) &&
    task.finishedAt.all fun finished =>
      task.startedAt.any fun started => started ≤ finished && finished ≤ task.updatedAt

/-- The times that are set are those of the status. -/
def lifecycleValid (task : ImportTask) : Bool :=
  match task.status with
  | .queued => task.startedAt.isNone && task.finishedAt.isNone
  | .running => task.startedAt.isSome && task.finishedAt.isNone
  | .completed | .failedRetryable | .failedPermanent =>
      task.startedAt.isSome && task.finishedAt.isSome

end ImportTask

/-- The checks of a task. -/
def validateImportTask (task : ImportTask) : Except MetaStoreError Unit := do
  check (task.timestampsOrdered = true) (.invalidPersistedValue "import_task.timestamps")
  check (task.lifecycleValid = true) (.invalidPersistedValue "import_task.lifecycle")

namespace ImportScanScope

/-- A preset is given for a preset root only. -/
def rootValid (scope : ImportScanScope) : Bool :=
  match scope.rootKind, scope.rootPreset with
  | .explicit, none => true
  | .preset, some _ => true
  | _, _ => false

/-- The budget is complete or absent. -/
def scanBudgetValid (scope : ImportScanScope) : Bool :=
  match scope.scanBudgetKind, scope.scanBudgetLimit, scope.scanBudgetObserved with
  | none, none, none => !scope.scanBudgetExhausted
  | some _, some _, some _ => true
  | _, _, _ => false

end ImportScanScope

/-- The checks of a scope. -/
def validateImportScanScope (scope : ImportScanScope) : Except MetaStoreError Unit := do
  check (trim scope.requestedRootPath ≠ "")
    (.invalidPersistedValue "import_scan_scope.requested_root_path")
  check (trim scope.canonicalRootPath ≠ "")
    (.invalidPersistedValue "import_scan_scope.canonical_root_path")
  check (scope.rootValid = true) (.invalidPersistedValue "import_scan_scope.root")
  check (scope.scanBudgetValid = true) (.invalidPersistedValue "import_scan_scope.scan_budget")

/-- The checks of a request for a configured root. -/
def validateConfiguredRequest (task : ImportTask) (scope : ImportScanScope) :
    Except MetaStoreError Unit := do
  validateImportTask task
  validateImportScanScope scope
  check (task.status = .queued ∧ task.id = scope.importTaskId ∧
      task.rootPath = scope.canonicalRootPath)
    (.invalidPersistedValue "import_root_task_head.request")

/-! ## Inserting a task -/

/-- Stores a contract, unless another one has its id. -/
def insertImportProcessingContract (contract : ImportProcessingContract) :
    ImportTransaction Unit := do
  modify fun s => { s with contracts := s.contracts.insertOrIgnore contract }
  let s ← get
  let stored ← demand (s.contracts.find? contract.id) .storageInvariant
  require (stored = contract) (.immutableIdentityConflict "import_processing_contract")

/-- While a rebuild is unpublished only its contract is allowed. -/
def ensureImportTaskContractAllowed (contractId : String) : ImportTransaction Unit := do
  let s ← get
  require (s.unpublishedRebuild = true → s.db.repair.activeContractId = some contractId)
    .invalidTransition

/-- Inserts a queued task and its contract. -/
def insertImportTask (task : ImportTask) (contract : ImportProcessingContract) :
    ImportTransaction Unit := do
  ofExcept (validateImportTask task)
  require (task.status = .queued) (.invalidPersistedValue "import_task.lifecycle")
  insertImportProcessingContract contract
  ensureImportTaskContractAllowed contract.id
  Table.insertRow ImportStore.tasks (fun s tasks => { s with tasks := tasks }) task .storage
  Table.insertRow ImportStore.bindings (fun s bindings => { s with bindings := bindings })
    ⟨task.id, contract.id⟩ .storage

namespace AuthorizedImportRoot

/-- A new root, as the scope configures it. -/
def ofScope (scope : ImportScanScope) : AuthorizedImportRoot where
  canonicalRootPath := scope.canonicalRootPath
  requestedRootPath := scope.requestedRootPath
  rootKind := scope.rootKind
  rootPreset := scope.rootPreset
  scanProfile := scope.scanProfile
  scanBudgetKind := scope.scanBudgetKind
  scanBudgetLimit := scope.scanBudgetLimit
  paused := false
  updatedAt := scope.updatedAt

/-- A root that is known already keeps its path and stays paused if it was. -/
def configure (root : AuthorizedImportRoot) (scope : ImportScanScope) : AuthorizedImportRoot :=
  { ofScope scope with
    canonicalRootPath := root.canonicalRootPath
    paused := root.paused
    updatedAt := max root.updatedAt scope.updatedAt }

theorem canonicalRootPath_configure (scope : ImportScanScope) (root : AuthorizedImportRoot) :
    (root.configure scope).canonicalRootPath = root.canonicalRootPath := rfl

end AuthorizedImportRoot

/-- Configures a root as the scope says. -/
def upsertAuthorizedImportRoot (scope : ImportScanScope) (s : ImportStore) : ImportStore :=
  { s with
    authorizedRoots :=
      (s.authorizedRoots.update scope.canonicalRootPath (·.configure scope)
        (AuthorizedImportRoot.canonicalRootPath_configure scope)).insertOrIgnore (.ofScope scope) }

/-- Inserts a task with its scope. -/
def insertImportTaskWithScanScope (task : ImportTask) (scope : ImportScanScope)
    (contract : ImportProcessingContract) : ImportTransaction Unit := do
  ofExcept (validateImportScanScope scope)
  require (scope.importTaskId = task.id) (.invalidPersistedValue "import_scan_scope.import_task_id")
  require (scope.canonicalRootPath = task.rootPath) (.invalidPersistedValue "import_task.root_path")
  insertImportTask task contract
  modify (upsertAuthorizedImportRoot scope)
  Table.insertRow ImportStore.scopes (fun s scopes => { s with scopes := scopes }) scope .storage

theorem validateImportScanScope_eq_ok {scope : ImportScanScope} {u : Unit} :
    validateImportScanScope scope = .ok u ↔
      trim scope.requestedRootPath ≠ "" ∧ trim scope.canonicalRootPath ≠ "" ∧
        scope.rootValid = true ∧ scope.scanBudgetValid = true := by
  unfold validateImportScanScope
  simp only [check_bind_eq_ok, check_eq_ok]

theorem run_insertImportProcessingContract_eq_ok {contract : ImportProcessingContract}
    {s t : ImportStore} {u : Unit} :
    (insertImportProcessingContract contract).run s = .ok u t ↔
      (s.contracts.insertOrIgnore contract).find? contract.id = some contract ∧
        { s with contracts := s.contracts.insertOrIgnore contract } = t := by
  unfold insertImportProcessingContract
  rw [run_bind_eq_ok]
  constructor
  · rintro ⟨_, r, written, rest⟩
    obtain rfl := run_modify_eq_ok.mp written
    rw [run_get_bind, run_demand_bind_eq_ok] at rest
    obtain ⟨stored, found, rest⟩ := rest
    obtain ⟨rfl, rfl⟩ := run_require_eq_ok.mp rest
    exact ⟨found, rfl⟩
  · rintro ⟨found, rfl⟩
    refine ⟨⟨⟩, _, run_modify_eq_ok.mpr rfl, ?_⟩
    rw [run_get_bind, run_demand_bind_eq_ok]
    exact ⟨contract, found, run_require_eq_ok.mpr ⟨rfl, rfl⟩⟩

/-- What the insertion of a task asks for. -/
structure Insertable (s : ImportStore) (task : ImportTask) (scope : ImportScanScope)
    (contract : ImportProcessingContract) : Prop where
  scopeValid : validateImportScanScope scope = .ok ()
  sameTask : scope.importTaskId = task.id
  sameRoot : scope.canonicalRootPath = task.rootPath
  taskValid : validateImportTask task = .ok ()
  queued : task.status = .queued
  stored : (s.contracts.insertOrIgnore contract).find? contract.id = some contract
  allowed : s.unpublishedRebuild = true → s.db.repair.activeContractId = some contract.id

/-- The insertion of a task writes its row, its binding and its scope, and
authorizes its root. -/
theorem run_insertImportTaskWithScanScope_eq_ok {task : ImportTask} {scope : ImportScanScope}
    {contract : ImportProcessingContract} {s t : ImportStore} {u : Unit} :
    (insertImportTaskWithScanScope task scope contract).run s = .ok u t ↔
      Insertable s task scope contract ∧
        ∃ tasks bindings scopes, s.tasks.insert? task = some tasks ∧
          s.bindings.insert? ⟨task.id, contract.id⟩ = some bindings ∧
          s.scopes.insert? scope = some scopes ∧
          { upsertAuthorizedImportRoot scope { s with
              contracts := s.contracts.insertOrIgnore contract
              tasks := tasks
              bindings := bindings } with scopes := scopes } = t := by
  constructor
  · intro done
    obtain ⟨_, scopeValid, done⟩ := run_ofExcept_bind_eq_ok.mp done
    obtain ⟨sameTask, done⟩ := run_require_bind_eq_ok.mp done
    obtain ⟨sameRoot, done⟩ := run_require_bind_eq_ok.mp done
    obtain ⟨_, inserted, body, done⟩ := run_bind_eq_ok.mp done
    obtain ⟨_, taskValid, body⟩ := run_ofExcept_bind_eq_ok.mp body
    obtain ⟨queued, body⟩ := run_require_bind_eq_ok.mp body
    obtain ⟨_, r, stored, body⟩ := run_bind_eq_ok.mp body
    obtain ⟨found, rfl⟩ := run_insertImportProcessingContract_eq_ok.mp stored
    obtain ⟨_, r, allowed, body⟩ := run_bind_eq_ok.mp body
    obtain ⟨permitted, rfl⟩ := run_require_eq_ok.mp allowed
    obtain ⟨_, r, row, body⟩ := run_bind_eq_ok.mp body
    obtain ⟨tasks, newTask, rfl⟩ := Table.run_insertRow_eq_ok.mp row
    obtain ⟨bindings, newBinding, rfl⟩ := Table.run_insertRow_eq_ok.mp body
    obtain ⟨_, r, written, done⟩ := run_bind_eq_ok.mp done
    obtain rfl := run_modify_eq_ok.mp written
    obtain ⟨scopes, newScope, rfl⟩ := Table.run_insertRow_eq_ok.mp done
    exact ⟨⟨scopeValid, sameTask, sameRoot, taskValid, queued, found, permitted⟩,
      tasks, bindings, scopes, newTask, newBinding, newScope, rfl⟩
  · rintro ⟨⟨scopeValid, sameTask, sameRoot, taskValid, queued, found, permitted⟩,
      tasks, bindings, scopes, newTask, newBinding, newScope, rfl⟩
    refine run_ofExcept_bind_eq_ok.mpr ⟨(), scopeValid, ?_⟩
    refine run_require_bind_eq_ok.mpr ⟨sameTask, run_require_bind_eq_ok.mpr ⟨sameRoot, ?_⟩⟩
    refine run_bind_eq_ok.mpr ⟨(), { s with
      contracts := s.contracts.insertOrIgnore contract
      tasks := tasks
      bindings := bindings }, ?_, ?_⟩
    · refine run_ofExcept_bind_eq_ok.mpr ⟨(), taskValid, ?_⟩
      refine run_require_bind_eq_ok.mpr ⟨queued, ?_⟩
      refine run_bind_eq_ok.mpr ⟨(), _, run_insertImportProcessingContract_eq_ok.mpr ⟨found, rfl⟩, ?_⟩
      refine run_bind_eq_ok.mpr ⟨(), _, run_require_eq_ok.mpr ⟨permitted, rfl⟩, ?_⟩
      exact run_bind_eq_ok.mpr ⟨(), _, Table.run_insertRow_eq_ok.mpr ⟨tasks, newTask, rfl⟩,
        Table.run_insertRow_eq_ok.mpr ⟨bindings, newBinding, rfl⟩⟩
    · exact run_bind_eq_ok.mpr ⟨⟨⟩, _, run_modify_eq_ok.mpr rfl,
        Table.run_insertRow_eq_ok.mpr ⟨scopes, newScope, rfl⟩⟩

/-- The scope of a new task of an authorized root. -/
def AuthorizedImportRoot.taskScope (root : AuthorizedImportRoot) (taskId : ImportTaskId)
    (updatedAt : Int) : ImportScanScope where
  importTaskId := taskId
  rootKind := root.rootKind
  rootPreset := root.rootPreset
  scanProfile := root.scanProfile
  requestedRootPath := root.requestedRootPath
  canonicalRootPath := root.canonicalRootPath
  scanBudgetKind := root.scanBudgetKind
  scanBudgetLimit := root.scanBudgetLimit
  scanBudgetObserved := root.scanBudgetLimit.map fun _ => 0
  scanBudgetExhausted := false
  updatedAt := updatedAt

/-- The scope of a task of a configured root. -/
def authorizedRootTaskScope (s : ImportStore) (path : String) (taskId : ImportTaskId)
    (updatedAt : Int) : Except MetaStoreError ImportScanScope := do
  let root ← present (s.authorizedRoots.find? path) (.notFound "import_root")
  return root.taskScope taskId updatedAt

/-- A new task of a root. -/
def queuedTask (taskId : ImportTaskId) (path : String) (updatedAt : Int) : ImportTask where
  id := taskId
  rootPath := path
  status := .queued
  queuedAt := updatedAt
  startedAt := none
  finishedAt := none
  updatedAt := updatedAt

/-! ## The head of a root -/

/-- The head of a root and what is noted about it. -/
structure CanonicalHeadRecord where
  task : ImportTask
  cancelled : Bool
  processingContractId : Option String
  purpose : ImportTaskPurpose
  scope : Option ImportScanScope

/-- The record of the newest task of a root. -/
def canonicalHeadRecord (s : ImportStore) (path : String) : Option CanonicalHeadRecord :=
  (s.canonicalImportTaskHead path).map fun task => {
    task := task
    cancelled := s.cancelled task.id
    processingContractId := s.processingContractId task.id
    purpose := s.importTaskPurpose task.id
    scope := s.scopes.find? task.id }

/-- Two scopes configure a root alike. -/
def sameRootConfiguration (left right : ImportScanScope) : Bool :=
  left.rootKind = right.rootKind && left.rootPreset = right.rootPreset &&
    left.scanProfile = right.scanProfile &&
    left.canonicalRootPath = right.canonicalRootPath &&
    left.scanBudgetKind = right.scanBudgetKind && left.scanBudgetLimit = right.scanBudgetLimit

/-- A scope without a budget. -/
def migrationScopeIsExact (scope : ImportScanScope) : Bool :=
  scope.scanBudgetKind.isNone && scope.scanBudgetLimit.isNone &&
    scope.scanBudgetObserved.isNone && !scope.scanBudgetExhausted

/-- The pending tasks of a root, except one that is kept. -/
def ImportTask.retires (path : String) (retained : Option ImportTaskId) (task : ImportTask) : Bool :=
  task.rootPath = path && some task.id ≠ retained && task.pending

/-- The tasks that a retirement cancels. -/
def newlyRetired (s : ImportStore) (path : String) (retained : Option ImportTaskId) :
    List ImportTask :=
  s.tasks.rows.filter fun task => task.retires path retained && !s.cancelled task.id

theorem ImportTask.id_touch (requestedAt : Int) (task : ImportTask) :
    { task with updatedAt := max task.updatedAt requestedAt }.id = task.id := rfl

/-- Cancels the pending tasks of a root, except one that is kept. -/
def retirePendingTasks (path : String) (retained : Option ImportTaskId) (requestedAt : Int)
    (s : ImportStore) : ImportStore :=
  let cancellations := s.cancellations.insertAll
    ((newlyRetired s path retained).map fun task => ⟨task.id, max task.updatedAt requestedAt⟩)
  { s with
    cancellations := cancellations
    tasks := s.tasks.updateWhere
      (fun task => task.retires path retained && (cancellations.find? task.id).isSome)
      (fun task => { task with updatedAt := max task.updatedAt requestedAt })
      (ImportTask.id_touch requestedAt) }

/-- The scope without its budget. -/
def clearBudget (scope : ImportScanScope) : ImportScanScope :=
  { scope with
    scanBudgetKind := none
    scanBudgetLimit := none
    scanBudgetObserved := none
    scanBudgetExhausted := false }

/-- Drops the budget of a task. -/
def clearImportTaskScanBudget (taskId : ImportTaskId) : ImportTransaction Unit := do
  let s ← get
  require ((s.scopes.find? taskId).isSome = true) .storageInvariant
  modify fun s => { s with scopes := s.scopes.update taskId clearBudget fun _ => rfl }

/-- Marks a task as part of the rebuild. -/
def insertMigrationRebuildFullCorpusTaskMarker (taskId : ImportTaskId) (contractId : String) :
    ImportTransaction Unit :=
  Table.insertRow ImportStore.purposes (fun s purposes => { s with purposes := purposes })
    ⟨taskId, contractId⟩ .storage

/-- Cancels a completed head. -/
def cancelSupersededCompletedHead (head : Option CanonicalHeadRecord) (requestedAt : Int)
    (s : ImportStore) : ImportStore :=
  match head.filter fun head => !head.cancelled && head.task.status = .completed with
  | none => s
  | some head =>
      { s with
        cancellations := s.cancellations.insertOrIgnore
          ⟨head.task.id, max requestedAt head.task.updatedAt⟩ }

/-! ## Coordination -/

/-- A request for a task of a root. -/
inductive ImportRootTaskHeadRequest where
  | configured (task : ImportTask) (scope : ImportScanScope)
      (contract : ImportProcessingContract)
  | migrationRebuild (path : String) (taskId : ImportTaskId)
      (contract : ImportProcessingContract) (queuedAt : Int)

/-- What became of a request. -/
inductive ImportRootTaskHeadOutcome where
  | headInserted (task : ImportTask) (scope : ImportScanScope) (purpose : ImportTaskPurpose)
      (cancellationRequests : Nat)
  | headPromoted (task : ImportTask) (scope : ImportScanScope) (cancellationRequests : Nat)
  | headRetained (task : ImportTask) (scope : ImportScanScope) (purpose : ImportTaskPurpose)
      (cancellationRequests : Nat)
  | runningTaskConflict
  | rootPaused
  | migrationRebuildSuperseded

/-- Whether a changed source keeps an equal head. -/
inductive ConfiguredPendingHeadPolicy where
  | retainEquivalent
  | supersede
  deriving DecidableEq

/-- Who asks during a rebuild. -/
inductive MigrationHeadRequestKind where
  | configuredSourceChange (policy : ConfiguredPendingHeadPolicy)
  | reconciliation
  deriving DecidableEq

namespace CanonicalHeadRecord

variable (head : CanonicalHeadRecord) (contractId : String)

/-- A live head of the contract whose scope is the exact one of the rebuild. -/
def fits (scope : ImportScanScope) : Bool :=
  !head.cancelled && head.processingContractId = some contractId &&
    head.scope.any fun stored => migrationScopeIsExact stored && sameRootConfiguration stored scope

/-- The statuses in which a request of a kind may keep the head. -/
def waits (kind : MigrationHeadRequestKind) : Bool :=
  (head.task.status = .queued ||
      (head.task.status = .failedRetryable && kind = .reconciliation)) &&
    (kind = .reconciliation || kind = .configuredSourceChange .retainEquivalent)

/-- A catch-up that can become part of the rebuild. -/
def promotable (scope : ImportScanScope) (kind : MigrationHeadRequestKind) : Bool :=
  head.fits contractId scope && head.purpose = .configuredCatchUp && head.waits kind

/-- A task of the rebuild that waits. -/
def retainable (scope : ImportScanScope) (kind : MigrationHeadRequestKind) : Bool :=
  head.fits contractId scope && head.purpose = .migrationRebuildFullCorpus && head.waits kind

/-- A rebuild that is running or done stands for a reconciliation. -/
def covers (scope : ImportScanScope) (kind : MigrationHeadRequestKind) : Bool :=
  head.fits contractId scope && head.purpose = .migrationRebuildFullCorpus &&
    (head.task.status = .running || head.task.status = .completed) && kind = .reconciliation

/-- A rebuild keeps the head. -/
def keptBy (scope : ImportScanScope) (kind : MigrationHeadRequestKind) : Bool :=
  head.promotable contractId scope kind || head.retainable contractId scope kind ||
    head.covers contractId scope kind

/-- The head runs. -/
def running (head : CanonicalHeadRecord) : Bool :=
  !head.cancelled && head.task.status = .running

/-- A queued catch-up of the same contract and configuration. -/
def reusable (scope : ImportScanScope) : Bool :=
  !head.cancelled && head.task.status = .queued && head.purpose = .configuredCatchUp &&
    head.processingContractId = some contractId &&
    head.scope.any fun stored => sameRootConfiguration stored scope

end CanonicalHeadRecord

/-- Keeps a head and cancels every other pending task of the root. -/
def retainHead (path : String) (head : CanonicalHeadRecord) (purpose : ImportTaskPurpose)
    (requestedAt : Int) : ImportTransaction ImportRootTaskHeadOutcome := do
  let s ← get
  modify (retirePendingTasks path (some head.task.id) requestedAt)
  let scope ← demand head.scope .storageInvariant
  return .headRetained head.task scope purpose (newlyRetired s path (some head.task.id)).length

/-- Turns a waiting catch-up into the full scan of the rebuild. -/
def promoteHead (path : String) (head : CanonicalHeadRecord) (contractId : String)
    (requestedAt : Int) : ImportTransaction ImportRootTaskHeadOutcome := do
  let s ← get
  modify (retirePendingTasks path (some head.task.id) requestedAt)
  clearImportTaskScanBudget head.task.id
  insertMigrationRebuildFullCorpusTaskMarker head.task.id contractId
  let t ← get
  let scope ← demand (t.scopes.find? head.task.id) .storageInvariant
  return .headPromoted head.task scope (newlyRetired s path (some head.task.id)).length

/-- The head that a request other than a reconciliation supersedes is cancelled
even if it is complete. -/
def supersedeCompleted (head : Option CanonicalHeadRecord) (kind : MigrationHeadRequestKind)
    (requestedAt : Int) (s : ImportStore) : ImportStore :=
  if kind = .reconciliation then s else cancelSupersededCompletedHead head requestedAt s

/-- Replaces the pending tasks of a root by a full scan for the rebuild. -/
def insertMigrationHead (path : String) (head : Option CanonicalHeadRecord)
    (taskId : ImportTaskId) (contract : ImportProcessingContract) (queuedAt : Int)
    (kind : MigrationHeadRequestKind) (authorizedScope : ImportScanScope) :
    ImportTransaction ImportRootTaskHeadOutcome := do
  let s ← get
  modify (supersedeCompleted head kind queuedAt)
  let superseded ← get
  modify (retirePendingTasks path none queuedAt)
  let task := queuedTask taskId path queuedAt
  insertImportTaskWithScanScope task authorizedScope contract
  clearImportTaskScanBudget taskId
  insertMigrationRebuildFullCorpusTaskMarker taskId contract.id
  return .headInserted task (clearBudget authorizedScope) .migrationRebuildFullCorpus
    (superseded.cancellations.rows.length - s.cancellations.rows.length +
      (newlyRetired superseded path none).length)

/-- What a rebuild does with the head it finds. -/
def settleMigrationHead (path : String) (head : Option CanonicalHeadRecord)
    (taskId : ImportTaskId) (contract : ImportProcessingContract) (queuedAt : Int)
    (kind : MigrationHeadRequestKind) (authorizedScope : ImportScanScope) :
    ImportTransaction ImportRootTaskHeadOutcome :=
  let scope := clearBudget authorizedScope
  match head.filter fun head => head.promotable contract.id scope kind with
  | some head => promoteHead path head contract.id queuedAt
  | none =>
  match head.filter fun head =>
      head.retainable contract.id scope kind || head.covers contract.id scope kind with
  | some head => retainHead path head .migrationRebuildFullCorpus queuedAt
  | none =>
      if kind = .reconciliation ∧ head.any (·.running) = true then
        return .runningTaskConflict
      else insertMigrationHead path head taskId contract queuedAt kind authorizedScope

/-- A request during a rebuild. -/
def coordinateMigrationHead (path : String) (taskId : ImportTaskId)
    (contract : ImportProcessingContract) (queuedAt : Int) (kind : MigrationHeadRequestKind) :
    ImportTransaction ImportRootTaskHeadOutcome := do
  let s ← get
  if s.unpublishedMigrationContractId ≠ some contract.id then
    return .migrationRebuildSuperseded
  else if s.sourceRootIsDeleting path then
    return .rootPaused
  else if s.importRootControlStatus path = some .paused then
    return .rootPaused
  else
    let authorizedScope ← ofExcept (authorizedRootTaskScope s path taskId queuedAt)
    settleMigrationHead path (canonicalHeadRecord s path) taskId contract queuedAt kind
      authorizedScope

/-- A root that was configured the same way before may keep a waiting head. -/
def pendingHeadPolicy (s : ImportStore) (task : ImportTask) (scope : ImportScanScope) :
    ConfiguredPendingHeadPolicy :=
  match authorizedRootTaskScope s task.rootPath task.id task.queuedAt with
  | .ok previous => if sameRootConfiguration previous scope then .retainEquivalent else .supersede
  | .error _ => .supersede

/-- Configured work while the rebuild is not published: the root is configured
and its head becomes a full scan. -/
def coordinateConfiguredRebuild (activeContractId : String) (task : ImportTask)
    (scope : ImportScanScope) (contract : ImportProcessingContract) :
    ImportTransaction ImportRootTaskHeadOutcome := do
  if activeContractId ≠ contract.id then
    return .migrationRebuildSuperseded
  else
    let s ← get
    let policy := pendingHeadPolicy s task scope
    modify (upsertAuthorizedImportRoot scope)
    coordinateMigrationHead task.rootPath task.id contract task.queuedAt
      (.configuredSourceChange policy)

/-- Cancels the pending tasks of a root and inserts a new one. -/
def replaceHead (task : ImportTask) (scope : ImportScanScope)
    (contract : ImportProcessingContract) : ImportTransaction ImportRootTaskHeadOutcome := do
  let s ← get
  modify (retirePendingTasks task.rootPath none task.updatedAt)
  insertImportTaskWithScanScope task scope contract
  return .headInserted task scope .configuredCatchUp (newlyRetired s task.rootPath none).length

/-- A request outside a rebuild. -/
def coordinateConfiguredCatchUp (task : ImportTask) (scope : ImportScanScope)
    (contract : ImportProcessingContract) : ImportTransaction ImportRootTaskHeadOutcome := do
  let s ← get
  match canonicalHeadRecord s task.rootPath with
  | none => replaceHead task scope contract
  | some head =>
      if head.running then
        return .runningTaskConflict
      else if head.reusable contract.id scope then
        retainHead task.rootPath head head.purpose task.updatedAt
      else replaceHead task scope contract

/-- A request for a configured root. -/
def coordinateConfiguredHead (task : ImportTask) (scope : ImportScanScope)
    (contract : ImportProcessingContract) : ImportTransaction ImportRootTaskHeadOutcome := do
  ofExcept (validateConfiguredRequest task scope)
  let s ← get
  if s.sourceRootIsDeleting task.rootPath then
    return .rootPaused
  else if s.importRootControlStatus task.rootPath = some .paused then
    return .rootPaused
  else
    match s.unpublishedMigrationContractId with
    | some active => coordinateConfiguredRebuild active task scope contract
    | none => coordinateConfiguredCatchUp task scope contract

/-- One request. -/
def coordinateImportRootTaskHeadInConnection :
    ImportRootTaskHeadRequest → ImportTransaction ImportRootTaskHeadOutcome
  | .configured task scope contract => coordinateConfiguredHead task scope contract
  | .migrationRebuild path taskId contract queuedAt =>
      coordinateMigrationHead path taskId contract queuedAt .reconciliation

/-! ## Batches -/

/-- Why a batch was rejected. -/
inductive ImportRootTaskHeadBatchRejection where
  | runningTaskConflict
  | rootPaused
  | migrationRebuildSuperseded
  deriving DecidableEq

/-- What became of a batch. -/
inductive ImportRootTaskHeadBatchOutcome where
  | committed (outcomes : List ImportRootTaskHeadOutcome)
  | rejected (rejection : ImportRootTaskHeadBatchRejection)

/-- The most requests of a batch. -/
def importRootTaskHeadBatchLimit : Nat := 64

/-- The root a request is for. -/
def ImportRootTaskHeadRequest.root : ImportRootTaskHeadRequest → String
  | .configured task _ _ => task.rootPath
  | .migrationRebuild path _ _ _ => path

/-- The checks of a request. -/
def ImportRootTaskHeadRequest.validate : ImportRootTaskHeadRequest → Except MetaStoreError Unit
  | .configured task scope _ => validateConfiguredRequest task scope
  | .migrationRebuild _ _ _ _ => .ok ()

/-- Each root is named once. -/
def validateBatchRoots (seen : List String) :
    List ImportRootTaskHeadRequest → Except MetaStoreError Unit
  | [] => .ok ()
  | request :: rest => do
      request.validate
      check (request.root ≠ "" ∧ request.root ∉ seen)
        (.invalidPersistedValue "import_root_task_head.batch_root")
      validateBatchRoots (request.root :: seen) rest

/-- The checks of a batch. -/
def validateImportRootTaskHeadBatch (requests : List ImportRootTaskHeadRequest) :
    Except MetaStoreError Unit := do
  check (requests ≠ [] ∧ requests.length ≤ importRootTaskHeadBatchLimit)
    (.invalidPersistedValue "import_root_task_head.batch_size")
  validateBatchRoots [] requests

/-- The outcomes that reject a batch. -/
def batchRejection : ImportRootTaskHeadOutcome → Option ImportRootTaskHeadBatchRejection
  | .runningTaskConflict => some .runningTaskConflict
  | .rootPaused => some .rootPaused
  | .migrationRebuildSuperseded => some .migrationRebuildSuperseded
  | .headInserted _ _ _ _ => none
  | .headPromoted _ _ _ => none
  | .headRetained _ _ _ _ => none

/-- The scope is that of the task. -/
def ImportRootTaskHeadOutcome.scopeAgrees : ImportRootTaskHeadOutcome → Bool
  | .headInserted task scope _ _ => task.id = scope.importTaskId
  | .headPromoted task scope _ => task.id = scope.importTaskId
  | .headRetained task scope _ _ => task.id = scope.importTaskId
  | _ => true

/-- Coordinates the requests in order, up to the first that is rejected. -/
def coordinateEach : List ImportRootTaskHeadRequest →
    ImportTransaction (Except ImportRootTaskHeadBatchRejection (List ImportRootTaskHeadOutcome))
  | [] => return .ok []
  | request :: rest => do
      let outcome ← coordinateImportRootTaskHeadInConnection request
      match batchRejection outcome with
      | some rejection => return .error rejection
      | none =>
          require (outcome.scopeAgrees = true) .storageInvariant
          let others ← coordinateEach rest
          return others.map (outcome :: ·)

/-- The outcome of a batch. -/
def ImportRootTaskHeadBatchOutcome.ofOutcomes :
    Except ImportRootTaskHeadBatchRejection (List ImportRootTaskHeadOutcome) →
      ImportRootTaskHeadBatchOutcome
  | .ok outcomes => .committed outcomes
  | .error rejection => .rejected rejection

/-- A rejected request rolls the whole batch back. -/
def coordinateImportRootTaskHeads (requests : List ImportRootTaskHeadRequest) :
    ImportTransaction ImportRootTaskHeadBatchOutcome := do
  ofExcept (validateImportRootTaskHeadBatch requests)
  let outcomes ← transactionIf (·.isOk) (coordinateEach requests)
  return .ofOutcomes outcomes

/-! ## Scans of source roots -/

/-- The root that a task may commit into. -/
structure ScanCommitBinding where
  rootId : SourceRootId
  canonicalPath : String

/-- The root a task may commit files into: its own root, while the scan that
bears the id of the task was admitted in the root's present epoch. -/
def readScanCommitBinding (s : ImportStore) (taskId : ImportTaskId) :
    Option ScanCommitBinding := do
  let task ← s.tasks.find? taskId
  let root ← s.sourceRootByCanonicalPath task.rootPath
  let scope ← s.scopes.find? taskId
  let snapshot ← s.scans.find? taskId.asStr
  if scope.canonicalRootPath = root.canonicalPath ∧ snapshot.rootId = root.id ∧
      snapshot.rootRevocationEpoch = root.revocationEpoch then
    some ⟨root.id, root.canonicalPath⟩
  else none

/-- The task may commit into the root. -/
def validateScanCommit (rootId : SourceRootId) (taskId : ImportTaskId) :
    ImportTransaction Unit := do
  let s ← get
  let binding ← demand (readScanCommitBinding s taskId) .invalidTransition
  require (binding.rootId = rootId) .invalidTransition
  require (s.deletionActive binding.rootId = false) .invalidTransition

/-- The scan of a root that is not over. -/
def activeScan (s : ImportStore) (rootId : SourceRootId) : Option ScanSnapshot :=
  s.scans.rows.find? fun scan => decide (scan.rootId = rootId) && scan.phase.isActive

/-- The task of a scan is pending and not cancelled. -/
def activeScanHasLiveTask (s : ImportStore) (scanId : String) : Bool :=
  s.tasks.rows.any fun task =>
    decide (task.id.asStr = scanId) && task.pending && !s.cancelled task.id

/-- A scan whose task is gone has failed. -/
def closeOrphanedActiveScan (snapshot : ScanSnapshot) (now : Int) (s : ImportStore) :
    ImportStore :=
  let completedAt := max now snapshot.startedAt
  { s with
    scans := s.scans.updateWhere (fun scan => scan.id = snapshot.id && scan.phase.isActive)
      (fun scan => { scan with
        phase := .failed
        completeness := .unknown
        updatedAt := max scan.updatedAt completedAt
        completedAt := some completedAt }) fun _ => rfl }

/-- A new snapshot. At most one scan of a root is active. -/
def insertScanSnapshot (snapshot : ScanSnapshot) : ImportTransaction Unit := do
  let s ← get
  require (activeScan s snapshot.rootId = none) .storage
  Table.insertRow ImportStore.scans (fun s scans => { s with scans := scans }) snapshot .storage

/-- What became of a requested scan. -/
inductive SourceRootScanCoordination where
  | started (snapshot : ScanSnapshot) (taskHead : ImportRootTaskHeadOutcome)
  | coalesced (snapshot : ScanSnapshot)
  | rejected (taskHead : ImportRootTaskHeadOutcome)

namespace ImportRootTaskHeadOutcome

/-- The task that is now the head. -/
def task? : ImportRootTaskHeadOutcome → Option ImportTask
  | .headInserted task _ _ _ => some task
  | .headPromoted task _ _ => some task
  | .headRetained task _ _ _ => some task
  | _ => none

/-- The head was there before the request. -/
def kept : ImportRootTaskHeadOutcome → Bool
  | .headPromoted _ _ _ => true
  | .headRetained _ _ _ _ => true
  | _ => false

end ImportRootTaskHeadOutcome

/-- The snapshot of a new scan. -/
def queuedSnapshot (taskId : ImportTaskId) (rootId : SourceRootId) (trigger : ScanTrigger)
    (now : Int) (epoch : Nat) : ScanSnapshot where
  id := taskId.asStr
  rootId := rootId
  trigger := trigger
  phase := .queued
  completeness := .unknown
  startedAt := now
  updatedAt := now
  completedAt := none
  rootRevocationEpoch := epoch

/-- Gives the head of a root its snapshot, or finds the one it has. -/
def snapshotForHead (rootId : SourceRootId) (trigger : ScanTrigger) (epoch : Nat) (now : Int)
    (taskHead : ImportRootTaskHeadOutcome) (task : ImportTask) :
    ImportTransaction SourceRootScanCoordination := do
  let s ← get
  match (s.scans.find? task.id.asStr).filter fun scan => scan.rootId = rootId with
  | some existing =>
      require (taskHead.kept = true ∧ (existing.phase = .partly ∨ existing.phase = .failed))
        .storageInvariant
      return .coalesced existing
  | none =>
      let snapshot := queuedSnapshot task.id rootId trigger now epoch
      insertScanSnapshot snapshot
      validateScanCommit rootId task.id
      return .started snapshot taskHead

/-- Coordinates the head and its snapshot once no other scan is active. -/
def startSourceRootScan (root : SourceRoot) (trigger : ScanTrigger) (task : ImportTask)
    (scope : ImportScanScope) (contract : ImportProcessingContract) (now : Int) :
    ImportTransaction SourceRootScanCoordination := do
  let taskHead ← coordinateImportRootTaskHeadInConnection (.configured task scope contract)
  match taskHead.task? with
  | none => return .rejected taskHead
  | some persisted => snapshotForHead root.id trigger root.revocationEpoch now taskHead persisted

/-- Closes the active scan of a root whose task is gone. -/
def closeOrphan (active : Option ScanSnapshot) (now : Int) (s : ImportStore) : ImportStore :=
  match active with
  | none => s
  | some snapshot => closeOrphanedActiveScan snapshot now s

/-- The checks of a requested scan. -/
def validateSourceRootScan (task : ImportTask) (scope : ImportScanScope) :
    Except MetaStoreError Unit := do
  validateImportTask task
  validateImportScanScope scope
  check (task.status = .queued ∧ task.id = scope.importTaskId ∧
      task.rootPath = scope.canonicalRootPath)
    (.invalidPersistedValue "source_root_scan.task_scope")

/-- Requests a scan of a root. -/
def coordinateSourceRootScan (rootId : SourceRootId) (trigger : ScanTrigger) (task : ImportTask)
    (scope : ImportScanScope) (contract : ImportProcessingContract) (now : Int) :
    ImportTransaction SourceRootScanCoordination := transaction do
  ofExcept (validateSourceRootScan task scope)
  let s ← get
  let root ← demand (s.roots.find? rootId) (.notFound "source_root")
  require (root.canonicalPath = task.rootPath ∧ root.canonicalPath = scope.canonicalRootPath ∧
    root.state = .active) .invalidTransition
  match (activeScan s rootId).filter fun active => activeScanHasLiveTask s active.id with
  | some active => return .coalesced active
  | none =>
      modify (closeOrphan (activeScan s rootId) now)
      startSourceRootScan root trigger task scope contract now

end ResumeIr.MetaStore
