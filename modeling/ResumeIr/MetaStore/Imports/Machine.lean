import ResumeIr.Foundation.Machine
import ResumeIr.MetaStore.Imports.PdfReprocess
import ResumeIr.MetaStore.Imports.Statements
import ResumeIr.MetaStore.Imports.WriterTransition

/-!
# Runs of the import tables

Everything that the daemon and the command line do with import tasks, with the
authority of the writer and with reprocess jobs, one operation after another.
Between two of them other components change what the operations read: search is
published or repaired, source roots come and go, scans report their progress,
and reprocess jobs disappear with their files.

A run starts in a store that has no task yet. It may have reprocess jobs: they
are written once, by the migration to the schema that introduced them.
-/

namespace ResumeIr.MetaStore

open Foundation Fallible

inductive ImportOperation where
  | coordinateHeads (requests : List ImportRootTaskHeadRequest)
  | coordinateScan (rootId : SourceRootId) (trigger : ScanTrigger) (task : ImportTask)
      (scope : ImportScanScope) (contract : ImportProcessingContract) (now : Int)
  | claim (observed : ImportTask) (updatedAt : Int)
  | upsertScope (scope : ImportScanScope)
  | complete (taskId : ImportTaskId) (contractId : String) (finalScope : ImportScanScope)
      (completedAt : Int) (manifestExact : Bool)
  | fail (observed : ImportTask) (failure : ImportTaskFailure) (blockReason : Option RepairReason)
      (failedAt : Int)
  | updateStatus (id : ImportTaskId) (failure : ImportTaskFailure) (updatedAt : Int)
  | requeueRunning (id : ImportTaskId) (observedUpdatedAt updatedAt : Int)
  | requeueInterrupted (id : ImportTaskId) (observedUpdatedAt updatedAt : Int)
  | heartbeat (id : ImportTaskId) (updatedAt : Int)
  | normalizeOrphan (observed : ImportTask) (failedAt : Int)
  | cancel (id : ImportTaskId) (requestedAt : Int)
  | pauseRoot (path : String) (updatedAt : Int)
  | resumeRoot (path : String) (taskId : ImportTaskId) (contract : ImportProcessingContract)
      (updatedAt : Int)
  | purgeTasks (doomed : List ImportTaskId)
  | purgeRoot (path : String)
  | onlineTransition (desired : ImportProcessingContract) (now : Int)
  | activateRebuild (contract : ImportProcessingContract) (now : Int)
  | markRuntimeUnavailable (now : Int)
  | reconcileRuntime (now : Int)
  | markUnsupported (now : Int)
  | clearUnsupported (now : Int)
  | markBlocked (now : Int)
  | clearBlocked (now : Int)
  | schedulePdf (rootId : SourceRootId) (parserContract : String) (taskId : ImportTaskId)
      (now : Int)
  | completePdf (rootId : SourceRootId) (taskId : ImportTaskId) (parserContract : String)
      (now : Int)
  | requeuePdf (rootId : SourceRootId) (taskId : ImportTaskId) (parserContract : String)
      (now : Int)

/-- The tasks of a root go with its authorization. -/
def purgeRootTasks (path : String) (s : ImportStore) : ImportStore :=
  { purgeImportTasks (fun id => (s.tasks.find? id).any fun task => task.rootPath = path) s with
    authorizedRoots := s.authorizedRoots.delete fun root => root.canonicalRootPath = path }

variable (names : TransitionNames)

/-- The store after an operation, whether or not it fails. -/
def ImportOperation.apply : ImportOperation → ImportStore → ImportStore
  | .coordinateHeads requests => final (coordinateImportRootTaskHeads requests)
  | .coordinateScan rootId trigger task scope contract now =>
      final (coordinateSourceRootScan rootId trigger task scope contract now)
  | .claim observed updatedAt => final (claimObservedImportTaskForWorker observed updatedAt)
  | .upsertScope scope => final (upsertImportScanScope scope)
  | .complete taskId contractId finalScope completedAt manifestExact =>
      final (completeImportTask taskId contractId finalScope completedAt manifestExact)
  | .fail observed failure blockReason failedAt =>
      final (failObservedImportTask observed failure blockReason failedAt)
  | .updateStatus id failure updatedAt => final (updateImportTaskStatus id failure updatedAt)
  | .requeueRunning id observedUpdatedAt updatedAt =>
      final (requeueRunningImportTask id observedUpdatedAt updatedAt)
  | .requeueInterrupted id observedUpdatedAt updatedAt =>
      final (requeueInterruptedImportTask id observedUpdatedAt updatedAt)
  | .heartbeat id updatedAt => final (heartbeatRunningImportTask id updatedAt)
  | .normalizeOrphan observed failedAt =>
      final (normalizeObservedOrphanedRunningImportTask observed failedAt)
  | .cancel id requestedAt => final (cancelImportTask id requestedAt)
  | .pauseRoot path updatedAt => final (pauseImportRoot path updatedAt)
  | .resumeRoot path taskId contract updatedAt =>
      final (resumeImportRoot path taskId contract updatedAt)
  | .purgeTasks doomed => purgeImportTasks fun id => doomed.contains id
  | .purgeRoot path => purgeRootTasks path
  | .onlineTransition desired now => final (completeOnlineWriterTransition names desired now)
  | .activateRebuild contract now => final (activateMigrationRebuildContract contract now)
  | .markRuntimeUnavailable now => final (markWriterRuntimeUnavailable now)
  | .reconcileRuntime now => final (reconcileWriterRuntimeAvailability now)
  | .markUnsupported now => final (markWriterUnsupportedTransition now)
  | .clearUnsupported now => final (clearWriterUnsupportedTransition now)
  | .markBlocked now => final (markWriterBlockedByRunningOwner now)
  | .clearBlocked now => final (clearWriterBlockedByRunningOwner now)
  | .schedulePdf rootId parserContract taskId now =>
      final (markPdfReprocessRootScheduled rootId parserContract taskId now)
  | .completePdf rootId taskId parserContract now =>
      final (completePdfReprocessRoot rootId taskId parserContract now)
  | .requeuePdf rootId taskId parserContract now =>
      final (requeuePdfReprocessRoot rootId taskId parserContract now)

/-- What other components may change between two operations. -/
structure OutsideImports (s t : ImportStore) : Prop where
  tasks : t.tasks = s.tasks
  scopes : t.scopes = s.scopes
  cancellations : t.cancellations = s.cancellations
  bindings : t.bindings = s.bindings
  purposes : t.purposes = s.purposes
  completions : t.completions = s.completions
  authorizedRoots : t.authorizedRoots = s.authorizedRoots
  contracts : t.contracts = s.contracts
  authority : t.authority = s.authority
  transitions : t.transitions = s.transitions
  activeContractId : t.db.repair.activeContractId = s.db.repair.activeContractId
  /-- Jobs go with their files, and a root goes only after its jobs. -/
  pdfJobs : ∀ job ∈ t.pdfJobs, job ∈ s.pdfJobs
  rootPaths : ∀ job ∈ t.pdfJobs,
    (t.roots.find? job.rootId).map (·.canonicalPath) =
      (s.roots.find? job.rootId).map (·.canonicalPath)

inductive ImportEvent where
  | operation (op : ImportOperation)
  | outside

def ImportEvent.leads (s : ImportStore) : ImportEvent → ImportStore → Prop
  | .operation op, t => t = op.apply names s
  | .outside, t => OutsideImports s t

/-- The row that the schema inserts. -/
def initialAuthority : WriterAuthority where
  healthState := .ready
  healthReason := none
  transitionPhase := none
  activeTransitionId := none
  claimFenceEpoch := 0
  committedContractId := none
  desiredContractId := none
  lastCompletedTransitionId := none
  updatedAt := 0
  checked := rfl

/-- A store without tasks. -/
structure Fresh (s : ImportStore) : Prop where
  tasks : s.tasks = .empty
  scopes : s.scopes = .empty
  cancellations : s.cancellations = .empty
  bindings : s.bindings = .empty
  purposes : s.purposes = .empty
  completions : s.completions = .empty
  authorizedRoots : s.authorizedRoots = .empty
  transitions : s.transitions = .empty
  authority : s.authority = initialAuthority
  contract : ∀ id, s.db.repair.activeContractId = some id → (s.contracts.find? id).isSome = true
  pdfJobs : ∀ job ∈ s.pdfJobs, job.state = .queued ∧ job.attempts = 0

def importMachine : Machine ImportStore ImportEvent where
  start := Fresh
  step s event t := event.leads names s t

theorem reachable_apply {names : TransitionNames} {s : ImportStore}
    (reachable : (importMachine names).Reachable s) (op : ImportOperation) :
    (importMachine names).Reachable (op.apply names s) :=
  reachable.next (show (importMachine names).step s (.operation op) _ from rfl)

/-- The store after some operations. -/
def applyAll (s : ImportStore) (operations : List ImportOperation) : ImportStore :=
  operations.foldl (fun s op => op.apply names s) s

theorem reachable_applyAll {names : TransitionNames} {s : ImportStore}
    (reachable : (importMachine names).Reachable s) (operations : List ImportOperation) :
    (importMachine names).Reachable (applyAll names s operations) := by
  induction operations generalizing s with
  | nil => exact reachable
  | cons op rest ih => exact ih (reachable_apply reachable op)

theorem reachable_outside {names : TransitionNames} {s t : ImportStore}
    (reachable : (importMachine names).Reachable s) (rest : OutsideImports s t) :
    (importMachine names).Reachable t :=
  reachable.next (show (importMachine names).step s .outside t from rest)

/-! ## What a step can do -/

/-- A write to the authority that leaves its transition and its contract alone. -/
def KeepsTransition (f : WriterAuthorityColumns → WriterAuthorityColumns) : Prop :=
  ∀ row, (f row).activeTransitionId = row.activeTransitionId ∧
    (f row).transitionPhase = row.transitionPhase ∧
    (f row).committedContractId = row.committedContractId

/-- What an event can do. Only the event that schedules reprocess jobs makes a
job wait for a task. -/
inductive ImportStep (event : ImportEvent) (s t : ImportStore) : Prop where
  | tasks (statements : TaskStatements s t)
  | purgeTasks (doomed : ImportTaskId → Bool) (rest : t = purgeImportTasks doomed s)
  | purgeRoot (path : String) (rest : t = purgeRootTasks path s)
  | transition (desired : ImportProcessingContract) (now : Int)
      (outcome : WriterContractTransitionOutcome)
      (done : (completeOnlineWriterTransition names desired now).run s = .ok outcome t)
  | activate (contract : ImportProcessingContract) (now : Int)
      (outcome : MigrationRebuildContractActivation)
      (done : (activateMigrationRebuildContract contract now).run s = .ok outcome t)
  | latch (f : WriterAuthorityColumns → WriterAuthorityColumns) (keeps : KeepsTransition f)
      (done : (updateAuthority f).run s = .ok () t)
  | schedulePdf (rootId : SourceRootId) (parserContract : String) (taskId : ImportTaskId)
      (now : Int)
      (named : event = .operation (.schedulePdf rootId parserContract taskId now))
      (rest : t = { s with
        pdfJobs := s.pdfJobs.updateWhere (schedulable s rootId parserContract taskId)
          (·.schedule taskId now) fun _ => rfl })
  | completePdf (rootId : SourceRootId) (taskId : ImportTaskId) (parserContract : String)
      (now : Int)
      (rest : t = { s with
        pdfJobs := s.pdfJobs.updateWhere (·.awaits rootId parserContract taskId)
          (·.complete now) fun _ => rfl })
  | requeuePdf (rootId : SourceRootId) (taskId : ImportTaskId) (parserContract : String)
      (now : Int)
      (rest : t = { s with
        pdfJobs := s.pdfJobs.updateWhere (·.awaits rootId parserContract taskId)
          (·.requeue now) fun _ => rfl })
  | outside (named : event = .outside) (rest : OutsideImports s t)

theorem updateTasks_atomic {condition : ImportStore → ImportTask → Bool}
    {f : ImportStore → ImportTask → ImportTask} {same : ∀ s task, (f s task).id = task.id} :
    Atomic (updateTasks condition f same) :=
  .silent_bind final_get fun _ => (Atomic.write _).bind_pure _

theorem coordinateHeads_atomic (requests : List ImportRootTaskHeadRequest) :
    Atomic (coordinateImportRootTaskHeads requests) :=
  .silent_bind (final_ofExcept _) fun _ => (Atomic.transactionIf _ _).bind_pure _

theorem updateAuthority_atomic (f : WriterAuthorityColumns → WriterAuthorityColumns) :
    Atomic (updateAuthority f) := by
  intro s e t failed
  unfold updateAuthority at failed
  rw [run_get_bind] at failed
  dsimp only at failed
  split at failed
  · cases failed
  · cases failed
    rfl

/-- A computation that leaves the state alone when it fails has ended where it
started, or has succeeded. -/
theorem final_of_atomic {α : Type} {x : ImportTransaction α} (atomic : Atomic x) (s : ImportStore) :
    final x s = s ∨ ∃ a, x.run s = .ok a (final x s) := by
  cases run : x.run s with
  | ok a t => exact .inr ⟨a, by rw [final_of_ok run]⟩
  | error e t => exact .inl ((final_of_error run).trans (atomic s e t run))

theorem ImportStep.of_latch {names : TransitionNames} {event : ImportEvent}
    {f : WriterAuthorityColumns → WriterAuthorityColumns} (keeps : KeepsTransition f)
    (s : ImportStore) : ImportStep names event s (final (updateAuthority f) s) := by
  obtain same | ⟨_, done⟩ := final_of_atomic (updateAuthority_atomic f) s
  · rw [same]
    exact .tasks .refl
  · exact .latch f keeps done

theorem keepsTransition_latch (state : WriterAuthorityHealthState) (reason : WriterHealthReason)
    (now : Int) : KeepsTransition (·.latch state reason now) :=
  fun _ => ⟨rfl, rfl, rfl⟩

theorem keepsTransition_release (now : Int) : KeepsTransition (·.release now) :=
  fun _ => ⟨rfl, rfl, rfl⟩

/-- The authority is written, or nothing changes. -/
theorem keepsTransition_ite {condition : WriterAuthorityColumns → Prop} [DecidablePred condition]
    {f : WriterAuthorityColumns → WriterAuthorityColumns} (keeps : KeepsTransition f) :
    KeepsTransition fun row => if condition row then f row else row := by
  intro row
  dsimp only
  split
  · exact keeps row
  · exact ⟨rfl, rfl, rfl⟩

/-- Every operation is one of a few kinds of steps. -/
theorem ImportOperation.step (op : ImportOperation) (s : ImportStore) :
    ImportStep names (.operation op) s (op.apply names s) := by
  cases op with
  | coordinateHeads requests =>
    exact .tasks ((coordinateHeads_statements _).final (coordinateHeads_atomic _) s)
  | coordinateScan rootId trigger task scope contract now =>
    exact .tasks ((coordinateScan_statements _ _ _ _ _ _).final (.transaction _) s)
  | claim observed updatedAt => exact .tasks ((claim_statements _ _).final (.transaction _) s)
  | upsertScope scope => exact .tasks ((upsertScope_statements _).final (.transaction _) s)
  | complete taskId contractId finalScope completedAt manifestExact =>
    exact .tasks ((complete_statements _ _ _ _ _).final (.transaction _) s)
  | fail observed failure blockReason failedAt =>
    exact .tasks ((fail_statements _ _ _ _).final (.transaction _) s)
  | updateStatus id failure updatedAt =>
    exact .tasks ((updateStatus_statements _ _ _).final (.transaction _) s)
  | requeueRunning id observedUpdatedAt updatedAt =>
    exact .tasks ((requeueFrom_statements _ _ _ (.inl rfl)).final updateTasks_atomic s)
  | requeueInterrupted id observedUpdatedAt updatedAt =>
    exact .tasks ((requeueFrom_statements _ _ _ (.inr rfl)).final updateTasks_atomic s)
  | heartbeat id updatedAt =>
    exact .tasks ((heartbeat_statements _ _).final updateTasks_atomic s)
  | normalizeOrphan observed failedAt =>
    exact .tasks ((normalize_statements _ _).final
      (.silent_bind (final_require _ _) fun _ => updateTasks_atomic) s)
  | cancel id requestedAt => exact .tasks ((cancel_statements _ _).final (.transaction _) s)
  | pauseRoot path updatedAt => exact .tasks ((pauseRoot_statements _ _).final (.transaction _) s)
  | resumeRoot path taskId contract updatedAt =>
    exact .tasks ((resumeRoot_statements _ _ _ _).final (.transaction _) s)
  | purgeTasks doomed => exact .purgeTasks _ rfl
  | purgeRoot path => exact .purgeRoot path rfl
  | onlineTransition desired now =>
    show ImportStep names _ s (final (completeOnlineWriterTransition names desired now) s)
    obtain same | ⟨outcome, done⟩ :=
      final_of_atomic (x := completeOnlineWriterTransition names desired now)
        (.transactionIf _ _) s
    · rw [same]
      exact .tasks .refl
    · exact .transition desired now outcome done
  | activateRebuild contract now =>
    show ImportStep names _ s (final (activateMigrationRebuildContract contract now) s)
    obtain same | ⟨outcome, done⟩ :=
      final_of_atomic (x := activateMigrationRebuildContract contract now)
        (.transactionIf _ _) s
    · rw [same]
      exact .tasks .refl
    · exact .activate contract now outcome done
  | markRuntimeUnavailable now =>
    show ImportStep names _ s (final (markWriterRuntimeUnavailable now) s)
    exact .of_latch (keepsTransition_latch _ _ _) s
  | reconcileRuntime now | clearUnsupported now | clearBlocked now =>
    exact .of_latch (keepsTransition_ite (keepsTransition_release now)) s
  | markUnsupported now =>
    exact .of_latch (keepsTransition_ite (keepsTransition_latch _ _ _)) s
  | markBlocked now =>
    show ImportStep names _ s (final (markWriterBlockedByRunningOwner now) s)
    exact .of_latch (keepsTransition_latch _ _ _) s
  | schedulePdf rootId parserContract taskId now => exact .schedulePdf _ _ _ _ rfl rfl
  | completePdf rootId taskId parserContract now => exact .completePdf _ _ _ _ rfl
  | requeuePdf rootId taskId parserContract now => exact .requeuePdf _ _ _ _ rfl

theorem ImportEvent.step {names : TransitionNames} {s t : ImportStore} {event : ImportEvent}
    (leads : event.leads names s t) : ImportStep names event s t := by
  cases event with
  | operation op => exact leads ▸ op.step names s
  | outside => exact .outside rfl leads

end ResumeIr.MetaStore
