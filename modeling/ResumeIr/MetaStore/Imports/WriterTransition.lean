import ResumeIr.MetaStore.Imports.Worker
import ResumeIr.MetaStore.Publication.Validation

/-!
# Changing the processing contract

The authority says which processing contract the writer may use and whether it
may write at all. A change of the contract while search is ready is a transition
of its own, recorded in a row that survives a restart: claims are fenced, the
workers have to be quiet, and then the waiting tasks of the old contract are
replaced by tasks of the new one and the contract is committed. A transition
that meets a running task stays where it is.

While nothing has been published yet, a contract is activated by a hard cut
instead, which removes every task.

Latches take the authority out of use for a reason of their own and are cleared
by the code that set them.
-/

namespace ResumeIr.MetaStore

open Foundation Fallible

/-! ## What changes between two contracts -/

inductive ContractTransitionStrategy where
  | alreadyActive
  | pdfRootRescan
  | unsupported
  deriving DecidableEq

/-- The number of fields in which two contracts differ. -/
def changedFields (committed desired : ImportProcessingContract) : Nat :=
  ([decide (committed.primaryParseVersion ≠ desired.primaryParseVersion),
    decide (committed.ocrParseVersion ≠ desired.ocrParseVersion),
    decide (committed.derivedSchemaVersion ≠ desired.derivedSchemaVersion),
    decide (committed.classifierEpoch ≠ desired.classifierEpoch)].filter id).length

/-- Only a change of the primary parser alone is done online. -/
def contractDelta (committed : Option ImportProcessingContract)
    (desired : ImportProcessingContract) : ContractTransitionStrategy :=
  match committed with
  | none => .unsupported
  | some committed =>
      if committed.id = desired.id then .alreadyActive
      else if changedFields committed desired = 1 ∧
          committed.primaryParseVersion ≠ desired.primaryParseVersion then .pdfRootRescan
      else .unsupported

inductive WriterContractTransitionOutcome where
  | alreadyActive
  | targetCommitted
  | transitionRequired
  | transitionInProgress
  | blockedByRunningOwner
  | persistedStateInvalid
  | unsupportedTransition
  deriving DecidableEq

def observeWriterContractTransition (committed : Option ImportProcessingContract)
    (desired : ImportProcessingContract) (runningTaskCount : Nat) :
    WriterContractTransitionOutcome :=
  match contractDelta committed desired with
  | .alreadyActive => .alreadyActive
  | .unsupported => .unsupportedTransition
  | .pdfRootRescan =>
      if 0 < runningTaskCount then .blockedByRunningOwner else .transitionRequired

/-! ## The authority -/

/-- Writes the row of the authority. The table refuses columns that disagree. -/
def updateAuthority (f : WriterAuthorityColumns → WriterAuthorityColumns) :
    ImportTransaction Unit := do
  let s ← get
  let row := f s.authority.toWriterAuthorityColumns
  if checked : row.consistent = true then
    set { s with authority := ⟨row, checked⟩ }
  else throw .storage

theorem run_updateAuthority_eq_ok {f : WriterAuthorityColumns → WriterAuthorityColumns}
    {s t : ImportStore} {u : Unit} :
    (updateAuthority f).run s = .ok u t ↔
      ∃ checked, { s with authority := ⟨f s.authority.toWriterAuthorityColumns, checked⟩ } = t := by
  unfold updateAuthority
  rw [run_get_bind]
  dsimp only
  split
  case isTrue checked =>
    constructor
    · intro done
      cases done
      exact ⟨checked, rfl⟩
    · rintro ⟨_, rfl⟩
      rfl
  case isFalse wrong =>
    constructor
    · intro done
      cases done
    · rintro ⟨checked, _⟩
      exact absurd checked wrong

namespace WriterAuthorityColumns

variable (row : WriterAuthorityColumns)

/-- The authority after the end of a latch. -/
def release (now : Int) : WriterAuthorityColumns :=
  { row with
    healthState := if row.activeTransitionId.isSome then .transitioning else .ready
    healthReason := if row.activeTransitionId.isSome then some .transitionInProgress else none
    updatedAt := max row.updatedAt now }

def latch (state : WriterAuthorityHealthState) (reason : WriterHealthReason) (now : Int) :
    WriterAuthorityColumns :=
  { row with
    healthState := state
    healthReason := some reason
    updatedAt := max row.updatedAt now }

/-- A latch that stands for a given reason. -/
def latched (state : WriterAuthorityHealthState) (reason : WriterHealthReason) : Bool :=
  row.healthState = state && row.healthReason = some reason

def syncReady (contractId : String) (now : Int) : WriterAuthorityColumns :=
  { row with
    healthState := .ready
    healthReason := none
    transitionPhase := some (row.transitionPhase.getD .writerReady)
    activeTransitionId := none
    committedContractId := some contractId
    desiredContractId := some contractId
    updatedAt := max row.updatedAt now }

end WriterAuthorityColumns

def markWriterRuntimeUnavailable (now : Int) : ImportTransaction Unit :=
  updateAuthority (·.latch .unavailable .runtimeUnavailable now)

def reconcileWriterRuntimeAvailability (now : Int) : ImportTransaction Unit :=
  updateAuthority fun row =>
    if row.latched .unavailable .runtimeUnavailable then row.release now else row

def markWriterUnsupportedTransition (now : Int) : ImportTransaction Unit :=
  updateAuthority fun row =>
    if row.healthState = .ready ∧ row.healthReason = none ∧ row.activeTransitionId = none then
      row.latch .unavailable .unsupportedTransition now
    else row

def clearWriterUnsupportedTransition (now : Int) : ImportTransaction Unit :=
  updateAuthority fun row =>
    if row.latched .unavailable .unsupportedTransition ∧ row.activeTransitionId = none then
      row.release now
    else row

def markWriterBlockedByRunningOwner (now : Int) : ImportTransaction Unit :=
  updateAuthority (·.latch .blocked .blockedByRunningOwner now)

def clearWriterBlockedByRunningOwner (now : Int) : ImportTransaction Unit :=
  updateAuthority fun row =>
    if row.latched .blocked .blockedByRunningOwner then row.release now else row

/-- The contract that is committed, or the one of the rebuild before anything
was committed. -/
def activeImportProcessingContract (s : ImportStore) : Option ImportProcessingContract := do
  let id ← s.authority.committedContractId.or s.db.repair.activeContractId
  s.contracts.find? id

/-! ## Transitions -/

/-- The hashes that name transitions and the tasks that replace waiting ones. -/
structure TransitionNames where
  transitionId (tag contractId : String) (now : Int) : String
  rebuildTaskId (rootPath contractId : String) (now : Int) : ImportTaskId

def activeTransitionRow (s : ImportStore) : Option WriterContractTransition := do
  let id ← s.authority.activeTransitionId
  s.transitions.find? id

/-- Writes to the row of a transition. The table refuses a row that was updated
before it was created. -/
def updateTransition (id : String) (f : WriterContractTransition → WriterContractTransition)
    (same : ∀ row, (f row).transitionId = row.transitionId) : ImportTransaction Unit := do
  let s ← get
  require ((s.transitions.find? id).all (fun row => (f row).createdAt ≤ (f row).updatedAt) = true)
    .storage
  modify fun s => { s with transitions := s.transitions.update id f same }

def setPhase (id : String) (phase : WriterTransitionPhase) (now : Int) : ImportTransaction Unit :=
  updateTransition id (fun row => { row with phase := phase, updatedAt := now }) fun _ => rfl

/-- Records a transition that was observed and makes it the active one. -/
def recordTransition (transitionId : String) (source : Option String) (target : String)
    (failure : Option WriterTransitionFailure) (now : Int) : ImportTransaction
      WriterContractTransition := do
  let s ← get
  let epoch := s.authority.claimFenceEpoch + 1
  require (fitsI64 epoch = true) .storageInvariant
  let row : WriterContractTransition := {
    transitionId := transitionId
    sourceContractId := source
    targetContractId := target
    phase := .observed
    claimFenceEpoch := epoch
    failureClass := failure
    retryable := failure.isSome
    createdAt := now
    updatedAt := now
    completedAt := none }
  Table.insertRow ImportStore.transitions (fun s transitions => { s with transitions := transitions })
    row .storage
  updateAuthority fun authority =>
    { authority with
      healthState := .transitioning
      healthReason := some .transitionInProgress
      transitionPhase := some .observed
      activeTransitionId := some transitionId
      claimFenceEpoch := epoch
      committedContractId := source.or authority.committedContractId
      desiredContractId := some target
      updatedAt := now }
  return row

variable (names : TransitionNames) (row : WriterContractTransition)

def fenceClaims (now : Int) : ImportTransaction Unit := do
  setPhase row.transitionId .claimsFenced now
  updateAuthority fun authority =>
    { authority with
      healthState := .transitioning
      healthReason := some .transitionInProgress
      transitionPhase := some .claimsFenced
      activeTransitionId := some row.transitionId
      claimFenceEpoch := row.claimFenceEpoch
      updatedAt := now }

/-- The waiting tasks that are bound to another contract. -/
def staleIntents (s : ImportStore) (contractId : String) : List ImportTask :=
  s.tasks.rows.filter fun task =>
    (task.status = .queued || task.status = .failedRetryable) &&
      ((s.processingContractId task.id).any fun bound => decide (bound ≠ contractId)) &&
      !s.cancelled task.id

/-- The roots of the stale intents, each once. -/
def staleRoots (s : ImportStore) (contractId : String) : List String :=
  ((staleIntents s contractId).map (·.rootPath)).dedup

/-- The replacement of the waiting task of a root. A root that is not authorized
any more cannot be rebuilt. -/
def stageReplacement (s : ImportStore) (contractId : String) (now : Int) (path : String) : Except
    MetaStoreError (ImportTask × ImportScanScope) := do
  let taskId := names.rebuildTaskId path contractId now
  let _ ← present (s.authorizedRoots.find? path) .invalidTransition
  let scope ← authorizedRootTaskScope s path taskId now
  return (queuedTask taskId path now, scope)

/-- Cancels the stale intents and lets go of the reprocess jobs that wait for
them. -/
def retireIntents (stale : List ImportTask) (contractId : String) (now : Int) (s : ImportStore) :
    ImportStore :=
  { s with
    cancellations := s.cancellations.insertAll
      (stale.map fun task => ⟨task.id, max now task.updatedAt⟩)
    tasks := s.tasks.updateWhere (fun task => task ∈ stale)
      (fun task => { task with updatedAt := max task.updatedAt now }) (ImportTask.id_touch now)
    pdfJobs := s.pdfJobs.updateWhere
      (fun job => job.state = .scheduled &&
        stale.any fun task => decide (job.scheduledTaskId = some task.id))
      (fun job => { job with
        state := .queued
        scheduledTaskId := none
        processingContractId := some contractId
        updatedAt := max job.updatedAt now }) fun _ => rfl }

def insertReplacements (contract : ImportProcessingContract) :
    List (ImportTask × ImportScanScope) → ImportTransaction Unit
  | [] => return ()
  | (task, scope) :: rest => do
      insertImportTaskWithScanScope task scope contract
      insertReplacements contract rest

def retireAndRebuildQueuedIntents (desired : ImportProcessingContract) (now : Int) :
    ImportTransaction Unit := do
  let s ← get
  let replacements ← ofExcept
    ((staleRoots s desired.id).mapM (stageReplacement names s desired.id now))
  modify (retireIntents (staleIntents s desired.id) desired.id now)
  insertReplacements desired replacements

def commitTargetContract (desired : ImportProcessingContract) (now : Int) : ImportTransaction
    Unit := do
  let s ← get
  require (s.runningCount = 0) .invalidTransition
  retireAndRebuildQueuedIntents names desired now
  modify fun s => { s with
    db := { s.db with repair := { s.db.repair with activeContractId := some desired.id } } }
  setPhase row.transitionId .targetCommitted now
  updateAuthority fun authority =>
    { authority with
      healthState := .transitioning
      healthReason := some .transitionInProgress
      transitionPhase := some .targetCommitted
      committedContractId := some desired.id
      desiredContractId := some desired.id
      updatedAt := now }

/-- The waiting reprocess jobs follow the contract when the parser changed. The
campaign that reports their progress is left out. -/
def materializeCampaign (strategy : ContractTransitionStrategy) (desired : ImportProcessingContract)
    (now : Int) (s : ImportStore) : ImportStore :=
  if strategy = .pdfRootRescan then
    { s with
      pdfJobs := s.pdfJobs.updateWhere (fun job => job.state = .queued || job.state = .scheduled)
        (fun job => { job with
          processingContractId := some desired.id
          updatedAt := max job.updatedAt now }) fun _ => rfl }
  else s

/-- The last part of a transition, after the contract was committed. -/
def finishTransition (strategy : ContractTransitionStrategy) (desired : ImportProcessingContract)
    (now : Int) : ImportTransaction WriterContractTransitionOutcome := do
  modify (materializeCampaign strategy desired now)
  setPhase row.transitionId .writerReady now
  updateTransition row.transitionId
    (fun row => { row with completedAt := some now, updatedAt := now }) fun _ => rfl
  updateAuthority fun authority =>
    { authority with
      healthState := .ready
      healthReason := none
      transitionPhase := some .writerReady
      activeTransitionId := none
      lastCompletedTransitionId := some row.transitionId
      committedContractId := some desired.id
      desiredContractId := some desired.id
      updatedAt := now }
  return .targetCommitted

/-- Commits the contract once the workers are quiet. -/
def commitAndFinish (strategy : ContractTransitionStrategy) (desired : ImportProcessingContract)
    (now : Int) : ImportTransaction WriterContractTransitionOutcome := do
  commitTargetContract names row desired now
  finishTransition row strategy desired now

def markBlocked (now : Int) : ImportTransaction WriterContractTransitionOutcome := do
  updateTransition row.transitionId
    (fun row => { row with
      failureClass := some .blockedByRunningOwner
      retryable := true
      updatedAt := now }) fun _ => rfl
  updateAuthority fun authority =>
    { authority with
      healthReason := some .blockedByRunningOwner
      updatedAt := max authority.updatedAt now }
  return .blockedByRunningOwner

/-- Waits for the workers, or goes on when none is running. -/
def quiesceAndCommit (strategy : ContractTransitionStrategy) (desired : ImportProcessingContract)
    (now : Int) : ImportTransaction WriterContractTransitionOutcome := do
  let s ← get
  if 0 < s.runningCount then
    markBlocked row now
  else
    setPhase row.transitionId .workersQuiesced now
    updateAuthority fun authority =>
      { authority with transitionPhase := some .workersQuiesced, updatedAt := now }
    commitAndFinish names row strategy desired now

/-- Takes a transition from the phase it is in as far as it goes. -/
def advanceExistingTransition (strategy : ContractTransitionStrategy)
    (desired : ImportProcessingContract) (now : Int) : ImportTransaction
    WriterContractTransitionOutcome :=
  match row.phase with
  | .observed => do
      fenceClaims row now
      quiesceAndCommit names row strategy desired now
  | .claimsFenced => quiesceAndCommit names row strategy desired now
  | .workersQuiesced => commitAndFinish names row strategy desired now
  | .targetCommitted => finishTransition row strategy desired now
  | .writerReady => do
      updateAuthority (·.syncReady desired.id now)
      return .alreadyActive

def projectionIsReadyWithGeneration (s : ImportStore) : Bool :=
  s.db.head.serviceState = .ready && s.db.head.generation.isSome

/-- Goes on with the transition that is active. -/
def resumeTransition (existing : WriterContractTransition) (desired : ImportProcessingContract)
    (now : Int) : ImportTransaction WriterContractTransitionOutcome := do
  if existing.targetContractId ≠ desired.id then
    return .transitionInProgress
  else
    let s ← get
    let source := existing.sourceContractId.bind s.contracts.find?
    let strategy := contractDelta source desired
    if strategy = .unsupported ∧ existing.phase ≠ .targetCommitted ∧
        existing.phase ≠ .writerReady then
      return .unsupportedTransition
    else advanceExistingTransition names existing strategy desired now

/-- Starts a transition from the committed contract. -/
def beginTransition (desired : ImportProcessingContract) (now : Int) : ImportTransaction
    WriterContractTransitionOutcome := do
  let s ← get
  let committed := activeImportProcessingContract s
  match contractDelta committed desired with
  | .alreadyActive => do
      updateAuthority (·.syncReady desired.id now)
      return .alreadyActive
  | .unsupported => return .unsupportedTransition
  | .pdfRootRescan =>
      if 0 < s.runningCount then do
        let _ ← recordTransition
          (names.transitionId "writer-contract-transition-blocked" desired.id now)
          (committed.map (·.id)) desired.id (some .blockedByRunningOwner) now
        return .blockedByRunningOwner
      else do
        let row ← recordTransition (names.transitionId "writer-contract-transition" desired.id now)
          (committed.map (·.id)) desired.id none now
        advanceExistingTransition names row .pdfRootRescan desired now

def completeOnlineWriterTransitionInTransaction (desired : ImportProcessingContract) (now : Int) :
    ImportTransaction WriterContractTransitionOutcome := do
  insertImportProcessingContract desired
  let s ← get
  if projectionIsReadyWithGeneration s = false then
    return .persistedStateInvalid
  else
    match activeTransitionRow s with
    | some existing => resumeTransition names existing desired now
    | none => beginTransition names desired now

/-- The outcomes whose writes are kept. -/
def WriterContractTransitionOutcome.commits : WriterContractTransitionOutcome → Bool
  | .blockedByRunningOwner => true
  | .transitionInProgress => true
  | .alreadyActive => true
  | .targetCommitted => true
  | .persistedStateInvalid => false
  | .unsupportedTransition => false
  | .transitionRequired => false

def completeOnlineWriterTransition (names : TransitionNames) (desired : ImportProcessingContract)
    (now : Int) : ImportTransaction WriterContractTransitionOutcome :=
  transactionIf (·.commits) (completeOnlineWriterTransitionInTransaction names desired now)

/-! ## The hard cut -/

inductive MigrationRebuildContractActivation where
  | activated
  | alreadyActive
  | superseded
  | runningTaskConflict
  deriving DecidableEq

def MigrationRebuildContractActivation.commits : MigrationRebuildContractActivation → Bool
  | .activated => true
  | .alreadyActive => true
  | .superseded => false
  | .runningTaskConflict => false

/-- A rebuild that a broken invariant stopped can be reopened by another
contract. -/
def blockedContractHardCut (s : ImportStore) (contractId : String) : Bool :=
  s.db.head.serviceState = .repairBlocked .runtimeInvariant && s.db.head.generation = none &&
    s.db.repair.activeContractId.any fun active => decide (active ≠ contractId)

def SearchProjectionState.reopen (head : SearchProjectionState) (now : Int) :
    SearchProjectionState :=
  { head with
    serviceState := .repairing .migrationRebuild
    updatedAt := max head.updatedAt now
    ready_names := nofun }

def reopenProjection (now : Int) (s : ImportStore) : ImportStore :=
  { s with db := { s.db with head := s.db.head.reopen now } }

/-- Removes every task and makes the contract the one of the rebuild. -/
def hardCut (contract : ImportProcessingContract) (reopens : Bool) (now : Int) :
    ImportTransaction MigrationRebuildContractActivation := do
  modify (purgeImportTasks fun _ => true)
  modify fun s => { s with
    db := { s.db with repair := { s.db.repair with activeContractId := some contract.id } } }
  updateAuthority (·.syncReady contract.id now)
  modify fun s => if reopens then reopenProjection now s else s
  return .activated

def activateInTransaction (contract : ImportProcessingContract) (now : Int) :
    ImportTransaction MigrationRebuildContractActivation := do
  insertImportProcessingContract contract
  let s ← get
  let reopens := blockedContractHardCut s contract.id
  if s.unpublishedRebuild = false ∧ reopens = false then
    return .superseded
  else if s.unpublishedRebuild = true ∧ s.db.repair.activeContractId = some contract.id then
    updateAuthority (·.syncReady contract.id now)
    return .alreadyActive
  else if 0 < s.runningCount then
    return .runningTaskConflict
  else hardCut contract reopens now

def activateMigrationRebuildContract (contract : ImportProcessingContract) (now : Int) :
    ImportTransaction MigrationRebuildContractActivation :=
  transactionIf (·.commits) (activateInTransaction contract now)

/-! ## Statements that write the authority and the transitions only -/

/-- Nothing but the authority and the transitions differs. -/
def AuthorityOnly (s t : ImportStore) : Prop :=
  t = { s with authority := t.authority, transitions := t.transitions }

instance : IsPreorder ImportStore AuthorityOnly where
  refl _ := rfl
  trans _ _ _ first second := by
    unfold AuthorityOnly at first second ⊢
    rw [second, first]

theorem updateAuthority_only (f : WriterAuthorityColumns → WriterAuthorityColumns) :
    Within AuthorityOnly (updateAuthority f) := by
  intro s _ t done
  obtain ⟨_, rfl⟩ := run_updateAuthority_eq_ok.mp done
  rfl

theorem updateTransition_only (id : String) (f : WriterContractTransition → WriterContractTransition)
    (same : ∀ row, (f row).transitionId = row.transitionId) :
    Within AuthorityOnly (updateTransition id f same) :=
  .get_bind fun _ => .require_bind fun _ => .write fun _ => rfl

theorem setPhase_only (id : String) (phase : WriterTransitionPhase) (now : Int) :
    Within AuthorityOnly (setPhase id phase now) :=
  updateTransition_only _ _ _

theorem recordTransition_only (id : String) (source : Option String) (target : String)
    (failure : Option WriterTransitionFailure) (now : Int) :
    Within AuthorityOnly (recordTransition id source target failure now) := by
  refine .get_bind fun _ => .require_bind fun _ => .bind (fun s _ t done => ?_) fun _ =>
    .bind (updateAuthority_only _) fun _ => .pure _
  obtain ⟨_, _, rfl⟩ := Table.run_insertRow_eq_ok.mp done
  rfl

theorem fenceClaims_only (now : Int) : Within AuthorityOnly (fenceClaims row now) :=
  .bind (setPhase_only _ _ _) fun _ => updateAuthority_only _

theorem markBlocked_only (now : Int) : Within AuthorityOnly (markBlocked row now) :=
  .bind (updateTransition_only _ _ _) fun _ => .bind (updateAuthority_only _) fun _ => .pure _

/-! ## What holds along a transition and along the hard cut -/

/-- A relation that contains the writes a transition and a hard cut share. -/
structure ContractClosed (related : ImportStore → ImportStore → Prop) : Prop where
  contract : ∀ s desired, related s { s with contracts := s.contracts.insertOrIgnore desired }
  authority : ∀ {s t}, AuthorityOnly s t → related s t
  activeContract : ∀ (s : ImportStore) id,
    related s { s with db := { s.db with repair := { s.db.repair with activeContractId := id } } }

/-- A relation that contains every write of a transition. -/
structure TransitionClosed (related : ImportStore → ImportStore → Prop) : Prop extends
    ContractClosed related where
  rebuild : ∀ desired now, Within related (retireAndRebuildQueuedIntents names desired now)
  campaign : ∀ strategy desired now s, related s (materializeCampaign strategy desired now s)

/-- A relation that contains every write of a hard cut. -/
structure HardCutClosed (related : ImportStore → ImportStore → Prop) : Prop
    extends ContractClosed related where
  purge : ∀ s, related s (purgeImportTasks (fun _ => true) s)
  reopen : ∀ now s, related s (reopenProjection now s)

section Closed

variable {names : TransitionNames} {related : ImportStore → ImportStore → Prop}
  (row : WriterContractTransition) (strategy : ContractTransitionStrategy)
  (desired : ImportProcessingContract) (now : Int)

namespace ContractClosed

variable (closed : ContractClosed related)

include closed

theorem insert : Within related (insertImportProcessingContract desired) := by
  intro s _ t done
  obtain ⟨_, rfl⟩ := run_insertImportProcessingContract_eq_ok.mp done
  exact closed.contract s desired

theorem only {α : Type} {x : ImportTransaction α} (inside : Within AuthorityOnly x) :
    Within related x :=
  inside.mono fun _ _ => closed.authority

theorem updateAuthority (f : WriterAuthorityColumns → WriterAuthorityColumns) :
    Within related (updateAuthority f) :=
  closed.only (updateAuthority_only f)

theorem setPhase (id : String) (phase : WriterTransitionPhase) :
    Within related (setPhase id phase now) :=
  closed.only (setPhase_only id phase now)

end ContractClosed

variable [IsPreorder ImportStore related]

namespace TransitionClosed

variable (closed : TransitionClosed names related)

include closed

theorem commitTargetContract : Within related (commitTargetContract names row desired now) :=
  .get_bind fun _ => .require_bind fun _ => .bind (closed.rebuild desired now) fun _ =>
    .write_bind (fun s => closed.activeContract s _) <|
      .bind (closed.setPhase _ _ _) fun _ => closed.updateAuthority _

theorem finishTransition : Within related (finishTransition row strategy desired now) :=
  .write_bind (fun s => closed.campaign strategy desired now s) <|
    .bind (closed.setPhase _ _ _) fun _ =>
      .bind (closed.only (updateTransition_only _ _ _)) fun _ =>
        .bind (closed.updateAuthority _) fun _ => .pure _

theorem commitAndFinish : Within related (commitAndFinish names row strategy desired now) :=
  .bind (closed.commitTargetContract _ _ _) fun _ => closed.finishTransition _ _ _ _

theorem quiesceAndCommit : Within related (quiesceAndCommit names row strategy desired now) :=
  .get_bind fun _ => .ite (fun _ => closed.only (markBlocked_only _ _)) fun _ =>
    .bind (closed.setPhase _ _ _) fun _ => .bind (closed.updateAuthority _) fun _ =>
      closed.commitAndFinish _ _ _ _

theorem advanceExistingTransition :
    Within related (advanceExistingTransition names row strategy desired now) := by
  unfold MetaStore.advanceExistingTransition
  split
  · exact .bind (closed.only (fenceClaims_only _ _)) fun _ => closed.quiesceAndCommit _ _ _ _
  · exact closed.quiesceAndCommit _ _ _ _
  · exact closed.commitAndFinish _ _ _ _
  · exact closed.finishTransition _ _ _ _
  · exact .bind (closed.updateAuthority _) fun _ => .pure _

theorem resumeTransition : Within related (resumeTransition names row desired now) :=
  .ite (fun _ => .pure _) fun _ => .get_bind fun _ => .ite (fun _ => .pure _) fun _ =>
    closed.advanceExistingTransition _ _ _ _

theorem beginTransition : Within related (beginTransition names desired now) := by
  refine .get_bind fun s => ?_
  dsimp only
  split
  · exact .bind (closed.updateAuthority _) fun _ => .pure _
  · exact .pure _
  · exact .ite
      (fun _ => .bind (closed.only (recordTransition_only _ _ _ _ _)) fun _ => .pure _)
      fun _ => .bind (closed.only (recordTransition_only _ _ _ _ _)) fun _ =>
        closed.advanceExistingTransition _ _ _ _

/-- **Along an online transition** holds what holds along each of its writes. -/
theorem complete : Within related (completeOnlineWriterTransition names desired now) := by
  refine .transactionIf <| .bind (closed.insert _) fun _ => .get_bind fun s =>
    .ite (fun _ => .pure _) fun _ => ?_
  split
  · exact closed.resumeTransition _ _ _
  · exact closed.beginTransition _ _

end TransitionClosed

namespace HardCutClosed

variable (closed : HardCutClosed related)

include closed

theorem hardCut (reopens : Bool) : Within related (hardCut desired reopens now) := by
  refine .write_bind (fun s => closed.purge s) <|
    .write_bind (fun s => closed.activeContract s _) <|
      .bind (closed.updateAuthority _) fun _ => .write_bind (fun s => ?_) (.pure _)
  split
  · exact closed.reopen now s
  · exact refl_of related s

/-- **Along a hard cut** holds what holds along each of its writes. -/
theorem activate : Within related (activateMigrationRebuildContract desired now) :=
  .transactionIf <| .bind (closed.insert _) fun _ => .get_bind fun _ =>
    .ite (fun _ => .pure _) fun _ =>
      .ite (fun _ => .bind (closed.updateAuthority _) fun _ => .pure _) fun _ =>
        .ite (fun _ => .pure _) fun _ => closed.hardCut _ _ _

end HardCutClosed

end Closed

end ResumeIr.MetaStore
