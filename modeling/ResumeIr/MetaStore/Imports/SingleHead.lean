import ResumeIr.MetaStore.Imports.TransitionInvariant

/-!
# One live task for each root

In every reachable store a live task, one that is pending and has not been
cancelled, is the newest task of its root. A root that has work to do keeps it
through a change of the contract: the live task of another contract is cancelled
and one queued task of the new contract takes its place.
-/

namespace ResumeIr.MetaStore

open Foundation Fallible

/-- A task that still has work to do. -/
def ImportStore.live (s : ImportStore) (task : ImportTask) : Bool :=
  task.pending && !s.cancelled task.id

theorem ImportStore.live_iff {s : ImportStore} {task : ImportTask} :
    s.live task = true ↔ task.pending = true ∧ s.cancelled task.id = false := by
  simp [ImportStore.live]

/-- The task is the only live task of its root. -/
def ImportStore.OnlyLive (s : ImportStore) (task : ImportTask) : Prop :=
  ∀ other, other ∈ s.tasks ∧ other.rootPath = task.rootPath ∧ s.live other = true ↔ other = task

theorem TasksSound.onlyLive {s : ImportStore} (held : TasksSound s) {task : ImportTask}
    (member : task ∈ s.tasks) (alive : s.live task = true) : s.OnlyLive task := by
  intro other
  constructor
  · rintro ⟨there, here, waits⟩
    rw [ImportStore.live_iff] at alive waits
    have first := held.head task member alive.1 alive.2
    have second := held.head other there waits.1 waits.2
    rw [here, first] at second
    exact (Option.some.inj second).symm
  · rintro rfl
    exact ⟨member, rfl, alive⟩

/-! ## Rejected batches -/

theorem coordinateImportRootTaskHeads_rejected {requests : List ImportRootTaskHeadRequest}
    {rejection : ImportRootTaskHeadBatchRejection} {s t : ImportStore}
    (done : (coordinateImportRootTaskHeads requests).run s = .ok (.rejected rejection) t) :
    t = s := by
  obtain ⟨_, _, done⟩ := run_ofExcept_bind_eq_ok.mp done
  obtain ⟨outcomes, r, coordinated, done⟩ := run_bind_eq_ok.mp done
  obtain ⟨u, _, rfl⟩ := run_transactionIf_eq_ok.mp coordinated
  cases outcomes with
  | ok outcomes => cases done
  | error rejection =>
    cases done
    rfl

/-! ## Completed transitions -/

/-- When no task is running, a live task of another contract is stale. -/
theorem mem_staleIntents_of_live {s : ImportStore} (held : TasksSound s)
    (quiet : s.runningCount = 0) {contractId : String} {task : ImportTask}
    (member : task ∈ s.tasks) (alive : s.live task = true)
    (other : s.processingContractId task.id ≠ some contractId) :
    task ∈ staleIntents s contractId := by
  obtain ⟨waiting, uncancelled⟩ := ImportStore.live_iff.mp alive
  have still : task.status ≠ .running := by
    intro runs
    have counted : task ∈ s.tasks.rows.filter fun task => decide (task.status = .running) :=
      List.mem_filter.mpr ⟨member, decide_eq_true runs⟩
    rw [List.length_eq_zero_iff.mp quiet] at counted
    exact List.not_mem_nil counted
  obtain ⟨bound, found⟩ := Option.isSome_iff_exists.mp (held.bound task member)
  refine mem_staleIntents.mpr ⟨member, ?_, ⟨bound, found, ?_⟩, uncancelled⟩
  · simpa [ImportTask.pending, still] using waiting
  · rintro rfl
    exact other found

/-- What a committed transition does to the live tasks. -/
structure LiveTasksMoved (desired : ImportProcessingContract) (s t : ImportStore) : Prop where
  replaced : ∀ task ∈ s.tasks, s.live task = true →
    s.processingContractId task.id ≠ some desired.id →
      t.cancelled task.id = true ∧
        ∃ new, new.rootPath = task.rootPath ∧ new.status = .queued ∧
          t.processingContractId new.id = some desired.id ∧ t.OnlyLive new
  kept : ∀ task ∈ s.tasks, s.live task = true →
    s.processingContractId task.id = some desired.id → task ∈ t.tasks ∧ t.live task = true

section

variable {names : TransitionNames} {desired : ImportProcessingContract} {now : Int}
  {s t : ImportStore}

/-- A task that is not stale is left as it is. -/
theorem mem_retireIntents {stale : List ImportTask} {contractId : String} {task : ImportTask}
    (member : task ∈ s.tasks) (fresh : task ∉ stale) :
    task ∈ (retireIntents stale contractId now s).tasks := by
  exact List.mem_map.mpr ⟨task, member, if_neg (by simpa using fresh)⟩

theorem liveTasksMoved_of_rebuilt (held : TasksSound s) (quiet : s.runningCount = 0)
    (rebuilt : (retireAndRebuildQueuedIntents names desired now).run s = .ok () t) :
    LiveTasksMoved desired s t := by
  obtain ⟨replacements, paths, replaced⟩ := held.retireAndRebuild rebuilt
  have cancelled_eq : ∀ id, t.cancelled id =
      (s.cancelled id || (staleIntents s desired.id).any fun task => decide (task.id = id)) := by
    intro id
    unfold ImportStore.cancelled
    rw [replaced.cancellations]
    exact cancelled_retireIntents _ _ _ _ _
  constructor
  · intro task member alive other
    have stale := mem_staleIntents_of_live held quiet member alive other
    constructor
    · rw [cancelled_eq, Bool.or_eq_true]
      exact .inr (List.any_eq_true.mpr ⟨task, stale, by simp⟩)
    · have root : task.rootPath ∈ staleRoots s desired.id := mem_staleRoots.mpr ⟨task, stale, rfl⟩
      rw [← paths] at root
      obtain ⟨replacement, listed, here⟩ := List.mem_map.mp root
      obtain ⟨there, queued, uncancelled, bound⟩ := replaced.inserted replacement listed
      refine ⟨replacement.1, here, queued, bound, replaced.sound.onlyLive there ?_⟩
      rw [ImportStore.live_iff]
      exact ⟨by simp [ImportTask.pending, queued], uncancelled⟩
  · intro task member alive bound
    -- no stale task has the id of a task that is bound to the new contract
    have fresh : ∀ stale ∈ staleIntents s desired.id, stale.id ≠ task.id := by
      intro stale listed same
      obtain ⟨_, _, ⟨other, found, differs⟩, _⟩ := mem_staleIntents.mp listed
      rw [same, bound] at found
      exact differs (Option.some.inj found).symm
    refine ⟨replaced.kept task (mem_retireIntents member fun listed => fresh task listed rfl), ?_⟩
    obtain ⟨waiting, uncancelled⟩ := ImportStore.live_iff.mp alive
    rw [ImportStore.live_iff, cancelled_eq, uncancelled]
    refine ⟨waiting, List.any_eq_false.mpr fun stale listed => ?_⟩
    simpa using fresh stale listed

theorem LiveTasksMoved.congr {s₁ t₁ : ImportStore} (moved : LiveTasksMoved desired s t)
    (before : s₁.tasks = s.tasks ∧ s₁.cancellations = s.cancellations ∧ s₁.bindings = s.bindings)
    (after : t₁.tasks = t.tasks ∧ t₁.cancellations = t.cancellations ∧ t₁.bindings = t.bindings) :
    LiveTasksMoved desired s₁ t₁ := by
  obtain ⟨tasks, cancellations, bindings⟩ := before
  obtain ⟨tasks₁, cancellations₁, bindings₁⟩ := after
  obtain ⟨replaced, kept⟩ := moved
  constructor
  · simpa only [ImportStore.live, ImportStore.OnlyLive, ImportStore.cancelled,
      ImportStore.processingContractId, tasks, cancellations, bindings, tasks₁, cancellations₁,
      bindings₁] using replaced
  · simpa only [ImportStore.live, ImportStore.cancelled, ImportStore.processingContractId, tasks,
      cancellations, bindings, tasks₁, cancellations₁] using kept

theorem liveTasksMoved_of_targetCommitted (tasksHeld : TasksSound s)
    (transitionHeld : TransitionSound s)
    (done : (completeOnlineWriterTransition names desired now).run s = .ok .targetCommitted t) :
    LiveTasksMoved desired s t := by
  obtain ⟨undone, _⟩ | ⟨_, transitioned⟩ :=
    completeOnlineWriterTransition_cases transitionHeld done
  · cases undone
  · cases transitioned with
    | refused _ undone => cases undone
    | committed r only rest =>
      obtain ⟨q, rebuilt, ended⟩ := rest.rebuilt
      have held : TasksSound r :=
        tasksHeld.congr (by rw [only]; rfl) (by rw [only]; rfl) (by rw [only]; rfl)
          (by rw [only]; rfl)
      refine (liveTasksMoved_of_rebuilt held rest.quiet rebuilt).congr ?_ ?_
      · rw [only]
        exact ⟨rfl, rfl, rfl⟩
      · rw [ended]
        exact ⟨rfl, rfl, rfl⟩

end

/-- **One live task for each root.** In every store that a run reaches, a live
task is the newest of its root and the only live one. A rejected or failed batch
of heads changes nothing. A completed transition of the writer replaces the live
task of another contract by one queued task of the target contract, and leaves
the live tasks of the target contract alone. -/
theorem live_import_tasks_are_heads (names : TransitionNames) {s : ImportStore}
    (reachable : (importMachine names).Reachable s) :
    (∀ task ∈ s.tasks, s.live task = true →
      s.canonicalImportTaskHead task.rootPath = some task ∧ s.OnlyLive task) ∧
    (∀ requests rejection t,
      (coordinateImportRootTaskHeads requests).run s = .ok (.rejected rejection) t → t = s) ∧
    (∀ requests e t, (coordinateImportRootTaskHeads requests).run s = .error e t → t = s) ∧
    ∀ desired now t,
      (completeOnlineWriterTransition names desired now).run s = .ok .targetCommitted t →
        LiveTasksMoved desired s t := by
  have held := (TasksSound.inductive names).holds reachable
  have sound := (TransitionSound.inductive names).holds reachable
  refine ⟨?_, ?_, ?_, ?_⟩
  · intro task member alive
    obtain ⟨waiting, uncancelled⟩ := ImportStore.live_iff.mp alive
    exact ⟨held.head task member waiting uncancelled, held.onlyLive member alive⟩
  · intro requests rejection t done
    exact coordinateImportRootTaskHeads_rejected done
  · intro requests e t failed
    exact coordinateHeads_atomic requests s e t failed
  · intro desired now t done
    exact liveTasksMoved_of_targetCommitted held sound done

/-! ## A run -/

def sampleTransitionNames : TransitionNames where
  transitionId tag contractId _ := tag ++ contractId
  rebuildTaskId _ _ _ := ⟨"imp_00000000000000000000000000000002", by decide⟩

def sampleContract (parser : String) : ImportProcessingContract :=
  ⟨parser, parser, "ocr", "derived", "classifier"⟩

/-- A store in which nothing has been imported or published. -/
def sampleFreshImports : ImportStore where
  db := {
    head := ⟨.repairing .migrationRebuild, none, 0, 0, nofun⟩
    journal := .empty
    retirement := .empty
    active := []
    documents := .empty
    facts := ⟨.empty, .empty, .empty, .empty, .empty, .empty, .empty⟩
    ocr := ⟨.empty, .empty, [], .empty, [], []⟩
    repair := ⟨none, none, none, none, none⟩ }
  tasks := .empty
  scopes := .empty
  cancellations := .empty
  bindings := .empty
  purposes := .empty
  completions := .empty
  authorizedRoots := .empty
  contracts := .empty
  roots := .empty
  deletions := .empty
  scans := .empty
  pdfJobs := .empty
  authority := initialAuthority
  transitions := .empty

def sampleImportTask : ImportTask :=
  queuedTask ⟨"imp_00000000000000000000000000000001", by decide⟩ "/resumes" 10

def sampleImportScope : ImportScanScope :=
  ⟨sampleImportTask.id, .explicit, none, .explicit, "/resumes", "/resumes", none, none, none,
    false, 10⟩

/-- The store after the first contract was activated. -/
def sampleActivated : ImportStore :=
  (ImportOperation.activateRebuild (sampleContract "a") 1).apply sampleTransitionNames
    sampleFreshImports

/-- Search was published meanwhile. -/
def samplePublishedImports : ImportStore :=
  { sampleActivated with
    db := { sampleActivated.db with head := ⟨.ready, some "first", 1, 2, fun _ => rfl⟩ } }

/-- A first task waits for its worker. -/
def sampleQueuedImports : ImportStore :=
  (ImportOperation.coordinateHeads
    [.configured sampleImportTask sampleImportScope (sampleContract "a")]).apply
      sampleTransitionNames samplePublishedImports

theorem sampleFreshImports_fresh : Fresh sampleFreshImports where
  tasks := rfl
  scopes := rfl
  cancellations := rfl
  bindings := rfl
  purposes := rfl
  completions := rfl
  authorizedRoots := rfl
  transitions := rfl
  authority := rfl
  contract := nofun
  pdfJobs := fun _ member => absurd member List.not_mem_nil

theorem sampleQueuedImports_reachable :
    (importMachine sampleTransitionNames).Reachable sampleQueuedImports := by
  have activated : (importMachine sampleTransitionNames).Reachable sampleActivated :=
    reachable_apply (.start sampleFreshImports_fresh) _
  refine reachable_apply (reachable_outside activated ?_) _
  exact ⟨rfl, rfl, rfl, rfl, rfl, rfl, rfl, rfl, rfl, rfl, rfl, fun _ member => member,
    fun _ _ => rfl⟩

/-- The first task is replaced when the parser changes. -/
theorem live_import_tasks_are_heads_of_sample :
    ∃ t, (completeOnlineWriterTransition sampleTransitionNames (sampleContract "b") 20).run
        sampleQueuedImports = .ok .targetCommitted t ∧
      t.cancelled sampleImportTask.id = true ∧
      ∃ new, new.rootPath = "/resumes" ∧ new.status = .queued ∧
        t.processingContractId new.id = some "b" ∧ t.OnlyLive new := by
  have answered : answer (completeOnlineWriterTransition sampleTransitionNames
      (sampleContract "b") 20) sampleQueuedImports = some .targetCommitted := by
    decide +kernel
  obtain ⟨t, done⟩ := answer_eq_some_iff.mp answered
  have member : sampleImportTask ∈ sampleQueuedImports.tasks :=
    Table.mem_iff_find?.mpr (by decide +kernel)
  have alive : sampleQueuedImports.live sampleImportTask = true := by decide +kernel
  have other : sampleQueuedImports.processingContractId sampleImportTask.id ≠ some "b" := by
    decide +kernel
  obtain ⟨_, _, _, moved⟩ := live_import_tasks_are_heads sampleTransitionNames
    sampleQueuedImports_reachable
  exact ⟨t, done, (moved _ _ t done).replaced sampleImportTask member alive other⟩

/-- **What the import tables owe each other.** In every reachable store a task is
bound to a contract, its root is authorized and completely configured, only stored
tasks are cancelled, and the active writer transition has a row that waits and
starts from the committed contract. -/
theorem import_tables_agree (names : TransitionNames) {s : ImportStore}
    (reachable : (importMachine names).Reachable s) :
    (∀ task ∈ s.tasks, (s.processingContractId task.id).isSome = true ∧
        ∃ root, s.authorizedRoots.find? task.rootPath = some root ∧ root.configured = true) ∧
      (∀ id, s.cancelled id = true → (s.tasks.find? id).isSome = true) ∧
      ∀ id, s.authority.activeTransitionId = some id →
        ∃ row, s.transitions.find? id = some row ∧
          (row.phase = .observed ∨ row.phase = .claimsFenced) ∧
          row.sourceContractId = s.authority.committedContractId := by
  have sound := (TasksSound.inductive names).holds reachable
  refine ⟨fun task member => ⟨sound.bound task member, ?_⟩, sound.cancelledTask,
    fun id active => ((TransitionSound.inductive names).holds reachable id active).row⟩
  obtain ⟨root, found⟩ := Option.isSome_iff_exists.mp (sound.authorized task member)
  exact ⟨root, found, sound.configured root (Table.find?_eq_some_iff.mp found).1⟩

/-- The task is claimed, a transition waits for it, and it is cancelled. -/
def sampleCancelledImports : ImportStore :=
  applyAll sampleTransitionNames sampleQueuedImports
    [.claim sampleImportTask 11, .onlineTransition (sampleContract "b") 12,
      .cancel sampleImportTask.id 13]

theorem import_tables_agree_of_sample :
    ∃ task id row, task ∈ sampleCancelledImports.tasks ∧
      (sampleCancelledImports.processingContractId task.id).isSome = true ∧
      sampleCancelledImports.cancelled task.id = true ∧
      sampleCancelledImports.authority.activeTransitionId = some id ∧
      sampleCancelledImports.transitions.find? id = some row ∧
      row.sourceContractId = sampleCancelledImports.authority.committedContractId := by
  have reachable : (importMachine sampleTransitionNames).Reachable sampleCancelledImports :=
    reachable_applyAll sampleQueuedImports_reachable _
  have cancelled : sampleCancelledImports.cancelled sampleImportTask.id = true := by
    decide +kernel
  have waiting : sampleCancelledImports.authority.activeTransitionId.isSome = true := by
    decide +kernel
  obtain ⟨id, active⟩ := Option.isSome_iff_exists.mp waiting
  obtain ⟨bound, stored, transition⟩ := import_tables_agree _ reachable
  obtain ⟨row, found, _, source⟩ := transition id active
  obtain ⟨task, there⟩ := Option.isSome_iff_exists.mp (stored _ cancelled)
  obtain ⟨member, same⟩ := Table.find?_eq_some_iff.mp there
  exact ⟨task, id, row, member, (bound task member).1, same ▸ cancelled, active, found, source⟩

end ResumeIr.MetaStore
