import Mathlib.Data.List.Dedup
import ResumeIr.MetaStore.Imports.Machine

/-!
# The tasks of an import store

A pending task that has not been cancelled is the newest task of its root. So a
root has at most one of them. Four other facts about the tasks are kept together
with this one (`TasksSound`): what is cancelled is a task, every task is bound to
a contract, the root of every task is authorized, and every authorized root has
a configuration that the scope of a task can be taken from.

There are three ways of changing the tasks. Rows are rewritten in place, and no
task becomes pending by it (`TasksSound.rewrite`). Rows are deleted with all that
hangs on them (`TasksSound.purge`). A task is inserted after every pending task
of its root was cancelled (`TasksSound.insert`).
-/

namespace ResumeIr.MetaStore

open CoreDomain Foundation Fallible

/-- A configuration that a valid scope can be taken from. -/
def AuthorizedImportRoot.configured (root : AuthorizedImportRoot) : Bool :=
  decide (trim root.requestedRootPath ≠ "") && decide (trim root.canonicalRootPath ≠ "") &&
    (match root.rootKind, root.rootPreset with
      | .explicit, none => true
      | .preset, some _ => true
      | _, _ => false) &&
    root.scanBudgetKind.isSome == root.scanBudgetLimit.isSome

structure TasksSound (s : ImportStore) : Prop where
  head : ∀ task ∈ s.tasks, task.pending = true → s.cancelled task.id = false →
    s.canonicalImportTaskHead task.rootPath = some task
  cancelledTask : ∀ id, s.cancelled id = true → (s.tasks.find? id).isSome = true
  bound : ∀ task ∈ s.tasks, (s.processingContractId task.id).isSome = true
  authorized : ∀ task ∈ s.tasks, (s.authorizedRoots.find? task.rootPath).isSome = true
  configured : ∀ root ∈ s.authorizedRoots, root.configured = true

variable {s t : ImportStore}

theorem TasksSound.start (fresh : Fresh s) : TasksSound s := by
  refine ⟨?_, ?_, ?_, ?_, ?_⟩
  · simp [fresh.tasks]
  · simp [ImportStore.cancelled, fresh.cancellations]
  · simp [fresh.tasks]
  · simp [fresh.tasks]
  · simp [fresh.authorizedRoots]

/-! ## Changes of the tasks -/

namespace TasksSound

variable {s t : ImportStore}

/-- The tables of authorized roots that a change may lead to. -/
structure RootsGrow (before after : Table AuthorizedImportRoot.canonicalRootPath) : Prop where
  known : ∀ path, (before.find? path).isSome = true → (after.find? path).isSome = true
  configured : (∀ root ∈ before, root.configured = true) → ∀ root ∈ after, root.configured = true

theorem roots (held : TasksSound s) (tasks : t.tasks = s.tasks)
    (cancellations : t.cancellations = s.cancellations) (bindings : t.bindings = s.bindings)
    (grow : RootsGrow s.authorizedRoots t.authorizedRoots) : TasksSound t := by
  obtain ⟨head, cancelledTask, bound, authorized, configured⟩ := held
  constructor
  · simpa only [ImportStore.canonicalImportTaskHead, ImportStore.cancelled, tasks, cancellations]
  · simpa only [ImportStore.cancelled, tasks, cancellations] using cancelledTask
  · simpa only [ImportStore.processingContractId, tasks, bindings] using bound
  · intro task member
    rw [tasks] at member
    exact grow.known _ (authorized task member)
  · exact grow.configured configured

/-- What the invariant does not read may change. -/
theorem congr (held : TasksSound s) (tasks : t.tasks = s.tasks)
    (cancellations : t.cancellations = s.cancellations) (bindings : t.bindings = s.bindings)
    (roots : t.authorizedRoots = s.authorizedRoots) : TasksSound t :=
  held.roots tasks cancellations bindings (roots ▸ ⟨fun _ => id, id⟩)

end TasksSound

variable {task : ImportTask} {contractId : String}

namespace TasksSound

variable {s t : ImportStore}

/-- Rewriting tasks in place rewrites the head. -/
theorem head_of_rows_eq_map {g : ImportTask → ImportTask} (rows : t.tasks.rows = s.tasks.rows.map g)
    (path : ∀ task, (g task).rootPath = task.rootPath) (root : String) :
    t.canonicalImportTaskHead root = (s.canonicalImportTaskHead root).map g := by
  unfold ImportStore.canonicalImportTaskHead
  rw [rows, List.find?_map]
  simp only [Function.comp_def, path]

theorem rewrite (held : TasksSound s) {g : ImportTask → ImportTask}
    (rows : t.tasks.rows = s.tasks.rows.map g) (same : ∀ task, (g task).id = task.id)
    (path : ∀ task, (g task).rootPath = task.rootPath)
    (pending : ∀ task, (g task).pending = true → task.pending = true)
    (kept : ∀ id, s.cancelled id = true → t.cancelled id = true)
    (named : ∀ id, t.cancelled id = true →
      s.cancelled id = true ∨ (s.tasks.find? id).isSome = true)
    (bindings : t.bindings = s.bindings) (roots : t.authorizedRoots = s.authorizedRoots) :
    TasksSound t := by
  have origin : ∀ task ∈ t.tasks, ∃ old ∈ s.tasks, g old = task := by
    intro task member
    rw [Table.mem_rows, rows] at member
    exact List.mem_map.mp member
  constructor
  · intro task member waiting live
    obtain ⟨old, there, rfl⟩ := origin task member
    rw [same] at live
    have uncancelled : s.cancelled old.id = false :=
      Bool.eq_false_iff.mpr fun gone => Bool.eq_false_iff.mp live (kept _ gone)
    rw [head_of_rows_eq_map rows path, path, held.head old there (pending old waiting) uncancelled,
      Option.map_some]
  · intro id gone
    rw [Table.find?_of_rows_eq_map rows same, Option.isSome_map]
    obtain earlier | there := named id gone
    · exact held.cancelledTask id earlier
    · exact there
  · intro task member
    obtain ⟨old, there, rfl⟩ := origin task member
    unfold ImportStore.processingContractId
    rw [bindings, same]
    exact held.bound old there
  · intro task member
    obtain ⟨old, there, rfl⟩ := origin task member
    rw [roots, path]
    exact held.authorized old there
  · rw [roots]
    exact held.configured

theorem insert (held : TasksSound s) (tasks : s.tasks.insert? task = some t.tasks)
    (bindings : s.bindings.insert? ⟨task.id, contractId⟩ = some t.bindings)
    (cancellations : t.cancellations = s.cancellations)
    (grow : RootsGrow s.authorizedRoots t.authorizedRoots)
    (authorized : (t.authorizedRoots.find? task.rootPath).isSome = true)
    (retired : ∀ other ∈ s.tasks, other.rootPath = task.rootPath → other.pending = true →
      s.cancelled other.id = true) : TasksSound t := by
  have sameCancelled : ∀ id, t.cancelled id = s.cancelled id := by
    intro id
    unfold ImportStore.cancelled
    rw [cancellations]
  constructor
  · intro other member waiting live
    unfold ImportStore.canonicalImportTaskHead
    rw [Table.rows_insert? tasks]
    obtain rfl | there := (Table.mem_insert? tasks).mp member
    · simp
    · rw [sameCancelled] at live
      by_cases here : task.rootPath = other.rootPath
      · rw [retired other there here.symm waiting] at live
        cases live
      · rw [List.find?_cons_of_neg (by simpa using here)]
        exact held.head other there waiting live
  · intro id gone
    rw [sameCancelled] at gone
    rw [Table.find?_insert? tasks]
    split
    · rfl
    · exact held.cancelledTask id gone
  · intro other member
    unfold ImportStore.processingContractId
    rw [Table.find?_insert? bindings]
    obtain rfl | there := (Table.mem_insert? tasks).mp member
    · rw [if_pos rfl]
      rfl
    · split
      · rfl
      · exact held.bound other there
  · intro other member
    obtain rfl | there := (Table.mem_insert? tasks).mp member
    · exact authorized
    · exact grow.known _ (held.authorized other there)
  · exact grow.configured held.configured

/-- Tasks may go together with all that hangs on them. -/
theorem purge (held : TasksSound s) (doomed : ImportTaskId → Bool) :
    TasksSound (purgeImportTasks doomed s) := by
  have cancelled_iff : ∀ id, (purgeImportTasks doomed s).cancelled id =
      (s.cancelled id && !doomed id) := by
    intro id
    unfold ImportStore.cancelled purgeImportTasks
    rw [Table.find?_delete]
    cases found : s.cancellations.find? id with
    | none => simp
    | some row =>
      have named : row.importTaskId = id := Table.find?_key found
      cases gone : doomed id <;> simp [named, gone]
  constructor
  · intro task member waiting live
    obtain ⟨there, spared⟩ := Table.mem_delete.mp member
    rw [cancelled_iff, spared, Bool.not_false, Bool.and_true] at live
    have first := held.head task there waiting live
    exact Table.rows_find?_delete first spared
  · intro id gone
    rw [cancelled_iff, Bool.and_eq_true] at gone
    show ((s.tasks.delete _).find? id).isSome = true
    rw [Table.find?_delete]
    obtain ⟨task, found⟩ := Option.isSome_iff_exists.mp (held.cancelledTask id gone.1)
    have named : task.id = id := Table.find?_key found
    simp [found, named, gone.2]
  · intro task member
    obtain ⟨there, spared⟩ := Table.mem_delete.mp member
    show ((((s.bindings.delete _).find? task.id)).map _).isSome = true
    rw [Table.find?_delete]
    have known := held.bound task there
    unfold ImportStore.processingContractId at known
    rw [Option.isSome_map] at known ⊢
    obtain ⟨row, found⟩ := Option.isSome_iff_exists.mp known
    have named : row.importTaskId = task.id := Table.find?_key found
    simp [found, named, spared]
  · intro task member
    exact held.authorized task (Table.mem_delete.mp member).1
  · exact held.configured

end TasksSound

/-! ## The statements of the coordination -/

/-- A valid scope authorizes its root. -/
theorem configured_ofScope {scope : ImportScanScope} (valid : validateImportScanScope scope = .ok ()) :
    (AuthorizedImportRoot.ofScope scope).configured = true := by
  obtain ⟨requested, canonical, root, budget⟩ := validateImportScanScope_eq_ok.mp valid
  simp only [AuthorizedImportRoot.configured, AuthorizedImportRoot.ofScope, requested, canonical,
    ne_eq, not_false_eq_true, decide_true, Bool.true_and, Bool.and_eq_true]
  refine ⟨root, ?_⟩
  unfold ImportScanScope.scanBudgetValid at budget
  split at budget <;> simp_all

theorem upsertAuthorizedImportRoot_known (scope : ImportScanScope) (s : ImportStore) :
    ((upsertAuthorizedImportRoot scope s).authorizedRoots.find?
      scope.canonicalRootPath).isSome = true := by
  show ((Table.insertOrIgnore _ _).find? _).isSome = true
  rw [Table.find?_insertOrIgnore]
  simp [AuthorizedImportRoot.ofScope]

theorem upsertAuthorizedImportRoot_grow {scope : ImportScanScope}
    (valid : validateImportScanScope scope = .ok ()) (s : ImportStore) :
    TasksSound.RootsGrow s.authorizedRoots (upsertAuthorizedImportRoot scope s).authorizedRoots := by
  constructor
  · intro path known
    show ((Table.insertOrIgnore _ _).find? _).isSome = true
    rw [Table.find?_insertOrIgnore, Option.isSome_or, Table.find?_update, Bool.or_eq_true]
    split
    case isTrue here =>
      left
      rwa [Option.isSome_map, ← here]
    case isFalse => exact .inl known
  · intro configured root member
    rw [Table.mem_iff_find?] at member
    change (Table.insertOrIgnore _ _).find? _ = _ at member
    rw [Table.find?_insertOrIgnore] at member
    obtain found | ⟨_, inserted⟩ := Option.or_eq_some_iff.mp member
    · rw [Table.find?_update] at found
      split at found
      · -- the row is configured like the scope, and the paths agree
        obtain ⟨old, there, rfl⟩ := Option.map_eq_some_iff.mp found
        have same : old.canonicalRootPath = scope.canonicalRootPath := Table.find?_key there
        have made : (old.configure scope).configured =
            (AuthorizedImportRoot.ofScope scope).configured := by
          unfold AuthorizedImportRoot.configured AuthorizedImportRoot.configure
          rw [same]
          rfl
        rw [made]
        exact configured_ofScope valid
      · exact configured root (Table.mem_iff_find?.mpr found)
    · split at inserted
      · cases inserted
        exact configured_ofScope valid
      · cases inserted

/-- One root is rewritten and keeps its configuration. -/
theorem TasksSound.RootsGrow.update (roots : Table AuthorizedImportRoot.canonicalRootPath)
    (path : String) (f : AuthorizedImportRoot → AuthorizedImportRoot)
    (same : ∀ root, (f root).canonicalRootPath = root.canonicalRootPath)
    (kept : ∀ root, (f root).configured = root.configured) :
    RootsGrow roots (roots.update path f same) := by
  constructor
  · intro other known
    rw [Table.find?_update]
    split
    next here =>
      rw [← here, Option.isSome_map]
      exact known
    · exact known
  · intro configured root member
    obtain ⟨old, there, rfl⟩ := List.mem_map.mp (Table.mem_rows.mp member)
    split
    · rw [kept]
      exact configured old there
    · exact configured old there

/-- A statement keeps the tasks sound. -/
theorem TasksSound.statement (held : TasksSound s) (statement : TaskStatement s t) :
    TasksSound t := by
  cases statement with
  | rewrite g rows same path pending kept named rest =>
    exact held.rewrite rows same path pending kept named (by rw [rest]) (by rw [rest])
  | insert task scope contract done retired =>
    obtain ⟨allowed, tasks, bindings, scopes, newTask, newBinding, _, rfl⟩ :=
      run_insertImportTaskWithScanScope_eq_ok.mp done
    refine held.insert newTask newBinding rfl
      (upsertAuthorizedImportRoot_grow allowed.scopeValid _) ?_ retired
    rw [← allowed.sameRoot]
    exact upsertAuthorizedImportRoot_known scope _
  | authorize scope valid rest =>
    subst rest
    exact held.roots rfl rfl rfl (upsertAuthorizedImportRoot_grow valid s)
  | control path paused updatedAt rest =>
    subst rest
    exact held.roots rfl rfl rfl
      (.update _ path (fun root => { root with paused, updatedAt }) (fun _ => rfl) fun _ => rfl)
  | annotate rest | startScan _ _ _ _ _ _ _ rest | moveScan _ _ _ _ _ rest | block _ rest =>
    exact held.congr (by rw [rest]) (by rw [rest]) (by rw [rest]) (by rw [rest])

theorem TasksSound.statements (held : TasksSound s) (statements : TaskStatements s t) :
    TasksSound t := by
  induction statements with
  | refl => exact held
  | tail _ statement ih => exact ih.statement statement

/-! ## Replacing the waiting tasks of another contract -/

theorem mem_staleIntents :
    task ∈ staleIntents s contractId ↔
      task ∈ s.tasks ∧ (task.status = .queued ∨ task.status = .failedRetryable) ∧
        (∃ bound, s.processingContractId task.id = some bound ∧ bound ≠ contractId) ∧
        s.cancelled task.id = false := by
  simp only [staleIntents, List.mem_filter, Bool.and_eq_true, Bool.or_eq_true, decide_eq_true_eq,
    Option.any_eq_true_iff_get, Bool.not_eq_true']
  constructor
  · rintro ⟨member, ⟨status, known, other⟩, live⟩
    exact ⟨member, status, ⟨_, Option.some_get known |>.symm, other⟩, live⟩
  · rintro ⟨member, status, ⟨bound, found, other⟩, live⟩
    refine ⟨member, ⟨status, by rw [found]; rfl, ?_⟩, live⟩
    simp [found, other]

theorem mem_staleRoots {contractId path : String} :
    path ∈ staleRoots s contractId ↔
      ∃ task ∈ staleIntents s contractId, task.rootPath = path := by
  simp [staleRoots]

theorem pending_of_stale (stale : task ∈ staleIntents s contractId) : task.pending = true := by
  obtain ⟨_, queued | failed, _⟩ := mem_staleIntents.mp stale
  · simp [ImportTask.pending, queued]
  · simp [ImportTask.pending, failed]

theorem cancelled_retireIntents (stale : List ImportTask) (contractId : String) (now : Int)
    (s : ImportStore) (id : ImportTaskId) :
    (retireIntents stale contractId now s).cancelled id =
      (s.cancelled id || stale.any fun task => decide (task.id = id)) := by
  show ((Table.insertAll _ _).find? id).isSome = _
  rw [Table.find?_insertAll_isSome, List.any_map]
  rfl

theorem TasksSound.retireIntents (held : TasksSound s) {stale : List ImportTask}
    (known : ∀ task ∈ stale, task ∈ s.tasks) (contractId : String) (now : Int) :
    TasksSound (retireIntents stale contractId now s) := by
  have cancel : TaskStatement s { MetaStore.retireIntents stale contractId now s with
      pdfJobs := s.pdfJobs } := by
    refine .cancel _ (fun row member => ?_) rfl rfl rfl
    obtain ⟨task, listed, rfl⟩ := List.mem_map.mp member
    exact find?_isSome_of_mem (known task listed)
  exact (held.statement cancel).congr rfl rfl rfl rfl

/-- The stale task of a root is its head, so no other task of the root is live. -/
theorem TasksSound.cancelled_of_retireIntents (held : TasksSound s) {contractId path : String}
    {now : Int} (stale : path ∈ staleRoots s contractId)
    (member : task ∈ (MetaStore.retireIntents (staleIntents s contractId) contractId now s).tasks)
    (here : task.rootPath = path) (waiting : task.pending = true) :
    (MetaStore.retireIntents (staleIntents s contractId) contractId now s).cancelled task.id =
      true := by
  obtain ⟨old, there, made⟩ := List.mem_map.mp (Table.mem_rows.mp member)
  have same : task.id = old.id ∧ task.rootPath = old.rootPath ∧ task.pending = old.pending := by
    subst made
    split <;> exact ⟨rfl, rfl, rfl⟩
  obtain ⟨intent, intended, root⟩ := mem_staleRoots.mp stale
  obtain ⟨intentThere, _, _, intentLive⟩ := mem_staleIntents.mp intended
  rw [cancelled_retireIntents, same.1, Bool.or_eq_true, or_iff_not_imp_left]
  intro uncancelled
  have first := held.head old there (same.2.2 ▸ waiting) (by simpa using uncancelled)
  have second := held.head intent intentThere (pending_of_stale intended) intentLive
  rw [← same.2.1, here] at first
  rw [root, first] at second
  obtain rfl := Option.some.inj second
  exact List.any_eq_true.mpr ⟨_, intended, by simp⟩

/-- What the insertion of replacements leaves. -/
structure Replaced (s t : ImportStore) (contractId : String)
    (replacements : List (ImportTask × ImportScanScope)) : Prop where
  sound : TasksSound t
  cancellations : t.cancellations = s.cancellations
  kept : ∀ task ∈ s.tasks, task ∈ t.tasks
  bound : ∀ id bound, s.processingContractId id = some bound →
    t.processingContractId id = some bound
  inserted : ∀ replacement ∈ replacements, replacement.1 ∈ t.tasks ∧
    replacement.1.status = .queued ∧ t.cancelled replacement.1.id = false ∧
    t.processingContractId replacement.1.id = some contractId

variable {replacements : List (ImportTask × ImportScanScope)}

theorem TasksSound.insertReplacements {contract : ImportProcessingContract} {u : Unit}
    (held : TasksSound s)
    (distinct : (replacements.map fun replacement => replacement.1.rootPath).Nodup)
    (retired : ∀ replacement ∈ replacements, ∀ other ∈ s.tasks,
      other.rootPath = replacement.1.rootPath → other.pending = true →
        s.cancelled other.id = true)
    (done : (MetaStore.insertReplacements contract replacements).run s = .ok u t) :
    Replaced s t contract.id replacements := by
  induction replacements generalizing s with
  | nil =>
    cases done
    exact ⟨held, rfl, fun _ member => member, fun _ _ known => known,
      fun _ member => absurd member List.not_mem_nil⟩
  | cons first rest ih =>
    obtain ⟨task, scope⟩ := first
    obtain ⟨_, r, inserted, done⟩ := run_bind_eq_ok.mp done
    have statement : TaskStatement s r :=
      .insert task scope contract inserted (retired _ List.mem_cons_self)
    obtain ⟨allowed, tasks, bindings, scopes, newTask, newBinding, _, rfl⟩ :=
      run_insertImportTaskWithScanScope_eq_ok.mp inserted
    have next := held.statement statement
    rw [List.map_cons, List.nodup_cons] at distinct
    -- the roots of the later replacements are other roots
    have others := ih next distinct.2 (by
      intro replacement member other there here waiting
      obtain rfl | before := (Table.mem_insert? newTask).mp there
      · exact absurd (List.mem_map.mpr ⟨replacement, member, here.symm⟩) distinct.1
      · exact retired replacement (List.mem_cons_of_mem _ member) other before here waiting) done
    have fresh : s.cancelled task.id = false := by
      refine Bool.eq_false_iff.mpr fun gone => ?_
      have known := held.cancelledTask _ gone
      rw [Table.find?_of_insert? newTask] at known
      cases known
    refine ⟨others.sound, others.cancellations, ?_, ?_, ?_⟩
    · intro old member
      exact others.kept old ((Table.mem_insert? newTask).mpr (.inr member))
    · intro id bound known
      refine others.bound id bound ?_
      unfold ImportStore.processingContractId at known ⊢
      show (bindings.find? id).map _ = _
      rw [Table.find?_insert? newBinding]
      split
      case isTrue same =>
        have free := Table.find?_of_insert? newBinding
        rw [show task.id = id from same] at free
        rw [free] at known
        cases known
      case isFalse => exact known
    · intro replacement member
      obtain rfl | later := List.mem_cons.mp member
      · refine ⟨others.kept _ ((Table.mem_insert? newTask).mpr (.inl rfl)), allowed.queued, ?_, ?_⟩
        · unfold ImportStore.cancelled
          rw [others.cancellations]
          exact fresh
        · refine others.bound _ _ ?_
          show (bindings.find? task.id).map _ = _
          rw [Table.find?_inserted newBinding]
          rfl
      · exact others.inserted replacement later

variable {names : TransitionNames}

theorem stageReplacement_eq_ok {now : Int} {path : String}
    {replacement : ImportTask × ImportScanScope} :
    stageReplacement names s contractId now path = .ok replacement ↔
      ∃ root, s.authorizedRoots.find? path = some root ∧
        (queuedTask (names.rebuildTaskId path contractId now) path now,
          root.taskScope (names.rebuildTaskId path contractId now) now) = replacement := by
  unfold stageReplacement authorizedRootTaskScope
  cases s.authorizedRoots.find? path with
  | none => simp [present, bind, Except.bind]
  | some root => simp [present, bind, Except.bind, pure, Except.pure]

/-- The replacements stand for the stale roots, one for each. -/
theorem tasks_of_staged {now : Int} {paths : List String}
    (staged : paths.mapM (stageReplacement names s contractId now) = .ok replacements) :
    replacements.map Prod.fst =
      paths.map fun path => queuedTask (names.rebuildTaskId path contractId now) path now := by
  have pairs := mapM_eq_ok.mp staged
  clear staged
  induction pairs with
  | nil => rfl
  | cons here _ ih =>
    obtain ⟨_, _, rfl⟩ := stageReplacement_eq_ok.mp here
    rw [List.map_cons, List.map_cons, ih]

theorem rootPaths_of_staged {now : Int} {paths : List String}
    (staged : paths.mapM (stageReplacement names s contractId now) = .ok replacements) :
    (replacements.map fun replacement => replacement.1.rootPath) = paths := by
  have rows := congrArg (List.map ImportTask.rootPath) (tasks_of_staged staged)
  simpa [Function.comp_def, queuedTask] using rows

/-- The whole replacement, seen from the store it started in. -/
theorem TasksSound.retireAndRebuild {desired : ImportProcessingContract} {now : Int} {u : Unit}
    (held : TasksSound s)
    (done : (retireAndRebuildQueuedIntents names desired now).run s = .ok u t) :
    ∃ replacements, (replacements.map fun replacement => replacement.1.rootPath) =
        staleRoots s desired.id ∧
      Replaced (MetaStore.retireIntents (staleIntents s desired.id) desired.id now s) t desired.id
        replacements := by
  unfold retireAndRebuildQueuedIntents at done
  rw [run_get_bind] at done
  obtain ⟨replacements, staged, done⟩ := run_ofExcept_bind_eq_ok.mp done
  have paths := rootPaths_of_staged staged
  refine ⟨replacements, paths, ?_⟩
  refine (held.retireIntents (fun task stale => (mem_staleIntents.mp stale).1) _ _).insertReplacements
    ?_ ?_ done
  · rw [paths]
    exact List.nodup_dedup _
  · intro replacement member other there here waiting
    refine held.cancelled_of_retireIntents ?_ there here waiting
    rw [← paths]
    exact List.mem_map.mpr ⟨replacement, member, rfl⟩

/-! ## Writer transitions and the hard cut -/

theorem TasksSound.contractClosed : ContractClosed (Keeps TasksSound) where
  contract _ _ held := held.congr rfl rfl rfl rfl
  authority only held := held.congr (by rw [only]) (by rw [only]) (by rw [only]) (by rw [only])
  activeContract _ _ held := held.congr rfl rfl rfl rfl

theorem TasksSound.transitionClosed (names : TransitionNames) :
    TransitionClosed names (Keeps TasksSound) where
  toContractClosed := contractClosed
  rebuild desired now := by
    intro s _ t done held
    obtain ⟨_, _, replaced⟩ := held.retireAndRebuild done
    exact replaced.sound
  campaign strategy desired now s held := by
    unfold materializeCampaign
    split
    · exact held.congr rfl rfl rfl rfl
    · exact held

theorem TasksSound.hardCutClosed : HardCutClosed (Keeps TasksSound) where
  toContractClosed := contractClosed
  purge _ held := held.purge _
  reopen _ _ held := held.congr rfl rfl rfl rfl

/-! ## Steps and runs -/

theorem TasksSound.purgeRoot (held : TasksSound s) (path : String) :
    TasksSound (purgeRootTasks path s) := by
  have purged := held.purge fun id => (s.tasks.find? id).any fun task => task.rootPath = path
  refine ⟨purged.head, purged.cancelledTask, purged.bound, ?_, ?_⟩
  · intro task member
    obtain ⟨there, spared⟩ := Table.mem_delete.mp member
    have elsewhere : task.rootPath ≠ path := by
      simpa [Table.mem_iff_find?.mp there] using spared
    have known := held.authorized task there
    show ((s.authorizedRoots.delete _).find? task.rootPath).isSome = true
    obtain ⟨root, found⟩ := Option.isSome_iff_exists.mp known
    have named : root.canonicalRootPath = task.rootPath := Table.find?_key found
    simp [Table.find?_delete, found, named, elsewhere]
  · intro root member
    exact held.configured root (Table.mem_delete.mp member).1

theorem TasksSound.step {event : ImportEvent} (held : TasksSound s)
    (step : ImportStep names event s t) : TasksSound t := by
  cases step with
  | tasks statements => exact held.statements statements
  | purgeTasks doomed rest => exact rest ▸ held.purge doomed
  | purgeRoot path rest => exact rest ▸ held.purgeRoot path
  | transition desired now outcome done =>
    exact (TasksSound.transitionClosed names).complete desired now s _ t done held
  | activate contract now outcome done =>
    exact TasksSound.hardCutClosed.activate contract now s _ t done held
  | latch f _ done => exact TasksSound.contractClosed.updateAuthority f s _ t done held
  | schedulePdf _ _ _ _ _ rest | completePdf _ _ _ _ rest | requeuePdf _ _ _ _ rest =>
    exact rest ▸ held.congr rfl rfl rfl rfl
  | outside _ rest =>
    exact held.congr rest.tasks rest.cancellations rest.bindings rest.authorizedRoots

theorem TasksSound.inductive (names : TransitionNames) :
    (importMachine names).Inductive TasksSound where
  start := TasksSound.start
  step held leads := held.step (ImportEvent.step leads)

end ResumeIr.MetaStore
