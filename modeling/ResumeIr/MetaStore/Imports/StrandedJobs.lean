import ResumeIr.MetaStore.Imports.EndedTasks

/-!
# Reprocess jobs and the tasks they wait for

A scheduled job waits for the task it names. The job is settled while that task
is live and scans the root of the job. A job in another state is settled, if it
was not given up before its last attempt.

The operations that end a task do not know about the jobs that wait for it, and
the one that schedules jobs does not look at cancellations. Whether an operation
strands a job is said by its arguments and the store before it: it ends a task that
a job waits for, or schedules jobs for a task that is not a live task of their root.
Only the transition of the writer releases the jobs of the tasks it ends.
-/

namespace ResumeIr.MetaStore

open Foundation Fallible

namespace ImportStore

/-- The task with an id, if it is live. -/
def liveTask (s : ImportStore) (id : ImportTaskId) : Option ImportTask :=
  (s.tasks.find? id).filter s.live

def rootPath (s : ImportStore) (rootId : SourceRootId) : Option String :=
  (s.roots.find? rootId).map (·.canonicalPath)

def jobSettled (s : ImportStore) (job : PdfReprocessJob) : Bool :=
  match job.state with
  | .queued => true
  | .complete => true
  | .cancelled => decide (maxReprocessAttempts ≤ job.attempts)
  | .scheduled =>
      (job.scheduledTaskId.bind s.liveTask).any fun task =>
        decide (s.rootPath job.rootId = some task.rootPath)

end ImportStore

/-- No job is stranded. -/
def JobsSettled (s : ImportStore) : Prop :=
  ∀ job ∈ s.pdfJobs, s.jobSettled job = true

variable {s t : ImportStore}

theorem jobSettled_scheduled {job : PdfReprocessJob} (scheduled : job.state = .scheduled) :
    s.jobSettled job = true ↔
      ∃ id task, job.scheduledTaskId = some id ∧ s.liveTask id = some task ∧
        s.rootPath job.rootId = some task.rootPath := by
  unfold ImportStore.jobSettled
  rw [scheduled]
  cases job.scheduledTaskId with
  | none => simp
  | some id => cases found : s.liveTask id <;> simp [found]

theorem JobsSettled.start (fresh : Fresh s) : JobsSettled s := by
  intro job member
  unfold ImportStore.jobSettled
  rw [(fresh.pdfJobs job member).1]

/-! ## What a step does to the jobs -/

/-- Where the jobs of a table come from: no job becomes scheduled, and none is
given up before its last attempt. -/
structure JobsTrace (before after : Table PdfReprocessJob.sourceRevisionId) : Prop where
  scheduled : ∀ job ∈ after, job.state = .scheduled → ∃ old ∈ before, old.state = .scheduled ∧
    old.scheduledTaskId = job.scheduledTaskId ∧ old.rootId = job.rootId
  cancelled : ∀ job ∈ after, job.state = .cancelled → maxReprocessAttempts ≤ job.attempts ∨
    ∃ old ∈ before, old.state = .cancelled ∧ old.attempts = job.attempts

namespace JobsTrace

variable {first second third : Table PdfReprocessJob.sourceRevisionId}

theorem of_subset (subset : ∀ job ∈ second, job ∈ first) : JobsTrace first second where
  scheduled job member waits := ⟨job, subset job member, waits, rfl, rfl⟩
  cancelled job member gone := .inr ⟨job, subset job member, gone, rfl⟩

theorem of_eq (same : second = first) : JobsTrace first second :=
  of_subset fun _ member => same ▸ member

theorem trans (earlier : JobsTrace first second) (later : JobsTrace second third) :
    JobsTrace first third where
  scheduled job member waits := by
    obtain ⟨middle, there, still, named, root⟩ := later.scheduled job member waits
    obtain ⟨old, known, was, named', root'⟩ := earlier.scheduled middle there still
    exact ⟨old, known, was, named'.trans named, root'.trans root⟩
  cancelled job member gone := by
    obtain spent | ⟨middle, there, still, count⟩ := later.cancelled job member gone
    · exact .inl spent
    · rw [← count]
      exact earlier.cancelled middle there still

/-- Rewriting jobs in place. -/
theorem of_map {g : PdfReprocessJob → PdfReprocessJob} (rows : second.rows = first.rows.map g)
    (scheduled : ∀ job, (g job).state = .scheduled → job.state = .scheduled ∧
      job.scheduledTaskId = (g job).scheduledTaskId ∧ job.rootId = (g job).rootId)
    (cancelled : ∀ job, (g job).state = .cancelled → maxReprocessAttempts ≤ (g job).attempts ∨
      job.state = .cancelled ∧ job.attempts = (g job).attempts) : JobsTrace first second := by
  have origin : ∀ job ∈ second, ∃ old ∈ first, g old = job := by
    intro job member
    rw [Table.mem_rows, rows] at member
    exact List.mem_map.mp member
  constructor
  · intro job member waits
    obtain ⟨old, there, rfl⟩ := origin job member
    exact ⟨old, there, scheduled old waits⟩
  · intro job member gone
    obtain ⟨old, there, rfl⟩ := origin job member
    exact (cancelled old gone).imp_right fun was => ⟨old, there, was⟩

end JobsTrace

/-- What a step that schedules no job does to the jobs and to the roots they are for. -/
structure JobStep (s t : ImportStore) : Prop where
  jobs : JobsTrace s.pdfJobs t.pdfJobs
  roots : ∀ job ∈ t.pdfJobs, t.rootPath job.rootId = s.rootPath job.rootId

theorem JobStep.of_roots (jobs : JobsTrace s.pdfJobs t.pdfJobs) (roots : t.roots = s.roots) :
    JobStep s t :=
  ⟨jobs, fun _ _ => by rw [ImportStore.rootPath, ImportStore.rootPath, roots]⟩

/-- The tasks that jobs are left waiting for stay live. -/
def KeepsJobTasks (s t : ImportStore) : Prop :=
  ∀ job ∈ t.pdfJobs, job.state = .scheduled → ∀ task ∈ s.tasks,
    job.scheduledTaskId = some task.id → s.live task = true →
    ∃ later ∈ t.tasks, later.id = task.id ∧ later.rootPath = task.rootPath ∧ t.live later = true

theorem liveTask_eq_some {id : ImportTaskId} {task : ImportTask} :
    s.liveTask id = some task ↔ task ∈ s.tasks ∧ task.id = id ∧ s.live task = true := by
  rw [ImportStore.liveTask, Option.filter_eq_some_iff]
  constructor
  · rintro ⟨found, alive⟩
    obtain rfl := Table.find?_key found
    exact ⟨Table.mem_iff_find?.mpr found, rfl, alive⟩
  · rintro ⟨there, rfl, alive⟩
    exact ⟨Table.mem_iff_find?.mp there, alive⟩

theorem jobSettled_cancelled {job : PdfReprocessJob} (gone : job.state = .cancelled) :
    s.jobSettled job = true ↔ maxReprocessAttempts ≤ job.attempts := by
  unfold ImportStore.jobSettled
  rw [gone]
  simp

theorem JobsSettled.of_jobStep (settled : JobsSettled s) (step : JobStep s t)
    (keeps : KeepsJobTasks s t) : JobsSettled t := by
  intro job member
  cases kind : job.state with
  | queued | complete => simp [ImportStore.jobSettled, kind]
  | cancelled =>
    rw [jobSettled_cancelled kind]
    obtain spent | ⟨old, there, was, count⟩ := step.jobs.cancelled job member kind
    · exact spent
    · exact count ▸ (jobSettled_cancelled was).mp (settled old there)
  | scheduled =>
    -- the job waited for the same task before the step
    obtain ⟨old, there, was, named, root⟩ := step.jobs.scheduled job member kind
    obtain ⟨id, task, known, alive, path⟩ := (jobSettled_scheduled was).mp (settled old there)
    obtain ⟨inside, rfl, lives⟩ := liveTask_eq_some.mp alive
    rw [named] at known
    obtain ⟨later, still, same, later_path, present⟩ := keeps job member kind task inside known lives
    refine (jobSettled_scheduled kind).mpr
      ⟨task.id, later, known, liveTask_eq_some.mpr ⟨still, same, present⟩, ?_⟩
    rw [step.roots job member, ← root, path, later_path]

/-! ## The transition of the writer -/

/-- A step that releases the jobs that wait for the tasks it ends. -/
structure Releases (s t : ImportStore) : Prop where
  jobs : JobsTrace s.pdfJobs t.pdfJobs
  roots : t.roots = s.roots
  keeps : KeepsJobTasks s t

theorem Releases.of_spares (jobs : JobsTrace s.pdfJobs t.pdfJobs) (roots : t.roots = s.roots)
    (spares : SparesAll s t) : Releases s t :=
  ⟨jobs, roots, fun _ _ _ task there _ alive => spares task there alive rfl⟩

instance : IsPreorder ImportStore Releases where
  refl s := .of_spares (.of_eq rfl) rfl (refl_of SparesAll s)
  trans _ _ _ first second := by
    refine ⟨first.jobs.trans second.jobs, second.roots.trans first.roots, ?_⟩
    intro job member waits task there named alive
    obtain ⟨old, known, was, same, _⟩ := second.jobs.scheduled job member waits
    obtain ⟨middle, inside, id, path, lives⟩ :=
      first.keeps old known was task there (same.trans named) alive
    obtain ⟨later, last, id', path', still⟩ :=
      second.keeps job member waits middle inside (id ▸ named) lives
    exact ⟨later, last, id'.trans id, path'.trans path, still⟩

theorem releases_retireIntents (stale : List ImportTask) (contractId : String) (now : Int)
    (s : ImportStore) : Releases s (retireIntents stale contractId now s) := by
  have spares : Spares (fun task => stale.any fun other => decide (some task.id = some other.id)) s
      (retireIntents stale contractId now s) := by
    refine .cancel _ (fun row listed task there same _ => ?_) rfl rfl
    obtain ⟨other, member, rfl⟩ := List.mem_map.mp listed
    exact List.any_eq_true.mpr ⟨other, member, by simp [same]⟩
  refine ⟨.of_map rfl ?_ ?_, rfl, ?_⟩
  · intro job
    split
    · exact nofun
    · exact fun waits => ⟨waits, rfl, rfl⟩
  · intro job
    split
    · exact nofun
    · exact fun gone => .inr ⟨gone, rfl⟩
  · intro job member waits task there named alive
    refine spares task there alive ?_
    obtain ⟨old, _, rfl⟩ := List.mem_map.mp member
    split at waits
    · cases waits
    next unreleased =>
      rw [if_neg unreleased] at named
      simpa only [waits, named, decide_true, Bool.true_and, Bool.not_eq_true] using unreleased

theorem Releases.transitionClosed (names : TransitionNames) :
    TransitionClosed names Releases where
  contract _ _ := .of_spares (.of_eq rfl) rfl (SameTasks.spares ⟨rfl, rfl⟩)
  authority only := .of_spares (.of_eq (by rw [only])) (by rw [only])
    (SameTasks.spares ⟨by rw [only], by rw [only]⟩)
  activeContract _ _ := .of_spares (.of_eq rfl) rfl (SameTasks.spares ⟨rfl, rfl⟩)
  rebuild desired now := by
    refine .get_bind fun _ => .ofExcept_bind fun replacements staged =>
      .write_bind (fun s => releases_retireIntents _ _ _ s) ?_
    clear staged
    induction replacements with
    | nil => exact .pure _
    | cons first rest ih =>
      refine .bind (fun s _ t done => ?_) fun _ => ih
      have spares := spares_insert done
      obtain ⟨_, _, _, _, _, _, _, rfl⟩ := run_insertImportTaskWithScanScope_eq_ok.mp done
      exact .of_spares (.of_eq rfl) rfl spares
  campaign strategy desired now s := by
    unfold materializeCampaign
    split
    · refine .of_spares (.of_map rfl ?_ ?_) rfl (SameTasks.spares ⟨rfl, rfl⟩)
      · intro job
        split <;> exact fun waits => ⟨waits, rfl, rfl⟩
      · intro job
        split <;> exact fun gone => .inr ⟨gone, rfl⟩
    · exact refl_of Releases s

/-! ## Every operation -/

/-- Neither the jobs nor the roots change. -/
def SameJobs (s t : ImportStore) : Prop := t.pdfJobs = s.pdfJobs ∧ t.roots = s.roots

instance : IsPreorder ImportStore SameJobs where
  refl _ := ⟨rfl, rfl⟩
  trans _ _ _ first second := ⟨second.1.trans first.1, second.2.trans first.2⟩

theorem SameJobs.hardCutClosed : HardCutClosed SameJobs where
  contract _ _ := ⟨rfl, rfl⟩
  authority only := ⟨by rw [only], by rw [only]⟩
  activeContract _ _ := ⟨rfl, rfl⟩
  purge _ := ⟨rfl, rfl⟩
  reopen _ _ := ⟨rfl, rfl⟩

theorem SameJobs.jobStep (same : SameJobs s t) : JobStep s t := .of_roots (.of_eq same.1) same.2

/-- What an operation schedules. -/
def ImportOperation.schedules : ImportOperation → Option (SourceRootId × String × ImportTaskId)
  | .schedulePdf rootId parserContract taskId _ => some (rootId, parserContract, taskId)
  | _ => none

theorem ImportStep.jobStep {names : TransitionNames} {op : ImportOperation}
    (quiet : op.schedules = none) (step : ImportStep names (.operation op) s t) : JobStep s t := by
  cases step with
  | tasks statements =>
    exact SameJobs.jobStep ⟨statements.frame.pdfJobs, statements.frame.roots⟩
  | purgeTasks doomed rest => exact rest ▸ SameJobs.jobStep ⟨rfl, rfl⟩
  | purgeRoot path rest => exact rest ▸ SameJobs.jobStep ⟨rfl, rfl⟩
  | transition desired now _ done =>
    have released := (Releases.transitionClosed names).complete desired now s _ t done
    exact .of_roots released.jobs released.roots
  | activate contract now _ done =>
    exact (SameJobs.hardCutClosed.activate contract now s _ t done).jobStep
  | latch f _ done => exact (SameJobs.hardCutClosed.updateAuthority f s _ t done).jobStep
  | schedulePdf _ _ _ _ named _ =>
    cases named
    cases quiet
  | completePdf _ _ _ _ rest =>
    subst rest
    refine .of_roots (.of_map rfl ?_ ?_) rfl
    · intro job
      split
      · exact nofun
      · exact fun waits => ⟨waits, rfl, rfl⟩
    · intro job
      split
      · exact nofun
      · exact fun gone => .inr ⟨gone, rfl⟩
  | requeuePdf _ _ _ _ rest =>
    subst rest
    refine .of_roots (.of_map rfl ?_ ?_) rfl
    · intro job
      split
      · intro waits
        unfold PdfReprocessJob.requeue at waits
        dsimp only at waits
        split at waits <;> cases waits
      · exact fun waits => ⟨waits, rfl, rfl⟩
    · intro job
      split
      · intro gone
        left
        unfold PdfReprocessJob.requeue at gone
        dsimp only at gone
        split at gone
        · cases gone
        case isFalse spent => exact Nat.le_of_not_lt spent
      · exact fun gone => .inr ⟨gone, rfl⟩
  | outside named => cases named

/-! ## Which steps strand no job -/

/-- A scheduled job names the task. -/
def ImportStore.awaited (s : ImportStore) (id : ImportTaskId) : Bool :=
  s.pdfJobs.rows.any fun job => decide (job.state = .scheduled ∧ job.scheduledTaskId = some id)

/-- Jobs are only scheduled for a live task of their root, and no live task is ended
that a job waits for. A transition of the writer releases the jobs. -/
def ImportOperation.sparesJobs (s : ImportStore) : ImportOperation → Bool
  | .schedulePdf rootId parserContract taskId _ =>
      s.pdfJobs.rows.all fun job => !schedulable s rootId parserContract taskId job ||
        (s.liveTask taskId).any fun task => decide (s.rootPath rootId = some task.rootPath)
  | .onlineTransition _ _ => true
  | op => s.tasks.rows.all fun task => !(s.live task && s.awaited task.id && op.ends s task)

/-- The condition on an event. Other components end no task. -/
def ImportEvent.sparesJobs (s : ImportStore) : ImportEvent → Bool
  | .operation op => op.sparesJobs s
  | .outside => true

theorem JobsSettled.schedule (settled : JobsSettled s) {rootId : SourceRootId}
    {parserContract : String} {taskId : ImportTaskId} {now : Int}
    (spares : (ImportOperation.schedulePdf rootId parserContract taskId now).sparesJobs s = true) :
    JobsSettled { s with
      pdfJobs := s.pdfJobs.updateWhere (schedulable s rootId parserContract taskId)
        (·.schedule taskId now) fun _ => rfl } := by
  intro job member
  obtain ⟨old, there, made⟩ := List.mem_map.mp (Table.mem_rows.mp member)
  split at made
  case isTrue allowed =>
    subst made
    have checked := List.all_eq_true.mp spares old there
    rw [allowed, Bool.not_true, Bool.false_or, Option.any_eq_true] at checked
    obtain ⟨task, alive, path⟩ := checked
    refine (jobSettled_scheduled rfl).mpr ⟨taskId, task, rfl, alive, ?_⟩
    simp only [schedulable, Bool.and_eq_true, decide_eq_true_eq] at allowed
    show s.rootPath old.rootId = some task.rootPath
    rw [allowed.1.1.1.1.1.1]
    exact of_decide_eq_true path
  case isFalse =>
    subst made
    exact settled old there

/-- An operation that ends no awaited task leaves the jobs their tasks. -/
theorem keepsJobTasks_of_spares {op : ImportOperation}
    (jobs : JobsTrace s.pdfJobs t.pdfJobs) (spares : Spares (fun task => op.ends s task) s t)
    (checked : (s.tasks.rows.all fun task =>
      !(s.live task && s.awaited task.id && op.ends s task)) = true) : KeepsJobTasks s t := by
  intro job member waits task there named alive
  refine spares task there alive ?_
  obtain ⟨old, known, was, same, _⟩ := jobs.scheduled job member waits
  have awaited : s.awaited task.id = true :=
    List.any_eq_true.mpr ⟨old, known, decide_eq_true ⟨was, same.trans named⟩⟩
  have free := List.all_eq_true.mp checked task there
  simpa [alive, awaited] using free

theorem JobsSettled.step {names : TransitionNames} {event : ImportEvent}
    (settled : JobsSettled s) (leads : event.leads names s t)
    (spares : event.sparesJobs s = true) : JobsSettled t := by
  cases event with
  | outside =>
    refine settled.of_jobStep ⟨.of_subset leads.pdfJobs, leads.rootPaths⟩ ?_
    have same : SameTasks s t := ⟨leads.tasks, leads.cancellations⟩
    exact fun _ _ _ task there _ alive => same.spares task there alive rfl
  | operation op =>
    obtain rfl : t = op.apply names s := leads
    have step : op.schedules = none → JobStep s (op.apply names s) := (op.step names s).jobStep
    cases op with
    | schedulePdf rootId parserContract taskId now => exact settled.schedule spares
    | onlineTransition desired now =>
      have released := (Releases.transitionClosed names).complete desired now
      exact settled.of_jobStep (step rfl) (released.final (.transactionIf _ _) s).keeps
    | _ =>
      have step := step rfl
      exact settled.of_jobStep step
        (keepsJobTasks_of_spares step.jobs (ImportOperation.spares names _ s nofun) spares)

/-- The runs whose steps all strand no job. -/
abbrev sparingMachine (names : TransitionNames) : Machine ImportStore ImportEvent :=
  (importMachine names).restrict fun s event => event.sparesJobs s = true

/-- **No job is stranded** in a run in which no operation ends a live task that a job waits
for, and jobs are scheduled only for a live task of their root. Both are asked of the store
before the operation. -/
theorem reprocess_jobs_settled (names : TransitionNames) {s : ImportStore}
    (reachable : (sparingMachine names).Reachable s) : JobsSettled s := by
  refine Machine.Inductive.holds ⟨JobsSettled.start, ?_⟩ reachable
  intro s event t settled leads
  exact settled.step leads.2 leads.1

/-! ## A run -/

instance (s : ImportStore) : Decidable (JobsSettled s) :=
  inferInstanceAs (Decidable (∀ job ∈ s.pdfJobs.rows, s.jobSettled job = true))

def sampleRootId : SourceRootId := ⟨"root"⟩

def sampleJob : PdfReprocessJob :=
  ⟨⟨"rev_00000000000000000000000000000001", by decide⟩, sampleRootId, "a", .queued, 0, none,
    none, 0, none⟩

/-- A ready store with one root, whose only file waits to be read again. -/
def sampleReprocessImports : ImportStore :=
  { sampleFreshImports with
    db := { sampleFreshImports.db with head := samplePublishedImports.db.head }
    roots := ⟨[⟨sampleRootId, "/resumes", .active, 0⟩], by decide⟩
    pdfJobs := ⟨[sampleJob], by decide⟩ }

def sampleScan : ImportOperation :=
  .coordinateScan sampleRootId .manual sampleImportTask sampleImportScope (sampleContract "a") 10

def sampleSchedule : ImportOperation := .schedulePdf sampleRootId "a" sampleImportTask.id 11

/-- The store after the first operations. -/
def sampleAfter (operations : List ImportOperation) : ImportStore :=
  applyAll sampleTransitionNames sampleReprocessImports operations

theorem sampleReprocessImports_fresh : Fresh sampleReprocessImports where
  tasks := rfl
  scopes := rfl
  cancellations := rfl
  bindings := rfl
  purposes := rfl
  completions := rfl
  authorizedRoots := rfl
  transitions := rfl
  authority := rfl
  contract := nofun
  pdfJobs := by
    intro job member
    obtain rfl := List.mem_singleton.mp (Table.mem_rows.mp member)
    exact ⟨rfl, rfl⟩

/-- The task of a scan is cancelled while it is queued, and the job that was
scheduled for it stays scheduled. -/
theorem cancelled_task_strands_its_job :
    (importMachine sampleTransitionNames).Reachable (sampleAfter [sampleScan, sampleSchedule]) ∧
      JobsSettled (sampleAfter [sampleScan, sampleSchedule]) ∧
      ¬ JobsSettled (sampleAfter [sampleScan, sampleSchedule, .cancel sampleImportTask.id 12]) := by
  exact ⟨reachable_applyAll (.start sampleReprocessImports_fresh) _, by decide +kernel,
    by decide +kernel⟩

/-- The job is completed before its task is. -/
def sampleReprocessed : List ImportOperation :=
  [sampleScan, sampleSchedule, .claim sampleImportTask 12,
    .completePdf sampleRootId sampleImportTask.id "a" 13, .cancel sampleImportTask.id 14]

/-- Operations that strand no job where they are run. -/
theorem reachable_sparing {names : TransitionNames} {operations : List ImportOperation}
    (there : (sparingMachine names).Reachable s)
    (passed : Machine.playable (fun s op => op.apply names s) (fun s op => op.sparesJobs s) s
      operations = true) :
    (sparingMachine names).Reachable (applyAll names s operations) := by
  induction operations generalizing s with
  | nil => exact there
  | cons op rest ih =>
    obtain ⟨spares, later⟩ := Bool.and_eq_true_iff.mp passed
    have taken : (sparingMachine names).step s (.operation op) (op.apply names s) := ⟨spares, rfl⟩
    exact ih (there.next taken) later

theorem reprocess_jobs_settled_of_sample :
    JobsSettled (sampleAfter sampleReprocessed) ∧
      (sampleAfter sampleReprocessed).pdfJobs.rows.map (·.state) = [.complete] ∧
      (sampleAfter sampleReprocessed).cancelled sampleImportTask.id = true := by
  have there : (sparingMachine sampleTransitionNames).Reachable (sampleAfter sampleReprocessed) :=
    reachable_sparing (.start sampleReprocessImports_fresh) (by decide +kernel)
  exact ⟨reprocess_jobs_settled sampleTransitionNames there, by decide +kernel,
    by decide +kernel⟩

end ResumeIr.MetaStore
