import ResumeIr.MetaStore.Imports.TaskHead

/-!
# PDF reprocess jobs

After a change of the PDF parser every PDF file of a root has a job. The jobs of
a root are scheduled together when a scan of the root starts: they then name the
task of the scan. When the scan ends, the jobs that name its task are completed,
or queued again until they run out of attempts.
-/

namespace ResumeIr.MetaStore

def maxReprocessAttempts : Nat := 16

namespace PdfReprocessJob

/-- The jobs that the end of a scan is about. -/
def awaits (job : PdfReprocessJob) (rootId : SourceRootId) (parserContract : String)
    (taskId : ImportTaskId) : Bool :=
  job.rootId = rootId && job.parserContract = parserContract && job.state = .scheduled &&
    job.scheduledTaskId = some taskId

def schedule (job : PdfReprocessJob) (taskId : ImportTaskId) (now : Int) : PdfReprocessJob :=
  { job with
    state := .scheduled
    attempts := job.attempts + 1
    scheduledTaskId := some taskId
    updatedAt := max job.updatedAt now }

def complete (job : PdfReprocessJob) (now : Int) : PdfReprocessJob :=
  { job with
    state := .complete
    updatedAt := max job.updatedAt now
    completedAt := some now }

/-- A job that has no attempt left is given up. -/
def requeue (job : PdfReprocessJob) (now : Int) : PdfReprocessJob :=
  { job with
    state := if job.attempts < maxReprocessAttempts then .queued else .cancelled
    scheduledTaskId := none
    updatedAt := max job.updatedAt now }

end PdfReprocessJob

/-- The jobs of a root that can be scheduled for a task. The task must be queued
or running and bear the id of an active scan of the root. -/
def schedulable (s : ImportStore) (rootId : SourceRootId) (parserContract : String)
    (taskId : ImportTaskId) (job : PdfReprocessJob) : Bool :=
  job.rootId = rootId && job.parserContract = parserContract && job.state = .queued &&
    decide (job.attempts < maxReprocessAttempts) &&
    ((s.tasks.find? taskId).any fun task => task.status = .queued || task.status = .running) &&
    ((s.scans.find? taskId.asStr).any fun scan =>
      decide (scan.rootId = job.rootId) && scan.phase.isActive) &&
    !s.deletionActive job.rootId

/-- One conditional update of jobs. The answer counts the rows it found. -/
def updatePdfJobs (condition : ImportStore → PdfReprocessJob → Bool)
    (f : PdfReprocessJob → PdfReprocessJob)
    (same : ∀ job, (f job).sourceRevisionId = job.sourceRevisionId) : ImportTransaction Nat := do
  let s ← get
  modify fun s => { s with pdfJobs := s.pdfJobs.updateWhere (condition s) f same }
  return (s.pdfJobs.rows.filter (condition s)).length

def markPdfReprocessRootScheduled (rootId : SourceRootId) (parserContract : String)
    (taskId : ImportTaskId) (now : Int) : ImportTransaction Nat :=
  updatePdfJobs (fun s => schedulable s rootId parserContract taskId) (·.schedule taskId now)
    fun _ => rfl

def completePdfReprocessRoot (rootId : SourceRootId) (taskId : ImportTaskId)
    (parserContract : String) (now : Int) : ImportTransaction Nat :=
  updatePdfJobs (fun _ job => job.awaits rootId parserContract taskId) (·.complete now)
    fun _ => rfl

def requeuePdfReprocessRoot (rootId : SourceRootId) (taskId : ImportTaskId)
    (parserContract : String) (now : Int) : ImportTransaction Nat :=
  updatePdfJobs (fun _ job => job.awaits rootId parserContract taskId) (·.requeue now)
    fun _ => rfl

end ResumeIr.MetaStore
