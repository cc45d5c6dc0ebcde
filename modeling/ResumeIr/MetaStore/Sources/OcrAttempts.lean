import ResumeIr.MetaStore.Sources.DiscardedJobs

/-!
# Attempts of an OCR job

Each claim of a job is one attempt, numbered by `attemptCount`. The number never
falls, a claim raises it, and while an attempt runs its row does not change. So
a handle is the row of its attempt as it runs, two handles that are current at
one time are equal, and the handle of an earlier claim is never current again.

The attempts a job has left are its budget. A claim moves one from the budget to
the running attempt; a failure and an interruption of a stale worker use it up,
and a claim whose source was replaced gives it back. An enqueue that schedules
the job sets the budget to three.
-/

namespace ResumeIr.MetaStore

open CoreDomain Foundation Fallible

/-! ## Rows along a run -/

/-- A later row of a job. While the attempt is the same and runs, so is the row. -/
structure Follows (job later : IngestJob) : Prop where
  attempts : job.attemptCount ≤ later.attemptCount
  running : later.attemptCount = job.attemptCount → later.status = .running → later = job

namespace Follows

variable {first second third : IngestJob}

theorem refl (job : IngestJob) : Follows job job :=
  ⟨le_rfl, fun _ _ => rfl⟩

theorem trans (earlier : Follows first second) (later : Follows second third) :
    Follows first third := by
  refine ⟨earlier.attempts.trans later.attempts, fun same running => ?_⟩
  have bound := earlier.attempts
  have bound' := later.attempts
  obtain rfl := later.running (by omega) running
  exact earlier.running same running

theorem of_idle (attempts : first.attemptCount ≤ second.attemptCount)
    (idle : second.status ≠ .running) : Follows first second :=
  ⟨attempts, fun _ running => absurd running idle⟩

end Follows

variable {id : IngestJobId}

section Runs

variable {jobIdOf : SourceRevisionId → String → IngestJobId}
  {sha256 : List UInt8 → ContentDigest} {s t : SourceStore} {event : OcrEvent}

variable {job later : IngestJob}

theorem JobMove.follows {row : Bool} (moved : JobMove jobIdOf sha256 s event job later row) :
    Follows job later := by
  cases moved with
  | same => exact .refl job
  | requeued | swept | culled | givenBack | discarded | finished | stopped =>
    exact .of_idle le_rfl (by rintro ⟨⟩)
  | claimed =>
    refine ⟨Nat.le_succ _, fun same => ?_⟩
    simp [IngestJob.claim] at same
  | failed =>
    refine .of_idle le_rfl ?_
    simp only [IngestJob.fail]
    split <;> rintro ⟨⟩

/-- Jobs stay, and their rows follow one another. -/
def JobsFollow (s t : SourceStore) : Prop :=
  ∀ id job, s.ocrJob id = some job → ∃ later, t.ocrJob id = some later ∧ Follows job later

theorem JobsFollow.refl (s : SourceStore) : JobsFollow s s :=
  fun _ job stored => ⟨job, stored, .refl job⟩

theorem JobsFollow.trans {u : SourceStore} (first : JobsFollow s t) (second : JobsFollow t u) :
    JobsFollow s u := by
  intro id job stored
  obtain ⟨middle, there, earlier⟩ := first id job stored
  obtain ⟨later, found, after⟩ := second id middle there
  exact ⟨later, found, earlier.trans after⟩

theorem OcrStep.jobsFollow (step : OcrStep jobIdOf sha256 s event t) : JobsFollow s t := by
  intro id job stored
  obtain ⟨later, row, found, moved, _⟩ := step.effect.present id job stored
  exact ⟨later, found, moved.follows⟩

theorem run_jobsFollow {events : List OcrEvent}
    (run : (ocrMachine jobIdOf sha256).Run s events t) : JobsFollow s t :=
  run.relates JobsFollow.refl JobsFollow.trans fun step => OcrStep.jobsFollow step

/-! ## Handles -/

/-- The handle was read in the state. -/
structure HandleOf (s : SourceStore) (claimed : ClaimedOcrJob) : Prop where
  stored : s.ocrJob claimed.job.id = some claimed.job
  joined : s.claimedOcrJobFromJob claimed.job = some claimed

/-- The attempt of the handle is the one that runs. -/
def AttemptRuns (s : SourceStore) (claimed : ClaimedOcrJob) : Prop :=
  claimed.job.status = .running ∧ s.ocrJob claimed.job.id = some claimed.job

/-- A current claim runs the attempt of its handle. -/
theorem AttemptRuns.of_current {first : SourceStore} {claimed : ClaimedOcrJob}
    (handle : HandleOf first claimed) (follow : JobsFollow first s)
    (current : s.ocrClaimIsCurrent claimed = true) : AttemptRuns s claimed := by
  obtain ⟨job, spec, document, bound⟩ := boundClaim_of_current current
  obtain ⟨_, kind, running, attempt, _⟩ := runsClaim_iff.mp bound.runs
  obtain ⟨later, found, follows⟩ := follow _ _ handle.stored
  have stored : s.ocrJob claimed.job.id = some job := ocrJob_eq_some.mpr ⟨bound.stored, kind⟩
  obtain rfl : job = later := Option.some.inj (stored.symm.trans found)
  obtain rfl := follows.running attempt running
  exact ⟨running, stored⟩

/-- Two current handles of one job are equal. -/
theorem handles_eq_of_current {first second : SourceStore} {claimed other : ClaimedOcrJob}
    (handle : HandleOf first claimed) (follow : JobsFollow first s)
    (handle' : HandleOf second other) (follow' : JobsFollow second s)
    (same : other.job.id = claimed.job.id) (current : s.ocrClaimIsCurrent claimed = true)
    (current' : s.ocrClaimIsCurrent other = true) : other = claimed := by
  have runs := AttemptRuns.of_current handle follow current
  have runs' := AttemptRuns.of_current handle' follow' current'
  obtain ⟨_, spec, document, bound⟩ := boundClaim_of_current current
  obtain ⟨_, spec', document', bound'⟩ := boundClaim_of_current current'
  have job : other.job = claimed.job := by
    have stored := runs'.2
    rw [same, runs.2] at stored
    exact (Option.some.inj stored).symm
  obtain rfl : spec = spec' := by
    have specified := bound'.specified
    rw [same, bound.specified] at specified
    exact Option.some.inj specified
  obtain rfl : document = document' := Option.some.inj (bound.triaged.symm.trans bound'.triaged)
  have fingerprint : other.sourceFingerprint = claimed.sourceFingerprint :=
    Option.some.inj (bound'.content.symm.trans bound.content)
  cases claimed
  cases other
  simp only [ClaimedOcrJob.mk.injEq]
  exact ⟨job, bound'.revision.symm.trans bound.revision, bound'.epoch.symm.trans bound.epoch,
    fingerprint⟩

/-- What a claim that answers with a job has done to it. -/
theorem claim_answer {now : Int} (answered : answer (claimOcrJob now) s = some (some id)) :
    ∃ job, s.ocrJob id = some job ∧ job.claimable = true ∧
      (final (claimOcrJob now) s).ocrJob id = some (job.claim now) := by
  obtain ⟨claimed, t, u, done, culls, claims⟩ := claimOcrJob_run s now
  obtain ⟨u', done'⟩ := answer_eq_some_iff.mp answered
  rw [done] at done'
  cases done'
  rw [final_of_ok done]
  cases claims with
  | @claimed candidate job selects =>
    have kind := kind_of_claimable selects.free
    have chosen : t.ocrJob candidate.jobId = some job :=
      ocrJob_eq_some.mpr ⟨selects.stored, kind⟩
    -- the hash and the ids of jobs play no part in a claim
    have effect : StepEffect (fun _ _ => candidate.jobId) (fun _ => ⟨""⟩) s (.claim now) t :=
      culls.effect
    cases stored : s.ocrJob candidate.jobId with
    | none =>
      obtain ⟨_, missing | ⟨_, _, _, _, event, _⟩⟩ := effect.absent _ stored
      · rw [missing] at chosen
        cases chosen
      · cases event
    | some old =>
      obtain ⟨later, row, found, moved, _⟩ := effect.present _ old stored
      obtain rfl : later = job := Option.some.inj (found.symm.trans chosen)
      obtain ⟨rfl, _⟩ := moved.eq_of_claimable selects.free
      refine ⟨later, rfl, selects.free, ocrJob_eq_some.mpr ⟨?_, kind⟩⟩
      rw [startClaim_job, if_pos rfl, selects.stored, Option.map_some]

/-! ## Reports that come too late -/

theorem Settles.of_not_running {claimed : ClaimedOcrJob} {now : Int} {discarded : Bool}
    (settles : Settles s claimed now discarded t)
    (idle : ∀ job, s.ocrJob claimed.job.id = some job →
      ¬ (job.status = .running ∧ job.attemptCount = claimed.job.attemptCount)) : t = s := by
  cases settles with
  | untouched => rfl
  | givenBack stored kind running attempt _ =>
    exact absurd ⟨running, attempt⟩ (idle _ (ocrJob_eq_some.mpr ⟨stored, kind⟩))
  | discarded stored runs _ _ =>
    obtain ⟨_, kind, running, attempt, _⟩ := runsClaim_iff.mp runs
    exact absurd ⟨running, attempt⟩ (idle _ (ocrJob_eq_some.mpr ⟨stored, kind⟩))

/-- A report whose attempt does not run changes nothing. -/
theorem report_of_not_running {claimed : ClaimedOcrJob}
    (idle : ∀ job, s.ocrJob claimed.job.id = some job →
      ¬ (job.status = .running ∧ job.attemptCount = claimed.job.attemptCount)) {now : Int}
    (reports : event.reports = some (claimed, now)) (step : OcrStep jobIdOf sha256 s event t) :
    t = s := by
  have stranger : ∀ job, s.job claimed.job.id = some job → ¬ runsClaim claimed job = true := by
    intro job stored runs
    obtain ⟨_, kind, running, attempt, _⟩ := runsClaim_iff.mp runs
    exact idle job (ocrJob_eq_some.mpr ⟨stored, kind⟩) ⟨running, attempt⟩
  cases step with
  | fail handle failure now =>
    cases reports
    refine Atomic.final_eq (.silent_bind (final_require _ _) fun _ => .transaction _) ?_
    intro outcome t done
    cases finishOcrAttemptFailure_ok done with
    | failed stored runs => exact absurd runs (stranger _ stored)
    | settled settles => exact settles.of_not_running idle
  | settle handle now =>
    cases reports
    refine Atomic.final_eq (.transaction _) ?_
    intro outcome t done
    exact (settleSupersededClaim_ok (run_transaction_eq_ok.mp done)).of_not_running idle
  | result publication =>
    cases reports
    refine Atomic.final_eq (.transaction _) ?_
    intro outcome t done
    cases commitOcrResult_ok done with
    | claimSuperseded settles => exact settles.of_not_running idle
    | publicationSuperseded => rfl
    | applied _ stored runs => exact absurd runs (stranger _ stored)
  | enqueue | claim | sweep | interrupt | outside => cases reports

/-- The attempt that a call reports is settled as superseded, and the call
succeeds. -/
def Supersedes (sha256 : List UInt8 → ContentDigest) (s : SourceStore) : OcrEvent → Prop
  | .settle claimed now => answer (discardOcrClaimForSourceChange claimed now) s ≠ none
  | .fail claimed failure now =>
      answer (finishOcrAttemptFailure claimed failure now) s = some .superseded
  | .result publication => answer (commitOcrResult sha256 publication) s = some .claimSuperseded
  | _ => False

/-- The settlement that such a call makes. -/
theorem Supersedes.settles {claimed : ClaimedOcrJob} {now : Int}
    (supersedes : Supersedes sha256 s event) (reports : event.reports = some (claimed, now))
    (step : OcrStep jobIdOf sha256 s event t) :
    ∃ discarded, Settles s claimed now discarded t := by
  cases step with
  | fail handle failure now =>
    cases reports
    obtain ⟨t, done⟩ := answer_eq_some_iff.mp supersedes
    rw [final_of_ok done]
    generalize answered : OcrAttemptFailureOutcome.superseded = outcome at done
    cases finishOcrAttemptFailure_ok done with
    | failed => split at answered <;> cases answered
    | settled settles => exact ⟨_, settles⟩
  | settle handle now =>
    cases reports
    obtain ⟨discarded, answered⟩ := Option.ne_none_iff_exists'.mp supersedes
    obtain ⟨t, done⟩ := answer_eq_some_iff.mp answered
    rw [final_of_ok done]
    exact ⟨discarded, settleSupersededClaim_ok (run_transaction_eq_ok.mp done)⟩
  | result publication =>
    cases reports
    obtain ⟨t, done⟩ := answer_eq_some_iff.mp supersedes
    rw [final_of_ok done]
    cases commitOcrResult_ok done with
    | claimSuperseded settles => exact ⟨_, settles⟩
  | enqueue | claim | sweep | interrupt | outside => cases reports

/-- An attempt whose job has a current source is given back. -/
theorem Settles.givesBack {claimed : ClaimedOcrJob} {now : Int} {discarded : Bool}
    (settles : Settles s claimed now discarded t)
    (replaceable : s.replaceable claimed.job.id = true) :
    ∃ job, s.ocrJob claimed.job.id = some job ∧ job.status = .running ∧
      job.attemptCount = claimed.job.attemptCount ∧
      t.ocrJob claimed.job.id = some (job.interrupt now) := by
  cases settles with
  | untouched kept =>
    rw [kept] at replaceable
    cases replaceable
  | @givenBack job stored kind running attempt =>
    refine ⟨job, ocrJob_eq_some.mpr ⟨stored, kind⟩, running, attempt, ?_⟩
    refine ocrJob_eq_some.mpr ⟨?_, kind⟩
    rw [giveBack_job, if_pos rfl, stored, Option.map_some]
  | discarded stored runs lost =>
    obtain ⟨_, kind, running, _⟩ := runsClaim_iff.mp runs
    rw [replaceable_eq stored kind running, lost] at replaceable
    cases replaceable

/-! ## The budget -/

/-- The attempts that a job may still use up, the running one included. -/
def IngestJob.budget (job : IngestJob) : Nat :=
  match job.status with
  | .running => job.maxAttempts - job.attemptCount + 1
  | .queued => job.maxAttempts - job.attemptCount
  | .interrupted => job.maxAttempts - job.attemptCount
  | .failedRetryable => job.maxAttempts - job.attemptCount
  | .completed => 0
  | .failedPermanent => 0

/-- A queued job has an attempt left. -/
def QueuedHaveBudget (s : SourceStore) : Prop :=
  ∀ id job, s.ocrJob id = some job → job.status = .queued → job.attemptCount < job.maxAttempts

theorem QueuedHaveBudget.step (known : QueuedHaveBudget s)
    (step : OcrStep jobIdOf sha256 s event t) : QueuedHaveBudget t := by
  intro id job found queued
  cases stored : s.ocrJob id with
  | none =>
    obtain ⟨_, missing | ⟨_, _, _, _, _, _, created, _⟩⟩ := step.effect.absent id stored
    · rw [missing] at found
      cases found
    · rw [created] at found
      cases found
      simp [newOcrJob]
  | some old =>
    obtain ⟨later, row, there, moved, _⟩ := step.effect.present id old stored
    obtain rfl : later = job := Option.some.inj (there.symm.trans found)
    cases moved with
    | same => exact known id _ stored queued
    | requeued => simp [IngestJob.requeue]
    | swept | culled | claimed | givenBack | discarded | finished | stopped => cases queued
    | failed =>
      simp only [IngestJob.fail] at queued
      split at queued <;> cases queued

theorem QueuedHaveBudget.inductive : (ocrMachine jobIdOf sha256).Inductive QueuedHaveBudget where
  start none id job stored := by
    rw [none.jobs] at stored
    cases stored
  step known step := known.step step

/-- The event schedules the job. -/
def Schedules (jobIdOf : SourceRevisionId → String → IngestJobId) (s : SourceStore)
    (event : OcrEvent) (id : IngestJobId) : Prop :=
  ∃ revisionId triageEpoch queuedAt, event = .enqueue revisionId triageEpoch queuedAt ∧
    answer (enqueueOcrJobForSourceTriage jobIdOf revisionId triageEpoch queuedAt) s =
      some (id, true)

/-- The running attempt of the job ends with a reported failure, or is interrupted
because its worker is gone. -/
def attemptEnds (s : SourceStore) (event : OcrEvent) (id : IngestJobId) : Bool :=
  (s.ocrJob id).any (·.status = .running) &&
    match event with
    | .fail claimed failure now =>
        ((final (finishOcrAttemptFailure claimed failure now) s).ocrJob id).any fun job =>
          job.status = .failedRetryable || job.status = .failedPermanent
    | .interrupt now staleBefore =>
        ((final (interruptStaleJobs now staleBefore) s).ocrJob id).any (·.status = .interrupted)
    | _ => false

/-- What attemptEnds reads of the step it belongs to. -/
theorem attemptEnds_eq_true (stored : s.ocrJob id = some job) (found : t.ocrJob id = some later)
    (step : OcrStep jobIdOf sha256 s event t) (ends : attemptEnds s event id = true) :
    job.status = .running ∧
      ((∃ claimed failure now, event = .fail claimed failure now) ∧
          (later.status = .failedRetryable ∨ later.status = .failedPermanent) ∨
        (∃ now staleBefore, event = .interrupt now staleBefore) ∧ later.status = .interrupted) := by
  unfold attemptEnds at ends
  rw [stored, Bool.and_eq_true, Option.any_some, decide_eq_true_eq] at ends
  refine ⟨ends.1, ?_⟩
  cases step with
  | fail claimed failure now =>
    have failed := ends.2
    dsimp only at failed
    rw [found, Option.any_some, Bool.or_eq_true, decide_eq_true_eq, decide_eq_true_eq] at failed
    exact .inl ⟨⟨claimed, failure, now, rfl⟩, failed⟩
  | interrupt now staleBefore =>
    have stopped := ends.2
    dsimp only at stopped
    rw [found, Option.any_some, decide_eq_true_eq] at stopped
    exact .inr ⟨⟨now, staleBefore, rfl⟩, stopped⟩
  | enqueue | claim | sweep | settle | result | outside => cases ends.2

theorem budget_of_running (running : job.status = .running) :
    job.budget = job.maxAttempts - job.attemptCount + 1 := by
  simp [IngestJob.budget, running]

theorem budget_fail_lt (running : job.status = .running) (terminal : Bool) (kind : Option String)
    (now : Int) : (job.fail terminal kind now).budget < job.budget := by
  rw [budget_of_running running]
  cases terminal with
  | true | false => simp [IngestJob.budget, IngestJob.fail]

theorem budget_stop_lt (running : job.status = .running) (now : Int) :
    (job.stop now).budget < job.budget := by
  rw [budget_of_running running]
  simp [IngestJob.budget, IngestJob.stop]

/-- A claim moves an attempt from those left to the one that runs. -/
theorem budget_claim (free : job.claimable = true)
    (queued : job.status = .queued → job.attemptCount < job.maxAttempts) (now : Int) :
    (job.claim now).budget = job.budget := by
  have left : job.attemptCount < job.maxAttempts ∧
      job.budget = job.maxAttempts - job.attemptCount := by
    unfold IngestJob.claimable at free
    simp only [Bool.and_eq_true, Bool.or_eq_true, decide_eq_true_eq] at free
    obtain ⟨_, waiting | ⟨stopped | failed, left⟩⟩ := free
    · exact ⟨queued waiting, by simp [IngestJob.budget, waiting]⟩
    · exact ⟨left, by simp [IngestJob.budget, stopped]⟩
    · exact ⟨left, by simp [IngestJob.budget, failed]⟩
  show job.maxAttempts - (job.attemptCount + 1) + 1 = _
  omega

/-- No step but one that schedules the job raises its budget. -/
theorem JobMove.budget_le {row : Bool} (moved : JobMove jobIdOf sha256 s event job later row)
    (unscheduled : ¬ Schedules jobIdOf s event job.id)
    (queued : job.status = .queued → job.attemptCount < job.maxAttempts) :
    later.budget ≤ job.budget := by
  cases moved with
  | same => exact le_rfl
  | requeued queuedAt named ended scheduled =>
    exact absurd ⟨_, _, queuedAt, rfl, named ▸ scheduled⟩ unscheduled
  | swept | culled | discarded | finished => exact Nat.zero_le _
  | claimed now free => exact (budget_claim free queued now).le
  | givenBack _ _ running =>
    rw [budget_of_running running]
    show job.maxAttempts + 1 - job.attemptCount ≤ _
    omega
  | failed _ _ _ runs => exact (budget_fail_lt (runsClaim_iff.mp runs).2.2.1 _ _ _).le
  | stopped now stale =>
    unfold IngestJob.stale at stale
    simp only [Bool.and_eq_true, decide_eq_true_eq] at stale
    exact (budget_stop_lt stale.1 now).le

/-- An attempt that ends uses up one of the budget. -/
theorem JobMove.budget_lt {row : Bool} (moved : JobMove jobIdOf sha256 s event job later row)
    (running : job.status = .running)
    (ended : (∃ claimed failure now, event = .fail claimed failure now) ∧
        (later.status = .failedRetryable ∨ later.status = .failedPermanent) ∨
      (∃ now staleBefore, event = .interrupt now staleBefore) ∧ later.status = .interrupted) :
    later.budget < job.budget := by
  obtain ⟨⟨claimed, failure, now, rfl⟩, failed⟩ | ⟨⟨now, staleBefore, rfl⟩, stopped⟩ := ended
  · cases moved with
    | same => simp [running] at failed
    | swept sweeps => cases sweeps
    | givenBack => simp [IngestJob.interrupt] at failed
    | discarded => simp [IngestJob.discard, IngestJob.finish] at failed
    | failed => exact budget_fail_lt running _ _ _
  · cases moved with
    | same => simp [running] at stopped
    | swept sweeps => cases sweeps
    | givenBack reports | discarded reports => cases reports
    | stopped => exact budget_stop_lt running _

/-- The budget of the job with an id. -/
def SourceStore.budget (s : SourceStore) (id : IngestJobId) : Nat :=
  ((s.ocrJob id).map (·.budget)).getD 0

theorem budget_eq (stored : s.ocrJob id = some job) : s.budget id = job.budget := by
  simp [SourceStore.budget, stored]

/-- What one step costs. -/
theorem budget_step (known : QueuedHaveBudget s) (unscheduled : ¬ Schedules jobIdOf s event id)
    (step : OcrStep jobIdOf sha256 s event t) :
    (if attemptEnds s event id then 1 else 0) + t.budget id ≤ s.budget id := by
  cases stored : s.ocrJob id with
  | none =>
    obtain ⟨_, missing | ⟨revisionId, triageEpoch, queuedAt, _, named, _, _, answered⟩⟩ :=
      step.effect.absent id stored
    · simp [attemptEnds, SourceStore.budget, stored, missing]
    · exact absurd ⟨revisionId, triageEpoch, queuedAt, named, answered⟩ unscheduled
  | some job =>
    obtain ⟨later, row, found, moved, _⟩ := step.effect.present id job stored
    obtain rfl := Table.find?_key (ocrJob_eq_some.mp stored).1
    rw [budget_eq stored, budget_eq found]
    split
    case isTrue ends =>
      obtain ⟨running, ended⟩ := attemptEnds_eq_true stored found step ends
      have less := moved.budget_lt running ended
      omega
    case isFalse =>
      have bound := moved.budget_le unscheduled (known _ job stored)
      omega

/-- The job ends of a run, one entry for each. -/
def endsOf (id : IngestJobId) (s : SourceStore) (event : OcrEvent) : List Unit :=
  if attemptEnds s event id then [()] else []

/-- **What a run costs.** While the job is not scheduled again, the attempts that
end come out of its budget. -/
theorem budget_run {events : List OcrEvent} {log : List Unit}
    (reachable : (ocrMachine jobIdOf sha256).Reachable s)
    (logged : ((ocrMachine jobIdOf sha256).restrict fun s event =>
      ¬ Schedules jobIdOf s event id).Logs (endsOf id) s events log t) :
    log.length + t.budget id ≤ s.budget id := by
  induction logged with
  | nil => simp
  | @snoc t u events log event earlier last ih =>
    have here : (ocrMachine jobIdOf sha256).Reachable t :=
      earlier.run.of_restrict.reachable reachable
    have cost := budget_step (QueuedHaveBudget.inductive.holds here) last.1 last.2
    have length : (endsOf id t event).length = if attemptEnds t event id then 1 else 0 := by
      unfold endsOf
      split <;> rfl
    rw [List.length_append]
    omega

/-- A scheduled job has three attempts. -/
theorem budget_of_schedules (schedules : Schedules jobIdOf s event id)
    (step : OcrStep jobIdOf sha256 s event t) : t.budget id = 3 := by
  obtain ⟨revisionId, triageEpoch, queuedAt, rfl, answered⟩ := schedules
  obtain ⟨u, done⟩ := answer_eq_some_iff.mp answered
  cases step
  rw [final_of_ok done]
  generalize given : ((id, true) : IngestJobId × Bool) = answer at done
  cases enqueueOcrJob_ok done with
  | busy => cases given
  | requeued stored kind ended =>
    cases given
    have found : (s.requeueJob (jobIdOf revisionId triageEpoch) queuedAt).ocrJob
        (jobIdOf revisionId triageEpoch) = some (IngestJob.requeue _ queuedAt) :=
      ocrJob_eq_some.mpr ⟨by rw [requeueJob_job, if_pos rfl, stored, Option.map_some], kind⟩
    rw [budget_eq found]
    simp [IngestJob.budget, IngestJob.requeue]
  | @inserted documentId specs jobs specified created =>
    cases given
    have found : jobs.find? (jobIdOf revisionId triageEpoch) = some (newOcrJob _ _ _) :=
      Table.find?_inserted created
    show (((jobs.find? _).filter _).map _).getD 0 = 3
    rw [found]
    rfl

/-- **Claims stay within the budget.** A queued job is claimed without a look at
its attempts. Still, in every reachable queue a claim succeeds, and the job that it
hands out runs an attempt that the job may make. -/
theorem ocr_claims_within_budget (reachable : (ocrMachine jobIdOf sha256).Reachable s)
    (now : Int) :
    ∃ claimed, answer (claimOcrJob now) s = some claimed ∧ ∀ id ∈ claimed,
      ∃ job, (final (claimOcrJob now) s).ocrJob id = some job ∧ job.status = .running ∧
        job.attemptCount ≤ job.maxAttempts := by
  obtain ⟨claimed, _, t, done, -⟩ := claimOcrJob_run s now
  have answered := answer_eq_some_iff.mpr ⟨t, done⟩
  refine ⟨claimed, answered, ?_⟩
  rintro id ⟨⟩
  obtain ⟨job, stored, free, taken⟩ := claim_answer answered
  refine ⟨_, taken, rfl, ?_⟩
  have budget := QueuedHaveBudget.inductive.holds reachable id job stored
  simp only [IngestJob.claimable, Bool.and_eq_true, Bool.or_eq_true, decide_eq_true_eq] at free
  exact free.2.elim budget And.right

end Runs

/-- **The attempts of an OCR job.** The handle of an earlier claim is not current
after a later one, and two handles that are current together are equal. A report
whose attempt does not run changes nothing. An attempt settled as superseded while
its job has a current source is given back, and the attempts left are those before
the claim. After the job was scheduled,
at most three attempts end with a failure or a stale interruption before it is
scheduled again. -/
theorem ocr_attempts_accounted (jobIdOf : SourceRevisionId → String → IngestJobId)
    (sha256 : List UInt8 → ContentDigest) :
    (∀ (s : SourceStore) (first second : List OcrEvent) (t u v : SourceStore)
      (claimed : ClaimedOcrJob) (now : Int), HandleOf s claimed →
      (ocrMachine jobIdOf sha256).Run s first t →
      answer (claimOcrJob now) t = some (some claimed.job.id) →
      (ocrMachine jobIdOf sha256).step t (.claim now) u →
      (ocrMachine jobIdOf sha256).Run u second v → v.ocrClaimIsCurrent claimed = false) ∧
    (∀ (s s' : SourceStore) (first second : List OcrEvent) (t : SourceStore)
      (claimed other : ClaimedOcrJob), HandleOf s claimed → HandleOf s' other →
      (ocrMachine jobIdOf sha256).Run s first t → (ocrMachine jobIdOf sha256).Run s' second t →
      other.job.id = claimed.job.id → t.ocrClaimIsCurrent claimed = true →
      t.ocrClaimIsCurrent other = true → other = claimed) ∧
    (∀ (s : SourceStore) (events : List OcrEvent) (t u : SourceStore) (event : OcrEvent)
      (claimed : ClaimedOcrJob) (now : Int), HandleOf s claimed →
      (ocrMachine jobIdOf sha256).Run s events t → ¬ AttemptRuns t claimed →
      event.reports = some (claimed, now) → (ocrMachine jobIdOf sha256).step t event u → u = t) ∧
    (∀ (s t u v : SourceStore) (events : List OcrEvent) (event : OcrEvent)
      (claimed : ClaimedOcrJob) (now later : Int) (before : IngestJob),
      answer (claimOcrJob now) s = some (some claimed.job.id) →
      s.ocrJob claimed.job.id = some before →
      (ocrMachine jobIdOf sha256).step s (.claim now) t → HandleOf t claimed →
      (ocrMachine jobIdOf sha256).Run t events u → event.reports = some (claimed, later) →
      Supersedes sha256 u event → u.replaceable claimed.job.id = true →
      (ocrMachine jobIdOf sha256).step u event v →
      ∃ after, v.ocrJob claimed.job.id = some after ∧ after.status = .interrupted ∧
        after.maxAttempts - after.attemptCount = before.maxAttempts - before.attemptCount) ∧
    (∀ (s t u : SourceStore) (event : OcrEvent) (events : List OcrEvent) (log : List Unit)
      (id : IngestJobId), (ocrMachine jobIdOf sha256).Reachable s → Schedules jobIdOf s event id →
      (ocrMachine jobIdOf sha256).step s event t →
      ((ocrMachine jobIdOf sha256).restrict fun s event =>
        ¬ Schedules jobIdOf s event id).Logs (endsOf id) t events log u → log.length ≤ 3) := by
  refine ⟨?_, ?_, ?_, ?_, ?_⟩
  · intro s first second t u v claimed now handle run answered step run'
    rw [← Bool.not_eq_true]
    intro current
    obtain ⟨old, was, follows⟩ := run_jobsFollow run _ _ handle.stored
    obtain ⟨job, stored, _, taken⟩ := claim_answer answered
    obtain rfl : old = job := Option.some.inj (was.symm.trans stored)
    cases step
    obtain ⟨last, found, follows'⟩ := run_jobsFollow run' _ _ taken
    obtain ⟨_, _, _, bound⟩ := boundClaim_of_current current
    obtain ⟨_, kind, _, attempt, _⟩ := runsClaim_iff.mp bound.runs
    obtain rfl : last = _ := Option.some.inj
      (found.symm.trans (ocrJob_eq_some.mpr ⟨bound.stored, kind⟩))
    have grown := follows.attempts
    have grown' : old.attemptCount + 1 ≤ last.attemptCount := follows'.attempts
    omega
  · intro s s' first second t claimed other handle handle' run run' same current current'
    exact handles_eq_of_current handle (run_jobsFollow run) handle' (run_jobsFollow run') same
      current current'
  · intro s events t u event claimed now handle run stale reports step
    refine report_of_not_running (fun job found live => stale ?_) reports step
    obtain ⟨later, there, follows⟩ := run_jobsFollow run _ _ handle.stored
    obtain rfl : later = job := Option.some.inj (there.symm.trans found)
    obtain rfl := follows.running live.2 live.1
    exact ⟨live.1, found⟩
  · intro s t u v events event claimed now later before answered was step handle run reports
      supersedes replaceable step'
    obtain ⟨job, stored, _, taken⟩ := claim_answer answered
    obtain rfl : before = job := Option.some.inj (was.symm.trans stored)
    cases step
    have row : claimed.job = before.claim now := Option.some.inj (handle.stored.symm.trans taken)
    obtain ⟨_, settles⟩ := supersedes.settles reports step'
    obtain ⟨job, found, running, attempt, after⟩ := settles.givesBack replaceable
    obtain ⟨other, there, follows⟩ := run_jobsFollow run _ _ handle.stored
    obtain rfl : job = other := Option.some.inj (found.symm.trans there)
    obtain rfl := follows.running attempt running
    refine ⟨_, after, rfl, ?_⟩
    rw [row]
    show before.maxAttempts + 1 - (before.attemptCount + 1) = _
    omega
  · intro s t u event events log id reachable schedules step logged
    have bound := budget_run (reachable.next step) logged
    rw [budget_of_schedules schedules step] at bound
    omega

/-- The runs in which the sample job is not scheduled again. -/
def sampleUnscheduled : Machine SourceStore OcrEvent :=
  sampleOcrMachine.restrict fun s event =>
    ¬ Schedules (fun _ _ => sampleOcrJobId) s event sampleOcrJobId

def sampleOcrClaimed : SourceStore := final (claimOcrJob 20) sampleOcrQueued

def sampleOcrStopped : SourceStore := final (interruptStaleJobs 90 50) sampleOcrClaimed

/-- The handle of the sample claim. -/
def sampleOcrHandle : ClaimedOcrJob :=
  ((sampleOcrClaimed.ocrJob sampleOcrJobId).bind sampleOcrClaimed.claimedOcrJobFromJob).get
    (by decide +kernel)

/-- The sample job is claimed by a worker that goes away, or whose claim is settled
as superseded. -/
theorem ocr_attempts_accounted_of_queued :
    (∃ log, sampleUnscheduled.Logs (endsOf sampleOcrJobId) sampleOcrQueued
        [.claim 20, .interrupt 90 50] log sampleOcrStopped ∧ log = [()] ∧ log.length ≤ 3) ∧
    ∃ before after, sampleOcrQueued.ocrJob sampleOcrJobId = some before ∧
      (final (discardOcrClaimForSourceChange sampleOcrHandle 30) sampleOcrClaimed).ocrJob
        sampleOcrJobId = some after ∧
      after.status = .interrupted ∧
      after.maxAttempts - after.attemptCount = before.maxAttempts - before.attemptCount := by
  have scheduled : Schedules (fun _ _ => sampleOcrJobId) sampleScanned
      (.enqueue sampleRevision.id "ocr_v1" 10) sampleOcrJobId := by
    refine ⟨sampleRevision.id, "ocr_v1", 10, rfl, ?_⟩
    decide +kernel
  have claimed : sampleUnscheduled.step sampleOcrQueued (.claim 20) sampleOcrClaimed :=
    ⟨by rintro ⟨_, _, _, ⟨⟩, _⟩, OcrStep.claim 20⟩
  have stopped : sampleUnscheduled.step sampleOcrClaimed (.interrupt 90 50) sampleOcrStopped :=
    ⟨by rintro ⟨_, _, _, ⟨⟩, _⟩, OcrStep.interrupt 90 50⟩
  have begun : sampleUnscheduled.Logs (endsOf sampleOcrJobId) sampleOcrQueued [] []
      sampleOcrQueued := .nil _
  have logged := (begun.snoc claimed).snoc stopped
  obtain ⟨-, -, -, givenBack, bounded⟩ :=
    ocr_attempts_accounted (fun _ _ => sampleOcrJobId) sampleHash
  constructor
  · refine ⟨_, logged, by decide +kernel, ?_⟩
    exact bounded _ _ _ _ _ _ _ (.start ⟨fun _ => rfl, rfl⟩) scheduled
      (OcrStep.enqueue sampleRevision.id "ocr_v1" 10) logged
  · have taken : answer (claimOcrJob 20) sampleOcrQueued = some (some sampleOcrHandle.job.id) := by
      decide +kernel
    have named : sampleOcrHandle.job.id = sampleOcrJobId := by decide +kernel
    have settled : answer (discardOcrClaimForSourceChange sampleOcrHandle 30) sampleOcrClaimed ≠
        none := by decide +kernel
    obtain ⟨before, stored, -⟩ := claim_answer taken
    obtain ⟨after, there, interrupted, same⟩ := givenBack _ _ _ _ [] (.settle sampleOcrHandle 30)
      sampleOcrHandle 20 30 before taken stored (OcrStep.claim 20)
      ⟨by decide +kernel, by decide +kernel⟩ (.nil _) rfl settled (by decide +kernel)
      (OcrStep.settle sampleOcrHandle 30)
    rw [named] at stored there
    exact ⟨before, after, stored, there, interrupted, same⟩

theorem ocr_claims_within_budget_of_queued :
    ∃ job, sampleOcrClaimed.ocrJob sampleOcrJobId = some job ∧
      job.attemptCount ≤ job.maxAttempts := by
  have taken : answer (claimOcrJob 20) sampleOcrQueued = some (some sampleOcrJobId) := by
    decide +kernel
  obtain ⟨claimed, answered, each⟩ := ocr_claims_within_budget sampleOcrQueued_reachable 20
  cases taken.symm.trans answered
  obtain ⟨job, stored, -, within⟩ := each _ rfl
  exact ⟨job, stored, within⟩

end ResumeIr.MetaStore
