import ResumeIr.MetaStore.Publication.Effects
import ResumeIr.MetaStore.Sources.OcrQueue

/-!
# What each operation does to the OCR jobs

One lemma for each operation on the queue says when it succeeds and what it
leaves of the jobs, the rows of discarded jobs and the fences.

The transaction of a claim never fails. It first completes every pending job
that has a row of its own, so the jobs it discards afterwards have none, and
inserting one cannot fail.
-/

namespace ResumeIr.MetaStore

open CoreDomain Foundation Fallible

/-! ## Sources -/

/-- The tables that say where the source of a job is have not changed. -/
structure SameSources (s t : SourceStore) : Prop where
  triages : t.triages = s.triages
  revisions : t.db.facts.sourceRevisions = s.db.facts.sourceRevisions
  documents : t.db.documents = s.db.documents
  occurrences : t.occurrences = s.occurrences
  roots : t.roots = s.roots
  deletions : t.deletions = s.deletions
  specs : t.db.ocr.specs = s.db.ocr.specs

namespace SameSources

variable {s t u : SourceStore}

theorem refl (s : SourceStore) : SameSources s s :=
  ⟨rfl, rfl, rfl, rfl, rfl, rfl, rfl⟩

theorem trans (first : SameSources s t) (second : SameSources t u) : SameSources s u where
  triages := second.triages.trans first.triages
  revisions := second.revisions.trans first.revisions
  documents := second.documents.trans first.documents
  occurrences := second.occurrences.trans first.occurrences
  roots := second.roots.trans first.roots
  deletions := second.deletions.trans first.deletions
  specs := second.specs.trans first.specs

theorem awaitingDocument (same : SameSources s t) (revisionId : SourceRevisionId)
    (triageEpoch : String) :
    t.awaitingDocument revisionId triageEpoch = s.awaitingDocument revisionId triageEpoch := by
  unfold SourceStore.awaitingDocument SourceStore.triagedDocument
  rw [same.triages, same.revisions, same.documents]

theorem claimCandidate (same : SameSources s t) (job : IngestJob) :
    t.claimCandidate job = s.claimCandidate job := by
  unfold SourceStore.claimCandidate SourceStore.rankedPlace SourceStore.presentPlaces
    ImportStore.deletionPhase
  simp only [same.awaitingDocument, same.occurrences, same.roots, same.deletions, same.specs]

theorem sourceIsCurrent (same : SameSources s t) (job : IngestJob) :
    t.sourceIsCurrent job = s.sourceIsCurrent job := by
  unfold SourceStore.sourceIsCurrent
  rw [same.claimCandidate]

end SameSources

variable {job : IngestJob}

theorem claimCandidate_eq_some {s : SourceStore} {candidate : ClaimCandidate}
    (found : s.claimCandidate job = some candidate) :
    candidate.jobId = job.id ∧ candidate.documentId = job.documentId ∧
      ∃ spec document, s.db.ocr.specs.find? job.id = some spec ∧
        s.awaitingDocument spec.sourceRevisionId spec.triageEpoch = some document ∧
        document.id = job.documentId := by
  obtain ⟨spec, specified, found⟩ := Option.bind_eq_some_iff.mp found
  obtain ⟨document, awaited, found⟩ := Option.bind_eq_some_iff.mp found
  obtain ⟨awaited, named⟩ := Option.filter_eq_some_iff.mp awaited
  obtain ⟨place, _, found⟩ := Option.bind_eq_some_iff.mp found
  cases found
  exact ⟨rfl, rfl, spec, document, specified, awaited, by simpa using named⟩

theorem not_sourceIsLost {s : SourceStore} (current : s.sourceIsCurrent job = true) :
    s.sourceIsLost job = false := by
  obtain ⟨candidate, found, _⟩ := (Option.any_eq_true _ _).mp current
  obtain ⟨_, _, spec, document, specified, awaited, named⟩ := claimCandidate_eq_some found
  simp [SourceStore.sourceIsLost, specified, awaited, named]

/-! ## Completing what was discarded -/

section Sweep

variable {s : SourceStore} {now : Int} {id : IngestJobId} {job : IngestJob}

@[simp] theorem discard_claimable (job : IngestJob) (now : Int) :
    (job.discard now).claimable = false := by
  simp [IngestJob.claimable, IngestJob.discard, IngestJob.finish]

theorem pending_of_claimable (free : job.claimable = true) : job.pending = true := by
  unfold IngestJob.claimable at free
  unfold IngestJob.pending
  simp only [Bool.and_eq_true, Bool.or_eq_true] at free ⊢
  tauto

theorem kind_of_claimable (free : job.claimable = true) : job.kind = .ocrDocument := by
  unfold IngestJob.claimable at free
  simp only [Bool.and_eq_true, decide_eq_true_eq] at free
  exact free.1

/-- A job whose row is new has no source, and one whose row is old had it before. -/
theorem sweptDiscards_isSome (id : IngestJobId) :
    ((s.sweptDiscards now).find? id).isSome =
      (s.discarded id || (s.job id).any fun job =>
        job.kind = .ocrDocument && job.pending && s.sourceIsLost job) := by
  unfold SourceStore.sweptDiscards
  rw [Table.find?_insertAll_isSome, List.any_map, Bool.eq_iff_iff]
  simp only [Bool.or_eq_true, List.any_eq_true, List.mem_filter, Function.comp_apply,
    decide_eq_true_eq, Option.any_eq_true]
  refine or_congr_right ⟨?_, ?_⟩
  · rintro ⟨job, ⟨member, lost⟩, named⟩
    exact ⟨job, Table.find?_eq_some_iff.mpr ⟨member, named⟩, lost⟩
  · rintro ⟨job, stored, lost⟩
    obtain ⟨member, named⟩ := Table.find?_eq_some_iff.mp stored
    exact ⟨job, ⟨member, lost⟩, named⟩

theorem isSwept_iff (stored : s.job id = some job) :
    s.isSwept now job = true ↔
      job.pending = true ∧
        (s.discarded id = true ∨ job.kind = .ocrDocument ∧ s.sourceIsLost job = true) := by
  unfold SourceStore.isSwept
  rw [Table.find?_key stored, sweptDiscards_isSome, stored]
  simp only [Option.any_some, Bool.and_eq_true, Bool.or_eq_true, decide_eq_true_eq]
  tauto

theorem sweep_job (id : IngestJobId) :
    (s.sweep now).job id =
      (s.job id).map fun job => if s.isSwept now job then job.discard now else job := by
  refine Table.find?_of_rows_eq_map rfl (fun job => ?_) id
  split <;> rfl

/-- The jobs that a claim may start and discard have no row yet. -/
def Clean (s : SourceStore) : Prop :=
  ∀ id job, s.job id = some job → job.claimable = true → s.discarded id = false

theorem sweep_clean (s : SourceStore) (now : Int) : Clean (s.sweep now) := by
  intro id job stored free
  rw [sweep_job] at stored
  obtain ⟨old, found, rfl⟩ := Option.map_eq_some_iff.mp stored
  split at free
  case isTrue => simp at free
  case isFalse kept =>
    rw [← Bool.not_eq_true]
    intro discarded
    refine kept ?_
    unfold SourceStore.isSwept
    rw [pending_of_claimable free, Table.find?_key found]
    exact discarded

theorem discardStaleOcrJobs_run (s : SourceStore) (now : Int) :
    ∃ n, (discardStaleOcrJobs now).run s = .ok n (s.sweep now) :=
  ⟨_, rfl⟩

end Sweep

/-! ## Discarding what cannot be claimed -/

/-- Some jobs that could be claimed, but have no current source, are discarded. -/
structure Culls (now : Int) (s t : SourceStore) : Prop where
  sources : SameSources s t
  fences : t.fences = s.fences
  queue : t.queue = s.queue
  absent : ∀ id, s.job id = none → t.job id = none ∧ t.discarded id = s.discarded id
  jobs : ∀ id job, s.job id = some job →
    (t.job id = some job ∧ t.discarded id = s.discarded id) ∨
      (job.claimable = true ∧ s.sourceIsCurrent job = false ∧
        t.job id = some (job.discard now) ∧ t.discarded id = true)

namespace Culls

variable {now : Int} {s t u : SourceStore}

theorem refl (now : Int) (s : SourceStore) : Culls now s s :=
  ⟨.refl s, rfl, rfl, fun _ absent => ⟨absent, rfl⟩, fun _ _ stored => .inl ⟨stored, rfl⟩⟩

theorem trans (first : Culls now s t) (second : Culls now t u) : Culls now s u := by
  refine ⟨first.sources.trans second.sources, second.fences.trans first.fences,
    second.queue.trans first.queue, fun id absent => ?_, fun id job stored => ?_⟩
  · obtain ⟨still, same⟩ := first.absent id absent
    obtain ⟨gone, kept⟩ := second.absent id still
    exact ⟨gone, kept.trans same⟩
  · obtain ⟨still, same⟩ | ⟨free, lost, gone, row⟩ := first.jobs id job stored
    · obtain ⟨kept, same'⟩ | ⟨free, lost, gone, row⟩ := second.jobs id job still
      · exact .inl ⟨kept, same'.trans same⟩
      · exact .inr ⟨free, first.sources.sourceIsCurrent job ▸ lost, gone, row⟩
    · obtain ⟨kept, same⟩ | ⟨free', _⟩ := second.jobs id _ gone
      · exact .inr ⟨free, lost, kept, same.trans row⟩
      · simp at free'

theorem clean (culls : Culls now s t) (known : Clean s) : Clean t := by
  intro id job stored free
  cases was : s.job id with
  | none =>
    rw [(culls.absent id was).1] at stored
    cases stored
  | some old =>
    obtain ⟨still, same⟩ | ⟨_, _, gone, _⟩ := culls.jobs id old was
    · rw [still] at stored
      cases stored
      rw [same]
      exact known id job was free
    · rw [gone] at stored
      cases stored
      simp at free

end Culls

section Discards

variable {s : SourceStore} {now : Int} {id : IngestJobId} {job : IngestJob}
  {discards : Table OcrJobDiscard.ingestJobId}

theorem withDiscard_job (other : IngestJobId) :
    (s.withDiscard id now discards).job other =
      if other = id then (s.job id).map (·.discard now) else s.job other :=
  Table.find?_of_rows_update (f := fun job : IngestJob => job.discard now) rfl (fun _ => rfl) other

theorem withDiscard_discarded (inserted : s.db.ocr.discards.insert? ⟨id, now⟩ = some discards)
    (other : IngestJobId) :
    (s.withDiscard id now discards).discarded other = (decide (id = other) || s.discarded other) := by
  show (discards.find? other).isSome = _
  rw [Table.find?_insert? inserted]
  by_cases same : id = other
  · simp [same]
  · simp [same, SourceStore.discarded]

theorem recordDiscard_run (now : Int) (fresh : s.discarded id = false) :
    ∃ discards, s.db.ocr.discards.insert? ⟨id, now⟩ = some discards ∧
      (recordDiscard id now).run s = .ok () (s.withDiscard id now discards) := by
  have absent : s.db.ocr.discards.find? (OcrJobDiscard.mk id now).ingestJobId = none := by
    simpa [SourceStore.discarded] using fresh
  obtain ⟨discards, inserted⟩ := Table.insert?_isSome absent
  refine ⟨discards, inserted, ?_⟩
  unfold recordDiscard
  rw [run_get_bind, inserted]
  rfl

theorem recordDiscard_ok {t : SourceStore} {u : Unit}
    (done : (recordDiscard id now).run s = .ok u t) :
    ∃ discards, s.db.ocr.discards.insert? ⟨id, now⟩ = some discards ∧
      t = s.withDiscard id now discards := by
  rw [recordDiscard, run_get_bind, run_demand_bind_eq_ok] at done
  obtain ⟨discards, inserted, written⟩ := done
  cases written
  exact ⟨discards, inserted, rfl⟩

theorem culls_withDiscard (inserted : s.db.ocr.discards.insert? ⟨id, now⟩ = some discards)
    (stored : s.job id = some job) (free : job.claimable = true)
    (lost : s.sourceIsCurrent job = false) : Culls now s (s.withDiscard id now discards) := by
  refine ⟨⟨rfl, rfl, rfl, rfl, rfl, rfl, rfl⟩, rfl, rfl, fun other absent => ?_,
    fun other row found => ?_⟩
  · have differs : other ≠ id := by
      rintro rfl
      rw [stored] at absent
      cases absent
    rw [withDiscard_job, if_neg differs, withDiscard_discarded inserted]
    simp [absent, Ne.symm differs]
  · by_cases same : other = id
    · subst same
      obtain rfl : job = row := Option.some.inj (stored.symm.trans found)
      refine .inr ⟨free, lost, ?_, ?_⟩
      · rw [withDiscard_job, if_pos rfl, stored, Option.map_some]
      · simp [withDiscard_discarded inserted]
    · refine .inl ⟨?_, ?_⟩
      · rw [withDiscard_job, if_neg same, found]
      · simp [withDiscard_discarded inserted, Ne.symm same]

/-- Every job of a batch without a current source is discarded. -/
theorem discardUnclaimableOcrJobs_run {ids : List IngestJobId} (distinct : ids.Nodup)
    (known : Clean s)
    (each : ∀ id ∈ ids, ∃ job, s.job id = some job ∧ job.claimable = true ∧
      s.sourceIsCurrent job = false) :
    ∃ t, (discardUnclaimableOcrJobs now ids).run s = .ok ids.length t ∧ Culls now s t := by
  induction ids generalizing s with
  | nil => exact ⟨s, rfl, .refl now s⟩
  | cons id rest ih =>
    obtain ⟨job, stored, free, lost⟩ := each id List.mem_cons_self
    obtain ⟨discards, inserted, recorded⟩ := recordDiscard_run now (known id job stored free)
    have culls := culls_withDiscard inserted stored free lost
    -- the other jobs of the batch are as they were
    have others : ∀ other ∈ rest, ∃ job, (s.withDiscard id now discards).job other = some job ∧
        job.claimable = true ∧ (s.withDiscard id now discards).sourceIsCurrent job = false := by
      intro other member
      obtain ⟨row, found, free, lost⟩ := each other (List.mem_cons_of_mem _ member)
      have differs : other ≠ id := fun same => (List.nodup_cons.mp distinct).1 (same ▸ member)
      refine ⟨row, ?_, free, culls.sources.sourceIsCurrent row ▸ lost⟩
      rw [withDiscard_job, if_neg differs, found]
    obtain ⟨t, done, later⟩ := ih (List.nodup_cons.mp distinct).2 (culls.clean known) others
    refine ⟨t, ?_, culls.trans later⟩
    rw [discardUnclaimableOcrJobs, run_get_bind, stored, Option.any_some, free, if_pos rfl,
      run_bind_of_ok recorded, run_bind_of_ok done]
    rfl

end Discards

/-! ## Claims -/

section Claims

variable {s t u : SourceStore} {now : Int}

theorem mem_claimCandidateJobs (member : job ∈ s.claimCandidateJobs) :
    s.job job.id = some job ∧ job.claimable = true := by
  have sorted := List.mem_of_mem_take member
  rw [List.mem_insertionSort, List.mem_filter, List.mem_reverse] at sorted
  exact ⟨Table.mem_iff_find?.mp sorted.1, sorted.2⟩

theorem claimCandidateJobs_nodup (s : SourceStore) :
    (s.claimCandidateJobs.map (·.id)).Nodup := by
  unfold SourceStore.claimCandidateJobs
  rw [List.map_take]
  refine List.Nodup.sublist (List.take_sublist _ _) ?_
  refine ((List.perm_insertionSort _ _).map _).nodup_iff.mpr ?_
  refine List.Nodup.sublist (List.filter_sublist.map _) ?_
  rw [List.map_reverse, List.nodup_reverse]
  exact s.db.ocr.jobs.keyed

/-- A job whose source is current, with the candidate that says so. -/
structure Selects (s : SourceStore) (candidate : ClaimCandidate) (job : IngestJob) : Prop where
  stored : s.job candidate.jobId = some job
  free : job.claimable = true
  found : s.claimCandidate job = some candidate
  current : candidate.isCurrent = true

theorem selectClaimCandidate_run (rounds : Nat) (known : Clean s) :
    ∃ selected t, (selectClaimCandidate now rounds).run s = .ok selected t ∧ Culls now s t ∧
      ∀ candidate, selected = some candidate → ∃ job, Selects t candidate job := by
  induction rounds generalizing s with
  | zero => exact ⟨none, s, rfl, .refl now s, nofun⟩
  | succ rounds ih =>
    rw [selectClaimCandidate, run_get_bind]
    by_cases empty : s.claimCandidateJobs = []
    · rw [if_pos empty]
      exact ⟨none, s, rfl, .refl now s, nofun⟩
    rw [if_neg empty]
    cases found : (s.claimCandidateJobs.filterMap s.claimCandidate).find? (·.isCurrent) with
    | some candidate =>
      refine ⟨some candidate, s, rfl, .refl now s, ?_⟩
      rintro _ ⟨⟩
      obtain ⟨job, member, joined⟩ := List.mem_filterMap.mp (List.mem_of_find?_eq_some found)
      obtain ⟨stored, free⟩ := mem_claimCandidateJobs member
      refine ⟨job, ?_, free, joined, List.find?_some found⟩
      rw [(claimCandidate_eq_some joined).1]
      exact stored
    | none =>
      have each : ∀ id ∈ s.claimCandidateJobs.map (·.id), ∃ job, s.job id = some job ∧
          job.claimable = true ∧ s.sourceIsCurrent job = false := by
        intro id member
        obtain ⟨job, listed, rfl⟩ := List.mem_map.mp member
        obtain ⟨stored, free⟩ := mem_claimCandidateJobs listed
        refine ⟨job, stored, free, (Option.any_eq_false _ _).mpr fun candidate joined => ?_⟩
        have missed := List.find?_eq_none.mp found candidate
          (List.mem_filterMap.mpr ⟨job, listed, joined⟩)
        simpa using missed
      obtain ⟨t, discarded, culls⟩ :=
        discardUnclaimableOcrJobs_run (claimCandidateJobs_nodup s) known each
      obtain ⟨selected, u, done, later, current⟩ := ih (culls.clean known)
      refine ⟨selected, u, ?_, culls.trans later, current⟩
      rw [List.length_map] at discarded
      rw [run_bind_of_ok discarded]
      exact run_require_bind_eq_ok.mpr ⟨rfl, done⟩

/-- What the transaction of a claim does after the discards. -/
inductive Claims (now : Int) (s : SourceStore) : Option IngestJobId → SourceStore → Prop where
  | nothing : Claims now s none s
  | claimed {candidate : ClaimCandidate} {job : IngestJob} (selects : Selects s candidate job) :
      Claims now s (some candidate.jobId) (s.startClaim candidate job now)

theorem claimNext_run (now : Int) (known : Clean s) :
    ∃ claimed t u, (claimNext now).run s = .ok claimed u ∧ Culls now s t ∧ Claims now t claimed u := by
  obtain ⟨selected, t, done, culls, current⟩ := selectClaimCandidate_run claimBatchLimit known
  rw [claimNext, run_bind_of_ok done]
  cases selected with
  | none => exact ⟨none, t, t, rfl, culls, .nothing⟩
  | some candidate =>
    obtain ⟨job, selects⟩ := current candidate rfl
    refine ⟨some candidate.jobId, t, _, ?_, culls, .claimed selects⟩
    have document := (claimCandidate_eq_some selects.found).2.1
    rw [run_get_bind, selects.stored, Option.filter_some, document, selects.free]
    simp only
    rfl

/-- **A claim never fails.** It completes the pending jobs that were discarded
before, discards those it finds without a current source, and takes one that has
it. -/
theorem claimOcrJob_run (s : SourceStore) (now : Int) :
    ∃ claimed t u, (claimOcrJob now).run s = .ok claimed u ∧ Culls now (s.sweep now) t ∧
      Claims now t claimed u := by
  obtain ⟨count, swept⟩ := discardStaleOcrJobs_run s now
  obtain ⟨claimed, t, u, done, culls, claims⟩ := claimNext_run now (sweep_clean s now)
  refine ⟨claimed, t, u, run_transaction_of_ok ?_, culls, claims⟩
  rw [run_bind_of_ok swept, done]

theorem startClaim_job {candidate : ClaimCandidate} (id : IngestJobId) :
    (s.startClaim candidate job now).job id =
      if id = candidate.jobId then (s.job candidate.jobId).map (·.claim now) else s.job id :=
  Table.find?_of_rows_update (f := fun job : IngestJob => job.claim now) rfl (fun _ => rfl) id

theorem awaitingDocument_revision {revisionId : SourceRevisionId} {triageEpoch : String}
    {document : Document} (awaited : s.awaitingDocument revisionId triageEpoch = some document) :
    ∃ revision, s.db.facts.sourceRevisions.find? revisionId = some revision := by
  obtain ⟨triaged, _⟩ := Option.filter_eq_some_iff.mp awaited
  obtain ⟨_, _, triaged⟩ := Option.bind_eq_some_iff.mp triaged
  obtain ⟨revision, found, _⟩ := Option.bind_eq_some_iff.mp triaged
  exact ⟨revision, found⟩

/-- The handle of a job that was just claimed can be read. -/
theorem Selects.handle {candidate : ClaimCandidate} (selects : Selects s candidate job)
    (now : Int) :
    ∃ claimed, (s.startClaim candidate job now).claimedOcrJobFromJob (job.claim now) =
      some claimed := by
  obtain ⟨named, _, spec, document, specified, awaited, _⟩ := claimCandidate_eq_some selects.found
  obtain ⟨revision, found⟩ := awaitingDocument_revision awaited
  have same : (job.claim now).id = candidate.jobId := named.symm
  have kind : (job.claim now).kind = .ocrDocument :=
    (kind_of_claimable selects.free : job.kind = _)
  refine ⟨⟨job.claim now, spec.sourceRevisionId, spec.triageEpoch, revision.contentHash.asStr⟩, ?_⟩
  unfold SourceStore.claimedOcrJobFromJob
  rw [same, startClaim_job, if_pos rfl, selects.stored, Option.map_some, Option.filter_some,
    if_pos (decide_eq_true kind)]
  show (s.db.ocr.specs.find? candidate.jobId).bind _ = _
  rw [named, specified]
  show (s.db.facts.sourceRevisions.find? spec.sourceRevisionId).bind _ = _
  rw [found]
  rfl

theorem claimNextOcrJob_run (s : SourceStore) (now : Int) :
    ∃ claimed t, (claimNextOcrJob now).run s = .ok claimed t := by
  obtain ⟨claimed, t, u, done, culls, claims⟩ := claimOcrJob_run s now
  rw [claimNextOcrJob, run_bind_of_ok done]
  cases claims with
  | nothing => exact ⟨none, t, rfl⟩
  | @claimed candidate job selects =>
    obtain ⟨claimed, handle⟩ := selects.handle now
    refine ⟨some claimed, t.startClaim candidate job now, ?_⟩
    refine run_demand_bind_eq_ok.mpr ⟨job.claim now, ?_, ?_⟩
    · rw [startClaim_job, if_pos rfl, selects.stored, Option.map_some]
    · exact run_demand_bind_eq_ok.mpr ⟨claimed, handle, rfl⟩

end Claims

/-! ## The end of an attempt -/

variable {failure : OcrAttemptFailure}

section Attempts

variable {s t : SourceStore} {claimed : ClaimedOcrJob} {now : Int}

theorem runsClaim_iff :
    runsClaim claimed job = true ↔
      job.documentId = claimed.job.documentId ∧ job.kind = .ocrDocument ∧
        job.status = .running ∧ job.attemptCount = claimed.job.attemptCount ∧
        job.maxAttempts = claimed.job.maxAttempts := by
  simp [runsClaim, and_assoc]

theorem giveBack_job {id : IngestJobId} (other : IngestJobId) :
    (s.giveBack id now).job other =
      if other = id then (s.job id).map (·.interrupt now) else s.job other :=
  Table.find?_of_rows_update (f := fun job : IngestJob => job.interrupt now) rfl (fun _ => rfl)
    other

/-- What settling a claim does: the job is given back if it has a current source;
otherwise it is discarded if the claim runs, and left alone if not. -/
inductive Settles (s : SourceStore) (claimed : ClaimedOcrJob) (now : Int) :
    Bool → SourceStore → Prop where
  | untouched (kept : s.replaceable claimed.job.id = false) : Settles s claimed now false s
  | givenBack {job : IngestJob} (stored : s.job claimed.job.id = some job)
      (kind : job.kind = .ocrDocument) (running : job.status = .running)
      (attempt : job.attemptCount = claimed.job.attemptCount)
      (current : s.sourceIsCurrent job = true) :
      Settles s claimed now false (s.giveBack claimed.job.id now)
  | discarded {job : IngestJob} {discards : Table OcrJobDiscard.ingestJobId}
      (stored : s.job claimed.job.id = some job) (runs : runsClaim claimed job = true)
      (lost : s.sourceIsCurrent job = false)
      (inserted : s.db.ocr.discards.insert? ⟨claimed.job.id, now⟩ = some discards) :
      Settles s claimed now true (s.withDiscard claimed.job.id now discards)

theorem replaceable_eq {id : IngestJobId} (stored : s.job id = some job)
    (kind : job.kind = .ocrDocument) (running : job.status = .running) :
    s.replaceable id = s.sourceIsCurrent job := by
  simp [SourceStore.replaceable, stored, kind, running]

theorem settleSupersededClaim_ok {discarded : Bool}
    (done : (settleSupersededClaim claimed now).run s = .ok discarded t) :
    Settles s claimed now discarded t := by
  rw [settleSupersededClaim, run_get_bind] at done
  split at done
  case isTrue replaced =>
    rw [run_require_bind_eq_ok] at done
    obtain ⟨matched, written⟩ := done
    cases written
    obtain ⟨job, stored, matched⟩ := (Option.any_eq_true _ _).mp matched
    obtain ⟨other, found, replaced⟩ := (Option.any_eq_true _ _).mp replaced
    obtain rfl : job = other := Option.some.inj (stored.symm.trans found)
    simp only [Bool.and_eq_true, decide_eq_true_eq] at matched replaced
    exact .givenBack stored replaced.1.1 matched.1.1 matched.1.2 replaced.2
  case isFalse kept =>
    rw [discardOcrClaim, run_get_bind] at done
    split at done
    case isTrue runs =>
      obtain ⟨_, r, recorded, last⟩ := run_bind_eq_ok.mp done
      cases last
      obtain ⟨discards, inserted, rfl⟩ := recordDiscard_ok recorded
      obtain ⟨job, stored, runs⟩ := (Option.any_eq_true _ _).mp (Bool.and_eq_true_iff.mp runs).1
      obtain ⟨_, kind, running, _⟩ := runsClaim_iff.mp runs
      rw [replaceable_eq stored kind running, Bool.not_eq_true] at kept
      exact .discarded stored runs kept inserted
    case isFalse =>
      cases done
      exact .untouched (Bool.not_eq_true _ ▸ kept)

/-- Settling a claim can fail to insert a row only for a running job that has one. -/
theorem settleSupersededClaim_error {e : MetaStoreError}
    (failed : (settleSupersededClaim claimed now).run s = .error e t) :
    e = .invalidTransition ∨
      ∃ job, s.job claimed.job.id = some job ∧ job.kind = .ocrDocument ∧ job.status = .running ∧
        s.discarded claimed.job.id = true := by
  rw [settleSupersededClaim, run_get_bind] at failed
  split at failed
  case isTrue =>
    obtain refused | ⟨_, _, _, stopped⟩ := run_bind_eq_error.mp failed
    · exact .inl (run_require_eq_error.mp refused).2.1.symm
    · cases stopped
  case isFalse =>
    rw [discardOcrClaim, run_get_bind] at failed
    split at failed
    case isTrue runs =>
      obtain ⟨job, stored, runs⟩ := (Option.any_eq_true _ _).mp (Bool.and_eq_true_iff.mp runs).1
      obtain ⟨_, kind, running, _⟩ := runsClaim_iff.mp runs
      refine .inr ⟨job, stored, kind, running, ?_⟩
      by_contra fresh
      obtain ⟨_, _, recorded⟩ := recordDiscard_run now (Bool.not_eq_true _ ▸ fresh)
      rw [run_bind_of_ok recorded] at failed
      cases failed
    case isFalse => cases failed

/-- What a current claim has been joined with: the running job, its
specification and the content of its document. -/
structure BoundClaim (s : SourceStore) (claimed : ClaimedOcrJob) (job : IngestJob)
    (spec : OcrJobSpec) (document : Document) : Prop where
  stored : s.job claimed.job.id = some job
  runs : runsClaim claimed job = true
  specified : s.db.ocr.specs.find? claimed.job.id = some spec
  revision : spec.sourceRevisionId = claimed.sourceRevisionId
  epoch : spec.triageEpoch = claimed.triageEpoch
  triaged : s.triagedDocument spec.sourceRevisionId spec.triageEpoch = some document
  content : document.contentHash = some claimed.sourceFingerprint

theorem boundClaim_of_current (current : s.ocrClaimIsCurrent claimed = true) :
    ∃ job spec document, BoundClaim s claimed job spec document := by
  obtain ⟨binding, bound, _⟩ := (Option.any_eq_true _ _).mp current
  obtain ⟨bound, matched⟩ := Option.filter_eq_some_iff.mp bound
  obtain ⟨fence, _, bound⟩ := Option.bind_eq_some_iff.mp bound
  obtain ⟨job, stored, bound⟩ := Option.bind_eq_some_iff.mp bound
  obtain ⟨spec, specified, bound⟩ := Option.bind_eq_some_iff.mp bound
  obtain ⟨document, triaged, bound⟩ := Option.bind_eq_some_iff.mp bound
  obtain ⟨occurrence, _, bound⟩ := Option.bind_eq_some_iff.mp bound
  obtain ⟨root, _, bound⟩ := Option.bind_eq_some_iff.mp bound
  cases bound
  simp only [Bool.and_eq_true, decide_eq_true_eq] at matched
  obtain ⟨⟨⟨⟨⟨⟨⟨⟨named, kind⟩, running⟩, attempt⟩, limit⟩, _⟩, content⟩, revision⟩, epoch⟩ := matched
  exact ⟨job, spec, document, (Option.filter_eq_some_iff.mp stored).1,
    runsClaim_iff.mpr ⟨named, kind, running, attempt, limit⟩,
    (Option.filter_eq_some_iff.mp specified).1, revision, epoch,
    (Option.filter_eq_some_iff.mp triaged).1, content⟩

/-- What a reported failure does: the attempt fails if the claim is current, and
is settled otherwise. -/
inductive Fails (s : SourceStore) (claimed : ClaimedOcrJob) (failure : OcrAttemptFailure)
    (now : Int) : OcrAttemptFailureOutcome → SourceStore → Prop where
  | failed {job : IngestJob} (stored : s.job claimed.job.id = some job)
      (runs : runsClaim claimed job = true) :
      Fails s claimed failure now
        (if failsPermanently claimed failure then .failedPermanent else .retryable)
        (s.recordFailure claimed failure now)
  | settled {discarded : Bool} {t : SourceStore} (settles : Settles s claimed now discarded t) :
      Fails s claimed failure now .superseded t

theorem finishOcrAttemptFailure_ok {outcome : OcrAttemptFailureOutcome}
    (done : (finishOcrAttemptFailure claimed failure now).run s = .ok outcome t) :
    Fails s claimed failure now outcome t := by
  rw [finishOcrAttemptFailure, run_require_bind_eq_ok, run_transaction_eq_ok, run_get_bind] at done
  obtain ⟨_, done⟩ := done
  split at done
  case isTrue current =>
    obtain ⟨job, _, _, bound⟩ := boundClaim_of_current current
    rw [bound.stored, Option.any_some, if_pos bound.runs] at done
    cases done
    exact .failed bound.stored bound.runs
  case isFalse =>
    obtain ⟨_, _, settled, last⟩ := run_bind_eq_ok.mp done
    cases last
    exact .settled (settleSupersededClaim_ok settled)

theorem finishOcrAttemptFailure_error {e : MetaStoreError}
    (failed : (finishOcrAttemptFailure claimed failure now).run s = .error e t) :
    e ≠ .storage ∨
      ∃ job, s.job claimed.job.id = some job ∧ job.kind = .ocrDocument ∧ job.status = .running ∧
        s.discarded claimed.job.id = true := by
  obtain refused | ⟨_, _, passed, failed⟩ := run_bind_eq_error.mp failed
  · obtain ⟨_, rfl, _⟩ := run_require_eq_error.mp refused
    exact .inl nofun
  obtain ⟨_, rfl⟩ := run_require_eq_ok.mp passed
  obtain ⟨⟨_, failed⟩, _⟩ := run_transaction_eq_error.mp failed
  rw [run_get_bind] at failed
  split at failed
  case isTrue => split at failed <;> cases failed
  case isFalse =>
    obtain stopped | ⟨_, _, _, last⟩ := run_bind_eq_error.mp failed
    · refine (settleSupersededClaim_error stopped).imp_left ?_
      nofun
    · cases last

theorem recordFailure_job (id : IngestJobId) :
    (s.recordFailure claimed failure now).job id =
      if id = claimed.job.id then
        (s.job claimed.job.id).map (·.fail (failsPermanently claimed failure) failure.kind now)
      else s.job id :=
  Table.find?_of_rows_update
    (f := fun job : IngestJob => job.fail (failsPermanently claimed failure) failure.kind now) rfl
    (fun _ => rfl) id

end Attempts

/-! ## Enqueue -/

section Enqueue

variable {jobIdOf : SourceRevisionId → String → IngestJobId} {s t : SourceStore}
  {revisionId : SourceRevisionId} {triageEpoch : String} {queuedAt : Int}

theorem requeueJob_job {id : IngestJobId} (other : IngestJobId) :
    (s.requeueJob id queuedAt).job other =
      if other = id then (s.job id).map (·.requeue queuedAt) else s.job other :=
  Table.find?_of_rows_update (f := fun job : IngestJob => job.requeue queuedAt) rfl
    (fun _ => rfl) other

/-- What an enqueue does: it inserts the job of the triage, queues it again, or
finds it busy. -/
inductive Enqueues (jobIdOf : SourceRevisionId → String → IngestJobId) (s : SourceStore)
    (revisionId : SourceRevisionId) (triageEpoch : String) (queuedAt : Int) :
    IngestJobId × Bool → SourceStore → Prop where
  | inserted {documentId : DocumentId} {specs : Table OcrJobSpec.ingestJobId}
      {jobs : Table IngestJob.id}
      (specified : s.db.ocr.specs.insert?
        ⟨jobIdOf revisionId triageEpoch, revisionId, triageEpoch⟩ = some specs)
      (created : s.db.ocr.jobs.insert?
        (newOcrJob (jobIdOf revisionId triageEpoch) documentId queuedAt) = some jobs) :
      Enqueues jobIdOf s revisionId triageEpoch queuedAt (jobIdOf revisionId triageEpoch, true)
        { s with
          db.ocr.specs := specs
          db.ocr.jobs := jobs
          queue := s.queue.upsert ⟨jobIdOf revisionId triageEpoch, queuedAt⟩ }
  | requeued {job : IngestJob} (stored : s.job (jobIdOf revisionId triageEpoch) = some job)
      (kind : job.kind = .ocrDocument) (ended : job.requeueable = true) :
      Enqueues jobIdOf s revisionId triageEpoch queuedAt (jobIdOf revisionId triageEpoch, true)
        (s.requeueJob (jobIdOf revisionId triageEpoch) queuedAt)
  | busy : Enqueues jobIdOf s revisionId triageEpoch queuedAt
      (jobIdOf revisionId triageEpoch, false) s

theorem existingOcrJob_eq_some
    (existing : existingOcrJob jobIdOf s revisionId triageEpoch = some job) :
    s.job (jobIdOf revisionId triageEpoch) = some job ∧ job.kind = .ocrDocument := by
  unfold existingOcrJob at existing
  dsimp only at existing
  split at existing
  · obtain ⟨stored, kind⟩ := Option.filter_eq_some_iff.mp existing
    exact ⟨stored, by simpa using kind⟩
  · cases existing

theorem enqueueOcrJob_ok {answer : IngestJobId × Bool}
    (done : (enqueueOcrJobForSourceTriage jobIdOf revisionId triageEpoch queuedAt).run s =
      .ok answer t) :
    Enqueues jobIdOf s revisionId triageEpoch queuedAt answer t := by
  rw [enqueueOcrJobForSourceTriage, run_transaction_eq_ok, run_get_bind,
    run_demand_bind_eq_ok] at done
  obtain ⟨document, _, done⟩ := done
  cases existing : existingOcrJob jobIdOf s revisionId triageEpoch with
  | none =>
    rw [existing] at done
    obtain ⟨_, _, written, last⟩ := run_bind_eq_ok.mp done
    cases last
    rw [insertOcrJob, run_get_bind] at written
    simp only [run_require_bind_eq_ok, run_demand_bind_eq_ok] at written
    obtain ⟨_, specs, specified, jobs, created, written⟩ := written
    cases written
    exact .inserted specified created
  | some job =>
    rw [existing] at done
    rw [run_require_bind_eq_ok] at done
    obtain ⟨_, done⟩ := done
    obtain ⟨stored, kind⟩ := existingOcrJob_eq_some existing
    split at done
    case isTrue ended =>
      cases done
      exact .requeued stored kind ended.2
    case isFalse =>
      cases done
      exact .busy

end Enqueue

/-! ## Recovery and results -/

theorem stopStale_job {s : SourceStore} {now staleBefore : Int} (id : IngestJobId) :
    (s.stopStale now staleBefore).job id =
      (s.job id).map fun job => if job.stale staleBefore then job.stop now else job := by
  refine Table.find?_of_rows_eq_map rfl (fun job => ?_) id
  split <;> rfl

section Results

variable {sha256 : List UInt8 → ContentDigest} {publication : OcrSearchPublicationCommit}
  {s t : SourceStore}

/-- The jobs with the one of a claim completed by its result. -/
def finishedJobs (publication : OcrSearchPublicationCommit) (jobs : Table IngestJob.id) :
    Table IngestJob.id :=
  jobs.update publication.claimed.job.id
    (·.finish (some publication.version.id) publication.search.now) publication.id_finish

/-- What a commit of OCR results does: it settles a claim that is not current,
finds the head moved, or publishes the result and completes the job. -/
inductive ResultCommits (sha256 : List UInt8 → ContentDigest)
    (publication : OcrSearchPublicationCommit) (s : SourceStore) :
    OcrSearchPublicationOutcome → SourceStore → Prop where
  | claimSuperseded {discarded : Bool} {t : SourceStore}
      (settles : Settles s publication.claimed publication.search.now discarded t) :
      ResultCommits sha256 publication s .claimSuperseded t
  | publicationSuperseded : ResultCommits sha256 publication s .publicationSuperseded s
  | applied {job : IngestJob} {row : JournalRow} {db : Db}
      (current : s.ocrClaimIsCurrent publication.claimed = true)
      (stored : s.job publication.claimed.job.id = some job)
      (runs : runsClaim publication.claimed job = true)
      (shape : CommitShape publication.search)
      (found : s.db.journal.find? publication.search.generation = some row)
      (validated : row.state = .validated)
      (commits : Commits sha256 s.db publication.search row db)
      (ocr : db.ocr = { s.db.ocr with jobs := finishedJobs publication s.db.ocr.jobs }) :
      ResultCommits sha256 publication s .applied { s with db }

theorem commitOcrResult_ok {outcome : OcrSearchPublicationOutcome}
    (done : (commitOcrResult sha256 publication).run s = .ok outcome t) :
    ResultCommits sha256 publication s outcome t := by
  rw [commitOcrResult, run_transaction_eq_ok, run_ofExcept_bind_eq_ok] at done
  obtain ⟨_, _, done⟩ := done
  rw [run_ofExcept_bind_eq_ok] at done
  obtain ⟨_, shape, done⟩ := done
  rw [run_get_bind] at done
  split at done
  case isFalse =>
    obtain ⟨_, _, settled, last⟩ := run_bind_eq_ok.mp done
    cases last
    exact .claimSuperseded (settleSupersededClaim_ok settled)
  case isTrue current =>
    rw [onDb, run_zoom_bind_eq_ok] at done
    obtain ⟨validated, _, read, decided⟩ := done
    obtain ⟨rfl, row, found, state, superseded | fresh⟩ := validatedPublicationForCommit_ok read
    · subst superseded
      cases decided
      exact .publicationSuperseded
    · subst fresh
      rw [run_require_bind_eq_ok, onDb, run_zoom_bind_eq_ok] at decided
      obtain ⟨_, _, db, publishing, last⟩ := decided
      cases last
      rw [onFacts, run_zoom_bind_eq_ok] at publishing
      obtain ⟨_, facts, _, publishing⟩ := publishing
      obtain ⟨_, published, applied, completing⟩ := run_bind_eq_ok.mp publishing
      obtain ⟨ocr, completed, rfl⟩ := run_zoom_eq_ok.mp completing
      rw [completeClaim, run_get_bind, run_require_bind_eq_ok, (apply_ok applied).2] at completed
      obtain ⟨runs, written⟩ := completed
      cases written
      obtain ⟨job, stored, runs⟩ := (Option.any_eq_true _ _).mp runs
      exact .applied current stored runs (validateCommitShape_ok shape) found state
        (apply_ok applied).1.frame rfl

end Results

end ResumeIr.MetaStore
