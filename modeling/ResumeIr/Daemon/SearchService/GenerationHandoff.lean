import ResumeIr.Daemon.SearchService.HandoffProtocol
import ResumeIr.Daemon.SearchService.TerminalReplies

/-!
# The generation handoff of the search service

The threads of the service follow the handoff protocol: seen through
`Shared.handoff` and `Thread.role`, every move of the service is a move of the
protocol (`searchService_refines_handoff`). Queries and deadlines are stutters,
and a search never makes a generation pending. So the invariants of the protocol
hold in every reachable state of the service (`generation_handoff`).
-/

namespace ResumeIr.Daemon.SearchService

open SearchRuntime Foundation Fallible

variable {sh sh' : Shared} {thread thread' : Thread}

/-! ## The service seen as the protocol -/

def Shared.handoff (sh : Shared) : Handoff where
  queued := sh.queue.generationControl
  active := sh.queue.activeGenerationControl
  completed := sh.queue.completedGenerationControl
  commitInFlight := sh.queue.publicationCommitInFlight
  failed := sh.queue.controlProtocolFailed
  closed := sh.queue.closed
  replyChannels := sh.replyChannels
  nextReply := sh.nextReply
  executed := sh.history.executed
  withdrawn := sh.history.withdrawn
  rejected := sh.history.rejected
  produced := sh.history.produced
  delivered := sh.history.delivered

def WorkerPoint.phase : WorkerPoint → WorkerPhase
  | .controlling control => .handling control
  | .running control => .handling control
  | .completing control result => .finishing control result
  | .answering reply result => .answering reply result
  | _ => .free

def PublisherPoint.phase : PublisherPoint → PublisherPhase
  | .idle => .idle
  | .waiting reply id _ => .waiting reply id
  | .acknowledging _ => .acknowledging

/-- Whether the worker has a coordinator that holds a pending generation. -/
def holdsPending (runtime : Option QueryCoordinator) : Bool :=
  runtime.any fun coordinator => coordinator.pendingGeneration.isSome

def Thread.role : Thread → HandoffRole
  | .worker runtime point => .worker (holdsPending runtime) point.phase
  | .publisher point => .publisher point.phase
  | _ => .bystander

/-! ## The coordinator of the worker -/

theorem holdsPending_some_eq_false {coordinator : QueryCoordinator} :
    holdsPending (some coordinator) = false ↔ Idle coordinator := by
  simp [holdsPending, Idle]

theorem holdsPending_openRuntime (env : Surroundings) : holdsPending (openRuntime env) = false := by
  unfold openRuntime
  split
  case h_1 dataDir _ _ =>
    split
    case h_1 coordinator prepared =>
      have idle := prepareCurrentGeneration_idle env (.opened dataDir) rfl
      rw [final_of_ok prepared] at idle
      exact holdsPending_some_eq_false.mpr idle
    · rfl
  · rfl

theorem after_searchCall_idle {c : QueryCoordinator} {call : Event} (search : isSearchCall call)
    (idle : Idle c) : Idle (c.after call) := by
  cases call with
  | withQuery env => exact (withQuery_queries env c).idle idle
  | withLexicalQuery env => exact (withLexicalQuery_queries env c).idle idle
  | takeArtifactFault => exact idle
  | _ => exact search.elim

/-- A search never makes a generation pending. -/
theorem Searches.idle {before after : QueryCoordinator} (searched : Searches before after)
    (idle : Idle before) : Idle after := by
  obtain ⟨calls, search, rfl⟩ := searched
  induction calls generalizing before with
  | nil => exact idle
  | cons call rest ih =>
    refine ih (after_searchCall_idle (search call List.mem_cons_self) idle) fun other member => ?_
    exact search other (List.mem_cons_of_mem _ member)

theorem Searches.fewer {before after : QueryCoordinator} (searched : Searches before after)
    (pending : holdsPending (some after) = true) : holdsPending (some before) = true := by
  by_contra none_
  have idle := searched.idle (holdsPending_some_eq_false.mp (by simpa using none_))
  rw [holdsPending_some_eq_false.mpr idle] at pending
  cases pending

/-! ## Each move -/

theorem WorkerMove.handoff {runtime runtime' : Option QueryCoordinator}
    {point point' : WorkerPoint} (move : WorkerMove runtime point sh runtime' point' sh') :
    HandoffMove (.worker (holdsPending runtime) point.phase) sh.handoff
      (.worker (holdsPending runtime') point'.phase) sh'.handoff := by
  have opens : ∀ {env : Surroundings}, holdsPending (openRuntime env) = true →
      holdsPending runtime = true := by
    intro env pending
    rw [holdsPending_openRuntime] at pending
    cases pending
  cases move with
  | start env | openForControl env | openForTask env => exact .forget opens
  | popControl popped =>
    obtain ⟨queued, rfl⟩ := SearchQueueState.pop_generation popped
    exact .take queued
  | popTask popped =>
    obtain ⟨rest, -, rfl⟩ := SearchQueueState.pop_query popped
    exact .stay
  | stop popped =>
    obtain rfl := SearchQueueState.pop_stop popped
    exact .stay
  | prepare | installNowhere => exact .pass _ rfl
  | install => exact .install _ rfl
  | activate env done =>
    rw [holdsPending_some_eq_false.mpr (activatePreparedGeneration_idle done)]
    exact .finalize _ rfl
  | activateFails | discard | finalizeNowhere => exact .finalize _ rfl
  | completeControl => exact .complete
  | answer => exact .answer
  | search _ searched => exact .forget searched.fewer
  | @release _ sh task wake =>
    have same : ({ sh with queue := sh.queue.completeActive task.control } : Shared).handoff =
        sh.handoff := by
      unfold SearchQueueState.completeActive
      split <;> rfl
    rw [same]
    cases wake <;> exact .stay
  | _ => exact .stay

theorem SchedulerMove.handoff {scheduled scheduled' : List ScheduledDeadline}
    {sequence sequence' : UInt64} {point point' : SchedulerPoint}
    (move : SchedulerMove scheduled sequence point sh scheduled' sequence' point' sh') :
    sh'.handoff = sh.handoff := by
  cases move <;> rfl

theorem handoff_reject (sh : Shared) (rejected : Option QueuedGenerationControl) :
    (sh.reject rejected).handoff = sh.handoff.reject rejected := by
  cases rejected <;> rfl

theorem handoff_cancelActive (sh : Shared) (queue : SearchQueueState) :
    ({ sh.cancelActive with queue } : Shared).handoff = ({ sh with queue } : Shared).handoff := by
  unfold Shared.cancelActive
  split <;> rfl

theorem ClientMove.handoff {point point' : ClientPoint} (move : ClientMove point sh point' sh') :
    HandoffMove .bystander sh.handoff .bystander sh'.handoff := by
  cases move with
  | push pushed =>
    obtain ⟨-, rfl⟩ := SearchQueueState.push_some pushed
    exact .stay
  | remove removed =>
    obtain ⟨-, rfl⟩ := SearchQueueState.remove_some removed
    exact .stay
  | drain closed =>
    cases closed
    rw [handoff_reject]
    exact .close
  | close how closed =>
    cases closed
    rw [handoff_reject, handoff_cancelActive]
    exact .close
  | _ => exact .stay

theorem PublisherMove.handoff {point point' : PublisherPoint}
    (move : PublisherMove point sh point' sh') :
    HandoffMove (.publisher point.phase) sh.handoff (.publisher point'.phase) sh'.handoff := by
  cases move with
  | prepareRuntime enqueued =>
    obtain ⟨opened, -, enqueued⟩ := SearchQueueState.prepareRuntime_queued enqueued
    obtain ⟨queued, active, completed, rfl⟩ := SearchQueueState.enqueueControl_some enqueued
    exact .issue opened ⟨queued, active, completed⟩ rfl nofun
  | stage prepared enqueued =>
    obtain ⟨opened, -, alone, _, reserved, rfl⟩ := SearchQueueState.stageGeneration_some enqueued
    obtain ⟨queued, active, completed, rfl⟩ := SearchQueueState.enqueueControl_some reserved
    exact .issue opened ⟨queued, active, completed⟩ rfl fun _ => alone
  | finishPublication disposition enqueued =>
    obtain ⟨opened, -, -, enqueued⟩ := SearchQueueState.finalizeGeneration_some enqueued
    obtain ⟨queued, active, completed, rfl⟩ := SearchQueueState.enqueueControl_some enqueued
    exact .issue opened ⟨queued, active, completed⟩ rfl nofun
  | receive received => exact .receive received
  | @acknowledge sh id =>
    cases named : sh.queue.completedIs id with
    | true =>
      simp only [SearchQueueState.acknowledgeGenerationControl, named]
      exact .acknowledge (.inl rfl)
    | false =>
      simp only [SearchQueueState.acknowledgeGenerationControl, named]
      exact .acknowledge (.inr rfl)
  | resolveCompleted resolved =>
    obtain ⟨there, rfl⟩ := SearchQueueState.resolve_completed resolved
    exact .collect there
  | resolveWithdrawn resolved =>
    obtain ⟨control, queued, named, rfl⟩ := SearchQueueState.resolve_withdrawn resolved
    exact .withdraw queued named
  | resolveFatal resolved =>
    obtain ⟨queued, dropped, rfl⟩ := SearchQueueState.resolve_fatal resolved
    rw [handoff_cancelActive]
    exact .fail dropped

theorem Move.handoff (move : Move thread sh thread' sh') :
    HandoffMove thread.role sh.handoff thread'.role sh'.handoff := by
  cases move with
  | worker move | client move | publisher move => exact move.handoff
  | scheduler move =>
    rw [move.handoff]
    exact .stay
  | tick => exact .stay

/-- The service follows the protocol. -/
theorem searchService_refines_handoff :
    searchService.Refines (handoffProtocol fun actor : Actor => actor.entry.role) Shared.handoff
      Thread.role where
  start starts := congrArg Shared.handoff starts
  entry entered := congrArg Thread.role entered
  move := Move.handoff

theorem handoff_outlined {s : Service} (reachable : searchService.machine.Reachable s) :
    Program.Outlined Handoff.Valid HandoffRole.Knows HandoffRole.Apart
      (s.seen Shared.handoff Thread.role) := by
  have fresh : ∀ actor : Actor, actor.entry.role.Fresh := by
    intro actor
    cases actor with
    | worker => exact .worker
    | publisher => exact .publisher
    | _ => exact .bystander
  have worker : ∀ {actor : Actor} {pending phase}, actor.entry.role = .worker pending phase →
      actor = .worker := by
    intro actor pending phase entered
    cases actor with
    | worker => rfl
    | _ => cases entered
  exact (handoffProtocol_outline fresh fun first second =>
    (worker first).trans (worker second).symm).inductive_.holds
      (searchService_refines_handoff.reachable reachable)

/-! ## The handoff in every reachable state -/

/-- The controls that are queued, active, or completed and not acknowledged. -/
def SearchQueueState.outstanding (state : SearchQueueState) : List GenerationControlId :=
  (state.generationControl.map (·.id)).toList ++ state.activeGenerationControl.toList ++
    (state.completedGenerationControl.map (·.id)).toList

theorem Handoff.Valid.outstanding (valid : sh.handoff.Valid) :
    sh.queue.outstanding.length ≤ 1 := by
  unfold SearchQueueState.outstanding
  have alone := valid.queued_alone
  have apart := valid.active_alone
  simp only [Shared.handoff] at alone apart
  cases queued : sh.queue.generationControl with
  | some control =>
    obtain ⟨active, completed⟩ := alone (by simp [queued])
    simp [active, completed]
  | none =>
    cases active : sh.queue.activeGenerationControl with
    | some id => simp [apart (by simp [active])]
    | none => cases sh.queue.completedGenerationControl <;> simp

/-- **The generation handoff.** Whatever the threads do, at most one control is
outstanding. A control has at most one result delivered; it is the one result
that the worker produced for it, or `false` if the control was rejected when the
queue was closed, and then the worker produced none. A withdrawn install is not
executed. While the worker's coordinator holds a pending generation, a commit is
in flight or the queue is closed. -/
theorem generation_handoff {s : Service} (reachable : searchService.machine.Reachable s) :
    s.shared.queue.outstanding.length ≤ 1 ∧
    (s.shared.history.delivered.map Prod.fst).Nodup ∧
    (s.shared.history.produced.map Prod.fst).Nodup ∧
    (∀ reply result, (reply, result) ∈ s.shared.history.delivered →
      (reply, result) ∈ s.shared.history.produced ∨
        (reply ∈ s.shared.history.rejected ∧ result = false ∧
          reply ∉ s.shared.history.produced.map Prod.fst)) ∧
    (∀ reply ∈ s.shared.history.withdrawn, reply ∉ s.shared.history.executed) ∧
    (∀ coordinator point, s.threads .worker = .worker (some coordinator) point →
      coordinator.pendingGeneration ≠ none →
        s.shared.queue.publicationCommitInFlight = true ∨ s.shared.queue.closed = true) := by
  have outlined := handoff_outlined reachable
  have valid : s.shared.handoff.Valid := outlined.shared
  refine ⟨valid.outstanding, valid.delivered_once, valid.produced_once, ?_,
    valid.withdrawn_unexecuted, ?_⟩
  · intro reply result delivered
    obtain produced | ⟨rejected, refused⟩ := valid.delivered_answers reply result delivered
    · exact .inl produced
    · exact .inr ⟨rejected, refused, valid.rejected_unproduced reply rejected⟩
  · intro coordinator point at_ pending
    have knows : (s.threads .worker).role.Knows s.shared.handoff := outlined.own .worker
    rw [at_] at knows
    have holds : holdsPending (some coordinator) = true := by
      simpa [holdsPending, Option.isSome_iff_ne_none] using pending
    exact (knows.1 holds).symm.imp And.left id

/-- A publisher has asked for a runtime, and the worker has not looked yet. -/
theorem preparing_reachable : ∃ s : Service, searchService.machine.Reachable s ∧
    s.threads (.publisher 0) = .publisher (.waiting 0 1 .withdraw) ∧
    s.threads .worker = .worker none .starting ∧ s.threads (.client 0) = .client .idle ∧
    s.shared = { Shared.initial with
      queue := { SearchQueueState.default with
        generationControl := some ⟨1, .prepareRuntime 0⟩
        nextGenerationControlId := 1
        publicationEnabled := true }
      nextReply := 1 } := by
  have enabled := reachable_put freshService_reachable (.client 0) rfl (.client .enablePublication)
  have issued := reachable_put enabled (.publisher 0) rfl (.publisher (.prepareRuntime rfl))
  exact ⟨_, issued, rfl, rfl, rfl, rfl⟩

/-- The service is drained before the worker takes up a control: the publisher
receives a result that the worker has not produced. -/
theorem rejected_control_is_answered :
    ∃ s : Service, searchService.machine.Reachable s ∧
      s.shared.history.delivered = [(0, false)] ∧ s.shared.history.produced = [] := by
  obtain ⟨s, reachable, publisher, worker, client, shared⟩ := preparing_reachable
  obtain ⟨sh, threads⟩ := s
  cases shared
  have drained := reachable_put reachable (.client 0) client (.client (.drain rfl))
  have received := reachable_put drained (.publisher 0) publisher (.publisher (.receive rfl))
  exact ⟨_, received, rfl, rfl⟩

/-- A worker that finds no data directory answers the same control itself. -/
theorem generation_handoff_of_answered_control :
    ∃ s : Service, searchService.machine.Reachable s ∧
      s.shared.history.delivered = [(0, false)] ∧ (0, false) ∈ s.shared.history.produced := by
  obtain ⟨s, reachable, publisher, worker, client, shared⟩ := preparing_reachable
  obtain ⟨sh, threads⟩ := s
  cases shared
  let env : Surroundings := { emptyCorpus with canonicalDataDir := none }
  have started := reachable_put reachable .worker worker (.worker (.start env))
  have taken := reachable_put started .worker rfl (.worker (.popControl rfl))
  have opened := reachable_put taken .worker rfl (.worker (.openForControl env rfl))
  have prepared := reachable_put opened .worker rfl (.worker .prepare)
  have completed := reachable_put prepared .worker rfl (.worker .completeControl)
  have answered := reachable_put completed .worker rfl (.worker .answer)
  have received := reachable_put answered (.publisher 0) publisher (.publisher (.receive rfl))
  obtain ⟨-, -, -, answers, -, -⟩ := generation_handoff received
  refine ⟨_, received, rfl, (answers 0 false (List.mem_singleton.mpr rfl)).resolve_right ?_⟩
  rintro ⟨rejected, -⟩
  cases rejected

end ResumeIr.Daemon.SearchService
