import ResumeIr.Daemon.SearchService.Service

/-!
# One terminal reply per request

Several threads may end the same request: the worker with a result, the deadline
scheduler, a cancel and a shutdown. Each of them writes a reply only after it
has set the flag of the request by a compare-and-set that found it clear. So the
flag is won once (`ReplyMove`), and at most one reply is written.

Where a request is can be followed too: from the queue it goes into the hands of
one thread, which keeps it until the flag is set (`Keeps`). A request that is
nowhere to be found has its flag set, and then it has its reply, unless the
service was aborted before anybody took the request up: an abort sets the flags
of the queued requests and writes nothing.
-/

namespace ResumeIr.Daemon.SearchService

open SearchRuntime Foundation

variable {sh sh' : Shared} {thread thread' : Thread} {request : RequestRef}

/-! ## Who has won and who holds a request -/

def WorkerPoint.won : WorkerPoint → Option RequestRef
  | .writing task _ => some task.control
  | _ => none

def SchedulerPoint.won : SchedulerPoint → Option RequestRef
  | .claimed deadline => some deadline.control
  | .writing deadline => some deadline.control
  | _ => none

def ClientPoint.won : ClientPoint → Option RequestRef
  | .writing task => some task.control
  | .replying task _ => some task.control
  | _ => none

/-- The request whose flag a thread has set and whose reply it has not written
yet. -/
def Thread.won : Thread → Option RequestRef
  | .worker _ point => point.won
  | .scheduler _ _ point => point.won
  | .client point => point.won
  | .publisher _ => none
  | .clock => none

def WorkerPoint.undecided : WorkerPoint → List RequestRef
  | .checking task => [task.control]
  | .opening task => [task.control]
  | .searching task => [task.control]
  | .deciding task _ => [task.control]
  | _ => []

def ClientPoint.undecided : ClientPoint → List RequestRef
  | .claiming task => [task.control]
  | .closing _ tasks => tasks.map (·.control)
  | .settling _ task rest => task.control :: rest.map (·.control)
  | .replying _ rest => rest.map (·.control)
  | .noting _ _ _ rest => rest.map (·.control)
  | _ => []

/-- The requests that a thread has taken out of the queue and whose flag it has
not looked at or set yet. -/
def Thread.undecided : Thread → List RequestRef
  | .worker _ point => point.undecided
  | .client point => point.undecided
  | _ => []

/-- The requests in the hands of a thread. -/
def Thread.holds (thread : Thread) : List RequestRef := thread.undecided ++ thread.won.toList

/-- The requests in the queue. -/
def Shared.queued (sh : Shared) : List RequestRef := sh.queue.tasks.map (·.control)

/-! ## The flags -/

@[simp] theorem completed_complete (sh : Shared) (done request : RequestRef) :
    (sh.complete done).completed request = (decide (request = done) || sh.completed request) := by
  by_cases same : request = done
  · subst same
    simp [Shared.complete, Shared.completed]
  · simp [Shared.complete, Shared.completed, same]

theorem completed_complete_self (sh : Shared) (request : RequestRef) :
    (sh.complete request).completed request = true := by
  simp

theorem completed_complete_of (completed : sh.completed request = true) (done : RequestRef) :
    (sh.complete done).completed request = true := by
  simp [completed]

@[simp] theorem completed_requestCancellation (sh : Shared) (cancelled request : RequestRef) :
    (sh.requestCancellation cancelled).completed request = sh.completed request := by
  by_cases same : request = cancelled
  · subst same
    simp [Shared.requestCancellation, Shared.completed]
  · simp [Shared.requestCancellation, Shared.completed, same]

@[simp] theorem completed_cancelActive (sh : Shared) (request : RequestRef) :
    sh.cancelActive.completed request = sh.completed request := by
  unfold Shared.cancelActive
  split
  · exact completed_requestCancellation ..
  · rfl

theorem history_cancelActive (sh : Shared) : sh.cancelActive.history = sh.history := by
  unfold Shared.cancelActive
  split <;> rfl

/-- Neither a flag nor what was written differs. -/
structure SameReplies (sh sh' : Shared) : Prop where
  completed : ∀ request, sh'.completed request = sh.completed request
  replies : sh'.history.replies = sh.history.replies
  aborted : sh'.history.aborted = sh.history.aborted

theorem SameReplies.cancellation (sh : Shared) (request : RequestRef) :
    SameReplies sh (sh.requestCancellation request) :=
  ⟨completed_requestCancellation sh request, rfl, rfl⟩

theorem SameReplies.reject (sh : Shared) (rejected : Option QueuedGenerationControl) :
    SameReplies sh (sh.reject rejected) := by
  cases rejected <;> exact ⟨fun _ => rfl, rfl, rfl⟩

theorem SameReplies.cancelActive (sh : Shared) (queue : SearchQueueState) :
    SameReplies sh { sh.cancelActive with queue } := by
  refine ⟨completed_cancelActive sh, ?_, ?_⟩
  · exact congrArg History.replies (history_cancelActive sh)
  · exact congrArg History.aborted (history_cancelActive sh)

theorem SameReplies.trans {first second third : Shared} (earlier : SameReplies first second)
    (later : SameReplies second third) : SameReplies first third where
  completed request := (later.completed request).trans (earlier.completed request)
  replies := later.replies.trans earlier.replies
  aborted := later.aborted.trans earlier.aborted

/-! ## What a move does to the replies -/

/-- A move sets a flag that was clear and thereby wins the request, writes the
reply of the request it has won, marks a request completed without a reply, or
does none of these. -/
inductive ReplyMove : Option RequestRef → Shared → Option RequestRef → Shared → Prop where
  | quiet {won : Option RequestRef} {sh sh' : Shared} (same : SameReplies sh sh') :
      ReplyMove won sh won sh'
  | wins {sh : Shared} {request : RequestRef} (free : sh.completed request = false) :
      ReplyMove none sh (some request) (sh.complete request)
  | writes {sh : Shared} (request : RequestRef) :
      ReplyMove (some request) sh none (sh.write request)
  | abandons {sh : Shared} (request : RequestRef) : ReplyMove none sh none (sh.abandon request)

theorem WorkerMove.replyMove {runtime runtime' : Option QueryCoordinator}
    {point point' : WorkerPoint} (move : WorkerMove runtime point sh runtime' point' sh') :
    ReplyMove point.won sh point'.won sh' := by
  cases move with
  | win free => exact .wins free
  | writeReply => exact .writes _
  | @release _ _ _ wake => cases wake <;> exact .quiet ⟨fun _ => rfl, rfl, rfl⟩
  | _ => exact .quiet ⟨fun _ => rfl, rfl, rfl⟩

theorem SchedulerMove.replyMove {scheduled scheduled' : List ScheduledDeadline}
    {sequence sequence' : UInt64} {point point' : SchedulerPoint}
    (move : SchedulerMove scheduled sequence point sh scheduled' sequence' point' sh') :
    ReplyMove point.won sh point'.won sh' := by
  cases move with
  | win free => exact .wins free
  | writeReply => exact .writes _
  | cancel => exact .quiet (.cancellation _ _)
  | _ => exact .quiet ⟨fun _ => rfl, rfl, rfl⟩

theorem ClientMove.replyMove {point point' : ClientPoint}
    (move : ClientMove point sh point' sh') : ReplyMove point.won sh point'.won sh' := by
  cases move with
  | win free | settleWin free => exact .wins free
  | writeReply | settleWrite => exact .writes _
  | abandon => exact .abandons _
  | requestCancellation | settle => exact .quiet (.cancellation _ _)
  | @drain _ rejected queue =>
    have closed : SameReplies sh { sh with queue } := ⟨fun _ => rfl, rfl, rfl⟩
    exact .quiet (closed.trans (.reject _ rejected))
  | @close _ rejected _ queue =>
    exact .quiet ((SameReplies.cancelActive sh queue).trans (.reject _ rejected))
  | _ => exact .quiet ⟨fun _ => rfl, rfl, rfl⟩

theorem PublisherMove.replyMove {point point' : PublisherPoint}
    (move : PublisherMove point sh point' sh') : ReplyMove none sh none sh' := by
  cases move with
  | resolveFatal => exact .quiet (.cancelActive _ _)
  | _ => exact .quiet ⟨fun _ => rfl, rfl, rfl⟩

theorem Move.replyMove (move : Move thread sh thread' sh') :
    ReplyMove thread.won sh thread'.won sh' := by
  cases move with
  | worker move | scheduler move | client move | publisher move => exact move.replyMove
  | tick => exact .quiet ⟨fun _ => rfl, rfl, rfl⟩

/-! ## At most one reply -/

/-- Replies are written once, and only for requests whose flag is set. -/
structure RepliesValid (sh : Shared) : Prop where
  once : sh.history.replies.Nodup
  completed : ∀ request ∈ sh.history.replies, sh.completed request = true
  aborted : ∀ request ∈ sh.history.aborted,
    sh.completed request = true ∧ request ∉ sh.history.replies

/-- A request that is won has its flag set and no reply yet. -/
def WonValid (thread : Thread) (sh : Shared) : Prop :=
  ∀ request, thread.won = some request →
    sh.completed request = true ∧ request ∉ sh.history.replies ∧ request ∉ sh.history.aborted

def WonApart (thread other : Thread) : Prop :=
  ∀ request, thread.won = some request → other.won ≠ some request

theorem SameReplies.valid (same : SameReplies sh sh') (valid : RepliesValid sh) :
    RepliesValid sh' where
  once := same.replies ▸ valid.once
  completed request member := by
    rw [same.replies] at member
    rw [same.completed]
    exact valid.completed request member
  aborted request member := by
    rw [same.aborted] at member
    rw [same.completed, same.replies]
    exact valid.aborted request member

theorem RepliesValid.not_replied (valid : RepliesValid sh) (free : sh.completed request = false) :
    request ∉ sh.history.replies := by
  intro member
  rw [valid.completed request member] at free
  cases free

theorem RepliesValid.complete (valid : RepliesValid sh) (request : RequestRef) :
    RepliesValid (sh.complete request) where
  once := valid.once
  completed other member := completed_complete_of (valid.completed other member) _
  aborted other member := (valid.aborted other member).imp_left (completed_complete_of · _)

theorem RepliesValid.write (valid : RepliesValid sh) (completed : sh.completed request = true)
    (unreplied : request ∉ sh.history.replies) (kept : request ∉ sh.history.aborted) :
    RepliesValid (sh.write request) where
  once := by
    rw [Shared.write, ← List.concat_eq_append]
    exact valid.once.concat unreplied
  completed := forall_mem_concat valid.completed completed
  aborted other member := by
    obtain ⟨flagged, old⟩ := valid.aborted other member
    refine ⟨flagged, fun replied => ?_⟩
    obtain earlier | new := List.mem_append.mp replied
    · exact old earlier
    · rw [List.mem_singleton.mp new] at member
      exact kept member

theorem mem_aborted_abandon {other : RequestRef}
    (member : other ∈ (sh.abandon request).history.aborted) :
    other ∈ sh.history.aborted ∨ (other = request ∧ sh.completed request = false) := by
  unfold Shared.abandon at member
  cases flag : sh.completed request with
  | true =>
    simp only [flag] at member
    exact .inl member
  | false =>
    simp only [flag] at member
    obtain old | new := List.mem_append.mp member
    · exact .inl old
    · exact .inr ⟨List.mem_singleton.mp new, rfl⟩

theorem aborted_subset_abandon {other : RequestRef} (member : other ∈ sh.history.aborted) :
    other ∈ (sh.abandon request).history.aborted := by
  unfold Shared.abandon
  cases sh.completed request with
  | true => exact member
  | false => exact List.mem_append_left _ member

theorem mem_abandon (free : sh.completed request = false) :
    request ∈ (sh.abandon request).history.aborted := by
  simp [Shared.abandon, free]

theorem RepliesValid.abandon (valid : RepliesValid sh) (request : RequestRef) :
    RepliesValid (sh.abandon request) where
  once := valid.once
  completed := (valid.complete request).completed
  aborted other member := by
    obtain old | ⟨rfl, free⟩ := mem_aborted_abandon member
    · exact (valid.complete request).aborted other old
    · exact ⟨completed_complete_self sh other, valid.not_replied free⟩

theorem searchService_replies :
    searchService.Outline RepliesValid WonValid WonApart where
  start := by
    rintro sh rfl
    exact ⟨List.nodup_nil, nofun, nofun⟩
  entry := by
    rintro sh actor thread rfl rfl request won
    cases actor <;> cases won
  entry_apart := by
    rintro a b thread other _ rfl _ request won
    cases a <;> cases won
  symm apart request won other := apart request other won
  move_own := by
    rintro _ thread sh thread' sh' valid own move
    have change := Move.replyMove move
    unfold WonValid at own ⊢
    generalize thread.won = before at own change
    generalize thread'.won = after at change ⊢
    cases change with
    | quiet same =>
      refine ⟨same.valid valid, fun request won => ?_⟩
      rw [same.completed, same.replies, same.aborted]
      exact own request won
    | @wins _ request free =>
      refine ⟨valid.complete request, ?_⟩
      rintro _ ⟨⟩
      refine ⟨by simp, valid.not_replied free, fun aborted => ?_⟩
      rw [(valid.aborted request aborted).1] at free
      cases free
    | writes request =>
      obtain ⟨completed, unreplied, kept⟩ := own request rfl
      exact ⟨valid.write completed unreplied kept, nofun⟩
    | abandons request => exact ⟨valid.abandon request, nofun⟩
  move_other := by
    rintro _ thread sh thread' sh' other valid own theirs apart move
    have change := Move.replyMove move
    unfold WonApart at apart ⊢
    generalize thread.won = before at own apart change
    generalize thread'.won = after at change ⊢
    cases change with
    | quiet same =>
      refine ⟨fun request won => ?_, apart⟩
      rw [same.completed, same.replies, same.aborted]
      exact theirs request won
    | @wins _ request free =>
      constructor
      · intro won theirWin
        exact (theirs won theirWin).imp_left (completed_complete_of · _)
      · rintro _ ⟨⟩ theirWin
        rw [(theirs request theirWin).1] at free
        cases free
    | writes request =>
      refine ⟨fun won theirWin => ?_, nofun⟩
      obtain ⟨completed, unreplied, kept⟩ := theirs won theirWin
      refine ⟨completed, fun replied => ?_, kept⟩
      obtain old | new := List.mem_append.mp replied
      · exact unreplied old
      · rw [List.mem_singleton.mp new] at theirWin
        exact apart request rfl theirWin
    | abandons request =>
      refine ⟨fun won theirWin => ?_, nofun⟩
      obtain ⟨completed, unreplied, kept⟩ := theirs won theirWin
      refine ⟨completed_complete_of completed _, unreplied, fun aborted => ?_⟩
      obtain old | ⟨rfl, free⟩ := mem_aborted_abandon aborted
      · exact kept old
      · rw [completed] at free
        cases free

/-! ## No request is lost -/

/-- Queued requests stay queued or are taken up by the thread that moves, the
requests it had taken up stay with it until their flag is set, and only queued
requests are admitted. -/
structure TaskMove (undecided : List RequestRef) (sh : Shared) (undecided' : List RequestRef)
    (sh' : Shared) : Prop where
  queued : ∀ request ∈ sh.queued, request ∈ sh'.queued ∨ request ∈ undecided'
  taken : ∀ request ∈ undecided, request ∈ undecided' ∨ sh'.completed request = true
  admitted : ∀ request ∈ sh'.history.admitted,
    request ∈ sh.history.admitted ∨ request ∈ sh'.queued

/-- A move that leaves the tasks of the queue and the admissions alone. -/
theorem TaskMove.of_same {undecided undecided' : List RequestRef}
    (tasks : sh'.queue.tasks = sh.queue.tasks)
    (admitted : sh'.history.admitted = sh.history.admitted)
    (taken : ∀ request ∈ undecided, request ∈ undecided' ∨ sh'.completed request = true) :
    TaskMove undecided sh undecided' sh' where
  queued request member := by
    unfold Shared.queued at member ⊢
    rw [tasks]
    exact .inl member
  taken := taken
  admitted request member := .inl (admitted ▸ member)

/-- The first request that the thread had taken up has its flag set. -/
theorem TaskMove.decided {rest : List RequestRef} (tasks : sh'.queue.tasks = sh.queue.tasks)
    (admitted : sh'.history.admitted = sh.history.admitted)
    (done : sh'.completed request = true) : TaskMove (request :: rest) sh rest sh' :=
  .of_same tasks admitted (List.forall_mem_cons.mpr ⟨.inr done, fun _ => .inl⟩)

theorem WorkerMove.taskMove {runtime runtime' : Option QueryCoordinator}
    {point point' : WorkerPoint} (move : WorkerMove runtime point sh runtime' point' sh') :
    TaskMove point.undecided sh point'.undecided sh' := by
  cases move with
  | popControl popped =>
    obtain ⟨-, rfl⟩ := SearchQueueState.pop_generation popped
    exact .of_same rfl rfl nofun
  | popTask popped =>
    obtain ⟨rest, tasks, rfl⟩ := SearchQueueState.pop_query popped
    refine ⟨fun request member => ?_, nofun, fun _ member => .inl member⟩
    unfold Shared.queued at member
    rw [tasks] at member
    obtain first | later := List.mem_cons.mp member
    · exact .inr (List.mem_singleton.mpr first)
    · exact .inl later
  | stop popped =>
    obtain rfl := SearchQueueState.pop_stop popped
    exact .of_same rfl rfl nofun
  | skip done | lose done => exact .decided rfl rfl done
  | win => exact .decided rfl rfl (completed_complete_self ..)
  | release => exact .of_same (SearchQueueState.tasks_completeActive ..) rfl nofun
  | _ => exact .of_same rfl rfl fun _ member => .inl member

theorem SchedulerMove.taskMove {scheduled scheduled' : List ScheduledDeadline}
    {sequence sequence' : UInt64} {point point' : SchedulerPoint}
    (move : SchedulerMove scheduled sequence point sh scheduled' sequence' point' sh') :
    TaskMove [] sh [] sh' := by
  cases move <;> exact .of_same rfl rfl nofun

@[simp] theorem queue_reject (sh : Shared) (rejected : Option QueuedGenerationControl) :
    (sh.reject rejected).queue = sh.queue := by
  cases rejected <;> rfl

@[simp] theorem admitted_reject (sh : Shared) (rejected : Option QueuedGenerationControl) :
    (sh.reject rejected).history.admitted = sh.history.admitted := by
  cases rejected <;> rfl

theorem mem_eraseP_or {tasks : List SearchTask} {control : RequestRef}
    (member : request ∈ tasks.map (·.control)) :
    request ∈ (tasks.eraseP fun task => task.control = control).map (·.control) ∨
      request = control := by
  obtain ⟨task, there, rfl⟩ := List.mem_map.mp member
  by_cases same : task.control = control
  · exact .inr same
  · refine .inl (List.mem_map_of_mem ?_)
    exact (List.mem_eraseP_of_neg (by simpa using same)).mpr there

theorem ClientMove.taskMove {point point' : ClientPoint}
    (move : ClientMove point sh point' sh') :
    TaskMove point.undecided sh point'.undecided sh' := by
  cases move with
  | @push _ task _ pushed =>
    obtain ⟨-, rfl⟩ := SearchQueueState.push_some pushed
    refine ⟨fun request member => .inl ?_, nofun, fun request member => ?_⟩
    · unfold Shared.queued
      rw [List.map_append]
      exact List.mem_append_left _ member
    · obtain old | new := List.mem_append.mp member
      · exact .inl old
      · refine .inr ?_
        unfold Shared.queued
        rw [List.map_append]
        exact List.mem_append_right _ new
  | @remove _ control task _ removed =>
    obtain ⟨rfl, rfl⟩ := SearchQueueState.remove_some removed
    refine ⟨fun request member => ?_, nofun, fun _ member => .inl member⟩
    exact (mem_eraseP_or member).imp id List.mem_singleton.mpr
  | lose done | settleLose done => exact .decided rfl rfl done
  | win | settleWin | abandon => exact .decided rfl rfl (completed_complete_self ..)
  | drain closed =>
    cases closed
    exact .of_same (congrArg (·.tasks) (queue_reject ..)) (admitted_reject ..) nofun
  | close _ closed =>
    cases closed
    refine ⟨fun request member => .inr member, nofun, fun request member => .inl ?_⟩
    simpa only [admitted_reject, history_cancelActive] using member
  | _ => exact .of_same rfl rfl fun _ member => .inl member

theorem tasks_of_enqueueControl {state queue : SearchQueueState} {command : GenerationControl}
    {id : GenerationControlId} (done : state.enqueueControl command = some (id, queue)) :
    queue.tasks = state.tasks := by
  obtain ⟨-, -, -, rfl⟩ := SearchQueueState.enqueueControl_some done
  rfl

/-- A publisher leaves the queries alone. -/
theorem PublisherMove.tasks_eq {point point' : PublisherPoint}
    (move : PublisherMove point sh point' sh') : sh'.queue.tasks = sh.queue.tasks := by
  cases move with
  | prepareRuntime enqueued =>
    obtain ⟨-, -, queued⟩ := SearchQueueState.prepareRuntime_queued enqueued
    exact tasks_of_enqueueControl queued
  | stage prepared enqueued =>
    obtain ⟨-, -, -, queue, queued, rfl⟩ := SearchQueueState.stageGeneration_some enqueued
    exact @tasks_of_enqueueControl _ queue _ _ queued
  | finishPublication disposition enqueued =>
    obtain ⟨-, -, -, queued⟩ := SearchQueueState.finalizeGeneration_some enqueued
    exact tasks_of_enqueueControl queued
  | receive => rfl
  | acknowledge =>
    dsimp only [SearchQueueState.acknowledgeGenerationControl]
    split <;> rfl
  | resolveCompleted resolved =>
    obtain ⟨-, rfl⟩ := SearchQueueState.resolve_completed resolved
    rfl
  | resolveWithdrawn resolved =>
    obtain ⟨_, -, -, rfl⟩ := SearchQueueState.resolve_withdrawn resolved
    rfl
  | resolveFatal resolved =>
    obtain ⟨_, -, rfl⟩ := SearchQueueState.resolve_fatal resolved
    rfl

theorem PublisherMove.taskMove {point point' : PublisherPoint}
    (move : PublisherMove point sh point' sh') : TaskMove [] sh [] sh' := by
  refine .of_same move.tasks_eq ?_ nofun
  cases move with
  | resolveFatal => exact congrArg History.admitted (history_cancelActive sh)
  | _ => rfl

theorem Move.taskMove (move : Move thread sh thread' sh') :
    TaskMove thread.undecided sh thread'.undecided sh' := by
  cases move with
  | worker move | scheduler move | client move | publisher move => exact move.taskMove
  | tick => exact .of_same rfl rfl nofun

/-- A flag that is set stays set. -/
theorem Move.completed_mono (move : Move thread sh thread' sh')
    (completed : sh.completed request = true) : sh'.completed request = true := by
  have change := Move.replyMove move
  generalize thread.won = before at change
  generalize thread'.won = after at change
  cases change with
  | quiet same => rw [same.completed, completed]
  | wins | abandons => exact completed_complete_of completed _
  | writes => exact completed

/-- Every admitted request is queued, taken up by a thread, or has its flag
set; and a flag is set by a thread that has yet to write the reply, or the reply
is written, or the request was aborted. -/
structure Accounted (s : Service) : Prop where
  admitted : ∀ request ∈ s.shared.history.admitted, request ∈ s.shared.queued ∨
    (∃ actor, request ∈ (s.threads actor).undecided) ∨ s.shared.completed request = true
  completed : ∀ request, s.shared.completed request = true →
    request ∈ s.shared.history.replies ∨ request ∈ s.shared.history.aborted ∨
      ∃ actor, (s.threads actor).won = some request

theorem accounted_admitted {s t : Service} {actor : Actor} (accounted : Accounted s)
    (step : searchService.machine.step s actor t) :
    ∀ request ∈ t.shared.history.admitted, request ∈ t.shared.queued ∨
      (∃ actor, request ∈ (t.threads actor).undecided) ∨ t.shared.completed request = true := by
  intro request member
  have move := Move.taskMove step.1
  obtain old | new := move.admitted request member
  · obtain queued | held | done := accounted.admitted request old
    · obtain still | taken := move.queued request queued
      · exact .inl still
      · exact .inr (.inl ⟨actor, taken⟩)
    · obtain kept | moved :=
        Program.exists_after (fun thread => request ∈ thread.undecided) step held
      · exact .inr (.inl kept)
      · exact .inr ((move.taken request moved).imp (fun taken => ⟨actor, taken⟩) id)
    · exact .inr (.inr (Move.completed_mono step.1 done))
  · exact .inl new

theorem accounted_completed {s t : Service} {actor : Actor} (accounted : Accounted s)
    (step : searchService.machine.step s actor t) (request : RequestRef)
    (done : t.shared.completed request = true) :
    request ∈ t.shared.history.replies ∨ request ∈ t.shared.history.aborted ∨
      ∃ actor, (t.threads actor).won = some request := by
  -- where a flag that was set before comes from, as seen after the move
  have earlier : s.shared.completed request = true →
      request ∈ s.shared.history.replies ∨ request ∈ s.shared.history.aborted ∨
        (∃ actor, (t.threads actor).won = some request) ∨
        (s.threads actor).won = some request := by
    intro old
    obtain replied | aborted | won := accounted.completed request old
    · exact .inl replied
    · exact .inr (.inl aborted)
    · exact .inr (.inr (Program.exists_after (fun thread => thread.won = some request) step won))
  have change := Move.replyMove step.1
  generalize (s.threads actor).won = wonBefore at change earlier
  generalize after : (t.threads actor).won = wonAfter at change
  generalize t.shared = shared at change done ⊢
  cases change with
  | quiet same =>
    rw [same.completed] at done
    rw [same.replies, same.aborted]
    obtain replied | aborted | won | here := earlier done
    · exact .inl replied
    · exact .inr (.inl aborted)
    · exact .inr (.inr won)
    · exact .inr (.inr ⟨actor, after.trans here⟩)
  | wins =>
    rw [completed_complete, Bool.or_eq_true, decide_eq_true_eq] at done
    obtain rfl | old := done
    · exact .inr (.inr ⟨actor, after⟩)
    · obtain replied | aborted | won | ⟨⟨⟩⟩ := earlier old
      · exact .inl replied
      · exact .inr (.inl aborted)
      · exact .inr (.inr won)
  | writes written =>
    obtain replied | aborted | won | ⟨⟨⟩⟩ := earlier done
    · exact .inl (List.mem_append_left _ replied)
    · exact .inr (.inl aborted)
    · exact .inr (.inr won)
    · exact .inl (List.mem_append_right _ (List.mem_singleton.mpr rfl))
  | abandons abandoned =>
    cases flag : s.shared.completed request with
    | true =>
      obtain replied | aborted | won | ⟨⟨⟩⟩ := earlier flag
      · exact .inl replied
      · exact .inr (.inl (aborted_subset_abandon aborted))
      · exact .inr (.inr won)
    | false =>
      have here : (s.shared.complete abandoned).completed request = true := done
      rw [completed_complete, flag, Bool.or_false, decide_eq_true_eq] at here
      subst here
      exact .inr (.inl (mem_abandon flag))

theorem accounted_inductive : searchService.machine.Inductive Accounted where
  start := by
    rintro s ⟨starts, -⟩
    have initial : s.shared = .initial := starts
    constructor
    · intro request member
      rw [initial] at member
      cases member
    · intro request done
      rw [initial] at done
      cases done
  step accounted step := ⟨accounted_admitted accounted step, accounted_completed accounted step⟩

/-! ## One terminal reply -/

/-- **Terminal replies.** Whatever the threads do, at most one terminal reply is
written for a request. Once an admitted request is neither queued nor in the
hands of a thread, its reply has been written, unless an abort found it queued
and marked it completed; then none is written. -/
theorem terminal_replies {s : Service} (reachable : searchService.machine.Reachable s)
    (request : RequestRef) :
    s.shared.history.replies.count request ≤ 1 ∧
    (request ∈ s.shared.history.admitted → request ∉ s.shared.queued →
      (∀ actor, request ∉ (s.threads actor).holds) →
        (request ∉ s.shared.history.aborted ∧ s.shared.history.replies.count request = 1) ∨
          (request ∈ s.shared.history.aborted ∧ s.shared.history.replies.count request = 0)) := by
  have outlined := searchService_replies.inductive_.holds reachable
  have accounted := accounted_inductive.holds reachable
  refine ⟨List.nodup_iff_count_le_one.mp outlined.shared.once request, ?_⟩
  intro admitted unqueued free
  have undecided : ¬ ∃ actor, request ∈ (s.threads actor).undecided := by
    rintro ⟨actor, taken⟩
    exact free actor (List.mem_append_left _ taken)
  have unwon : ¬ ∃ actor, (s.threads actor).won = some request := by
    rintro ⟨actor, won⟩
    exact free actor (List.mem_append_right _ (Option.mem_toList.mpr won))
  have completed : s.shared.completed request = true :=
    ((accounted.admitted request admitted).resolve_left unqueued).resolve_left undecided
  obtain replied | aborted | won := accounted.completed request completed
  · refine .inl ⟨fun aborted => (outlined.shared.aborted request aborted).2 replied, ?_⟩
    exact List.count_eq_one_of_mem outlined.shared.once replied
  · exact .inr ⟨aborted, List.count_eq_zero.mpr (outlined.shared.aborted request aborted).2⟩
  · exact absurd won unwon

/-- The service before any thread has moved. -/
def freshService : Service := ⟨.initial, Actor.entry⟩

theorem freshService_reachable : searchService.machine.Reachable freshService :=
  .start ⟨rfl, fun _ => rfl⟩

theorem reachable_put {s : Service} (reachable : searchService.machine.Reachable s)
    (actor : Actor) {thread thread' : Thread} {sh' : Shared} (at_ : s.threads actor = thread)
    (move : Move thread s.shared thread' sh') :
    searchService.machine.Reachable (s.put actor thread' sh') :=
  reachable.next (Program.step_put at_ move)

/-- The service after the dispatch of one request. -/
def dispatchedService : Service where
  shared :=
    { Shared.initial with
      queue := { SearchQueueState.default with tasks := [⟨0, none⟩] }
      nextRequest := 1
      deadlineChannel := [.schedule ⟨0, 0, 10⟩]
      history := ⟨[0], [], [], [], [], [], [], []⟩ }
  threads := Actor.entry

theorem dispatchedService_reachable : searchService.machine.Reachable dispatchedService := by
  have dispatched := reachable_put freshService_reachable (.client 0) rfl
    (.client (.dispatch none 10 rfl))
  have scheduled := reachable_put dispatched (.client 0) rfl (.client (.schedule rfl))
  have pushed := reachable_put scheduled (.client 0) rfl (.client (.push rfl))
  convert pushed using 1
  refine System.ext_threads rfl fun actor => ?_
  match actor with
  | .worker | .scheduler | .client 0 | .client (_ + 1) | .publisher _ | .clock => rfl

/-- A request is dispatched, and the service is aborted before the worker takes
the request up: afterwards it is nowhere, and no reply was written. -/
theorem aborted_request_has_no_reply :
    ∃ s : Service, searchService.machine.Reachable s ∧ 0 ∈ s.shared.history.admitted ∧
      0 ∉ s.shared.queued ∧ s.shared.queue.active = none ∧
      s.threads .scheduler = .scheduler [] 1 .stopped ∧ s.shared.deadlineChannel = [] ∧
      (∀ actor, 0 ∉ (s.threads actor).holds) ∧ s.shared.history.replies.count 0 = 0 := by
  have closed := reachable_put dispatchedService_reachable (.client 0) rfl
    (.client (.close .abort rfl))
  have settled := reachable_put closed (.client 0) rfl (.client .settle)
  have abandoned := reachable_put settled (.client 0) rfl (.client .abandon)
  have noted := reachable_put abandoned (.client 0) rfl (.client .note)
  have aborted := reachable_put noted (.client 0) rfl (.client .abortScheduler)
  have received := reachable_put aborted .scheduler rfl (.scheduler (.schedule rfl))
  have stopped := reachable_put received .scheduler rfl (.scheduler (.shutdown rfl))
  refine ⟨_, stopped, by decide, by decide, rfl, rfl, rfl, ?_, by decide⟩
  intro actor
  match actor with
  | .worker | .scheduler | .client 0 | .client (_ + 1) | .publisher _ | .clock =>
    exact List.not_mem_nil

/-- The same request, answered by a shutdown. -/
theorem terminal_replies_of_shutdown :
    ∃ s : Service, searchService.machine.Reachable s ∧ 0 ∈ s.shared.history.admitted ∧
      0 ∉ s.shared.queued ∧ (∀ actor, 0 ∉ (s.threads actor).holds) ∧
      s.shared.history.replies.count 0 = 1 := by
  have closed := reachable_put dispatchedService_reachable (.client 0) rfl
    (.client (.close .shutdown rfl))
  have settled := reachable_put closed (.client 0) rfl (.client .settle)
  have won := reachable_put settled (.client 0) rfl (.client (.settleWin rfl))
  have written := reachable_put won (.client 0) rfl (.client .settleWrite)
  obtain ⟨s, reachable, admitted, unqueued, free, kept⟩ : ∃ s : Service,
      searchService.machine.Reachable s ∧ 0 ∈ s.shared.history.admitted ∧ 0 ∉ s.shared.queued ∧
        (∀ actor, 0 ∉ (s.threads actor).holds) ∧ 0 ∉ s.shared.history.aborted := by
    refine ⟨_, written, by decide, by decide, ?_, by decide⟩
    intro actor
    match actor with
    | .worker | .scheduler | .client 0 | .client (_ + 1) | .publisher _ | .clock =>
      exact List.not_mem_nil
  obtain ⟨-, once⟩ | ⟨aborted, -⟩ := (terminal_replies reachable 0).2 admitted unqueued free
  · exact ⟨s, reachable, admitted, unqueued, free, once⟩
  · exact absurd aborted kept

end ResumeIr.Daemon.SearchService
