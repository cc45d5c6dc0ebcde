import ResumeIr.Daemon.SearchService.Cancellation
import ResumeIr.Foundation.Threads
import ResumeIr.SearchRuntime.CoordinatorRuns

/-!
# The threads of the search service

Five kinds of threads meet in the search service: the search worker, the
deadline scheduler, the clients that dispatch and cancel requests and in the end
close the service, the publishers that hand generations over, and the clock.
They share the queue, the flags of the requests, the registry of cancel tokens
and a few channels.

A move of a thread is one access to what is shared (one method under a lock, one
compare-and-set, load or store of a flag, one send or receive, one write to a
connection), together with the local work before it. Every local choice that the
threads do not control (how a search ends, whether a runtime opens, when a wait
times out) is left open.

What the moves write to connections and hand to publishers is also kept in a
history that no thread reads.
-/

namespace ResumeIr.Daemon.SearchService

open SearchRuntime Foundation Fallible

/-! ## What is shared -/

structure ScheduledDeadline where
  sequence : UInt64
  control : RequestRef
  expiresAt : Nat

inductive DeadlineCommand where
  | schedule (deadline : ScheduledDeadline)
  | wake
  | shutdown

/-- What has happened to requests and to generation controls so far. -/
structure History where
  /-- The requests that were dispatched with success. -/
  admitted : List RequestRef
  /-- The requests to which a terminal reply was written, once per reply. -/
  replies : List RequestRef
  /-- The requests that an abort marked completed while they were not. -/
  aborted : List RequestRef
  /-- The installs that the worker executed on a runtime. -/
  executed : List ReplyRef
  /-- The controls withdrawn after a timeout. -/
  withdrawn : List ReplyRef
  /-- The controls rejected because the queue was closed. -/
  rejected : List ReplyRef
  /-- The results that the worker produced. -/
  produced : List (ReplyRef × Bool)
  /-- The results that publishers received. -/
  delivered : List (ReplyRef × Bool)

structure Shared where
  queue : SearchQueueState
  controls : RequestRef → RequestControl
  /-- The first request control that is not in use. -/
  nextRequest : RequestRef
  cancellations : CancellationRegistryState
  deadlineChannel : List DeadlineCommand
  /-- Whether the scheduler still holds the receiving end. -/
  deadlineReceiver : Bool
  workerRunning : Bool
  now : Nat
  replyChannels : ReplyRef → Option Bool
  /-- The first reply channel that is not in use. -/
  nextReply : ReplyRef
  history : History

def Shared.initial : Shared where
  queue := .default
  controls := fun _ => .new
  nextRequest := 0
  cancellations := .default
  deadlineChannel := []
  deadlineReceiver := true
  workerRunning := true
  now := 0
  replyChannels := fun _ => none
  nextReply := 0
  history := ⟨[], [], [], [], [], [], [], []⟩

namespace Shared

def completed (sh : Shared) (request : RequestRef) : Bool := (sh.controls request).completed

/-- The flag of a request set, by a compare-and-set that found it clear or by a
plain store. -/
def complete (sh : Shared) (request : RequestRef) : Shared :=
  { sh with
    controls := Function.update sh.controls request
      { sh.controls request with completed := true } }

variable (sh : Shared)

def requestCancellation (request : RequestRef) : Shared :=
  { sh with
    controls := Function.update sh.controls request
      { sh.controls request with cancellation := true } }

def cancelActive : Shared :=
  match sh.queue.active with
  | some request => sh.requestCancellation request
  | none => sh

def sendDeadline (command : DeadlineCommand) : Shared :=
  { sh with deadlineChannel := sh.deadlineChannel ++ [command] }

def finishToken (task : SearchTask) (status : CancelStatus) : Shared :=
  { sh with cancellations := sh.cancellations.complete task.cancelToken status }

def write (request : RequestRef) : Shared :=
  { sh with history.replies := sh.history.replies ++ [request] }

/-- A control taken out of the queue by closing it: its channel receives
`false`. -/
def reject (sh : Shared) : Option QueuedGenerationControl → Shared
  | some control =>
      { sh with
        replyChannels := Function.update sh.replyChannels control.command.reply (some false)
        history.rejected := sh.history.rejected ++ [control.command.reply] }
  | none => sh

/-- An abort marks a request completed without a reply. -/
def abandon (request : RequestRef) : Shared :=
  { sh.complete request with
    history.aborted :=
      if sh.completed request then sh.history.aborted else sh.history.aborted ++ [request] }

end Shared

/-! ## The search worker -/

/-- `DaemonQueryRuntime::open`: a coordinator whose current generation could be
prepared. -/
def openRuntime (env : Surroundings) : Option QueryCoordinator :=
  match env.canonicalDataDir, env.vectorRoot with
  | some dataDir, true =>
      match (prepareCurrentGeneration env).run (.opened dataDir) with
      | .ok _ coordinator => some coordinator
      | .error _ _ => none
  | _, _ => none

/-- The calls that executing a search may make on the coordinator. -/
def isSearchCall : Event → Prop
  | .withQuery _ => True
  | .withLexicalQuery _ => True
  | .takeArtifactFault => True
  | _ => False

def Searches (before after : QueryCoordinator) : Prop :=
  ∃ calls : List Event, (∀ call ∈ calls, isSearchCall call) ∧
    after = calls.foldl QueryCoordinator.after before

inductive WorkerPoint where
  | starting
  | waiting
  | controlling (control : QueuedGenerationControl)
  | running (control : QueuedGenerationControl)
  | completing (control : QueuedGenerationControl) (result : Bool)
  | answering (reply : ReplyRef) (result : Bool)
  | checking (task : SearchTask)
  | opening (task : SearchTask)
  | searching (task : SearchTask)
  | deciding (task : SearchTask) (status : CancelStatus)
  | writing (task : SearchTask) (status : CancelStatus)
  | recording (task : SearchTask) (status : CancelStatus) (wake : Bool)
  | releasing (task : SearchTask) (wake : Bool)
  | waking
  | stopped

/-- The worker opens a runtime and tells the queue whether it has one. -/
def Shared.runtimeOpened (sh : Shared) (runtime : Option QueryCoordinator) : Shared :=
  { sh with queue := sh.queue.setRuntimePrepared runtime.isSome }

/-- `run_search_worker`. The runtime is a variable of the worker. -/
inductive WorkerMove : Option QueryCoordinator → WorkerPoint → Shared →
    Option QueryCoordinator → WorkerPoint → Shared → Prop where
  | start {runtime sh} (env : Surroundings) :
      WorkerMove runtime .starting sh (openRuntime env) .waiting
        (sh.runtimeOpened (openRuntime env))
  | popControl {runtime sh control queue}
      (popped : sh.queue.pop = (.work (.generation control), queue)) :
      WorkerMove runtime .waiting sh runtime (.controlling control) { sh with queue }
  | popTask {runtime sh task queue} (popped : sh.queue.pop = (.work (.query task), queue)) :
      WorkerMove runtime .waiting sh runtime (.checking task) { sh with queue }
  | stop {runtime sh queue} (popped : sh.queue.pop = (.stop, queue)) :
      WorkerMove runtime .waiting sh runtime .stopped { sh with queue, workerRunning := false }
  -- a generation control
  | openForControl {sh control} (env : Surroundings)
      (opens : control.command.isFinalize = false) :
      WorkerMove none (.controlling control) sh (openRuntime env) (.running control)
        (sh.runtimeOpened (openRuntime env))
  | keepForControl {runtime sh control}
      (keeps : runtime.isSome = true ∨ control.command.isFinalize = true) :
      WorkerMove runtime (.controlling control) sh runtime (.running control) sh
  | prepare {runtime sh id reply} :
      WorkerMove runtime (.running ⟨id, .prepareRuntime reply⟩) sh runtime
        (.completing ⟨id, .prepareRuntime reply⟩ runtime.isSome) sh
  | install {sh id reply} (prepared : PreparedQueryGeneration) (coordinator : QueryCoordinator) :
      WorkerMove (some coordinator) (.running ⟨id, .install prepared reply⟩) sh
        (some (final (installPreparedGeneration prepared) coordinator))
        (.completing ⟨id, .install prepared reply⟩
          (answer (installPreparedGeneration prepared) coordinator).isSome)
        { sh with history.executed := sh.history.executed ++ [reply] }
  | installNowhere {sh id prepared reply} :
      WorkerMove none (.running ⟨id, .install prepared reply⟩) sh none
        (.completing ⟨id, .install prepared reply⟩ false) sh
  | activate {sh id reply coordinator activated} (env : Surroundings)
      (done : (activatePreparedGeneration env).run coordinator = .ok () activated) :
      WorkerMove (some coordinator) (.running ⟨id, .finalize .committed reply⟩) sh
        (some activated) (.completing ⟨id, .finalize .committed reply⟩ true) sh
  | activateFails {sh id reply coordinator dropped error} (env : Surroundings)
      (failed : (activatePreparedGeneration env).run coordinator = .error error dropped) :
      WorkerMove (some coordinator) (.running ⟨id, .finalize .committed reply⟩) sh none
        (.completing ⟨id, .finalize .committed reply⟩ false) (sh.runtimeOpened none)
  | discard {sh id reply} (coordinator : QueryCoordinator) :
      WorkerMove (some coordinator) (.running ⟨id, .finalize .aborted reply⟩) sh
        (some (final discardPreparedGeneration coordinator))
        (.completing ⟨id, .finalize .aborted reply⟩ true) sh
  | finalizeNowhere {sh id disposition reply} :
      WorkerMove none (.running ⟨id, .finalize disposition reply⟩) sh none
        (.completing ⟨id, .finalize disposition reply⟩ false) (sh.runtimeOpened none)
  | completeControl {runtime sh control result} :
      WorkerMove runtime (.completing control result) sh runtime
        (.answering control.command.reply result)
        { sh with
          queue := sh.queue.completeGenerationControl control.id result control.command.isFinalize
          history.produced := sh.history.produced ++ [(control.command.reply, result)] }
  | answer {runtime sh reply result} :
      WorkerMove runtime (.answering reply result) sh runtime .waiting
        { sh with replyChannels := Function.update sh.replyChannels reply (some result) }
  -- a query
  | skip {runtime sh task} (done : sh.completed task.control = true) :
      WorkerMove runtime (.checking task) sh runtime (.recording task .complete false) sh
  | proceed {runtime sh task} (undone : sh.completed task.control = false) :
      WorkerMove runtime (.checking task) sh runtime (.opening task) sh
  | openForTask {sh task} (env : Surroundings) :
      WorkerMove none (.opening task) sh (openRuntime env) (.searching task)
        (sh.runtimeOpened (openRuntime env))
  | keepForTask {sh task} (coordinator : QueryCoordinator) :
      WorkerMove (some coordinator) (.opening task) sh (some coordinator) (.searching task) sh
  | search {sh task coordinator after} (status : CancelStatus)
      (searched : Searches coordinator after) :
      WorkerMove (some coordinator) (.searching task) sh (some after) (.deciding task status) sh
  | searchNowhere {sh task} :
      WorkerMove none (.searching task) sh none (.deciding task .complete) sh
  | win {runtime sh task status} (free : sh.completed task.control = false) :
      WorkerMove runtime (.deciding task status) sh runtime (.writing task status)
        (sh.complete task.control)
  | lose {runtime sh task status} (taken : sh.completed task.control = true) :
      WorkerMove runtime (.deciding task status) sh runtime (.recording task .complete false) sh
  | writeReply {runtime sh task status} :
      WorkerMove runtime (.writing task status) sh runtime (.recording task status true)
        (sh.write task.control)
  | record {runtime sh task status wake} :
      WorkerMove runtime (.recording task status wake) sh runtime (.releasing task wake)
        (sh.finishToken task status)
  | release {runtime sh task wake} :
      WorkerMove runtime (.releasing task wake) sh runtime (if wake then .waking else .waiting)
        { sh with queue := sh.queue.completeActive task.control }
  | wakeScheduler {runtime sh} :
      WorkerMove runtime .waking sh runtime .waiting (sh.sendDeadline .wake)

/-! ## The deadline scheduler -/

inductive SchedulerPoint where
  | looping
  | popped (deadline : ScheduledDeadline)
  | claimed (deadline : ScheduledDeadline)
  | writing (deadline : ScheduledDeadline)
  | stopped

/-- The order of the heap: the earlier deadline first, then the earlier
request. -/
def ScheduledDeadline.before (first second : ScheduledDeadline) : Prop :=
  first.expiresAt < second.expiresAt ∨
    (first.expiresAt = second.expiresAt ∧ first.sequence ≤ second.sequence)

instance : DecidableRel ScheduledDeadline.before := fun _ _ =>
  inferInstanceAs (Decidable (_ < _ ∨ (_ = _ ∧ _ ≤ _)))

/-- `run_deadline_scheduler`. The heap and the sequence number are variables of
the scheduler. Entries of completed requests are dropped one at a time. -/
inductive SchedulerMove : List ScheduledDeadline → UInt64 → SchedulerPoint → Shared →
    List ScheduledDeadline → UInt64 → SchedulerPoint → Shared → Prop where
  | expire {deadline rest sequence sh} (due : deadline.expiresAt ≤ sh.now) :
      SchedulerMove (deadline :: rest) sequence .looping sh rest sequence (.popped deadline) sh
  | forget {earlier deadline later sequence sh} (done : sh.completed deadline.control = true) :
      SchedulerMove (earlier ++ deadline :: later) sequence .looping sh (earlier ++ later) sequence
        .looping sh
  | schedule {scheduled sequence sh deadline rest}
      (received : sh.deadlineChannel = .schedule deadline :: rest) :
      SchedulerMove scheduled sequence .looping sh
        (scheduled.orderedInsert ScheduledDeadline.before { deadline with sequence })
        (sequence + 1) .looping { sh with deadlineChannel := rest }
  | wake {scheduled sequence sh rest} (received : sh.deadlineChannel = .wake :: rest) :
      SchedulerMove scheduled sequence .looping sh scheduled sequence .looping
        { sh with deadlineChannel := rest }
  | shutdown {scheduled sequence sh rest} (received : sh.deadlineChannel = .shutdown :: rest) :
      SchedulerMove scheduled sequence .looping sh [] sequence .stopped
        { sh with deadlineChannel := rest, deadlineReceiver := false }
  | win {scheduled sequence sh deadline} (free : sh.completed deadline.control = false) :
      SchedulerMove scheduled sequence (.popped deadline) sh scheduled sequence (.claimed deadline)
        (sh.complete deadline.control)
  | lose {scheduled sequence sh deadline} (taken : sh.completed deadline.control = true) :
      SchedulerMove scheduled sequence (.popped deadline) sh scheduled sequence .looping sh
  | cancel {scheduled sequence sh deadline} :
      SchedulerMove scheduled sequence (.claimed deadline) sh scheduled sequence (.writing deadline)
        (sh.requestCancellation deadline.control)
  | writeReply {scheduled sequence sh deadline} :
      SchedulerMove scheduled sequence (.writing deadline) sh scheduled sequence .looping
        (sh.write deadline.control)

/-! ## Clients of the service -/

/-- The two ways to close the service that take the queued tasks out. -/
inductive Closing where
  | shutdown
  | abort
  deriving DecidableEq

inductive ClientPoint where
  | idle
  -- `dispatch_reply`
  | scheduling (task : SearchTask) (expiresAt : Nat)
  | pushing (task : SearchTask)
  -- `cancel`
  | cancelling (control : RequestRef)
  | removing (control : RequestRef)
  | claiming (task : SearchTask)
  | writing (task : SearchTask)
  | recording (task : SearchTask) (status : CancelStatus)
  | waking
  -- `shutdown` and `abort_for_process_exit`
  | closing (how : Closing) (tasks : List SearchTask)
  | settling (how : Closing) (task : SearchTask) (rest : List SearchTask)
  | replying (task : SearchTask) (rest : List SearchTask)
  | noting (how : Closing) (task : SearchTask) (status : CancelStatus) (rest : List SearchTask)
  | stopping
  -- `drain_admitted`
  | draining

/-- The calls on the service. A dispatch that is overloaded or whose token is
taken, and a cancel whose token is not active, answer on their own connection
and share nothing. -/
inductive ClientMove : ClientPoint → Shared → ClientPoint → Shared → Prop where
  | dispatch {sh cancellations} (cancelToken : Option String) (expiresAt : Nat)
      (registered : sh.cancellations.registerRequest cancelToken sh.nextRequest =
        some cancellations) :
      ClientMove .idle sh (.scheduling ⟨sh.nextRequest, cancelToken⟩ expiresAt)
        { sh with cancellations, nextRequest := sh.nextRequest + 1 }
  | unscheduled {sh task expiresAt} :
      ClientMove (.scheduling task expiresAt) sh .idle sh
  | schedule {sh task expiresAt} (receiver : sh.deadlineReceiver = true) :
      ClientMove (.scheduling task expiresAt) sh (.pushing task)
        (sh.sendDeadline (.schedule ⟨0, task.control, expiresAt⟩))
  | push {sh task queue} (pushed : sh.queue.push task = some queue) :
      ClientMove (.pushing task) sh .idle
        { sh with queue, history.admitted := sh.history.admitted ++ [task.control] }
  | pushRefused {sh task} (refused : sh.queue.push task = none) :
      ClientMove (.pushing task) sh .idle sh
  -- cancel
  | lookup {sh control} (token : String)
      (found : sh.cancellations.lookup token = .active control) :
      ClientMove .idle sh (.cancelling control) sh
  | requestCancellation {sh control} :
      ClientMove (.cancelling control) sh (.removing control) (sh.requestCancellation control)
  | remove {sh control task queue} (removed : sh.queue.remove control = some (task, queue)) :
      ClientMove (.removing control) sh (.claiming task) { sh with queue }
  | absent {sh control} (missing : sh.queue.remove control = none) :
      ClientMove (.removing control) sh .idle sh
  | win {sh task} (free : sh.completed task.control = false) :
      ClientMove (.claiming task) sh (.writing task) (sh.complete task.control)
  | lose {sh task} (taken : sh.completed task.control = true) :
      ClientMove (.claiming task) sh (.recording task .complete) sh
  | writeReply {sh task} :
      ClientMove (.writing task) sh (.recording task .cancelled) (sh.write task.control)
  | record {sh task status} :
      ClientMove (.recording task status) sh .waking (sh.finishToken task status)
  | wakeScheduler {sh} :
      ClientMove .waking sh .idle (sh.sendDeadline .wake)
  -- closing
  | enablePublication {sh} :
      ClientMove .idle sh .idle { sh with queue := sh.queue.enablePublication }
  | drain {sh rejected queue} (closed : sh.queue.closeForDrain = (rejected, queue)) :
      ClientMove .idle sh .draining ({ sh with queue }.reject rejected)
  | drained {sh} (stopped : sh.workerRunning = false) :
      ClientMove .draining sh .idle (sh.sendDeadline .shutdown)
  | close {sh rejected tasks queue} (how : Closing)
      (closed : sh.queue.closeAndCancel = (rejected, tasks, queue)) :
      ClientMove .idle sh (.closing how tasks) ({ sh.cancelActive with queue }.reject rejected)
  | settle {sh how task rest} :
      ClientMove (.closing how (task :: rest)) sh (.settling how task rest)
        (sh.requestCancellation task.control)
  | settleWin {sh task rest} (free : sh.completed task.control = false) :
      ClientMove (.settling .shutdown task rest) sh (.replying task rest)
        (sh.complete task.control)
  | settleLose {sh task rest} (taken : sh.completed task.control = true) :
      ClientMove (.settling .shutdown task rest) sh (.noting .shutdown task .complete rest) sh
  | settleWrite {sh task rest} :
      ClientMove (.replying task rest) sh (.noting .shutdown task .cancelled rest)
        (sh.write task.control)
  | abandon {sh task rest} :
      ClientMove (.settling .abort task rest) sh (.noting .abort task .cancelled rest)
        (sh.abandon task.control)
  | note {sh how task status rest} :
      ClientMove (.noting how task status rest) sh (.closing how rest) (sh.finishToken task status)
  | wakeAndStop {sh} :
      ClientMove (.closing .shutdown []) sh .stopping (sh.sendDeadline .wake)
  | stopScheduler {sh} :
      ClientMove .stopping sh .idle (sh.sendDeadline .shutdown)
  | abortScheduler {sh} :
      ClientMove (.closing .abort []) sh .idle (sh.sendDeadline .shutdown)

/-! ## Publishers -/

open SearchQueueState in
inductive PublisherPoint where
  | idle
  | waiting (reply : ReplyRef) (id : GenerationControlId) (onTimeout : ControlTimeoutDisposition)
  | acknowledging (id : GenerationControlId)

/-- The calls on the handoff. A call that the queue answers at once leaves
nothing behind. A wait ends with a result from the channel, or by a timeout at
any time. -/
inductive PublisherMove : PublisherPoint → Shared → PublisherPoint → Shared → Prop where
  | prepareRuntime {sh id queue}
      (enqueued : sh.queue.prepareRuntime sh.nextReply = (.queued id, queue)) :
      PublisherMove .idle sh (.waiting sh.nextReply id .withdraw)
        { sh with queue, nextReply := sh.nextReply + 1 }
  | stage {sh id queue} (prepared : PreparedQueryGeneration)
      (enqueued : sh.queue.stageGeneration prepared sh.nextReply = some (id, queue)) :
      PublisherMove .idle sh (.waiting sh.nextReply id .withdraw)
        { sh with queue, nextReply := sh.nextReply + 1 }
  | finishPublication {sh id queue} (disposition : PublicationDisposition)
      (enqueued : sh.queue.finalizeGeneration disposition sh.nextReply = some (id, queue)) :
      PublisherMove .idle sh (.waiting sh.nextReply id .fatal)
        { sh with queue, nextReply := sh.nextReply + 1 }
  | receive {sh reply id onTimeout result} (received : sh.replyChannels reply = some result) :
      PublisherMove (.waiting reply id onTimeout) sh (.acknowledging id)
        { sh with
          replyChannels := Function.update sh.replyChannels reply none
          history.delivered := sh.history.delivered ++ [(reply, result)] }
  | acknowledge {sh id} :
      PublisherMove (.acknowledging id) sh .idle
        { sh with queue := sh.queue.acknowledgeGenerationControl id }
  | resolveCompleted {sh reply id onTimeout result queue}
      (resolved : sh.queue.resolveGenerationControlTimeout id onTimeout =
        (.completed result, queue)) :
      PublisherMove (.waiting reply id onTimeout) sh .idle
        { sh with queue, history.delivered := sh.history.delivered ++ [(reply, result)] }
  | resolveWithdrawn {sh reply id onTimeout queue}
      (resolved : sh.queue.resolveGenerationControlTimeout id onTimeout = (.withdrawn, queue)) :
      PublisherMove (.waiting reply id onTimeout) sh .idle
        { sh with queue, history.withdrawn := sh.history.withdrawn ++ [reply] }
  | resolveFatal {sh reply id onTimeout queue}
      (resolved : sh.queue.resolveGenerationControlTimeout id onTimeout = (.fatal, queue)) :
      PublisherMove (.waiting reply id onTimeout) sh .idle { sh.cancelActive with queue }

/-! ## The program -/

inductive Actor where
  | worker
  | scheduler
  | client (number : Nat)
  | publisher (number : Nat)
  | clock
  deriving DecidableEq

inductive Thread where
  | worker (runtime : Option QueryCoordinator) (point : WorkerPoint)
  | scheduler (scheduled : List ScheduledDeadline) (sequence : UInt64) (point : SchedulerPoint)
  | client (point : ClientPoint)
  | publisher (point : PublisherPoint)
  | clock

def Actor.entry : Actor → Thread
  | .worker => .worker none .starting
  | .scheduler => .scheduler [] 0 .looping
  | .client _ => .client .idle
  | .publisher _ => .publisher .idle
  | .clock => .clock

inductive Move : Thread → Shared → Thread → Shared → Prop where
  | worker {runtime point sh runtime' point' sh'}
      (move : WorkerMove runtime point sh runtime' point' sh') :
      Move (.worker runtime point) sh (.worker runtime' point') sh'
  | scheduler {scheduled sequence point sh scheduled' sequence' point' sh'}
      (move : SchedulerMove scheduled sequence point sh scheduled' sequence' point' sh') :
      Move (.scheduler scheduled sequence point) sh (.scheduler scheduled' sequence' point') sh'
  | client {point sh point' sh'} (move : ClientMove point sh point' sh') :
      Move (.client point) sh (.client point') sh'
  | publisher {point sh point' sh'} (move : PublisherMove point sh point' sh') :
      Move (.publisher point) sh (.publisher point') sh'
  | tick {sh} : Move .clock sh .clock { sh with now := sh.now + 1 }

def searchService : Program Shared Actor Thread where
  start sh := sh = .initial
  entry actor thread := thread = actor.entry
  move _ := Move

abbrev Service := System Shared Actor Thread

end ResumeIr.Daemon.SearchService
