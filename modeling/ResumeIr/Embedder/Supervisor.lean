import ResumeIr.Embedder.Protocol
import ResumeIr.Foundation.Machine

/-!
# The resident embedding supervisor

Callers put tasks into two queues of limited length. One supervisor thread takes them
one at a time, sends the inputs of a task to a worker process, waits for its response
and replies to the caller. A task that fails for any reason costs the worker its life:
the process is terminated, and another one is started.

The threads are interleaved between any two accesses to what they share. The supervisor
takes one step for each of its own accesses (`Phase`). The worker process and the thread
that reads its output are part of `Child`, which is gone when the child is terminated.
A frame is tagged with the task it belongs to. No part of the program reads the tag.
Times are in microseconds.
-/

namespace ResumeIr.Embedder

open Foundation Fallible

/-! ## Tasks -/

abbrev TaskId := Nat

def interactiveQueueCapacity : Nat := 8

def backgroundQueueCapacity : Nat := 4

def supervisorPoll : Nat := 10000

inductive EmbeddingPriority where
  | interactive
  | background
  deriving DecidableEq

structure EmbeddingTask where
  id : TaskId
  priority : EmbeddingPriority
  inputs : List EmbeddingInput
  enqueuedAt : Nat
  deadline : Nat
  deriving DecidableEq

/-- The shared cell of a task: 0, 1 and 2 in the source. -/
inductive Cancellation where
  | none
  | cancelled
  | expired
  deriving DecidableEq

/-- What a task is answered. -/
abbrev Outcome (F : Type) :=
  Except EmbeddingError (List (EmbeddingVector F) × EmbeddingTelemetry)

structure Reply (F : Type) where
  task : TaskId
  /-- The task that the response of the worker belonged to, if there was one. -/
  origin : Option TaskId
  outcome : Outcome F

structure ResidentEmbeddingSpec where
  modelId : String
  dimension : Nat
  timeoutMs : Nat

def ResidentEmbeddingSpec.timeout (spec : ResidentEmbeddingSpec) : Nat := spec.timeoutMs * 1000

/-! ## The child -/

structure Tagged (α : Type) where
  task : TaskId
  value : α
  deriving DecidableEq

/-- A frame of the worker with the task it belongs to. -/
abbrev Frame (F : Type) := Option TaskId × ResidentResponse F

inductive Worker where
  /-- The model is being loaded. -/
  | starting
  | reading
  | inferring (request : Tagged EmbedRequest)
  | exited
  deriving DecidableEq

/-- A worker process with its pipes, and the thread that reads its output. -/
structure Child (F : Type) where
  worker : Worker
  stdin : List (Tagged EmbedRequest)
  stdout : List (Frame F)
  /-- Whether the thread that reads the output goes on. -/
  reading : Bool
  /-- The channel between that thread and the supervisor, which holds one response. -/
  channel : Option (Except EmbeddingError (Frame F))

/-- A process that has just been started. -/
def Child.spawned {F : Type} : Child F := ⟨.starting, [], [], true, none⟩

inductive ChildEvent (F : Type) where
  | ready
  | read
  | infer (output : ResidentBatchOutput F)
  | inferenceFails
  | exit
  /-- The reading thread passes a frame on, or the end of the output. -/
  | relay
  /-- The reading thread cannot read on. -/
  | breaks

namespace Child

variable {F : Type} (finite : F → Bool) (spec : ResidentEmbeddingSpec)

/-- `run_response_reader` sends what it read if the channel has room. It ends after an
error, and if there is no room. -/
def deliver (c : Child F) (stdout : List (Frame F)) (message : Except EmbeddingError (Frame F)) :
    Child F :=
  { c with
    stdout
    channel := c.channel <|> some message
    reading := c.channel.isNone && message.isOk }

/-- One turn of the loop of `run_response_reader`, which waits while there is nothing to
read and the worker lives. -/
def relay (c : Child F) : Child F :=
  if c.reading then
    match c.stdout with
    | frame :: rest =>
        c.deliver rest (if frame.2.readable finite then .ok frame else .error .engineFailed)
    | [] => if c.worker = .exited then c.deliver [] (.error .engineFailed) else c
  else c

/-- What the worker does when it has read a request. -/
def accept (c : Child F) (request : Tagged EmbedRequest) (rest : List (Tagged EmbedRequest)) :
    Child F :=
  match requestRefusal spec.modelId spec.dimension request.value with
  | some refusal => { c with stdin := rest, stdout := c.stdout ++ [(some request.task, refusal)] }
  | none => { c with stdin := rest, worker := .inferring request }

/-- `serve_resident`, one turn at a time, and the reading thread. -/
def after (c : Child F) : ChildEvent F → Child F
  | .ready =>
      if c.worker = .starting then
        { c with
          worker := .reading
          stdout := c.stdout ++ [(none, .ready schemaVersion spec.modelId spec.dimension)] }
      else c
  | .read =>
      match c.worker, c.stdin with
      | .reading, request :: rest => c.accept spec request rest
      | _, _ => c
  | .infer output =>
      match c.worker with
      | .inferring request =>
          { c with
            worker := .reading
            stdout := c.stdout ++ [(some request.task, residentSuccessResponse request.value output)] }
      | _ => c
  | .inferenceFails =>
      match c.worker with
      | .inferring request =>
          { c with
            worker := .exited
            stdout := c.stdout ++ [(some request.task,
              .error schemaVersion (some request.value.requestId) .inferenceFailed true)] }
      | _ => c
  | .exit => { c with worker := .exited }
  | .relay => c.relay finite
  | .breaks => if c.reading then c.deliver c.stdout (.error .engineFailed) else c

end Child

/-! ## The supervisor -/

/-- What a child is started for. -/
inductive SpawnPurpose where
  | first
  | serve (task : EmbeddingTask)
  | restart

/-- A request that the supervisor has written and waits for. -/
structure Exchange where
  task : EmbeddingTask
  request : EmbedRequest
  queueWaitUs : Nat
  startedAt : Nat

/-- The next access of the supervisor thread. -/
inductive Phase (F : Type) where
  | launch (purpose : SpawnPurpose)
  | spawning (deadline : Nat) (purpose : SpawnPurpose)
  | top
  | lookInteractive
  /-- The interactive queue was found empty. -/
  | lookBackground
  | pollInteractive
  | taken (task : EmbeddingTask)
  | writing (task : EmbeddingTask)
  | checking (exchange : Exchange)
  | receiving (exchange : Exchange)
  | failing (task : EmbeddingTask) (error : EmbeddingError)
  | replying (task : EmbeddingTask) (origin : Option TaskId) (outcome : Outcome F) (restart : Bool)
  | relaunch
  | stopping
  | stopped

inductive ResidentEmbeddingStatus where
  | starting
  | ready
  | restarting
  | unavailable
  | shutdown
  deriving DecidableEq

structure Supervised (F : Type) where
  now : Nat
  shutdown : Bool
  status : ResidentEmbeddingStatus
  interactive : List EmbeddingTask
  background : List EmbeddingTask
  cancellation : TaskId → Cancellation
  nextRequestId : Nat
  child : Option (Child F)
  phase : Phase F
  /-- Every task that was put into a queue. -/
  accepted : List EmbeddingTask
  /-- Every reply that the supervisor sent. -/
  replies : List (Reply F)
  /-- What the callers were given. -/
  returned : List (TaskId × Outcome F)

def saturatedMicros (duration : Nat) : Nat := min duration u64Max

namespace Supervised

variable {F : Type} (finite : F → Bool) (spec : ResidentEmbeddingSpec)

variable (s : Supervised F)

/-- `cancellation_error`, with the cell it may set. -/
def cancellationError (task : EmbeddingTask) : Option EmbeddingError × (TaskId → Cancellation) :=
  match s.cancellation task.id with
  | .cancelled => (some .cancelled, s.cancellation)
  | .expired => (some .timeout, s.cancellation)
  | .none =>
      if task.deadline ≤ s.now then
        (some .timeout, fun id => if id = task.id then .expired else s.cancellation id)
      else (none, s.cancellation)

/-- `spawn_child` has returned. -/
def spawnReturns (purpose : SpawnPurpose) (child : Option (Child F)) : Supervised F :=
  { s with
    child
    status := if child.isSome then .ready else .unavailable
    phase := match purpose, child with
      | .serve task, some _ => .writing task
      | .serve task, none => .replying task none (.error .workerUnavailable) false
      | _, _ => .top }

/-- One turn of the loop in `spawn_child`. -/
def awaitReady (deadline : Nat) (purpose : SpawnPurpose) : Supervised F :=
  if s.shutdown ∨ deadline ≤ s.now then s.spawnReturns purpose none
  else match s.child with
    | none => s.spawnReturns purpose none
    | some c =>
        match c.channel with
        | some (.ok frame) =>
            if frame.2.validReady spec.modelId spec.dimension then
              s.spawnReturns purpose (some { c with channel := none })
            else s.spawnReturns purpose none
        | some (.error _) => s.spawnReturns purpose none
        | none =>
            if !c.reading then s.spawnReturns purpose none
            else if c.worker = .exited then
              { s with now := s.now + supervisorPoll }.spawnReturns purpose none
            else { s with now := s.now + supervisorPoll }

def takeTask (task : EmbeddingTask) : Supervised F :=
  let (error, cancellation) := s.cancellationError task
  match error with
  | some error =>
      { s with cancellation, phase := .replying task none (.error error) false }
  | none =>
      match s.child with
      | some _ => { s with phase := .writing task }
      | none => { s with status := .restarting, phase := .launch (.serve task) }

/-- The beginning of `execute_task`. The flag says whether the frame was written. -/
def writeRequest (task : EmbeddingTask) (wrote : Bool) : Supervised F :=
  let request := EmbedRequest.new s.nextRequestId spec.modelId spec.dimension
    (task.inputs.map fun input => ⟨input.role, input.text⟩)
  let s := { s with nextRequestId := (s.nextRequestId + 1) % 2 ^ 64 }
  if !request.valid then { s with phase := .failing task .invalidRequest }
  else match s.child with
    | none => { s with phase := .failing task .engineFailed }
    | some c =>
        if wrote then
          { s with
            child := some { c with stdin := c.stdin ++ [⟨task.id, request⟩] }
            phase := .checking ⟨task, request, saturatedMicros (s.now - task.enqueuedAt), s.now⟩ }
        else { s with phase := .failing task .engineFailed }

/-- The two checks before each wait. -/
def checkTask (exchange : Exchange) : Supervised F :=
  if s.shutdown then { s with phase := .failing exchange.task .workerUnavailable }
  else
    let (error, cancellation) := s.cancellationError exchange.task
    match error with
    | some error => { s with cancellation, phase := .failing exchange.task error }
    | none => { s with phase := .receiving exchange }

/-- The vectors of a response with the ids of the inputs. -/
def toVectors (inputs : List EmbeddingInput) (vectors : List (List F)) :
    Except EmbeddingError (List (EmbeddingVector F)) :=
  (inputs.zip vectors).mapM fun pair => EmbeddingVector.new pair.1.id spec.modelId pair.2

/-- What a response is worth. -/
def readResponse (now : Nat) (exchange : Exchange) (response : ResidentResponse F) :
    Outcome F :=
  if response.validResult finite exchange.request.requestId exchange.task.inputs.length
      spec.dimension then
    match response with
    | .result _ _ vectors telemetry =>
        (toVectors spec exchange.task.inputs vectors).map fun vectors =>
          (vectors, { telemetry with
            queueWaitUs := exchange.queueWaitUs
            ipcWallUs := saturatedMicros (now - exchange.startedAt) })
    | _ => .error .engineFailed
  else .error .engineFailed

/-- The wait of `execute_task` for a response. -/
def receiveResponse (exchange : Exchange) : Supervised F :=
  match s.child with
  | none => { s with phase := .failing exchange.task .engineFailed }
  | some c =>
      match c.channel with
      | some (.ok frame) =>
          let s := { s with child := some { c with channel := none } }
          match readResponse finite spec s.now exchange frame.2 with
          | .ok result => { s with phase := .replying exchange.task frame.1 (.ok result) false }
          | .error error => { s with phase := .failing exchange.task error }
      | some (.error error) =>
          { s with
            child := some { c with channel := none }
            phase := .failing exchange.task error }
      | none =>
          if !c.reading then { s with phase := .failing exchange.task .engineFailed }
          else if c.worker = .exited then
            { s with
              now := s.now + supervisorPoll
              phase := .failing exchange.task .engineFailed }
          else { s with now := s.now + supervisorPoll, phase := .checking exchange }

/-- One step of the supervisor thread. The flag is the answer of the operating system to
the call that the step makes, if it makes one. -/
def supervise (done : Bool) : Supervised F :=
  match s.phase with
  | .launch purpose =>
      if done then
        { s with child := some .spawned, phase := .spawning (s.now + spec.timeout) purpose }
      else s.spawnReturns purpose none
  | .spawning deadline purpose => s.awaitReady spec deadline purpose
  | .top => { s with phase := if s.shutdown then .stopping else .lookInteractive }
  | .lookInteractive =>
      match s.interactive with
      | task :: rest => { s with interactive := rest, phase := .taken task }
      | [] => { s with phase := .lookBackground }
  | .lookBackground =>
      match s.background with
      | task :: rest => { s with background := rest, phase := .taken task }
      | [] => { s with phase := .pollInteractive }
  | .pollInteractive =>
      match s.interactive with
      | task :: rest => { s with interactive := rest, phase := .taken task }
      | [] => { s with now := s.now + supervisorPoll, phase := .top }
  | .taken task => s.takeTask task
  | .writing task => s.writeRequest spec task done
  | .checking exchange => s.checkTask exchange
  | .receiving exchange => s.receiveResponse finite spec exchange
  | .failing task error =>
      { s with
        child := none
        status := .restarting
        phase := .replying task none (.error error) true }
  | .replying task origin outcome restart =>
      { s with
        replies := ⟨task.id, origin, outcome⟩ :: s.replies
        phase := if restart then .relaunch else .top }
  | .relaunch => { s with phase := if s.shutdown then .top else .launch .restart }
  | .stopping =>
      { s with
        child := none
        status := .shutdown
        interactive := []
        background := []
        phase := .stopped }
  | .stopped => s

/-! ## The callers -/

/-- What a caller asks for. -/
structure Submission where
  id : TaskId
  priority : EmbeddingPriority
  inputs : List EmbeddingInput
  budget : EmbeddingBudget
  timeoutMs : Nat

def Submission.task (submission : Submission) (now : Nat) : EmbeddingTask :=
  ⟨submission.id, submission.priority, submission.inputs, now, now + submission.timeoutMs * 1000⟩

/-- Whether the receiving ends of the queues are gone. -/
def disconnected : Bool :=
  match s.phase with
  | .stopped => true
  | _ => false

def pushTask (task : EmbeddingTask) : Except EmbeddingError (Supervised F) :=
  if s.disconnected then .error .workerUnavailable
  else match task.priority with
    | .interactive =>
        if s.interactive.length < interactiveQueueCapacity then
          .ok { s with
            interactive := s.interactive ++ [task]
            accepted := task :: s.accepted }
        else .error .overloaded
    | .background =>
        if s.background.length < backgroundQueueCapacity then
          .ok { s with
            background := s.background ++ [task]
            accepted := task :: s.accepted }
        else .error .overloaded

/-- `enqueue_batch`. -/
def enqueueBatch (submission : Submission) : Except EmbeddingError (Supervised F) := do
  validateEmbeddingInputs submission.inputs submission.budget
  check (submission.inputs ≠ [] ∧ submission.inputs.length ≤ maxInputs ∧ submission.timeoutMs ≠ 0)
    .invalidRequest
  s.pushTask (submission.task s.now)

/-- The cell of a task is set unless it was set before. -/
def setCancellation (id : TaskId) (value : Cancellation) : Supervised F :=
  { s with cancellation := fun other =>
      if other = id ∧ s.cancellation id = .none then value else s.cancellation other }

/-- A caller that is still waiting is given the reply, or an error when there will be
none. -/
def receive (id : TaskId) : Supervised F :=
  if s.returned.any fun earlier => earlier.1 = id then s
  else match s.replies.find? fun reply => reply.task = id with
    | some reply => { s with returned := (id, reply.outcome) :: s.returned }
    | none =>
        if s.disconnected then { s with returned := (id, .error .workerUnavailable) :: s.returned }
        else s

end Supervised

/-! ## The machine -/

inductive SupervisorEvent (F : Type) where
  | submit (submission : Supervised.Submission)
  | cancel (id : TaskId)
  | expire (id : TaskId)
  | receive (id : TaskId)
  | tick (duration : Nat)
  | shutdown
  | supervise (done : Bool)
  | child (event : ChildEvent F)

section Machine

variable {F : Type} (finite : F → Bool) (spec : ResidentEmbeddingSpec)

def Supervised.after (s : Supervised F) : SupervisorEvent F → Supervised F
  | .submit submission =>
      match s.enqueueBatch submission with
      | .ok t => t
      | .error _ => s
  | .cancel id => s.setCancellation id .cancelled
  | .expire id =>
      if s.accepted.any fun task => decide (task.id = id) && decide (task.deadline ≤ s.now) then
        s.setCancellation id .expired
      else s
  | .receive id => s.receive id
  | .tick duration => { s with now := s.now + duration }
  | .shutdown => { s with shutdown := true }
  | .supervise done => s.supervise finite spec done
  | .child event => { s with child := s.child.map fun c => c.after finite spec event }

/-- A supervisor thread that has just been started. -/
def Supervised.initial (now : Nat) : Supervised F where
  now := now
  shutdown := false
  status := .starting
  interactive := []
  background := []
  cancellation _ := .none
  nextRequestId := 1
  child := none
  phase := .launch .first
  accepted := []
  replies := []
  returned := []

/-- The model may return any output that it relates to the texts it was given, and the ids
of the tasks are not used twice. -/
def supervisorMachine (model : List String → ResidentBatchOutput F → Prop) :
    Machine (Supervised F) (SupervisorEvent F) where
  start s := ∃ now, s = .initial now
  step s event t :=
    t = s.after finite spec event ∧
      match event with
      | .submit submission => ∀ task ∈ s.accepted, task.id ≠ submission.id
      | .child (.infer output) => ∀ c ∈ s.child, ∀ request, c.worker = .inferring request →
          model request.value.texts output
      | _ => True

end Machine

end ResumeIr.Embedder
