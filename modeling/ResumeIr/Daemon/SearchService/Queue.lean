import ResumeIr.SearchRuntime.Coordinator

/-!
# The queue of the search service

The queue hands two kinds of work to the search worker: the queries that the
service has admitted, and the generation controls by which a publisher hands a
new generation over. At most one generation control is under way, and it goes
before every query.

All fields are behind one lock. Each method is one function from the state it
finds to the state it leaves, with what it returns or sends on the way.
-/

namespace ResumeIr.Daemon.SearchService

open SearchRuntime

/-! ## Requests -/

/-- The request control that a shared pointer points to. -/
abbrev RequestRef := Nat

/-- The flags of one request that all threads share. -/
structure RequestControl where
  completed : Bool
  cancellation : Bool

def RequestControl.new : RequestControl := ⟨false, false⟩

/-- An admitted query. Of its envelope only the cancel token is used outside its
execution and its reply. -/
structure SearchTask where
  control : RequestRef
  cancelToken : Option String
  deriving DecidableEq

/-! ## Generation controls -/

/-- The reply channel that a publisher waits on. -/
abbrev ReplyRef := Nat

inductive PublicationDisposition where
  | committed
  | aborted
  deriving DecidableEq

inductive GenerationControl where
  | prepareRuntime (reply : ReplyRef)
  | install (prepared : PreparedQueryGeneration) (reply : ReplyRef)
  | finalize (disposition : PublicationDisposition) (reply : ReplyRef)

def GenerationControl.reply : GenerationControl → ReplyRef
  | .prepareRuntime reply => reply
  | .install _ reply => reply
  | .finalize _ reply => reply

def GenerationControl.isInstall : GenerationControl → Bool
  | .install .. => true
  | _ => false

def GenerationControl.isFinalize : GenerationControl → Bool
  | .finalize .. => true
  | _ => false

abbrev GenerationControlId := UInt64

structure QueuedGenerationControl where
  id : GenerationControlId
  command : GenerationControl

structure CompletedGenerationControl where
  id : GenerationControlId
  result : Bool

/-! ## The state behind the lock -/

structure SearchQueueState where
  tasks : List SearchTask
  active : Option RequestRef
  generationControl : Option QueuedGenerationControl
  activeGenerationControl : Option GenerationControlId
  completedGenerationControl : Option CompletedGenerationControl
  nextGenerationControlId : UInt64
  publicationCommitInFlight : Bool
  publicationEnabled : Bool
  runtimePrepared : Bool
  controlProtocolFailed : Bool
  closed : Bool

def SearchQueueState.default : SearchQueueState where
  tasks := []
  active := none
  generationControl := none
  activeGenerationControl := none
  completedGenerationControl := none
  nextGenerationControlId := 0
  publicationCommitInFlight := false
  publicationEnabled := false
  runtimePrepared := false
  controlProtocolFailed := false
  closed := false

variable {id : GenerationControlId}

namespace SearchQueueState

/-! ## Queries -/

variable (state : SearchQueueState)

/-- Nothing when the queue is closed. -/
def push (task : SearchTask) : Option SearchQueueState :=
  if state.closed then none else some { state with tasks := state.tasks ++ [task] }

inductive SearchWork where
  | query (task : SearchTask)
  | generation (control : QueuedGenerationControl)

/-- What the worker finds when it looks for work. -/
inductive Popped where
  | work (work : SearchWork)
  | stop
  | wait

def pop : Popped × SearchQueueState :=
  match state.generationControl with
  | some control =>
      (.work (.generation control),
        { state with generationControl := none, activeGenerationControl := some control.id })
  | none =>
      if state.controlProtocolFailed then (.stop, state)
      else
        match state.tasks with
        | task :: rest =>
            (.work (.query task), { state with tasks := rest, active := some task.control })
        | [] => (if state.closed then .stop else .wait, state)

def enablePublication : SearchQueueState := { state with publicationEnabled := true }

def setRuntimePrepared (prepared : Bool) : SearchQueueState :=
  { state with runtimePrepared := prepared }

/-- The first task of a request, taken out of the queue. -/
def remove (control : RequestRef) : Option (SearchTask × SearchQueueState) :=
  (state.tasks.find? fun task => task.control = control).map fun task =>
    (task, { state with tasks := state.tasks.eraseP fun task => task.control = control })

def completeActive (control : RequestRef) : SearchQueueState :=
  if state.active = some control then { state with active := none } else state

/-- The queue after closing it for a drain. The control that was queued, if any,
is rejected: its channel receives `false`. -/
def closeForDrain : Option QueuedGenerationControl × SearchQueueState :=
  (state.generationControl,
    { state with
      closed := true
      publicationCommitInFlight := false
      generationControl := none
      completedGenerationControl := none })

/-- As `closeForDrain`, and all queued tasks are taken out. The active request,
if any, is cancelled by the caller under the same lock. -/
def closeAndCancel : Option QueuedGenerationControl × List SearchTask × SearchQueueState :=
  (state.generationControl, state.tasks, { state.closeForDrain.2 with tasks := [] })

/-! ## Generation controls -/

def reserveGenerationControl : Option (GenerationControlId × SearchQueueState) :=
  if state.generationControl.isSome || state.activeGenerationControl.isSome
      || state.completedGenerationControl.isSome then none
  else
    let id := max (state.nextGenerationControlId + 1) 1
    some (id, { state with nextGenerationControlId := id })

inductive ControlEnqueue where
  | completed (result : Bool)
  | queued (id : GenerationControlId)
  | rejected
  deriving DecidableEq

/-- Queue a control under a fresh id, if none is under way. -/
def enqueueControl (command : GenerationControl) : Option
    (GenerationControlId × SearchQueueState) :=
  state.reserveGenerationControl.map fun (id, reserved) =>
    (id, { reserved with generationControl := some ⟨id, command⟩ })

def prepareRuntime (state : SearchQueueState) (reply : ReplyRef) :
    ControlEnqueue × SearchQueueState :=
  if state.closed || !state.publicationEnabled || state.controlProtocolFailed then
    (.rejected, state)
  else if state.runtimePrepared then (.completed true, state)
  else
    match state.enqueueControl (.prepareRuntime reply) with
    | some (id, queued) => (.queued id, queued)
    | none => (.rejected, state)

def stageGeneration (prepared : PreparedQueryGeneration) (reply : ReplyRef) : Option
    (GenerationControlId × SearchQueueState) :=
  if state.closed || !state.publicationEnabled || !state.runtimePrepared
      || state.controlProtocolFailed || state.publicationCommitInFlight then none
  else
    (state.enqueueControl (.install prepared reply)).map fun (id, queued) =>
      (id, { queued with publicationCommitInFlight := true })

def finalizeGeneration (disposition : PublicationDisposition) (reply : ReplyRef) : Option
    (GenerationControlId × SearchQueueState) :=
  if state.closed || state.controlProtocolFailed || !state.publicationCommitInFlight then none
  else state.enqueueControl (.finalize disposition reply)

def completeGenerationControl (id : GenerationControlId) (result completesPublication : Bool) :
    SearchQueueState :=
  { state with
    activeGenerationControl :=
      if state.activeGenerationControl = some id then none else state.activeGenerationControl
    publicationCommitInFlight := state.publicationCommitInFlight && !completesPublication
    completedGenerationControl :=
      if state.controlProtocolFailed then state.completedGenerationControl
      else some ⟨id, result⟩ }

/-- The completed control has this id. -/
def completedIs (id : GenerationControlId) : Bool :=
  state.completedGenerationControl.any fun completed => completed.id == id

def acknowledgeGenerationControl (id : GenerationControlId) : SearchQueueState :=
  if state.completedIs id then { state with completedGenerationControl := none } else state

inductive ControlTimeoutDisposition where
  | withdraw
  | fatal
  deriving DecidableEq

inductive ControlTimeoutResolution where
  | completed (result : Bool)
  | withdrawn
  | fatal
  deriving DecidableEq

/-- A wait that has timed out: the result if it is there after all, else a
withdrawal if the control is still queued and may be withdrawn, else the
protocol has failed. The active request is then cancelled by the caller under
the same lock. -/
def resolveGenerationControlTimeout (id : GenerationControlId)
    (disposition : ControlTimeoutDisposition) : ControlTimeoutResolution × SearchQueueState :=
  match state.completedGenerationControl.filter fun completed => completed.id == id with
  | some completed =>
      (.completed completed.result, { state with completedGenerationControl := none })
  | none =>
      match state.generationControl.filter fun control => control.id == id, disposition with
      | some control, .withdraw =>
          (.withdrawn,
            { state with
              generationControl := none
              publicationCommitInFlight :=
                state.publicationCommitInFlight && !control.command.isInstall })
      | queued, _ =>
          (.fatal,
            { state with
              generationControl := if queued.isSome then none else state.generationControl
              controlProtocolFailed := true
              closed := true })

/-! ## What each method has checked and done -/

variable {state queue : SearchQueueState}

theorem push_some {task : SearchTask} (done : state.push task = some queue) :
    state.closed = false ∧ queue = { state with tasks := state.tasks ++ [task] } := by
  unfold push at done
  split at done
  · cases done
  case isFalse opened =>
    cases done
    exact ⟨by simpa using opened, rfl⟩

theorem pop_generation {control : QueuedGenerationControl}
    (done : state.pop = (.work (.generation control), queue)) :
    state.generationControl = some control ∧
      queue = { state with
        generationControl := none, activeGenerationControl := some control.id } := by
  unfold pop at done
  split at done
  case h_1 found =>
    cases done
    exact ⟨found, rfl⟩
  · split at done
    · cases done
    · split at done
      · cases done
      · split at done <;> cases done

theorem pop_query {task : SearchTask} (done : state.pop = (.work (.query task), queue)) :
    ∃ rest, state.tasks = task :: rest ∧
      queue = { state with tasks := rest, active := some task.control } := by
  unfold pop at done
  split at done
  · cases done
  · split at done
    · cases done
    · split at done
      case h_1 _ rest found =>
        cases done
        exact ⟨rest, found, rfl⟩
      · split at done <;> cases done

theorem pop_stop (done : state.pop = (.stop, queue)) : queue = state := by
  unfold pop at done
  split at done
  · cases done
  · split at done
    · cases done
      rfl
    · split at done
      · cases done
      · split at done <;> cases done
        rfl

theorem remove_some {control : RequestRef} {task : SearchTask}
    (done : state.remove control = some (task, queue)) :
    task.control = control ∧
      queue = { state with tasks := state.tasks.eraseP fun task => task.control = control } := by
  obtain ⟨found, there, same⟩ := Option.map_eq_some_iff.mp done
  cases same
  exact ⟨by simpa using List.find?_some there, rfl⟩

@[simp] theorem tasks_completeActive (state : SearchQueueState) (control : RequestRef) :
    (state.completeActive control).tasks = state.tasks := by
  unfold completeActive
  split <;> rfl

/-- A control is queued only when none is under way. -/
theorem enqueueControl_some {command : GenerationControl}
    (done : state.enqueueControl command = some (id, queue)) :
    state.generationControl = none ∧ state.activeGenerationControl = none ∧
      state.completedGenerationControl = none ∧
      queue = { state with
        nextGenerationControlId := id, generationControl := some ⟨id, command⟩ } := by
  obtain ⟨⟨reserved, next⟩, reserve, same⟩ := Option.map_eq_some_iff.mp done
  unfold reserveGenerationControl at reserve
  split at reserve
  · cases reserve
  case isFalse idle =>
    cases reserve
    cases same
    simp only [Bool.or_eq_true, not_or, Option.not_isSome_iff_eq_none] at idle
    exact ⟨idle.1.1, idle.1.2, idle.2, rfl⟩

theorem prepareRuntime_queued {reply : ReplyRef}
    (done : state.prepareRuntime reply = (.queued id, queue)) :
    state.closed = false ∧ state.controlProtocolFailed = false ∧
      state.enqueueControl (.prepareRuntime reply) = some (id, queue) := by
  unfold prepareRuntime at done
  split at done
  · cases done
  case isFalse open_ =>
    simp only [Bool.or_eq_true, not_or, Bool.not_eq_true] at open_
    split at done
    · cases done
    · split at done
      case h_1 enqueued =>
        cases done
        exact ⟨open_.1.1, open_.2, enqueued⟩
      · cases done

theorem stageGeneration_some {prepared : PreparedQueryGeneration} {reply : ReplyRef}
    (done : state.stageGeneration prepared reply = some (id, queue)) :
    state.closed = false ∧ state.controlProtocolFailed = false ∧
      state.publicationCommitInFlight = false ∧
      ∃ queued, state.enqueueControl (.install prepared reply) = some (id, queued) ∧
        queue = { queued with publicationCommitInFlight := true } := by
  unfold stageGeneration at done
  split at done
  · cases done
  case isFalse open_ =>
    simp only [Bool.or_eq_true, not_or, Bool.not_eq_true] at open_
    obtain ⟨⟨reserved, queued⟩, enqueued, same⟩ := Option.map_eq_some_iff.mp done
    cases same
    exact ⟨open_.1.1.1.1, open_.1.2, open_.2, queued, enqueued, rfl⟩

theorem finalizeGeneration_some {disposition : PublicationDisposition} {reply : ReplyRef}
    (done : state.finalizeGeneration disposition reply = some (id, queue)) :
    state.closed = false ∧ state.controlProtocolFailed = false ∧
      state.publicationCommitInFlight = true ∧
      state.enqueueControl (.finalize disposition reply) = some (id, queue) := by
  unfold finalizeGeneration at done
  split at done
  · cases done
  case isFalse open_ =>
    simp only [Bool.or_eq_true, not_or, Bool.not_eq_true, Bool.not_eq_true', Bool.not_eq_false]
      at open_
    exact ⟨open_.1.1, open_.1.2, open_.2, done⟩

variable {onTimeout : ControlTimeoutDisposition}

theorem resolve_completed {result : Bool}
    (done : state.resolveGenerationControlTimeout id onTimeout = (.completed result, queue)) :
    state.completedGenerationControl = some ⟨id, result⟩ ∧
      queue = { state with completedGenerationControl := none } := by
  unfold resolveGenerationControlTimeout at done
  split at done
  case h_1 completed found =>
    cases done
    obtain ⟨there, named⟩ := Option.filter_eq_some_iff.mp found
    obtain rfl : completed.id = id := by simpa using named
    exact ⟨there, rfl⟩
  · split at done <;> cases done

theorem resolve_withdrawn
    (done : state.resolveGenerationControlTimeout id onTimeout = (.withdrawn, queue)) :
    ∃ control, state.generationControl = some control ∧ control.id = id ∧
      queue = { state with
        generationControl := none
        publicationCommitInFlight :=
          state.publicationCommitInFlight && !control.command.isInstall } := by
  unfold resolveGenerationControlTimeout at done
  split at done
  · cases done
  · split at done
    case h_1 control found =>
      cases done
      obtain ⟨there, named⟩ := Option.filter_eq_some_iff.mp found
      exact ⟨control, there, by simpa using named, rfl⟩
    · cases done

theorem resolve_fatal
    (done : state.resolveGenerationControlTimeout id onTimeout = (.fatal, queue)) :
    ∃ control, (control = none ∨ control = state.generationControl) ∧
      queue = { state with
        generationControl := control, controlProtocolFailed := true, closed := true } := by
  unfold resolveGenerationControlTimeout at done
  split at done
  · cases done
  · split at done
    · cases done
    case h_2 found _ _ =>
      cases done
      refine ⟨_, ?_, rfl⟩
      split
      · exact .inl rfl
      · exact .inr rfl

end SearchQueueState

end ResumeIr.Daemon.SearchService
