import ResumeIr.Desktop.RestartPolicy

/-!
# The supervisor of the desktop's daemon

The desktop runs the daemon as a child process and supervises it from one
thread. Between two passes of the thread the supervisor is in one phase: it
waits for the time of a start, the child is starting, the child is running, the
circuit is open, or it is blocked. A pass looks at the child, changes the phase
and writes what it did to a snapshot that other threads read, and to the identity
of the daemon that is ready.

`Shared` is a cell that other threads read at any moment: it keeps the values it
held before, so that a statement about its history is a statement about what a
reader can have seen, also between two writes of one pass.

What a pass learns from outside is given to it: the readings of the clock it
takes, in the order it takes them, and the outcomes of the spawn, of the poll of
the child's exit and of the probe.
-/

namespace ResumeIr.Desktop

/-! ## The contract -/

inductive DaemonLifecycleKind where
  | starting
  | running
  | retryWait
  | circuitOpen
  | blocked
  deriving DecidableEq

inductive DaemonTransitionReason where
  | initialStart
  | automaticRetry
  | manualRetry
  | controlPlaneReady
  | childExited
  | startupTimeout
  | heartbeatTimeout
  | startFailed
  | controlPlaneFailure
  | restartBudgetExhausted
  | halfOpenRetry
  | configurationInvalid
  | runtimeIntegrity
  | protocolMismatch
  | ownershipConflict
  | supervisorUnavailable
  deriving DecidableEq

inductive DaemonBlockedReason where
  | configurationInvalid
  | runtimeIntegrity
  | protocolMismatch
  | ownershipConflict
  | supervisorUnavailable
  deriving DecidableEq

def DaemonBlockedReason.transition : DaemonBlockedReason → DaemonTransitionReason
  | .configurationInvalid => .configurationInvalid
  | .runtimeIntegrity => .runtimeIntegrity
  | .protocolMismatch => .protocolMismatch
  | .ownershipConflict => .ownershipConflict
  | .supervisorUnavailable => .supervisorUnavailable

inductive DaemonExitClass where
  | childExited
  | startupTimeout
  | heartbeatTimeout
  | startFailed
  | controlPlaneFailure
  deriving DecidableEq

def DaemonExitClass.transition : DaemonExitClass → DaemonTransitionReason
  | .childExited => .childExited
  | .startupTimeout => .startupTimeout
  | .heartbeatTimeout => .heartbeatTimeout
  | .startFailed => .startFailed
  | .controlPlaneFailure => .controlPlaneFailure

structure DaemonLifecycleSnapshot where
  schemaVersion : String
  state : DaemonLifecycleKind
  transitionReason : DaemonTransitionReason
  generation : Nat
  automaticRestartAttempt : Nat
  automaticRestartLimit : Nat
  retryAfterMs : Option Nat
  heartbeatFailures : Nat
  lastExit : Option DaemonExitClass

def DaemonLifecycleSnapshot.initial : DaemonLifecycleSnapshot where
  schemaVersion := "resume-ir.desktop-daemon-lifecycle.v2"
  state := .starting
  transitionReason := .initialStart
  generation := 0
  automaticRestartAttempt := 0
  automaticRestartLimit := 5
  retryAfterMs := none
  heartbeatFailures := 0
  lastExit := none

structure ReadyDaemonIdentity where
  supervisorGeneration : Nat
  launchId : String

/-! ## What a pass learns from outside -/

inductive DaemonProbe where
  | ready
  | unavailable
  | protocolMismatch
  deriving DecidableEq

inductive RuntimeFailure where
  | blocked (reason : DaemonBlockedReason)
  | transient
  deriving DecidableEq

inductive ChildExitOutcome where
  | running
  | exited
  | restartableFatal
  | blocked (reason : DaemonBlockedReason)
  deriving DecidableEq

structure SupervisedChild where
  launchId : String

/-- The readings of the clock in one pass: at its beginning, where a failure is
answered, and where a new state is published. -/
structure Readings where
  now : Instant
  recoverAt : Instant
  publishAt : Instant
  recover_after : now ≤ recoverAt
  publish_after : recoverAt ≤ publishAt

theorem Readings.now_le_publishAt (clock : Readings) : clock.now ≤ clock.publishAt :=
  Nat.le_trans clock.recover_after clock.publish_after

/-- The outcomes a pass may ask for. -/
structure Outcomes where
  spawn : Except RuntimeFailure SupervisedChild
  pollExit : ChildExitOutcome
  probe : DaemonProbe

/-! ## The state of the supervisor -/

/-- A cell that other threads read, with the values it held before. -/
structure Shared (α : Type) where
  value : α
  earlier : List α

namespace Shared

variable {α : Type}

def write (cell : Shared α) (value : α) : Shared α := ⟨value, cell.value :: cell.earlier⟩

/-- Every value a reader can have seen. -/
def held (cell : Shared α) : List α := cell.value :: cell.earlier

@[simp] theorem write_value (cell : Shared α) (value : α) : (cell.write value).value = value := rfl

@[simp] theorem write_held (cell : Shared α) (value : α) :
    (cell.write value).held = value :: cell.held := rfl

end Shared

inductive ActorPhase where
  | waiting (startAt : Instant)
  | starting (deadline : Instant)
  | running (heartbeatAt : Instant) (heartbeatFailures : Nat)
  | circuitOpen (retryAt : Instant)
  | blocked
  deriving DecidableEq

structure SupervisorTiming where
  startupDeadline : Duration
  heartbeatInterval : Duration
  heartbeatFailureLimit : Nat
  policy : RestartPolicyConfig

def SupervisorTiming.production : SupervisorTiming where
  startupDeadline := .fromSecs 10
  heartbeatInterval := .fromSecs 5
  heartbeatFailureLimit := 3
  policy := .production

structure SupervisorActor where
  timing : SupervisorTiming
  startedAt : Instant
  policy : RestartPolicy
  phase : ActorPhase
  child : Option SupervisedChild
  snapshot : Shared DaemonLifecycleSnapshot
  readyIdentity : Option ReadyDaemonIdentity
  nextStartReason : DaemonTransitionReason

/-- A count of one byte. -/
def saturatingByteSucc (count : Nat) : Nat := min (count + 1) 255

/-- A count of eight bytes. -/
def saturatingWordSucc (count : Nat) : Nat := min (count + 1) (2 ^ 64 - 1)

def durationMillis (duration : Duration) : Nat := min duration.asMillis (2 ^ 64 - 1)

namespace SupervisorActor

def new (timing : SupervisorTiming) (startedAt : Instant) : SupervisorActor where
  timing := timing
  startedAt := startedAt
  policy := .new timing.policy
  phase := .waiting startedAt
  child := none
  snapshot := ⟨.initial, []⟩
  readyIdentity := none
  nextStartReason := .initialStart

/-! ## The pass -/

variable (actor : SupervisorActor)

def elapsed (now : Instant) : Duration := now - actor.startedAt

def updateSnapshot (update : DaemonLifecycleSnapshot → DaemonLifecycleSnapshot) : SupervisorActor :=
  { actor with snapshot := actor.snapshot.write (update actor.snapshot.value) }

def clearReadyIdentity : SupervisorActor := { actor with readyIdentity := none }

def publishState (state : DaemonLifecycleKind) (reason : DaemonTransitionReason)
    (retryAfter : Option Duration) (heartbeatFailures : Nat) (now : Instant) : SupervisorActor :=
  let cleared := if state ≠ .running then actor.clearReadyIdentity else actor
  let (attempts, policy) := cleared.policy.restartAttempts (cleared.elapsed now)
  { cleared with policy := policy }.updateSnapshot fun snapshot =>
    { snapshot with
      state := state
      transitionReason := reason
      automaticRestartAttempt := attempts
      retryAfterMs := retryAfter.map durationMillis
      heartbeatFailures := heartbeatFailures }

def stopChild : SupervisorActor := { actor with child := none }.clearReadyIdentity

def recover (actor : SupervisorActor) (exit : DaemonExitClass) (clock : Readings) :
    SupervisorActor :=
  let failed := ({ actor with child := none }.clearReadyIdentity).updateSnapshot fun snapshot =>
    { snapshot with lastExit := some exit }
  match failed.policy.onFailure (failed.elapsed clock.recoverAt) with
  | (.retryAfter delay, policy) =>
      { failed with
        policy := policy
        nextStartReason := .automaticRetry
        phase := .waiting (clock.recoverAt + delay) }.publishState
          .retryWait exit.transition (some delay) 0 clock.publishAt
  | (.openCircuit delay, policy) =>
      { failed with
        policy := policy
        phase := .circuitOpen (clock.recoverAt + delay) }.publishState
          .circuitOpen .restartBudgetExhausted (some delay) 0 clock.publishAt

def block (actor : SupervisorActor) (reason : DaemonBlockedReason) (clock : Readings) :
    SupervisorActor :=
  { actor with child := none, phase := .blocked }.clearReadyIdentity.publishState
    .blocked reason.transition none 0 clock.publishAt

def attemptStart (clock : Readings) (outcomes : Outcomes) : SupervisorActor :=
  match outcomes.spawn with
  | .ok child =>
      { actor with
        child := some child
        phase := .starting (clock.now + actor.timing.startupDeadline) }.publishState
          .starting actor.nextStartReason none 0 clock.publishAt
  | .error (.blocked reason) => actor.block reason clock
  | .error .transient => actor.recover .startFailed clock

/-- What the poll of the child's exit says; a child that is not held counts as exited. -/
def exitOutcome (outcomes : Outcomes) : ChildExitOutcome :=
  if actor.child.isSome then outcomes.pollExit else .exited

/-- What the probe says; a child that is not held is not available. -/
def probeOutcome (outcomes : Outcomes) : DaemonProbe :=
  if actor.child.isSome then outcomes.probe else .unavailable

/-- The supervisor after an exit of the child, if it exited. -/
def handleChildExit (clock : Readings) (outcomes : Outcomes) : Option SupervisorActor :=
  match actor.exitOutcome outcomes with
  | .running => none
  | .exited => some ({ actor with child := none }.recover .childExited clock)
  | .restartableFatal => some ({ actor with child := none }.recover .controlPlaneFailure clock)
  | .blocked reason => some ({ actor with child := none }.block reason clock)

def enterRunning (now : Instant) : SupervisorActor :=
  let launchId := (actor.child.map SupervisedChild.launchId).getD ""
  let entered := { actor with
    policy := actor.policy.onReady (actor.elapsed now)
    phase := .running (now + actor.timing.heartbeatInterval) 0 }.updateSnapshot fun snapshot =>
      { snapshot with
        state := .running
        transitionReason := .controlPlaneReady
        generation := saturatingWordSucc snapshot.generation
        retryAfterMs := none
        heartbeatFailures := 0 }
  { entered with
    readyIdentity := some ⟨entered.snapshot.value.generation, launchId⟩ }

def observeStarting (deadline : Instant) (clock : Readings) (outcomes : Outcomes) :
    SupervisorActor :=
  match actor.handleChildExit clock outcomes with
  | some exited => exited
  | none =>
      match actor.probeOutcome outcomes with
      | .ready => actor.enterRunning clock.now
      | .protocolMismatch => actor.stopChild.block .protocolMismatch clock
      | .unavailable =>
          if deadline ≤ clock.now then actor.stopChild.recover .startupTimeout clock else actor

/-- The budget is given back to a daemon that has been healthy for long enough. -/
def completeReset (now : Instant) : SupervisorActor :=
  let reset := actor.policy.completeStableReset (actor.elapsed now)
  let (attempts, policy) := reset.restartAttempts (actor.elapsed now)
  { actor with policy := policy }.updateSnapshot fun snapshot =>
    { snapshot with automaticRestartAttempt := attempts }

def observeRunning (heartbeatAt : Instant) (heartbeatFailures : Nat) (clock : Readings)
    (outcomes : Outcomes) : SupervisorActor :=
  match actor.handleChildExit clock outcomes with
  | some exited => exited
  | none =>
      if clock.now < heartbeatAt then actor
      else match actor.probeOutcome outcomes with
      | .ready =>
          let healthy := { actor with
            phase := .running (clock.now + actor.timing.heartbeatInterval) 0 }.updateSnapshot
              fun snapshot => { snapshot with heartbeatFailures := 0 }
          if healthy.policy.stableResetDue (healthy.elapsed clock.now) then
            healthy.completeReset clock.now
          else healthy
      | .protocolMismatch => actor.stopChild.block .protocolMismatch clock
      | .unavailable =>
          let failures := saturatingByteSucc heartbeatFailures
          if actor.timing.heartbeatFailureLimit ≤ failures then
            actor.stopChild.recover .heartbeatTimeout clock
          else
            { actor with
              phase := .running (clock.now + actor.timing.heartbeatInterval) failures
              }.updateSnapshot fun snapshot => { snapshot with heartbeatFailures := failures }

/-- The remaining time of an open circuit is shown anew; a part of a millisecond
is shown as one. -/
def showRemaining (retryAt now : Instant) : SupervisorActor :=
  let remaining := (actor.policy.manualHalfOpenRetryAfter (actor.elapsed now)).getD (retryAt - now)
  actor.updateSnapshot fun snapshot =>
    { snapshot with
      retryAfterMs := some (max (durationMillis remaining) (if remaining = 0 then 0 else 1)) }

def tick (clock : Readings) (outcomes : Outcomes) : SupervisorActor :=
  match actor.phase with
  | .waiting startAt => if startAt ≤ clock.now then actor.attemptStart clock outcomes else actor
  | .starting deadline => actor.observeStarting deadline clock outcomes
  | .running heartbeatAt heartbeatFailures =>
      actor.observeRunning heartbeatAt heartbeatFailures clock outcomes
  | .circuitOpen retryAt => actor.showRemaining retryAt clock.now
  | .blocked => actor

/-- The policy with which a manual retry begins, if the supervisor accepts it. -/
def acceptsRetry (now : Instant) : Option RestartPolicy :=
  match actor.phase with
  | .blocked => some actor.policy
  | .circuitOpen retryAt =>
      if retryAt ≤ now then actor.policy.beginManualHalfOpen (actor.elapsed now) else none
  | .waiting _ | .starting _ | .running _ _ => none

/-- A manual retry; one that is not allowed changes nothing. -/
def manualRetry (actor : SupervisorActor) (clock : Readings) : SupervisorActor :=
  match actor.acceptsRetry clock.now with
  | none => actor
  | some policy =>
      { actor with
        policy := policy
        nextStartReason := .manualRetry
        phase := .waiting clock.now }.publishState .starting .manualRetry none 0 clock.publishAt

/-! ## What a pass can do -/

/-- The failure that a pass hands to recovery. -/
def failure (clock : Readings) (outcomes : Outcomes) : Option DaemonExitClass :=
  match actor.phase with
  | .waiting startAt =>
      if startAt ≤ clock.now then
        match outcomes.spawn with
        | .error .transient => some .startFailed
        | _ => none
      else none
  | .starting deadline =>
      match actor.exitOutcome outcomes with
      | .exited => some .childExited
      | .restartableFatal => some .controlPlaneFailure
      | .blocked _ => none
      | .running =>
          if actor.probeOutcome outcomes = .unavailable ∧ deadline ≤ clock.now then
            some .startupTimeout
          else none
  | .running heartbeatAt heartbeatFailures =>
      match actor.exitOutcome outcomes with
      | .exited => some .childExited
      | .restartableFatal => some .controlPlaneFailure
      | .blocked _ => none
      | .running =>
          if heartbeatAt ≤ clock.now ∧ actor.probeOutcome outcomes = .unavailable ∧
              actor.timing.heartbeatFailureLimit ≤ saturatingByteSucc heartbeatFailures then
            some .heartbeatTimeout
          else none
  | .circuitOpen _ | .blocked => none

/-- A pass that finds the child that is starting ready. -/
def becomesReady (outcomes : Outcomes) : Bool :=
  match actor.phase with
  | .starting _ =>
      decide (actor.exitOutcome outcomes = .running) && decide (actor.probeOutcome outcomes = .ready)
  | _ => false

/-- What a failure is answered with. -/
def decision (clock : Readings) : RecoveryDecision :=
  (actor.policy.onFailure (actor.elapsed clock.recoverAt)).1

/-- A heartbeat of a running child whose health has lasted. -/
def stablyResets (clock : Readings) (outcomes : Outcomes) : Bool :=
  match actor.phase with
  | .running heartbeatAt _ =>
      decide (actor.exitOutcome outcomes = .running) && decide (heartbeatAt ≤ clock.now) &&
        decide (actor.probeOutcome outcomes = .ready) &&
        actor.policy.stableResetDue (actor.elapsed clock.now)
  | _ => false

/-- A pass that asks the runtime for a child. -/
def attemptsStart (clock : Readings) : Bool :=
  match actor.phase with
  | .waiting startAt => decide (startAt ≤ clock.now)
  | _ => false

/-- The outcomes of a pass, with what each asks for. -/
inductive TickEffect (actor : SupervisorActor) (clock : Readings) (outcomes : Outcomes) :
    SupervisorActor → Prop where
  | idle (unfailed : actor.failure clock outcomes = none)
      (unreset : actor.stablyResets clock outcomes = false)
      (closed : ∀ retryAt, actor.phase ≠ .circuitOpen retryAt) :
      TickEffect actor clock outcomes actor
  | recovers (exit : DaemonExitClass) (failed : actor.failure clock outcomes = some exit)
      (unreset : actor.stablyResets clock outcomes = false)
      (phase : (∃ startAt, actor.phase = .waiting startAt ∧ exit = .startFailed) ∨
        (∃ deadline, actor.phase = .starting deadline) ∨
        ∃ heartbeatAt failures, actor.phase = .running heartbeatAt failures) :
      TickEffect actor clock outcomes (actor.recover exit clock)
  | blocks (reason : DaemonBlockedReason) (unfailed : actor.failure clock outcomes = none)
      (unreset : actor.stablyResets clock outcomes = false)
      (phase : (∃ startAt, actor.phase = .waiting startAt) ∨
        (∃ deadline, actor.phase = .starting deadline) ∨
        ∃ heartbeatAt failures, actor.phase = .running heartbeatAt failures) :
      TickEffect actor clock outcomes (actor.block reason clock)
  | starts (child : SupervisedChild) (startAt : Instant) (phase : actor.phase = .waiting startAt)
      (due : startAt ≤ clock.now) (unfailed : actor.failure clock outcomes = none)
      (unreset : actor.stablyResets clock outcomes = false) :
      TickEffect actor clock outcomes
        ({ actor with
          child := some child
          phase := .starting (clock.now + actor.timing.startupDeadline) }.publishState
            .starting actor.nextStartReason none 0 clock.publishAt)
  | enters (child : SupervisedChild) (deadline : Instant)
      (phase : actor.phase = .starting deadline) (held : actor.child = some child)
      (unfailed : actor.failure clock outcomes = none)
      (unreset : actor.stablyResets clock outcomes = false)
      (ready : actor.becomesReady outcomes = true) :
      TickEffect actor clock outcomes (actor.enterRunning clock.now)
  | beats (heartbeatAt failures : Nat) (phase : actor.phase = .running heartbeatAt failures)
      (unfailed : actor.failure clock outcomes = none)
      (unreset : actor.stablyResets clock outcomes = false) :
      TickEffect actor clock outcomes
        ({ actor with
          phase := .running (clock.now + actor.timing.heartbeatInterval) 0 }.updateSnapshot
            fun snapshot => { snapshot with heartbeatFailures := 0 })
  | resets (heartbeatAt failures : Nat) (phase : actor.phase = .running heartbeatAt failures)
      (unfailed : actor.failure clock outcomes = none)
      (reset : actor.stablyResets clock outcomes = true) :
      TickEffect actor clock outcomes
        (({ actor with
          phase := .running (clock.now + actor.timing.heartbeatInterval) 0 }.updateSnapshot
            fun snapshot => { snapshot with heartbeatFailures := 0 }).completeReset clock.now)
  | misses (heartbeatAt failures : Nat) (phase : actor.phase = .running heartbeatAt failures)
      (few : saturatingByteSucc failures < actor.timing.heartbeatFailureLimit)
      (unfailed : actor.failure clock outcomes = none)
      (unreset : actor.stablyResets clock outcomes = false) :
      TickEffect actor clock outcomes
        ({ actor with
          phase := .running (clock.now + actor.timing.heartbeatInterval)
            (saturatingByteSucc failures) }.updateSnapshot
            fun snapshot => { snapshot with heartbeatFailures := saturatingByteSucc failures })
  | shows (retryAt : Instant) (phase : actor.phase = .circuitOpen retryAt)
      (unfailed : actor.failure clock outcomes = none)
      (unreset : actor.stablyResets clock outcomes = false) :
      TickEffect actor clock outcomes (actor.showRemaining retryAt clock.now)

section

variable {actor : SupervisorActor} {clock : Readings} {outcomes : Outcomes}

@[simp] theorem recover_without_child (exit : DaemonExitClass) :
    { actor with child := none }.recover exit clock = actor.recover exit clock := rfl

@[simp] theorem block_without_child (reason : DaemonBlockedReason) :
    { actor with child := none }.block reason clock = actor.block reason clock := rfl

@[simp] theorem stopChild_recover (exit : DaemonExitClass) :
    actor.stopChild.recover exit clock = actor.recover exit clock := rfl

@[simp] theorem stopChild_block (reason : DaemonBlockedReason) :
    actor.stopChild.block reason clock = actor.block reason clock := rfl

theorem child_of_probe (answered : actor.probeOutcome outcomes = .ready) :
    ∃ child, actor.child = some child := by
  unfold probeOutcome at answered
  cases held : actor.child with
  | none => simp [held] at answered
  | some child => exact ⟨child, rfl⟩

theorem handled_of_exit (clock : Readings) (exits : actor.exitOutcome outcomes ≠ .running) :
    ∃ handled, actor.handleChildExit clock outcomes = some handled := by
  cases outcome : actor.exitOutcome outcomes with
  | running => exact absurd outcome exits
  | exited | restartableFatal | blocked => exact ⟨_, by simp only [handleChildExit, outcome]; rfl⟩

/-- The exit of a starting or running child. -/
theorem handleChildExit_effect {handled : SupervisorActor}
    (phase : (∃ deadline, actor.phase = .starting deadline) ∨
      ∃ heartbeatAt failures, actor.phase = .running heartbeatAt failures)
    (exited : actor.handleChildExit clock outcomes = some handled) :
    TickEffect actor clock outcomes handled := by
  unfold handleChildExit at exited
  have unreset : actor.exitOutcome outcomes ≠ .running →
      actor.stablyResets clock outcomes = false := by
    intro exits
    rcases phase with ⟨_, phase⟩ | ⟨_, _, phase⟩ <;> simp [stablyResets, phase, exits]
  cases exits : actor.exitOutcome outcomes with
  | running => simp [exits] at exited
  | exited =>
    obtain rfl : actor.recover .childExited clock = handled := by simpa [exits] using exited
    have failed : actor.failure clock outcomes = some .childExited := by
      rcases phase with ⟨_, phase⟩ | ⟨_, _, phase⟩ <;> simp [failure, phase, exits]
    exact .recovers _ failed (unreset (by simp [exits])) (.inr phase)
  | restartableFatal =>
    obtain rfl : actor.recover .controlPlaneFailure clock = handled := by
      simpa [exits] using exited
    have failed : actor.failure clock outcomes = some .controlPlaneFailure := by
      rcases phase with ⟨_, phase⟩ | ⟨_, _, phase⟩ <;> simp [failure, phase, exits]
    exact .recovers _ failed (unreset (by simp [exits])) (.inr phase)
  | blocked reason =>
    obtain rfl : actor.block reason clock = handled := by simpa [exits] using exited
    have unfailed : actor.failure clock outcomes = none := by
      rcases phase with ⟨_, phase⟩ | ⟨_, _, phase⟩ <;> simp [failure, phase, exits]
    exact .blocks _ unfailed (unreset (by simp [exits])) (.inr phase)

theorem tick_waiting {startAt : Instant} (phase : actor.phase = .waiting startAt) :
    TickEffect actor clock outcomes (actor.tick clock outcomes) := by
  have unreset : actor.stablyResets clock outcomes = false := by simp [stablyResets, phase]
  by_cases due : startAt ≤ clock.now
  · have starts : actor.tick clock outcomes = actor.attemptStart clock outcomes := by
      simp [tick, phase, due]
    rw [starts, attemptStart]
    cases spawn : outcomes.spawn with
    | ok child =>
      have unfailed : actor.failure clock outcomes = none := by simp [failure, phase, spawn]
      exact .starts child startAt phase due unfailed unreset
    | error reported =>
      cases reported with
      | blocked reason =>
        have unfailed : actor.failure clock outcomes = none := by
          simp [failure, phase, spawn]
        exact .blocks reason unfailed unreset (.inl ⟨startAt, phase⟩)
      | transient =>
        have failed : actor.failure clock outcomes = some .startFailed := by
          simp [failure, phase, due, spawn]
        exact .recovers .startFailed failed unreset (.inl ⟨startAt, phase, rfl⟩)
  · have unfailed : actor.failure clock outcomes = none := by simp [failure, phase, due]
    simpa [tick, phase, due] using TickEffect.idle unfailed unreset (by simp [phase])

theorem tick_starting {deadline : Instant} (phase : actor.phase = .starting deadline) :
    TickEffect actor clock outcomes (actor.tick clock outcomes) := by
  have unreset : actor.stablyResets clock outcomes = false := by simp [stablyResets, phase]
  have observes : actor.tick clock outcomes = actor.observeStarting deadline clock outcomes := by
    simp [tick, phase]
  rw [observes]
  by_cases exits : actor.exitOutcome outcomes = .running
  · have unhandled : actor.handleChildExit clock outcomes = none := by
      simp [handleChildExit, exits]
    simp only [observeStarting, unhandled]
    cases probed : actor.probeOutcome outcomes with
    | ready =>
      have unfailed : actor.failure clock outcomes = none := by
        simp [failure, phase, exits, probed]
      obtain ⟨child, held⟩ := child_of_probe probed
      exact .enters child deadline phase held unfailed unreset
        (by simp [becomesReady, phase, exits, probed])
    | protocolMismatch =>
      have unfailed : actor.failure clock outcomes = none := by
        simp [failure, phase, exits, probed]
      exact .blocks .protocolMismatch unfailed unreset (.inr (.inl ⟨deadline, phase⟩))
    | unavailable =>
      by_cases late : deadline ≤ clock.now
      · have failed : actor.failure clock outcomes = some .startupTimeout := by
          simp [failure, phase, exits, probed, late]
        simpa [late] using
          TickEffect.recovers .startupTimeout failed unreset (.inr (.inl ⟨deadline, phase⟩))
      · have unfailed : actor.failure clock outcomes = none := by
          simp [failure, phase, exits, late]
        simpa [late] using TickEffect.idle unfailed unreset (by simp [phase])
  · obtain ⟨handled, exited⟩ := handled_of_exit clock exits
    simpa [observeStarting, exited] using handleChildExit_effect (.inl ⟨deadline, phase⟩) exited

/-- A heartbeat of a running child. -/
theorem tick_heartbeat {heartbeatAt failures : Nat}
    (phase : actor.phase = .running heartbeatAt failures)
    (exits : actor.exitOutcome outcomes = .running) (due : heartbeatAt ≤ clock.now) :
    TickEffect actor clock outcomes (actor.observeRunning heartbeatAt failures clock outcomes) := by
  have unhandled : actor.handleChildExit clock outcomes = none := by
    simp [handleChildExit, exits]
  simp only [observeRunning, unhandled, Nat.not_lt_of_le due, if_false]
  cases probed : actor.probeOutcome outcomes with
  | ready =>
    have unfailed : actor.failure clock outcomes = none := by
      simp [failure, phase, exits, probed]
    have unread : ∀ update : DaemonLifecycleSnapshot → DaemonLifecycleSnapshot,
        ({ actor with
          phase := .running (clock.now + actor.timing.heartbeatInterval) 0 }.updateSnapshot
            update).policy.stableResetDue (actor.elapsed clock.now) =
          actor.stablyResets clock outcomes := by
      simp [updateSnapshot, stablyResets, phase, exits, probed, due]
    cases reset : actor.stablyResets clock outcomes with
    | true =>
      have resets := TickEffect.resets heartbeatAt failures phase unfailed reset
      exact if_pos ((unread _).trans reset) ▸ resets
    | false =>
      have beats := TickEffect.beats heartbeatAt failures phase unfailed reset
      refine if_neg ?_ ▸ beats
      exact Bool.not_eq_true _ ▸ (unread _).trans reset
  | protocolMismatch =>
    have unfailed : actor.failure clock outcomes = none := by
      simp [failure, phase, exits, probed]
    have unreset : actor.stablyResets clock outcomes = false := by
      simp [stablyResets, phase, probed]
    exact .blocks .protocolMismatch unfailed unreset (.inr (.inr ⟨_, _, phase⟩))
  | unavailable =>
    have unreset : actor.stablyResets clock outcomes = false := by
      simp [stablyResets, phase, probed]
    by_cases spent : actor.timing.heartbeatFailureLimit ≤ saturatingByteSucc failures
    · have failed : actor.failure clock outcomes = some .heartbeatTimeout := by
        simp [failure, phase, exits, probed, spent, due]
      simpa [spent] using
        TickEffect.recovers .heartbeatTimeout failed unreset (.inr (.inr ⟨_, _, phase⟩))
    · have unfailed : actor.failure clock outcomes = none := by
        simp [failure, phase, exits, spent]
      simpa [spent] using
        TickEffect.misses heartbeatAt failures phase (Nat.lt_of_not_le spent) unfailed unreset

theorem tick_running {heartbeatAt failures : Nat}
    (phase : actor.phase = .running heartbeatAt failures) :
    TickEffect actor clock outcomes (actor.tick clock outcomes) := by
  have observes : actor.tick clock outcomes =
      actor.observeRunning heartbeatAt failures clock outcomes := by
    simp [tick, phase]
  rw [observes]
  by_cases exits : actor.exitOutcome outcomes = .running
  · by_cases due : heartbeatAt ≤ clock.now
    · exact tick_heartbeat phase exits due
    · have unfailed : actor.failure clock outcomes = none := by
        simp [failure, phase, exits, due]
      have unreset : actor.stablyResets clock outcomes = false := by
        simp [stablyResets, phase, due]
      simpa [observeRunning, handleChildExit, exits, Nat.lt_of_not_le due] using
        TickEffect.idle unfailed unreset (by simp [phase])
  · obtain ⟨handled, exited⟩ := handled_of_exit clock exits
    simpa [observeRunning, exited] using handleChildExit_effect (.inr ⟨_, _, phase⟩) exited

/-- **What a pass can do.** -/
theorem tick_effect (actor : SupervisorActor) (clock : Readings) (outcomes : Outcomes) :
    TickEffect actor clock outcomes (actor.tick clock outcomes) := by
  cases phase : actor.phase with
  | waiting startAt => exact tick_waiting phase
  | starting deadline => exact tick_starting phase
  | running heartbeatAt failures => exact tick_running phase
  | circuitOpen retryAt =>
    have unfailed : actor.failure clock outcomes = none := by simp [failure, phase]
    have unreset : actor.stablyResets clock outcomes = false := by simp [stablyResets, phase]
    simpa [tick, phase] using TickEffect.shows retryAt phase unfailed unreset
  | blocked =>
    have unfailed : actor.failure clock outcomes = none := by simp [failure, phase]
    have unreset : actor.stablyResets clock outcomes = false := by simp [stablyResets, phase]
    simpa [tick, phase] using TickEffect.idle unfailed unreset (by simp [phase])

end

end SupervisorActor

end ResumeIr.Desktop
