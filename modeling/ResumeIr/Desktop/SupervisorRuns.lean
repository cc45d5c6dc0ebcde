import ResumeIr.Foundation.Machine
import ResumeIr.Desktop.Supervisor

/-!
# Runs of the supervisor

A run is any sequence of passes and manual retries on a clock that does not go
back. The invariants follow from what one pass can do: which child is held and
which identity is published in each phase (`Coherent`), and that the restarts the
policy remembers are those of a budget (`Budgeted`).
-/

namespace ResumeIr.Desktop

open Foundation

/-- The supervisor together with the last reading of the clock. -/
structure Supervision where
  actor : SupervisorActor
  clock : Instant

inductive SupervisorEvent where
  | tick (clock : Readings) (outcomes : Outcomes)
  | retry (clock : Readings)

def SupervisorEvent.clock : SupervisorEvent → Readings
  | .tick clock _ => clock
  | .retry clock => clock

def ActorPhase.holdsChild : ActorPhase → Bool
  | .starting _ | .running _ _ => true
  | .waiting _ | .circuitOpen _ | .blocked => false

def ActorPhase.isOpen : ActorPhase → Bool
  | .circuitOpen _ => true
  | _ => false

/-- A phase in which nothing is started without a person. -/
def ActorPhase.isHalted : ActorPhase → Bool
  | .circuitOpen _ | .blocked => true
  | _ => false

namespace RecoveryDecision

def restarts (now : Instant) : RecoveryDecision → List Instant
  | .retryAfter _ => [now]
  | .openCircuit _ => []

def opens (now : Instant) : RecoveryDecision → Option Instant
  | .retryAfter _ => none
  | .openCircuit _ => some now

end RecoveryDecision

namespace Supervision

def next (s : Supervision) : SupervisorEvent → Supervision
  | .tick clock outcomes => ⟨s.actor.tick clock outcomes, clock.publishAt⟩
  | .retry clock => ⟨s.actor.manualRetry clock, clock.publishAt⟩

def failure (s : Supervision) : SupervisorEvent → Option DaemonExitClass
  | .tick clock outcomes => s.actor.failure clock outcomes
  | .retry _ => none

def stablyResets (s : Supervision) : SupervisorEvent → Bool
  | .tick clock outcomes => s.actor.stablyResets clock outcomes
  | .retry _ => false

def attemptsStart (s : Supervision) : SupervisorEvent → Bool
  | .tick clock _ => s.actor.attemptsStart clock
  | .retry _ => false

def acceptsRetry (s : Supervision) : SupervisorEvent → Bool
  | .tick _ _ => false
  | .retry clock => (s.actor.acceptsRetry clock.now).isSome

/-- The moments at which an event schedules an automatic restart. -/
def restarts (s : Supervision) (event : SupervisorEvent) : List Instant :=
  match s.failure event with
  | some _ => (s.actor.decision event.clock).restarts event.clock.recoverAt
  | none => []

/-- The moment at which an event opens the circuit. -/
def opens (s : Supervision) (event : SupervisorEvent) : Option Instant :=
  match s.failure event with
  | some _ => (s.actor.decision event.clock).opens event.clock.recoverAt
  | none => none

end Supervision

def supervisorMachine (timing : SupervisorTiming) : Machine Supervision SupervisorEvent where
  start s := ∃ startedAt, s = ⟨.new timing startedAt, startedAt⟩
  step s event t := s.clock ≤ event.clock.now ∧ t = s.next event

/-! ## What recovery and a retry do -/

namespace SupervisorActor

variable {actor : SupervisorActor} {clock : Readings}

section Publish

variable (actor : SupervisorActor) (state : DaemonLifecycleKind) (reason : DaemonTransitionReason)
  (retryAfter : Option Duration) (heartbeatFailures : Nat) (now : Instant)

/-- What a published state leaves of the actor, and what it writes. -/
@[simp] theorem publishState_eq :
    actor.publishState state reason retryAfter heartbeatFailures now = { actor with
      readyIdentity := if state = .running then actor.readyIdentity else none
      policy := actor.policy.prune (actor.policy.policyTime (actor.elapsed now))
      snapshot := actor.snapshot.write { actor.snapshot.value with
        state := state
        transitionReason := reason
        automaticRestartAttempt :=
          (actor.policy.prune (actor.policy.policyTime
            (actor.elapsed now))).automaticRestarts.length % 256
        retryAfterMs := retryAfter.map durationMillis
        heartbeatFailures := heartbeatFailures } } := by
  by_cases runs : state = .running
  · subst runs
    rfl
  · rw [if_neg runs, publishState, if_pos runs]
    rfl

end Publish

@[simp] theorem prune_halfOpenAttempt (policy : RestartPolicy) (now : Duration) :
    (policy.prune now).halfOpenAttempt = policy.halfOpenAttempt := rfl

/-- Recovery records the exit, and then it waits for a restart or the circuit is open. -/
inductive RecoverEffect (actor : SupervisorActor) (exit : DaemonExitClass) (clock : Readings) :
    SupervisorActor → Prop where
  | retries (delay : Duration) (policy : RestartPolicy)
      (decided : actor.policy.onFailure (actor.elapsed clock.recoverAt) =
        (.retryAfter delay, policy)) :
      RecoverEffect actor exit clock
        ({ ({ actor with child := none, readyIdentity := none }.updateSnapshot fun snapshot =>
              { snapshot with lastExit := some exit }) with
          policy := policy
          nextStartReason := .automaticRetry
          phase := .waiting (clock.recoverAt + delay) }.publishState
            .retryWait exit.transition (some delay) 0 clock.publishAt)
  | opens (delay : Duration) (policy : RestartPolicy)
      (decided : actor.policy.onFailure (actor.elapsed clock.recoverAt) =
        (.openCircuit delay, policy)) :
      RecoverEffect actor exit clock
        ({ ({ actor with child := none, readyIdentity := none }.updateSnapshot fun snapshot =>
              { snapshot with lastExit := some exit }) with
          policy := policy
          phase := .circuitOpen (clock.recoverAt + delay) }.publishState
            .circuitOpen .restartBudgetExhausted (some delay) 0 clock.publishAt)

theorem recover_effect (actor : SupervisorActor) (exit : DaemonExitClass) (clock : Readings) :
    RecoverEffect actor exit clock (actor.recover exit clock) := by
  match decided : actor.policy.onFailure (actor.elapsed clock.recoverAt) with
  | (.retryAfter delay, policy) =>
    have retries := @RecoverEffect.retries actor exit clock delay policy decided
    simp only [elapsed] at retries decided
    simpa only [recover, clearReadyIdentity, updateSnapshot, elapsed, decided] using retries
  | (.openCircuit delay, policy) =>
    have opens := @RecoverEffect.opens actor exit clock delay policy decided
    simp only [elapsed] at opens decided
    simpa only [recover, clearReadyIdentity, updateSnapshot, elapsed, decided] using opens

/-- A retry that is accepted waits for its start; any other changes nothing. -/
theorem manualRetry_cases (actor : SupervisorActor) (clock : Readings) :
    (actor.acceptsRetry clock.now = none ∧ actor.manualRetry clock = actor) ∨
    ∃ policy, actor.acceptsRetry clock.now = some policy ∧
      actor.manualRetry clock = { actor with
        policy := policy
        nextStartReason := .manualRetry
        phase := .waiting clock.now }.publishState .starting .manualRetry none 0
          clock.publishAt := by
  unfold manualRetry
  cases accepted : actor.acceptsRetry clock.now with
  | none => exact .inl ⟨rfl, rfl⟩
  | some policy => exact .inr ⟨policy, rfl, rfl⟩

/-- A retry is accepted from a blocked supervisor, which keeps its policy, or from
an open circuit whose time has come, as the trial of a half-open circuit. -/
theorem acceptsRetry_cases {now : Instant} {policy : RestartPolicy}
    (accepted : actor.acceptsRetry now = some policy) :
    (actor.phase = .blocked ∧ policy = actor.policy) ∨
    ∃ retryAt, actor.phase = .circuitOpen retryAt ∧ retryAt ≤ now ∧
      policy = actor.policy.beginHalfOpen := by
  unfold acceptsRetry at accepted
  split at accepted
  · exact .inl ⟨‹_›, (Option.some.inj accepted).symm⟩
  · split at accepted
    · exact .inr ⟨_, ‹_›, ‹_›, RestartPolicy.beginManualHalfOpen_eq_some accepted⟩
    · cases accepted
  all_goals cases accepted

end SupervisorActor

/-! ## The child and the identity -/

/-- A child is held exactly while it starts or runs, and the identity that is
published is that of the running child. -/
structure Coherent (actor : SupervisorActor) : Prop where
  child : actor.child.isSome = actor.phase.holdsChild
  identity : ∀ identity, actor.readyIdentity = some identity →
    ∃ heartbeatAt failures child, actor.phase = .running heartbeatAt failures ∧
      actor.snapshot.value.state = .running ∧ actor.child = some child ∧
      identity = ⟨actor.snapshot.value.generation, child.launchId⟩

variable {exit : DaemonExitClass}

namespace Coherent

variable {actor : SupervisorActor} {clock : Readings} {outcomes : Outcomes}

/-- What a pass leaves without a child and without an identity. -/
theorem of_stopped (child : actor.child = none) (phase : actor.phase.holdsChild = false)
    (identity : actor.readyIdentity = none) : Coherent actor := by
  refine ⟨by simp [child, phase], ?_⟩
  intro named published
  rw [identity] at published
  cases published

theorem recover {next : SupervisorActor} (effect : actor.RecoverEffect exit clock next) :
    Coherent next := by
  cases effect <;> rw [SupervisorActor.publishState_eq] <;> exact of_stopped rfl rfl rfl

theorem block (actor : SupervisorActor) (reason : DaemonBlockedReason) (clock : Readings) :
    Coherent (actor.block reason clock) := by
  exact of_stopped rfl rfl rfl

/-- A write that leaves the state and the generation of the snapshot, and a phase
of the same kind. -/
theorem beat {next : SupervisorActor} (coherent : Coherent actor)
    {heartbeatAt failures heartbeatAt' failures' : Nat}
    (running : actor.phase = .running heartbeatAt failures)
    (phase : next.phase = .running heartbeatAt' failures')
    (child : next.child = actor.child) (identity : next.readyIdentity = actor.readyIdentity)
    (state : next.snapshot.value.state = actor.snapshot.value.state)
    (generation : next.snapshot.value.generation = actor.snapshot.value.generation) :
    Coherent next := by
  refine ⟨?_, ?_⟩
  · rw [child, coherent.child, phase, running]
    rfl
  · intro named published
    rw [identity] at published
    obtain ⟨_, _, held, _, shown, holds, rfl⟩ := coherent.identity named published
    exact ⟨_, _, held, phase, state.trans shown, child.trans holds, by rw [generation]⟩

theorem tick {next : SupervisorActor} (coherent : Coherent actor)
    (effect : actor.TickEffect clock outcomes next) : Coherent next := by
  cases effect with
  | idle => exact coherent
  | recovers exit => exact recover (actor.recover_effect exit clock)
  | blocks reason => exact block actor reason clock
  | starts child startAt phase due =>
    refine ⟨by simp [ActorPhase.holdsChild], ?_⟩
    intro named published
    simp at published
  | enters child deadline phase held =>
    refine ⟨by simp [SupervisorActor.enterRunning, SupervisorActor.updateSnapshot, held,
      ActorPhase.holdsChild], ?_⟩
    intro named published
    obtain rfl := Option.some.inj published
    exact ⟨_, _, child, rfl, rfl, held, by simp [SupervisorActor.enterRunning, held]⟩
  | beats _ _ phase | resets _ _ phase | misses _ _ phase =>
    exact coherent.beat phase rfl rfl rfl rfl rfl
  | shows retryAt phase =>
    refine ⟨coherent.child, ?_⟩
    intro named published
    obtain ⟨_, _, _, running, _⟩ := coherent.identity named published
    rw [phase] at running
    cases running

theorem manualRetry (coherent : Coherent actor) : Coherent (actor.manualRetry clock) := by
  obtain ⟨_, same⟩ | ⟨policy, accepted, next⟩ := actor.manualRetry_cases clock
  · rw [same]
    exact coherent
  · have halted : actor.child = none := by
      have held := coherent.child
      obtain ⟨phase, _⟩ | ⟨_, phase, _⟩ := SupervisorActor.acceptsRetry_cases accepted <;>
        simpa [phase, ActorPhase.holdsChild] using held
    rw [next]
    exact of_stopped (by simpa using halted) (by simp [ActorPhase.holdsChild])
      (by simp)

theorem inductive_ (timing : SupervisorTiming) :
    (supervisorMachine timing).Inductive fun s => Coherent s.actor where
  start := by
    rintro _ ⟨startedAt, rfl⟩
    exact of_stopped rfl rfl rfl
  step := by
    rintro s event t coherent ⟨_, rfl⟩
    cases event with
    | tick clock outcomes => exact coherent.tick (s.actor.tick_effect clock outcomes)
    | retry clock => exact coherent.manualRetry

end Coherent

/-! ## The budget of restarts -/

open SlidingWindow

/-- The reading of the clock that the policy keeps. -/
def policyReading (window : Duration) (startedAt now : Instant) : Duration :=
  window.saturatingAdd (now - startedAt)

theorem policyReading_noFaster (window : Duration) (startedAt : Instant) :
    NoFaster (policyReading window startedAt) := by
  intro a b _
  simp only [policyReading, Duration.saturatingAdd]
  omega

/-- The restarts since the last stable reset are those of a budget, and the policy
remembers the ones that still count. -/
structure Budgeted (timing : SupervisorTiming) (log : List Instant) (actor : SupervisorActor)
    (clock : Instant) : Prop where
  timed : actor.timing = timing
  config : actor.policy.config = timing.policy
  budget : Budget (policyReading timing.policy.window actor.startedAt) timing.policy.window
    maxAutomaticRestarts clock log actor.policy.automaticRestarts

variable {events : List SupervisorEvent}

namespace Budgeted

variable {timing : SupervisorTiming} {log : List Instant} {actor next : SupervisorActor}
  {clock now : Instant} {readings : Readings} {outcomes : Outcomes}

theorem policyTime (budgeted : Budgeted timing log actor clock) (now : Instant) :
    actor.policy.policyTime (actor.elapsed now) =
      policyReading timing.policy.window actor.startedAt now := by
  rw [RestartPolicy.policyTime, budgeted.config]
  rfl

/-- What leaves the remembered restarts alone leaves the budget, as time passes. -/
theorem same (budgeted : Budgeted timing log actor clock) (passed : clock ≤ now)
    (same_timing : next.timing = actor.timing) (startedAt : next.startedAt = actor.startedAt)
    (config : next.policy.config = actor.policy.config)
    (restarts : next.policy.automaticRestarts = actor.policy.automaticRestarts) :
    Budgeted timing log next now := by
  refine ⟨same_timing.trans budgeted.timed, config.trans budgeted.config, ?_⟩
  rw [startedAt, restarts]
  exact budgeted.budget.wait passed

/-- A policy whose restarts are pruned at a later moment. -/
theorem pruned (budgeted : Budgeted timing log actor clock) (passed : clock ≤ now)
    (same_timing : next.timing = actor.timing) (startedAt : next.startedAt = actor.startedAt)
    (config : next.policy.config = actor.policy.config)
    (restarts : next.policy.automaticRestarts =
      (actor.policy.prune (actor.policy.policyTime (actor.elapsed now))).automaticRestarts) :
    Budgeted timing log next now := by
  refine ⟨same_timing.trans budgeted.timed, config.trans budgeted.config, ?_⟩
  rw [startedAt, restarts, budgeted.policyTime, RestartPolicy.prune, budgeted.config]
  exact budgeted.budget.prune (policyReading_noFaster _ _) passed

theorem publishState (budgeted : Budgeted timing log actor clock) (passed : clock ≤ now)
    (state : DaemonLifecycleKind) (reason : DaemonTransitionReason) (retryAfter : Option Duration)
    (heartbeatFailures : Nat) :
    Budgeted timing log (actor.publishState state reason retryAfter heartbeatFailures now) now :=
  budgeted.pruned passed (by simp) (by simp) (by simp [RestartPolicy.prune]) (by simp)

/-- The restarts that recovery schedules. -/
theorem recover (budgeted : Budgeted timing log actor clock) (passed : clock ≤ readings.now)
    (effect : actor.RecoverEffect exit readings next) :
    Budgeted timing (log ++ (actor.decision readings).restarts readings.recoverAt) next
      readings.publishAt := by
  have failed : clock ≤ readings.recoverAt := Nat.le_trans passed readings.recover_after
  cases effect with
  | retries delay policy decided =>
    have answered : actor.decision readings = .retryAfter delay := by
      rw [SupervisorActor.decision, decided]
    rw [answered]
    refine Budgeted.publishState ?_ readings.publish_after _ _ _ _
    obtain ⟨_, _, _, _, room, next⟩ | ⟨opened, _⟩ :=
      actor.policy.onFailure_cases (actor.elapsed readings.recoverAt)
    · rw [decided] at next
      obtain rfl : policy = _ := next
      have kept : Budgeted timing log { actor with
          policy := actor.policy.prune (actor.policy.policyTime
            (actor.elapsed readings.recoverAt)) } readings.recoverAt :=
        budgeted.pruned failed rfl rfl rfl rfl
      refine ⟨budgeted.timed, budgeted.config, ?_⟩
      have pushed := kept.budget.push room
      rw [← budgeted.policyTime] at pushed
      exact pushed
    · rw [decided] at opened
      cases opened
  | opens delay policy decided =>
    have answered : actor.decision readings = .openCircuit delay := by
      rw [SupervisorActor.decision, decided]
    rw [answered, RecoveryDecision.restarts, List.append_nil]
    refine Budgeted.publishState ?_ readings.publish_after _ _ _ _
    obtain ⟨_, retried, _⟩ | ⟨_, config, _, same | pruned⟩ :=
      actor.policy.onFailure_cases (actor.elapsed readings.recoverAt)
    · rw [decided] at retried
      cases retried
    · rw [decided] at config same
      exact budgeted.same failed rfl rfl config same
    · rw [decided] at config pruned
      exact budgeted.pruned failed rfl rfl config pruned

/-- A pass that does not reset the budget schedules what `restarts` says. -/
theorem tick (budgeted : Budgeted timing log actor clock) (passed : clock ≤ readings.now)
    (effect : actor.TickEffect readings outcomes next)
    (unreset : actor.stablyResets readings outcomes = false) :
    Budgeted timing (log ++ Supervision.restarts ⟨actor, clock⟩ (.tick readings outcomes)) next
      readings.publishAt := by
  have later : clock ≤ readings.publishAt := Nat.le_trans passed readings.now_le_publishAt
  have quiet : actor.failure readings outcomes = none →
      Supervision.restarts ⟨actor, clock⟩ (.tick readings outcomes) = [] := by
    intro unfailed
    simp [Supervision.restarts, Supervision.failure, unfailed]
  cases effect with
  | recovers exit failed =>
    have recovered := budgeted.recover passed (actor.recover_effect exit readings)
    simpa only [Supervision.restarts, Supervision.failure, failed]
  | idle unfailed | enters _ _ _ _ unfailed | beats _ _ _ unfailed | misses _ _ _ _ unfailed
  | shows _ _ unfailed =>
    rw [quiet unfailed, List.append_nil]
    exact budgeted.same later rfl rfl rfl rfl
  | blocks reason unfailed =>
    rw [quiet unfailed, List.append_nil]
    have stopped : Budgeted timing log
        { actor with child := none, phase := .blocked }.clearReadyIdentity clock :=
      budgeted.same (Nat.le_refl _) rfl rfl rfl rfl
    exact stopped.publishState later _ _ _ _
  | starts child startAt phase due unfailed =>
    rw [quiet unfailed, List.append_nil]
    have started : Budgeted timing log { actor with
        child := some child
        phase := .starting (readings.now + actor.timing.startupDeadline) } clock :=
      budgeted.same (Nat.le_refl _) rfl rfl rfl rfl
    exact started.publishState later _ _ _ _
  | resets heartbeatAt failures phase unfailed reset =>
    rw [unreset] at reset
    cases reset

/-- A stable reset begins a new budget. -/
theorem reset (budgeted : Budgeted timing log actor clock)
    (effect : actor.TickEffect readings outcomes next)
    (reset : actor.stablyResets readings outcomes = true) :
    Budgeted timing [] next readings.publishAt := by
  cases effect with
  | resets => exact ⟨budgeted.timed, budgeted.config, .empty _ _ _ _⟩
  | _ => simp_all

theorem manualRetry (budgeted : Budgeted timing log actor clock) (passed : clock ≤ readings.now) :
    Budgeted timing log (actor.manualRetry readings) readings.publishAt := by
  have later : clock ≤ readings.publishAt := Nat.le_trans passed readings.now_le_publishAt
  obtain ⟨_, same⟩ | ⟨policy, accepted, next⟩ := actor.manualRetry_cases readings
  · rw [same]
    exact budgeted.same later rfl rfl rfl rfl
  · rw [next]
    refine Budgeted.publishState ?_ later _ _ _ _
    obtain ⟨_, rfl⟩ | ⟨_, _, _, rfl⟩ := SupervisorActor.acceptsRetry_cases accepted <;>
      exact budgeted.same (Nat.le_refl _) rfl rfl rfl rfl

/-- The restarts of one step that is not a stable reset. -/
theorem step {s t : Supervision} {event : SupervisorEvent}
    (budgeted : Budgeted timing log s.actor s.clock)
    (taken : (supervisorMachine timing).step s event t) (unreset : s.stablyResets event = false) :
    Budgeted timing (log ++ s.restarts event) t.actor t.clock := by
  obtain ⟨passed, rfl⟩ := taken
  cases event with
  | tick readings outcomes =>
    exact budgeted.tick passed (s.actor.tick_effect readings outcomes) unreset
  | retry readings =>
    have quiet : s.restarts (.retry readings) = [] := rfl
    rw [quiet, List.append_nil]
    exact budgeted.manualRetry passed

theorem inductive_ (timing : SupervisorTiming) :
    (supervisorMachine timing).Inductive fun s => ∃ log, Budgeted timing log s.actor s.clock where
  start := by
    rintro _ ⟨startedAt, rfl⟩
    exact ⟨[], rfl, rfl, .empty _ _ _ _⟩
  step := by
    rintro s event t ⟨log, budgeted⟩ taken
    cases unreset : s.stablyResets event with
    | false => exact ⟨_, budgeted.step taken unreset⟩
    | true =>
      obtain ⟨passed, rfl⟩ := taken
      cases event with
      | tick readings outcomes =>
        exact ⟨[], budgeted.reset (s.actor.tick_effect readings outcomes) unreset⟩
      | retry readings => cases unreset

/-- The restarts of a run without a stable reset continue the budget of its start. -/
theorem logs {s t : Supervision} {restarts : List Instant}
    (budgeted : Budgeted timing log s.actor s.clock)
    (logged : ((supervisorMachine timing).restrict fun s event =>
      s.stablyResets event = false).Logs Supervision.restarts s events restarts t) :
    Budgeted timing (log ++ restarts) t.actor t.clock := by
  induction logged with
  | nil => simpa using budgeted
  | snoc _ taken ih =>
    rw [← List.append_assoc]
    exact ih.step taken.2 taken.1

end Budgeted

/-! ## The open circuit -/

section Circuit

variable {timing : SupervisorTiming} {s t : Supervision} {event : SupervisorEvent}

/-- Nothing but an accepted retry leaves an open circuit or a blocked supervisor. -/
theorem halted_step (halted : s.actor.phase.isHalted = true)
    (taken : (supervisorMachine timing).step s event t) (refused : s.acceptsRetry event = false) :
    t.actor.phase = s.actor.phase := by
  obtain ⟨_, rfl⟩ := taken
  cases event with
  | tick readings outcomes =>
    have ticked : (s.actor.tick readings outcomes).phase = s.actor.phase := by
      cases phase : s.actor.phase <;>
        simp_all [SupervisorActor.tick, ActorPhase.isHalted, SupervisorActor.showRemaining,
          SupervisorActor.updateSnapshot]
    exact ticked
  | retry readings =>
    obtain ⟨_, same⟩ | ⟨policy, accepted, _⟩ := s.actor.manualRetry_cases readings
    · exact congrArg SupervisorActor.phase same
    · simp [Supervision.acceptsRetry, accepted] at refused

/-- A supervisor that is open or blocked stays so while no retry is accepted. -/
theorem halted_run (halted : s.actor.phase.isHalted = true)
    (run : ((supervisorMachine timing).restrict fun s event =>
      s.acceptsRetry event = false).Run s events t) : t.actor.phase = s.actor.phase := by
  induction run with
  | nil => rfl
  | snoc _ taken ih =>
    exact (halted_step (ih ▸ halted) taken.2 taken.1).trans ih

theorem not_attemptsStart (halted : s.actor.phase.isHalted = true) (event : SupervisorEvent) :
    s.attemptsStart event = false := by
  cases event with
  | tick readings outcomes =>
    cases phase : s.actor.phase <;>
      simp_all [Supervision.attemptsStart, SupervisorActor.attemptsStart, ActorPhase.isHalted]
  | retry readings => rfl

/-- A failure opens the circuit, or it leaves it closed and a restart is waited for. -/
theorem phase_of_failure (failed : s.failure event = some exit)
    (taken : (supervisorMachine timing).step s event t) :
    t.actor.phase = match s.actor.decision event.clock with
      | .retryAfter delay => .waiting (event.clock.recoverAt + delay)
      | .openCircuit delay => .circuitOpen (event.clock.recoverAt + delay) := by
  obtain ⟨_, rfl⟩ := taken
  cases event with
  | retry readings => cases failed
  | tick readings outcomes =>
    have recovered : s.actor.tick readings outcomes = s.actor.recover exit readings := by
      generalize ticked : s.actor.tick readings outcomes = next
      have effect := s.actor.tick_effect readings outcomes
      rw [ticked] at effect
      simp only [Supervision.failure] at failed
      cases effect with
      | recovers other answered =>
        rw [failed] at answered
        rw [Option.some.inj answered]
      | _ => simp_all
    simp only [Supervision.next, recovered, SupervisorEvent.clock]
    generalize made : s.actor.recover exit readings = next
    have effect := s.actor.recover_effect exit readings
    rw [made] at effect
    cases effect with
    | retries delay policy decided | opens delay policy decided =>
      simp [SupervisorActor.decision, decided]

theorem failure_of_opens {opened : Instant} (opens : s.opens event = some opened) :
    ∃ exit delay, s.failure event = some exit ∧
      s.actor.decision event.clock = .openCircuit delay ∧ event.clock.recoverAt = opened := by
  unfold Supervision.opens at opens
  cases failed : s.failure event with
  | none => simp [failed] at opens
  | some exit =>
    rw [failed] at opens
    cases decided : s.actor.decision event.clock with
    | retryAfter delay => simp [decided, RecoveryDecision.opens] at opens
    | openCircuit delay =>
      exact ⟨exit, delay, rfl, rfl, by simpa [decided, RecoveryDecision.opens] using opens⟩

/-- The delay after which an open circuit may be retried is the one of the policy. -/
theorem phase_of_opens {opened : Instant} (reachable : (supervisorMachine timing).Reachable s)
    (opens : s.opens event = some opened) (taken : (supervisorMachine timing).step s event t) :
    t.actor.phase = .circuitOpen (opened + timing.policy.circuitOpen) := by
  obtain ⟨exit, delay, failed, decided, rfl⟩ := failure_of_opens opens
  obtain ⟨_, budgeted⟩ := (Budgeted.inductive_ timing).holds reachable
  have delayed : delay = timing.policy.circuitOpen := by
    rw [SupervisorActor.decision] at decided
    obtain ⟨_, retried, _⟩ | ⟨opened, _⟩ :=
      s.actor.policy.onFailure_cases (s.actor.elapsed event.clock.recoverAt)
    · rw [decided] at retried
      cases retried
    · rw [decided, budgeted.config] at opened
      exact RecoveryDecision.openCircuit.inj opened
  rw [phase_of_failure failed taken, decided, delayed]

/-- The circuit is closed until a failure opens it. -/
theorem closed_step (closed : s.actor.phase.isOpen = false) (unopened : s.opens event = none)
    (taken : (supervisorMachine timing).step s event t) : t.actor.phase.isOpen = false := by
  cases failed : s.failure event with
  | some exit =>
    rw [phase_of_failure failed taken]
    simp only [Supervision.opens, failed] at unopened
    cases decided : s.actor.decision event.clock with
    | retryAfter delay => rfl
    | openCircuit delay => simp [decided, RecoveryDecision.opens] at unopened
  | none =>
    obtain ⟨_, rfl⟩ := taken
    cases event with
    | tick readings outcomes =>
      simp only [Supervision.failure] at failed
      simp only [Supervision.next]
      generalize ticked : s.actor.tick readings outcomes = next
      have effect := s.actor.tick_effect readings outcomes
      rw [ticked] at effect
      cases effect with
      | idle => exact closed
      | recovers exit answered => simp [failed] at answered
      | blocks reason => simp [SupervisorActor.block, SupervisorActor.clearReadyIdentity,
          ActorPhase.isOpen]
      | starts => simp [ActorPhase.isOpen]
      | enters | beats | resets | misses => rfl
      | shows retryAt phase => simp [phase, ActorPhase.isOpen] at closed
    | retry readings =>
      obtain ⟨_, same⟩ | ⟨policy, _, next⟩ := s.actor.manualRetry_cases readings
      · exact (congrArg (fun actor => actor.phase.isOpen) same).trans closed
      · simp [Supervision.next, next, ActorPhase.isOpen]

theorem closed_run (closed : s.actor.phase.isOpen = false)
    (run : ((supervisorMachine timing).restrict fun s event => s.opens event = none).Run
      s events t) : t.actor.phase.isOpen = false := by
  induction run with
  | nil => exact closed
  | snoc _ taken ih => exact closed_step ih taken.1 taken.2

/-- The trial of a half-open circuit lasts until a failure or a stable reset. -/
theorem halfOpen_step (trial : s.actor.policy.halfOpenAttempt = true)
    (unfailed : s.failure event = none) (unreset : s.stablyResets event = false)
    (taken : (supervisorMachine timing).step s event t) :
    t.actor.policy.halfOpenAttempt = true := by
  obtain ⟨_, rfl⟩ := taken
  cases event with
  | tick readings outcomes =>
    simp only [Supervision.failure] at unfailed
    simp only [Supervision.stablyResets] at unreset
    simp only [Supervision.next]
    generalize ticked : s.actor.tick readings outcomes = next
    have effect := s.actor.tick_effect readings outcomes
    rw [ticked] at effect
    cases effect with
    | idle | beats | misses | shows | enters => exact trial
    | recovers exit answered => simp [unfailed] at answered
    | blocks | starts =>
      simpa [SupervisorActor.block, SupervisorActor.clearReadyIdentity] using trial
    | resets heartbeatAt failures phase _ reset => simp [unreset] at reset
  | retry readings =>
    obtain ⟨_, same⟩ | ⟨policy, accepted, next⟩ := s.actor.manualRetry_cases readings
    · exact (congrArg (fun actor => actor.policy.halfOpenAttempt) same).trans trial
    · obtain ⟨_, rfl⟩ | ⟨_, _, _, rfl⟩ := SupervisorActor.acceptsRetry_cases accepted
      · simpa [Supervision.next, next] using trial
      · simp [Supervision.next, next, RestartPolicy.beginHalfOpen]

theorem halfOpen_run (trial : s.actor.policy.halfOpenAttempt = true)
    (run : ((supervisorMachine timing).restrict fun s event =>
      s.failure event = none ∧ s.stablyResets event = false).Run s events t) :
    t.actor.policy.halfOpenAttempt = true := by
  induction run with
  | nil => exact trial
  | snoc _ taken ih => exact halfOpen_step ih taken.1.1 taken.1.2 taken.2

/-- An accepted retry of an open circuit comes after its time, leaves it closed, and
is a trial. -/
theorem retried_open {retryAt : Instant} (phase : s.actor.phase = .circuitOpen retryAt)
    (accepted : s.acceptsRetry event = true) (taken : (supervisorMachine timing).step s event t) :
    retryAt ≤ event.clock.now ∧ t.actor.phase.isOpen = false ∧
      t.actor.policy.halfOpenAttempt = true := by
  obtain ⟨_, rfl⟩ := taken
  cases event with
  | tick readings outcomes => cases accepted
  | retry readings =>
    obtain ⟨refused, _⟩ | ⟨policy, granted, next⟩ := s.actor.manualRetry_cases readings
    · simp [Supervision.acceptsRetry, refused] at accepted
    · obtain ⟨blocked, _⟩ | ⟨_, open_, due, rfl⟩ := SupervisorActor.acceptsRetry_cases granted
      · rw [phase] at blocked
        cases blocked
      · obtain rfl := ActorPhase.circuitOpen.inj (open_.symm.trans phase)
        refine ⟨due, ?_, ?_⟩ <;>
          simp [Supervision.next, next, ActorPhase.isOpen, RestartPolicy.beginHalfOpen]

/-- The first failure of a trial opens the circuit again. -/
theorem opens_of_halfOpen (trial : s.actor.policy.halfOpenAttempt = true)
    (failed : s.failure event = some exit) : s.opens event = some event.clock.recoverAt := by
  simp [Supervision.opens, failed, SupervisorActor.decision,
    RestartPolicy.onFailure_of_halfOpen trial, RecoveryDecision.opens]

end Circuit

/-- **The rules of the supervisor.** In every run, a child is held exactly in the
starting and the running phase; a ready identity is published only in the running
phase and names the launch of the child; between stable resets at most five
automatic restarts are scheduled within any window. While the circuit is open or
the supervisor is blocked, nothing is started before a manual retry is accepted.
A retry of an open circuit is accepted only after the delay; then the circuit
stays closed, and the first failure that recovery handles opens it again, unless
the budget was reset before. -/
theorem supervisor_rules (timing : SupervisorTiming) :
    (∀ s, (supervisorMachine timing).Reachable s →
      s.actor.child.isSome = s.actor.phase.holdsChild) ∧
    (∀ s identity, (supervisorMachine timing).Reachable s →
      s.actor.readyIdentity = some identity →
      ∃ heartbeatAt failures child, s.actor.phase = .running heartbeatAt failures ∧
        s.actor.child = some child ∧ identity.launchId = child.launchId) ∧
    (∀ s events restarts t from_, (supervisorMachine timing).Reachable s →
      ((supervisorMachine timing).restrict fun s event => s.stablyResets event = false).Logs
        Supervision.restarts s events restarts t →
      (within timing.policy.window from_ restarts).length ≤ 5) ∧
    (∀ s events t event, s.actor.phase.isHalted = true →
      ((supervisorMachine timing).restrict fun s event => s.acceptsRetry event = false).Run
        s events t →
      t.attemptsStart event = false) ∧
    (∀ s event opened t events u retry v, (supervisorMachine timing).Reachable s →
      s.opens event = some opened → (supervisorMachine timing).step s event t →
      ((supervisorMachine timing).restrict fun s event => s.acceptsRetry event = false).Run
        t events u →
      u.acceptsRetry retry = true → (supervisorMachine timing).step u retry v →
      opened + timing.policy.circuitOpen ≤ retry.clock.now) ∧
    (∀ s retry t events u, s.actor.phase.isOpen = true → s.acceptsRetry retry = true →
      (supervisorMachine timing).step s retry t →
      ((supervisorMachine timing).restrict fun s event => s.opens event = none).Run t events u →
      u.actor.phase.isOpen = false) ∧
    (∀ s retry t events u event exit v, s.actor.phase.isOpen = true →
      s.acceptsRetry retry = true → (supervisorMachine timing).step s retry t →
      ((supervisorMachine timing).restrict fun s event =>
        s.failure event = none ∧ s.stablyResets event = false).Run t events u →
      u.failure event = some exit → (supervisorMachine timing).step u event v →
      u.opens event = some event.clock.recoverAt ∧ v.actor.phase.isOpen = true) := by
  have opened_phase : ∀ {s : Supervision}, s.actor.phase.isOpen = true →
      ∃ retryAt, s.actor.phase = .circuitOpen retryAt := by
    intro s open_
    cases phase : s.actor.phase <;> simp_all [ActorPhase.isOpen]
  refine ⟨?_, ?_, ?_, ?_, ?_, ?_, ?_⟩
  · intro s reachable
    exact ((Coherent.inductive_ timing).holds reachable).child
  · intro s identity reachable published
    obtain ⟨heartbeatAt, failures, child, phase, _, held, rfl⟩ :=
      ((Coherent.inductive_ timing).holds reachable).identity identity published
    exact ⟨heartbeatAt, failures, child, phase, held, rfl⟩
  · intro s events restarts t from_ reachable logged
    obtain ⟨log, budgeted⟩ := (Budgeted.inductive_ timing).holds reachable
    exact Nat.le_trans (length_within_le_append _ _ log restarts)
      ((budgeted.logs logged).budget.bounded from_)
  · intro s events t event halted run
    exact not_attemptsStart (halted_run halted run ▸ halted) event
  · intro s event opened t events u retry v reachable opens taken run accepted retried
    have phase := phase_of_opens reachable opens taken
    have halted : t.actor.phase.isHalted = true := by rw [phase]; rfl
    exact (retried_open ((halted_run halted run).trans phase) accepted retried).1
  · intro s retry t events u open_ accepted taken run
    obtain ⟨retryAt, phase⟩ := opened_phase open_
    exact closed_run (retried_open phase accepted taken).2.1 run
  · intro s retry t events u event exit v open_ accepted taken run failed step
    obtain ⟨retryAt, phase⟩ := opened_phase open_
    have trial := halfOpen_run (retried_open phase accepted taken).2.2 run
    have opens := opens_of_halfOpen trial failed
    obtain ⟨_, delay, _, decided, _⟩ := failure_of_opens opens
    refine ⟨opens, ?_⟩
    rw [phase_of_failure failed step, decided]
    rfl

/-! ## Played runs -/

/-- Readings of a clock that stands still during a pass. -/
def Readings.still (millis : Nat) : Readings :=
  let now := Duration.fromMillis millis
  ⟨now, now, now, Nat.le_refl _, Nat.le_refl _⟩

namespace Supervision

/-- The state after a list of events. -/
def play (s : Supervision) (events : List SupervisorEvent) : Supervision := events.foldl next s

/-- No event of the list begins before the clock. -/
def inOrder (s : Supervision) (events : List SupervisorEvent) : Bool :=
  Machine.playable next (fun s event => decide (s.clock ≤ event.clock.now)) s events

theorem run_play (timing : SupervisorTiming) {events : List SupervisorEvent} {s : Supervision}
    (ordered : s.inOrder events = true) :
    (supervisorMachine timing).Run s events (s.play events) := by
  refine Machine.Run.play (fun passed => ?_) ordered
  exact ⟨of_decide_eq_true passed, rfl⟩

end Supervision

def sampleSupervision : Supervision := ⟨.new .production 0, 0⟩

theorem sampleSupervision_play (ordered : sampleSupervision.inOrder events = true) :
    (supervisorMachine .production).Reachable (sampleSupervision.play events) :=
  (Supervision.run_play .production ordered).reachable (.start ⟨0, rfl⟩)

def failedStart (millis : Nat) : SupervisorEvent :=
  .tick (.still millis) ⟨.error .transient, .running, .unavailable⟩

/-- Six failed starts open the circuit, 50.25 seconds after the first. -/
def sampleOpening : List SupervisorEvent := [0, 250, 1250, 5250, 20250, 50250].map failedStart

def sampleOpen : Supervision := sampleSupervision.play sampleOpening

theorem sampleOpen_reachable : (supervisorMachine .production).Reachable sampleOpen :=
  sampleSupervision_play (by decide +kernel)

def sampleRetry : SupervisorEvent := .retry (.still 350250)

def sampleChild : SupervisedChild := ⟨"launch"⟩

/-- A start that reports why the daemon must not run. -/
def sampleBlockedStart : SupervisorEvent :=
  .tick (.still 350250) ⟨.error (.blocked .runtimeIntegrity), .running, .unavailable⟩

/-- A start, a child that is ready, and a heartbeat five minutes later. -/
def sampleHealth : List SupervisorEvent :=
  [.tick (.still 350250) ⟨.ok sampleChild, .running, .unavailable⟩,
    .tick (.still 350250) ⟨.ok sampleChild, .running, .ready⟩,
    .tick (.still 650250) ⟨.ok sampleChild, .running, .ready⟩]

def sampleExit : SupervisorEvent :=
  .tick (.still 650350) ⟨.ok sampleChild, .exited, .ready⟩

/-- A failure of a retried child that leaves the circuit closed: the start is
refused for good, and the supervisor is blocked. Neither does the failure of a
retried child open it that was healthy for five minutes before. -/
theorem retry_fails_with_closed_circuit :
    (supervisorMachine .production).Reachable sampleOpen ∧
    sampleOpen.actor.phase.isOpen = true ∧ sampleOpen.acceptsRetry sampleRetry = true ∧
    (supervisorMachine .production).Run sampleOpen [sampleRetry, sampleBlockedStart]
      (sampleOpen.play [sampleRetry, sampleBlockedStart]) ∧
    (sampleOpen.play [sampleRetry, sampleBlockedStart]).actor.phase = .blocked ∧
    (supervisorMachine .production).Run sampleOpen ([sampleRetry] ++ sampleHealth ++ [sampleExit])
      (sampleOpen.play ([sampleRetry] ++ sampleHealth ++ [sampleExit])) ∧
    (sampleOpen.play ([sampleRetry] ++ sampleHealth ++ [sampleExit])).actor.phase =
      .waiting (Duration.fromMillis 650600) := by
  refine ⟨sampleOpen_reachable, by decide +kernel, by decide +kernel, ?_, by decide +kernel, ?_,
    by decide +kernel⟩
  · exact Supervision.run_play _ (by decide +kernel)
  · exact Supervision.run_play _ (by decide +kernel)

/-- The sample circuit is retried after its delay, and the failure of the retry
opens it again. -/
theorem supervisor_rules_of_sample :
    (sampleOpen.next sampleRetry).opens (failedStart 350250) = some (Duration.fromMillis 350250) ∧
    ((sampleOpen.next sampleRetry).next (failedStart 350250)).actor.phase.isOpen = true := by
  have open_ : sampleOpen.actor.phase.isOpen = true := by decide +kernel
  have accepted : sampleOpen.acceptsRetry sampleRetry = true := by decide +kernel
  have retried : (supervisorMachine .production).step sampleOpen sampleRetry
      (sampleOpen.next sampleRetry) := ⟨by decide +kernel, rfl⟩
  have failed : (sampleOpen.next sampleRetry).failure (failedStart 350250) =
      some .startFailed := by decide +kernel
  have taken : (supervisorMachine .production).step (sampleOpen.next sampleRetry)
      (failedStart 350250) ((sampleOpen.next sampleRetry).next (failedStart 350250)) :=
    ⟨by decide +kernel, rfl⟩
  exact (supervisor_rules .production).2.2.2.2.2.2 _ _ _ _ _ _ _ _ open_ accepted retried
    (.nil _) failed taken

end ResumeIr.Desktop
