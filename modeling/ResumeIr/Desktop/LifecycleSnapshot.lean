import Mathlib.Algebra.Ring.Int.Defs
import Mathlib.Data.List.Sort
import ResumeIr.Desktop.SupervisorRuns

/-!
# What the user interface accepts

The user interface reads the snapshot as a value of its own language and checks
it before it uses it: the fields, their ranges, and laws between them. The
check is modelled over the values it meets (`JsValue`), and it is compared with
every snapshot a reader can have seen in a run of the supervisor with the
production timing.

The check rejects what the supervisor writes in two situations. A failed start
after another failure is recorded first as the last exit, while the snapshot
still gives the reason of the earlier failure. And a circuit that is opened by
the failure of a retry counts fewer than five restarts when older ones have left
the window.
-/

namespace ResumeIr.Desktop

/-! ## The values of the user interface -/

inductive JsValue where
  | undefined
  | null
  | number (value : Int)
  | string (text : String)
  | record (fields : List (String × JsValue))

namespace JsValue

/-- `String(value)`. -/
def text : JsValue → String
  | .undefined => "undefined"
  | .null => "null"
  | .number value => toString value
  | .string text => text
  | .record _ => "[object Object]"

/-- `Number(value)`, of the values that are numbers. -/
def toNumber : JsValue → Int
  | .number value => value
  | _ => 0

def isNull : JsValue → Bool
  | .null => true
  | _ => false

def maxSafeInteger : Nat := 9007199254740991

/-- `Number.isSafeInteger(value)`. -/
def isSafeInteger : JsValue → Bool
  | .number value => decide (value.natAbs ≤ maxSafeInteger)
  | _ => false

/-- `value === text` and `value === number`. -/
def isText (expected : String) : JsValue → Bool
  | .string text => decide (text = expected)
  | _ => false

def isNumber (expected : Int) : JsValue → Bool
  | .number value => decide (value = expected)
  | _ => false

/-- `left === right`, of texts. -/
def sameText : JsValue → JsValue → Bool
  | .string left, .string right => decide (left = right)
  | _, _ => false

end JsValue

/-- The field of a record. -/
def field (fields : List (String × JsValue)) (key : String) : JsValue :=
  (fields.lookup key).getD .undefined

def hasExactKeys (fields : List (String × JsValue)) (expected : List String) : Bool :=
  decide ((fields.map Prod.fst).insertionSort (· ≤ ·) = expected.insertionSort (· ≤ ·))

def lifecycleStates : List String :=
  ["starting", "running", "retry_wait", "circuit_open", "blocked"]

def transitionReasons : List String :=
  ["initial_start", "automatic_retry", "manual_retry", "control_plane_ready", "child_exited",
    "startup_timeout", "heartbeat_timeout", "start_failed", "control_plane_failure",
    "restart_budget_exhausted", "half_open_retry", "configuration_invalid", "runtime_integrity",
    "protocol_mismatch", "ownership_conflict", "supervisor_unavailable"]

def startingReasons : List String :=
  ["initial_start", "automatic_retry", "manual_retry", "half_open_retry"]

def exitReasons : List String :=
  ["child_exited", "startup_timeout", "heartbeat_timeout", "start_failed", "control_plane_failure"]

def blockedReasons : List String :=
  ["configuration_invalid", "runtime_integrity", "protocol_mismatch", "ownership_conflict",
    "supervisor_unavailable"]

def lifecycleReasonMatches (state reason : String) : Bool :=
  if state = "starting" then startingReasons.contains reason
  else if state = "running" then decide (reason = "control_plane_ready")
  else if state = "retry_wait" then exitReasons.contains reason
  else if state = "circuit_open" then decide (reason = "restart_budget_exhausted")
  else blockedReasons.contains reason

def lifecycleFieldsMatch (fields : List (String × JsValue)) : Bool :=
  let retryAfter := field fields "retry_after_ms"
  let heartbeats := field fields "heartbeat_failures"
  if (field fields "state").isText "running" then
    decide (0 < (field fields "generation").toNumber) && retryAfter.isNull
  else if (field fields "state").isText "starting" then
    retryAfter.isNull && heartbeats.isNumber 0 &&
      (!(field fields "transition_reason").isText "initial_start" ||
        (field fields "generation").isNumber 0)
  else if (field fields "state").isText "retry_wait" then
    !retryAfter.isNull && heartbeats.isNumber 0 &&
      (field fields "last_exit").sameText (field fields "transition_reason")
  else if (field fields "state").isText "circuit_open" then
    !retryAfter.isNull && heartbeats.isNumber 0 &&
      decide ((field fields "automatic_restart_attempt").toNumber =
        (field fields "automatic_restart_limit").toNumber)
  else retryAfter.isNull && heartbeats.isNumber 0

def isDaemonLifecycleSnapshot : JsValue → Bool
  | .record fields =>
      hasExactKeys fields
        ["schema_version", "state", "transition_reason", "generation",
          "automatic_restart_attempt", "automatic_restart_limit", "retry_after_ms",
          "heartbeat_failures", "last_exit"] &&
      (field fields "schema_version").isText "resume-ir.desktop-daemon-lifecycle.v2" &&
      lifecycleStates.contains (field fields "state").text &&
      transitionReasons.contains (field fields "transition_reason").text &&
      (field fields "generation").isSafeInteger &&
      decide (0 ≤ (field fields "generation").toNumber) &&
      (field fields "automatic_restart_attempt").isSafeInteger &&
      decide (0 ≤ (field fields "automatic_restart_attempt").toNumber) &&
      (field fields "automatic_restart_limit").isNumber 5 &&
      decide ((field fields "automatic_restart_attempt").toNumber ≤
        (field fields "automatic_restart_limit").toNumber) &&
      ((field fields "retry_after_ms").isNull ||
        ((field fields "retry_after_ms").isSafeInteger &&
          decide (0 ≤ (field fields "retry_after_ms").toNumber) &&
          decide ((field fields "retry_after_ms").toNumber ≤ 300000))) &&
      (field fields "heartbeat_failures").isSafeInteger &&
      decide (0 ≤ (field fields "heartbeat_failures").toNumber) &&
      decide ((field fields "heartbeat_failures").toNumber ≤ 3) &&
      ((field fields "last_exit").isNull ||
        exitReasons.contains (field fields "last_exit").text) &&
      lifecycleReasonMatches (field fields "state").text (field fields "transition_reason").text &&
      lifecycleFieldsMatch fields
  | _ => false

/-! ## The snapshot as such a value -/

def DaemonLifecycleKind.wire : DaemonLifecycleKind → String
  | .starting => "starting"
  | .running => "running"
  | .retryWait => "retry_wait"
  | .circuitOpen => "circuit_open"
  | .blocked => "blocked"

def DaemonTransitionReason.wire : DaemonTransitionReason → String
  | .initialStart => "initial_start"
  | .automaticRetry => "automatic_retry"
  | .manualRetry => "manual_retry"
  | .controlPlaneReady => "control_plane_ready"
  | .childExited => "child_exited"
  | .startupTimeout => "startup_timeout"
  | .heartbeatTimeout => "heartbeat_timeout"
  | .startFailed => "start_failed"
  | .controlPlaneFailure => "control_plane_failure"
  | .restartBudgetExhausted => "restart_budget_exhausted"
  | .halfOpenRetry => "half_open_retry"
  | .configurationInvalid => "configuration_invalid"
  | .runtimeIntegrity => "runtime_integrity"
  | .protocolMismatch => "protocol_mismatch"
  | .ownershipConflict => "ownership_conflict"
  | .supervisorUnavailable => "supervisor_unavailable"

def DaemonExitClass.wire : DaemonExitClass → String
  | .childExited => "child_exited"
  | .startupTimeout => "startup_timeout"
  | .heartbeatTimeout => "heartbeat_timeout"
  | .startFailed => "start_failed"
  | .controlPlaneFailure => "control_plane_failure"

namespace DaemonLifecycleSnapshot

/-- The serialized snapshot, as the user interface reads it. -/
def toJs (snapshot : DaemonLifecycleSnapshot) : JsValue :=
  .record [("schema_version", .string snapshot.schemaVersion),
    ("state", .string snapshot.state.wire),
    ("transition_reason", .string snapshot.transitionReason.wire),
    ("generation", .number snapshot.generation),
    ("automatic_restart_attempt", .number snapshot.automaticRestartAttempt),
    ("automatic_restart_limit", .number snapshot.automaticRestartLimit),
    ("retry_after_ms", (snapshot.retryAfterMs.map fun ms : Nat => JsValue.number ms).getD .null),
    ("heartbeat_failures", .number snapshot.heartbeatFailures),
    ("last_exit", (snapshot.lastExit.map fun exit => JsValue.string exit.wire).getD .null)]

def accepted (snapshot : DaemonLifecycleSnapshot) : Bool := isDaemonLifecycleSnapshot snapshot.toJs

end DaemonLifecycleSnapshot

/-! ## The laws of an accepted snapshot -/

/-- The reasons a state may be given for. -/
def DaemonLifecycleKind.allows : DaemonLifecycleKind → DaemonTransitionReason → Bool
  | .starting, .initialStart | .starting, .automaticRetry | .starting, .manualRetry
  | .starting, .halfOpenRetry => true
  | .running, .controlPlaneReady => true
  | .retryWait, .childExited | .retryWait, .startupTimeout | .retryWait, .heartbeatTimeout
  | .retryWait, .startFailed | .retryWait, .controlPlaneFailure => true
  | .circuitOpen, .restartBudgetExhausted => true
  | .blocked, .configurationInvalid | .blocked, .runtimeIntegrity | .blocked, .protocolMismatch
  | .blocked, .ownershipConflict | .blocked, .supervisorUnavailable => true
  | _, _ => false

namespace DaemonLifecycleSnapshot

/-- What a state asks of the other fields. -/
def Matching (snapshot : DaemonLifecycleSnapshot) : Prop :=
  match snapshot.state with
  | .running => 0 < snapshot.generation ∧ snapshot.retryAfterMs = none
  | .starting => snapshot.retryAfterMs = none ∧ snapshot.heartbeatFailures = 0 ∧
      (snapshot.transitionReason = .initialStart → snapshot.generation = 0)
  | .retryWait => snapshot.retryAfterMs ≠ none ∧ snapshot.heartbeatFailures = 0 ∧
      ∃ exit, snapshot.lastExit = some exit ∧ snapshot.transitionReason = exit.transition
  | .circuitOpen => snapshot.retryAfterMs ≠ none ∧ snapshot.heartbeatFailures = 0 ∧
      snapshot.automaticRestartAttempt = snapshot.automaticRestartLimit
  | .blocked => snapshot.retryAfterMs = none ∧ snapshot.heartbeatFailures = 0

/-- The laws the check enforces. -/
structure WellFormed (snapshot : DaemonLifecycleSnapshot) : Prop where
  schema : snapshot.schemaVersion = "resume-ir.desktop-daemon-lifecycle.v2"
  generation : snapshot.generation ≤ JsValue.maxSafeInteger
  limit : snapshot.automaticRestartLimit = 5
  attempt : snapshot.automaticRestartAttempt ≤ 5
  retryAfter : ∀ ms, snapshot.retryAfterMs = some ms → ms ≤ 300000
  heartbeats : snapshot.heartbeatFailures ≤ 3
  reason : snapshot.state.allows snapshot.transitionReason = true
  fields : snapshot.Matching

end DaemonLifecycleSnapshot

theorem reasonMatches_wire (state : DaemonLifecycleKind) (reason : DaemonTransitionReason) :
    lifecycleReasonMatches state.wire reason.wire = state.allows reason := by
  cases state <;> cases reason <;> rfl

theorem allows_exit (exit : DaemonExitClass) :
    DaemonLifecycleKind.retryWait.allows exit.transition = true := by
  cases exit <;> rfl

theorem allows_blocked (reason : DaemonBlockedReason) :
    DaemonLifecycleKind.blocked.allows reason.transition = true := by
  cases reason <;> rfl

theorem known_state (state : DaemonLifecycleKind) :
    lifecycleStates.contains state.wire = true := by
  cases state <;> rfl

theorem known_reason (reason : DaemonTransitionReason) :
    transitionReasons.contains reason.wire = true := by
  cases reason <;> rfl

theorem known_exit (exit : DaemonExitClass) : exitReasons.contains exit.wire = true := by
  cases exit <;> rfl

theorem wire_exit (exit : DaemonExitClass) (reason : DaemonTransitionReason) :
    exit.wire = reason.wire ↔ reason = exit.transition := by
  cases exit <;> cases reason <;> simp [DaemonExitClass.wire, DaemonTransitionReason.wire,
    DaemonExitClass.transition]

theorem wire_initial (reason : DaemonTransitionReason) :
    reason.wire = "initial_start" ↔ reason = .initialStart := by
  cases reason <;> simp [DaemonTransitionReason.wire]

/-- The laws between the fields. -/
theorem fieldsMatch_iff (snapshot : DaemonLifecycleSnapshot) (fields : List (String × JsValue))
    (value : snapshot.toJs = .record fields) :
    lifecycleFieldsMatch fields = true ↔ snapshot.Matching := by
  obtain rfl := JsValue.record.inj value
  cases state : snapshot.state <;> cases retry : snapshot.retryAfterMs <;>
    cases exit : snapshot.lastExit <;>
    simp [lifecycleFieldsMatch, field, List.lookup_cons, DaemonLifecycleSnapshot.Matching, state, retry,
      exit, DaemonLifecycleKind.wire, JsValue.isText, JsValue.isNull, JsValue.isNumber,
      JsValue.toNumber, JsValue.sameText, wire_initial, wire_exit,
      imp_iff_not_or]

theorem safe_number (value : Nat) :
    (JsValue.number value).isSafeInteger = true ↔ value ≤ JsValue.maxSafeInteger := by
  simp [JsValue.isSafeInteger]

theorem retryAfter_iff (retryAfter : Option Nat) (value : JsValue)
    (same : value = (retryAfter.map fun ms : Nat => JsValue.number ms).getD .null) :
    (value.isNull || (value.isSafeInteger && decide (0 ≤ value.toNumber) &&
      decide (value.toNumber ≤ 300000))) = true ↔ ∀ ms, retryAfter = some ms → ms ≤ 300000 := by
  subst same
  cases retryAfter with
  | none => simp [JsValue.isNull]
  | some ms =>
    simp only [Option.map_some, Option.getD_some, JsValue.isNull, Bool.false_or,
      Bool.and_eq_true, safe_number, JsValue.maxSafeInteger]
    constructor
    · rintro ⟨_, bound⟩ _ ⟨⟩
      exact Int.ofNat_le.mp (of_decide_eq_true bound)
    · intro bound
      have := bound ms rfl
      exact ⟨⟨by omega, decide_eq_true (Int.natCast_nonneg _)⟩,
        decide_eq_true (Int.ofNat_le.mpr this)⟩

theorem lastExit_known (lastExit : Option DaemonExitClass) (value : JsValue)
    (same : value = (lastExit.map fun exit => JsValue.string exit.wire).getD .null) :
    (value.isNull || exitReasons.contains value.text) = true := by
  subst same
  cases lastExit with
  | none => rfl
  | some exit => exact Bool.or_eq_true_iff.mpr (.inr (known_exit exit))

/-- **What the check accepts.** -/
theorem accepted_iff (snapshot : DaemonLifecycleSnapshot) :
    snapshot.accepted = true ↔ snapshot.WellFormed := by
  have laws := fieldsMatch_iff snapshot _ rfl
  have retryAfter_laws := retryAfter_iff snapshot.retryAfterMs _ rfl
  have reasons := reasonMatches_wire snapshot.state snapshot.transitionReason
  simp only [DaemonLifecycleSnapshot.accepted, DaemonLifecycleSnapshot.toJs,
    isDaemonLifecycleSnapshot, Bool.and_eq_true]
  constructor
  · rintro ⟨⟨⟨⟨⟨⟨⟨⟨⟨⟨⟨⟨⟨⟨⟨⟨_, schema⟩, _⟩, _⟩, generation⟩, _⟩, _⟩, _⟩, limit⟩, attempt⟩, retryAfter⟩,
      _⟩, _⟩, heartbeats⟩, _⟩, reason⟩, matching⟩
    have five : ((snapshot.automaticRestartLimit : Int) = 5) := of_decide_eq_true limit
    have few : ((snapshot.automaticRestartAttempt : Int) ≤ snapshot.automaticRestartLimit) :=
      of_decide_eq_true attempt
    have beats : ((snapshot.heartbeatFailures : Int) ≤ 3) := of_decide_eq_true heartbeats
    exact {
      schema := of_decide_eq_true schema
      generation := (safe_number _).mp generation
      limit := by omega
      attempt := by omega
      retryAfter := retryAfter_laws.mp retryAfter
      heartbeats := by omega
      reason := reasons.symm.trans reason
      fields := laws.mp matching }
  · intro formed
    have five := formed.limit
    have few := formed.attempt
    have beats := formed.heartbeats
    refine ⟨⟨⟨⟨⟨⟨⟨⟨⟨⟨⟨⟨⟨⟨⟨⟨?_, ?_⟩, known_state _⟩, known_reason _⟩, ?_⟩, ?_⟩, ?_⟩, ?_⟩, ?_⟩, ?_⟩, ?_⟩,
      ?_⟩, ?_⟩, ?_⟩, ?_⟩, ?_⟩, ?_⟩
    · exact decide_eq_true rfl
    · exact decide_eq_true formed.schema
    · exact (safe_number _).mpr formed.generation
    · exact decide_eq_true (Int.natCast_nonneg _)
    · exact (safe_number _).mpr (by simp only [JsValue.maxSafeInteger]; omega)
    · exact decide_eq_true (Int.natCast_nonneg _)
    · exact decide_eq_true (by omega)
    · exact decide_eq_true (Int.ofNat_le.mpr (by omega))
    · exact retryAfter_laws.mpr formed.retryAfter
    · exact (safe_number _).mpr (by simp only [JsValue.maxSafeInteger]; omega)
    · exact decide_eq_true (Int.natCast_nonneg _)
    · exact decide_eq_true (show (snapshot.heartbeatFailures : Int) ≤ 3 by omega)
    · exact lastExit_known snapshot.lastExit _ rfl
    · exact reasons.trans formed.reason
    · exact laws.mpr formed.fields

/-! ## What the supervisor shows -/

/-- The states a phase is shown as. -/
def ActorPhase.shownAs : ActorPhase → DaemonLifecycleKind → Bool
  | .waiting _, .starting | .waiting _, .retryWait => true
  | .starting _, .starting => true
  | .running _ _, .running => true
  | .circuitOpen _, .circuitOpen => true
  | .blocked, .blocked => true
  | _, _ => false

/-- The state that is shown fits the phase, an initial start is shown only before
the first generation, and an open circuit does not last longer than its delay. -/
structure Presented (actor : SupervisorActor) (clock : Instant) : Prop where
  schema : actor.snapshot.value.schemaVersion = "resume-ir.desktop-daemon-lifecycle.v2"
  limit : actor.snapshot.value.automaticRestartLimit = 5
  attempt : actor.snapshot.value.automaticRestartAttempt ≤ 5
  state : actor.phase.shownAs actor.snapshot.value.state = true
  reason : DaemonLifecycleKind.starting.allows actor.nextStartReason = true
  fresh : ∀ startAt, actor.phase = .waiting startAt → actor.nextStartReason = .initialStart →
    actor.snapshot.value.generation = 0
  open_ : ∀ retryAt, actor.phase = .circuitOpen retryAt → ∃ opensAt,
    actor.policy.manualHalfOpenAt = some opensAt ∧
      opensAt ≤ policyReading actor.policy.config.window actor.startedAt clock +
        actor.policy.config.circuitOpen

theorem ActorPhase.shownAs_running (heartbeatAt failures : Nat) (state : DaemonLifecycleKind) :
    (ActorPhase.running heartbeatAt failures).shownAs state = decide (state = .running) := by
  cases state <;> rfl

theorem ActorPhase.shownAs_circuitOpen (retryAt : Instant) (state : DaemonLifecycleKind) :
    (ActorPhase.circuitOpen retryAt).shownAs state = decide (state = .circuitOpen) := by
  cases state <;> rfl

namespace Presented

variable {timing : SupervisorTiming} {log : List Instant} {actor next : SupervisorActor}
  {clock now : Instant} {readings : Readings} {outcomes : Outcomes}

theorem reading_mono (window : Duration) (startedAt : Instant) {a b : Instant} (passed : a ≤ b) :
    policyReading window startedAt a ≤ policyReading window startedAt b :=
  Nat.le_min.mpr ⟨Nat.le_trans (Nat.min_le_left _ _)
    (Nat.add_le_add_left (Nat.sub_le_sub_right passed _) _), Nat.min_le_right _ _⟩

theorem running (presented : Presented actor clock) {heartbeatAt failures : Nat}
    (phase : actor.phase = .running heartbeatAt failures) (heartbeatAt' failures' : Nat) :
    (ActorPhase.running heartbeatAt' failures').shownAs actor.snapshot.value.state = true := by
  have shown := presented.state
  rw [phase, ActorPhase.shownAs_running] at shown
  rw [ActorPhase.shownAs_running, shown]

/-- A published state with the number of restarts that the policy remembers. -/
theorem publish (presented : Presented actor clock) (budgeted : Budgeted timing log next now)
    {state : DaemonLifecycleKind} {reason : DaemonTransitionReason}
    {retryAfter : Option Duration} {heartbeatFailures : Nat} {before : SupervisorActor}
    (published : next = before.publishState state reason retryAfter heartbeatFailures now)
    (same : before.snapshot.value.schemaVersion = actor.snapshot.value.schemaVersion ∧
      before.snapshot.value.automaticRestartLimit = actor.snapshot.value.automaticRestartLimit ∧
      before.snapshot.value.generation = actor.snapshot.value.generation)
    (shown : before.phase.shownAs state = true)
    (starts : DaemonLifecycleKind.starting.allows before.nextStartReason = true)
    (fresh : ∀ startAt, before.phase = .waiting startAt → before.nextStartReason ≠ .initialStart)
    (open_ : ∀ retryAt, before.phase = .circuitOpen retryAt → ∃ opensAt,
      before.policy.manualHalfOpenAt = some opensAt ∧
        opensAt ≤ policyReading before.policy.config.window before.startedAt now +
          before.policy.config.circuitOpen) :
    Presented next now := by
  have room := budgeted.budget.room
  rw [SupervisorActor.publishState_eq] at published
  subst published
  refine ⟨?_, ?_, ?_, ?_, ?_, ?_, ?_⟩
  · exact same.1.trans presented.schema
  · exact same.2.1.trans presented.limit
  · exact Nat.le_trans (Nat.mod_le _ _) room
  · exact shown
  · exact starts
  · intro startAt phase initial
    exact absurd initial (fresh startAt phase)
  · exact open_

/-- An update that leaves the phase as it is shown and what an open circuit waits for. -/
theorem keep (presented : Presented actor clock) (passed : clock ≤ now)
    (schema : next.snapshot.value.schemaVersion = actor.snapshot.value.schemaVersion)
    (limit : next.snapshot.value.automaticRestartLimit =
      actor.snapshot.value.automaticRestartLimit)
    (attempt : next.snapshot.value.automaticRestartAttempt ≤ 5)
    (state : next.phase.shownAs next.snapshot.value.state = true)
    (reason : next.nextStartReason = actor.nextStartReason)
    (fresh : ∀ startAt, next.phase = .waiting startAt → actor.phase = .waiting startAt ∧
      next.snapshot.value.generation = actor.snapshot.value.generation)
    (open_ : ∀ retryAt, next.phase = .circuitOpen retryAt →
      actor.phase = .circuitOpen retryAt ∧ next.policy = actor.policy ∧
        next.startedAt = actor.startedAt) : Presented next now := by
  refine ⟨schema.trans presented.schema, limit.trans presented.limit, attempt, state,
    reason ▸ presented.reason, ?_, ?_⟩
  · intro startAt phase initial
    obtain ⟨before, same⟩ := fresh startAt phase
    exact same.trans (presented.fresh startAt before (reason ▸ initial))
  · intro retryAt phase
    obtain ⟨before, policy, startedAt⟩ := open_ retryAt phase
    obtain ⟨opensAt, opens, bound⟩ := presented.open_ retryAt before
    rw [policy, startedAt]
    exact ⟨opensAt, opens, Nat.le_trans bound
      (Nat.add_le_add_right (reading_mono _ _ passed) _)⟩

theorem recover {exit : DaemonExitClass} (presented : Presented actor clock)
    (budgeted : Budgeted timing log next readings.publishAt)
    (effect : actor.RecoverEffect exit readings next) : Presented next readings.publishAt := by
  cases effect with
  | retries delay policy decided =>
    refine presented.publish budgeted rfl ⟨rfl, rfl, rfl⟩ rfl rfl ?_ ?_
    · exact nofun
    · exact nofun
  | opens delay policy decided =>
    refine presented.publish budgeted rfl ⟨rfl, rfl, rfl⟩ rfl presented.reason nofun ?_
    intro retryAt _
    obtain ⟨_, retried, _⟩ | ⟨_, config, opens, _⟩ :=
      actor.policy.onFailure_cases (actor.elapsed readings.recoverAt)
    · rw [decided] at retried
      cases retried
    · rw [decided] at config opens
      have same : policy.config = actor.policy.config := config
      refine ⟨_, opens, Nat.le_trans (Nat.min_le_left _ _) ?_⟩
      rw [same]
      exact Nat.add_le_add_right (reading_mono _ _ readings.publish_after) _

theorem tick (presented : Presented actor clock) (passed : clock ≤ readings.now)
    (budgeted : Budgeted timing log next readings.publishAt)
    (effect : actor.TickEffect readings outcomes next) : Presented next readings.publishAt := by
  have later : clock ≤ readings.publishAt := Nat.le_trans passed readings.now_le_publishAt
  cases effect with
  | idle _ _ closed =>
    exact presented.keep later rfl rfl presented.attempt presented.state rfl
      (fun _ phase => ⟨phase, rfl⟩) (fun retryAt phase => ⟨phase, rfl, rfl⟩)
  | recovers exit => exact presented.recover budgeted (actor.recover_effect exit readings)
  | blocks reason | starts child startAt phase due =>
    exact presented.publish budgeted rfl ⟨rfl, rfl, rfl⟩ rfl presented.reason nofun nofun
  | enters child deadline phase held =>
    exact presented.keep later rfl rfl presented.attempt rfl rfl nofun nofun
  | beats _ _ phase | misses _ _ phase =>
    exact presented.keep later rfl rfl presented.attempt (presented.running phase _ _) rfl nofun
      nofun
  | resets _ _ phase =>
    exact presented.keep later rfl rfl (Nat.zero_le _) (presented.running phase _ _) rfl nofun nofun
  | shows retryAt phase =>
    exact presented.keep later rfl rfl presented.attempt presented.state rfl
      (fun _ phase => ⟨phase, rfl⟩) (fun _ phase => ⟨phase, rfl, rfl⟩)

theorem manualRetry (presented : Presented actor clock) (passed : clock ≤ readings.now)
    (budgeted : Budgeted timing log (actor.manualRetry readings) readings.publishAt) :
    Presented (actor.manualRetry readings) readings.publishAt := by
  have later : clock ≤ readings.publishAt := Nat.le_trans passed readings.now_le_publishAt
  obtain ⟨_, same⟩ | ⟨policy, accepted, retried⟩ := actor.manualRetry_cases readings
  · rw [same]
    exact presented.keep later rfl rfl presented.attempt presented.state rfl
      (fun _ phase => ⟨phase, rfl⟩) (fun _ phase => ⟨phase, rfl, rfl⟩)
  · refine presented.publish budgeted retried ⟨rfl, rfl, rfl⟩ rfl rfl ?_ nofun
    exact nofun

theorem inductive_ (timing : SupervisorTiming) :
    (supervisorMachine timing).Inductive fun s =>
      (∃ log, Budgeted timing log s.actor s.clock) ∧ Presented s.actor s.clock := by
  refine (Budgeted.inductive_ timing).strengthen ?_ ?_
  · rintro _ ⟨startedAt, rfl⟩
    exact ⟨rfl, rfl, Nat.zero_le _, rfl, rfl, fun _ _ _ => rfl, nofun⟩
  · rintro s event t known presented taken
    obtain ⟨log, budgeted⟩ := (Budgeted.inductive_ timing).step known taken
    obtain ⟨passed, rfl⟩ := taken
    cases event with
    | tick readings outcomes =>
      exact presented.tick passed budgeted (s.actor.tick_effect readings outcomes)
    | retry readings => exact presented.manualRetry passed budgeted

end Presented

/-! ## Every snapshot a reader can have seen -/

/-- Every snapshot that was ever shown is accepted. -/
def AllAccepted (cell : Shared DaemonLifecycleSnapshot) : Prop :=
  ∀ snapshot ∈ cell.held, snapshot.accepted = true

/-- The restarts that the window of an actor still counts at a moment. -/
def SupervisorActor.countedRestarts (actor : SupervisorActor) (now : Instant) : Nat :=
  (actor.policy.prune (actor.policy.policyTime (actor.elapsed now))).automaticRestarts.length

/-- An event in which a child that is starting is found ready. -/
def Supervision.becomesReady (s : Supervision) : SupervisorEvent → Bool
  | .tick _ outcomes => s.actor.becomesReady outcomes
  | .retry _ => false

/-- An event that the user interface can follow: a failed start comes after no failure of
another kind, a circuit is opened while the window counts five restarts, and a child gets
ready only if its generation is a number the user interface can count to. -/
structure Plain (s : Supervision) (event : SupervisorEvent) : Prop where
  exit : ∀ exit ∈ s.failure event, s.actor.snapshot.value.state = .retryWait →
    s.actor.snapshot.value.transitionReason = exit.transition
  budget : (s.opens event).isSome → s.actor.countedRestarts event.clock.publishAt = 5
  generation : s.becomesReady event = true →
    s.actor.snapshot.value.generation < JsValue.maxSafeInteger

section Accepted

variable {timing : SupervisorTiming} {log : List Instant} {actor next : SupervisorActor}
  {clock : Instant} {readings : Readings} {outcomes : Outcomes}
  {cell : Shared DaemonLifecycleSnapshot} {snapshot : DaemonLifecycleSnapshot}

theorem allAccepted_write :
    AllAccepted (cell.write snapshot) ↔ snapshot.WellFormed ∧ AllAccepted cell := by
  simp [AllAccepted, accepted_iff]

theorem AllAccepted.wellFormed (accepted : AllAccepted cell) : cell.value.WellFormed :=
  (accepted_iff _).mp (accepted _ List.mem_cons_self)

/-- A write whose only fault can be its generation. -/
theorem allAccepted_write_iff
    (formed : cell.value.WellFormed → snapshot.generation ≤ JsValue.maxSafeInteger →
      snapshot.WellFormed) :
    AllAccepted (cell.write snapshot) ↔
      AllAccepted cell ∧ snapshot.generation ≤ JsValue.maxSafeInteger := by
  rw [allAccepted_write]
  constructor
  · rintro ⟨written, accepted⟩
    exact ⟨accepted, written.generation⟩
  · rintro ⟨accepted, generation⟩
    exact ⟨formed accepted.wellFormed generation, accepted⟩

/-- A state that is published without a delay and without missed heartbeats. -/
theorem allAccepted_publish_iff {state : DaemonLifecycleKind} {reason : DaemonTransitionReason}
    {now : Instant} (budgeted : Budgeted timing log (actor.publishState state reason none 0 now) now)
    (allowed : state.allows reason = true)
    (fields : (actor.publishState state reason none 0 now).snapshot.value.Matching) :
    AllAccepted (actor.publishState state reason none 0 now).snapshot ↔
      AllAccepted actor.snapshot ∧
        (actor.publishState state reason none 0 now).snapshot.value.generation ≤
          JsValue.maxSafeInteger := by
  have room := budgeted.budget.room
  rw [SupervisorActor.publishState_eq] at room fields ⊢
  exact allAccepted_write_iff fun formed _ => { formed with
    attempt := Nat.le_trans (Nat.mod_le _ _) room
    retryAfter := nofun
    heartbeats := Nat.zero_le _
    reason := allowed
    fields := fields }

/-- The last exit is written before the state that it leads to. -/
theorem wellFormed_lastExit (formed : snapshot.WellFormed) (exit : DaemonExitClass) :
    { snapshot with lastExit := some exit }.WellFormed ↔
      (snapshot.state = .retryWait → snapshot.transitionReason = exit.transition) := by
  constructor
  · intro written waits
    have fields := written.fields
    simp only [waits] at fields
    obtain ⟨_, _, other, same, reason⟩ := fields
    exact Option.some.inj same ▸ reason
  · intro follows
    refine { formed with fields := ?_ }
    have fields := formed.fields
    simp only [DaemonLifecycleSnapshot.Matching] at fields ⊢
    cases state : snapshot.state with
    | retryWait =>
      simp only [state] at fields ⊢
      exact ⟨fields.1, fields.2.1, exit, rfl, follows state⟩
    | starting | running | circuitOpen | blocked =>
      simp only [state] at fields ⊢
      exact fields

/-- The pauses before a restart are short enough to be shown. -/
theorem production_backoff {delay : Duration}
    (paused : delay ∈ RestartPolicyConfig.production.backoff) : durationMillis delay ≤ 300000 := by
  have pauses : ∀ delay ∈ RestartPolicyConfig.production.backoff.toList,
      durationMillis delay ≤ 300000 := by
    decide
  exact pauses delay (Vector.mem_toList_iff.mpr paused)

/-- An opened circuit is shown with the restarts that the window counted before it. -/
theorem countedRestarts_of_opened {delay : Duration} {policy : RestartPolicy}
    (decided : actor.policy.onFailure (actor.elapsed readings.recoverAt) =
      (.openCircuit delay, policy)) :
    (policy.prune (policy.policyTime (actor.elapsed readings.publishAt))).automaticRestarts.length =
      actor.countedRestarts readings.publishAt := by
  have later := Presented.reading_mono actor.policy.config.window actor.startedAt
    readings.publish_after
  obtain ⟨_, retried, _⟩ | ⟨_, config, _, restarts⟩ :=
    actor.policy.onFailure_cases (actor.elapsed readings.recoverAt)
  · rw [decided] at retried
    cases retried
  rw [decided] at config restarts
  simp only at config restarts
  simp only [SupervisorActor.countedRestarts, RestartPolicy.prune, RestartPolicy.policyTime, config]
  obtain same | pruned := restarts
  · rw [same]
  · rw [pruned]
    exact congrArg List.length (Foundation.SlidingWindow.prune_prune _ later _)

/-- A recovery is understood if the failure follows no failure of another kind and
a circuit that it opens still counts five restarts. -/
theorem recover_accepted {exit : DaemonExitClass}
    (config : actor.policy.config = .production)
    (budgeted : Budgeted timing log next readings.publishAt)
    (effect : actor.RecoverEffect exit readings next) :
    AllAccepted next.snapshot ↔ AllAccepted actor.snapshot ∧
      (actor.snapshot.value.state = .retryWait →
        actor.snapshot.value.transitionReason = exit.transition) ∧
      (((actor.decision readings).opens readings.recoverAt).isSome →
        actor.countedRestarts readings.publishAt = 5) := by
  have room : next.policy.automaticRestarts.length ≤ 5 := budgeted.budget.room
  have answers := actor.policy.onFailure_cases (actor.elapsed readings.recoverAt)
  cases effect with
  | retries delay policy decided =>
    have paused : durationMillis delay ≤ 300000 := by
      rw [decided] at answers
      obtain ⟨_, retried, member, _⟩ | ⟨opened, _⟩ := answers
      · rw [RecoveryDecision.retryAfter.inj retried]
        exact production_backoff (config ▸ member)
      · cases opened
    have answered : actor.decision readings = .retryAfter delay := by
      rw [SupervisorActor.decision, decided]
    rw [SupervisorActor.publishState_eq, allAccepted_write, answered,
      SupervisorActor.updateSnapshot, allAccepted_write]
    constructor
    · rintro ⟨_, marked, accepted⟩
      refine ⟨accepted, (wellFormed_lastExit accepted.wellFormed exit).mp marked, ?_⟩
      exact fun opened => absurd opened Bool.false_ne_true
    · rintro ⟨accepted, follows, _⟩
      have marked := (wellFormed_lastExit accepted.wellFormed exit).mpr follows
      refine ⟨{ marked with
        attempt := Nat.le_trans (Nat.mod_le _ _) room
        retryAfter := ?_
        heartbeats := Nat.zero_le _
        reason := allows_exit exit
        fields := ⟨by simp, rfl, exit, rfl, rfl⟩ }, marked, accepted⟩
      rintro _ ⟨⟩
      exact paused
  | opens delay policy decided =>
    have lasts : durationMillis delay ≤ 300000 := by
      rw [decided] at answers
      obtain ⟨_, retried, _⟩ | ⟨opened, _⟩ := answers
      · cases retried
      · rw [RecoveryDecision.openCircuit.inj opened, config]
        decide
    have answered : actor.decision readings = .openCircuit delay := by
      rw [SupervisorActor.decision, decided]
    rw [SupervisorActor.publishState_eq, allAccepted_write, answered,
      SupervisorActor.updateSnapshot, allAccepted_write]
    have counted := Nat.mod_eq_of_lt (Nat.lt_of_le_of_lt room (by decide : 5 < 256))
    have same := countedRestarts_of_opened decided
    constructor
    · rintro ⟨written, marked, accepted⟩
      refine ⟨accepted, (wellFormed_lastExit accepted.wellFormed exit).mp marked, ?_⟩
      intro _
      have full := written.fields.2.2
      have five : actor.snapshot.value.automaticRestartLimit = 5 := accepted.wellFormed.limit
      exact same.symm.trans (counted.symm.trans (full.trans five))
    · rintro ⟨accepted, follows, full⟩
      have marked := (wellFormed_lastExit accepted.wellFormed exit).mpr follows
      have five : actor.snapshot.value.automaticRestartLimit = 5 := accepted.wellFormed.limit
      refine ⟨{ marked with
        attempt := Nat.le_trans (Nat.mod_le _ _) room
        retryAfter := ?_
        heartbeats := Nat.zero_le _
        reason := rfl
        fields := ⟨by simp, rfl, (counted.trans (same.trans (full rfl))).trans five.symm⟩ },
        marked, accepted⟩
      rintro _ ⟨⟩
      exact lasts

theorem recover_generation {exit : DaemonExitClass} (effect : actor.RecoverEffect exit readings next) :
    next.snapshot.value.generation = actor.snapshot.value.generation := by
  cases effect <;> simp [SupervisorActor.updateSnapshot]

/-- The generation counts the children that got ready. -/
theorem tick_generation (actor : SupervisorActor) (readings : Readings) (outcomes : Outcomes) :
    (actor.tick readings outcomes).snapshot.value.generation =
      if actor.becomesReady outcomes then saturatingWordSucc actor.snapshot.value.generation
      else actor.snapshot.value.generation := by
  by_cases ready : actor.becomesReady outcomes = true
  · rw [if_pos ready]
    unfold SupervisorActor.becomesReady at ready
    split at ready
    next deadline phase =>
      obtain ⟨alive, found⟩ := Bool.and_eq_true_iff.mp ready
      simp only [decide_eq_true_eq] at alive found
      simp [SupervisorActor.tick, phase, SupervisorActor.observeStarting,
        SupervisorActor.handleChildExit, alive, found, SupervisorActor.enterRunning,
        SupervisorActor.updateSnapshot]
    next => cases ready
  · rw [if_neg ready]
    have effect := actor.tick_effect readings outcomes
    generalize actor.tick readings outcomes = next at effect
    cases effect with
    | recovers exit => exact recover_generation (actor.recover_effect exit readings)
    | enters child deadline phase held unfailed unreset found => exact absurd found ready
    | idle | blocks | starts | beats | resets | misses | shows => rfl

theorem next_generation_le_iff {s : Supervision} (event : SupervisorEvent)
    (bound : s.actor.snapshot.value.generation ≤ JsValue.maxSafeInteger) :
    (s.next event).actor.snapshot.value.generation ≤ JsValue.maxSafeInteger ↔
      (s.becomesReady event = true →
        s.actor.snapshot.value.generation < JsValue.maxSafeInteger) := by
  cases event with
  | tick readings outcomes =>
    simp only [Supervision.next, Supervision.becomesReady, tick_generation]
    split
    next ready =>
      simp only [ready, saturatingWordSucc, JsValue.maxSafeInteger, forall_const]
      omega
    next unready => simp [unready, bound]
  | retry readings =>
    have same : (s.next (.retry readings)).actor.snapshot.value.generation =
        s.actor.snapshot.value.generation := by
      obtain ⟨_, same⟩ | ⟨policy, _, retried⟩ := s.actor.manualRetry_cases readings
      · rw [Supervision.next, same]
      · rw [Supervision.next, retried]
        rfl
    simp [same, bound, Supervision.becomesReady]

theorem plain_of_quiet {s : Supervision} {event : SupervisorEvent}
    (quiet : s.failure event = none) :
    AllAccepted s.actor.snapshot ∧ Plain s event ↔ AllAccepted s.actor.snapshot ∧
      (s.next event).actor.snapshot.value.generation ≤ JsValue.maxSafeInteger := by
  refine and_congr_right fun accepted => ?_
  rw [next_generation_le_iff event accepted.wellFormed.generation]
  refine ⟨Plain.generation, fun generation => ⟨?_, ?_, generation⟩⟩
  · simp [quiet]
  · simp [Supervision.opens, quiet]

theorem plain_of_failure {s : Supervision} {event : SupervisorEvent} {exit : DaemonExitClass}
    (failed : s.failure event = some exit) :
    Plain s event ↔
      (s.actor.snapshot.value.state = .retryWait →
        s.actor.snapshot.value.transitionReason = exit.transition) ∧
      (((s.actor.decision event.clock).opens event.clock.recoverAt).isSome →
        s.actor.countedRestarts event.clock.publishAt = 5) ∧
      (s.becomesReady event = true →
        s.actor.snapshot.value.generation < JsValue.maxSafeInteger) := by
  have opens : s.opens event = (s.actor.decision event.clock).opens event.clock.recoverAt := by
    simp [Supervision.opens, failed]
  rw [← opens]
  constructor
  · intro plain
    exact ⟨plain.exit exit failed, plain.budget, plain.generation⟩
  · rintro ⟨follows, budget, generation⟩
    refine ⟨?_, budget, generation⟩
    intro other answered
    rw [failed] at answered
    exact Option.some.inj answered ▸ follows

/-- The remaining time of an open circuit is at most the delay of the policy. -/
theorem remaining_le (config : actor.policy.config = .production)
    (presented : Presented actor clock) {retryAt now : Instant} (passed : clock ≤ now)
    (phase : actor.phase = .circuitOpen retryAt) (ms : Nat)
    (shown : (actor.showRemaining retryAt now).snapshot.value.retryAfterMs = some ms) :
    ms ≤ 300000 := by
  obtain ⟨opensAt, opens, bound⟩ := presented.open_ retryAt phase
  have later := Presented.reading_mono actor.policy.config.window actor.startedAt passed
  have remaining : opensAt - actor.policy.policyTime (actor.elapsed now) ≤
      RestartPolicyConfig.production.circuitOpen := by
    rw [config] at bound later
    rw [RestartPolicy.policyTime, config]
    exact Nat.sub_le_of_le_add (Nat.le_trans bound (by
      rw [Nat.add_comm]
      exact Nat.add_le_add_left later _))
  simp only [SupervisorActor.showRemaining, SupervisorActor.updateSnapshot, Shared.write_value,
    RestartPolicy.manualHalfOpenRetryAfter, opens,
    Option.some.injEq] at shown
  rw [← shown]
  have millis : durationMillis (opensAt - actor.policy.policyTime (actor.elapsed now)) ≤ 300000 :=
    Nat.le_trans (Nat.min_le_left _ _) (Nat.div_le_of_le_mul remaining)
  refine Nat.max_le.mpr ⟨millis, ?_⟩
  split <;> decide

/-- A heartbeat changes only counts, which a running daemon may show. -/
theorem running_beat (presented : Presented actor clock)
    {heartbeatAt failures count attempts : Nat}
    (phase : actor.phase = .running heartbeatAt failures)
    (formed : actor.snapshot.value.WellFormed) (few : count ≤ 3) (room : attempts ≤ 5) :
    { actor.snapshot.value with
      heartbeatFailures := count
      automaticRestartAttempt := attempts }.WellFormed := by
  have shown := presented.running phase 0 0
  rw [ActorPhase.shownAs_running, decide_eq_true_eq] at shown
  have fields := formed.fields
  simp only [DaemonLifecycleSnapshot.Matching, shown] at fields
  refine { formed with attempt := room, heartbeats := few, fields := ?_ }
  simp only [shown]
  exact fields

/-- A pass is understood exactly if it is plain. -/
theorem tick_accepted {s : Supervision} (passed : s.clock ≤ readings.now)
    (timed : s.actor.timing = .production) (config : s.actor.policy.config = .production)
    (presented : Presented s.actor s.clock)
    (budgeted : Budgeted timing log next readings.publishAt)
    (ticked : s.actor.tick readings outcomes = next)
    (effect : s.actor.TickEffect readings outcomes next) :
    AllAccepted next.snapshot ↔
      AllAccepted s.actor.snapshot ∧ Plain s (.tick readings outcomes) := by
  have after : (s.next (.tick readings outcomes)).actor = next := ticked
  have quiet : s.actor.failure readings outcomes = none →
      (AllAccepted s.actor.snapshot ∧ Plain s (.tick readings outcomes) ↔
        AllAccepted s.actor.snapshot ∧
          next.snapshot.value.generation ≤ JsValue.maxSafeInteger) := by
    intro unfailed
    rw [plain_of_quiet (show s.failure (.tick readings outcomes) = none from unfailed), after]
  cases effect with
  | idle unfailed =>
    rw [quiet unfailed]
    exact (and_iff_left_of_imp fun accepted => accepted.wellFormed.generation).symm
  | recovers exit failed =>
    have recovered := s.actor.recover_effect exit readings
    have failure : s.failure (.tick readings outcomes) = some exit := failed
    rw [recover_accepted config budgeted recovered, plain_of_failure failure]
    refine and_congr_right fun accepted => and_congr_right fun _ => ?_
    have bound := accepted.wellFormed.generation
    have counts := (next_generation_le_iff (.tick readings outcomes) bound).mp
      (after ▸ recover_generation recovered ▸ bound)
    exact ⟨fun budget => ⟨budget, counts⟩, And.left⟩
  | blocks reason unfailed =>
    rw [quiet unfailed]
    refine allAccepted_publish_iff budgeted (allows_blocked reason) ?_
    exact ⟨rfl, rfl⟩
  | starts child startAt phase due unfailed =>
    rw [quiet unfailed]
    refine allAccepted_publish_iff budgeted presented.reason ?_
    exact ⟨rfl, rfl, presented.fresh startAt phase⟩
  | enters child deadline phase held unfailed =>
    rw [quiet unfailed]
    refine allAccepted_write_iff fun formed generation => { formed with
      generation := generation
      retryAfter := nofun
      heartbeats := Nat.zero_le _
      reason := rfl
      fields := ⟨?_, rfl⟩ }
    exact Nat.lt_min.mpr ⟨Nat.succ_pos _, by decide⟩
  | beats heartbeatAt failures phase unfailed =>
    rw [quiet unfailed]
    exact allAccepted_write_iff fun formed _ =>
      running_beat presented phase formed (by decide) presented.attempt
  | resets heartbeatAt failures phase unfailed =>
    rw [quiet unfailed]
    constructor
    · intro accepted
      exact ⟨(allAccepted_write.mp (allAccepted_write.mp accepted).2).2,
        accepted.wellFormed.generation⟩
    · rintro ⟨accepted, _⟩
      have formed := accepted.wellFormed
      exact allAccepted_write.mpr
        ⟨running_beat presented phase formed (Nat.zero_le 3) (Nat.zero_le 5),
          allAccepted_write.mpr
            ⟨running_beat presented phase formed (Nat.zero_le 3) presented.attempt, accepted⟩⟩
  | misses heartbeatAt failures phase few unfailed =>
    rw [timed] at few
    rw [quiet unfailed]
    exact allAccepted_write_iff fun formed _ =>
      running_beat presented phase formed (Nat.le_of_lt few) presented.attempt
  | shows retryAt phase unfailed =>
    rw [quiet unfailed]
    refine allAccepted_write_iff fun formed _ => { formed with
      retryAfter := remaining_le config presented passed phase
      fields := ?_ }
    have shown := presented.state
    rw [phase, ActorPhase.shownAs_circuitOpen, decide_eq_true_eq] at shown
    have fields := formed.fields
    simp only [DaemonLifecycleSnapshot.Matching, shown] at fields ⊢
    exact ⟨by simp, fields.2⟩

/-- A manual retry that is accepted is understood. -/
theorem manualRetry_accepted {s : Supervision}
    (budgeted : Budgeted timing log (s.actor.manualRetry readings) readings.publishAt) :
    AllAccepted (s.actor.manualRetry readings).snapshot ↔
      AllAccepted s.actor.snapshot ∧ Plain s (.retry readings) := by
  rw [plain_of_quiet rfl]
  simp only [Supervision.next]
  obtain ⟨_, same⟩ | ⟨policy, _, retried⟩ := s.actor.manualRetry_cases readings
  · rw [same]
    exact (and_iff_left_of_imp fun accepted => accepted.wellFormed.generation).symm
  · rw [retried] at budgeted ⊢
    refine allAccepted_publish_iff budgeted rfl ?_
    exact ⟨rfl, rfl, by rintro ⟨⟩⟩

/-- What a reader can have seen after one more event. -/
theorem step_accepted {s t : Supervision} {event : SupervisorEvent}
    (reachable : (supervisorMachine .production).Reachable s)
    (taken : (supervisorMachine .production).step s event t) :
    AllAccepted t.actor.snapshot ↔ AllAccepted s.actor.snapshot ∧ Plain s event := by
  obtain ⟨⟨_, before⟩, presented⟩ := (Presented.inductive_ .production).holds reachable
  obtain ⟨_, after⟩ := (Budgeted.inductive_ .production).holds (reachable.next taken)
  obtain ⟨passed, rfl⟩ := taken
  cases event with
  | tick readings outcomes =>
    exact tick_accepted passed before.timed before.config presented after rfl
      (s.actor.tick_effect readings outcomes)
  | retry readings => exact manualRetry_accepted after

end Accepted

/-- **What the user interface accepts of the supervisor's snapshots.** With the
production timing, every snapshot that can have been read after an event is
accepted exactly if every one before it was and the event is plain. So in a run
of plain events everything that can be read at any moment is accepted. -/
theorem snapshots_accepted_iff (s : Supervision) :
    ((supervisorMachine .production).Reachable s → ∀ event t,
      (supervisorMachine .production).step s event t →
      (AllAccepted t.actor.snapshot ↔ AllAccepted s.actor.snapshot ∧ Plain s event)) ∧
    (((supervisorMachine .production).restrict Plain).Reachable s →
      AllAccepted s.actor.snapshot) := by
  refine ⟨fun reachable event t taken => step_accepted reachable taken, ?_⟩
  rintro ⟨first, events, ⟨startedAt, rfl⟩, run⟩
  induction run with
  | nil =>
    intro snapshot shown
    obtain rfl : snapshot = .initial := by simpa [Shared.held, SupervisorActor.new] using shown
    decide +kernel
  | snoc earlier taken ih =>
    have reachable := earlier.of_restrict.reachable (.start ⟨startedAt, rfl⟩)
    exact (step_accepted reachable taken.2).mpr ⟨ih, taken.1⟩

/-- Two failures in a row: the child exits, and the next start fails. -/
def sampleSecondFailure : List SupervisorEvent :=
  [.tick (.still 0) ⟨.ok sampleChild, .running, .unavailable⟩,
    .tick (.still 100) ⟨.ok sampleChild, .exited, .unavailable⟩, failedStart 350]

/-- A retry ten minutes after the circuit was opened, which fails at once. -/
def sampleLateRetry : List SupervisorEvent :=
  sampleOpening ++ [.retry (.still 650250), failedStart 650250]

/-- Two snapshots of the supervisor that are rejected: the one between the two
writes of a second failure, and the one of a circuit that is open again and counts
no restart. The second one stays. -/
theorem snapshots_rejected :
    (supervisorMachine .production).Reachable (sampleSupervision.play sampleSecondFailure) ∧
    (∃ snapshot ∈ (sampleSupervision.play sampleSecondFailure).actor.snapshot.held,
      snapshot.state = .retryWait ∧ snapshot.transitionReason = .childExited ∧
      snapshot.lastExit = some .startFailed ∧ snapshot.accepted = false) ∧
    (supervisorMachine .production).Reachable (sampleSupervision.play sampleLateRetry) ∧
    (sampleSupervision.play sampleLateRetry).actor.snapshot.value.state = .circuitOpen ∧
    (sampleSupervision.play sampleLateRetry).actor.snapshot.value.automaticRestartAttempt = 0 ∧
    (sampleSupervision.play sampleLateRetry).actor.snapshot.value.accepted = false := by
  refine ⟨sampleSupervision_play (by decide +kernel), by decide +kernel,
    sampleSupervision_play (by decide +kernel), by decide +kernel, by decide +kernel,
    by decide +kernel⟩

instance (s : Supervision) (event : SupervisorEvent) : Decidable (Plain s event) :=
  decidable_of_iff ((∀ exit ∈ s.failure event, s.actor.snapshot.value.state = .retryWait →
      s.actor.snapshot.value.transitionReason = exit.transition) ∧
    ((s.opens event).isSome → s.actor.countedRestarts event.clock.publishAt = 5) ∧
    (s.becomesReady event = true →
      s.actor.snapshot.value.generation < JsValue.maxSafeInteger))
    ⟨fun ⟨exit, budget, generation⟩ => ⟨exit, budget, generation⟩,
      fun plain => ⟨plain.exit, plain.budget, plain.generation⟩⟩

/-- Six failed starts, of which the last opens the circuit with five restarts. -/
theorem snapshots_accepted_of_opening :
    (sampleSupervision.play sampleOpening).actor.snapshot.value.state = .circuitOpen ∧
    (sampleSupervision.play sampleOpening).actor.snapshot.value.automaticRestartAttempt = 5 ∧
    AllAccepted (sampleSupervision.play sampleOpening).actor.snapshot := by
  have permitted : Foundation.Machine.playable Supervision.next
      (fun s event => decide (s.clock ≤ event.clock.now ∧ Plain s event)) sampleSupervision
      sampleOpening = true := by decide +kernel
  have run : ((supervisorMachine .production).restrict Plain).Run sampleSupervision sampleOpening
      (sampleSupervision.play sampleOpening) := by
    refine Foundation.Machine.Run.play (fun passed => ?_) permitted
    obtain ⟨passed, plain⟩ := of_decide_eq_true passed
    exact ⟨plain, passed, rfl⟩
  exact ⟨by decide +kernel, by decide +kernel,
    (snapshots_accepted_iff _).2 (run.reachable (.start ⟨0, rfl⟩))⟩

end ResumeIr.Desktop
