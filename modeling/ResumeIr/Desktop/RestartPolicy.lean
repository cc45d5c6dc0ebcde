import Mathlib.Algebra.Group.Nat.Defs
import ResumeIr.Foundation.SlidingWindow

/-!
# The restart policy of the desktop

The desktop restarts its daemon after a failure, up to five times within a
window, with a longer pause before each restart. A sixth failure opens the
circuit: nothing is restarted until a person asks for it, and they may ask once
the circuit has been open for long enough. A daemon that stays healthy for a
while earns the whole budget again.

Times are nanoseconds. The policy shifts the time since its start by the window,
with the saturating addition of `Duration`.
-/

namespace ResumeIr.Desktop

open Foundation

abbrev Duration := Nat

abbrev Instant := Nat

namespace Duration

def fromSecs (secs : Nat) : Duration := secs * 1000000000

def fromMillis (millis : Nat) : Duration := millis * 1000000

def asMillis (duration : Duration) : Nat := duration / 1000000

/-- The longest duration: all of a 64-bit count of seconds and of the nanoseconds. -/
def max : Duration := fromSecs (2 ^ 64 - 1) + 999999999

def saturatingAdd (a b : Duration) : Duration := min (a + b) max

end Duration

def maxAutomaticRestarts : Nat := 5

structure RestartPolicyConfig where
  window : Duration
  stableReset : Duration
  circuitOpen : Duration
  backoff : Vector Duration maxAutomaticRestarts

def RestartPolicyConfig.production : RestartPolicyConfig where
  window := .fromSecs (10 * 60)
  stableReset := .fromSecs (5 * 60)
  circuitOpen := .fromSecs (5 * 60)
  backoff := #v[.fromMillis 250, .fromSecs 1, .fromSecs 4, .fromSecs 15, .fromSecs 30]

inductive RecoveryDecision where
  | retryAfter (delay : Duration)
  | openCircuit (delay : Duration)
  deriving DecidableEq

structure RestartPolicy where
  config : RestartPolicyConfig
  automaticRestarts : List Duration
  stableSince : Option Duration
  halfOpenAttempt : Bool
  manualHalfOpenAt : Option Duration

namespace RestartPolicy

def new (config : RestartPolicyConfig) : RestartPolicy where
  config := config
  automaticRestarts := []
  stableSince := none
  halfOpenAttempt := false
  manualHalfOpenAt := none

variable (policy : RestartPolicy) (elapsed : Duration)

def policyTime : Duration := policy.config.window.saturatingAdd elapsed

def prune (policy : RestartPolicy) (now : Duration) : RestartPolicy :=
  { policy with
    automaticRestarts := SlidingWindow.prune policy.config.window now policy.automaticRestarts }

/-- The circuit is open from now on, until a manual retry. -/
def open_ (now : Duration) : RestartPolicy :=
  { policy with manualHalfOpenAt := some (now.saturatingAdd policy.config.circuitOpen) }

def onFailure : RecoveryDecision × RestartPolicy :=
  let now := policy.policyTime elapsed
  let failed := { policy with stableSince := none }
  if failed.halfOpenAttempt then
    (.openCircuit policy.config.circuitOpen, { failed with halfOpenAttempt := false }.open_ now)
  else
    let pruned := failed.prune now
    if full : maxAutomaticRestarts ≤ pruned.automaticRestarts.length then
      (.openCircuit policy.config.circuitOpen, pruned.open_ now)
    else
      (.retryAfter (policy.config.backoff.get ⟨_, Nat.lt_of_not_le full⟩),
        { pruned with automaticRestarts := pruned.automaticRestarts ++ [now] })

def beginHalfOpen : RestartPolicy :=
  { policy with halfOpenAttempt := true, manualHalfOpenAt := none, stableSince := none }

/-- The manual retry of an open circuit, if the policy accepts it. -/
def beginManualHalfOpen : Option RestartPolicy :=
  match policy.manualHalfOpenAt with
  | none => none
  | some opensAt =>
      if policy.policyTime elapsed < opensAt then none else some policy.beginHalfOpen

def manualHalfOpenRetryAfter : Option Duration :=
  let now := policy.policyTime elapsed
  policy.manualHalfOpenAt.map fun opensAt => opensAt - now

def onReady : RestartPolicy := { policy with stableSince := some (policy.policyTime elapsed) }

def stableResetDue : Bool :=
  let now := policy.policyTime elapsed
  policy.stableSince.any fun since => decide (policy.config.stableReset ≤ now - since)

def completeStableReset : RestartPolicy :=
  { policy with
    automaticRestarts := []
    halfOpenAttempt := false
    manualHalfOpenAt := none
    stableSince := some (policy.policyTime elapsed) }

/-- The number of restarts the window still counts, as the byte it is shown as. -/
def restartAttempts : Nat × RestartPolicy :=
  let pruned := policy.prune (policy.policyTime elapsed)
  (pruned.automaticRestarts.length % 256, pruned)

/-! ## What a failure does -/

theorem onFailure_of_halfOpen {policy : RestartPolicy} (halfOpen : policy.halfOpenAttempt = true)
    (elapsed : Duration) :
    policy.onFailure elapsed = (.openCircuit policy.config.circuitOpen,
      { policy with stableSince := none, halfOpenAttempt := false }.open_
        (policy.policyTime elapsed)) := by
  simp [onFailure, halfOpen]

/-- A failure is answered by a restart, which finds room in the window and is
counted in it, or it opens the circuit, and then nothing is added to the window. -/
theorem onFailure_cases :
    (∃ delay, (policy.onFailure elapsed).1 = .retryAfter delay ∧ delay ∈ policy.config.backoff ∧
      policy.halfOpenAttempt = false ∧
      (policy.prune (policy.policyTime elapsed)).automaticRestarts.length < maxAutomaticRestarts ∧
      (policy.onFailure elapsed).2 = { policy.prune (policy.policyTime elapsed) with
        stableSince := none
        automaticRestarts := (policy.prune (policy.policyTime elapsed)).automaticRestarts ++
          [policy.policyTime elapsed] }) ∨
    ((policy.onFailure elapsed).1 = .openCircuit policy.config.circuitOpen ∧
      (policy.onFailure elapsed).2.config = policy.config ∧
      (policy.onFailure elapsed).2.manualHalfOpenAt =
        some ((policy.policyTime elapsed).saturatingAdd policy.config.circuitOpen) ∧
      ((policy.onFailure elapsed).2.automaticRestarts = policy.automaticRestarts ∨
        (policy.onFailure elapsed).2.automaticRestarts =
          (policy.prune (policy.policyTime elapsed)).automaticRestarts)) := by
  cases halfOpen : policy.halfOpenAttempt with
  | true =>
    rw [onFailure_of_halfOpen halfOpen]
    exact .inr ⟨rfl, rfl, rfl, .inl rfl⟩
  | false =>
    by_cases full : maxAutomaticRestarts ≤
        (policy.prune (policy.policyTime elapsed)).automaticRestarts.length
    · have decided : policy.onFailure elapsed = (.openCircuit policy.config.circuitOpen,
          ({ policy with stableSince := none }.prune (policy.policyTime elapsed)).open_
            (policy.policyTime elapsed)) := by
        simp only [onFailure, halfOpen]
        exact dif_pos full
      rw [decided]
      exact .inr ⟨rfl, rfl, rfl, .inr rfl⟩
    · have decided : policy.onFailure elapsed =
          (.retryAfter (policy.config.backoff.get ⟨_, Nat.lt_of_not_le full⟩),
            { policy.prune (policy.policyTime elapsed) with
              stableSince := none
              automaticRestarts := (policy.prune (policy.policyTime elapsed)).automaticRestarts ++
                [policy.policyTime elapsed] }) := by
        simp only [onFailure, halfOpen]
        exact (dif_neg full).trans (by simp [prune, halfOpen])
      rw [decided]
      exact .inl ⟨_, rfl, Vector.getElem_mem _, rfl, Nat.lt_of_not_le full, rfl⟩

theorem beginManualHalfOpen_eq_some {policy next : RestartPolicy} {elapsed : Duration}
    (accepted : policy.beginManualHalfOpen elapsed = some next) : next = policy.beginHalfOpen := by
  unfold beginManualHalfOpen at accepted
  split at accepted
  · cases accepted
  · split at accepted
    · cases accepted
    · exact (Option.some.inj accepted).symm

end RestartPolicy

end ResumeIr.Desktop
