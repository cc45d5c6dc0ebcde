import ResumeIr.Daemon.UpgradeCoordinator
import ResumeIr.MetaStore.Imports.SingleHead
import ResumeIr.MetaStore.Imports.TransitionProgress

/-!
# What the writer barrier leaves behind

A transition that met a running task waits in the store. The barrier compares
the desired contract with the committed one and does not look at a transition
that waits for another contract. Two things follow. If the desired contract is
the committed one, the barrier admits writers while the authority is still in
transition. If it is a third contract, the barrier refuses writers, and will
refuse them until it is asked for the contract of the waiting transition again.

In every other case the barrier does what it is for: writers are admitted only
with a ready authority, and a supported change is committed as soon as no task
is running and nothing is latched.
-/

namespace ResumeIr.Daemon

open Foundation Fallible MetaStore

/-! ## Runs with barriers -/

inductive WriterEvent where
  | imports (event : ImportEvent)
  | barrier (desired : ImportProcessingContract) (now : Int)

/-- A transition waits while its source is desired. -/
def DesiresSource (s : ImportStore) (desired : ImportProcessingContract) : Prop :=
  s.authority.activeTransitionId.isSome = true ∧
    (activeImportProcessingContract s).map (·.id) = some desired.id

section Barrier

variable {names : TransitionNames} {desired : ImportProcessingContract} {now : Int}
  {outcome : UpgradeCoordinatorOutcome} {s t : ImportStore}

/-- What the clearing of latches does to the store. -/
structure Cleared (s t : ImportStore) : Prop where
  active : t.authority.activeTransitionId = s.authority.activeTransitionId
  committed : t.authority.committedContractId = s.authority.committedContractId
  rest : t = { s with authority := t.authority }

theorem Cleared.trans {r : ImportStore} (first : Cleared s r) (second : Cleared r t) :
    Cleared s t :=
  ⟨second.active.trans first.active, second.committed.trans first.committed, by
    rw [second.rest, first.rest]⟩

theorem Cleared.activeContract (cleared : Cleared s t) :
    activeImportProcessingContract t = activeImportProcessingContract s := by
  unfold activeImportProcessingContract
  rw [cleared.committed, cleared.rest]

theorem Cleared.sound (cleared : Cleared s t) (held : TransitionSound s) : TransitionSound t :=
  held.congr cleared.active cleared.committed (by rw [cleared.rest])

/-- Search is ready, no task is running and nothing is latched, and the desired
contract is a supported change of the committed one. -/
structure ChangeAllowed (s : ImportStore) (desired : ImportProcessingContract) : Prop where
  projection : projectionIsReadyWithGeneration s = true
  quiet : s.runningCount = 0
  unlatched : s.authority.healthState = .ready ∨ s.authority.healthState = .transitioning
  supported : contractDelta (activeImportProcessingContract s) desired = .pdfRootRescan

theorem ChangeAllowed.observed (allowed : ChangeAllowed s desired) :
    observeDesiredContract s desired = .transitionRequired := by
  have health : ¬ (s.authority.healthState = .unavailable ∨ s.authority.healthState = .blocked) := by
    obtain ready | transitioning := allowed.unlatched
    · simp [ready]
    · simp [transitioning]
  have supported := allowed.supported
  unfold observeDesiredContract
  rw [if_neg health]
  cases known : activeImportProcessingContract s with
  | none => rfl
  | some contract =>
    rw [known] at supported
    simp [observeWriterContractTransition, supported, allowed.quiet]

end Barrier

/-! ## Runs -/

/-- A barrier is not asked for the source of a waiting transition, and an allowed
change is only asked for when the transition can be completed. -/
def WriterEvent.agrees (names : TransitionNames) (s : ImportStore) : WriterEvent → Prop
  | .imports _ => True
  | .barrier desired now =>
      ¬ DesiresSource s desired ∧ (ChangeAllowed s desired → Completable names desired now s)

end ResumeIr.Daemon
