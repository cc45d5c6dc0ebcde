import ResumeIr.MetaStore.Imports.WriterTransition

/-!
# The upgrade coordinator

When the daemon has opened its store it runs the writer barrier: it compares the
contract it wants to write with the committed one and starts or resumes the
transition between them. Ordinary writers are admitted by the outcome.
-/

namespace ResumeIr.Daemon

open MetaStore

inductive UpgradeCoordinatorOutcome where
  | alreadyActive
  | targetCommitted
  | transitionRequired
  | transitionInProgress
  | unsupportedTransition
  | writerUnavailable
  | hardCutActivated
  deriving DecidableEq

/-- Compares the desired contract with the committed one. -/
def observeDesiredContract (s : ImportStore) (desired : ImportProcessingContract) :
    UpgradeCoordinatorOutcome :=
  if s.authority.healthState = .unavailable ∨ s.authority.healthState = .blocked then
    .writerUnavailable
  else
    match activeImportProcessingContract s with
    | none => .transitionRequired
    | some committed =>
        match observeWriterContractTransition (some committed) desired s.runningCount with
        | .alreadyActive => .alreadyActive
        | .targetCommitted => .targetCommitted
        | .transitionRequired => .transitionRequired
        | .transitionInProgress => .transitionInProgress
        | .blockedByRunningOwner => .transitionInProgress
        | .unsupportedTransition => .unsupportedTransition
        | .persistedStateInvalid => .writerUnavailable

end ResumeIr.Daemon
