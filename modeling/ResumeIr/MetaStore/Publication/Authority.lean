import ResumeIr.MetaStore.Publication.Validation

/-!
# What a publication may replace

A publication begins with an authority: it replaces the ready head, or it is
the first publication of a migration rebuild, or it rebuilds the artifacts of
the head that a repair found broken. The last two belong to one exact running
attempt. The authority is stored in the journal row and checked again at the
commit and when a failed publication is settled, always against the head and
the attempt as they are then.

All checks here only read the database.
-/

namespace ResumeIr.MetaStore

open CoreDomain

/-! ## The barrier of a migration rebuild -/

/-- The roots, the contract and the epoch a migration rebuild is built for. -/
structure MigrationRebuildBarrierToken where
  generation : Option String
  visibleEpoch : Nat
  processingContractId : String
  rootHeads : List MigrationRebuildRootHead
  deriving DecidableEq

/-- The eight big-endian bytes of a 64-bit number. -/
def toBeBytes (n : Nat) : List UInt8 := (toLeBytes n).reverse

def identityField (value : String) : List UInt8 :=
  toBeBytes value.utf8ByteSize ++ bytesOf value

def MigrationRebuildBarrierToken.identityDigest (sha256 : List UInt8 → ContentDigest)
    (token : MigrationRebuildBarrierToken) : ContentDigest :=
  sha256 <|
    identityField token.processingContractId
      ++ identityField (token.generation.getD "<unpublished>")
      ++ toBeBytes token.visibleEpoch
      ++ toBeBytes token.rootHeads.length
      ++ token.rootHeads.flatMap fun head =>
        toBeBytes head.authorizedRootRowid
          ++ toBeBytes head.latestTaskRowid
          ++ identityField head.latestTaskId
          ++ toBeBytes head.completionRowid
          ++ identityField head.sourceManifestDigest.asStr

inductive MigrationRebuildHeadAuthority where
  | repairing
  | terminalBlocked
  deriving DecidableEq

def MigrationRebuildHeadAuthority.serviceState : MigrationRebuildHeadAuthority → ServiceState
  | .repairing => .repairing .migrationRebuild
  | .terminalBlocked => .repairBlocked .runtimeInvariant

/-- `migration_rebuild_barrier_token_in_connection`. -/
def migrationRebuildBarrierToken (db : Db) (contractId : String)
    (authority : MigrationRebuildHeadAuthority) : Option MigrationRebuildBarrierToken :=
  if db.head.serviceState = authority.serviceState ∧ db.head.generation = none ∧
      db.repair.activeContractId = some contractId then
    db.repair.barrierRoots.map fun roots => ⟨none, db.head.visibleEpoch, contractId, roots⟩
  else none

def migrationRebuildBarrierTokenMatches (db : Db) (expected : MigrationRebuildBarrierToken) :
    Bool :=
  migrationRebuildBarrierToken db expected.processingContractId .repairing == some expected

section Barrier

variable (sha256 : List UInt8 → ContentDigest)

def migrationRebuildDigestMatches (authority : MigrationRebuildHeadAuthority) (db : Db)
    (contractId : String) (expected : ContentDigest) : Bool :=
  (migrationRebuildBarrierToken db contractId authority).any
    fun token => token.identityDigest sha256 == expected

def migrationRebuildBarrierDigestMatches : Db → String → ContentDigest → Bool :=
  migrationRebuildDigestMatches sha256 .repairing

def migrationRebuildTerminalBlockDigestMatches : Db → String → ContentDigest → Bool :=
  migrationRebuildDigestMatches sha256 .terminalBlocked

end Barrier

/-! ## Exact attempts -/

variable (sha256 : List UInt8 → ContentDigest) (db : Db)

/-- The stored migration attempt has exactly these columns. -/
def migrationAttemptIs (contractId : String) (barrierDigest attemptId : ContentDigest)
    (attemptCount : Nat) (phase : AttemptPhase) : Bool :=
  db.repair.migrationAttempt.any fun attempt =>
    attempt.processingContractId == contractId && attempt.barrierDigest == barrierDigest
      && attempt.attemptId == attemptId && attempt.attemptCount == attemptCount
      && attempt.phase == phase

def exactRunningMigrationAttempt (contractId : String) (barrierDigest attemptId : ContentDigest)
    (attemptCount : Nat) : Bool :=
  migrationAttemptIs db contractId barrierDigest attemptId attemptCount .running

/-- The stored artifact attempt has exactly these columns and belongs to the
stored context, which is the context of the head, and the head is in the given
state. -/
def artifactAttemptIs (key : ArtifactRepairKey) (attemptId : ContentDigest) (attemptCount : Nat)
    (phase : AttemptPhase) (state : ServiceState) : Bool :=
  (db.repair.artifactAttempt.any fun attempt =>
      attempt.key == key && attempt.attemptId == attemptId
        && attempt.attemptCount == attemptCount && attempt.phase == phase)
    && db.repair.artifactContext == some key
    && db.head.generation == some key.generation
    && db.head.visibleEpoch == key.visibleEpoch
    && db.head.serviceState == state

def exactRunningArtifactAttempt (key : ArtifactRepairKey) (attemptId : ContentDigest)
    (attemptCount : Nat) : Bool :=
  artifactAttemptIs db key attemptId attemptCount .running (.repairing .artifactUnavailable)

def exactTerminalArtifactCleanupAuthority (key : ArtifactRepairKey) (attemptId : ContentDigest)
    (attemptCount : Nat) : Bool :=
  artifactAttemptIs db key attemptId attemptCount .terminal (.repairBlocked .runtimeInvariant)
    && db.repair.artifactAttempt.any fun attempt =>
      attempt.nextRetryAt.isNone && attempt.lastErrorKind == some .cleanup

def exactTerminalMigrationCleanupAuthority (contractId : String)
    (barrierDigest attemptId : ContentDigest) (attemptCount : Nat) : Bool :=
  migrationRebuildTerminalBlockDigestMatches sha256 db contractId barrierDigest
    && migrationAttemptIs db contractId barrierDigest attemptId attemptCount .terminal
    && db.repair.migrationAttempt.any fun attempt =>
      attempt.nextRetryAt.isNone && attempt.lastErrorClass == some .cleanup

def exactBlockedCurrentHead (generation : Option String) (visibleEpoch : Nat) : Bool :=
  db.head.serviceState == .repairBlocked .runtimeInvariant && db.head.generation == generation
    && db.head.visibleEpoch == visibleEpoch

/-! ## Authority at the begin and at the commit -/

def runningMigrationAuthority (activeAttemptId : Option ContentDigest) : Option
    PublicationAuthority := do
  let active ← activeAttemptId
  let attempt ← db.repair.migrationAttempt
  if attempt.phase = .running ∧ attempt.attemptId = active ∧
      migrationRebuildBarrierDigestMatches sha256 db attempt.processingContractId
        attempt.barrierDigest = true then
    some (.migrationRebuild attempt.processingContractId attempt.barrierDigest attempt.attemptId
      attempt.attemptCount)
  else none

def runningArtifactAuthority (activeAttemptId : Option ContentDigest) : Option
    PublicationAuthority := do
  let active ← activeAttemptId
  let attempt ← db.repair.artifactAttempt
  if attempt.phase = .running ∧ attempt.attemptId = active ∧
      db.repair.artifactContext = some attempt.key ∧
      db.head.generation = some attempt.key.generation ∧
      db.head.visibleEpoch = attempt.key.visibleEpoch then
    some (.artifactRepair attempt.key attempt.attemptId attempt.attemptCount)
  else none

/-- What a draft may replace now; nothing when the head is no longer the one it
was drafted on or is in a state that admits no publication. -/
def authorityForBegin (activeAttemptId : Option ContentDigest) (draft : SearchPublicationDraft) :
    Option PublicationAuthority :=
  if db.head.generation ≠ draft.baseGeneration ∨
      db.head.visibleEpoch ≠ draft.expectedVisibleEpoch then none
  else
    match db.head.serviceState, db.head.generation with
    | .ready, some _ => some .currentHead
    | .repairing .migrationRebuild, none => runningMigrationAuthority sha256 db activeAttemptId
    | .repairing .artifactUnavailable, some _ => runningArtifactAuthority db activeAttemptId
    | _, _ => none

def currentReadyHeadMatches : Bool := db.head.serviceState == .ready && db.head.generation.isSome

/-- `authority_matches_commit`, for the authority of a stored row. -/
def authorityMatchesCommit (authority : PublicationAuthority)
    (barrier : Option MigrationRebuildBarrierToken) : Bool :=
  match authority, barrier with
  | .currentHead, none => currentReadyHeadMatches db
  | .migrationRebuild contractId barrierDigest attemptId attemptCount, some token =>
      token.identityDigest sha256 == barrierDigest
        && migrationRebuildBarrierTokenMatches db token
        && exactRunningMigrationAttempt db contractId barrierDigest attemptId attemptCount
  | .artifactRepair key attemptId attemptCount, none =>
      exactRunningArtifactAttempt db key attemptId attemptCount
  | _, _ => false

end ResumeIr.MetaStore
