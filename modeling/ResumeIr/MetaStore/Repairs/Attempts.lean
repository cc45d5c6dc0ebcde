import ResumeIr.MetaStore.Publication.Retirement

/-!
# The attempts of a repair

A migration rebuild and a repair of search artifacts each publish through
attempts that are reserved in a single row of the database: one row for the
migration rebuild, one for the artifact repair. The row counts the attempts for
one key, a closed barrier or a repair context, and keeps the time before which
the next attempt must not start. After the fifth failure the head is blocked.

The session that reserved an attempt remembers its id in memory. A running row
whose attempt no session remembers was interrupted: the next reservation turns it
into a wait, as if it had failed.

Random ids are arguments.
-/

namespace ResumeIr.MetaStore

open CoreDomain Foundation Fallible

/-- The budget of a repair. -/
def maxAttempts : Nat := 5

/-- The pauses after the first, second and later failures. -/
def retryDelaysSeconds : List Int := [1, 4, 15, 30, 60]

/-- The latest time that can be stored. -/
def maxUnixSeconds : Int := 9223372036854775807

/-- The time before which the next attempt must not start. -/
def retryAt (now : Int) (attemptCount : Nat) : Int :=
  let index := min (attemptCount - 1) (retryDelaysSeconds.length - 1)
  min (now + retryDelaysSeconds.getD index 0) maxUnixSeconds

/-- What a failed attempt leads to. -/
inductive AttemptFailureOutcome where
  | retryScheduled
  | repairBlocked
  | superseded
  deriving DecidableEq

/-! ## Migration rebuilds -/

/-- The handle of a reserved attempt. -/
structure MigrationRebuildPublicationAttempt where
  processingContractId : String
  barrier : MigrationRebuildBarrierToken
  barrierDigest : ContentDigest
  attemptId : ContentDigest
  attemptCount : Nat

/-- The answers to a request for an attempt. -/
inductive MigrationRebuildPublicationAttemptAcquire where
  | started (attempt : MigrationRebuildPublicationAttempt)
  | inProgress
  | notDue
  | repairBlocked
  | superseded

/-- How an attempt failed. -/
inductive MigrationRebuildPublicationFailure where
  | retryable (errorClass : MigrationRebuildPublicationErrorClass)
  | terminal (errorClass : MigrationRebuildPublicationErrorClass)
  deriving DecidableEq

namespace MigrationRebuildPublicationFailure

def errorClass : MigrationRebuildPublicationFailure → MigrationRebuildPublicationErrorClass
  | .retryable errorClass => errorClass
  | .terminal errorClass => errorClass

def isTerminal : MigrationRebuildPublicationFailure → Bool
  | .retryable _ => false
  | .terminal _ => true

end MigrationRebuildPublicationFailure

/-- Blocks a head that was never published. -/
def blockUnpublishedMigrationHead (db : Db) (now : Int) : Option Db :=
  if db.head.serviceState = .repairing .migrationRebuild ∧ db.head.generation = none then
    some (blockHead db now)
  else none

/-- The row of a new attempt. -/
def MigrationRebuildPublicationAttempt.row (attempt : MigrationRebuildPublicationAttempt)
    (now : Int) : MigrationRebuildAttempt where
  processingContractId := attempt.processingContractId
  barrierDigest := attempt.barrierDigest
  attemptId := attempt.attemptId
  attemptCount := attempt.attemptCount
  phase := .running
  startedAt := now
  nextRetryAt := none
  lastErrorClass := none
  updatedAt := now

/-- The row waits for the next attempt. -/
def MigrationRebuildAttempt.wait (row : MigrationRebuildAttempt)
    (errorClass : MigrationRebuildPublicationErrorClass) (now : Int) : MigrationRebuildAttempt :=
  { row with
    phase := .retryWait
    nextRetryAt := some (retryAt now row.attemptCount)
    lastErrorClass := some errorClass
    updatedAt := now }

/-- The row of a handle, whatever its phase. -/
def MigrationRebuildAttempt.isOf (row : MigrationRebuildAttempt)
    (attempt : MigrationRebuildPublicationAttempt) : Bool :=
  row.processingContractId == attempt.processingContractId
    && row.barrierDigest == attempt.barrierDigest && row.attemptId == attempt.attemptId
    && row.attemptCount == attempt.attemptCount

/-- Writes the row of the attempts. -/
def Db.setMigrationAttempt (db : Db) (row : Option MigrationRebuildAttempt) : Db :=
  { db with repair.migrationAttempt := row }

/-- `delete_exact_attempt`, which asks for no phase. -/
def Db.deleteMigrationAttempt (db : Db) (attempt : MigrationRebuildPublicationAttempt) : Db :=
  if db.repair.migrationAttempt.any fun row => row.isOf attempt then db.setMigrationAttempt none
  else db

/-- The head is blocked when the budget is spent, unless it is no longer the one to
block. -/
def blockExhaustedMigration (now : Int) :
    Transaction MigrationRebuildPublicationAttemptAcquire := do
  let db ← get
  match blockUnpublishedMigrationHead db now with
  | some blocked => do
      set blocked
      pure .repairBlocked
  | none => pure .superseded

section Migration

variable (sha256 : List UInt8 → ContentDigest)

/-- The handle of a new attempt. -/
def newPublicationAttempt (barrier : MigrationRebuildBarrierToken) (attemptId : ContentDigest)
    (attemptCount : Nat) : MigrationRebuildPublicationAttempt where
  processingContractId := barrier.processingContractId
  barrier := barrier
  barrierDigest := barrier.identityDigest sha256
  attemptId := attemptId
  attemptCount := attemptCount

/-- The table admits one to five attempts and no time before the epoch. -/
def startPublicationAttempt (barrier : MigrationRebuildBarrierToken) (attemptId : ContentDigest)
    (attemptCount : Nat) (now : Int) : Transaction MigrationRebuildPublicationAttemptAcquire := do
  let attempt := newPublicationAttempt sha256 barrier attemptId attemptCount
  require (1 ≤ attemptCount ∧ attemptCount ≤ maxAttempts ∧ 0 ≤ now) .storage
  modify fun db => db.setMigrationAttempt (some (attempt.row now))
  pure (.started attempt)

/-- A running row that no session remembers. -/
def interruptPublicationAttempt (existing : MigrationRebuildAttempt) (now : Int) :
    Transaction MigrationRebuildPublicationAttemptAcquire := do
  require (0 ≤ now) .storage
  modify fun db => db.setMigrationAttempt (some (existing.wait .interrupted now))
  if maxAttempts ≤ existing.attemptCount then blockExhaustedMigration now else pure .notDue

/-- What an attempt for the barrier of the stored row comes to. -/
def resumePublicationAttempt (activeAttemptId : Option ContentDigest)
    (barrier : MigrationRebuildBarrierToken) (existing : MigrationRebuildAttempt)
    (attemptId : ContentDigest) (now : Int) :
    Transaction MigrationRebuildPublicationAttemptAcquire :=
  match existing.phase with
  | .running =>
      if activeAttemptId = some existing.attemptId then pure .inProgress
      else do
        require (activeAttemptId = none) .storageInvariant
        interruptPublicationAttempt existing now
  | .retryWait => do
      let nextRetryAt ← demand existing.nextRetryAt .storageInvariant
      if now < nextRetryAt then pure .notDue
      else if maxAttempts ≤ existing.attemptCount then blockExhaustedMigration now
      else startPublicationAttempt sha256 barrier attemptId (existing.attemptCount + 1) now
  | .terminal => throw .storageInvariant

/-- Asks for an attempt at a rebuild. -/
def acquirePublicationAttempt (activeAttemptId : Option ContentDigest)
    (barrier : MigrationRebuildBarrierToken) (attemptId : ContentDigest) (now : Int) :
    Transaction MigrationRebuildPublicationAttemptAcquire := transaction do
  ensureNoPendingRetirement
  let db ← get
  if migrationRebuildBarrierTokenMatches db barrier = true then
    match db.repair.migrationAttempt with
    | none => startPublicationAttempt sha256 barrier attemptId 1 now
    | some existing => do
        require (existing.processingContractId = barrier.processingContractId) .storageInvariant
        if existing.barrierDigest = barrier.identityDigest sha256 then
          resumePublicationAttempt sha256 activeAttemptId barrier existing attemptId now
        else startPublicationAttempt sha256 barrier attemptId 1 now
  else pure .superseded

end Migration

def migrationRebuildTerminalBlockTokenMatches (db : Db) (expected : MigrationRebuildBarrierToken) :
    Bool :=
  migrationRebuildBarrierToken db expected.processingContractId .terminalBlocked == some expected

/-- The stored row is the running one of the handle, for the active contract. -/
def exactPublicationAttempt (db : Db) (attempt : MigrationRebuildPublicationAttempt) : Bool :=
  (db.repair.migrationAttempt.any fun row => row.isOf attempt && row.phase == .running)
    && db.repair.activeContractId == some attempt.processingContractId

/-- Reports that an attempt failed. -/
def finishPublicationAttemptFailure (attempt : MigrationRebuildPublicationAttempt)
    (failure : MigrationRebuildPublicationFailure) (now : Int) :
    Transaction AttemptFailureOutcome := transaction do
  let db ← get
  let exactAttempt := exactPublicationAttempt db attempt
  let exactRepairingHead := exactAttempt && migrationRebuildBarrierTokenMatches db attempt.barrier
  let exactTerminalBlock := failure.isTerminal && exactAttempt
    && migrationRebuildTerminalBlockTokenMatches db attempt.barrier
  if !exactRepairingHead && !exactTerminalBlock then do
    set (if exactAttempt then db.deleteMigrationAttempt attempt else db)
    pure .superseded
  else do
    require (0 ≤ now) .storage
    let waiting := db.setMigrationAttempt
      (db.repair.migrationAttempt.map (·.wait failure.errorClass now))
    set waiting
    if failure.isTerminal || decide (maxAttempts ≤ attempt.attemptCount) then
      if exactTerminalBlock then pure .repairBlocked
      else match blockUnpublishedMigrationHead waiting now with
        | some blocked => do
            set blocked
            pure .repairBlocked
        | none => pure .superseded
    else pure .retryScheduled

/-- Gives an attempt up. -/
def abandonPublicationAttempt (attempt : MigrationRebuildPublicationAttempt) :
    Transaction AttemptFailureOutcome := transaction do
  modify fun db => db.deleteMigrationAttempt attempt
  pure .superseded

/-! ## Repairs of artifacts -/

/-- The retry state before an attempt. -/
structure ArtifactRepairRetrySnapshot where
  attemptCount : Nat
  startedAt : Int
  nextRetryAt : Int
  lastErrorKind : ArtifactRepairAttemptErrorKind
  updatedAt : Int
  deriving DecidableEq

/-- The handle of a reserved attempt. It is made by a reservation only, which counts
one more attempt than the retry state before it. -/
structure ArtifactRepairAttemptHandle where
  key : ArtifactRepairKey
  attemptId : ContentDigest
  attemptCount : Nat
  priorRetry : Option ArtifactRepairRetrySnapshot
  counted : attemptCount = priorRetry.elim 1 fun retry => retry.attemptCount + 1
  deriving DecidableEq

/-- The answers to a request for an attempt. -/
inductive ArtifactRepairAttemptAcquire where
  | started (attempt : ArtifactRepairAttemptHandle)
  | inProgress
  | notDue
  | repairBlocked
  | superseded
  deriving DecidableEq

/-- How an attempt failed. -/
inductive ArtifactRepairAttemptFailure where
  | retryable (errorKind : ArtifactRepairAttemptErrorKind)
  | terminal (errorKind : ArtifactRepairAttemptErrorKind)
  deriving DecidableEq

/-- What became of a cancellation. -/
inductive ArtifactRepairAttemptCancellationOutcome where
  | restored
  | superseded
  deriving DecidableEq

namespace ArtifactRepairAttemptFailure

def errorKind : ArtifactRepairAttemptFailure → ArtifactRepairAttemptErrorKind
  | .retryable errorKind => errorKind
  | .terminal errorKind => errorKind

def isTerminal : ArtifactRepairAttemptFailure → Bool
  | .retryable _ => false
  | .terminal _ => true

end ArtifactRepairAttemptFailure

/-- The head is in the repair context of the key, in the given state. -/
def exactRepairContext (db : Db) (key : ArtifactRepairKey) (state : ServiceState) : Bool :=
  db.repair.artifactContext == some key && db.head.generation == some key.generation
    && db.head.visibleEpoch == key.visibleEpoch && db.head.serviceState == state

/-- The repair of the key is under way. -/
def exactRepairContextMatches (db : Db) (key : ArtifactRepairKey) : Bool :=
  exactRepairContext db key (.repairing .artifactUnavailable)

/-- The repair of the key is blocked. -/
def exactTerminalBlockedRepairContextMatches (db : Db) (key : ArtifactRepairKey) : Bool :=
  exactRepairContext db key (.repairBlocked .runtimeInvariant)

/-- The row of a handle, whatever its phase. -/
def ArtifactRepairAttempt.isOf (row : ArtifactRepairAttempt)
    (attempt : ArtifactRepairAttemptHandle) : Bool :=
  row.key == attempt.key && row.attemptId == attempt.attemptId
    && row.attemptCount == attempt.attemptCount

/-- The row waits for the next attempt. -/
def ArtifactRepairAttempt.wait (row : ArtifactRepairAttempt)
    (errorKind : ArtifactRepairAttemptErrorKind) (now : Int) : ArtifactRepairAttempt :=
  { row with
    phase := .retryWait
    nextRetryAt := some (retryAt now row.attemptCount)
    lastErrorKind := some errorKind
    updatedAt := now }

/-- A wait that began in the future is begun anew: the clock went back. -/
def ArtifactRepairAttempt.rebase (row : ArtifactRepairAttempt) (now : Int) :
    ArtifactRepairAttempt :=
  { row with nextRetryAt := some (retryAt now row.attemptCount), updatedAt := now }

/-- Writes the row of the attempts. -/
def Db.setArtifactAttempt (db : Db) (row : Option ArtifactRepairAttempt) : Db :=
  { db with repair.artifactAttempt := row }

/-- `block_exact_head`: the row waits and belongs to the context of the head. -/
def blockExactHead (db : Db) (row : ArtifactRepairAttempt) (now : Int) : Option Db :=
  if exactRepairContextMatches db row.key = true ∧
      (db.repair.artifactAttempt.any fun stored =>
        stored.key == row.key && stored.attemptId == row.attemptId
          && stored.attemptCount == row.attemptCount && stored.phase == .retryWait) = true then
    some (blockHead db now)
  else none

def blockExhaustedRepair (row : ArtifactRepairAttempt) (now : Int) :
    Transaction ArtifactRepairAttemptAcquire := do
  let db ← get
  match blockExactHead db row now with
  | some blocked => do
      set blocked
      pure .repairBlocked
  | none => pure .superseded

/-- The retry state a waiting row is in. -/
def ArtifactRepairAttempt.retryState (row : ArtifactRepairAttempt) :
    Option ArtifactRepairRetrySnapshot :=
  match row.nextRetryAt, row.lastErrorKind with
  | some nextRetryAt, some lastErrorKind =>
      some ⟨row.attemptCount, row.startedAt, nextRetryAt, lastErrorKind, row.updatedAt⟩
  | _, _ => none

def newAttempt (key : ArtifactRepairKey) (prior : Option ArtifactRepairRetrySnapshot)
    (attemptId : ContentDigest) : ArtifactRepairAttemptHandle where
  key := key
  attemptId := attemptId
  attemptCount := prior.elim 1 fun retry => retry.attemptCount + 1
  priorRetry := prior
  counted := rfl

variable (attempt : ArtifactRepairAttemptHandle)

/-- The row of a new attempt. -/
def ArtifactRepairAttemptHandle.row (now : Int) : ArtifactRepairAttempt where
  key := attempt.key
  attemptId := attempt.attemptId
  attemptCount := attempt.attemptCount
  phase := .running
  startedAt := now
  nextRetryAt := none
  lastErrorKind := none
  updatedAt := now

def startAttempt (key : ArtifactRepairKey) (prior : Option ArtifactRepairRetrySnapshot)
    (attemptId : ContentDigest) (now : Int) : Transaction ArtifactRepairAttemptAcquire := do
  let attempt := newAttempt key prior attemptId
  require (attempt.attemptCount ≤ maxAttempts) .storageInvariant
  require (1 ≤ attempt.attemptCount ∧ 0 ≤ now) .storage
  modify fun db => db.setArtifactAttempt (some (attempt.row now))
  pure (.started attempt)

def interruptAttempt (existing : ArtifactRepairAttempt) (now : Int) :
    Transaction ArtifactRepairAttemptAcquire := do
  require (0 ≤ now) .storage
  modify fun db => db.setArtifactAttempt (some (existing.wait .interrupted now))
  if maxAttempts ≤ existing.attemptCount then blockExhaustedRepair existing now else pure .notDue

/-- What an attempt for the key of the stored row comes to. -/
def resumeAttempt (activeAttemptId : Option ContentDigest) (existing : ArtifactRepairAttempt)
    (attemptId : ContentDigest) (now : Int) : Transaction ArtifactRepairAttemptAcquire :=
  match existing.phase with
  | .running =>
      if activeAttemptId = some existing.attemptId then pure .inProgress
      else do
        require (activeAttemptId = none) .storageInvariant
        interruptAttempt existing now
  | .retryWait => do
      let nextRetryAt ← demand existing.nextRetryAt .storageInvariant
      require (nextRetryAt = retryAt existing.updatedAt existing.attemptCount) .storageInvariant
      if now < existing.updatedAt then do
        require (0 ≤ now) .storage
        modify fun db => db.setArtifactAttempt (some (existing.rebase now))
        pure .notDue
      else if now < nextRetryAt then pure .notDue
      else if maxAttempts ≤ existing.attemptCount then blockExhaustedRepair existing now
      else do
        let prior ← demand existing.retryState .storageInvariant
        startAttempt existing.key (some prior) attemptId now
  | .terminal => throw .storageInvariant

/-- Asks for an attempt at a repair. -/
def acquireAttempt (activeAttemptId : Option ContentDigest) (key : ArtifactRepairKey)
    (attemptId : ContentDigest) (now : Int) :
    Transaction ArtifactRepairAttemptAcquire := transaction do
  require ((key.visibleEpoch : Int) ≤ maxUnixSeconds) .storageInvariant
  ensureNoPendingRetirement
  let db ← get
  if exactRepairContextMatches db key = true then
    match db.repair.artifactAttempt with
    | none => startAttempt key none attemptId now
    | some existing =>
        if existing.key = key then resumeAttempt activeAttemptId existing attemptId now
        else startAttempt key none attemptId now
  else pure .superseded

/-- The running row of a handle. -/
def exactRunningAttempt (db : Db) (attempt : ArtifactRepairAttemptHandle) : Bool :=
  db.repair.artifactAttempt.any fun row => row.isOf attempt && row.phase == .running

def exactTerminalAttempt (db : Db) (attempt : ArtifactRepairAttemptHandle) : Bool :=
  db.repair.artifactAttempt.any fun row => row.isOf attempt && row.phase == .terminal

/-- Reports that an attempt failed. -/
def finishAttemptFailure (failure : ArtifactRepairAttemptFailure) (now : Int) : Transaction
    AttemptFailureOutcome := transaction do
  require ((attempt.key.visibleEpoch : Int) ≤ maxUnixSeconds) .storageInvariant
  let db ← get
  let exactRepairingHead := exactRunningAttempt db attempt
    && exactRepairContextMatches db attempt.key
  let exactTerminalBlock := failure.isTerminal && exactTerminalAttempt db attempt
    && exactTerminalBlockedRepairContextMatches db attempt.key
  if exactTerminalBlock then pure .repairBlocked
  else if !exactRepairingHead then do
    set (if exactRunningAttempt db attempt then db.setArtifactAttempt none else db)
    pure .superseded
  else do
    require (0 ≤ now) .storage
    let row ← demand db.repair.artifactAttempt .storageInvariant
    let waiting := db.setArtifactAttempt (some (row.wait failure.errorKind now))
    set waiting
    if failure.isTerminal || decide (maxAttempts ≤ attempt.attemptCount) then
      match blockExactHead waiting row now with
      | some blocked => do
          set blocked
          pure .repairBlocked
      | none => pure .superseded
    else pure .retryScheduled

/-- The row before the attempt, under a new id. -/
def ArtifactRepairAttempt.restore (row : ArtifactRepairAttempt)
    (prior : ArtifactRepairRetrySnapshot) (attemptId : ContentDigest) : ArtifactRepairAttempt :=
  { row with
    attemptId
    attemptCount := prior.attemptCount
    phase := .retryWait
    startedAt := prior.startedAt
    nextRetryAt := some prior.nextRetryAt
    lastErrorKind := some prior.lastErrorKind
    updatedAt := prior.updatedAt }

/-- Cancels an attempt. -/
def cancelAttempt (restoredId : ContentDigest) : Transaction
    ArtifactRepairAttemptCancellationOutcome := transaction do
  require ((attempt.key.visibleEpoch : Int) ≤ maxUnixSeconds) .storageInvariant
  let db ← get
  if exactRunningAttempt db attempt then do
    set (db.setArtifactAttempt (db.repair.artifactAttempt.bind fun row =>
      attempt.priorRetry.map fun prior => row.restore prior restoredId))
    pure .restored
  else pure .superseded

/-! ## The session -/

/-- A session on the store, with the attempt it remembers. -/
structure SearchPublicationSession where
  store : Db
  activeAttemptId : Option ContentDigest

namespace SearchPublicationSession

def onStore {α : Type} (x : Transaction α) : EStateM MetaStoreError SearchPublicationSession α :=
  zoom store (fun session store => { session with store }) x

def clearActiveAttemptIf (attemptId : ContentDigest) (session : SearchPublicationSession) :
    SearchPublicationSession :=
  if session.activeAttemptId = some attemptId then { session with activeAttemptId := none }
  else session

def rememberMigration (outcome : MigrationRebuildPublicationAttemptAcquire)
    (session : SearchPublicationSession) : SearchPublicationSession :=
  match outcome with
  | .started attempt => { session with activeAttemptId := some attempt.attemptId }
  | _ => session

def rememberArtifact (outcome : ArtifactRepairAttemptAcquire)
    (session : SearchPublicationSession) : SearchPublicationSession :=
  match outcome with
  | .started attempt => { session with activeAttemptId := some attempt.attemptId }
  | _ => session

/-- A call to the store, followed by what the session remembers of its answer. -/
def call {α : Type} (x : Option ContentDigest → Transaction α)
    (remember : α → SearchPublicationSession → SearchPublicationSession) :
    EStateM MetaStoreError SearchPublicationSession α := do
  let session ← get
  let outcome ← onStore (x session.activeAttemptId)
  modify (remember outcome)
  pure outcome

def acquireMigrationRebuildPublicationAttempt (sha256 : List UInt8 → ContentDigest)
    (barrier : MigrationRebuildBarrierToken) (attemptId : ContentDigest) (now : Int) :
    EStateM MetaStoreError SearchPublicationSession MigrationRebuildPublicationAttemptAcquire :=
  call (fun active => acquirePublicationAttempt sha256 active barrier attemptId now)
    rememberMigration

def finishMigrationRebuildPublicationAttemptFailure
    (attempt : MigrationRebuildPublicationAttempt) (failure : MigrationRebuildPublicationFailure)
    (now : Int) : EStateM MetaStoreError SearchPublicationSession AttemptFailureOutcome :=
  call (fun _ => finishPublicationAttemptFailure attempt failure now)
    fun _ => clearActiveAttemptIf attempt.attemptId

def abandonMigrationRebuildPublicationAttempt (attempt : MigrationRebuildPublicationAttempt) :
    EStateM MetaStoreError SearchPublicationSession AttemptFailureOutcome :=
  call (fun _ => abandonPublicationAttempt attempt)
    fun _ => clearActiveAttemptIf attempt.attemptId

def acquireArtifactRepairAttempt (key : ArtifactRepairKey) (attemptId : ContentDigest)
    (now : Int) :
    EStateM MetaStoreError SearchPublicationSession ArtifactRepairAttemptAcquire :=
  call (fun active => acquireAttempt active key attemptId now) rememberArtifact

def finishArtifactRepairAttemptFailure (attempt : ArtifactRepairAttemptHandle)
    (failure : ArtifactRepairAttemptFailure) (now : Int) :
    EStateM MetaStoreError SearchPublicationSession AttemptFailureOutcome :=
  call (fun _ => finishAttemptFailure attempt failure now)
    fun _ => clearActiveAttemptIf attempt.attemptId

def cancelArtifactRepairAttempt (attempt : ArtifactRepairAttemptHandle)
    (restoredId : ContentDigest) :
    EStateM MetaStoreError SearchPublicationSession ArtifactRepairAttemptCancellationOutcome :=
  call (fun _ => cancelAttempt attempt restoredId)
    fun _ => clearActiveAttemptIf attempt.attemptId

end SearchPublicationSession

end ResumeIr.MetaStore
