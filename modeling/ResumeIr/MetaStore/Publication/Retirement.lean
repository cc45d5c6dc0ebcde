import ResumeIr.MetaStore.Publication.Authority

/-!
# Retiring a failed publication

A publication that cannot be committed is retired: its row is abandoned, and a
retirement row records which of its two artifacts may exist on disk. Each
artifact is reported deleted on its own, and the retirement is complete when
both are. While a retirement is pending no publication can begin.

When the artifacts cannot be deleted the failure is settled: the head that the
publication was to replace is blocked, together with the attempt that the
publication belonged to. A head or an attempt that is no longer that one is left
alone.
-/

namespace ResumeIr.MetaStore

open CoreDomain Foundation Fallible

/-! ## Rows -/

def SearchPublicationRetirementPlan.none : SearchPublicationRetirementPlan :=
  ⟨SearchArtifactExpectation.none, SearchArtifactExpectation.none⟩

def SearchPublicationRetirement.isComplete (row : SearchPublicationRetirement) :
    SearchPublicationRetirementArtifact → Bool
  | .fulltext => row.fulltextComplete
  | .vector => row.vectorComplete

def phaseOf (fulltextComplete vectorComplete : Bool) : SearchPublicationRetirementPhase :=
  if fulltextComplete && vectorComplete then .complete else .pending

/-- The retirement that a plan starts. An artifact that is not expected is
complete from the beginning. -/
def plannedRetirement (generation : String) (now : Int) (plan : SearchPublicationRetirementPlan) :
    SearchPublicationRetirement :=
  let fulltextComplete := decide (plan.fulltext = SearchArtifactExpectation.none)
  let vectorComplete := decide (plan.vector = SearchArtifactExpectation.none)
  { generation
    phase := phaseOf fulltextComplete vectorComplete
    plan
    fulltextComplete
    vectorComplete
    createdAt := now
    updatedAt := now }

/-- The retirement after one more artifact was deleted. -/
def SearchPublicationRetirement.complete (row : SearchPublicationRetirement) (now : Int) :
    SearchPublicationRetirementArtifact → SearchPublicationRetirement
  | .fulltext =>
      { row with
        fulltextComplete := true
        phase := if row.vectorComplete then .complete else .pending
        updatedAt := max row.updatedAt now }
  | .vector =>
      { row with
        vectorComplete := true
        phase := if row.fulltextComplete then .complete else .pending
        updatedAt := max row.updatedAt now }

theorem SearchPublicationRetirement.complete_generation (row : SearchPublicationRetirement)
    (now : Int) (artifact : SearchPublicationRetirementArtifact) :
    (row.complete now artifact).generation = row.generation := by
  cases artifact <;> rfl

/-- A journal row moved to another state. -/
def JournalRow.moveTo (row : JournalRow) (state : SearchPublicationState) (now : Int) :
    JournalRow :=
  { row with state, updatedAt := now }

/-- The journal with the row of a generation moved to another state. -/
def moveRow (journal : Table JournalRow.key) (generation : String)
    (state : SearchPublicationState) (now : Int) : Table JournalRow.key :=
  journal.update generation (fun row => row.moveTo state now) fun _ => rfl

/-! ## The head -/

/-- The triggers that follow an update of the head: a ready head ends the
migration attempt, and a head that the repair context no longer describes ends
the context and the attempt in it. -/
def repairAfterHeadUpdate (head : SearchProjectionState) (repair : RepairTables) : RepairTables :=
  let keepsContext := repair.artifactContext.any fun key =>
    head.generation == some key.generation && head.visibleEpoch == key.visibleEpoch
      && (head.serviceState == .repairing .artifactUnavailable
        || head.serviceState == .repairBlocked .runtimeInvariant)
  { repair with
    migrationAttempt := if head.serviceState = .ready then none else repair.migrationAttempt
    artifactContext := if keepsContext then repair.artifactContext else none
    artifactAttempt := if keepsContext then repair.artifactAttempt else none }

variable (sha256 : List UInt8 → ContentDigest) (db : Db)

def Db.updateHead (head : SearchProjectionState) : Db :=
  { db with head, repair := repairAfterHeadUpdate head db.repair }

/-- The head, blocked with a runtime invariant. -/
def SearchProjectionState.block (head : SearchProjectionState) (now : Int) :
    SearchProjectionState where
  serviceState := .repairBlocked .runtimeInvariant
  generation := head.generation
  visibleEpoch := head.visibleEpoch
  updatedAt := max head.updatedAt now
  ready_names := nofun

def blockHead (now : Int) : Db := db.updateHead (db.head.block now)

/-! ## Beginning a retirement -/

def searchPublicationRetirementReplayLimit : Nat := 64

def Db.pendingRetirements : List SearchPublicationRetirement :=
  db.retirement.rows.filter fun row => row.phase = .pending

def ensureNoPendingRetirement : Transaction Unit := do
  let db ← get
  require (db.pendingRetirements.length ≤ searchPublicationRetirementReplayLimit)
    (publicationError .invalidPersistedState)
  require (db.pendingRetirements = []) (publicationError .invalidState)

/-- The first retirement of a publication: the retirement row, and the journal
row moved to abandoned unless it already is. -/
def recordRetirement (generation : String) (now : Int) (plan : SearchPublicationRetirementPlan)
    (state : SearchPublicationState) : Transaction Unit := do
  let db ← get
  require (0 ≤ now) .storage
  let retirement ← demand (db.retirement.insert? (plannedRetirement generation now plan)) .storage
  let journal :=
    if state = .abandoned then db.journal else moveRow db.journal generation .abandoned now
  set { db with retirement, journal }

def beginRetirement (generation : String) (now : Int) (plan : SearchPublicationRetirementPlan) :
    Transaction Unit := do
  let found ← searchPublication sha256 generation
  let publication ← demand found (publicationError .invalidState)
  require (publication.state ≠ .ready) (publicationError .invalidState)
  let db ← get
  match db.retirement.find? generation with
  | some existing =>
      require (existing.plan = plan ∧ publication.state = .abandoned)
        (publicationError .invalidState)
  | none => recordRetirement generation now plan publication.state

def beginSearchPublicationRetirement (generation : String) (now : Int)
    (plan : SearchPublicationRetirementPlan) : Transaction Unit :=
  transaction (beginRetirement sha256 generation now plan)

/-! ## Reporting an artifact deleted -/

/-- The completion of one artifact that is not complete yet. The completion
guard is granted for a pending retirement of an abandoned publication only. -/
def recordCompletion (generation : String) (artifact : SearchPublicationRetirementArtifact)
    (now : Int) (existing : SearchPublicationRetirement) : Transaction Unit := do
  require (existing.phase = .pending) (publicationError .invalidState)
  let db ← get
  require (0 ≤ now ∧ ∃ row ∈ db.journal.find? generation, row.state = .abandoned) .storage
  set { db with
    retirement := db.retirement.update generation (fun row => row.complete now artifact)
      fun row => row.complete_generation now artifact }

def completeSearchPublicationRetirementArtifact (generation : String)
    (artifact : SearchPublicationRetirementArtifact) (now : Int) : Transaction Unit :=
  transaction do
    let db ← get
    let existing ← demand (db.retirement.find? generation) (publicationError .invalidState)
    if existing.isComplete artifact then pure ()
    else recordCompletion generation artifact now existing

/-! ## Settling a failure -/

inductive SearchPublicationRetirementFailureOutcome where
  | headBlocked
  | exactHeadAlreadyBlocked
  | headSuperseded
  deriving DecidableEq

def blockCurrentHead (generation : Option String) (visibleEpoch : Nat) (now : Int) : Option Db :=
  if db.head.serviceState = .ready ∧ db.head.generation = generation ∧
      db.head.visibleEpoch = visibleEpoch then
    some (blockHead db now)
  else none

/-- The attempt, ended because its artifacts could not be cleaned up. -/
def MigrationRebuildAttempt.cleanupFailed (attempt : MigrationRebuildAttempt) (now : Int) :
    MigrationRebuildAttempt :=
  { attempt with
    phase := .terminal
    nextRetryAt := none
    lastErrorClass := some .cleanup
    updatedAt := now }

def ArtifactRepairAttempt.cleanupFailed (attempt : ArtifactRepairAttempt) (now : Int) :
    ArtifactRepairAttempt :=
  { attempt with
    phase := .terminal
    nextRetryAt := none
    lastErrorKind := some .cleanup
    updatedAt := now }

def settleMigrationAttempt (contractId : String) (barrierDigest attemptId : ContentDigest)
    (attemptCount : Nat) (now : Int) : Option Db :=
  if exactRunningMigrationAttempt db contractId barrierDigest attemptId attemptCount then
    some { db with
      repair.migrationAttempt := db.repair.migrationAttempt.map (·.cleanupFailed now) }
  else none

def blockMigrationHead (contractId : String) (now : Int) : Option Db :=
  if db.head.serviceState = .repairing .migrationRebuild ∧ db.head.generation = none ∧
      db.repair.activeContractId = some contractId then
    some (blockHead db now)
  else none

def settleArtifactAttempt (key : ArtifactRepairKey) (attemptId : ContentDigest) (attemptCount : Nat)
    (now : Int) : Option Db :=
  if db.repair.artifactAttempt.any (fun attempt =>
      attempt.key == key && attempt.attemptId == attemptId
        && attempt.attemptCount == attemptCount && attempt.phase == .running) then
    some { db with
      repair.artifactAttempt := db.repair.artifactAttempt.map (·.cleanupFailed now) }
  else none

def blockArtifactHead (key : ArtifactRepairKey) (now : Int) : Option Db :=
  if db.head.serviceState = .repairing .artifactUnavailable ∧
      db.head.generation = some key.generation ∧ db.head.visibleEpoch = key.visibleEpoch ∧
      db.repair.artifactContext = some key then
    some (blockHead db now)
  else none

/-- Keep the writes of a settlement that blocked the head; a settlement that did
not is rolled back. -/
def settleWith (settled : Option Db) : Transaction SearchPublicationRetirementFailureOutcome :=
  match settled with
  | some blocked => do
      set blocked
      pure .headBlocked
  | none => pure .headSuperseded

def settleCurrentHead (publication : JournalRow) (now : Int) : Transaction
    SearchPublicationRetirementFailureOutcome :=
  match blockCurrentHead db publication.baseGeneration publication.expectedVisibleEpoch now with
  | some blocked => settleWith (some blocked)
  | none =>
      pure <|
        if exactBlockedCurrentHead db publication.baseGeneration
            publication.expectedVisibleEpoch then
          .exactHeadAlreadyBlocked
        else .headSuperseded

def settleMigrationRebuild (publication : JournalRow) (contractId : String)
    (barrierDigest attemptId : ContentDigest) (attemptCount : Nat) (now : Int) : Transaction
    SearchPublicationRetirementFailureOutcome :=
  if publication.baseGeneration = none ∧
      exactBlockedCurrentHead db none publication.expectedVisibleEpoch = true ∧
      exactTerminalMigrationCleanupAuthority sha256 db contractId barrierDigest attemptId
        attemptCount = true then
    pure .exactHeadAlreadyBlocked
  else if migrationRebuildBarrierDigestMatches sha256 db contractId barrierDigest = true ∧
      exactRunningMigrationAttempt db contractId barrierDigest attemptId attemptCount = true then
    do
      require (0 ≤ now) .storage
      settleWith ((settleMigrationAttempt db contractId barrierDigest attemptId attemptCount
        now).bind fun settled => blockMigrationHead settled contractId now)
  else pure .headSuperseded

def settleArtifactRepair (publication : JournalRow) (key : ArtifactRepairKey)
    (attemptId : ContentDigest) (attemptCount : Nat) (now : Int) : Transaction
    SearchPublicationRetirementFailureOutcome :=
  if publication.baseGeneration = some key.generation ∧
      publication.expectedVisibleEpoch = key.visibleEpoch ∧
      exactTerminalArtifactCleanupAuthority db key attemptId attemptCount = true then
    pure .exactHeadAlreadyBlocked
  else if exactRunningArtifactAttempt db key attemptId attemptCount = true then
    do
      require (0 ≤ now) .storage
      settleWith ((settleArtifactAttempt db key attemptId attemptCount now).bind fun settled =>
        blockArtifactHead settled key now)
  else pure .headSuperseded

/-- `block_search_head_after_publication_retirement_failure`. -/
def settleSearchPublicationRetirementFailure (generation : String) (now : Int) : Transaction
    SearchPublicationRetirementFailureOutcome :=
  transaction do
    let db ← get
    require (∃ row ∈ db.retirement.find? generation, row.phase = .pending)
      (publicationError .invalidState)
    let found ← searchPublication sha256 generation
    let publication ← demand found (publicationError .invalidState)
    require (publication.state = .abandoned) (publicationError .invalidState)
    match publication.authority with
    | .currentHead => settleCurrentHead db publication now
    | .migrationRebuild contractId barrierDigest attemptId attemptCount =>
        settleMigrationRebuild sha256 db publication contractId barrierDigest attemptId
          attemptCount now
    | .artifactRepair key attemptId attemptCount =>
        settleArtifactRepair db publication key attemptId attemptCount now

end ResumeIr.MetaStore
