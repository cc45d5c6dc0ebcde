import ResumeIr.MetaStore.Imports.TaskInvariant

/-!
# The transition of the writer

A transition goes through all its phases in one transaction, unless a running
task stops it. So the only transitions that are active between two operations
are those that wait for their workers: they were recorded, perhaps fenced, and
they start from the contract that is still committed (`TransitionSound`).

A transition that reports its target as committed has therefore replaced the
waiting tasks of the other contracts in the same transaction (`Committed`).
-/

namespace ResumeIr.MetaStore

open Foundation Fallible

/-! ## The rows of transitions -/

variable {s t : ImportStore}

theorem run_updateTransition_eq_ok {id : String}
    {f : WriterContractTransition → WriterContractTransition}
    {same : ∀ row, (f row).transitionId = row.transitionId} {u : Unit} :
    (updateTransition id f same).run s = .ok u t ↔
      (∀ row, s.transitions.find? id = some row → (f row).createdAt ≤ (f row).updatedAt) ∧
        { s with transitions := s.transitions.update id f same } = t := by
  unfold updateTransition
  rw [run_get_bind, run_require_bind_eq_ok]
  cases s.transitions.find? id with
  | none => simp
  | some row => simp

theorem run_setPhase_eq_ok {id : String} {phase : WriterTransitionPhase} {now : Int} {u : Unit} :
    (setPhase id phase now).run s = .ok u t ↔
      (∀ row, s.transitions.find? id = some row → row.createdAt ≤ now) ∧
        { s with
          transitions := s.transitions.update id
            (fun row => { row with phase := phase, updatedAt := now }) fun _ => rfl } = t :=
  run_updateTransition_eq_ok

/-! ## Transitions that wait -/

/-- The transition is active, waits for the workers and starts from the
committed contract. -/
structure WaitsAt (id : String) (s : ImportStore) : Prop where
  active : s.authority.activeTransitionId = some id
  committed : s.authority.committedContractId.isSome = true
  row : ∃ row, s.transitions.find? id = some row ∧
    (row.phase = .observed ∨ row.phase = .claimsFenced) ∧
    row.sourceContractId = s.authority.committedContractId

def TransitionSound (s : ImportStore) : Prop :=
  ∀ id, s.authority.activeTransitionId = some id → WaitsAt id s

theorem TransitionSound.start (fresh : Fresh s) : TransitionSound s := by
  intro id active
  rw [fresh.authority] at active
  cases active

theorem WaitsAt.sound {id : String} (waits : WaitsAt id s) : TransitionSound s := by
  intro other active
  rw [waits.active] at active
  cases active
  exact waits

theorem TransitionSound.of_inactive (inactive : s.authority.activeTransitionId = none) :
    TransitionSound s := by
  intro id active
  rw [inactive] at active
  cases active

/-- A ready authority has no active transition. -/
theorem WriterAuthority.inactive_of_ready {authority : WriterAuthority}
    (ready : authority.healthState = .ready) : authority.activeTransitionId = none := by
  have checked := authority.checked
  unfold WriterAuthorityColumns.consistent at checked
  rw [ready] at checked
  simp only [Bool.and_eq_true, Option.isNone_iff_eq_none] at checked
  exact checked.2

/-- What the invariant does not read may change. -/
theorem TransitionSound.congr (held : TransitionSound s)
    (active : t.authority.activeTransitionId = s.authority.activeTransitionId)
    (committed : t.authority.committedContractId = s.authority.committedContractId)
    (transitions : t.transitions = s.transitions) : TransitionSound t := by
  intro id now
  rw [active] at now
  obtain ⟨_, known, row, found, early, source⟩ := held id now
  exact ⟨active ▸ now, committed ▸ known, row, transitions ▸ found, early, committed ▸ source⟩

/-- Rewriting the row of a transition that stays in an early phase. -/
theorem WaitsAt.rewrite {id : String} (waits : WaitsAt id s)
    (f : WriterContractTransition → WriterContractTransition)
    (lookup : t.transitions.find? id = (s.transitions.find? id).map f)
    (early : ∀ row : WriterContractTransition, row.phase = .observed ∨ row.phase = .claimsFenced →
      (f row).phase = .observed ∨ (f row).phase = .claimsFenced)
    (source : ∀ row, (f row).sourceContractId = row.sourceContractId)
    (authority : t.authority.activeTransitionId = some id ∧
      t.authority.committedContractId = s.authority.committedContractId) : WaitsAt id t := by
  obtain ⟨_, known, row, found, was, start⟩ := waits
  refine ⟨authority.1, authority.2 ▸ known, f row, ?_, early row was, ?_⟩
  · rw [lookup, found, Option.map_some]
  · rw [source, start, authority.2]

theorem fenceClaims_waits (row : WriterContractTransition) (now : Int) :
    Within (Keeps (WaitsAt row.transitionId)) (fenceClaims row now) := by
  intro s _ t done waits
  obtain ⟨_, r, fenced, done⟩ := run_bind_eq_ok.mp done
  obtain ⟨_, rfl⟩ := run_setPhase_eq_ok.mp fenced
  obtain ⟨_, rfl⟩ := run_updateAuthority_eq_ok.mp done
  refine waits.rewrite (fun row => { row with phase := .claimsFenced, updatedAt := now }) ?_
    (fun _ _ => .inr rfl) (fun _ => rfl) ⟨rfl, rfl⟩
  rw [Table.find?_update_self]

theorem markBlocked_waits (row : WriterContractTransition) (now : Int) :
    Within (Keeps (WaitsAt row.transitionId)) (markBlocked row now) := by
  intro s _ t done waits
  obtain ⟨_, r, marked, done⟩ := run_bind_eq_ok.mp done
  obtain ⟨_, rfl⟩ := run_updateTransition_eq_ok.mp marked
  obtain ⟨_, r, written, done⟩ := run_bind_eq_ok.mp done
  obtain ⟨_, rfl⟩ := run_updateAuthority_eq_ok.mp written
  cases done
  refine waits.rewrite
    (fun row => { row with
      failureClass := some .blockedByRunningOwner
      retryable := true
      updatedAt := now }) ?_ (fun _ early => early) (fun _ => rfl) ⟨waits.active, rfl⟩
  rw [Table.find?_update_self]

/-- A recorded transition waits. -/
theorem recordTransition_spec {id source target : String}
    {failure : Option WriterTransitionFailure} {now : Int} {row : WriterContractTransition}
    (done : (recordTransition id (some source) target failure now).run s = .ok row t) :
    s.transitions.find? id = none ∧ t.transitions.find? id = some row ∧ WaitsAt id t ∧
      row.transitionId = id ∧ row.phase = .observed ∧ row.createdAt = now ∧
      t.authority.healthState = .transitioning ∧
      fitsI64 (s.authority.claimFenceEpoch + 1) = true := by
  unfold recordTransition at done
  rw [run_get_bind] at done
  obtain ⟨fits, done⟩ := run_require_bind_eq_ok.mp done
  obtain ⟨_, r, inserted, done⟩ := run_bind_eq_ok.mp done
  obtain ⟨transitions, new, rfl⟩ := Table.run_insertRow_eq_ok.mp inserted
  cases done
  have known := Table.find?_inserted new
  exact ⟨Table.find?_of_insert? new, known, ⟨rfl, rfl, _, known, .inl rfl, rfl⟩, rfl, rfl, rfl, rfl,
    fits⟩

/-! ## What a transition does -/

/-- A contract was committed: the waiting tasks of other contracts were replaced,
and the authority is ready. -/
structure Committed (names : TransitionNames) (desired : ImportProcessingContract) (now : Int)
    (s t : ImportStore) : Prop where
  quiet : s.runningCount = 0
  rebuilt : ∃ r, (retireAndRebuildQueuedIntents names desired now).run s = .ok () r ∧
    t = { r with
      db := t.db, pdfJobs := t.pdfJobs, authority := t.authority, transitions := t.transitions }
  ready : t.authority.healthState = .ready
  committed : t.authority.committedContractId = some desired.id

section Transitions

variable {names : TransitionNames} {row : WriterContractTransition}
  {strategy : ContractTransitionStrategy} {desired : ImportProcessingContract} {now : Int}
  {outcome : WriterContractTransitionOutcome} {s t : ImportStore}

theorem finishTransition_ready
    (done : (finishTransition row strategy desired now).run s = .ok outcome t) :
    outcome = .targetCommitted ∧ t.authority.healthState = .ready ∧
      t.authority.committedContractId = some desired.id ∧
      t = { s with
        pdfJobs := t.pdfJobs, authority := t.authority, transitions := t.transitions } := by
  rw [finishTransition, run_modify_bind] at done
  obtain ⟨_, r, moved, done⟩ := run_bind_eq_ok.mp done
  obtain ⟨_, rfl⟩ := run_setPhase_eq_ok.mp moved
  obtain ⟨_, r, ended, done⟩ := run_bind_eq_ok.mp done
  obtain ⟨_, rfl⟩ := run_updateTransition_eq_ok.mp ended
  cases done
  refine ⟨rfl, rfl, rfl, ?_⟩
  unfold materializeCampaign
  split <;> rfl

theorem commitTargetContract_cases {u : Unit}
    (done : (commitTargetContract names row desired now).run s = .ok u t) :
    s.runningCount = 0 ∧ ∃ r, (retireAndRebuildQueuedIntents names desired now).run s = .ok () r ∧
      t = { r with db := t.db, authority := t.authority, transitions := t.transitions } := by
  obtain ⟨quiet, done⟩ := run_require_bind_eq_ok.mp done
  obtain ⟨_, r, rebuilt, done⟩ := run_bind_eq_ok.mp done
  rw [run_modify_bind] at done
  obtain ⟨_, q, moved, done⟩ := run_bind_eq_ok.mp done
  obtain ⟨_, rfl⟩ := run_setPhase_eq_ok.mp moved
  obtain ⟨_, rfl⟩ := run_updateAuthority_eq_ok.mp done
  exact ⟨quiet, r, rebuilt, rfl⟩

theorem commitAndFinish_committed
    (done : (commitAndFinish names row strategy desired now).run s = .ok outcome t) :
    outcome = .targetCommitted ∧ Committed names desired now s t := by
  obtain ⟨_, q, commit, done⟩ := run_bind_eq_ok.mp done
  obtain ⟨quiet, r, rebuilt, same⟩ := commitTargetContract_cases commit
  obtain ⟨rfl, ready, committed, rest⟩ := finishTransition_ready done
  refine ⟨rfl, quiet, ⟨r, rebuilt, ?_⟩, ready, committed⟩
  rw [rest, same]

theorem quiesceAndCommit_cases
    (done : (quiesceAndCommit names row strategy desired now).run s = .ok outcome t) :
    (markBlocked row now).run s = .ok outcome t ∧ outcome = .blockedByRunningOwner ∨
      outcome = .targetCommitted ∧ ∃ r, AuthorityOnly s r ∧ Committed names desired now r t := by
  unfold quiesceAndCommit at done
  rw [run_get_bind] at done
  split at done
  · left
    refine ⟨done, ?_⟩
    obtain ⟨_, _, _, done⟩ := run_bind_eq_ok.mp done
    obtain ⟨_, _, _, done⟩ := run_bind_eq_ok.mp done
    cases done
    rfl
  · right
    obtain ⟨_, q, moved, done⟩ := run_bind_eq_ok.mp done
    obtain ⟨_, r, written, done⟩ := run_bind_eq_ok.mp done
    obtain ⟨committed, rest⟩ := commitAndFinish_committed done
    exact ⟨committed, r, trans_of AuthorityOnly (setPhase_only _ _ _ _ _ _ moved)
      (updateAuthority_only _ _ _ _ written), rest⟩

/-- A waiting transition goes on to wait, or is committed. -/
theorem advanceExistingTransition_cases (waits : WaitsAt row.transitionId s)
    (early : row.phase = .observed ∨ row.phase = .claimsFenced)
    (done : (advanceExistingTransition names row strategy desired now).run s = .ok outcome t) :
    WaitsAt row.transitionId t ∧ outcome = .blockedByRunningOwner ∨
      outcome = .targetCommitted ∧ ∃ r, AuthorityOnly s r ∧ Committed names desired now r t := by
  unfold advanceExistingTransition at done
  obtain observed | fenced := early
  · rw [observed] at done
    obtain ⟨_, q, fence, done⟩ := run_bind_eq_ok.mp done
    obtain ⟨blocked, is⟩ | ⟨is, r, only, rest⟩ := quiesceAndCommit_cases done
    · exact .inl ⟨markBlocked_waits _ _ _ _ _ blocked (fenceClaims_waits _ _ _ _ _ fence waits), is⟩
    · exact .inr ⟨is, r, trans_of AuthorityOnly (fenceClaims_only _ _ _ _ _ fence) only, rest⟩
  · rw [fenced] at done
    obtain ⟨blocked, is⟩ | committed := quiesceAndCommit_cases done
    · exact .inl ⟨markBlocked_waits _ _ _ _ _ blocked waits, is⟩
    · exact .inr committed

/-- What a transition that is kept leaves behind. -/
inductive Transitioned (names : TransitionNames) (desired : ImportProcessingContract) (now : Int)
    (s t : ImportStore) : WriterContractTransitionOutcome → Prop where
  | synced (unchanged : contractDelta (activeImportProcessingContract s) desired = .alreadyActive)
      (ready : t.authority.healthState = .ready)
      (committed : t.authority.committedContractId = some desired.id)
      (only : AuthorityOnly s t) : Transitioned names desired now s t .alreadyActive
  | refused (outcome : WriterContractTransitionOutcome) (undone : outcome.commits = false) :
      Transitioned names desired now s t outcome
  | inProgress (row : WriterContractTransition) (active : activeTransitionRow s = some row)
      (other : row.targetContractId ≠ desired.id) (same : t = s) :
      Transitioned names desired now s t .transitionInProgress
  | waiting (id : String) (waits : WaitsAt id t) :
      Transitioned names desired now s t .blockedByRunningOwner
  | committed (r : ImportStore) (only : AuthorityOnly s r) (rest : Committed names desired now r t) :
      Transitioned names desired now s t .targetCommitted

theorem syncReady_cases {v : WriterContractTransitionOutcome}
    (done : (do updateAuthority (·.syncReady desired.id now); return v :
      ImportTransaction WriterContractTransitionOutcome).run s = .ok outcome t) :
    outcome = v ∧ t.authority.healthState = .ready ∧
      t.authority.committedContractId = some desired.id ∧ AuthorityOnly s t := by
  obtain ⟨_, r, written, done⟩ := run_bind_eq_ok.mp done
  cases done
  refine ⟨rfl, ?_⟩
  have only := updateAuthority_only _ _ _ _ written
  obtain ⟨_, rfl⟩ := run_updateAuthority_eq_ok.mp written
  exact ⟨rfl, rfl, only⟩

theorem resumeTransition_cases (held : TransitionSound s)
    (active : activeTransitionRow s = some row)
    (done : (resumeTransition names row desired now).run s = .ok outcome t) :
    Transitioned names desired now s t outcome := by
  obtain ⟨id, named, found⟩ := Option.bind_eq_some_iff.mp active
  have waits := held id named
  obtain ⟨stored, same, early, _⟩ := waits.row
  rw [found] at same
  obtain rfl := Option.some.inj same
  obtain rfl : row.transitionId = id := Table.find?_key found
  unfold resumeTransition at done
  split at done
  case isTrue other =>
    cases done
    exact .inProgress row active other rfl
  case isFalse =>
    rw [run_get_bind] at done
    dsimp only at done
    split at done
    · cases done
      exact .refused _ rfl
    · obtain ⟨still, rfl⟩ | ⟨rfl, r, only, rest⟩ :=
        advanceExistingTransition_cases waits early done
      · exact .waiting _ still
      · exact .committed r only rest

theorem contractDelta_some {committed : Option ImportProcessingContract}
    (supported : contractDelta committed desired ≠ .unsupported) :
    ∃ contract, committed = some contract := by
  cases committed with
  | none => exact absurd rfl supported
  | some contract => exact ⟨contract, rfl⟩

theorem beginTransition_cases
    (done : (beginTransition names desired now).run s = .ok outcome t) :
    Transitioned names desired now s t outcome := by
  unfold beginTransition at done
  rw [run_get_bind] at done
  dsimp only at done
  split at done
  case h_1 unchanged =>
    obtain ⟨rfl, ready, committed, only⟩ := syncReady_cases done
    exact .synced unchanged ready committed only
  · cases done
    exact .refused _ rfl
  case h_3 rescan =>
    obtain ⟨contract, known⟩ := contractDelta_some (by rw [rescan]; simp)
    rw [known] at done
    split at done
    · obtain ⟨_, r, recorded, done⟩ := run_bind_eq_ok.mp done
      cases done
      exact .waiting _ (recordTransition_spec recorded).2.2.1
    · obtain ⟨row, r, recorded, done⟩ := run_bind_eq_ok.mp done
      obtain ⟨-, -, waits, named, observed, -⟩ := recordTransition_spec recorded
      rw [← named] at waits
      obtain ⟨still, rfl⟩ | ⟨rfl, q, only, rest⟩ :=
        advanceExistingTransition_cases waits (.inl observed) done
      · exact .waiting _ still
      · exact .committed q
          (trans_of AuthorityOnly (recordTransition_only _ _ _ _ _ _ _ _ recorded) only) rest

/-- The store with a contract in its table. -/
def ImportStore.storeContract (s : ImportStore) (desired : ImportProcessingContract) : ImportStore :=
  { s with contracts := s.contracts.insertOrIgnore desired }

/-- **What an online transition can do.** Either it is rolled back, or it acts on
the store with the desired contract in it. -/
theorem completeOnlineWriterTransition_cases (held : TransitionSound s)
    (done : (completeOnlineWriterTransition names desired now).run s = .ok outcome t) :
    (outcome.commits = false ∧ t = s) ∨
      (outcome.commits = true ∧ Transitioned names desired now (s.storeContract desired) t outcome) := by
  refine (run_transactionIf_cases done).imp_right fun ⟨keeps, done⟩ => ⟨keeps, ?_⟩
  obtain ⟨_, r, stored, done⟩ := run_bind_eq_ok.mp done
  obtain ⟨_, rfl⟩ := run_insertImportProcessingContract_eq_ok.mp stored
  rw [run_get_bind] at done
  split at done
  · cases done
    cases keeps
  · split at done
    case h_1 row active => exact resumeTransition_cases (held.congr rfl rfl rfl) active done
    case h_2 => exact beginTransition_cases done

/-- A hard cut is rolled back, or ends with a ready authority. -/
theorem activateMigrationRebuildContract_cases {contract : ImportProcessingContract}
    {activation : MigrationRebuildContractActivation}
    (done : (activateMigrationRebuildContract contract now).run s = .ok activation t) :
    (activation.commits = false ∧ t = s) ∨
      (activation.commits = true ∧ t.authority.healthState = .ready ∧
        t.authority.committedContractId = some contract.id) := by
  refine (run_transactionIf_cases done).imp_right fun ⟨keeps, done⟩ => ⟨keeps, ?_⟩
  obtain ⟨_, r, stored, done⟩ := run_bind_eq_ok.mp done
  rw [run_get_bind] at done
  dsimp only at done
  split at done
  · cases done
    cases keeps
  split at done
  · obtain ⟨_, q, written, done⟩ := run_bind_eq_ok.mp done
    obtain ⟨_, rfl⟩ := run_updateAuthority_eq_ok.mp written
    cases done
    exact ⟨rfl, rfl⟩
  split at done
  · cases done
    cases keeps
  · cases done
    split <;> exact ⟨rfl, rfl⟩

end Transitions

/-! ## Steps and runs -/

theorem TransitionSound.transition {names : TransitionNames} {desired : ImportProcessingContract}
    {now : Int} {outcome : WriterContractTransitionOutcome} (held : TransitionSound s)
    (done : (completeOnlineWriterTransition names desired now).run s = .ok outcome t) :
    TransitionSound t := by
  obtain ⟨_, rfl⟩ | ⟨keeps, transitioned⟩ := completeOnlineWriterTransition_cases held done
  · exact held
  · cases transitioned with
    | synced _ ready _ _ => exact .of_inactive (WriterAuthority.inactive_of_ready ready)
    | refused _ undone =>
      rw [undone] at keeps
      cases keeps
    | inProgress _ _ _ same => exact same ▸ held.congr rfl rfl rfl
    | waiting id waits => exact waits.sound
    | committed r only rest => exact .of_inactive (WriterAuthority.inactive_of_ready rest.ready)

theorem TransitionSound.activate {contract : ImportProcessingContract} {now : Int}
    {outcome : MigrationRebuildContractActivation} (held : TransitionSound s)
    (done : (activateMigrationRebuildContract contract now).run s = .ok outcome t) :
    TransitionSound t := by
  obtain ⟨_, rfl⟩ | ⟨_, ready, _⟩ := activateMigrationRebuildContract_cases done
  · exact held
  · exact .of_inactive (WriterAuthority.inactive_of_ready ready)

theorem TransitionSound.step {names : TransitionNames} {event : ImportEvent}
    (held : TransitionSound s) (step : ImportStep names event s t) : TransitionSound t := by
  cases step with
  | tasks statements =>
    have frame := statements.frame
    exact held.congr (by rw [frame.authority]) (by rw [frame.authority]) frame.transitions
  | purgeTasks _ rest | purgeRoot _ rest | schedulePdf _ _ _ _ _ rest | completePdf _ _ _ _ rest
  | requeuePdf _ _ _ _ rest => exact rest ▸ held.congr rfl rfl rfl
  | transition _ _ _ done => exact held.transition done
  | activate _ _ _ done => exact held.activate done
  | latch f keeps done =>
    obtain ⟨_, rfl⟩ := run_updateAuthority_eq_ok.mp done
    obtain ⟨active, _, committed⟩ := keeps s.authority.toWriterAuthorityColumns
    exact held.congr active committed rfl
  | outside _ rest =>
    exact held.congr (by rw [rest.authority]) (by rw [rest.authority]) rest.transitions

theorem TransitionSound.inductive (names : TransitionNames) :
    (importMachine names).Inductive TransitionSound where
  start := TransitionSound.start
  step held leads := held.step (ImportEvent.step leads)

end ResumeIr.MetaStore
