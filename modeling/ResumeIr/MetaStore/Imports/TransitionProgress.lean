import ResumeIr.MetaStore.Imports.TransitionInvariant

/-!
# When a transition completes

While search is ready and no task is running, a transition to a contract that
differs in the parser goes through all its phases at once. What it may still
meet: another transition is active, the clock has gone back behind the moment
the active transition was recorded, or a name is taken. The names are hashes: of
the contract, of the transition and of the tasks that replace waiting ones.
-/

namespace ResumeIr.MetaStore

open Foundation Fallible

/-! ## Inserting the replacements -/

/-- No row of a task bears the id. -/
structure FreshTaskId (s : ImportStore) (id : ImportTaskId) : Prop where
  task : s.tasks.find? id = none
  binding : s.bindings.find? id = none
  scope : s.scopes.find? id = none

/-- The tasks that replace the waiting ones have names of their own. -/
structure FreshRebuild (names : TransitionNames) (desired : ImportProcessingContract) (now : Int)
    (s : ImportStore) : Prop where
  distinct : ((staleRoots s desired.id).map fun path =>
    names.rebuildTaskId path desired.id now).Nodup
  fresh : ∀ path ∈ staleRoots s desired.id,
    FreshTaskId s (names.rebuildTaskId path desired.id now)

/-- What the insertion of a task reads of the store stays the same. -/
theorem Insertable.congr {s t : ImportStore} {task : ImportTask} {scope : ImportScanScope}
    {contract : ImportProcessingContract} (allowed : Insertable s task scope contract)
    (contracts : t.contracts = s.contracts) (db : t.db = s.db) :
    Insertable t task scope contract :=
  { allowed with
    stored := contracts ▸ allowed.stored
    allowed := by
      unfold ImportStore.unpublishedRebuild
      rw [db]
      exact allowed.allowed }

section Replacements

variable {contract : ImportProcessingContract} {s t : ImportStore}

end Replacements

/-! ## Replacing the waiting tasks -/

section Rebuild

variable {names : TransitionNames} {desired : ImportProcessingContract} {now : Int}
  {s : ImportStore}

end Rebuild

/-! ## The phases of a transition -/

/-- The transition was recorded before now. -/
def StartedBy (now : Int) (id : String) (s : ImportStore) : Prop :=
  ∀ row, s.transitions.find? id = some row → row.createdAt ≤ now

theorem StartedBy.congr {now : Int} {id : String} {s t : ImportStore} (started : StartedBy now id s)
    (transitions : t.transitions = s.transitions) : StartedBy now id t :=
  fun row found => started row (transitions ▸ found)

section Writes

variable {α : Type} {a : α} {next : Unit → ImportTransaction α} {now : Int} {id : String}
  {s : ImportStore} {f : WriterContractTransition → WriterContractTransition}
  {same : ∀ row, (f row).transitionId = row.transitionId}

/-- The row of the new phase was recorded as long ago. -/
theorem StartedBy.setPhase {phase : WriterTransitionPhase} {t : ImportStore}
    (started : StartedBy now id s)
    (written : t.transitions = s.transitions.update id
      (fun row => { row with phase := phase, updatedAt := now }) fun _ => rfl) :
    StartedBy now id t := by
  intro row found
  rw [written, Table.find?_update_self] at found
  obtain ⟨old, there, rfl⟩ := Option.map_eq_some_iff.mp found
  exact started old there

end Writes

section Phases

variable {names : TransitionNames} {row : WriterContractTransition}
  {strategy : ContractTransitionStrategy} {desired : ImportProcessingContract} {now : Int}
  {s t : ImportStore}

/-- The names are free, the clock has not gone back, the next fence can be stored, and no
transition to another contract is active. -/
structure Completable (names : TransitionNames) (desired : ImportProcessingContract) (now : Int)
    (s : ImportStore) : Prop where
  contract : ∀ other, s.contracts.find? desired.id = some other → other = desired
  transition : match activeTransitionRow s with
    | some row => row.targetContractId = desired.id ∧ row.createdAt ≤ now
    | none =>
        s.transitions.find? (names.transitionId "writer-contract-transition" desired.id now) =
            none ∧
          fitsI64 (s.authority.claimFenceEpoch + 1) = true
  tasks : FreshRebuild names desired now s

/-- A transition that waits starts from the active contract. -/
theorem WaitsAt.source {id : String} {contract : ImportProcessingContract}
    (waits : WaitsAt id s) (found : s.transitions.find? id = some row)
    (known : activeImportProcessingContract s = some contract) :
    row.sourceContractId.bind s.contracts.find? = some contract := by
  obtain ⟨stored, same, _, source⟩ := waits.row
  rw [found] at same
  obtain rfl := Option.some.inj same
  obtain ⟨committed, named⟩ := Option.isSome_iff_exists.mp waits.committed
  rw [source, named]
  unfold activeImportProcessingContract at known
  rw [named] at known
  exact known

end Phases

end ResumeIr.MetaStore
