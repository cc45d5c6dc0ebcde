import ResumeIr.SearchRuntime.CoordinatorRuns

/-!
# Which queries on a valid head are answered

A head is valid for a call when the leases are granted, the head and its audited
projection can be read, and both its artifacts open and validate. A lexical
query on a valid head is always answered when nothing is pending.

A composite query is answered exactly when its two readers are current together
or stale together. When one of them alone is current, the refresh drops both and
opens only the stale one; the query then fails with an integrity error, and the
reader left behind is the other one, so the next composite query fails in the
same way.

One reader alone comes about in two ways: a lexical query opens the full-text
reader, or a composite query opens the full-text artifact and then fails to
open the vector artifact (`after_paired_iff`). In runs without such calls every
query on a valid head is answered.
-/

namespace ResumeIr.SearchRuntime

open CoreDomain MetaStore IndexVector
open Foundation Fallible

/-- The head of a call is valid, and its publication has the given key. -/
structure ValidHead (env : Surroundings) (head : SearchMetadataHead) (key : CacheKey)
    (projections : List ActiveSearchProjection) : Prop where
  fulltextLease : env.fulltextLease = true
  vectorLease : env.vectorLease = true
  readyHead : env.readyHead = .ok head
  keyed : cacheKey head.publication = .ok key
  audited : env.validatedActiveProjections = some projections
  fulltextOpens : ∃ fulltext, validateFulltextGeneration env head key projections = .ok fulltext
  vectorOpens : ∃ vector, validateVectorGeneration env head key projections = .ok vector
  commits : env.commits = true

section ValidHead

variable {env : Surroundings} {head : SearchMetadataHead} {key : CacheKey}
  {projections : List ActiveSearchProjection} {c : QueryCoordinator}

theorem adoptReadyHead_of_idle (read : env.readyHead = .ok head)
    (keyed : cacheKey head.publication = .ok key) (idle : c.pendingGeneration = none) :
    (adoptReadyHead env).run c = .ok (head, key) c := by
  simp [adoptReadyHead, adoptPendingGeneration, read, keyed, idle]

/-- With nothing pending a composite query on a valid head refreshes the readers
it has and hands them out. -/
theorem ValidHead.openQueryScope_eq (valid : ValidHead env head key projections)
    (idle : c.pendingGeneration = none) :
    (openQueryScope env).run c =
      (refreshReaders env head key >>= fun _ => handReaders head).run c := by
  simp [openQueryScope, valid.fulltextLease, valid.vectorLease,
    adoptReadyHead_of_idle valid.readyHead valid.keyed idle]

theorem ValidHead.openLexicalQueryScope_eq (valid : ValidHead env head key projections)
    (idle : c.pendingGeneration = none) :
    (openLexicalQueryScope env).run c =
      (refreshFulltext env head key >>= fun _ => handFulltext head).run c := by
  simp [openLexicalQueryScope, valid.fulltextLease,
    adoptReadyHead_of_idle valid.readyHead valid.keyed idle]

/-- Opening the changed readers when both artifacts open. -/
theorem reopenChanged_of_opens {fulltext : ValidatedFullTextGeneration}
    {vector : ValidatedVectorGeneration}
    (fulltextOpens : validateFulltextGeneration env head key projections = .ok fulltext)
    (vectorOpens : validateVectorGeneration env head key projections = .ok vector)
    (fulltextChanged vectorChanged : Bool) :
    (reopenChanged env head key projections fulltextChanged vectorChanged).run c =
      .ok () { c with
        fulltextCache := if fulltextChanged then some fulltext else none
        vectorCache := if vectorChanged then some vector else none } := by
  cases fulltextChanged <;> cases vectorChanged <;>
    simp [reopenChanged, clearReaders, reopenFulltext, reopenVector, fulltextOpens, vectorOpens]

/-- After a refresh for a valid head exactly the stale readers are current. -/
theorem ValidHead.refreshReaders_stale (valid : ValidHead env head key projections)
    (stale : ¬ (fulltextMatches key c = true ∧ vectorMatches key c = true)) :
    ∃ d, (refreshReaders env head key).run c = .ok () d ∧
      d.fulltextCache.isSome = !fulltextMatches key c ∧
      d.vectorCache.isSome = !vectorMatches key c ∧
      d.pendingGeneration = c.pendingGeneration := by
  obtain ⟨fulltext, fulltextOpens⟩ := valid.fulltextOpens
  obtain ⟨vector, vectorOpens⟩ := valid.vectorOpens
  have opened : (refreshReaders env head key).run c =
      (reopenChanged env head key projections
        (!fulltextMatches key c) (!vectorMatches key c)).run c := by
    rw [not_and_or, Bool.not_eq_true, Bool.not_eq_true] at stale
    simp [refreshReaders, stale, valid.audited]
  rw [opened, reopenChanged_of_opens fulltextOpens vectorOpens]
  refine ⟨_, rfl, ?_, ?_, rfl⟩
  · cases fulltextMatches key c <;> rfl
  · cases vectorMatches key c <;> rfl

/-- The two readers are current together or stale together. -/
def CurrentTogether (key : CacheKey) (c : QueryCoordinator) : Prop :=
  fulltextMatches key c = vectorMatches key c

instance (key : CacheKey) (c : QueryCoordinator) : Decidable (CurrentTogether key c) :=
  inferInstanceAs (Decidable (_ = _))

/-- A composite query on a valid head is answered when its readers are current
together or stale together. -/
theorem ValidHead.composite_answered (valid : ValidHead env head key projections)
    (idle : c.pendingGeneration = none) (together : CurrentTogether key c) :
    ∃ scope, InvokesComposite env c scope := by
  have answered : ∃ d fulltext vector, (refreshReaders env head key).run c = .ok () d ∧
      d.fulltextCache = some fulltext ∧ d.vectorCache = some vector := by
    cases current : fulltextMatches key c with
    | true =>
      have vectorCurrent : vectorMatches key c = true := together.symm.trans current
      obtain ⟨fulltext, hf, _⟩ := fulltextMatches_iff.mp current
      obtain ⟨vector, hv, _⟩ := vectorMatches_iff.mp vectorCurrent
      exact ⟨c, fulltext, vector, by simp [refreshReaders, current, vectorCurrent], hf, hv⟩
    | false =>
      have vectorStale : vectorMatches key c = false := together.symm.trans current
      obtain ⟨d, done, hf, hv, _⟩ := valid.refreshReaders_stale (c := c) (by simp [current])
      rw [current] at hf
      rw [vectorStale] at hv
      obtain ⟨fulltext, hf⟩ := Option.isSome_iff_exists.mp hf
      obtain ⟨vector, hv⟩ := Option.isSome_iff_exists.mp hv
      exact ⟨d, fulltext, vector, done, hf, hv⟩
  obtain ⟨d, fulltext, vector, done, hf, hv⟩ := answered
  refine ⟨⟨head, fulltext, vector⟩, d, ?_⟩
  rw [valid.openQueryScope_eq idle, run_bind_of_ok done, handReaders_ok]
  exact ⟨rfl, rfl, hf, hv⟩

theorem AllKeyed.fulltextMatches_eq (keyed : AllKeyed key c) :
    fulltextMatches key c = c.fulltextCache.isSome := by
  cases found : c.fulltextCache with
  | none => simp [fulltextMatches, found]
  | some cached => simp [fulltextMatches, found, keyed.fulltext cached found]

theorem AllKeyed.vectorMatches_eq (keyed : AllKeyed key c) :
    vectorMatches key c = c.vectorCache.isSome := by
  cases found : c.vectorCache with
  | none => simp [vectorMatches, found]
  | some cached => simp [vectorMatches, found, keyed.vector cached found]

/-- When one reader alone is current, a composite query on a valid head fails
with an integrity error, and the other reader alone is current afterwards. -/
theorem ValidHead.composite_refused (valid : ValidHead env head key projections)
    (idle : c.pendingGeneration = none) (apart : ¬ CurrentTogether key c) :
    ∃ d, (openQueryScope env).run c = .error .integrity d ∧ d.pendingGeneration = none ∧
      ¬ CurrentTogether key d := by
  have stale : ¬ (fulltextMatches key c = true ∧ vectorMatches key c = true) := fun both =>
    apart (both.1.trans both.2.symm)
  obtain ⟨d, done, hf, hv, pending⟩ := valid.refreshReaders_stale stale
  have keyed := refreshReaders_ok_keyed done
  have swapped : ¬ CurrentTogether key d := by
    unfold CurrentTogether at apart ⊢
    rw [keyed.fulltextMatches_eq, keyed.vectorMatches_eq, hf, hv]
    simpa using apart
  refine ⟨d, ?_, pending.trans idle, swapped⟩
  rw [valid.openQueryScope_eq idle, run_bind_of_ok done]
  unfold CurrentTogether at swapped
  rw [keyed.fulltextMatches_eq, keyed.vectorMatches_eq] at swapped
  cases fulltextFound : d.fulltextCache with
  | none => simp [handReaders, fulltextFound]
  | some fulltext =>
    cases vectorFound : d.vectorCache with
    | none => simp [handReaders, fulltextFound, vectorFound]
    | some vector => simp [fulltextFound, vectorFound] at swapped

/-- A lexical query on a valid head is answered. -/
theorem ValidHead.lexical_answer (valid : ValidHead env head key projections)
    (idle : c.pendingGeneration = none) : ∃ scope, InvokesLexical env c scope := by
  obtain ⟨fulltext, fulltextOpens⟩ := valid.fulltextOpens
  cases current : fulltextMatches key c with
  | true =>
    obtain ⟨cached, found, _⟩ := fulltextMatches_iff.mp current
    have refreshed : (refreshFulltext env head key).run c = .ok () c := by
      simp [refreshFulltext, current]
    refine ⟨⟨head, cached⟩, c, ?_⟩
    rw [valid.openLexicalQueryScope_eq idle, run_bind_of_ok refreshed, handFulltext_ok]
    exact ⟨rfl, rfl, found⟩
  | false =>
    have refreshed : (refreshFulltext env head key).run c =
        .ok () { c with fulltextCache := some fulltext, vectorCache := none } := by
      simp [refreshFulltext, current, valid.audited, clearReaders, reopenFulltext, fulltextOpens]
    have handed : (openLexicalQueryScope env).run c = (handFulltext head).run
        { c with fulltextCache := some fulltext, vectorCache := none } := by
      rw [valid.openLexicalQueryScope_eq idle, run_bind_of_ok refreshed]
    exact ⟨⟨head, fulltext⟩, _, handed.trans (handFulltext_ok.mpr ⟨rfl, rfl, rfl⟩)⟩

end ValidHead

/-! ## How one reader comes to stand alone -/

/-- Both readers are resident or neither is. -/
def Paired (c : QueryCoordinator) : Prop :=
  c.fulltextCache.isSome = c.vectorCache.isSome

theorem Paired.currentTogether {c : QueryCoordinator} (paired : Paired c) (same : SameKey c)
    (key : CacheKey) : CurrentTogether key c := by
  unfold Paired at paired
  unfold CurrentTogether fulltextMatches vectorMatches
  cases hf : c.fulltextCache with
  | none =>
    cases hv : c.vectorCache with
    | none => rfl
    | some vector =>
      rw [hf, hv] at paired
      cases paired
  | some fulltext =>
    rw [hf] at paired
    obtain ⟨vector, hv⟩ := Option.isSome_iff_exists.mp paired.symm
    rw [hv, Option.any_some, Option.any_some, same fulltext vector hf hv]

/-- The call opens the full-text reader and no vector reader beside it. With
nothing pending and a stale full-text reader, every lexical query that succeeds
in opening does so, and so does a composite query whose vector artifact fails. -/
def OpensAlone (c : QueryCoordinator) : Event → Prop
  | .withQuery env => ∃ head key projections,
      env.fulltextLease = true ∧ env.vectorLease = true ∧ env.readyHead = .ok head ∧
      cacheKey head.publication = .ok key ∧ c.pendingGeneration = none ∧
      fulltextMatches key c = false ∧ env.validatedActiveProjections = some projections ∧
      (∃ fulltext, validateFulltextGeneration env head key projections = .ok fulltext) ∧
      ∃ error, validateVectorGeneration env head key projections = .error error
  | .withLexicalQuery env => ∃ head key projections,
      env.fulltextLease = true ∧ env.readyHead = .ok head ∧
      cacheKey head.publication = .ok key ∧ c.pendingGeneration = none ∧
      fulltextMatches key c = false ∧ env.validatedActiveProjections = some projections ∧
      ∃ fulltext, validateFulltextGeneration env head key projections = .ok fulltext
  | _ => False

section Openings

variable {env : Surroundings} {head : SearchMetadataHead} {key : CacheKey}
  {projections : List ActiveSearchProjection} {c d : QueryCoordinator}

theorem run_recordGenerationError (error : GenerationValidationError) :
    ∃ reported fault, (recordGenerationError error : Call Unit).run c =
      .error reported { c with pendingArtifactFault := fault } := by
  cases error with
  | metadata reported => exact ⟨reported, c.pendingArtifactFault, rfl⟩
  | artifact faultKey reported => exact ⟨reported, some faultKey, rfl⟩

theorem reopenFulltext_fails {error : GenerationValidationError}
    (fails : validateFulltextGeneration env head key projections = .error error) :
    ∃ reported fault, (reopenFulltext env head key projections).run c =
      .error reported { c with pendingArtifactFault := fault } := by
  unfold reopenFulltext
  rw [fails]
  exact run_recordGenerationError error

/-- Opening both readers leaves the full-text reader alone exactly when its own
artifact opens and the vector artifact does not. -/
theorem reopenChanged_both_paired :
    Paired (final (reopenChanged env head key projections true true) c) ↔
      ¬ ((∃ fulltext, validateFulltextGeneration env head key projections = .ok fulltext) ∧
        ∃ error, validateVectorGeneration env head key projections = .error error) := by
  cases fulltextOpens : validateFulltextGeneration env head key projections with
  | error error =>
    obtain ⟨reported, fault, failed⟩ := reopenFulltext_fails (c := final clearReaders c)
      fulltextOpens
    have stopped : (reopenChanged env head key projections true true).run c =
        .error reported { final clearReaders c with pendingArtifactFault := fault } := by
      unfold reopenChanged
      rw [run_bind_of_ok (show clearReaders.run c = .ok () (final clearReaders c) from rfl)]
      exact run_bind_of_error failed
    rw [final_of_error stopped]
    simp [Paired, clearReaders]
  | ok fulltext =>
    cases vectorOpens : validateVectorGeneration env head key projections with
    | ok vector =>
      rw [final_of_ok (reopenChanged_of_opens fulltextOpens vectorOpens true true)]
      simp [Paired]
    | error error =>
      obtain ⟨reported, fault, failed⟩ := run_recordGenerationError
        (c := { c with fulltextCache := some fulltext, vectorCache := none }) error
      have stopped : (reopenChanged env head key projections true true).run c =
          .error reported { c with
            fulltextCache := some fulltext
            vectorCache := none
            pendingArtifactFault := fault } := by
        simp only [reopenChanged, reopenFulltext, fulltextOpens, reopenVector, vectorOpens]
        exact failed
      rw [final_of_error stopped]
      simp [Paired]

/-- A refresh of a stale full-text reader alone drops the vector reader, so it
leaves a pair only when it fails. -/
theorem refreshFulltext_stale_paired (stale : fulltextMatches key c = false) :
    Paired (final (refreshFulltext env head key) c) ↔
      ¬ ∃ projections, env.validatedActiveProjections = some projections ∧
        ∃ fulltext, validateFulltextGeneration env head key projections = .ok fulltext := by
  have started : (refreshFulltext env head key).run c =
      (demand env.validatedActiveProjections .integrity >>= fun projections =>
        reopenFulltext env head key projections).run (final clearReaders c) := by
    simp only [refreshFulltext, EStateM.run_bind, EStateM.run_get, stale]
    rfl
  rw [final, started]
  cases audited : env.validatedActiveProjections with
  | none => simp [Paired, clearReaders]
  | some projections =>
    cases opens : validateFulltextGeneration env head key projections with
    | ok fulltext =>
      have done : (reopenFulltext env head key projections).run (final clearReaders c) =
          .ok () { final clearReaders c with fulltextCache := some fulltext } := by
        simp [reopenFulltext, opens]
      rw [run_bind_of_ok (run_demand_some _ _ _), done]
      simp [Paired, clearReaders, opens]
    | error error =>
      obtain ⟨reported, fault, failed⟩ := reopenFulltext_fails (c := final clearReaders c) opens
      rw [run_bind_of_ok (run_demand_some _ _ _), failed]
      simp [Paired, clearReaders, opens]

/-- A stale full-text reader in a coordinator that just adopted means that there
was nothing to adopt. -/
theorem Adopts.eq_of_stale (adopts : Adopts key c d)
    (stale : fulltextMatches key d = false ∨ vectorMatches key d = false) :
    d = c ∧ c.pendingGeneration = none := by
  rcases adopts with ⟨rfl, idle | current⟩ | ⟨prepared, _, same, rfl⟩
  · exact ⟨rfl, idle⟩
  · simp [current] at stale
  · have sameVector : prepared.vector.key = key := prepared.sameKey.symm.trans same
    simp [fulltextMatches, vectorMatches, QueryCoordinator.adopting, same, sameVector] at stale

theorem Arranges.paired (arranges : Arranges c d) (paired : Paired c) : Paired d := by
  rcases arranges with ⟨hf, hv⟩ | ⟨e, prepared, rfl⟩
  · rwa [Paired, hf, hv]
  · rfl

end Openings

/-- A composite query keeps the readers paired unless it opens the full-text
reader alone. -/
theorem withQuery_paired_iff {c : QueryCoordinator} (paired : Paired c) (same : SameKey c)
    (env : Surroundings) :
    Paired (c.after (.withQuery env)) ↔ ¬ OpensAlone c (.withQuery env) := by
  constructor
  · rintro after ⟨head, key, projections, hf, hv, read, keyed, idle, stale, audited, opens⟩
    have vectorStale : vectorMatches key c = false :=
      (paired.currentTogether same key).symm.trans stale
    have opened : (openQueryScope env).run c =
        (refreshReaders env head key >>= fun _ => handReaders head).run c := by
      simp [openQueryScope, hf, hv, adoptReadyHead_of_idle read keyed idle]
    have reopened : (refreshReaders env head key).run c =
        (reopenChanged env head key projections true true).run c := by
      simp [refreshReaders, stale, vectorStale, audited]
    rw [after_withQuery opened, final, reopened] at after
    rw [← final, reopenChanged_both_paired] at after
    exact after opens
  · intro opensPair
    rcases openQueryScope_cases env c with
      ⟨_, failed⟩ | ⟨head, key, d, leases, read, keyed, adopts, opened⟩
    · rw [QueryCoordinator.after, final_of_error failed]
      exact paired
    · rw [after_withQuery opened]
      have pairedAdopted := adopts.arranges.paired paired
      rcases refreshReaders_cases env head key d with
        ⟨_, _, done⟩ | failed | ⟨projections, audited, reopened⟩
      · rwa [final_of_ok done]
      · rwa [final_of_error failed]
      · rw [final, reopened]
        have together := pairedAdopted.currentTogether (adopts.arranges.sameKey same) key
        cases stale : fulltextMatches key d with
        | true =>
          rw [show vectorMatches key d = true from together.symm.trans stale]
          rfl
        | false =>
          obtain ⟨rfl, idle⟩ := adopts.eq_of_stale (.inl stale)
          rw [show vectorMatches key d = false from together.symm.trans stale]
          refine reopenChanged_both_paired.mpr fun opens => opensPair ?_
          exact ⟨head, key, projections, leases.1, leases.2, read, keyed, idle, stale, audited,
            opens⟩

/-- A lexical query keeps the readers paired unless it opens the full-text
reader. -/
theorem withLexicalQuery_paired_iff {c : QueryCoordinator} (paired : Paired c)
    (env : Surroundings) :
    Paired (c.after (.withLexicalQuery env)) ↔ ¬ OpensAlone c (.withLexicalQuery env) := by
  constructor
  · rintro after ⟨head, key, projections, hf, read, keyed, idle, stale, audited, opens⟩
    have opened : (openLexicalQueryScope env).run c =
        (refreshFulltext env head key >>= fun _ => handFulltext head).run c := by
      simp [openLexicalQueryScope, hf, adoptReadyHead_of_idle read keyed idle]
    rw [after_withLexicalQuery opened, refreshFulltext_stale_paired stale] at after
    exact after ⟨projections, audited, opens⟩
  · intro opensPair
    rcases openLexicalQueryScope_cases env c with
      ⟨_, failed⟩ | ⟨head, key, d, lease, read, keyed, adopts, opened⟩
    · rw [QueryCoordinator.after, final_of_error failed]
      exact paired
    · rw [after_withLexicalQuery opened]
      cases stale : fulltextMatches key d with
      | true =>
        have unchanged : (refreshFulltext env head key).run d = .ok () d := by
          simp [refreshFulltext, stale]
        rw [final_of_ok unchanged]
        exact adopts.arranges.paired paired
      | false =>
        obtain ⟨rfl, idle⟩ := adopts.eq_of_stale (.inl stale)
        refine (refreshFulltext_stale_paired stale).mpr fun opens => opensPair ?_
        obtain ⟨projections, audited, opens⟩ := opens
        exact ⟨head, key, projections, lease, read, keyed, idle, stale, audited, opens⟩

/-- **The calls that separate the readers.** From paired readers, a call leaves
paired readers exactly when it does not open the full-text reader alone. -/
theorem after_paired_iff {c : QueryCoordinator} (paired : Paired c) (same : SameKey c)
    (event : Event) : Paired (c.after event) ↔ ¬ OpensAlone c event := by
  cases event with
  | withQuery env => exact withQuery_paired_iff paired same env
  | withLexicalQuery env => exact withLexicalQuery_paired_iff paired env
  | _ => exact ⟨fun _ opens => opens, fun _ => (after_arranges rfl).paired paired⟩

/-- The runs in which no call opens the full-text reader alone. -/
def pairedMachine (dataDir : String) : Machine QueryCoordinator Event :=
  (coordinatorMachine dataDir).restrict fun c event => ¬ OpensAlone c event

theorem paired_inductive (dataDir : String) :
    (pairedMachine dataDir).Inductive fun c => SameKey c ∧ Paired c where
  start := by
    rintro c rfl
    exact ⟨(sameKey_inductive dataDir).start rfl, rfl⟩
  step := by
    rintro c event d ⟨same, paired⟩ ⟨opensPair, rfl⟩
    exact ⟨after_sameKey same event, (after_paired_iff paired same event).mpr opensPair⟩

/-! ## Answers on a valid head -/

/-- Once one reader alone is current, composite queries on that head fail again
and again. -/
theorem composite_refused_repeatedly {env : Surroundings} {head : SearchMetadataHead}
    {key : CacheKey} {projections : List ActiveSearchProjection}
    (valid : ValidHead env head key projections) (n : Nat) :
    ∀ {c : QueryCoordinator}, c.pendingGeneration = none → ¬ CurrentTogether key c →
      ∃ d, (openQueryScope env).run ((fun e => e.after (.withQuery env))^[n] c) =
        .error .integrity d := by
  induction n with
  | zero =>
    intro c idle apart
    obtain ⟨d, failed, _⟩ := valid.composite_refused idle apart
    exact ⟨d, failed⟩
  | succ n ih =>
    intro c idle apart
    obtain ⟨d, failed, stillIdle, stillApart⟩ := valid.composite_refused idle apart
    rw [Function.iterate_succ_apply, QueryCoordinator.after, final_of_error failed]
    exact ih stillIdle stillApart

/-- **Which queries on a valid head are answered.** With nothing pending, a
lexical query is always answered. A composite query is answered exactly when its
readers are current together, and fails with an integrity error otherwise. In
the runs in which no call opens the full-text reader alone every query on a
valid head is answered, and a call that does so is what ends such a run. -/
theorem composite_query_runs_iff (dataDir : String) :
    (∀ c env head key projections, (coordinatorMachine dataDir).Reachable c →
        c.pendingGeneration = none → ValidHead env head key projections →
        (∃ scope, InvokesLexical env c scope) ∧
          ((∃ scope, InvokesComposite env c scope) ↔ CurrentTogether key c) ∧
          (¬ CurrentTogether key c → ∃ d, (openQueryScope env).run c = .error .integrity d)) ∧
      (∀ c env head key projections, (pairedMachine dataDir).Reachable c →
        c.pendingGeneration = none → ValidHead env head key projections →
        (∃ scope, InvokesLexical env c scope) ∧ ∃ scope, InvokesComposite env c scope) ∧
      ∀ c event, (pairedMachine dataDir).Reachable c →
        (Paired (c.after event) ↔ ¬ OpensAlone c event) := by
  refine ⟨?_, ?_, ?_⟩
  · intro c env head key projections _ idle valid
    refine ⟨valid.lexical_answer idle, ⟨?_, valid.composite_answered idle⟩, fun apart => ?_⟩
    · rintro ⟨scope, d, opened⟩
      by_contra apart
      obtain ⟨e, failed, _⟩ := valid.composite_refused idle apart
      rw [failed] at opened
      cases opened
    · obtain ⟨d, failed, _⟩ := valid.composite_refused idle apart
      exact ⟨d, failed⟩
  · intro c env head key projections reachable idle valid
    obtain ⟨same, paired⟩ := (paired_inductive dataDir).holds reachable
    exact ⟨valid.lexical_answer idle,
      valid.composite_answered idle (paired.currentTogether same key)⟩
  · intro c event reachable
    obtain ⟨same, paired⟩ := (paired_inductive dataDir).holds reachable
    exact after_paired_iff paired same event

theorem emptyCorpus_valid : ValidHead emptyCorpus emptyCorpusHead ⟨"g1", ⟨"f"⟩⟩ [] where
  fulltextLease := rfl
  vectorLease := rfl
  readyHead := rfl
  keyed := rfl
  audited := rfl
  fulltextOpens := ⟨_, rfl⟩
  vectorOpens := ⟨_, rfl⟩
  commits := rfl

/-- A composite query on a valid head opens both readers. -/
theorem ValidHead.not_opensAlone {env : Surroundings} {head : SearchMetadataHead} {key : CacheKey}
    {projections : List ActiveSearchProjection} (valid : ValidHead env head key projections)
    (c : QueryCoordinator) : ¬ OpensAlone c (.withQuery env) := by
  rintro ⟨_, _, _, _, _, read, keyed, _, _, audited, _, error, fails⟩
  obtain rfl := Except.ok.inj (valid.readyHead.symm.trans read)
  obtain rfl := Except.ok.inj (valid.keyed.symm.trans keyed)
  obtain rfl := Option.some.inj (valid.audited.symm.trans audited)
  obtain ⟨vector, opens⟩ := valid.vectorOpens
  rw [opens] at fails
  cases fails

/-- The head after the first document is published. -/
def oneDocumentHead : SearchMetadataHead where
  generation := "g2"
  visibleEpoch := 2
  publication :=
    { emptyCorpusHead.publication with
      generation := "g2"
      baseGeneration := some "g1"
      expectedVisibleEpoch := 1
      publicationFingerprint := some ⟨"f2"⟩
      fulltext := some ⟨"g2", 1, ⟨⟨"p2"⟩⟩, ⟨"t2"⟩⟩
      vector := some ⟨"g2", .disabled, 1, ⟨⟨"p2"⟩⟩, ⟨⟨"p"⟩⟩, 0, 0, 0, ⟨"v2"⟩⟩ }
  named := rfl
  ready := rfl
  epoch := rfl

def sampleProjection : ActiveSearchProjection :=
  ⟨⟨"doc_00000000000000000000000000000001", Eq.refl true⟩,
    ⟨"ver_00000000000000000000000000000001", Eq.refl true⟩⟩

def oneDocument : Surroundings :=
  { emptyCorpus with
    readyHead := .ok oneDocumentHead
    validatedActiveProjections := some [sampleProjection]
    openFulltext _ := .ok (some ⟨some ⟨"g2", 1, ⟨⟨"p2"⟩⟩, ⟨"t2"⟩⟩,
      some [(sampleProjection.documentId.asStr, sampleProjection.resumeVersionId.asStr)]⟩)
    openVector _ _ :=
      some ⟨⟨"g2", .disabled, 1, 0, 0, ⟨⟨"p2"⟩⟩, ⟨⟨"p"⟩⟩, ⟨"v2"⟩⟩, [sampleProjection]⟩ }

/-- The head moves between two composite queries. -/
theorem composite_query_runs_after_moved_head :
    (∃ scope, InvokesComposite emptyCorpus (.opened "data") scope) ∧
      ∃ scope, InvokesComposite oneDocument
        ((QueryCoordinator.opened "data").after (.withQuery emptyCorpus)) scope := by
  have cold : (pairedMachine "data").Reachable (.opened "data") := .start rfl
  have taken : (pairedMachine "data").step (.opened "data") (.withQuery emptyCorpus)
      ((QueryCoordinator.opened "data").after (.withQuery emptyCorpus)) :=
    ⟨emptyCorpus_valid.not_opensAlone _, rfl⟩
  have valid : ValidHead oneDocument oneDocumentHead ⟨"g2", ⟨"f2"⟩⟩ [sampleProjection] :=
    ⟨rfl, rfl, rfl, rfl, rfl, ⟨_, rfl⟩, ⟨_, rfl⟩, rfl⟩
  obtain ⟨_, answered, _⟩ := composite_query_runs_iff "data"
  exact ⟨(answered _ _ _ _ _ cold rfl emptyCorpus_valid).2,
    (answered _ _ _ _ _ (cold.next taken) rfl valid).2⟩

/-- A lexical query on a cold coordinator is answered. The composite query after
it, on the same valid head, fails with an integrity error, and so does the next
one. -/
theorem lexical_then_composite_fails :
    (∃ scope, InvokesLexical emptyCorpus (.opened "data") scope) ∧
      ∃ c d e, c = (QueryCoordinator.opened "data").after (.withLexicalQuery emptyCorpus) ∧
        c.pendingGeneration = none ∧ ValidHead emptyCorpus emptyCorpusHead ⟨"g1", ⟨"f"⟩⟩ [] ∧
        (openQueryScope emptyCorpus).run c = .error .integrity d ∧
        (openQueryScope emptyCorpus).run d = .error .integrity e :=
  ⟨⟨_, _, rfl⟩, _, _, _, rfl, rfl, emptyCorpus_valid, rfl, rfl⟩

theorem composite_refused_after_lexical :
    ∃ d, (openQueryScope emptyCorpus).run ((fun e => e.after (.withQuery emptyCorpus))^[7]
      ((QueryCoordinator.opened "data").after (.withLexicalQuery emptyCorpus))) =
        .error .integrity d :=
  composite_refused_repeatedly emptyCorpus_valid 7 rfl (by decide)

end ResumeIr.SearchRuntime
