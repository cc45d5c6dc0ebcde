import ResumeIr.Foundation.Machine
import ResumeIr.SearchRuntime.Coordinator

/-!
# Runs of the query coordinator

A run is any sequence of calls, each with its own surroundings: the head may
move between calls, and opening an artifact may succeed or fail in any of them.

Two facts hold in every reachable state whatever the surroundings were. Readers
resident side by side serve one publication, and at most two generations are
resident. An operation is therefore only ever handed readers of the head that
its own snapshot read (`handed_readers_serve_the_head`).
-/

namespace ResumeIr.SearchRuntime

open CoreDomain MetaStore IndexVector
open Foundation Fallible

/-! ## The machine -/

/-- One call, with what it finds around it. -/
inductive Event where
  | prepareCurrentGeneration (env : Surroundings)
  | installPreparedGeneration (prepared : PreparedQueryGeneration)
  | activatePreparedGeneration (env : Surroundings)
  | discardPreparedGeneration
  | takeArtifactFault
  | withQuery (env : Surroundings)
  | withLexicalQuery (env : Surroundings)

/-- The coordinator after a call. The operation of a query sees the readers but
cannot change them, so only the part before it matters. -/
def QueryCoordinator.after (c : QueryCoordinator) : Event → QueryCoordinator
  | .prepareCurrentGeneration env => final (SearchRuntime.prepareCurrentGeneration env) c
  | .installPreparedGeneration prepared =>
      final (SearchRuntime.installPreparedGeneration prepared) c
  | .activatePreparedGeneration env => final (SearchRuntime.activatePreparedGeneration env) c
  | .discardPreparedGeneration => final SearchRuntime.discardPreparedGeneration c
  | .takeArtifactFault => final SearchRuntime.takeArtifactFault c
  | .withQuery env => final (openQueryScope env) c
  | .withLexicalQuery env => final (openLexicalQueryScope env) c

/-- The coordinators of one data directory and their calls. -/
def coordinatorMachine (dataDir : String) : Machine QueryCoordinator Event where
  start c := c = .opened dataDir
  step c event d := d = c.after event

variable {α : Type} {env : Surroundings} {head : SearchMetadataHead} {key : CacheKey}
  {projections : List ActiveSearchProjection} {c d : QueryCoordinator}

/-- Ending a snapshot never changes the coordinator. -/
@[simp] theorem final_concludeSnapshot (env : Surroundings) (result : Except SearchRuntimeError α)
    (c : QueryCoordinator) : final (concludeSnapshot env result) c = c := by
  unfold concludeSnapshot
  cases result with
  | ok value => dsimp only; split <;> rfl
  | error error => rfl

/-- A query runs its operation on the scope it opened, and the operation leaves
the coordinator alone. -/
theorem final_withQuery (env : Surroundings)
    (operation : QueryScope → Except SearchRuntimeError α) (c : QueryCoordinator) :
    final (withQuery env operation) c = c.after (.withQuery env) :=
  final_bind_of_silent (fun _ d => final_concludeSnapshot env _ d) c

theorem final_withLexicalQuery (env : Surroundings)
    (operation : LexicalQueryScope → Except SearchRuntimeError α) (c : QueryCoordinator) :
    final (withLexicalQuery env operation) c = c.after (.withLexicalQuery env) :=
  final_bind_of_silent (fun _ d => final_concludeSnapshot env _ d) c

/-! ## Keys of the resident readers -/

/-- Every resident reader serves the given publication. -/
structure AllKeyed (key : CacheKey) (c : QueryCoordinator) : Prop where
  fulltext : ∀ cached, c.fulltextCache = some cached → cached.key = key
  vector : ∀ cached, c.vectorCache = some cached → cached.key = key

/-- Readers resident side by side serve one publication. -/
def SameKey (c : QueryCoordinator) : Prop :=
  ∀ fulltext vector, c.fulltextCache = some fulltext → c.vectorCache = some vector →
    fulltext.key = vector.key

theorem AllKeyed.sameKey (keyed : AllKeyed key c) : SameKey c := fun fulltext vector hf hv =>
  (keyed.fulltext fulltext hf).trans (keyed.vector vector hv).symm

theorem fulltextMatches_iff :
    fulltextMatches key c = true ↔ ∃ cached, c.fulltextCache = some cached ∧ cached.key = key := by
  unfold fulltextMatches
  cases c.fulltextCache <;> simp

theorem vectorMatches_iff :
    vectorMatches key c = true ↔ ∃ cached, c.vectorCache = some cached ∧ cached.key = key := by
  unfold vectorMatches
  cases c.vectorCache <;> simp

/-- Two current readers are all the resident readers. -/
theorem AllKeyed.of_matches (hf : fulltextMatches key c = true) (hv : vectorMatches key c = true) :
    AllKeyed key c := by
  obtain ⟨fulltext, cachedFulltext, fulltextKey⟩ := fulltextMatches_iff.mp hf
  obtain ⟨vector, cachedVector, vectorKey⟩ := vectorMatches_iff.mp hv
  constructor
  · intro cached found
    rw [cachedFulltext] at found
    cases found
    exact fulltextKey
  · intro cached found
    rw [cachedVector] at found
    cases found
    exact vectorKey

/-- The coordinator that takes over a prepared pair. -/
def QueryCoordinator.adopting (c : QueryCoordinator) (prepared : PreparedQueryGeneration) :
    QueryCoordinator :=
  { c with
    fulltextCache := some prepared.fulltext
    vectorCache := some prepared.vector
    pendingGeneration := none }

theorem adopting_keyed (c : QueryCoordinator) (prepared : PreparedQueryGeneration) :
    AllKeyed prepared.fulltext.key (c.adopting prepared) where
  fulltext cached found := by cases found; rfl
  vector cached found := by cases found; exact prepared.sameKey.symm

/-! ## What each step of a query does -/

/-- How adoption can change the coordinator: not at all, when nothing is pending
or both readers are current, or by taking over the pending pair of exactly this
publication. -/
def Adopts (key : CacheKey) (c d : QueryCoordinator) : Prop :=
  (d = c ∧ (c.pendingGeneration = none ∨
      fulltextMatches key c = true ∧ vectorMatches key c = true)) ∨
    ∃ prepared, c.pendingGeneration = some prepared ∧ prepared.fulltext.key = key ∧
      d = c.adopting prepared

/-- The readers are those of before, or a prepared pair has taken their place. -/
def Arranges (c d : QueryCoordinator) : Prop :=
  (d.fulltextCache = c.fulltextCache ∧ d.vectorCache = c.vectorCache) ∨
    ∃ (e : QueryCoordinator) (prepared : PreparedQueryGeneration), d = e.adopting prepared

theorem Arranges.sameKey (arranges : Arranges c d) (same : SameKey c) : SameKey d := by
  rcases arranges with ⟨hf, hv⟩ | ⟨e, prepared, rfl⟩
  · unfold SameKey
    rwa [hf, hv]
  · exact (adopting_keyed e prepared).sameKey

theorem Arranges.of_eq (unchanged : d = c) : Arranges c d := by
  subst unchanged
  exact .inl ⟨rfl, rfl⟩

theorem Adopts.arranges (adopts : Adopts key c d) : Arranges c d := by
  rcases adopts with ⟨unchanged, _⟩ | ⟨prepared, _, _, rfl⟩
  · exact .of_eq unchanged
  · exact .inr ⟨c, prepared, rfl⟩

/-- Both readers were dropped, and only readers of the publication opened since. -/
structure Reopened (key : CacheKey) (c d : QueryCoordinator) : Prop where
  keyed : AllKeyed key d
  pending : d.pendingGeneration = c.pendingGeneration

section Steps

variable (env head key projections c)

/-- Adoption succeeds as described, or refuses and changes nothing. -/
theorem adoptPendingGeneration_cases :
    (∃ d, Adopts key c d ∧ (adoptPendingGeneration key).run c = .ok () d) ∨
      (adoptPendingGeneration key).run c = .error .unavailable c := by
  by_cases active : fulltextMatches key c = true ∧ vectorMatches key c = true
  · exact .inl ⟨c, .inl ⟨rfl, .inr active⟩, by simp [adoptPendingGeneration, active]⟩
  · cases pending : c.pendingGeneration with
    | none =>
      exact .inl ⟨c, .inl ⟨rfl, .inl pending⟩,
        by simp [adoptPendingGeneration, pending]⟩
    | some prepared =>
      by_cases same : prepared.fulltext.key = key
      · refine .inl ⟨_, .inr ⟨prepared, pending, same, rfl⟩, ?_⟩
        have sameVector : prepared.vector.key = key := prepared.sameKey.symm.trans same
        simp [adoptPendingGeneration, active, pending, same, sameVector, QueryCoordinator.adopting]
      · simp [adoptPendingGeneration, active, pending, same]

/-- Every query starts by reading the head and adopting for it, or fails and
changes nothing. -/
theorem adoptReadyHead_cases :
    (∃ head key d, env.readyHead = .ok head ∧ cacheKey head.publication = .ok key ∧
        Adopts key c d ∧ (adoptReadyHead env).run c = .ok (head, key) d) ∨
      ∃ error, (adoptReadyHead env).run c = .error error c := by
  cases read : env.readyHead with
  | error error => exact .inr ⟨error, by simp [adoptReadyHead, read]⟩
  | ok head =>
    cases keyed : cacheKey head.publication with
    | error error => exact .inr ⟨error, by simp [adoptReadyHead, read, keyed]⟩
    | ok key =>
      rcases adoptPendingGeneration_cases key c with ⟨d, adopts, done⟩ | failed
      · exact .inl ⟨head, key, d, rfl, keyed, adopts,
          by simp [adoptReadyHead, read, keyed, done]⟩
      · exact .inr ⟨.unavailable, by simp [adoptReadyHead, read, keyed, failed]⟩

theorem recordGenerationError_reopened (error : GenerationValidationError) :
    Preserves (Reopened key c) (recordGenerationError error : Call α) := by
  intro d reopened
  cases error with
  | metadata | artifact => exact ⟨⟨reopened.keyed.fulltext, reopened.keyed.vector⟩, reopened.pending⟩

/-- A reader opened for a publication joins only readers of that publication,
and a failed opening leaves the readers alone. -/
theorem reopenFulltext_reopened :
    Preserves (Reopened key c) (reopenFulltext env head key projections) := by
  intro d reopened
  unfold reopenFulltext
  cases opened : validateFulltextGeneration env head key projections with
  | ok validated =>
    refine ⟨⟨fun cached found => ?_, reopened.keyed.vector⟩, reopened.pending⟩
    cases found
    exact validateFulltextGeneration_key opened
  | error error => exact recordGenerationError_reopened key c error d reopened

theorem reopenVector_reopened :
    Preserves (Reopened key c) (reopenVector env head key projections) := by
  intro d reopened
  unfold reopenVector
  cases opened : validateVectorGeneration env head key projections with
  | ok validated =>
    refine ⟨⟨reopened.keyed.fulltext, fun cached found => ?_⟩, reopened.pending⟩
    cases found
    exact validateVectorGeneration_key opened
  | error error => exact recordGenerationError_reopened key c error d reopened

theorem clearReaders_reopened : Reopened key c (final clearReaders c) :=
  ⟨⟨nofun, nofun⟩, rfl⟩

/-- Whichever readers are opened again, and whether or not that succeeds, only
readers of the publication are left. -/
theorem reopenChanged_reopened (fulltextChanged vectorChanged : Bool) :
    Reopened key c
      (final (reopenChanged env head key projections fulltextChanged vectorChanged) c) := by
  have rest : Preserves (Reopened key c)
      (if vectorChanged then reopenVector env head key projections else pure ()) :=
    .ite (fun _ => reopenVector_reopened env head key projections c) fun _ =>
      .of_final_eq fun _ => rfl
  cases fulltextChanged with
  | false => exact rest _ (clearReaders_reopened key c)
  | true =>
    exact (reopenFulltext_reopened env head key projections c).bind (fun _ => rest) _
      (clearReaders_reopened key c)

/-- A refresh leaves two current readers alone, fails before it changes
anything, or drops both readers and opens the changed ones. -/
theorem refreshReaders_cases :
    (fulltextMatches key c = true ∧ vectorMatches key c = true ∧
        (refreshReaders env head key).run c = .ok () c) ∨
      (refreshReaders env head key).run c = .error .integrity c ∨
      ∃ projections, env.validatedActiveProjections = some projections ∧
        (refreshReaders env head key).run c =
          (reopenChanged env head key projections
            (!fulltextMatches key c) (!vectorMatches key c)).run c := by
  by_cases current : fulltextMatches key c = true ∧ vectorMatches key c = true
  · exact .inl ⟨current.1, current.2, by simp [refreshReaders, current.1, current.2]⟩
  · have changed : fulltextMatches key c = false ∨ vectorMatches key c = false := by
      rwa [not_and_or, Bool.not_eq_true, Bool.not_eq_true] at current
    cases audited : env.validatedActiveProjections with
    | none => exact .inr (.inl (by simp [refreshReaders, changed, audited]))
    | some projections =>
      exact .inr (.inr ⟨projections, rfl, by simp [refreshReaders, changed, audited]⟩)

theorem refreshReaders_final :
    final (refreshReaders env head key) c = c ∨
      Reopened key c (final (refreshReaders env head key) c) := by
  rcases refreshReaders_cases env head key c with ⟨_, _, done⟩ | failed | ⟨projections, _, opened⟩
  · exact .inl (final_of_ok done)
  · exact .inl (final_of_error failed)
  · rw [final, opened]
    exact .inr (reopenChanged_reopened env head key projections c _ _)

/-- The full-text reader is current, or both readers are dropped and only a
reader of the publication is left. -/
theorem refreshFulltext_cases :
    (fulltextMatches key c = true ∧ (refreshFulltext env head key).run c = .ok () c) ∨
      Reopened key c (final (refreshFulltext env head key) c) := by
  cases current : fulltextMatches key c with
  | true => exact .inl ⟨rfl, by simp [refreshFulltext, current]⟩
  | false =>
    refine .inr ?_
    have rest : ∀ audited : Option (List ActiveSearchProjection), Preserves (Reopened key c)
        (demand audited .integrity >>= fun projections =>
          reopenFulltext env head key projections) := fun audited =>
      .bind (.of_final_eq fun _ => final_demand _ _ _) fun projections =>
        reopenFulltext_reopened env head key projections c
    have opened := rest env.validatedActiveProjections _ (clearReaders_reopened key c)
    unfold refreshFulltext
    rw [final_bind_of_ok (EStateM.run_get c)]
    simp only [current]
    exact opened

@[simp] theorem final_handReaders : final (handReaders head) c = c := by
  unfold handReaders
  rw [final_bind_of_ok (EStateM.run_get c), final_bind_of_silent, final_demand]
  intro fulltext d
  rw [final_bind_of_silent, final_demand]
  intro vector e
  rfl

@[simp] theorem final_handFulltext : final (handFulltext head) c = c := by
  unfold handFulltext
  rw [final_bind_of_ok (EStateM.run_get c), final_bind_of_silent, final_demand]
  intro fulltext d
  rfl

end Steps

theorem handReaders_ok {scope : QueryScope} :
    (handReaders head).run c = .ok scope d ↔
      d = c ∧ scope.head = head ∧ c.fulltextCache = some scope.fulltext ∧
        c.vectorCache = some scope.vector := by
  simp only [handReaders, run_get_bind, run_demand_bind_eq_ok]
  constructor
  · rintro ⟨fulltext, hf, vector, hv, ⟨⟩⟩
    exact ⟨rfl, rfl, hf, hv⟩
  · rintro ⟨rfl, rfl, hf, hv⟩
    exact ⟨_, hf, _, hv, rfl⟩

theorem handFulltext_ok {scope : LexicalQueryScope} :
    (handFulltext head).run c = .ok scope d ↔
      d = c ∧ scope.head = head ∧ c.fulltextCache = some scope.fulltext := by
  simp only [handFulltext, run_get_bind, run_demand_bind_eq_ok]
  constructor
  · rintro ⟨fulltext, hf, ⟨⟩⟩
    exact ⟨rfl, rfl, hf⟩
  · rintro ⟨rfl, rfl, hf⟩
    exact ⟨_, hf, rfl⟩

section Queries

variable (env head key c)

/-- A composite query fails before it changes anything, or refreshes both
readers for the head it read and hands them out. -/
theorem openQueryScope_cases :
    (∃ error, (openQueryScope env).run c = .error error c) ∨
      ∃ head key d, (env.fulltextLease = true ∧ env.vectorLease = true) ∧
        env.readyHead = .ok head ∧ cacheKey head.publication = .ok key ∧ Adopts key c d ∧
        (openQueryScope env).run c =
          (refreshReaders env head key >>= fun _ => handReaders head).run d := by
  cases hf : env.fulltextLease with
  | false => exact .inl ⟨.unavailable, by simp [openQueryScope, hf]⟩
  | true =>
    cases hv : env.vectorLease with
    | false => exact .inl ⟨.unavailable, by simp [openQueryScope, hf, hv]⟩
    | true =>
      rcases adoptReadyHead_cases env c with ⟨head, key, d, read, keyed, adopts, done⟩ | failed
      · exact .inr ⟨head, key, d, ⟨rfl, rfl⟩, read, keyed, adopts,
          by simp [openQueryScope, hf, hv, done]⟩
      · obtain ⟨error, failed⟩ := failed
        exact .inl ⟨error, by simp [openQueryScope, hf, hv, failed]⟩

/-- A lexical query fails before it changes anything, or refreshes the full-text
reader for the head it read and hands it out. -/
theorem openLexicalQueryScope_cases :
    (∃ error, (openLexicalQueryScope env).run c = .error error c) ∨
      ∃ head key d, env.fulltextLease = true ∧ env.readyHead = .ok head ∧
        cacheKey head.publication = .ok key ∧ Adopts key c d ∧
        (openLexicalQueryScope env).run c =
          (refreshFulltext env head key >>= fun _ => handFulltext head).run d := by
  cases hf : env.fulltextLease with
  | false => exact .inl ⟨.unavailable, by simp [openLexicalQueryScope, hf]⟩
  | true =>
    rcases adoptReadyHead_cases env c with ⟨head, key, d, read, keyed, adopts, done⟩ | failed
    · exact .inr ⟨head, key, d, rfl, read, keyed, adopts,
        by simp [openLexicalQueryScope, hf, done]⟩
    · obtain ⟨error, failed⟩ := failed
      exact .inl ⟨error, by simp [openLexicalQueryScope, hf, failed]⟩

/-! ## Readers of one publication in every state -/

/-- What a query makes of the coordinator: nothing, or what its refresh makes of
the coordinator that has adopted. -/
def Queries (c d : QueryCoordinator) : Prop :=
  d = c ∨ ∃ key e, Adopts key c e ∧ (d = e ∨ Reopened key e d)

variable {env head key c}

theorem after_withQuery (opened : (openQueryScope env).run c =
      (refreshReaders env head key >>= fun _ => handReaders head).run d) :
    c.after (.withQuery env) = final (refreshReaders env head key) d := by
  rw [QueryCoordinator.after, final, opened]
  exact final_bind_of_silent (fun _ => final_handReaders head) d

theorem after_withLexicalQuery (opened : (openLexicalQueryScope env).run c =
      (refreshFulltext env head key >>= fun _ => handFulltext head).run d) :
    c.after (.withLexicalQuery env) = final (refreshFulltext env head key) d := by
  rw [QueryCoordinator.after, final, opened]
  exact final_bind_of_silent (fun _ => final_handFulltext head) d

variable (env c)

theorem withQuery_queries : Queries c (c.after (.withQuery env)) := by
  rcases openQueryScope_cases env c with ⟨_, failed⟩ | ⟨head, key, d, _, _, _, adopts, opened⟩
  · exact .inl (final_of_error failed)
  · rw [after_withQuery opened]
    exact .inr ⟨key, d, adopts, refreshReaders_final env head key d⟩

theorem withLexicalQuery_queries : Queries c (c.after (.withLexicalQuery env)) := by
  rcases openLexicalQueryScope_cases env c with
    ⟨_, failed⟩ | ⟨head, key, d, _, _, _, adopts, opened⟩
  · exact .inl (final_of_error failed)
  · rw [after_withLexicalQuery opened]
    refine .inr ⟨key, d, adopts, (refreshFulltext_cases env head key d).imp_left ?_⟩
    rintro ⟨_, done⟩
    exact final_of_ok done

/-- Preparing the current generation fails without a change, or makes a
prepared pair the resident readers. -/
theorem after_prepareCurrentGeneration :
    c.after (.prepareCurrentGeneration env) = c ∨
      ∃ prepared, c.after (.prepareCurrentGeneration env) = c.adopting prepared := by
  simp only [QueryCoordinator.after, prepareCurrentGeneration]
  rcases final_bind_cases (final_ofExcept _) c with stopped | ⟨head, _, rest⟩
  · exact .inl stopped
  rw [rest]
  rcases final_bind_cases (final_demand _ _) c with stopped | ⟨projections, _, rest⟩
  · exact .inl stopped
  rw [rest]
  rcases final_bind_cases (final_concludeSnapshot _ _) c with stopped | ⟨_, _, rest⟩
  · exact .inl stopped
  rw [rest]
  rcases final_bind_cases (final_ofExcept _) c with stopped | ⟨prepared, _, rest⟩
  · exact .inl stopped
  · exact .inr ⟨prepared, rest⟩

end Queries

/-- A call that is not a query. -/
def Event.arranges : Event → Bool
  | .withQuery _ | .withLexicalQuery _ => false
  | _ => true

/-- A call that is not a query opens no reader. -/
theorem after_arranges {event : Event} (arranges : event.arranges = true) :
    Arranges c (c.after event) := by
  cases event with
  | prepareCurrentGeneration env =>
    rcases after_prepareCurrentGeneration env c with unchanged | ⟨prepared, adopted⟩
    · exact .of_eq unchanged
    · exact .inr ⟨c, prepared, adopted⟩
  | installPreparedGeneration prepared =>
    simp only [QueryCoordinator.after, installPreparedGeneration]
    rw [final_bind_of_ok (EStateM.run_get c)]
    rcases final_bind_cases (final_require (prepared.dataDir = c.dataDir) _) c with
      stopped | ⟨_, _, rest⟩
    · exact .of_eq stopped
    rw [rest]
    rcases final_bind_cases (final_require (c.pendingGeneration = none) _) c with
      stopped | ⟨_, _, rest⟩
    · exact .of_eq stopped
    · rw [rest]
      exact .inl ⟨rfl, rfl⟩
  | activatePreparedGeneration env =>
    simp only [QueryCoordinator.after, activatePreparedGeneration]
    rcases final_bind_cases (final_ofExcept _) c with stopped | ⟨head, _, rest⟩
    · exact .of_eq stopped
    rw [rest]
    rcases final_bind_cases (final_ofExcept _) c with stopped | ⟨key, _, rest⟩
    · exact .of_eq stopped
    rw [rest]
    rcases final_bind_cases (final_concludeSnapshot _ _) c with stopped | ⟨_, _, rest⟩
    · exact .of_eq stopped
    rw [rest, final_bind_of_ok (EStateM.run_get c)]
    cases pending : c.pendingGeneration with
    | none => exact .of_eq (final_require _ _ c)
    | some prepared =>
      by_cases same : prepared.fulltext.key = key ∧ prepared.vector.key = key
      · exact .inr ⟨c, prepared, by simp [final, same, QueryCoordinator.adopting]⟩
      · exact .inl (by simp [final, same])
  | discardPreparedGeneration | takeArtifactFault => exact .inl ⟨rfl, rfl⟩
  | withQuery | withLexicalQuery => cases arranges

theorem Queries.sameKey (queries : Queries c d) (same : SameKey c) : SameKey d := by
  rcases queries with rfl | ⟨key, e, adopts, rfl | reopened⟩
  · exact same
  · exact adopts.arranges.sameKey same
  · exact reopened.keyed.sameKey

/-- One call keeps the resident readers on one publication. -/
theorem after_sameKey (same : SameKey c) (event : Event) : SameKey (c.after event) := by
  cases event with
  | withQuery env => exact (withQuery_queries env c).sameKey same
  | withLexicalQuery env => exact (withLexicalQuery_queries env c).sameKey same
  | _ => exact (after_arranges rfl).sameKey same

theorem sameKey_inductive (dataDir : String) : (coordinatorMachine dataDir).Inductive SameKey where
  start := by
    rintro c rfl fulltext vector found _
    cases found
  step := by
    rintro c event d same rfl
    exact after_sameKey same event

/-! ## The pending generation

Only an install makes a generation pending. -/

/-- No generation is pending. -/
def Idle (c : QueryCoordinator) : Prop := c.pendingGeneration = none

theorem Queries.idle (queries : Queries c d) (idle : Idle c) : Idle d := by
  have adopted : ∀ {key e}, Adopts key c e → Idle e := by
    rintro key e (⟨rfl, _⟩ | ⟨prepared, _, _, rfl⟩)
    · exact idle
    · rfl
  rcases queries with rfl | ⟨key, e, adopts, rfl | reopened⟩
  · exact idle
  · exact adopted adopts
  · exact reopened.pending.trans (adopted adopts)

theorem prepareCurrentGeneration_idle (env : Surroundings) :
    Preserves Idle (prepareCurrentGeneration env) := by
  intro c idle
  rcases after_prepareCurrentGeneration env c with unchanged | ⟨prepared, adopted⟩
  · rw [QueryCoordinator.after] at unchanged
    rwa [unchanged]
  · rw [QueryCoordinator.after] at adopted
    rw [adopted]
    rfl

/-- An activation that succeeds leaves nothing pending. -/
theorem activatePreparedGeneration_idle (done : (activatePreparedGeneration env).run c = .ok () d) :
    Idle d := by
  obtain ⟨_, _, done⟩ := run_ofExcept_bind_eq_ok.mp done
  obtain ⟨key, _, done⟩ := run_ofExcept_bind_eq_ok.mp done
  obtain ⟨_, e, _, done⟩ := run_bind_eq_ok.mp done
  rw [run_get_bind] at done
  cases pending : e.pendingGeneration with
  | none =>
    simp only [pending] at done
    rw [← (run_require_eq_ok.mp done).2]
    exact pending
  | some prepared =>
    simp only [pending] at done
    obtain ⟨_, done⟩ := run_require_bind_eq_ok.mp done
    cases done
    rfl

/-! ## At most two resident generations -/

theorem dedupAfter_length_le (keys : List CacheKey) :
    ∀ kept, (dedupAfter kept keys).length ≤ keys.length := by
  induction keys with
  | nil => intro kept; exact Nat.le_refl _
  | cons key rest ih =>
    intro kept
    rw [dedupAfter]
    split
    · exact (ih kept).trans (Nat.le_succ _)
    · exact Nat.succ_le_succ (ih key)

theorem dedup_length_le (keys : List CacheKey) : (dedup keys).length ≤ keys.length := by
  cases keys with
  | nil => exact Nat.le_refl _
  | cons key rest => exact Nat.succ_le_succ (dedupAfter_length_le rest key)

/-- Sorting by generation name is stable, so a repeated key stays next to its
copy even when another key has the same generation name. -/
theorem dedup_sort_pair (key pending : CacheKey) :
    (dedup (([key, key, pending] : List CacheKey).insertionSort fun left right =>
      left.generation ≤ right.generation)).length ≤ 2 := by
  by_cases before : key.generation ≤ pending.generation
  · have sorted : ([key, key, pending] : List CacheKey).insertionSort
        (fun left right => left.generation ≤ right.generation) = [key, key, pending] := by
      simp [before]
    rw [sorted, dedup, dedupAfter, if_pos rfl]
    exact Nat.succ_le_succ (dedupAfter_length_le [pending] key)
  · have sorted : ([key, key, pending] : List CacheKey).insertionSort
        (fun left right => left.generation ≤ right.generation) = [pending, key, key] := by
      simp [before]
    rw [sorted, dedup, dedupAfter]
    split
    · exact Nat.succ_le_succ (dedupAfter_length_le [key] pending)
    · rw [dedupAfter, if_pos rfl]
      exact Nat.le_refl _

theorem residentGenerationCount_le (same : SameKey c) : residentGenerationCount c ≤ 2 := by
  have short : (residentKeys c).length ≤ 2 → residentGenerationCount c ≤ 2 := fun bound =>
    (dedup_length_le _).trans ((List.length_insertionSort _ _).trans_le bound)
  cases hf : c.fulltextCache with
  | none =>
    apply short
    cases hv : c.vectorCache <;> cases hp : c.pendingGeneration <;>
      simp [residentKeys, hf, hv, hp]
  | some fulltext =>
    cases hv : c.vectorCache with
    | none =>
      apply short
      cases hp : c.pendingGeneration <;> simp [residentKeys, hf, hv]
    | some vector =>
      cases hp : c.pendingGeneration with
      | none => exact short (by simp [residentKeys, hv, hp])
      | some prepared =>
        have collected : residentKeys c =
            [fulltext.key, fulltext.key, prepared.fulltext.key] := by
          simp [residentKeys, hf, hv, hp, same fulltext vector hf hv]
        rw [residentGenerationCount, collected]
        exact dedup_sort_pair fulltext.key prepared.fulltext.key

/-! ## What operations are handed -/

/-- A key names the generation and the fingerprint of a head's publication. -/
def KeyedTo (head : SearchMetadataHead) (key : CacheKey) : Prop :=
  key.generation = head.generation ∧
    head.publication.publicationFingerprint = some key.publicationFingerprint

theorem keyedTo_of_cacheKey (keyed : cacheKey head.publication = .ok key) : KeyedTo head key := by
  unfold cacheKey at keyed
  split at keyed
  · cases keyed
  · rename_i fingerprint found
    cases keyed
    exact ⟨head.named, found⟩

/-- After a refresh that succeeds every resident reader serves the publication. -/
theorem refreshReaders_ok_keyed (done : (refreshReaders env head key).run c = .ok () d) :
    AllKeyed key d := by
  rcases refreshReaders_cases env head key c with ⟨hf, hv, same⟩ | failed | ⟨projections, _, opened⟩
  · rw [same] at done
    cases done
    exact .of_matches hf hv
  · rw [failed] at done
    cases done
  · rw [← final_of_ok done, final, opened]
    exact (reopenChanged_reopened env head key projections c _ _).keyed

/-- A composite operation is handed readers of the head its snapshot read. -/
theorem openQueryScope_keyed {scope : QueryScope}
    (opened : (openQueryScope env).run c = .ok scope d) :
    env.readyHead = .ok scope.head ∧ KeyedTo scope.head scope.fulltext.key ∧
      KeyedTo scope.head scope.vector.key := by
  rcases openQueryScope_cases env c with ⟨_, failed⟩ | ⟨head, key, e, _, read, keyed, _, rest⟩
  · rw [failed] at opened
    cases opened
  · rw [rest, run_bind_eq_ok] at opened
    obtain ⟨_, f, refreshed, handed⟩ := opened
    obtain ⟨rfl, rfl, hf, hv⟩ := handReaders_ok.mp handed
    have resident := refreshReaders_ok_keyed refreshed
    have serves := keyedTo_of_cacheKey keyed
    exact ⟨read, (resident.fulltext _ hf).symm ▸ serves, (resident.vector _ hv).symm ▸ serves⟩

/-- A lexical operation is handed a reader of the head its snapshot read. -/
theorem openLexicalQueryScope_keyed {scope : LexicalQueryScope}
    (opened : (openLexicalQueryScope env).run c = .ok scope d) :
    env.readyHead = .ok scope.head ∧ KeyedTo scope.head scope.fulltext.key := by
  rcases openLexicalQueryScope_cases env c with ⟨_, failed⟩ | ⟨head, key, e, _, read, keyed, _, rest⟩
  · rw [failed] at opened
    cases opened
  · rw [rest, run_bind_eq_ok] at opened
    obtain ⟨_, f, refreshed, handed⟩ := opened
    obtain ⟨rfl, rfl, hf⟩ := handFulltext_ok.mp handed
    have serves := keyedTo_of_cacheKey keyed
    rcases refreshFulltext_cases env scope.head key e with ⟨current, done⟩ | resident
    · rw [done] at refreshed
      cases refreshed
      obtain ⟨cached, found, cachedKey⟩ := fulltextMatches_iff.mp current
      rw [found] at hf
      cases hf
      exact ⟨read, cachedKey.symm ▸ serves⟩
    · rw [final_of_ok refreshed] at resident
      exact ⟨read, (resident.keyed.fulltext _ hf).symm ▸ serves⟩

/-- The operation of a composite query is run on the given scope. -/
def InvokesComposite (env : Surroundings) (c : QueryCoordinator) (scope : QueryScope) : Prop :=
  ∃ d, (openQueryScope env).run c = .ok scope d

/-- The operation of a lexical query is run on the given scope. -/
def InvokesLexical (env : Surroundings) (c : QueryCoordinator) (scope : LexicalQueryScope) :
    Prop :=
  ∃ d, (openLexicalQueryScope env).run c = .ok scope d

/-- Whatever the operation of a composite query is, the query answers with what
the operation answers on the scope it was run on. -/
theorem withQuery_of_invokes {scope : QueryScope} (invoked : InvokesComposite env c scope) :
    ∃ d, ∀ operation : QueryScope → Except SearchRuntimeError α,
      (withQuery env operation).run c = (concludeSnapshot env (operation scope)).run d := by
  obtain ⟨d, opened⟩ := invoked
  exact ⟨d, fun operation => run_bind_of_ok opened⟩

theorem withLexicalQuery_of_invokes {scope : LexicalQueryScope}
    (invoked : InvokesLexical env c scope) :
    ∃ d, ∀ operation : LexicalQueryScope → Except SearchRuntimeError α,
      (withLexicalQuery env operation).run c = (concludeSnapshot env (operation scope)).run d := by
  obtain ⟨d, opened⟩ := invoked
  exact ⟨d, fun operation => run_bind_of_ok opened⟩

/-- **Handed readers serve the head.** In every reachable state, every reader an
operation is handed is keyed to the head read in the same snapshot, readers
resident side by side have one key, and at most two generations are resident. -/
theorem handed_readers_serve_the_head {dataDir : String} {c : QueryCoordinator}
    (reachable : (coordinatorMachine dataDir).Reachable c) :
    (∀ env scope, InvokesComposite env c scope →
        env.readyHead = .ok scope.head ∧ KeyedTo scope.head scope.fulltext.key ∧
          KeyedTo scope.head scope.vector.key) ∧
      (∀ env scope, InvokesLexical env c scope →
        env.readyHead = .ok scope.head ∧ KeyedTo scope.head scope.fulltext.key) ∧
      (∀ fulltext vector, c.fulltextCache = some fulltext → c.vectorCache = some vector →
        fulltext.key = vector.key) ∧
      residentGenerationCount c ≤ 2 := by
  have same := (sameKey_inductive dataDir).holds reachable
  refine ⟨?_, ?_, same, residentGenerationCount_le same⟩
  · rintro env scope ⟨d, opened⟩
    exact openQueryScope_keyed opened
  · rintro env scope ⟨d, opened⟩
    exact openLexicalQueryScope_keyed opened

/-- A ready head over an empty corpus, without semantic search. -/
def emptyCorpusHead : SearchMetadataHead where
  generation := "g1"
  visibleEpoch := 1
  publication :=
    { generation := "g1"
      baseGeneration := none
      expectedVisibleEpoch := 0
      classifierEpoch := "c1"
      projectionDigest := ⟨⟨"p"⟩⟩
      publicationFingerprint := some ⟨"f"⟩
      state := .ready
      fulltext := some ⟨"g1", 0, ⟨⟨"p"⟩⟩, ⟨"t"⟩⟩
      vector := some ⟨"g1", .disabled, 0, ⟨⟨"p"⟩⟩, ⟨⟨"p"⟩⟩, 0, 0, 0, ⟨"v"⟩⟩
      createdAt := 0
      updatedAt := 0 }
  named := rfl
  ready := rfl
  epoch := rfl

/-- Surroundings in which that head is read and both its artifacts open. -/
def emptyCorpus : Surroundings where
  canonicalDataDir := some "data"
  fulltextLease := true
  vectorRoot := true
  vectorLease := true
  readyHead := .ok emptyCorpusHead
  validatedActiveProjections := some []
  openFulltext _ := .ok (some ⟨some ⟨"g1", 0, ⟨⟨"p"⟩⟩, ⟨"t"⟩⟩, some []⟩)
  openVector _ _ := some ⟨⟨"g1", .disabled, 0, 0, 0, ⟨⟨"p"⟩⟩, ⟨⟨"p"⟩⟩, ⟨"v"⟩⟩, []⟩
  commits := true

theorem handed_readers_after_one_query :
    ∃ scope, InvokesComposite emptyCorpus (.opened "data") scope ∧
      KeyedTo scope.head scope.vector.key ∧
      residentGenerationCount ((QueryCoordinator.opened "data").after (.withQuery emptyCorpus)) ≤
        2 := by
  have first : (coordinatorMachine "data").Reachable (.opened "data") := .start rfl
  refine ⟨_, ⟨_, rfl⟩, ?_, ?_⟩
  · exact ((handed_readers_serve_the_head first).1 emptyCorpus _ ⟨_, rfl⟩).2.2
  · exact (handed_readers_serve_the_head (first.next rfl)).2.2.2

end ResumeIr.SearchRuntime
