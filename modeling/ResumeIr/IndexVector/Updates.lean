import ResumeIr.IndexVector.Documents

/-!
# Applying an update

An update is applied record by record, and after every so many records somebody may
cancel. A new update is checked against the target projection only. Whether the vectors of
its replacements have the right dimension and model, and whether their ids differ, is left
to the check that the publication makes on the result. So the result is as sound as the
replacements are by themselves (`update_applies`). Every loop runs to its end unless the
predicate of the caller answers that it is to stop (`Cancellable`).
-/

namespace ResumeIr.IndexVector

open CoreDomain Foundation.Fallible

def snapshotPublishRecordInterval : Nat := 64

/-- The answers that the predicate of the caller gives, one call after the other. -/
abbrev CancelCheck := Option (Nat → Bool)

/-- The state is the number of calls so far. -/
abbrev Publishing := EStateM VectorIndexError Nat

namespace CancelCheck

variable {α β : Type} (control : CancelCheck)

def check : Publishing Unit :=
  match control with
  | none => return
  | some cancelCheck => do
      let calls ← get
      set (calls + 1)
      require (cancelCheck calls = false) .cancelled

def checkAfterRecord (completed : Nat) : Publishing Unit :=
  if completed % snapshotPublishRecordInterval = 0 then control.check else return

/-- A loop over records, counted from the number that is given. -/
def eachRecord (step : α → β → α) : Nat → α → List β → Publishing α
  | _, result, [] => return result
  | index, result, record :: rest => do
      control.checkAfterRecord (index + 1)
      eachRecord step (index + 1) (step result record) rest

end CancelCheck

namespace VectorSnapshotUpdate

/-- The maps of the two first loops are read by `retains`. -/
def applyDocumentsWithControl (update : VectorSnapshotUpdate) (base : List VectorDocument)
    (control : CancelCheck) : Publishing (List ActiveSearchProjection × List VectorDocument) := do
  control.check
  control.eachRecord (fun _ _ => ()) 0 () update.activeProjection
  control.eachRecord (fun _ _ => ()) 0 () update.replacementDocuments
  let documents ← control.eachRecord
    (fun documents document => if update.retains document then documents ++ [document]
      else documents) 0 [] base
  let documents ← control.eachRecord (fun documents document => documents ++ [document]) 0
    documents update.replacementDocuments
  control.check
  return (update.activeProjection, documents)

/-- The documents of the base are copied. -/
def applyWithControl (update : VectorSnapshotUpdate) (base : List VectorDocument)
    (control : CancelCheck) : Publishing (List ActiveSearchProjection × List VectorDocument) :=
  update.applyDocumentsWithControl (base.map id) control

/-- The documents of the base are used up. -/
def applyOwnedWithControl (update : VectorSnapshotUpdate) (base : List VectorDocument)
    (control : CancelCheck) : Publishing (List ActiveSearchProjection × List VectorDocument) :=
  update.applyDocumentsWithControl base control

end VectorSnapshotUpdate

/-! ## Loops that may be cancelled -/

section Loops

variable {α β : Type} {control : CancelCheck} {calls calls' : Nat}

/-- The computation returns, or the predicate of the caller has just told it to stop. -/
def Cancellable (control : CancelCheck) (x : Publishing α) : Prop :=
  ∀ calls, (∃ result calls', calls ≤ calls' ∧ x.run calls = .ok result calls') ∨
    ∃ cancelCheck poll, control = some cancelCheck ∧ calls ≤ poll ∧ cancelCheck poll = true ∧
      x.run calls = .error .cancelled (poll + 1)

namespace Cancellable

theorem pure (result : α) : Cancellable control (Pure.pure result) :=
  fun calls => .inl ⟨result, calls, le_rfl, rfl⟩

theorem bind {x : Publishing α} {rest : α → Publishing β} (first : Cancellable control x)
    (later : ∀ result, Cancellable control (rest result)) : Cancellable control (x >>= rest) := by
  intro calls
  obtain ⟨result, calls', le, done⟩ | ⟨cancelCheck, poll, given, le, stop, failed⟩ := first calls
  · rw [run_bind_of_ok done]
    refine (later result calls').imp ?_ ?_
    · rintro ⟨result', calls'', le', done'⟩
      exact ⟨result', calls'', le.trans le', done'⟩
    · rintro ⟨cancelCheck, poll, given, le', stop, failed⟩
      exact ⟨cancelCheck, poll, given, le.trans le', stop, failed⟩
  · exact .inr ⟨cancelCheck, poll, given, le, stop, run_bind_of_error failed⟩

theorem check (control : CancelCheck) : Cancellable control control.check := by
  intro calls
  cases control with
  | none => exact .inl ⟨(), calls, le_rfl, rfl⟩
  | some cancelCheck =>
    cases stop : cancelCheck calls with
    | false => exact .inl ⟨(), calls + 1, Nat.le_succ calls, run_require_eq_ok.mpr ⟨stop, rfl⟩⟩
    | true =>
      refine .inr ⟨cancelCheck, calls, rfl, le_rfl, stop, run_require_eq_error.mpr ⟨?_, rfl, rfl⟩⟩
      simp [stop]

theorem eachRecord (step : α → β → α) (index : Nat) (init : α) (records : List β) :
    Cancellable control (control.eachRecord step index init records) := by
  induction records generalizing index init with
  | nil => exact .pure init
  | cons record rest ih =>
    refine .bind ?_ fun _ => ih _ _
    unfold CancelCheck.checkAfterRecord
    split
    · exact .check control
    · exact .pure ()

theorem applyDocuments (update : VectorSnapshotUpdate) (base : List VectorDocument) :
    Cancellable control (update.applyDocumentsWithControl base control) :=
  .bind (.check control) fun _ => .bind (.eachRecord _ _ _ _) fun _ =>
    .bind (.eachRecord _ _ _ _) fun _ => .bind (.eachRecord _ _ _ _) fun _ =>
    .bind (.eachRecord _ _ _ _) fun _ => .bind (.check control) fun _ => .pure _

end Cancellable

theorem run_eachRecord {step : α → β → α} {index : Nat} {init result : α} {records : List β}
    (done : (control.eachRecord step index init records).run calls = .ok result calls') :
    result = records.foldl step init := by
  induction records generalizing index init calls with
  | nil =>
    cases done
    rfl
  | cons record rest ih =>
    obtain ⟨_, later, _, done⟩ := run_bind_eq_ok.mp done
    exact ih done

theorem foldl_filter {p : α → Bool} (records kept : List α) :
    records.foldl (fun kept record => if p record then kept ++ [record] else kept) kept =
      kept ++ records.filter p := by
  induction records generalizing kept with
  | nil => simp
  | cons record rest ih =>
    rw [List.foldl_cons, ih]
    by_cases met : p record <;> simp [met]

variable {update : VectorSnapshotUpdate} {base : List VectorDocument}

/-- What is returned is the result of the loops. -/
theorem run_applyDocuments {result : List ActiveSearchProjection × List VectorDocument}
    (done : (update.applyDocumentsWithControl base control).run calls = .ok result calls') :
    result = update.apply base := by
  obtain ⟨_, _, _, done⟩ := run_bind_eq_ok.mp done
  obtain ⟨_, _, _, done⟩ := run_bind_eq_ok.mp done
  obtain ⟨_, _, _, done⟩ := run_bind_eq_ok.mp done
  obtain ⟨kept, _, kept_eq, done⟩ := run_bind_eq_ok.mp done
  obtain ⟨documents, _, documents_eq, done⟩ := run_bind_eq_ok.mp done
  obtain ⟨_, _, _, done⟩ := run_bind_eq_ok.mp done
  cases done
  rw [run_eachRecord documents_eq, run_eachRecord kept_eq, foldl_filter]
  have pushed := @foldl_filter _ (fun _ => true) update.replacementDocuments
  simp only [if_true, List.filter_true] at pushed
  rw [pushed]
  rfl

/-- Without a predicate nobody cancels. -/
theorem run_applyDocuments_none :
    ∃ calls', (update.applyDocumentsWithControl base none).run calls =
      .ok (update.apply base) calls' := by
  have returns : Cancellable none (update.applyDocumentsWithControl base none) :=
    .applyDocuments update base
  obtain ⟨result, calls', -, done⟩ | ⟨_, _, ⟨⟩, _⟩ := returns calls
  exact ⟨calls', run_applyDocuments done ▸ done⟩

end Loops

/-! ## The result -/

section Result

variable {contract : VectorModelContract} {before : List ActiveSearchProjection}
  {update : VectorSnapshotUpdate} {base : List VectorDocument}
  {sha256 : List UInt8 → ContentDigest}

/-- The documents that stay are as sound as they were, and have ids of their own. -/
theorem validate_apply_iff
    (valid : validateDocuments sha256 contract before base = .ok ()) :
    validateDocuments sha256 contract (update.apply base).1 (update.apply base).2 = .ok () ↔
      validateDocuments sha256 contract update.activeProjection update.replacementDocuments =
        .ok () := by
  cases contract with
  | disabled =>
    obtain ⟨_, -, valid⟩ := bind_ok_iff.mp valid
    obtain ⟨_, -, valid⟩ := bind_ok_iff.mp valid
    obtain rfl : base = [] := check_eq_ok.mp valid
    rfl
  | enabled modelId dimension =>
    rw [validateDocuments_eq_ok, validateDocuments_eq_ok]
    obtain ⟨-, -, fits, distinct⟩ := validateDocuments_eq_ok.mp valid
    refine and_congr_right fun _ => ⟨fun whole => ?_, fun replaced => ?_⟩
    · refine ⟨whole.projects, fun document member => ?_, ?_⟩
      · exact whole.fits document (List.mem_append_right _ member)
      · exact whole.distinct.sublist ((List.sublist_append_right _ _).map _)
    · refine ⟨replaced.projects, fun document member => ?_, ?_⟩
      · obtain kept | new := List.mem_append.mp member
        · obtain ⟨old, retained⟩ := List.mem_filter.mp kept
          simp only [VectorSnapshotUpdate.retains, Bool.and_eq_true, decide_eq_true_eq]
            at retained
          exact { fits document old with active := retained.1.1 }
        · exact replaced.fits document new
      · show ((base.filter update.retains ++ update.replacementDocuments).map _).Nodup
        rw [List.map_append]
        refine List.nodup_append.mpr
          ⟨distinct.sublist (List.filter_sublist.map _), replaced.distinct, ?_⟩
        rintro id kept _ new rfl
        obtain ⟨document, stays, rfl⟩ := List.mem_map.mp kept
        have retained := (List.mem_filter.mp stays).2
        simp only [VectorSnapshotUpdate.retains, Bool.and_eq_true, decide_eq_true_eq]
          at retained
        exact retained.2 new

theorem update_new_eq_ok {projection : List ActiveSearchProjection}
    {replacements : List VectorDocument} {removed : List VectorRecordId}
    (accepted : VectorSnapshotUpdate.new sha256 projection replacements removed = .ok update) :
    Projects projection ∧ update = ⟨projection, replacements, removed⟩ := by
  simp only [VectorSnapshotUpdate.new, bind_ok_iff, exists_const, check_eq_ok,
    validateProjection_eq_ok] at accepted
  obtain ⟨projects, -, -, ⟨⟩⟩ := accepted
  exact ⟨projects, rfl⟩

end Result

/-- **Applying an update.** Both ways to apply it are the same computation. It returns unless
the predicate of the caller has answered that it is to stop, and what it returns is the
target projection with the documents of the base that are projected at their version and
neither removed nor replaced, in their order, and after them the replacements. These
documents pass the check of a generation exactly if the replacements pass it by themselves. -/
theorem update_applies (sha256 : List UInt8 → ContentDigest) (contract : VectorModelContract)
    (before projection : List ActiveSearchProjection) (base replacements : List VectorDocument)
    (removed : List VectorRecordId) (update : VectorSnapshotUpdate)
    (valid : validateDocuments sha256 contract before base = .ok ())
    (accepted : VectorSnapshotUpdate.new sha256 projection replacements removed = .ok update) :
    (∀ control, update.applyOwnedWithControl base control = update.applyWithControl base control) ∧
    (∀ control, Cancellable control (update.applyWithControl base control)) ∧
    ∀ control calls result calls',
      (update.applyWithControl base control).run calls = .ok result calls' →
      result.1 = projection ∧
      (∃ kept, result.2 = kept ++ replacements ∧ kept.Sublist base ∧ ∀ document ∈ base,
        document ∈ kept ↔ document.pair ∈ projection ∧ document.vectorId ∉ removed ∧
          ∀ replacement ∈ replacements, replacement.vectorId ≠ document.vectorId) ∧
      (validateDocuments sha256 contract result.1 result.2 = .ok () ↔
        validateDocuments sha256 contract projection replacements = .ok ()) := by
  obtain ⟨projects, rfl⟩ := update_new_eq_ok accepted
  refine ⟨fun control => ?_, fun control => .applyDocuments _ _,
    fun control calls result calls' done => ?_⟩
  · rw [VectorSnapshotUpdate.applyWithControl, List.map_id]
    rfl
  · rw [VectorSnapshotUpdate.applyWithControl, List.map_id] at done
    obtain rfl := run_applyDocuments done
    refine ⟨rfl, ⟨_, rfl, List.filter_sublist, fun document member => ?_⟩, validate_apply_iff valid⟩
    rw [List.mem_filter, VectorSnapshotUpdate.retains]
    simp [member, activeVersion_eq_some_iff projects.documents, VectorDocument.pair, and_assoc]

/-- The id with a prefix and a number. -/
def sampleName (kind : String) (number : Fin 3) : String :=
  kind ++ "_0000000000000000000000000000000" ++ toString number

/-- The pairs that the sample updates project. -/
def sampleEntry (number : Fin 3) : ActiveSearchProjection :=
  ⟨⟨sampleName "doc" number, by revert number; decide +kernel⟩,
    ⟨sampleName "ver" number, by revert number; decide +kernel⟩⟩

/-- A document of such a pair. -/
def sampleVector (number : Fin 3) (values : List F32) : VectorDocument where
  identity := ⟨⟨sampleName "vec" number, by revert number; decide +kernel⟩,
    (sampleEntry number).documentId, (sampleEntry number).resumeVersionId, "e5-small"⟩
  values := values

/-- Of three documents the first stays, the second is removed and the third is replaced. A
caller that does not cancel gets the result, and one that cancels at once does not. -/
theorem update_applies_of_replacement :
    ∃ update result calls,
      VectorSnapshotUpdate.new (fun _ => ⟨""⟩) [sampleEntry 0, sampleEntry 2] [sampleVector 2 [1]]
        [(sampleVector 1 [0]).vectorId] = .ok update ∧
      (update.applyWithControl [sampleVector 0 [0], sampleVector 1 [0], sampleVector 2 [0]]
        (some fun _ => false)).run 0 = .ok result calls ∧
      (∃ kept, result.2 = kept ++ [sampleVector 2 [1]] ∧ sampleVector 0 [0] ∈ kept ∧
        sampleVector 1 [0] ∉ kept ∧ sampleVector 2 [0] ∉ kept) ∧
      validateDocuments (fun _ => ⟨""⟩) (.enabled "e5-small" 1) result.1 result.2 = .ok () ∧
      (update.applyWithControl [sampleVector 0 [0], sampleVector 1 [0], sampleVector 2 [0]]
        (some fun _ => true)).run 0 = .error .cancelled 1 := by
  obtain ⟨-, returns, spec⟩ := update_applies (fun _ => ⟨""⟩) (.enabled "e5-small" 1)
    [sampleEntry 0, sampleEntry 1, sampleEntry 2] [sampleEntry 0, sampleEntry 2]
    [sampleVector 0 [0], sampleVector 1 [0], sampleVector 2 [0]] [sampleVector 2 [1]]
    [(sampleVector 1 [0]).vectorId] ⟨[sampleEntry 0, sampleEntry 2], [sampleVector 2 [1]],
      [(sampleVector 1 [0]).vectorId]⟩ (by decide +kernel) (by decide +kernel)
  obtain ⟨result, calls, -, done⟩ | ⟨_, _, ⟨⟩, _, ⟨⟩, _⟩ := returns (some fun _ => false) 0
  obtain ⟨-, ⟨kept, documents, -, stays⟩, sound⟩ := spec _ 0 result calls done
  refine ⟨_, result, calls, by decide +kernel, done, ⟨kept, documents, ?_, ?_, ?_⟩,
    sound.mpr (by decide +kernel), rfl⟩
  · exact (stays _ (by decide +kernel)).mpr (by decide +kernel)
  · exact fun member => absurd ((stays _ (by decide +kernel)).mp member) (by decide +kernel)
  · exact fun member => absurd ((stays _ (by decide +kernel)).mp member) (by decide +kernel)

/-- A vector of another dimension is accepted as a replacement, and the result is not a sound
generation. -/
theorem replacement_of_other_dimension_accepted :
    ∃ sha256 document update result calls,
      VectorDocument.new (sampleVector 0 [0]).identity [0, 0] = .ok document ∧
      VectorSnapshotUpdate.new sha256 [sampleEntry 0] [document] [] = .ok update ∧
      validateDocuments sha256 (.enabled "e5-small" 1) [sampleEntry 0] [sampleVector 0 [0]] =
        .ok () ∧
      (update.applyWithControl [sampleVector 0 [0]] none).run 0 = .ok result calls ∧
      validateDocuments sha256 (.enabled "e5-small" 1) result.1 result.2 ≠ .ok () := by
  obtain ⟨calls, done⟩ := @run_applyDocuments_none 0
    ⟨[sampleEntry 0], [sampleVector 0 [0, 0]], []⟩ [sampleVector 0 [0]]
  exact ⟨fun _ => ⟨""⟩, sampleVector 0 [0, 0], _, _, calls, by decide +kernel, by decide +kernel,
    by decide +kernel, done, by decide +kernel⟩

end ResumeIr.IndexVector
