import Mathlib.Data.List.Nodup
import ResumeIr.Daemon.SearchService.Admission

/-!
# Batch replies

A batch has one connection for several searches. Each child has a reply that can be cloned:
the queued search, the deadline scheduler and a cancel may all try to complete it, and the
first one wins by setting the flag of the child. The winner writes the line of the child,
counts the child off, and the one that counts the last child off closes the stream, gives
back the permit of the batch and finishes the connection.

The route that serves the connection creates the children one after another. When one cannot
be dispatched it finishes the connection with the failure at once. Whoever drops the last
owner of the connection finishes it if nobody has.

A step of the machine is one change of one of the atomics, or one use of a lock, by any of
the owners (`BatchEvent`). A call of `complete` that has set its flag is listed in the state
with how far it has come (`Call`).
-/

namespace ResumeIr.Daemon.SearchService

open Foundation

/-! ## Connections -/

inductive ResponseSinkError where
  | clientDisconnected
  | timedOut
  | unavailable
  deriving DecidableEq

inductive RequestFailure where
  | handler
  | responseSink (error : ResponseSinkError)
  deriving DecidableEq

inductive ConnectionOutcome where
  | completed
  | clientDisconnected (error : ResponseSinkError)
  | requestFailed (failure : RequestFailure)
  | deferred
  deriving DecidableEq

/-- The outcome of a request that has failed, or not. -/
def ConnectionOutcome.fromRequestResult : Option RequestFailure → ConnectionOutcome
  | none => .completed
  | some (.responseSink .clientDisconnected) => .clientDisconnected .clientDisconnected
  | some failure => .requestFailed failure

structure ConnectionCompletion where
  finished : Bool
  /-- What has been recorded for the connection. -/
  outcomes : List ConnectionOutcome

def ConnectionCompletion.accepted : ConnectionCompletion := ⟨false, []⟩

def ConnectionCompletion.finish (completion : ConnectionCompletion)
    (outcome : ConnectionOutcome) : ConnectionCompletion :=
  if outcome = .deferred ∨ completion.finished = true then completion
  else ⟨true, completion.outcomes ++ [outcome]⟩

/-- Exactly one outcome is recorded once the connection is finished, and none before. -/
def ConnectionCompletion.Recorded (completion : ConnectionCompletion) : Prop :=
  completion.outcomes.length = if completion.finished then 1 else 0

/-! ## Batches -/

def maxBatchQueries : Nat := 64

/-- A batch that has been parsed. Only the number of its children matters here. -/
structure BatchRequest where
  children : Nat
  nonempty : 0 < children
  bounded : children ≤ maxBatchQueries

/-- A line that a child has tried to write, and the error that has ended the attempt. -/
structure Line where
  sequence : Nat
  error : Option ResponseSinkError

/-- How far a call of `complete` has come that has set the flag of its child. -/
inductive Call where
  | writing (sequence : Nat)
  | recording (sequence : Nat) (error : ResponseSinkError)
  | counting (sequence : Nat)
  | shutting (sequence : Nat)
  | releasing (sequence : Nat)
  | reading (sequence : Nat)
  | finishing (sequence : Nat) (outcome : ConnectionOutcome)
  deriving DecidableEq

/-- How far the route has come that serves the connection. -/
inductive Route where
  | routing (next : Nat)
  | failing (failure : RequestFailure)
  | returning (result : Option RequestFailure)
  | returned (result : Option RequestFailure)
  | left (result : Option RequestFailure)
  deriving DecidableEq

/-- A child could not be dispatched. -/
def Route.failed : Route → Bool
  | .routing _ => false
  | .failing _ => true
  | .returning result => result.isSome
  | .returned result => result.isSome
  | .left result => result.isSome

/-- The route has dropped the writer. -/
def Route.withoutWriter : Route → Bool
  | .routing _ => false
  | .failing _ => false
  | _ => true

/-- The route has dropped the connection. -/
def Route.hasLeft : Route → Bool
  | .left _ => true
  | _ => false

structure Batch where
  completed : List Bool
  remaining : Nat
  lines : List Line
  responseFailure : Option ResponseSinkError
  /-- The stream is shut down for writing. -/
  shut : Bool
  /-- The permit of the batch is held. -/
  admission : Bool
  completion : ConnectionCompletion
  route : Route
  /-- The replies that somebody has and is not completing, by their child. -/
  handles : List Nat
  calls : List Call

inductive BatchEvent where
  /-- The next child is answered by the route, or handed over to the service. -/
  | dispatch
  | dispatchFails (failure : RequestFailure)
  | proceedRoute
  | clone (sequence : Nat)
  | drop (sequence : Nat)
  | complete (sequence : Nat)
  /-- A call goes on; the error is that of its write, if it writes. -/
  | proceed (call : Call) (error : Option ResponseSinkError)

namespace Batch

def start (request : BatchRequest) : Batch where
  completed := List.replicate request.children false
  remaining := request.children
  lines := []
  responseFailure := none
  shut := false
  admission := true
  completion := .accepted
  route := .routing 0
  handles := []
  calls := []

/-- Nobody has a reply. -/
def unheld (s : Batch) : Bool := s.handles.isEmpty && s.calls.isEmpty

/-- The last owner of the writer drops the permit, and the last owner of the connection
finishes it. -/
def dropOwners (s : Batch) : Batch :=
  { s with
    admission := s.admission && !(s.unheld && s.route.withoutWriter)
    completion :=
      if s.unheld && s.route.hasLeft then s.completion.finish (.requestFailed .handler)
      else s.completion }

/-- What the last child reports. -/
def outcome (s : Batch) : ConnectionOutcome :=
  .fromRequestResult (s.responseFailure.map .responseSink)

/-- The next change of a call, which is no longer listed. -/
def perform (s : Batch) (error : Option ResponseSinkError) : Call → Batch
  | .writing sequence =>
      { s with
        lines := s.lines ++ [⟨sequence, error⟩]
        calls := (error.elim (.counting sequence) (.recording sequence)) :: s.calls }
  | .recording sequence error =>
      { s with
        responseFailure := some (s.responseFailure.getD error)
        calls := .counting sequence :: s.calls }
  | .counting sequence =>
      if s.remaining = 1 then
        { s with remaining := 0, calls := .shutting sequence :: s.calls }
      else { s with remaining := fetchSub s.remaining, handles := sequence :: s.handles }
  | .shutting sequence => { s with shut := true, calls := .releasing sequence :: s.calls }
  | .releasing sequence => { s with admission := false, calls := .reading sequence :: s.calls }
  | .reading sequence => { s with calls := .finishing sequence s.outcome :: s.calls }
  | .finishing sequence outcome =>
      { s with
        completion := s.completion.finish outcome
        handles := sequence :: s.handles }

def after (s : Batch) : BatchEvent → Batch
  | .dispatch =>
      match s.route with
      | .routing next =>
          if next < s.completed.length then
            { s with route := .routing (next + 1), handles := next :: s.handles }
          else s
      | _ => s
  | .dispatchFails failure =>
      match s.route with
      | .routing next =>
          if next < s.completed.length then
            { s with route := .failing failure, handles := next :: s.handles }
          else s
      | _ => s
  | .proceedRoute =>
      match s.route with
      | .routing next =>
          if next < s.completed.length then s else { s with route := .returning none }.dropOwners
      | .failing failure =>
          { s with
            completion := s.completion.finish (.fromRequestResult (some failure))
            route := .returning (some failure) }.dropOwners
      | .returning result =>
          { s with
            -- the completion was deferred, so a route without failure finishes nothing
            completion :=
              s.completion.finish (result.elim .deferred fun failure =>
                .fromRequestResult (some failure))
            route := .returned result }
      | .returned result => { s with route := .left result }.dropOwners
      | .left _ => s
  | .clone sequence =>
      if sequence ∈ s.handles then { s with handles := sequence :: s.handles } else s
  | .drop sequence =>
      if sequence ∈ s.handles then { s with handles := s.handles.erase sequence }.dropOwners else s
  | .complete sequence =>
      if sequence ∈ s.handles ∧ s.completed[sequence]? = some false then
        { s with
          completed := s.completed.set sequence true
          handles := s.handles.erase sequence
          calls := .writing sequence :: s.calls }
      else s
  | .proceed call error =>
      if call ∈ s.calls then { s with calls := s.calls.erase call }.perform error call else s

end Batch

def batchMachine (request : BatchRequest) : Machine Batch BatchEvent where
  start s := s = .start request
  step s event t := t = s.after event

/-! ## Lines and the counter -/

/-- The child whose line a call has still to write. -/
def Call.toWrite : Call → Option Nat
  | .writing sequence => some sequence
  | _ => none

/-- The call has not yet counted its child off. -/
def Call.uncounted : Call → Bool
  | .writing _ => true
  | .recording _ _ => true
  | .counting _ => true
  | _ => false

namespace Batch

/-- The children that have a line or a call that will write it. -/
def answered (s : Batch) : List Nat :=
  s.lines.map Line.sequence ++ s.calls.filterMap Call.toWrite

/-- The counter counts the children nobody has completed and the calls that have not counted
theirs off. The children that are completed have one line each, or one call that will write
it. -/
structure Consistent (request : BatchRequest) (s : Batch) : Prop where
  length : s.completed.length = request.children
  remaining : s.remaining = s.completed.countP (!·) + s.calls.countP Call.uncounted
  nodup : s.answered.Nodup
  answered : ∀ sequence, sequence ∈ s.answered ↔ s.completed[sequence]? = some true

section Lines

variable {request : BatchRequest} {s : Batch} {sequence : Nat} {call : Call}
  {error : Option ResponseSinkError}

theorem countP_calls (member : call ∈ s.calls) (p : Call → Bool) :
    s.calls.countP p = (s.calls.erase call).countP p + (if p call then 1 else 0) := by
  rw [(List.perm_cons_erase member).countP_eq p, List.countP_cons]

theorem toWrite_perm (member : call ∈ s.calls) :
    (s.calls.filterMap Call.toWrite).Perm
      (call.toWrite.toList ++ (s.calls.erase call).filterMap Call.toWrite) := by
  refine ((List.perm_cons_erase member).filterMap _).trans (.of_eq ?_)
  cases written : call.toWrite with
  | none | some => simp [written]

/-- A call that has not counted its child finds the counter positive. -/
theorem Consistent.remaining_pos (consistent : Consistent request s) (member : call ∈ s.calls)
    (uncounted : call.uncounted = true) : 0 < s.remaining := by
  have split := countP_calls member Call.uncounted
  rw [if_pos uncounted] at split
  have := consistent.remaining
  omega

theorem start_consistent : Consistent request (start request) := by
  refine ⟨List.length_replicate .., ?_, List.nodup_nil, fun sequence => ?_⟩
  · simp [start, List.countP_replicate]
  · simp [start, Batch.answered, List.getElem?_replicate]

/-- The first call sets the flag of its child. -/
def claim (s : Batch) (sequence : Nat) : Batch :=
  { s with
    completed := s.completed.set sequence true
    handles := s.handles.erase sequence
    calls := .writing sequence :: s.calls }

theorem Consistent.complete (consistent : Consistent request s)
    (open_ : s.completed[sequence]? = some false) : Consistent request (s.claim sequence) := by
  obtain ⟨length, remaining, nodup, answered⟩ := consistent
  have fresh : sequence ∉ s.answered := by
    rw [answered, open_]
    nofun
  have moved : (s.claim sequence).answered.Perm (sequence :: s.answered) := by
    simp [Batch.answered, claim, Call.toWrite]
  refine ⟨by simpa [claim] using length, ?_, ?_, fun other => ?_⟩
  · obtain ⟨lt, here⟩ := List.getElem?_eq_some_iff.mp open_
    have after := (List.set_perm_cons_eraseIdx lt true).countP_eq (!·)
    have before := (List.getElem_cons_eraseIdx_perm lt).countP_eq (!·)
    rw [here] at before
    simp only [claim, List.countP_cons, Call.uncounted] at after before ⊢
    simp at after before ⊢
    omega
  · rw [moved.nodup_iff]
    exact List.nodup_cons.mpr ⟨fresh, nodup⟩
  · rw [moved.mem_iff, List.mem_cons, answered, claim]
    obtain ⟨lt, here⟩ := List.getElem?_eq_some_iff.mp open_
    by_cases same : other = sequence
    · simp [same, lt]
    · simp [same, Ne.symm same]

/-- The same children are answered, and the counter fits. -/
theorem Consistent.of_same (consistent : Consistent request s) {t : Batch}
    (completed : t.completed = s.completed)
    (remaining : t.remaining = s.completed.countP (!·) + t.calls.countP Call.uncounted)
    (same : s.answered.Perm t.answered) : Consistent request t := by
  obtain ⟨length, _, nodup, answered⟩ := consistent
  refine ⟨completed ▸ length, completed ▸ remaining, same.nodup_iff.mp nodup, fun sequence => ?_⟩
  rw [← same.mem_iff, answered, completed]

/-- A call goes on. -/
theorem Consistent.perform (consistent : Consistent request s) (member : call ∈ s.calls) :
    Consistent request ({ s with calls := s.calls.erase call }.perform error call) := by
  have positive := consistent.remaining_pos member
  have of_same := @consistent.of_same
  have remaining := consistent.remaining
  rw [countP_calls member] at remaining
  have moved : s.answered.Perm (s.lines.map Line.sequence ++
      (call.toWrite.toList ++ (s.calls.erase call).filterMap Call.toWrite)) :=
    (toWrite_perm member).append_left _
  cases call with
  | writing sequence =>
    refine of_same rfl ?_ (moved.trans (.of_eq ?_))
    · cases error <;>
        simpa [Batch.perform, Call.uncounted, List.countP_cons] using remaining
    · cases error <;>
        simp [Batch.perform, Batch.answered, Call.toWrite, List.filterMap_cons]
  | counting sequence =>
    dsimp only [Batch.perform]
    split
    next last =>
      refine of_same rfl ?_ moved
      simp [Call.uncounted] at remaining ⊢
      omega
    · refine of_same rfl ?_ moved
      rw [fetchSub_of_pos (positive rfl), remaining]
      simp [Call.uncounted]
  | recording | shutting | releasing | reading | finishing =>
    exact of_same rfl (by
      simpa [Batch.perform, Call.uncounted, List.countP_cons] using remaining) moved

theorem Consistent.after (consistent : Consistent request s) (event : BatchEvent) :
    Consistent request (s.after event) := by
  have frame : ∀ {t : Batch}, t.completed = s.completed → t.remaining = s.remaining →
      t.lines = s.lines → t.calls = s.calls → Consistent request t := by
    intro t completed remaining lines calls
    refine consistent.of_same completed (by rw [remaining, calls, consistent.remaining]) ?_
    rw [Batch.answered, Batch.answered, lines, calls]
  cases event with
  | complete sequence =>
    dsimp only [Batch.after]
    split
    next free => exact consistent.complete free.2
    · exact consistent
  | proceed call error =>
    dsimp only [Batch.after]
    split
    next member => exact consistent.perform member
    · exact consistent
  | dispatch | dispatchFails | proceedRoute | clone | drop =>
    dsimp only [Batch.after]
    repeat' split
    all_goals exact frame rfl rfl rfl rfl

end Lines

/-! ## The connection -/

/-- Nobody owns the connection any more. -/
def gone (s : Batch) : Bool := s.unheld && s.route.hasLeft

/-- The connection is finished because every child is counted off, because the route has
failed, or because nobody owns it any more. -/
structure Settling (s : Batch) : Prop where
  recorded : s.completion.Recorded
  /-- Only the call that has counted the last child off closes the batch. -/
  closing : ∀ call ∈ s.calls, call.uncounted = false → s.remaining = 0
  closed : s.remaining = 0 → s.completion.finished = true ∨
    ∃ call ∈ s.calls, call.uncounted = false
  terminal : ∀ sequence, .finishing sequence .deferred ∉ s.calls
  finished : s.completion.finished = true →
    s.remaining = 0 ∨ s.route.failed = true ∨ s.gone = true

/-- A connection that nobody owns is finished. -/
structure Settled (s : Batch) : Prop extends Settling s where
  gone : s.gone = true → s.completion.finished = true

end Batch

namespace ConnectionCompletion

variable {completion : ConnectionCompletion} {outcome : ConnectionOutcome}

theorem Recorded.finish (recorded : completion.Recorded) : (completion.finish outcome).Recorded := by
  unfold ConnectionCompletion.finish
  split
  · exact recorded
  next open_ =>
    rw [not_or] at open_
    have none : completion.outcomes.length = 0 := by
      simpa [Recorded, open_.2] using recorded
    simp [Recorded, none]

/-- A connection that is finished stays so. -/
theorem finish_of_finished (finished : completion.finished = true) :
    completion.finish outcome = completion :=
  if_pos (.inr finished)

theorem finished_finish (terminal : outcome ≠ .deferred) :
    (completion.finish outcome).finished = true := by
  unfold ConnectionCompletion.finish
  split
  next already => exact already.resolve_left terminal
  · rfl

theorem finish_deferred : completion.finish .deferred = completion :=
  if_pos (.inl rfl)

theorem fromRequestResult_ne_deferred (result : Option RequestFailure) :
    .fromRequestResult result ≠ ConnectionOutcome.deferred := by
  rcases result with - | (- | error)
  · nofun
  · nofun
  · cases error <;> nofun

end ConnectionCompletion

namespace Batch

section Connection

variable {request : BatchRequest} {s t : Batch} {sequence : Nat} {call next : Call}
  {error : Option ResponseSinkError}

theorem start_settled : Settled (start request) where
  recorded := rfl
  closing := nofun
  closed none := absurd none (Nat.pos_iff_ne_zero.mp request.nonempty)
  terminal := nofun
  finished := nofun
  gone := nofun

theorem owners_of_gone (gone : s.gone = true) : s.handles = [] ∧ s.calls = [] := by
  simp only [Batch.gone, unheld, Bool.and_eq_true, List.isEmpty_iff] at gone
  exact gone.1

theorem handle_notMem_of_gone (gone : s.gone = true) : sequence ∉ s.handles := by
  simp [owners_of_gone gone]

theorem call_notMem_of_gone (gone : s.gone = true) : call ∉ s.calls := by
  simp [owners_of_gone gone]

/-- The calls, the counter and the connection are as before. -/
theorem Settling.frame (settling : Settling s) (remaining : t.remaining = s.remaining)
    (calls : t.calls = s.calls) (completion : t.completion = s.completion)
    (failed : s.route.failed = true → t.route.failed = true)
    (gone : s.gone = true → t.gone = true) : Settling t := by
  obtain ⟨recorded, closing, closed, terminal, finished⟩ := settling
  rw [← remaining] at closing closed finished
  rw [← calls] at closing closed terminal
  rw [← completion] at recorded closed finished
  exact ⟨recorded, closing, closed, terminal, fun done => (finished done).imp_right
    (Or.imp failed gone)⟩

theorem Settling.dropOwners (settling : Settling s) : Settled s.dropOwners := by
  by_cases gone : s.gone = true
  · have completion :
        s.dropOwners.completion = s.completion.finish (.requestFailed .handler) := if_pos gone
    have finished : s.dropOwners.completion.finished = true := by
      rw [completion]
      exact ConnectionCompletion.finished_finish nofun
    exact {
      recorded := completion ▸ settling.recorded.finish
      closing := settling.closing
      closed := fun _ => .inl finished
      terminal := settling.terminal
      finished := fun _ => .inr (.inr gone)
      gone := fun _ => finished }
  · have completion : s.dropOwners.completion = s.completion := if_neg gone
    exact ⟨settling.frame rfl rfl completion id id, fun later => absurd later gone⟩

/-- The route finishes a connection for which it has failed. -/
theorem Settling.finish (settling : Settling s) {outcome : ConnectionOutcome}
    (remaining : t.remaining = s.remaining) (calls : t.calls = s.calls)
    (completion : t.completion = s.completion.finish outcome) (failed : t.route.failed = true) :
    Settling t := by
  obtain ⟨recorded, closing, closed, terminal, _⟩ := settling
  rw [← remaining] at closing closed
  rw [← calls] at closing closed terminal
  refine ⟨completion ▸ recorded.finish, closing, fun none => (closed none).imp_left fun done => ?_,
    terminal, fun _ => .inr (.inl failed)⟩
  rwa [completion, ConnectionCompletion.finish_of_finished done]

theorem Settled.proceedRoute (settled : Settled s) : Settled (s.after .proceedRoute) := by
  dsimp only [Batch.after]
  split
  next routing =>
    split
    · exact settled
    · refine Settling.dropOwners (settled.frame rfl rfl rfl ?_ ?_)
      all_goals simp [routing, Route.failed, Batch.gone, Route.hasLeft]
  next failing => exact Settling.dropOwners (settled.finish rfl rfl rfl rfl)
  next result returning =>
    have staying : ∀ {t : Batch}, t.route = .returned result → t.gone = false := fun route => by
      simp [Batch.gone, route, Route.hasLeft]
    cases result with
    | none =>
      refine ⟨settled.frame rfl rfl ConnectionCompletion.finish_deferred ?_ ?_, ?_⟩
      all_goals simp [returning, Route.failed, Batch.gone, Route.hasLeft]
    | some failure =>
      refine ⟨settled.finish rfl rfl rfl rfl, fun gone => ?_⟩
      rw [staying rfl] at gone
      cases gone
  next returned =>
    refine Settling.dropOwners (settled.frame rfl rfl rfl ?_ ?_)
    all_goals simp [returned, Route.failed, Batch.gone, Route.hasLeft]
  · exact settled

/-- A call moves on to a point on the same side of the count. -/
theorem Settled.replace (settled : Settled s) (member : call ∈ s.calls)
    (remaining : t.remaining = s.remaining) (calls : t.calls = next :: s.calls.erase call)
    (completion : t.completion = s.completion) (route : t.route = s.route)
    (stage : next.uncounted = call.uncounted)
    (ends : ∀ sequence, next ≠ .finishing sequence .deferred) : Settled t := by
  obtain ⟨⟨recorded, closing, closed, terminal, finished⟩, -⟩ := settled
  refine ⟨⟨completion ▸ recorded, fun other there late => ?_, fun none => ?_,
    fun sequence there => ?_, fun done => ?_⟩, fun gone => ?_⟩
  · rw [remaining]
    rw [calls, List.mem_cons] at there
    obtain rfl | there := there
    · exact closing call member (stage ▸ late)
    · exact closing other (List.mem_of_mem_erase there) late
  · rw [completion, calls]
    obtain done | ⟨other, there, late⟩ := closed (remaining ▸ none)
    · exact .inl done
    · by_cases same : other = call
      · exact .inr ⟨next, List.mem_cons_self, by rw [stage, ← same, late]⟩
      · exact .inr ⟨other, List.mem_cons_of_mem _ ((List.mem_erase_of_ne same).mpr there), late⟩
  · rw [calls, List.mem_cons] at there
    obtain same | there := there
    · exact ends sequence same.symm
    · exact terminal sequence (List.mem_of_mem_erase there)
  · rw [remaining, route]
    exact (finished (completion ▸ done)).imp_right (Or.imp_right fun gone =>
      (call_notMem_of_gone gone member).elim)
  · exact (call_notMem_of_gone gone (calls ▸ List.mem_cons_self)).elim

/-- A call that has just set its flag neither closes nor finishes anything. -/
theorem Settled.complete (settled : Settled s) (member : sequence ∈ s.handles) :
    Settled (s.claim sequence) := by
  obtain ⟨⟨recorded, closing, closed, terminal, finished⟩, -⟩ := settled
  refine ⟨⟨recorded, fun other there late => ?_, fun none => ?_, fun other there => ?_,
    fun done => ?_⟩, fun gone => ?_⟩
  · obtain rfl | there := List.mem_cons.mp there
    · cases late
    · exact closing other there late
  · exact (closed none).imp_right fun ⟨other, there, late⟩ =>
      ⟨other, List.mem_cons_of_mem _ there, late⟩
  · obtain same | there := List.mem_cons.mp there
    · cases same
    · exact terminal other there
  · exact (finished done).imp_right (Or.imp_right fun gone =>
      (handle_notMem_of_gone gone member).elim)
  · exact (call_notMem_of_gone gone List.mem_cons_self).elim

theorem Settled.count (settled : Settled s) (consistent : Consistent request s)
    (member : .counting sequence ∈ s.calls) :
    Settled ({ s with calls := s.calls.erase (.counting sequence) }.perform error
      (.counting sequence)) := by
  have positive := consistent.remaining_pos member rfl
  -- nobody closes the batch while a child is not counted
  have early : ∀ other ∈ s.calls, other.uncounted = false → False := fun other there late =>
    absurd (settled.closing other there late) (Nat.pos_iff_ne_zero.mp positive)
  have reason : s.completion.finished = true → s.route.failed = true := fun done => by
    obtain none | failed | gone := settled.finished done
    · exact absurd none (Nat.pos_iff_ne_zero.mp positive)
    · exact failed
    · exact (call_notMem_of_gone gone member).elim
  dsimp only [Batch.perform]
  split
  · refine ⟨⟨settled.recorded, fun _ _ _ => rfl, fun _ => .inr ⟨_, List.mem_cons_self, rfl⟩,
      fun other there => ?_, fun _ => .inl rfl⟩, fun gone => ?_⟩
    · obtain same | there := List.mem_cons.mp there
      · cases same
      · exact settled.terminal other (List.mem_of_mem_erase there)
    · exact (call_notMem_of_gone gone List.mem_cons_self).elim
  next more =>
    have left : fetchSub s.remaining ≠ 0 := by
      rw [fetchSub_of_pos positive]
      omega
    refine ⟨⟨settled.recorded, fun other there late => ?_, fun none => absurd none left,
      fun other there => settled.terminal other (List.mem_of_mem_erase there),
      fun done => .inr (.inl (reason done))⟩, fun gone => ?_⟩
    · exact (early other (List.mem_of_mem_erase there) late).elim
    · exact (handle_notMem_of_gone gone List.mem_cons_self).elim

theorem Settled.close (settled : Settled s) {outcome : ConnectionOutcome}
    (member : .finishing sequence outcome ∈ s.calls) :
    Settled ({ s with calls := s.calls.erase (.finishing sequence outcome) }.perform error
      (.finishing sequence outcome)) := by
  have terminal : outcome ≠ .deferred := by
    rintro rfl
    exact settled.terminal sequence member
  have finished : (s.completion.finish outcome).finished = true :=
    ConnectionCompletion.finished_finish terminal
  have none : s.remaining = 0 := settled.closing _ member rfl
  exact ⟨⟨settled.recorded.finish, fun _ _ _ => none, fun _ => .inl finished,
    fun other there => settled.terminal other (List.mem_of_mem_erase there),
    fun _ => .inl none⟩, fun _ => finished⟩

theorem Settled.perform (settled : Settled s) (consistent : Consistent request s)
    (member : call ∈ s.calls) :
    Settled ({ s with calls := s.calls.erase call }.perform error call) := by
  cases call with
  | writing sequence =>
    refine settled.replace member rfl rfl rfl rfl ?_ ?_
    all_goals cases error <;> simp [Call.uncounted]
  | counting sequence => exact settled.count consistent member
  | reading sequence =>
    refine settled.replace member rfl rfl rfl rfl rfl fun other same => ?_
    injection same with _ same
    exact ConnectionCompletion.fromRequestResult_ne_deferred _ same
  | finishing sequence outcome => exact settled.close member
  | recording | shutting | releasing =>
    exact settled.replace member rfl rfl rfl rfl rfl (by simp)

theorem Settled.after (settled : Settled s) (consistent : Consistent request s)
    (event : BatchEvent) : Settled (s.after event) := by
  cases event with
  | proceedRoute => exact settled.proceedRoute
  | dispatch | dispatchFails failure =>
    dsimp only [Batch.after]
    split
    next next routing =>
      split
      · refine ⟨settled.frame rfl rfl rfl ?_ ?_, fun gone =>
          (handle_notMem_of_gone gone List.mem_cons_self).elim⟩
        all_goals simp [routing, Route.failed, Batch.gone, Route.hasLeft]
      · exact settled
    · exact settled
  | clone sequence =>
    dsimp only [Batch.after]
    split
    next member =>
      exact ⟨settled.frame rfl rfl rfl id fun gone => (handle_notMem_of_gone gone member).elim,
        fun gone => (handle_notMem_of_gone gone List.mem_cons_self).elim⟩
    · exact settled
  | drop sequence =>
    dsimp only [Batch.after]
    split
    next member =>
      exact Settling.dropOwners (settled.frame rfl rfl rfl id fun gone =>
        (handle_notMem_of_gone gone member).elim)
    · exact settled
  | complete sequence =>
    dsimp only [Batch.after]
    split
    next free => exact settled.complete free.1
    · exact settled
  | proceed call error =>
    dsimp only [Batch.after]
    split
    next member => exact settled.perform consistent member
    · exact settled

end Connection

end Batch

/-! ## Runs -/

section Runs

variable {request : BatchRequest} {s : Batch}

theorem batch_inductive :
    (batchMachine request).Inductive fun s => s.Consistent request ∧ s.Settled where
  start := by
    rintro s rfl
    exact ⟨Batch.start_consistent, Batch.start_settled⟩
  step := by
    rintro s event t ⟨consistent, settled⟩ rfl
    exact ⟨consistent.after event, settled.after consistent event⟩

namespace Batch

/-- Every child has been completed and counted off. -/
structure AllCompleted (request : BatchRequest) (s : Batch) : Prop where
  completed : ∀ sequence < request.children, s.completed[sequence]? = some true
  /-- Each has tried to write its line. -/
  lines : (s.lines.map Line.sequence).Perm (List.range request.children)
  counted : ∀ call ∈ s.calls, call.uncounted = false

theorem Consistent.lt_children (consistent : Consistent request s) {sequence : Nat}
    (member : sequence ∈ s.answered) : sequence < request.children := by
  rw [consistent.answered] at member
  rw [← consistent.length]
  exact (List.getElem?_eq_some_iff.mp member).1

/-- The counter is zero when every child has been counted off. -/
theorem Consistent.allCompleted (consistent : Consistent request s) (none : s.remaining = 0) :
    AllCompleted request s := by
  have counter := consistent.remaining
  have open_ : s.completed.countP (!·) = 0 := by omega
  have uncounted : s.calls.countP Call.uncounted = 0 := by omega
  rw [List.countP_eq_zero] at open_ uncounted
  have counted : ∀ call ∈ s.calls, call.uncounted = false := fun call member => by
    simpa using uncounted call member
  have completed : ∀ sequence < request.children, s.completed[sequence]? = some true := by
    intro sequence lt
    rw [← consistent.length] at lt
    have flag := open_ _ (List.getElem_mem lt)
    rw [List.getElem?_eq_getElem lt]
    simpa using flag
  have written : s.answered = s.lines.map Line.sequence := by
    have none : s.calls.filterMap Call.toWrite = [] := by
      refine List.filterMap_eq_nil_iff.mpr fun call member => ?_
      have counted := counted call member
      cases call with
      | writing => cases counted
      | recording | counting | shutting | releasing | reading | finishing => rfl
    rw [Batch.answered, none, List.append_nil]
  refine ⟨completed, ?_, counted⟩
  refine (List.perm_ext_iff_of_nodup (written ▸ consistent.nodup) List.nodup_range).mpr
    fun sequence => ?_
  rw [List.mem_range, ← written]
  exact ⟨fun member => consistent.lt_children member, fun lt =>
    (consistent.answered sequence).mpr (completed sequence lt)⟩

/-- A route that could not dispatch a child finishes the connection. -/
theorem outcomes_of_failing {failure : RequestFailure} (recorded : s.completion.Recorded)
    (failing : s.route = .failing failure) (open_ : s.completion.finished = false) :
    (s.after .proceedRoute).completion.outcomes = [.fromRequestResult (some failure)] := by
  have none : s.completion.outcomes = [] := by
    rw [ConnectionCompletion.Recorded, open_] at recorded
    exact List.eq_nil_of_length_eq_zero recorded
  have terminal := ConnectionCompletion.fromRequestResult_ne_deferred (some failure)
  simp [Batch.after, failing, dropOwners, Route.hasLeft, ConnectionCompletion.finish, terminal,
    open_, none]

end Batch

/-- Each child writes at most one line, a call that counts its child off finds the counter
positive, and the connection is finished at most once. Unless a child could not be dispatched
or all owners have given up, it is finished only after every child has completed. It is
finished once every child is completed and no call is under way, and once nobody owns it. A
route that could not dispatch a child finishes it with the failure at its next step. -/
theorem batch_contract (reachable : (batchMachine request).Reachable s) :
    (s.lines.map Line.sequence).Nodup ∧
      (∀ line ∈ s.lines, line.sequence < request.children) ∧
      (∀ sequence, .counting sequence ∈ s.calls → 0 < s.remaining) ∧
      s.completion.Recorded ∧
      (s.completion.finished = true →
        s.AllCompleted request ∨ s.route.failed = true ∨ s.gone = true) ∧
      ((∀ sequence < request.children, s.completed[sequence]? = some true) → s.calls = [] →
        s.completion.finished = true) ∧
      (s.gone = true → s.completion.finished = true) ∧
      (∀ failure, s.route = .failing failure → s.completion.finished = false →
        (s.after .proceedRoute).completion.outcomes = [.fromRequestResult (some failure)]) := by
  obtain ⟨consistent, settled⟩ := batch_inductive.holds reachable
  refine ⟨(List.nodup_append.mp consistent.nodup).1, fun line member => ?_,
    fun sequence member => consistent.remaining_pos member rfl, settled.recorded,
    fun done => (settled.finished done).imp_left consistent.allCompleted,
    fun completed idle => ?_, settled.gone,
    fun failure failing open_ => Batch.outcomes_of_failing settled.recorded failing open_⟩
  · exact consistent.lt_children
      (List.mem_append_left _ (List.mem_map_of_mem member))
  · have none : s.remaining = 0 := by
      rw [consistent.remaining, idle, List.countP_nil, Nat.add_zero, List.countP_eq_zero]
      intro flag member
      obtain ⟨sequence, here⟩ := List.getElem?_of_mem member
      have lt := (List.getElem?_eq_some_iff.mp here).1
      rw [completed sequence (consistent.length ▸ lt)] at here
      cases here
      simp
    obtain done | ⟨call, member, _⟩ := settled.closed none
    · exact done
    · rw [idle] at member
      cases member

theorem batch_reachable (events : List BatchEvent) :
    (batchMachine request).Reachable (events.foldl .after (.start request)) :=
  .foldl (fun _ _ _ => rfl) (.start rfl)

end Runs

/-- Two children. The second is completed first. The first is completed by its deadline while
the other counts itself off, and then by its search. -/
def sampleBatchEvents : List BatchEvent :=
  [.dispatch, .dispatch, .clone 0, .complete 1, .proceed (.writing 1) none, .complete 0,
    .proceed (.counting 1) none, .complete 0, .proceed (.writing 0) none,
    .proceed (.counting 0) none, .proceedRoute, .proceed (.shutting 0) none,
    .proceed (.releasing 0) none, .proceed (.reading 0) none,
    .proceed (.finishing 0 .completed) none]

theorem batch_contract_of_children :
    let s := sampleBatchEvents.foldl .after (Batch.start ⟨2, by decide, by decide⟩)
    s.completion.finished = true ∧ s.AllCompleted ⟨2, by decide, by decide⟩ ∧
      s.lines.map Line.sequence = [1, 0] ∧ s.completion.outcomes = [.completed] :=
  have contract := batch_contract
    (@batch_reachable ⟨2, by decide, by decide⟩ sampleBatchEvents)
  have finished := contract.2.2.2.2.2.1 (by decide) (by decide)
  ⟨finished, (contract.2.2.2.2.1 finished).resolve_right (by decide), by decide, by decide⟩

/-- The second of two children cannot be dispatched: the connection is finished while the
first is still being searched for. -/
theorem finished_before_first_child :
    ∃ s, (batchMachine ⟨2, by decide, by decide⟩).Reachable s ∧
      s.completion.outcomes = [.requestFailed .handler] ∧ s.completed = [false, false] ∧
      s.handles = [1, 0] ∧ s.lines = [] :=
  ⟨_, batch_reachable [.dispatch, .dispatchFails .handler, .proceedRoute],
    by decide, by decide, by decide, by decide⟩

end ResumeIr.Daemon.SearchService
