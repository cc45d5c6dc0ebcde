import ResumeIr.Daemon.SearchService.Queue
import ResumeIr.Foundation.Threads

/-!
# The generation handoff as a protocol

A publisher issues a generation control and waits for its result; the worker
takes the control out of the queue, carries it out, notes its completion and
answers. A wait may time out between any two steps of the worker, and the queue
may be closed at any time.

This module states the handoff on its own: what the two sides share, and one
move for each thing that can happen to a control. Its invariants relate the slot
of the queue a control is in to what the worker is doing and to what the
publisher waits for (`handoffProtocol_outline`). They rest on one fact: a
publisher that waits has a control in one of the three slots until the queue is
closed, so no second control is issued.
-/

namespace ResumeIr.Daemon.SearchService

open Foundation

/-! ## What the two sides share -/

/-- The slots and flags of the queue that belong to the handoff, the reply
channels, and what has happened to controls so far. -/
structure Handoff where
  queued : Option QueuedGenerationControl
  active : Option GenerationControlId
  completed : Option CompletedGenerationControl
  commitInFlight : Bool
  failed : Bool
  closed : Bool
  replyChannels : ReplyRef → Option Bool
  nextReply : ReplyRef
  executed : List ReplyRef
  withdrawn : List ReplyRef
  rejected : List ReplyRef
  produced : List (ReplyRef × Bool)
  delivered : List (ReplyRef × Bool)

def Handoff.initial : Handoff where
  queued := none
  active := none
  completed := none
  commitInFlight := false
  failed := false
  closed := false
  replyChannels := fun _ => none
  nextReply := 0
  executed := []
  withdrawn := []
  rejected := []
  produced := []
  delivered := []

namespace Handoff

/-- No control is queued, active or completed and unacknowledged. -/
def Vacant (h : Handoff) : Prop := h.queued = none ∧ h.active = none ∧ h.completed = none

/-- A control that was taken out of the queue by closing it is answered with
`false`. -/
def reject (h : Handoff) : Option QueuedGenerationControl → Handoff
  | some control =>
      { h with
        replyChannels := Function.update h.replyChannels control.command.reply (some false)
        rejected := h.rejected ++ [control.command.reply] }
  | none => h

def close (h : Handoff) : Handoff :=
  { h with closed := true, commitInFlight := false, queued := none, completed := none }.reject
    h.queued

def issue (h : Handoff) (id : GenerationControlId) (command : GenerationControl) : Handoff :=
  { h with
    queued := some ⟨id, command⟩
    commitInFlight := command.isInstall || h.commitInFlight
    nextReply := h.nextReply + 1 }

/-- The completion is noted unless the protocol has failed. -/
def complete (h : Handoff) (control : QueuedGenerationControl) (result : Bool) : Handoff :=
  { h with
    active := if h.active = some control.id then none else h.active
    commitInFlight := h.commitInFlight && !control.command.isFinalize
    completed := if h.failed then h.completed else some ⟨control.id, result⟩
    produced := h.produced ++ [(control.command.reply, result)] }

def receive (h : Handoff) (reply : ReplyRef) (result : Bool) : Handoff :=
  { h with
    replyChannels := Function.update h.replyChannels reply none
    delivered := h.delivered ++ [(reply, result)] }

def withdraw (h : Handoff) (reply : ReplyRef) (control : QueuedGenerationControl) : Handoff :=
  { h with
    queued := none
    commitInFlight := h.commitInFlight && !control.command.isInstall
    withdrawn := h.withdrawn ++ [reply] }

end Handoff

/-! ## The moves -/

/-- What the worker is doing about a control. -/
inductive WorkerPhase where
  | free
  | handling (control : QueuedGenerationControl)
  | finishing (control : QueuedGenerationControl) (result : Bool)
  | answering (reply : ReplyRef) (result : Bool)

inductive PublisherPhase where
  | idle
  | waiting (reply : ReplyRef) (id : GenerationControlId)
  | acknowledging

/-- The part of a thread in the handoff. The worker also knows whether its
coordinator holds a pending generation. -/
inductive HandoffRole where
  | bystander
  | worker (pending : Bool) (phase : WorkerPhase)
  | publisher (phase : PublisherPhase)

inductive HandoffMove : HandoffRole → Handoff → HandoffRole → Handoff → Prop where
  | stay {role : HandoffRole} {h : Handoff} : HandoffMove role h role h
  | forget {h : Handoff} {pending pending' : Bool} {phase : WorkerPhase}
      (fewer : pending' = true → pending = true) :
      HandoffMove (.worker pending phase) h (.worker pending' phase) h
  -- the worker
  | take {h : Handoff} {pending : Bool} {control : QueuedGenerationControl}
      (queued : h.queued = some control) :
      HandoffMove (.worker pending .free) h (.worker pending (.handling control))
        { h with queued := none, active := some control.id }
  | pass {h : Handoff} {pending : Bool} {control : QueuedGenerationControl} (result : Bool)
      (other : control.command.isFinalize = false) :
      HandoffMove (.worker pending (.handling control)) h
        (.worker pending (.finishing control result)) h
  | install {h : Handoff} {pending pending' : Bool} {control : QueuedGenerationControl}
      (result : Bool) (installs : control.command.isInstall = true) :
      HandoffMove (.worker pending (.handling control)) h
        (.worker pending' (.finishing control result))
        { h with executed := h.executed ++ [control.command.reply] }
  | finalize {h : Handoff} {pending : Bool} {control : QueuedGenerationControl} (result : Bool)
      (finalizes : control.command.isFinalize = true) :
      HandoffMove (.worker pending (.handling control)) h
        (.worker false (.finishing control result)) h
  | complete {h : Handoff} {pending : Bool} {control : QueuedGenerationControl} {result : Bool} :
      HandoffMove (.worker pending (.finishing control result)) h
        (.worker pending (.answering control.command.reply result)) (h.complete control result)
  | answer {h : Handoff} {pending : Bool} {reply : ReplyRef} {result : Bool} :
      HandoffMove (.worker pending (.answering reply result)) h (.worker pending .free)
        { h with replyChannels := Function.update h.replyChannels reply (some result) }
  -- a client
  | close {h : Handoff} : HandoffMove .bystander h .bystander h.close
  -- a publisher
  | issue {h : Handoff} {id : GenerationControlId} {command : GenerationControl}
      (opened : h.closed = false) (vacant : h.Vacant) (own : command.reply = h.nextReply)
      (alone : command.isInstall = true → h.commitInFlight = false) :
      HandoffMove (.publisher .idle) h (.publisher (.waiting h.nextReply id)) (h.issue id command)
  | receive {h : Handoff} {reply : ReplyRef} {id : GenerationControlId} {result : Bool}
      (received : h.replyChannels reply = some result) :
      HandoffMove (.publisher (.waiting reply id)) h (.publisher .acknowledging)
        (h.receive reply result)
  | acknowledge {h : Handoff} {completed : Option CompletedGenerationControl}
      (cleared : completed = none ∨ completed = h.completed) :
      HandoffMove (.publisher .acknowledging) h (.publisher .idle) { h with completed }
  | collect {h : Handoff} {reply : ReplyRef} {id : GenerationControlId} {result : Bool}
      (there : h.completed = some ⟨id, result⟩) :
      HandoffMove (.publisher (.waiting reply id)) h (.publisher .idle)
        { h with completed := none, delivered := h.delivered ++ [(reply, result)] }
  | withdraw {h : Handoff} {reply : ReplyRef} {id : GenerationControlId}
      {control : QueuedGenerationControl} (queued : h.queued = some control)
      (named : control.id = id) :
      HandoffMove (.publisher (.waiting reply id)) h (.publisher .idle) (h.withdraw reply control)
  | fail {h : Handoff} {reply : ReplyRef} {id : GenerationControlId}
      {queued : Option QueuedGenerationControl} (dropped : queued = none ∨ queued = h.queued) :
      HandoffMove (.publisher (.waiting reply id)) h (.publisher .idle)
        { h with queued, failed := true, closed := true }

/-! ## The invariants -/

namespace Handoff

variable (h : Handoff)

/-- A result that a publisher may receive for a control: the one that the worker
produced for it, or `false` when the control was rejected. -/
def Answers (reply : ReplyRef) (result : Bool) : Prop :=
  (reply, result) ∈ h.produced ∨ (reply ∈ h.rejected ∧ result = false)

/-- A control that was issued and of which nothing was produced. -/
structure Open (reply : ReplyRef) : Prop where
  issued : reply < h.nextReply
  unproduced : reply ∉ h.produced.map Prod.fst
  unrejected : reply ∉ h.rejected

/-- A control that was also neither executed nor withdrawn. -/
structure Untouched (reply : ReplyRef) : Prop extends h.Open reply where
  unexecuted : reply ∉ h.executed
  kept : reply ∉ h.withdrawn

/-- A pending generation is allowed: a commit is in flight that no withdrawal
can end, or the queue is closed. -/
def Committing : Prop :=
  h.closed = true ∨ (h.commitInFlight = true ∧
    ∀ control, h.queued = some control → control.command.isInstall = false)

/-- Every reply that was recorded belongs to a control that was issued. -/
structure Issued : Prop where
  executed : ∀ reply ∈ h.executed, reply < h.nextReply
  withdrawn : ∀ reply ∈ h.withdrawn, reply < h.nextReply
  rejected : ∀ reply ∈ h.rejected, reply < h.nextReply
  produced : ∀ reply ∈ h.produced.map Prod.fst, reply < h.nextReply
  delivered : ∀ reply ∈ h.delivered.map Prod.fst, reply < h.nextReply

structure Valid : Prop extends h.Issued where
  queued_alone : h.queued ≠ none → h.active = none ∧ h.completed = none
  active_alone : h.active ≠ none → h.completed = none
  failed_closed : h.failed = true → h.closed = true
  queued_untouched : ∀ control, h.queued = some control → h.Untouched control.command.reply
  queued_install : ∀ control, h.queued = some control → control.command.isInstall = true →
    h.commitInFlight = true
  channel : ∀ reply result, h.replyChannels reply = some result → h.Answers reply result
  delivered_once : (h.delivered.map Prod.fst).Nodup
  delivered_answers : ∀ reply result, (reply, result) ∈ h.delivered → h.Answers reply result
  produced_once : (h.produced.map Prod.fst).Nodup
  rejected_unproduced : ∀ reply ∈ h.rejected, reply ∉ h.produced.map Prod.fst
  withdrawn_unexecuted : ∀ reply ∈ h.withdrawn, reply ∉ h.executed

end Handoff

/-- What the worker knows at each point. -/
def WorkerPhase.Knows (pending : Bool) (h : Handoff) : WorkerPhase → Prop
  | .free => True
  | .handling control =>
      h.active = some control.id ∧ h.Untouched control.command.reply ∧
        (control.command.isInstall = true → h.Committing)
  | .finishing control _ =>
      h.active = some control.id ∧ h.Open control.command.reply ∧
        (control.command.isFinalize = true → pending = false)
  | .answering reply result => (reply, result) ∈ h.produced

/-- What a publisher knows that waits. -/
structure Handoff.Awaited (h : Handoff) (reply : ReplyRef) (id : GenerationControlId) :
    Prop where
  issued : reply < h.nextReply
  undelivered : reply ∉ h.delivered.map Prod.fst
  queued : ∀ control, h.queued = some control → control.id = id ∧ control.command.reply = reply
  completed : ∀ completed, h.completed = some completed →
    completed.id = id ∧ (reply, completed.result) ∈ h.produced

/-- A publisher that has not finished its call keeps a slot occupied. -/
def PublisherPhase.Knows (h : Handoff) : PublisherPhase → Prop
  | .idle => True
  | .waiting reply id => (h.Vacant → h.closed = true) ∧ h.Awaited reply id
  | .acknowledging => h.Vacant → h.closed = true

def HandoffRole.Knows : HandoffRole → Handoff → Prop
  | .bystander, _ => True
  | .worker pending phase, h => (pending = true → h.Committing) ∧ phase.Knows pending h
  | .publisher phase, h => phase.Knows h

def WorkerPhase.control : WorkerPhase → Option QueuedGenerationControl
  | .handling control => some control
  | .finishing control _ => some control
  | _ => none

/-- A control is the one that a publisher waits for, if it waits. -/
def PublisherPhase.Agrees (control : QueuedGenerationControl) : PublisherPhase → Prop
  | .waiting reply id => control.id = id ∧ control.command.reply = reply
  | _ => True

/-- There is one worker, at most one publisher has a call under way, and the
worker works on the control that the publisher waits for. -/
def HandoffRole.Fits : HandoffRole → HandoffRole → Prop
  | .worker _ _, .worker _ _ => False
  | .worker _ phase, .publisher call =>
      ∀ control, phase.control = some control → call.Agrees control
  | .publisher call, .publisher another => call = .idle ∨ another = .idle
  | _, _ => True

def HandoffRole.Apart (role other : HandoffRole) : Prop := role.Fits other ∧ other.Fits role

/-! ## What each move keeps -/

namespace Handoff

variable {h : Handoff} {control : QueuedGenerationControl} {reply : ReplyRef} {result : Bool}

theorem closed_close (h : Handoff) : h.close.closed = true := by
  unfold close
  cases h.queued <;> rfl

theorem produced_close (h : Handoff) : h.close.produced = h.produced := by
  unfold close
  cases h.queued <;> rfl

theorem Valid.queued_of_active (valid : h.Valid) (busy : h.active = some control.id) :
    h.queued = none := by
  by_contra occupied
  rw [(valid.queued_alone occupied).1] at busy
  cases busy

theorem Valid.not_queued (valid : h.Valid) (busy : h.active = some control.id)
    (other : QueuedGenerationControl) : h.queued ≠ some other := by
  rw [valid.queued_of_active busy]
  nofun

theorem Valid.take (valid : h.Valid) (queued : h.queued = some control) :
    Valid { h with queued := none, active := some control.id } :=
  { valid with
    queued_alone := fun occupied => absurd rfl occupied
    active_alone := fun _ => (valid.queued_alone (by simp [queued])).2
    queued_untouched := nofun
    queued_install := nofun }

theorem Valid.install (valid : h.Valid) (busy : h.active = some control.id)
    (untouched : h.Untouched control.command.reply) :
    Valid { h with executed := h.executed ++ [control.command.reply] } :=
  { valid with
    executed := forall_mem_concat valid.executed untouched.issued
    queued_untouched := fun other queued => absurd queued (valid.not_queued busy other)
    withdrawn_unexecuted := by
      intro other withdrawn member
      obtain old | new := List.mem_append.mp member
      · exact valid.withdrawn_unexecuted other withdrawn old
      · rw [List.mem_singleton.mp new] at withdrawn
        exact untouched.kept withdrawn }

theorem nodup_fst_append {entries : List (ReplyRef × Bool)} (once : (entries.map Prod.fst).Nodup)
    (fresh : reply ∉ entries.map Prod.fst) (result : Bool) :
    ((entries ++ [(reply, result)]).map Prod.fst).Nodup := by
  rw [List.map_append]
  exact List.concat_eq_append ▸ once.concat fresh

theorem mem_fst_append {entries : List (ReplyRef × Bool)} {other : ReplyRef} :
    other ∈ (entries ++ [(reply, result)]).map Prod.fst ↔
      other ∈ entries.map Prod.fst ∨ other = reply := by
  simp

theorem Answers.complete {other : ReplyRef} {answer : Bool} (answers : h.Answers other answer) :
    (h.complete control result).Answers other answer := by
  obtain produced | rejected := answers
  · exact .inl (List.mem_append_left _ produced)
  · exact .inr rejected

/-- The control under way is the only one, so its completion fills the only
slot. -/
theorem Valid.complete (valid : h.Valid) (busy : h.active = some control.id)
    (unanswered : h.Open control.command.reply) : (h.complete control result).Valid :=
  { valid with
    produced := by
      intro other member
      obtain old | rfl := mem_fst_append.mp member
      · exact valid.produced other old
      · exact unanswered.issued
    queued_alone := fun occupied => absurd (valid.queued_of_active busy) occupied
    active_alone := fun occupied => absurd (if_pos busy) occupied
    queued_untouched := fun other queued => absurd queued (valid.not_queued busy other)
    queued_install := fun other queued => absurd queued (valid.not_queued busy other)
    channel := fun other answer there => (valid.channel other answer there).complete
    delivered_answers := fun other answer there =>
      (valid.delivered_answers other answer there).complete
    produced_once := nodup_fst_append valid.produced_once unanswered.unproduced result
    rejected_unproduced := by
      intro other rejected member
      obtain old | rfl := mem_fst_append.mp member
      · exact valid.rejected_unproduced other rejected old
      · exact unanswered.unrejected rejected }

theorem Valid.answer (valid : h.Valid) (produced : (reply, result) ∈ h.produced) :
    Valid { h with replyChannels := Function.update h.replyChannels reply (some result) } :=
  { valid with
    queued_untouched := fun other queued => { valid.queued_untouched other queued with }
    delivered_answers := valid.delivered_answers
    channel := by
      intro other answer there
      by_cases same : other = reply
      · subst same
        simp only [Function.update_self, Option.some.injEq] at there
        exact .inl (there ▸ produced)
      · simp only [Function.update_of_ne same] at there
        exact valid.channel other answer there }

theorem Valid.reject (valid : h.Valid) (empty : h.queued = none)
    (untouched : h.Untouched control.command.reply) : (h.reject (some control)).Valid := by
  have answers : ∀ {other answer}, h.Answers other answer →
      (h.reject (some control)).Answers other answer := by
    rintro other answer (produced | ⟨rejected, rfl⟩)
    · exact .inl produced
    · exact .inr ⟨List.mem_append_left _ rejected, rfl⟩
  exact
  { valid with
    rejected := forall_mem_concat valid.rejected untouched.issued
    queued_untouched := fun other queued => absurd (empty.symm.trans queued) nofun
    channel := by
      intro other answer there
      by_cases same : other = control.command.reply
      · subst same
        simp only [Handoff.reject, Function.update_self, Option.some.injEq] at there
        exact .inr ⟨List.mem_append_right _ (List.mem_singleton.mpr rfl), there.symm⟩
      · simp only [Handoff.reject, Function.update_of_ne same] at there
        exact answers (valid.channel other answer there)
    delivered_answers := fun other answer there =>
      answers (valid.delivered_answers other answer there)
    rejected_unproduced := forall_mem_concat valid.rejected_unproduced untouched.unproduced }

theorem Valid.close (valid : h.Valid) : h.close.Valid := by
  have emptied : Valid
      { h with closed := true, commitInFlight := false, queued := none, completed := none } :=
    { valid with
      queued_alone := fun occupied => absurd rfl occupied
      active_alone := fun _ => rfl
      failed_closed := fun _ => rfl
      queued_untouched := nofun
      queued_install := nofun
      delivered_answers := valid.delivered_answers }
  unfold Handoff.close
  cases queued : h.queued with
  | none => exact emptied
  | some control => exact emptied.reject rfl { valid.queued_untouched control queued with }

theorem Valid.issue (valid : h.Valid) {id : GenerationControlId} {command : GenerationControl}
    (vacant : h.Vacant) (own : command.reply = h.nextReply) : (h.issue id command).Valid := by
  have old : ∀ {replies : List ReplyRef}, (∀ reply ∈ replies, reply < h.nextReply) →
      h.nextReply ∉ replies := fun issued member => Nat.lt_irrefl _ (issued _ member)
  exact
  { valid with
    executed := fun other member => Nat.lt_succ_of_lt (valid.executed other member)
    withdrawn := fun other member => Nat.lt_succ_of_lt (valid.withdrawn other member)
    rejected := fun other member => Nat.lt_succ_of_lt (valid.rejected other member)
    produced := fun other member => Nat.lt_succ_of_lt (valid.produced other member)
    delivered := fun other member => Nat.lt_succ_of_lt (valid.delivered other member)
    queued_alone := fun _ => ⟨vacant.2.1, vacant.2.2⟩
    queued_untouched := by
      rintro control ⟨⟩
      rw [own]
      exact ⟨⟨Nat.lt_succ_self _, old valid.produced, old valid.rejected⟩, old valid.executed,
        old valid.withdrawn⟩
    queued_install := by
      rintro control ⟨⟩ installs
      simp [Handoff.issue, installs]
    delivered_answers := valid.delivered_answers }

theorem Valid.deliver (valid : h.Valid) (issued : reply < h.nextReply)
    (undelivered : reply ∉ h.delivered.map Prod.fst) (answers : h.Answers reply result) :
    Valid { h with delivered := h.delivered ++ [(reply, result)] } :=
  { valid with
    delivered := by
      intro other member
      obtain old | rfl := mem_fst_append.mp member
      · exact valid.delivered other old
      · exact issued
    queued_untouched := fun other queued => { valid.queued_untouched other queued with }
    delivered_once := nodup_fst_append valid.delivered_once undelivered result
    delivered_answers := by
      intro other answer member
      obtain old | new := List.mem_append.mp member
      · exact valid.delivered_answers other answer old
      · cases List.mem_singleton.mp new
        exact answers }

theorem Valid.receive (valid : h.Valid) {id : GenerationControlId}
    (awaited : h.Awaited reply id) (received : h.replyChannels reply = some result) :
    (h.receive reply result).Valid := by
  have delivered := valid.deliver awaited.issued awaited.undelivered
    (valid.channel reply result received)
  exact
  { delivered with
    queued_untouched := fun other queued => { delivered.queued_untouched other queued with }
    channel := by
      intro other answer there
      by_cases same : other = reply
      · subst same
        simp [Handoff.receive] at there
      · simp only [Handoff.receive, Function.update_of_ne same] at there
        exact valid.channel other answer there
    delivered_answers := delivered.delivered_answers }

theorem Valid.clearCompleted (valid : h.Valid) : Valid { h with completed := none } :=
  { valid with
    queued_alone := fun occupied => ⟨(valid.queued_alone occupied).1, rfl⟩
    active_alone := fun _ => rfl
    queued_untouched := fun other queued => { valid.queued_untouched other queued with }
    channel := valid.channel
    delivered_answers := valid.delivered_answers }

theorem Valid.withdraw (valid : h.Valid) (queued : h.queued = some control)
    (named : control.command.reply = reply) : (h.withdraw reply control).Valid := by
  have untouched := valid.queued_untouched control queued
  rw [named] at untouched
  exact
  { valid with
    withdrawn := forall_mem_concat valid.withdrawn untouched.issued
    queued_alone := fun occupied => absurd rfl occupied
    queued_untouched := nofun
    queued_install := nofun
    withdrawn_unexecuted := forall_mem_concat valid.withdrawn_unexecuted untouched.unexecuted }

theorem Valid.fail (valid : h.Valid) {queued : Option QueuedGenerationControl}
    (dropped : queued = none ∨ queued = h.queued) :
    Valid { h with queued, failed := true, closed := true } := by
  have kept : ∀ {control}, queued = some control → h.queued = some control := by
    rintro control rfl
    exact (dropped.resolve_left nofun).symm
  exact
  { valid with
    queued_alone := by
      intro occupied
      obtain ⟨control, there⟩ := Option.ne_none_iff_exists'.mp occupied
      exact valid.queued_alone (by rw [kept there]; nofun)
    failed_closed := fun _ => rfl
    queued_untouched := fun control there =>
      { valid.queued_untouched control (kept there) with }
    queued_install := fun control there => valid.queued_install control (kept there)
    delivered_answers := valid.delivered_answers }

end Handoff

section Roles

variable {h h' : Handoff} {role role' other : HandoffRole} {pending : Bool} {phase : WorkerPhase}
  {control : QueuedGenerationControl}

theorem GenerationControl.isFinalize_of_isInstall {command : GenerationControl}
    (installs : command.isInstall = true) : command.isFinalize = false := by
  cases command with
  | install => rfl
  | _ => cases installs

/-- While the worker has a control, its slot is the active one. -/
theorem WorkerPhase.Knows.active (knows : phase.Knows pending h)
    (busy : phase.control = some control) : h.active = some control.id := by
  cases phase with
  | handling | finishing => cases busy; exact knows.1
  | _ => cases busy

/-- Between controls none is active. -/
theorem WorkerPhase.Knows.free (knows : phase.Knows pending h)
    (idle : ∀ control : QueuedGenerationControl, h.active ≠ some control.id) :
    phase.control = none := by
  by_contra occupied
  obtain ⟨control, busy⟩ := Option.ne_none_iff_exists'.mp occupied
  exact idle control (knows.active busy)

theorem WorkerPhase.Knows.mono (knows : phase.Knows pending h) (active : h'.active = h.active)
    (open_ : ∀ reply, h.Open reply → h'.Open reply)
    (untouched : ∀ reply, h.Untouched reply → h'.Untouched reply)
    (committing : h.Committing → h'.Committing) (produced : h.produced ⊆ h'.produced) :
    phase.Knows pending h' := by
  cases phase with
  | free => trivial
  | handling control =>
    obtain ⟨busy, unsettled, installs⟩ := knows
    exact ⟨active.trans busy, untouched _ unsettled, fun install => committing (installs install)⟩
  | finishing control result =>
    obtain ⟨busy, unanswered, finalizes⟩ := knows
    exact ⟨active.trans busy, open_ _ unanswered, finalizes⟩
  | answering reply result => exact produced knows

theorem WorkerPhase.Knows.mono_free (knows : phase.Knows pending h) (free : phase.control = none)
    (produced : h.produced ⊆ h'.produced) : phase.Knows pending h' := by
  cases phase with
  | free => trivial
  | handling | finishing => cases free
  | answering reply result => exact produced knows

/-- The worker does not depend on what publishers alone read. -/
theorem WorkerPhase.Knows.elsewhere (knows : phase.Knows pending h)
    (completed : Option CompletedGenerationControl) (replyChannels : ReplyRef → Option Bool)
    (delivered : List (ReplyRef × Bool)) :
    phase.Knows pending { h with completed, replyChannels, delivered } :=
  knows.mono rfl (fun _ unanswered => { unanswered with }) (fun _ untouched => { untouched with })
    id (List.Subset.refl _)

theorem WorkerPhase.Knows.forget {pending' : Bool} (knows : phase.Knows pending h)
    (fewer : pending' = true → pending = true) : phase.Knows pending' h := by
  cases phase with
  | finishing control result =>
    obtain ⟨busy, unanswered, finalizes⟩ := knows
    refine ⟨busy, unanswered, fun final => ?_⟩
    cases pending' with
    | false => rfl
    | true => exact (fewer rfl).symm.trans (finalizes final)
  | _ => exact knows

/-! ### The thread that moves -/

theorem HandoffMove.own (move : HandoffMove role h role' h') (valid : h.Valid)
    (knows : role.Knows h) : h'.Valid ∧ role'.Knows h' := by
  cases move with
  | stay => exact ⟨valid, knows⟩
  | forget fewer =>
    exact ⟨valid, fun pending => knows.1 (fewer pending), knows.2.forget fewer⟩
  | @take _ _ control queued =>
    refine ⟨valid.take queued, fun pending => ?_, rfl, ?_, fun installs => ?_⟩
    · exact (knows.1 pending).imp id fun flight => ⟨flight.1, nofun⟩
    · exact { valid.queued_untouched control queued with }
    · exact .inr ⟨valid.queued_install control queued installs, nofun⟩
  | pass _ kept =>
    obtain ⟨committing, busy, untouched, -⟩ := knows
    refine ⟨valid, committing, busy, untouched.toOpen, fun final => ?_⟩
    rw [kept] at final
    cases final
  | install _ installs =>
    obtain ⟨-, busy, untouched, committing⟩ := knows
    refine ⟨valid.install busy untouched, fun _ => committing installs, busy,
      { untouched.toOpen with }, fun final => ?_⟩
    rw [GenerationControl.isFinalize_of_isInstall installs] at final
    cases final
  | finalize =>
    obtain ⟨-, busy, untouched, -⟩ := knows
    exact ⟨valid, nofun, busy, untouched.toOpen, fun _ => rfl⟩
  | @complete _ _ control result =>
    obtain ⟨committing, busy, unanswered, finalizes⟩ := knows
    refine ⟨valid.complete busy unanswered, fun pending => ?_, ?_⟩
    · refine (committing pending).imp id fun flight => ⟨?_, flight.2⟩
      -- a finalize leaves nothing pending, so this completion ends no commit
      have other : control.command.isFinalize = false := by
        by_contra final
        rw [finalizes (by simpa using final)] at pending
        cases pending
      simp [Handoff.complete, flight.1, other]
    · exact List.mem_append_right _ (List.mem_singleton.mpr rfl)
  | answer => exact ⟨valid.answer knows.2, knows.1, trivial⟩
  | close => exact ⟨valid.close, trivial⟩
  | issue opened vacant own alone =>
    refine ⟨valid.issue vacant own, fun empty => absurd empty.1 nofun, ?_⟩
    refine ⟨Nat.lt_succ_self _, fun member => ?_, ?_, ?_⟩
    · exact Nat.lt_irrefl _ (valid.delivered _ member)
    · rintro control ⟨⟩
      exact ⟨rfl, own⟩
    · intro completed there
      exact absurd (vacant.2.2.symm.trans there) nofun
  | receive received => exact ⟨valid.receive knows.2 received, knows.1⟩
  | acknowledge cleared =>
    obtain rfl | rfl := cleared
    · exact ⟨valid.clearCompleted, trivial⟩
    · exact ⟨valid, trivial⟩
  | collect there =>
    obtain ⟨-, awaited⟩ := knows
    have delivered := valid.deliver awaited.issued awaited.undelivered
      (.inl (awaited.completed _ there).2)
    exact ⟨delivered.clearCompleted, trivial⟩
  | withdraw queued =>
    exact ⟨valid.withdraw queued (knows.2.queued _ queued).2, trivial⟩
  | fail dropped => exact ⟨valid.fail dropped, trivial⟩

/-! ### The threads that stay -/

theorem PublisherPhase.Knows.agrees {call : PublisherPhase} (knows : call.Knows h)
    (queued : h.queued = some control) : call.Agrees control := by
  cases call with
  | waiting reply id => exact knows.2.queued control queued
  | _ => trivial

theorem PublisherPhase.Knows.mono {call : PublisherPhase} (knows : call.Knows h)
    (occupied : (h.Vacant → h.closed = true) → h'.Vacant → h'.closed = true)
    (awaited : ∀ reply id, call = .waiting reply id → h.Awaited reply id → h'.Awaited reply id) :
    call.Knows h' := by
  cases call with
  | idle => trivial
  | waiting reply id => exact ⟨occupied knows.1, awaited reply id rfl knows.2⟩
  | acknowledging => exact occupied knows

/-- The worker moves, a publisher stays. -/
theorem HandoffMove.worker_publisher {call : PublisherPhase}
    (move : HandoffMove (.worker pending phase) h role' h') (valid : h.Valid)
    (works : phase.Knows pending h) (knows : call.Knows h)
    (fits : ∀ control, phase.control = some control → call.Agrees control) :
    call.Knows h' ∧ role'.Apart (.publisher call) := by
  cases move with
  | stay | forget | pass | finalize => exact ⟨knows, fits, trivial⟩
  | take queued =>
    refine ⟨knows.mono (fun _ vacant => absurd vacant.2.1 nofun) ?_, ?_, trivial⟩
    · exact fun _ _ _ awaited => { awaited with queued := nofun }
    · rintro control ⟨⟩
      exact knows.agrees queued
  | install => exact ⟨knows.mono id fun _ _ _ awaited => { awaited with }, fits, trivial⟩
  | @complete _ _ control result =>
    obtain ⟨busy, -, -⟩ := works
    have idle : h.completed = none := valid.active_alone (by rw [busy]; nofun)
    refine ⟨knows.mono ?_ ?_, nofun, trivial⟩
    · rintro - ⟨-, -, noted⟩
      refine valid.failed_closed (by_contra fun fine => ?_)
      simp [Handoff.complete, fine] at noted
    · rintro reply id rfl awaited
      refine { awaited with completed := fun completed noted => ?_ }
      cases failed : h.failed with
      | true => simp [Handoff.complete, failed, idle] at noted
      | false =>
        simp only [Handoff.complete, failed] at noted
        cases noted
        obtain ⟨named, rfl⟩ := fits control rfl
        exact ⟨named, List.mem_append_right _ (List.mem_singleton.mpr rfl)⟩
  | answer => exact ⟨knows.mono id fun _ _ _ awaited => { awaited with }, nofun, trivial⟩

/-- A publisher moves, the worker stays. -/
theorem HandoffMove.publisher_worker {call : PublisherPhase}
    (move : HandoffMove (.publisher call) h role' h') (valid : h.Valid)
    (works : (HandoffRole.worker pending phase).Knows h)
    (fits : ∀ control, phase.control = some control → call.Agrees control) :
    (HandoffRole.worker pending phase).Knows h' ∧ role'.Apart (.worker pending phase) := by
  obtain ⟨committing, works⟩ := works
  cases move with
  | stay => exact ⟨⟨committing, works⟩, trivial, fits⟩
  | @issue _ id command opened vacant own alone =>
    have free := works.free (by rw [vacant.2.1]; nofun)
    refine ⟨⟨fun pending => ?_, works.mono_free free (List.Subset.refl _)⟩, trivial, ?_⟩
    · obtain closed | flight := committing pending
      · rw [closed] at opened
        cases opened
      · refine .inr ⟨by simp [Handoff.issue, flight.1], ?_⟩
        rintro control ⟨⟩
        by_contra installs
        rw [alone (by simpa using installs)] at flight
        cases flight.1
    · intro control busy
      rw [free] at busy
      cases busy
  | receive | acknowledge | collect =>
    exact ⟨⟨committing, works.elsewhere _ _ _⟩, trivial, fun _ _ => trivial⟩
  | @withdraw _ _ _ control queued =>
    have free := works.free fun _ busy => valid.not_queued busy control queued
    refine ⟨⟨fun pending => ?_, works.mono_free free (List.Subset.refl _)⟩, trivial,
      fun _ _ => trivial⟩
    refine (committing pending).imp id fun flight => ⟨?_, nofun⟩
    simp [Handoff.withdraw, flight.1, flight.2 control queued]
  | fail =>
    refine ⟨⟨fun _ => .inl rfl, works.mono rfl ?_ ?_ (fun _ => .inl rfl) (List.Subset.refl _)⟩,
      trivial, fun _ _ => trivial⟩
    · exact fun _ unanswered => { unanswered with }
    · exact fun _ untouched => { untouched with }

/-- One publisher moves, another one stays. -/
theorem HandoffMove.publisher_publisher {call another : PublisherPhase}
    (move : HandoffMove (.publisher call) h role' h') (knows : another.Knows h)
    (fits : call = .idle ∨ another = .idle) :
    another.Knows h' ∧ role'.Apart (.publisher another) := by
  cases move with
  | stay => exact ⟨knows, fits, fits.symm⟩
  | issue opened vacant =>
    cases another with
    | idle => exact ⟨trivial, .inr rfl, .inl rfl⟩
    | waiting => exact absurd (knows.1 vacant) (by simp [opened])
    | acknowledging => exact absurd (knows vacant) (by simp [opened])
  | _ =>
    obtain rfl := fits.resolve_left nofun
    exact ⟨trivial, .inr rfl, .inl rfl⟩

/-- A client closes the queue, any thread stays. -/
theorem HandoffRole.Knows.close (knows : other.Knows h) (valid : h.Valid) :
    other.Knows h.close := by
  cases other with
  | bystander => trivial
  | worker pending phase =>
    refine ⟨fun _ => .inl h.closed_close, ?_⟩
    cases busy : phase.control with
    | none => exact knows.2.mono_free busy (by rw [Handoff.produced_close]; exact fun _ => id)
    | some control =>
      rw [Handoff.close, valid.queued_of_active (knows.2.active busy)]
      exact knows.2.mono rfl (fun _ unanswered => { unanswered with })
        (fun _ untouched => { untouched with }) (fun _ => .inl rfl) fun _ => id
  | publisher call =>
    refine knows.mono (fun _ _ => h.closed_close) fun reply id _ awaited => ?_
    unfold Handoff.close
    cases h.queued with
    | none | some => exact { awaited with queued := nofun, completed := nofun }

theorem HandoffMove.others (move : HandoffMove role h role' h') (valid : h.Valid)
    (knows : other.Knows h) (works : role.Knows h) (apart : role.Apart other) :
    other.Knows h' ∧ role'.Apart other := by
  cases role with
  | bystander =>
    cases move with
    | stay => exact ⟨knows, apart⟩
    | close => exact ⟨knows.close valid, apart⟩
  | worker pending phase =>
    cases other with
    | bystander => cases move <;> exact ⟨trivial, trivial, trivial⟩
    | worker => exact apart.1.elim
    | publisher call => exact move.worker_publisher valid works.2 knows apart.1
  | publisher call =>
    cases other with
    | bystander => cases move <;> exact ⟨trivial, trivial, trivial⟩
    | worker pending phase => exact move.publisher_worker valid knows apart.2
    | publisher another => exact move.publisher_publisher knows apart.1

end Roles

/-! ## The protocol -/

/-- The handoff among any threads of which one is the worker. -/
def handoffProtocol {α : Type} (entry : α → HandoffRole) : Program Handoff α HandoffRole where
  start h := h = .initial
  entry a role := role = entry a
  move _ := HandoffMove

theorem Handoff.initial_valid : Handoff.initial.Valid :=
  ⟨⟨nofun, nofun, nofun, nofun, nofun⟩, nofun, nofun, nofun, nofun, nofun, nofun, List.nodup_nil,
    nofun, List.nodup_nil, nofun, nofun⟩

/-- At the start the worker has nothing to do and no publisher calls. -/
inductive HandoffRole.Fresh : HandoffRole → Prop where
  | bystander : Fresh .bystander
  | worker : Fresh (.worker false .free)
  | publisher : Fresh (.publisher .idle)

theorem HandoffRole.Fresh.knows {role : HandoffRole} {h : Handoff} (fresh : role.Fresh) :
    role.Knows h := by
  cases fresh with
  | bystander => trivial
  | worker => exact ⟨nofun, trivial⟩
  | publisher => trivial

/-- **The handoff.** The invariants hold however the moves of the threads
interleave. -/
theorem handoffProtocol_outline {α : Type} {entry : α → HandoffRole}
    (fresh : ∀ a, (entry a).Fresh)
    (one : ∀ {a b pending pending' phase phase'}, entry a = .worker pending phase →
      entry b = .worker pending' phase' → a = b) :
    (handoffProtocol entry).Outline Handoff.Valid HandoffRole.Knows HandoffRole.Apart where
  start := by
    rintro h rfl
    exact Handoff.initial_valid
  entry := by
    rintro h a role - rfl
    exact (fresh a).knows
  entry_apart := by
    rintro a b role other different rfl rfl
    have fits : ∀ {a b}, a ≠ b → (entry a).Fits (entry b) := by
      intro a b different
      cases first : entry a <;> cases second : entry b <;> try trivial
      · exact different (one first second)
      · rintro control busy
        have idle := first ▸ fresh a
        cases idle
        cases busy
      · have idle := first ▸ fresh a
        cases idle
        exact .inl rfl
    exact ⟨fits different, fits different.symm⟩
  symm := And.symm
  move_own valid knows move := move.own valid knows
  move_other valid works knows apart move := move.others valid knows works apart

end ResumeIr.Daemon.SearchService
