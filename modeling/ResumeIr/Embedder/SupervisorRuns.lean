import Mathlib.Algebra.GroupWithZero.Nat
import Mathlib.Algebra.Order.BigOperators.Group.List
import Mathlib.Data.List.Nodup
import ResumeIr.Embedder.Replies

/-!
# Runs of the supervisor

What the supervisor has to do costs it a number of its own steps that is known
beforehand (`Supervised.cost`), since every wait ends at a deadline. Each step it takes
lowers the number as long as some task has no reply, and no step of anybody else raises
it, new tasks apart. So while it is not shut down, the supervisor answers everything that
was submitted.

The results about its runs are collected in `supervisor_contract`.
-/

namespace ResumeIr.Embedder

open Foundation

variable {F : Type}

/-! ## The cost of what is left -/

/-- The time until a deadline, counted twice: for each wait there is a check. -/
def EmbeddingTask.left (task : EmbeddingTask) (now : Nat) : Nat := 2 * (task.deadline - now)

/-- Steps that a queued task may take: a worker is started for it, it is served until its
deadline, and another worker is started. -/
def EmbeddingTask.cost (spec : ResidentEmbeddingSpec) (now : Nat) (task : EmbeddingTask) :
    Nat :=
  2 * spec.timeout + 20 + task.left now

def SpawnPurpose.cost (spec : ResidentEmbeddingSpec) (now : Nat) : SpawnPurpose → Nat
  | .serve task => spec.timeout + 18 + task.left now
  | _ => 10

/-- Steps until the task in hand is answered and the next one is looked for. -/
def Phase.cost (spec : ResidentEmbeddingSpec) (now : Nat) (empty : Bool) : Phase F → Nat
  | .launch purpose => spec.timeout + 1 + purpose.cost spec now
  | .spawning deadline purpose => (deadline - now) + purpose.cost spec now
  | .top => 8
  | .lookInteractive => 7
  | .lookBackground => 6
  | .pollInteractive => if empty then 9 else 5
  | .taken task => task.cost spec now
  | .writing task => spec.timeout + 17 + task.left now
  | .checking exchange => spec.timeout + 16 + exchange.task.left now
  | .receiving exchange => spec.timeout + 15 + max 2 (exchange.task.left now)
  | .failing _ _ => spec.timeout + 14
  | .replying _ _ _ _ => spec.timeout + 13
  | .relaunch => spec.timeout + 12
  | .stopping => 0
  | .stopped => 0

namespace Supervised

/-- Steps until every task has its reply. -/
def cost (spec : ResidentEmbeddingSpec) (s : Supervised F) : Nat :=
  s.phase.cost spec s.now s.interactive.isEmpty + (s.waiting.map (·.cost spec s.now)).sum

end Supervised

variable {task : EmbeddingTask}

section Cost

variable {finite : F → Bool} {spec : ResidentEmbeddingSpec} {s t : Supervised F}

theorem EmbeddingTask.left_mono (task : EmbeddingTask) {now later : Nat} (le : now ≤ later) :
    task.left later ≤ task.left now := by
  unfold EmbeddingTask.left
  omega

theorem SpawnPurpose.cost_mono (purpose : SpawnPurpose) {now later : Nat} (le : now ≤ later) :
    purpose.cost spec later ≤ purpose.cost spec now := by
  cases purpose with
  | serve task => exact Nat.add_le_add_left (task.left_mono le) _
  | first | restart => exact le_rfl

/-- Time only makes less of it. -/
theorem Phase.cost_mono (phase : Phase F) (empty : Bool) {now later : Nat} (le : now ≤ later) :
    phase.cost spec later empty ≤ phase.cost spec now empty := by
  cases phase with
  | launch purpose => exact Nat.add_le_add_left (purpose.cost_mono le) _
  | spawning deadline purpose =>
    have := @SpawnPurpose.cost_mono spec purpose _ _ le
    simp only [Phase.cost]
    omega
  | taken task | writing task => exact Nat.add_le_add_left (task.left_mono le) _
  | checking exchange => exact Nat.add_le_add_left (exchange.task.left_mono le) _
  | receiving exchange =>
    have := exchange.task.left_mono le
    simp only [Phase.cost]
    omega
  | _ => exact le_rfl

theorem waiting_cost_mono (tasks : List EmbeddingTask) {now later : Nat} (le : now ≤ later) :
    (tasks.map (·.cost spec later)).sum ≤ (tasks.map (·.cost spec now)).sum :=
  List.sum_le_sum fun task _ => Nat.add_le_add_left (task.left_mono le) _

/-- A step that leaves the queues alone costs what its phases differ in. -/
theorem cost_lt_of_phase {phase : Phase F} (before : s.phase = phase) (le : s.now ≤ t.now)
    (interactive : t.interactive = s.interactive) (background : t.background = s.background)
    (less : t.phase.cost spec t.now s.interactive.isEmpty <
      phase.cost spec s.now s.interactive.isEmpty) : t.cost spec < s.cost spec := by
  have waits := @waiting_cost_mono spec s.waiting _ _ le
  have same : t.waiting = s.waiting := by
    rw [Supervised.waiting, Supervised.waiting, interactive, background]
  unfold Supervised.cost
  rw [same, interactive, before]
  omega

theorem spawnReturns_cost {purpose : SpawnPurpose} (now empty) (child : Option (Child F)) :
    (s.spawnReturns purpose child).phase.cost spec now empty < purpose.cost spec now := by
  cases purpose with
  | first | restart => cases child <;> simp [Supervised.spawnReturns, Phase.cost, SpawnPurpose.cost]
  | serve task =>
    cases child with
    | none | some c =>
      simp only [Supervised.spawnReturns, Phase.cost, SpawnPurpose.cost]
      omega

theorem awaitReady_cost {deadline : Nat} {purpose : SpawnPurpose}
    (phase : s.phase = .spawning deadline purpose) :
    (s.awaitReady spec deadline purpose).cost spec < s.cost spec := by
  have returns : ∀ (now : Nat) (child : Option (Child F)), s.now ≤ now →
      ({ s with now }.spawnReturns purpose child).cost spec < s.cost spec := by
    intro now child le
    refine cost_lt_of_phase phase le rfl rfl ?_
    refine (spawnReturns_cost _ _ _).trans_le ((purpose.cost_mono le).trans ?_)
    exact Nat.le_add_left _ _
  unfold Supervised.awaitReady
  split
  · exact returns _ none le_rfl
  next open_ =>
    split
    · exact returns _ none le_rfl
    split
    · split
      · exact returns _ _ le_rfl
      · exact returns _ none le_rfl
    · exact returns _ none le_rfl
    · split
      · exact returns _ none le_rfl
      split
      · exact returns _ none (Nat.le_add_right _ _)
      · refine cost_lt_of_phase phase (Nat.le_add_right _ _) rfl rfl ?_
        have mono := @SpawnPurpose.cost_mono spec purpose _ _ (Nat.le_add_right s.now supervisorPoll)
        rw [phase]
        simp only [Phase.cost, supervisorPoll] at mono ⊢
        omega

/-- A task that is not given up has not reached its deadline. -/
theorem lt_deadline_of_cancellationError (none : (s.cancellationError task).1 = none) :
    s.now < task.deadline := by
  unfold Supervised.cancellationError at none
  split at none
  · cases none
  · cases none
  · split at none
    · cases none
    next early => exact Nat.lt_of_not_le early

theorem takeTask_cost (phase : s.phase = .taken task) :
    (s.takeTask task).cost spec < s.cost spec := by
  unfold Supervised.takeTask
  dsimp only
  split
  · refine cost_lt_of_phase phase le_rfl rfl rfl ?_
    simp only [Phase.cost, EmbeddingTask.cost]
    omega
  split
  · refine cost_lt_of_phase phase le_rfl rfl rfl ?_
    simp only [Phase.cost, EmbeddingTask.cost]
    omega
  · refine cost_lt_of_phase phase le_rfl rfl rfl ?_
    simp only [Phase.cost, SpawnPurpose.cost, EmbeddingTask.cost]
    omega

theorem writeRequest_cost (phase : s.phase = .writing task) (wrote : Bool) :
    (s.writeRequest spec task wrote).cost spec < s.cost spec := by
  unfold Supervised.writeRequest
  dsimp only
  repeat' split
  all_goals
    refine cost_lt_of_phase phase le_rfl rfl rfl ?_
    simp only [Phase.cost]
    omega

theorem checkTask_cost {exchange : Exchange} (phase : s.phase = .checking exchange) :
    (s.checkTask exchange).cost spec < s.cost spec := by
  unfold Supervised.checkTask
  dsimp only
  split
  · refine cost_lt_of_phase phase le_rfl rfl rfl ?_
    simp only [Phase.cost]
    omega
  split
  · refine cost_lt_of_phase phase le_rfl rfl rfl ?_
    simp only [Phase.cost]
    omega
  next none =>
    refine cost_lt_of_phase phase le_rfl rfl rfl ?_
    have early := lt_deadline_of_cancellationError none
    simp only [Phase.cost, EmbeddingTask.left]
    omega

theorem receiveResponse_cost {exchange : Exchange} (phase : s.phase = .receiving exchange) :
    (s.receiveResponse finite spec exchange).cost spec < s.cost spec := by
  have le := Nat.le_add_right s.now supervisorPoll
  unfold Supervised.receiveResponse
  dsimp only
  repeat' split
  case h_3.isFalse.isFalse =>
    refine cost_lt_of_phase phase le rfl rfl ?_
    simp only [Phase.cost, EmbeddingTask.left, supervisorPoll]
    omega
  all_goals
    refine cost_lt_of_phase phase (by first | exact le_rfl | exact le) rfl rfl ?_
    simp only [Phase.cost]
    omega

/-- A task is taken from a queue. -/
theorem take_cost (now : t.now = s.now) (phase : t.phase = .taken task)
    (waiting : (task :: t.waiting).Perm s.waiting)
    (positive : 0 < s.phase.cost spec s.now s.interactive.isEmpty) : t.cost spec < s.cost spec := by
  have sum := (waiting.map (·.cost spec s.now)).sum_eq
  unfold Supervised.cost
  rw [phase, now, ← sum]
  exact Nat.lt_add_of_pos_left positive

/-- Each step of the supervisor brings it closer to the last reply. -/
theorem supervise_cost (running : s.shutdown = false)
    (live : ¬ (s.phase = .stopping ∨ s.phase = .stopped)) (busy : s.pending ≠ []) (done : Bool) :
    (s.supervise finite spec done).cost spec < s.cost spec := by
  have waits : ∀ {task : EmbeddingTask} {rest : List EmbeddingTask} (t : Supervised F),
      s.interactive = task :: rest → t.interactive = rest → t.background = s.background →
        (task :: t.waiting).Perm s.waiting := by
    intro task rest t queue interactive background
    rw [Supervised.waiting, Supervised.waiting, queue, interactive, background]
    rfl
  unfold Supervised.supervise
  split
  next purpose phase =>
    split
    · refine cost_lt_of_phase phase le_rfl rfl rfl ?_
      simp only [Phase.cost]
      omega
    · refine cost_lt_of_phase phase le_rfl rfl rfl ?_
      have less : (s.spawnReturns purpose none).phase.cost spec s.now s.interactive.isEmpty <
        purpose.cost spec s.now := spawnReturns_cost _ _ _
      exact less.trans_le (Nat.le_add_left _ _)
  next deadline purpose phase => exact awaitReady_cost phase
  next phase =>
    refine cost_lt_of_phase phase le_rfl rfl rfl ?_
    simp [running, Phase.cost]
  next phase =>
    split
    next task rest queue =>
      exact take_cost rfl rfl (waits _ queue rfl rfl) (by simp [phase, Phase.cost])
    · refine cost_lt_of_phase phase le_rfl rfl rfl ?_
      simp [Phase.cost]
  next phase =>
    split
    next task rest queue =>
      refine take_cost rfl rfl ?_ (by simp [phase, Phase.cost])
      rw [Supervised.waiting, Supervised.waiting, queue]
      exact List.perm_middle.symm
    next empty =>
      have waits : s.interactive.isEmpty = false := by
        simpa [Supervised.pending, Supervised.waiting, phase, Phase.inHand, empty] using busy
      refine cost_lt_of_phase phase le_rfl rfl rfl ?_
      simp [Phase.cost, waits]
  next phase =>
    split
    next task rest queue =>
      exact take_cost rfl rfl (waits _ queue rfl rfl) (by simp [phase, Phase.cost, queue])
    next empty =>
      refine cost_lt_of_phase phase (Nat.le_add_right _ _) rfl rfl ?_
      simp [Phase.cost, empty]
  next task phase => exact takeTask_cost phase
  next task phase => exact writeRequest_cost phase done
  next exchange phase => exact checkTask_cost phase
  next exchange phase => exact receiveResponse_cost phase
  next task error phase =>
    refine cost_lt_of_phase phase le_rfl rfl rfl ?_
    simp [Phase.cost]
  next task origin outcome restart phase =>
    refine cost_lt_of_phase phase le_rfl rfl rfl ?_
    cases restart <;> simp [Phase.cost]
  next phase =>
    refine cost_lt_of_phase phase le_rfl rfl rfl ?_
    simp [running, Phase.cost, SpawnPurpose.cost]
  next phase => exact absurd (.inl phase) live
  next phase => exact absurd (.inr phase) live

end Cost

/-! ## Runs without further tasks -/

/-- Nothing is submitted, and the supervisor is not told to stop. -/
def SupervisorEvent.quiet : SupervisorEvent F → Bool
  | .submit _ | .shutdown => false
  | _ => true

/-- A step of the supervisor thread itself. -/
def SupervisorEvent.own : SupervisorEvent F → Bool
  | .supervise _ => true
  | _ => false

variable {events : List (SupervisorEvent F)}

section Runs

variable {finite : F → Bool} {spec : ResidentEmbeddingSpec}
  {model : List String → ResidentBatchOutput F → Prop} {s t : Supervised F}

/-- What the others do leaves the phase and the queues alone. -/
structure Unhandled (s t : Supervised F) : Prop where
  now : s.now ≤ t.now
  phase : t.phase = s.phase
  interactive : t.interactive = s.interactive
  background : t.background = s.background
  accepted : t.accepted = s.accepted
  shutdown : t.shutdown = s.shutdown

theorem after_unhandled {event : SupervisorEvent F} (quiet : event.quiet = true)
    (foreign : event.own = false) : Unhandled s (s.after finite spec event) := by
  cases event with
  | submit submission | shutdown => cases quiet
  | supervise done => cases foreign
  | cancel id | child event => exact ⟨le_rfl, rfl, rfl, rfl, rfl, rfl⟩
  | expire id =>
    dsimp only [Supervised.after]
    split <;> exact ⟨le_rfl, rfl, rfl, rfl, rfl, rfl⟩
  | receive id =>
    dsimp only [Supervised.after, Supervised.receive]
    repeat' split
    all_goals exact ⟨le_rfl, rfl, rfl, rfl, rfl, rfl⟩
  | tick duration => exact ⟨Nat.le_add_right _ _, rfl, rfl, rfl, rfl, rfl⟩

theorem Unhandled.pending (frame : Unhandled s t) : t.pending = s.pending := by
  rw [Supervised.pending, Supervised.pending, Supervised.waiting, Supervised.waiting, frame.phase,
    frame.interactive, frame.background]

theorem Unhandled.cost_le (frame : Unhandled s t) : t.cost spec ≤ s.cost spec := by
  unfold Supervised.cost
  rw [frame.phase, Supervised.waiting, frame.interactive, frame.background]
  exact Nat.add_le_add (s.phase.cost_mono _ frame.now) (waiting_cost_mono _ frame.now)

theorem pending_supervise_eq_nil (idle : s.pending = []) (done : Bool) :
    (s.supervise finite spec done).pending = [] := by
  have frame : Supervises s (s.supervise finite spec done) := supervises s done
  cases frame.effect with
  | carries pending =>
    rw [idle] at pending
    exact pending.eq_nil
  | replies _ pending =>
    rw [idle] at pending
    cases pending
  | stops _ pending => exact pending

/-- The steps that the supervisor has taken, added to those that are left, are not more
than those that were left at first. -/
structure Paid (spec : ResidentEmbeddingSpec) (s : Supervised F) (taken : Nat)
    (t : Supervised F) : Prop where
  running : t.shutdown = false
  accepted : t.accepted = s.accepted
  left : t.pending = [] ∨ t.cost spec + taken ≤ s.cost spec

theorem Paid.step {first : Supervised F} {taken : Nat} {event : SupervisorEvent F}
    (paid : Paid spec first taken s) (sound : Sound model spec s) (quiet : event.quiet = true) :
    Paid spec first (taken + if event.own then 1 else 0) (s.after finite spec event) := by
  obtain ⟨running, accepted, left⟩ := paid
  cases own : event.own with
  | false =>
    have frame : Unhandled s (s.after finite spec event) := after_unhandled quiet own
    refine ⟨frame.shutdown.trans running, frame.accepted.trans accepted, ?_⟩
    rw [frame.pending]
    have less : (s.after finite spec event).cost spec ≤ s.cost spec := frame.cost_le
    refine left.imp_right fun left => ?_
    simp only [Bool.false_eq_true, if_false]
    omega
  | true =>
    cases event with
    | supervise done =>
      have frame : Supervises s (s.supervise finite spec done) := supervises s done
      refine ⟨frame.shutdown.trans running, frame.accepted.trans accepted, ?_⟩
      by_cases idle : s.pending = []
      · exact .inl (pending_supervise_eq_nil idle done)
      · have left := left.resolve_left idle
        have live : ¬ (s.phase = .stopping ∨ s.phase = .stopped) := by
          intro halts
          rw [sound.ledger.halted halts] at running
          cases running
        have less : (s.supervise finite spec done).cost spec < s.cost spec :=
          supervise_cost running live idle done
        refine .inr ?_
        simp only [if_true]
        exact (show _ ≤ _ by dsimp only [Supervised.after]; omega)
    | _ => cases own

theorem paid_of_run (sound : Sound model spec s) (running : s.shutdown = false)
    (run : (supervisorMachine finite spec model).Run s events t)
    (quiet : ∀ event ∈ events, event.quiet = true) : Paid spec s (events.countP (·.own)) t := by
  have both : Sound model spec t ∧ Paid spec s (events.countP (·.own)) t := by
    induction run with
    | nil => exact ⟨sound, running, rfl, .inr le_rfl⟩
    | @snoc u v events event before step ih =>
      obtain ⟨here, paid⟩ := ih fun event member => quiet event (List.mem_append_left _ member)
      refine ⟨here.step step, ?_⟩
      obtain ⟨rfl, _⟩ := step
      have := @Paid.step F finite spec model _ _ _ event paid here (quiet event (by simp))
      simpa [List.countP_singleton] using this
  exact both.2

/-- Whoever submits no more gets every reply after a bounded number of steps. -/
theorem pending_eq_nil_of_run (sound : Sound model spec s) (running : s.shutdown = false)
    (run : (supervisorMachine finite spec model).Run s events t)
    (quiet : ∀ event ∈ events, event.quiet = true) (enough : s.cost spec < events.countP (·.own)) :
    t.pending = [] := by
  obtain idle | left := (paid_of_run sound running run quiet).left
  · exact idle
  · omega

theorem phase_after_of_foreign {event : SupervisorEvent F} (foreign : event.own = false) :
    (s.after finite spec event).phase = s.phase := by
  cases event with
  | supervise done => cases foreign
  | submit submission =>
    dsimp only [Supervised.after]
    split
    next done => obtain ⟨_, rfl | rfl⟩ := enqueueBatch_ok done <;> rfl
    · rfl
  | shutdown => rfl
  | _ => exact (after_unhandled rfl foreign).phase

/-- The look at the background queue follows one at the interactive queue, which was
empty. -/
theorem looked_of_run (start : ∃ now, s = .initial now)
    (run : (supervisorMachine finite spec model).Run s events t)
    (looks : t.phase = .lookBackground) :
    ∃ u first later, events = first ++ later ∧ (supervisorMachine finite spec model).Run s first u ∧
      (supervisorMachine finite spec model).Run u later t ∧ u.interactive = [] ∧
      ∀ event ∈ later, event.own = false := by
  obtain ⟨now, rfl⟩ := start
  induction run with
  | nil => cases looks
  | @snoc v w events event before step ih =>
    have whole := before.snoc step
    obtain ⟨rfl, allowed⟩ := step
    cases own : event.own with
    | true =>
      cases event with
      | supervise done =>
        have frame : Supervises v (v.supervise finite spec done) := supervises v done
        exact ⟨_, _, [], (List.append_nil _).symm, whole, .nil _, frame.looks looks, nofun⟩
      | _ => cases own
    | false =>
      have same : v.phase = .lookBackground := (phase_after_of_foreign own).symm.trans looks
      obtain ⟨u, first, later, rfl, earlier, since, empty, foreign⟩ := ih same
      refine ⟨u, first, later ++ [event], List.append_assoc _ _ _, earlier,
        since.snoc ⟨rfl, allowed⟩, empty, forall_mem_concat foreign own⟩

/-! ## The contract -/

/-- A step that takes a background task. -/
structure TakesBackground (s t : Supervised F) (task : EmbeddingTask) : Prop where
  taken : t.phase = .taken task
  queue : s.background = task :: t.background

theorem TakesBackground.looks {done : Bool}
    (takes : TakesBackground s (s.supervise finite spec done) task) :
    s.phase = .lookBackground := by
  obtain ⟨taken, queue⟩ := takes
  have frame : Supervises s (s.supervise finite spec done) := supervises s done
  obtain same | looks | stopping := frame.background
  · rw [same] at queue
    exact absurd queue.symm (List.cons_ne_self _ _)
  · exact looks
  · simp only [Supervised.supervise, stopping] at taken
    cases taken

/-- What the callers of a supervisor can rely on in each state. -/
structure SupervisorContract (model : List String → ResidentBatchOutput F → Prop)
    (spec : ResidentEmbeddingSpec) (s : Supervised F) : Prop where
  /-- A batch that a caller was given was computed for its inputs in their order. -/
  computed : ∀ id vectors telemetry, (id, Except.ok (vectors, telemetry)) ∈ s.returned →
    ∃ task ∈ s.accepted, task.id = id ∧ Computed model spec task.inputs vectors
  /-- A response of the worker answers only the task it was made for. -/
  matched : ∀ reply ∈ s.replies, ∀ result, reply.outcome = .ok result →
    reply.origin = some reply.task
  /-- Whatever the supervisor receives belongs to the task it waits for. -/
  received : ∀ exchange c frame, s.phase = .receiving exchange → s.child = some c →
    c.channel = some (.ok frame) → frame.1 = some exchange.task.id
  once : ∀ id, (s.replies.map (·.task)).count id ≤ 1
  kept : s.disconnected = false → ∀ task ∈ s.accepted,
    task ∈ s.pending ∨ (s.replies.map (·.task)).count task.id = 1
  stopped : s.disconnected = true → s.shutdown = true

theorem Ledger.once (ledger : Ledger model spec s) (id : TaskId) :
    (s.replies.map (·.task)).count id ≤ 1 := by
  have all := List.nodup_iff_count_le_one.mp ledger.distinct id
  have tally := ledger.tally.count_le id
  rw [List.count_append] at tally
  omega

theorem Ledger.kept (ledger : Ledger model spec s) (connected : s.disconnected = false)
    (accepted : task ∈ s.accepted) :
    task ∈ s.pending ∨ (s.replies.map (·.task)).count task.id = 1 := by
  have once := ledger.once task.id
  have member : task.id ∈ s.pending.map (·.id) ++ s.replies.map (·.task) :=
    (ledger.complete connected).mem_iff.mpr (List.mem_map_of_mem accepted)
  obtain pending | replied := List.mem_append.mp member
  · obtain ⟨other, there, same⟩ := List.mem_map.mp pending
    obtain rfl := List.inj_on_of_nodup_map ledger.distinct (ledger.known other there) accepted same
    exact .inl there
  · have := List.count_pos_iff.mpr replied
    exact .inr (by omega)

theorem Sound.contract (sound : Sound model spec s) : SupervisorContract model spec s where
  computed id vectors telemetry member := by
    obtain ⟨reply, there, rfl, same⟩ | error := sound.ledger.returned _ member
    · obtain ⟨task, accepted, id, right⟩ := sound.ledger.answered reply there
      exact ⟨task, accepted, id, (right vectors telemetry same).2⟩
    · cases error
  matched reply there result same := by
    obtain ⟨task, _, id, right⟩ := sound.ledger.answered reply there
    rw [← id]
    exact (right result.1 result.2 same).1
  received exchange c frame phase running waits := by
    have fits := sound.sane.child c running
    rw [phase] at fits
    exact (fits.2.answers frame (by simp [Child.frames, Child.received, waits])).1
  once := sound.ledger.once
  kept connected _ accepted := sound.ledger.kept connected accepted
  stopped gone := by
    refine sound.ledger.halted (.inr ?_)
    unfold Supervised.disconnected at gone
    split at gone
    next phase => exact phase
    · cases gone

end Runs

/-- In every state of every run the callers have what the contract says. A background task
is taken right after the interactive queue was found empty, with no other step of the
supervisor in between. And if no more tasks are submitted, each of them has its one reply
after a number of steps of the supervisor that is known beforehand. -/
theorem supervisor_contract (finite : F → Bool) (spec : ResidentEmbeddingSpec)
    (model : List String → ResidentBatchOutput F → Prop) :
    (∀ s, (supervisorMachine finite spec model).Reachable s → SupervisorContract model spec s) ∧
    (∀ s events t done u task, (supervisorMachine finite spec model).start s →
      (supervisorMachine finite spec model).Run s events t →
      (supervisorMachine finite spec model).step t (.supervise done) u →
      TakesBackground t u task →
      ∃ v first later, events = first ++ later ∧
        (supervisorMachine finite spec model).Run s first v ∧ v.interactive = [] ∧
        (supervisorMachine finite spec model).Run v later t ∧
        ∀ event ∈ later, event.own = false) ∧
    ∀ s events t, (supervisorMachine finite spec model).Reachable s → s.shutdown = false →
      (supervisorMachine finite spec model).Run s events t →
      (∀ event ∈ events, event.quiet = true) → s.cost spec < events.countP (·.own) →
      t.accepted = s.accepted ∧
        ∀ task ∈ s.accepted, (t.replies.map (·.task)).count task.id = 1 := by
  refine ⟨fun s reachable => (sound_inductive.holds reachable).contract, ?_, ?_⟩
  · rintro s events t done u task start run ⟨rfl, _⟩ takes
    obtain ⟨v, first, later, split, before, since, empty, foreign⟩ :=
      looked_of_run start run takes.looks
    exact ⟨v, first, later, split, before, empty, since, foreign⟩
  · intro s events t reachable running run quiet enough
    have sound := sound_inductive.holds reachable
    have after := sound_inductive.holds (run.reachable reachable)
    have paid := paid_of_run sound running run quiet
    have idle := pending_eq_nil_of_run sound running run quiet enough
    refine ⟨paid.accepted, fun task accepted => ?_⟩
    rw [← paid.accepted] at accepted
    have connected : t.disconnected = false := by
      by_contra gone
      have stopped := after.contract.stopped (by simpa using gone)
      rw [paid.running] at stopped
      cases stopped
    refine (after.ledger.kept connected accepted).resolve_left fun waits => ?_
    rw [idle] at waits
    cases waits

/-! ## Sample runs -/

def sampleSpec : ResidentEmbeddingSpec := ⟨"e5-small", 1, 1⟩

/-- The model returns the length of each text. -/
def sampleModel (texts : List String) (output : ResidentBatchOutput Nat) : Prop :=
  output.vectors = texts.map fun text => [text.length]

abbrev sampleSupervisor : Machine (Supervised Nat) (SupervisorEvent Nat) :=
  supervisorMachine (fun _ => true) sampleSpec sampleModel

def sampleSubmission (id : TaskId) (priority : EmbeddingPriority) : Supervised.Submission :=
  ⟨id, priority, [⟨"resume", .passage, "engineer"⟩], ⟨4, 64⟩, 1⟩

def sampleAfter (events : List (SupervisorEvent Nat)) : Supervised Nat :=
  events.foldl (fun s event => s.after (fun _ => true) sampleSpec event) (.initial 0)

/-- Whether the machine has the step. -/
def Supervised.permits (s : Supervised Nat) : SupervisorEvent Nat → Bool
  | .submit submission => s.accepted.all fun task => task.id != submission.id
  | .child (.infer output) =>
      match s.child.map fun c => c.worker with
      | some (Worker.inferring request) =>
          output.vectors == request.value.texts.map fun text => [text.length]
      | _ => true
  | _ => true

def Supervised.permitsAll (s : Supervised Nat) : List (SupervisorEvent Nat) → Bool
  | [] => true
  | event :: rest =>
      s.permits event && (s.after (fun _ => true) sampleSpec event).permitsAll rest

theorem Supervised.step_of_permits {s : Supervised Nat} {event : SupervisorEvent Nat}
    (permitted : s.permits event = true) :
    sampleSupervisor.step s event (s.after (fun _ => true) sampleSpec event) := by
  refine ⟨rfl, ?_⟩
  cases event with
  | submit submission =>
    intro task member
    simpa using List.all_eq_true.mp permitted task member
  | child event =>
    cases event with
    | infer output =>
      intro c running request inferring
      simp only [Supervised.permits, Option.mem_def.mp running, Option.map_some, inferring,
        beq_iff_eq] at permitted
      exact permitted
    | _ => trivial
  | _ => trivial

theorem Supervised.run_foldl {s : Supervised Nat} {events : List (SupervisorEvent Nat)}
    (permitted : s.permitsAll events = true) : sampleSupervisor.Run s events
      (events.foldl (fun s event => s.after (fun _ => true) sampleSpec event) s) := by
  induction events generalizing s with
  | nil => exact .nil _
  | cons event rest ih =>
    obtain ⟨now, later⟩ := Bool.and_eq_true_iff.mp permitted
    exact .cons (step_of_permits now) (ih later)

theorem run_replicate_supervise (s : Supervised Nat) (count : Nat) (done : Bool) :
    sampleSupervisor.Run s (List.replicate count (.supervise done))
      ((fun s => s.supervise (fun _ => true) sampleSpec done)^[count] s) := by
  induction count generalizing s with
  | zero => exact .nil s
  | succ count ih => exact .cons ⟨rfl, trivial⟩ (ih _)

/-- A background task is queued, and the supervisor finds the interactive queue empty. Then
an interactive task is submitted. -/
def sampleRace : List (SupervisorEvent Nat) :=
  [.supervise false, .submit (sampleSubmission 1 .background), .supervise true, .supervise true,
    .submit (sampleSubmission 2 .interactive)]

theorem sampleRace_run : sampleSupervisor.Run (.initial 0) sampleRace (sampleAfter sampleRace) :=
  Supervised.run_foldl (by decide +kernel)

theorem sampleRace_takes : TakesBackground (sampleAfter sampleRace)
    ((sampleAfter sampleRace).supervise (fun _ => true) sampleSpec true)
    ((sampleSubmission 1 .background).task 0) where
  taken := by rfl
  queue := by decide +kernel

/-- The background task is taken although the interactive one is waiting. -/
theorem background_taken_while_interactive_waits :
    ∃ s t task, sampleSupervisor.Reachable s ∧ sampleSupervisor.step s (.supervise true) t ∧
      TakesBackground s t task ∧ s.interactive ≠ [] :=
  ⟨_, _, _, ⟨_, _, ⟨0, rfl⟩, sampleRace_run⟩, ⟨rfl, trivial⟩, sampleRace_takes, by decide +kernel⟩

def sampleTelemetry : EmbeddingTelemetry := ⟨1, 0, 0, 0, 0, 0, 0, 0, 0, 0, 0⟩

/-- A worker is started, and a task is served. -/
def sampleServed : List (SupervisorEvent Nat) :=
  [.supervise true, .child .ready, .child .relay, .supervise true,
    .submit (sampleSubmission 1 .interactive), .supervise true, .supervise true, .supervise true,
    .supervise true, .child .read, .child (.infer ⟨[[17]], sampleTelemetry⟩), .child .relay,
    .supervise true, .supervise true, .supervise true, .receive 1]

theorem sampleServed_run :
    sampleSupervisor.Run (.initial 0) sampleServed (sampleAfter sampleServed) :=
  Supervised.run_foldl (by decide +kernel)

/-- The caller was given the length of its own text. In the race the tasks are answered,
too. -/
theorem supervisor_contract_of_samples :
    (∃ vectors telemetry,
      (sampleAfter sampleServed).returned = [(1, .ok (vectors, telemetry))] ∧
        vectors.map (·.values) = [[17]] ∧
        ∃ task ∈ (sampleAfter sampleServed).accepted, task.id = 1 ∧
          Computed sampleModel sampleSpec task.inputs vectors) ∧
    (∃ v first later, sampleRace = first ++ later ∧
      sampleSupervisor.Run (.initial 0) first v ∧ v.interactive = [] ∧
      sampleSupervisor.Run v later (sampleAfter sampleRace) ∧
        ∀ event ∈ later, event.own = false) ∧
    ∃ t, sampleSupervisor.Run (sampleAfter sampleRace) (List.replicate 10000 (.supervise false)) t ∧
      ∀ task ∈ (sampleAfter sampleRace).accepted, (t.replies.map (·.task)).count task.id = 1 := by
  obtain ⟨holds, background, drained⟩ :=
    supervisor_contract (fun _ : Nat => true) sampleSpec sampleModel
  refine ⟨?_, ?_, ?_⟩
  · have contract := holds _ ⟨_, _, ⟨0, rfl⟩, sampleServed_run⟩
    have given : (sampleAfter sampleServed).returned = [(1, .ok ([⟨"resume", "e5-small", [17], nofun⟩],
      sampleTelemetry))] := by rfl
    refine ⟨_, _, given, rfl, ?_⟩
    exact contract.computed _ _ _ (by rw [given]; exact List.mem_singleton_self _)
  · exact background _ _ _ true _ _ ⟨0, rfl⟩ sampleRace_run ⟨rfl, trivial⟩ sampleRace_takes
  · have run : sampleSupervisor.Run (sampleAfter sampleRace)
        (List.replicate 10000 (.supervise false)) _ := run_replicate_supervise _ _ _
    refine ⟨_, run, ?_⟩
    refine (drained _ _ _ ⟨_, _, ⟨0, rfl⟩, sampleRace_run⟩ (by decide +kernel) run ?_ ?_).2
    · intro event member
      rw [List.eq_of_mem_replicate member]
      rfl
    · rw [List.countP_replicate]
      decide +kernel

end ResumeIr.Embedder
