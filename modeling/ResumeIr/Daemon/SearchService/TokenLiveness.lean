import ResumeIr.Daemon.SearchService.CancelTokens
import ResumeIr.Foundation.Endless

/-!
# Cancel tokens end

An active token ends when the thread that has its request records the end of the request.
Until then every move of that thread brings it nearer (`Thread.rank`), and before it every
query that the worker takes out of the queue brings the request nearer to its head.

What the threads must be trusted with is said of endless runs (`Fair`). In such a run every
active token ends exactly if no dispatch fails after the registration of its token
(`cancel_tokens_iff`).
-/

namespace ResumeIr.Daemon.SearchService

open SearchRuntime Foundation Fallible

variable {sh sh' : Shared} {thread thread' : Thread} {task : SearchTask} {token : String}

/-! ## Threads that can move -/

def Movable (thread : Thread) (sh : Shared) : Prop := ∃ thread' sh', Move thread sh thread' sh'

theorem Movable.worker {runtime runtime' : Option QueryCoordinator} {point point' : WorkerPoint}
    (move : WorkerMove runtime point sh runtime' point' sh') :
    Movable (.worker runtime point) sh := ⟨_, _, .worker move⟩

theorem Movable.client {point point' : ClientPoint} (move : ClientMove point sh point' sh') :
    Movable (.client point) sh := ⟨_, _, .client move⟩

theorem Searches.refl (coordinator : QueryCoordinator) : Searches coordinator coordinator :=
  ⟨[], fun _ member => absurd member List.not_mem_nil, by rw [List.foldl_nil]⟩

/-- A control can be executed with and without a runtime. -/
theorem movable_running (runtime : Option QueryCoordinator) (control : QueuedGenerationControl) :
    Movable (.worker runtime (.running control)) sh := by
  obtain ⟨id, command⟩ := control
  cases command with
  | prepareRuntime => exact .worker .prepare
  | install prepared reply =>
    cases runtime with
    | none => exact .worker .installNowhere
    | some coordinator => exact .worker (.install prepared coordinator)
  | finalize disposition reply =>
    cases runtime with
    | none => exact .worker .finalizeNowhere
    | some coordinator =>
      cases disposition with
      | aborted => exact .worker (.discard coordinator)
      | committed =>
        cases done : (activatePreparedGeneration emptyCorpus).run coordinator with
        | ok _ activated => exact .worker (.activate emptyCorpus done)
        | error _ dropped => exact .worker (.activateFails emptyCorpus done)

/-- The worker finds a control or a query, or it stops, if there is a query. -/
theorem movable_waiting (runtime : Option QueryCoordinator) (queued : sh.queue.tasks ≠ []) :
    Movable (.worker runtime .waiting) sh := by
  cases popped : sh.queue.pop with
  | mk found queue =>
    cases found with
    | work work =>
      cases work with
      | query task => exact .worker (.popTask popped)
      | generation control => exact .worker (.popControl popped)
    | stop => exact .worker (.stop popped)
    | wait =>
      unfold SearchQueueState.pop at popped
      split at popped
      · cases popped
      · split at popped
        · cases popped
        · split at popped
          · cases popped
          next none => exact absurd none queued

/-- The worker can move unless it has stopped or finds nothing to do. -/
theorem movable_worker (runtime : Option QueryCoordinator) {point : WorkerPoint}
    (stopped : point ≠ .stopped) (queued : point = .waiting → sh.queue.tasks ≠ []) :
    Movable (.worker runtime point) sh := by
  cases point with
  | starting => exact .worker (.start emptyCorpus)
  | waiting => exact movable_waiting runtime (queued rfl)
  | controlling control =>
    by_cases keeps : runtime.isSome = true ∨ control.command.isFinalize = true
    · exact .worker (.keepForControl keeps)
    · simp only [not_or, Bool.not_eq_true, Option.isSome_eq_false_iff, Option.isNone_iff_eq_none]
        at keeps
      obtain ⟨rfl, opens⟩ := keeps
      exact .worker (.openForControl emptyCorpus opens)
  | running control => exact movable_running runtime control
  | completing => exact .worker .completeControl
  | answering => exact .worker .answer
  | checking task =>
    cases flag : sh.completed task.control with
    | true => exact .worker (.skip flag)
    | false => exact .worker (.proceed flag)
  | opening task =>
    cases runtime with
    | none => exact .worker (.openForTask emptyCorpus)
    | some coordinator => exact .worker (.keepForTask coordinator)
  | searching task =>
    cases runtime with
    | none => exact .worker .searchNowhere
    | some coordinator => exact .worker (.search .complete (.refl coordinator))
  | deciding task status =>
    cases flag : sh.completed task.control with
    | true => exact .worker (.lose flag)
    | false => exact .worker (.win flag)
  | writing => exact .worker .writeReply
  | recording => exact .worker .record
  | releasing => exact .worker .release
  | waking => exact .worker .wakeScheduler
  | stopped => exact absurd rfl stopped

/-- A thread that has a request in hand can move. -/
theorem movable_of_hand (busy : thread.hand ≠ []) : Movable thread sh := by
  cases thread with
  | worker runtime point =>
    refine movable_worker runtime ?_ ?_ <;> rintro rfl <;> exact absurd rfl busy
  | client point =>
    cases point with
    | scheduling => exact .client .unscheduled
    | pushing task =>
      cases pushed : sh.queue.push task with
      | none => exact .client (.pushRefused pushed)
      | some queue => exact .client (.push pushed)
    | claiming task =>
      cases flag : sh.completed task.control with
      | true => exact .client (.lose flag)
      | false => exact .client (.win flag)
    | writing => exact .client .writeReply
    | recording => exact .client .record
    | closing how tasks =>
      cases tasks with
      | nil => exact absurd rfl busy
      | cons => exact .client .settle
    | settling how task =>
      cases how with
      | abort => exact .client .abandon
      | shutdown =>
        cases flag : sh.completed task.control with
        | true => exact .client (.settleLose flag)
        | false => exact .client (.settleWin flag)
    | replying => exact .client .settleWrite
    | noting => exact .client .note
    | _ => exact absurd rfl busy
  | _ => exact absurd rfl busy

/-! ## Moves that are left -/

/-- How many moves the worker is away from looking into the queue. -/
def WorkerPoint.rank : WorkerPoint → Nat
  | .waiting | .stopped => 0
  | .starting | .answering .. | .waking => 1
  | .completing .. | .releasing .. => 2
  | .running _ | .recording .. => 3
  | .controlling _ | .writing .. => 4
  | .deciding .. => 5
  | .searching _ => 6
  | .opening _ => 7
  | .checking _ => 8

/-- How many moves a client is away from having no request in hand. -/
def ClientPoint.rank : ClientPoint → Nat
  | .scheduling .. | .writing _ => 2
  | .pushing _ | .recording .. => 1
  | .claiming _ => 3
  | .closing _ tasks => 4 * tasks.length
  | .settling _ _ rest => 4 * rest.length + 3
  | .replying _ rest => 4 * rest.length + 2
  | .noting _ _ _ rest => 4 * rest.length + 1
  | _ => 0

def Thread.rank : Thread → Nat
  | .worker _ point => point.rank
  | .client point => point.rank
  | _ => 0

theorem WorkerMove.rank_lt {runtime runtime' : Option QueryCoordinator} {point point' : WorkerPoint}
    (move : WorkerMove runtime point sh runtime' point' sh') (busy : point ≠ .waiting) :
    point'.rank < point.rank := by
  cases move with
  | popControl | popTask | stop => exact absurd rfl busy
  | @release _ _ _ wake => cases wake <;> simp [WorkerPoint.rank]
  | _ => exact of_decide_eq_true rfl

/-- Every move of a thread that has a request in hand lowers its rank. -/
theorem Move.rank_lt (move : Move thread sh thread' sh') (busy : thread.hand ≠ []) :
    thread'.rank < thread.rank := by
  cases move with
  | worker move => exact move.rank_lt (by rintro rfl; exact busy rfl)
  | client move =>
    cases move with
    | dispatch | lookup | requestCancellation | absent | remove | wakeScheduler
    | enablePublication | drain | drained | close | wakeAndStop | stopScheduler
    | abortScheduler => exact absurd rfl busy
    | _ => simp [Thread.rank, ClientPoint.rank, Nat.mul_add]
  | scheduler | publisher | tick => exact absurd rfl busy

/-! ## Fair runs -/

variable {s : Service} {actor : Actor} {n : Nat}

/-- The worker looks into the queue. -/
def Looks (r : searchService.machine.Endless s) (n : Nat) : Prop :=
  r.event n = .worker ∧ ∃ runtime, (r.state n).threads .worker = .worker runtime .waiting

/-- The end of a request is recorded. -/
def Ends (r : searchService.machine.Endless s) (task : SearchTask) (n : Nat) : Prop :=
  ∃ status, (r.state (n + 1)).shared = (r.state n).shared.finishToken task status

/-- What is asked of the surroundings of the threads. -/
structure Fair (r : searchService.machine.Endless s) : Prop where
  /-- The worker, and a thread with a request in hand, moves if it can move from now on. -/
  moves : ∀ actor n, (∀ m ≥ n, Movable ((r.state m).threads actor) (r.state m).shared ∧
    (actor = .worker ∨ ((r.state m).threads actor).hand ≠ [])) → ∃ m ≥ n, r.event m = actor
  /-- Publishers leave room for queries: a worker that looks into the queue again and again
  finds no control there again and again. -/
  room : (∀ n, ∃ m ≥ n, Looks r m) →
    ∀ n, ∃ m ≥ n, Looks r m ∧ (r.state m).shared.queue.generationControl = none
  /-- The server closes a service whose worker has stopped. -/
  closes : ∀ n runtime, (r.state n).threads .worker = .worker runtime .stopped →
    ∃ m ≥ n, (r.state m).shared.queue.tasks = []

section Fair

variable {r : searchService.machine.Endless s}

/-- A thread with a request in hand moves on from where it is. -/
theorem Fair.moves_on (fair : Fair r) (busy : ((r.state n).threads actor).hand ≠ []) :
    ∃ m ≥ n, r.event m = actor ∧
      (r.state m).threads actor = (r.state n).threads actor := by
  refine r.next_move ?_
  by_contra never
  simp only [not_exists, not_and] at never
  refine absurd (fair.moves actor n fun m later => ?_) (by simpa using never)
  rw [r.stays later fun k after _ => never k after]
  exact ⟨movable_of_hand busy, .inr busy⟩

/-- A request that was taken out of the queue ends. -/
theorem Fair.ends_of_taken (fair : Fair r)
    (taken : task ∈ ((r.state n).threads actor).unfinished) : ∃ m ≥ n, Ends r task m := by
  refine eventually_of_falls (fun n => task ∈ ((r.state n).threads actor).unfinished)
    (fun n => ((r.state n).threads actor).rank) (fun n taken => ?_) taken
  have busy : ((r.state n).threads actor).hand ≠ [] :=
    List.ne_nil_of_mem (List.mem_append_right _ taken)
  obtain ⟨m, later, rfl, same⟩ := fair.moves_on busy
  rw [← same] at taken busy ⊢
  have move : Move _ _ _ _ := (r.step m).1
  obtain still | ended := move.tokenMove.taken taken
  · exact ⟨m + 1, Nat.le_succ_of_le later, .inr ⟨still, move.rank_lt busy⟩⟩
  · exact ⟨m, later, .inl ended⟩

/-- A request that is dispatched gets into the queue. -/
theorem Fair.queued_of_dispatching (fair : Fair r)
    (works : ∀ n, ¬ FailsDispatch (r.state n) (r.event n) (r.state (n + 1)))
    (own : task.cancelToken = some token)
    (dispatching : ((r.state n).threads actor).dispatching = some task) :
    ∃ m ≥ n, task ∈ (r.state m).shared.queue.tasks := by
  refine eventually_of_falls (fun n => ((r.state n).threads actor).dispatching = some task)
    (fun n => ((r.state n).threads actor).rank) (fun n dispatching => ?_) dispatching
  have busy : ((r.state n).threads actor).hand ≠ [] :=
    List.ne_nil_of_mem (List.mem_append_left _ (Option.mem_toList.mpr dispatching))
  obtain ⟨m, later, rfl, same⟩ := fair.moves_on busy
  rw [← same] at dispatching busy ⊢
  have move : Move _ _ _ _ := (r.step m).1
  refine ⟨m + 1, Nat.le_succ_of_le later, ?_⟩
  obtain still | queued := dispatching_after (r.step m) dispatching own (works m)
  · exact .inr ⟨still, move.rank_lt busy⟩
  · exact .inl queued

/-- The worker is at some point of its loop. -/
theorem worker_thread (reachable : searchService.machine.Reachable s) :
    ∃ runtime point, s.threads .worker = .worker runtime point := by
  have inductive_ : searchService.machine.Inductive fun s : Service =>
      ∃ runtime point, s.threads .worker = .worker runtime point := by
    refine ⟨fun ⟨_, entries⟩ => ⟨none, .starting, entries .worker⟩, ?_⟩
    rintro s actor t ⟨runtime, point, at_⟩ step
    by_cases mine : actor = .worker
    · subst mine
      have move : Move (s.threads .worker) s.shared (t.threads .worker) t.shared := step.1
      rw [at_] at move
      generalize t.threads .worker = thread' at move
      cases move
      exact ⟨_, _, rfl⟩
    · rw [step.2 .worker (Ne.symm mine)]
      exact ⟨runtime, point, at_⟩
  exact inductive_.holds reachable

/-- While a request is queued, the worker looks into the queue again and again. -/
theorem Fair.looks (fair : Fair r) (reachable : searchService.machine.Reachable s)
    (queued : ∀ m ≥ n, (r.state m).shared.queue.tasks ≠ []) {k : Nat} (after : n ≤ k) :
    ∃ m ≥ k, Looks r m := by
  have working : ∀ m ≥ n, ∃ runtime point, (r.state m).threads .worker = .worker runtime point ∧
      point ≠ .stopped := by
    intro m later
    obtain ⟨runtime, point, at_⟩ := worker_thread (r.reachable reachable m)
    refine ⟨runtime, point, at_, ?_⟩
    rintro rfl
    obtain ⟨l, closed, none⟩ := fair.closes m runtime at_
    exact queued l (Nat.le_trans later closed) none
  refine eventually_of_falls (n ≤ ·) (fun m => ((r.state m).threads .worker).rank) ?_ after
  intro k after
  have movable : ∀ m ≥ k, Movable ((r.state m).threads .worker) (r.state m).shared := by
    intro m later
    obtain ⟨runtime, point, at_, running⟩ := working m (Nat.le_trans after later)
    rw [at_]
    exact movable_worker runtime running fun _ => queued m (Nat.le_trans after later)
  obtain ⟨m, later, moved, same⟩ :=
    r.next_move (fair.moves .worker k fun m later => ⟨movable m later, .inl rfl⟩)
  obtain ⟨runtime, point, at_, -⟩ := working m (Nat.le_trans after later)
  by_cases waits : point = .waiting
  · exact ⟨m, later, .inl ⟨moved, runtime, waits ▸ at_⟩⟩
  refine ⟨m + 1, Nat.le_succ_of_le later, .inr ⟨by omega, ?_⟩⟩
  have move : Move _ _ _ _ := moved ▸ (r.step m).1
  rw [← same]
  rw [at_] at move ⊢
  generalize (r.state (m + 1)).threads .worker = thread' at move ⊢
  cases move with
  | worker move => exact move.rank_lt waits

theorem idxOf_le_of_sublist {tasks left : List SearchTask} (sub : left.Sublist tasks)
    (distinct : tasks.Nodup) (member : task ∈ left) : left.idxOf task ≤ tasks.idxOf task := by
  induction sub with
  | slnil => cases member
  | @cons left tasks first sub ih =>
    obtain ⟨fresh, distinct⟩ := List.nodup_cons.mp distinct
    have different : first ≠ task := fun same => fresh (same ▸ sub.subset member)
    rw [List.idxOf_cons_ne _ different]
    exact Nat.le_succ_of_le (ih distinct member)
  | @cons_cons left tasks first sub ih =>
    by_cases same : first = task
    · rw [List.idxOf_cons_eq _ same]
      exact Nat.zero_le _
    · rw [List.idxOf_cons_ne _ same, List.idxOf_cons_ne _ same]
      refine Nat.succ_le_succ (ih (List.nodup_cons.mp distinct).2 ?_)
      exact (List.mem_cons.mp member).resolve_left (Ne.symm same)

/-- A queued request does not move back. -/
theorem TokenMove.position {dispatching dispatching' : Option SearchTask}
    {unfinished unfinished' : List SearchTask}
    (move : TokenMove dispatching unfinished sh dispatching' unfinished' sh')
    (distinct : sh.queue.tasks.Nodup) (queued : task ∈ sh.queue.tasks)
    (still : task ∈ sh'.queue.tasks) :
    sh'.queue.tasks.idxOf task ≤ sh.queue.tasks.idxOf task := by
  cases move with
  | stays same => rw [same.tasks]
  | registers _ _ tasks => rw [tasks]
  | fails | finishes => exact le_rfl
  | admits _ tasks => rw [tasks, List.idxOf_append_of_mem queued]
  | takes _ _ left => exact idxOf_le_of_sublist left distinct still

/-- A queued request is taken out of the queue. -/
theorem Fair.taken_of_queued (fair : Fair r) (reachable : searchService.machine.Reachable s)
    (queued : task ∈ (r.state n).shared.queue.tasks) :
    ∃ m ≥ n, ∃ actor, task ∈ ((r.state m).threads actor).unfinished := by
  by_cases always : ∀ m ≥ n, task ∈ (r.state m).shared.queue.tasks
  case neg =>
    simp only [not_forall] at always
    obtain ⟨m, later, gone⟩ := always
    obtain ⟨k, after, there, gone⟩ :=
      exists_last (fun m => task ∈ (r.state m).shared.queue.tasks) later queued
      gone
    have move : Move _ _ _ _ := (r.step k).1
    exact ⟨k + 1, Nat.le_succ_of_le after, r.event k, (move.tokenMove.queued there).resolve_left gone⟩
  exfalso
  have distinct : ∀ m, (r.state m).shared.queue.tasks.Nodup := fun m =>
    (tokens_outlined (r.reachable reachable m)).shared.queued.distinct.of_map
  have falls : ∀ {k m}, n ≤ k → k ≤ m → (r.state m).shared.queue.tasks.idxOf task ≤
      (r.state k).shared.queue.tasks.idxOf task := by
    intro k m after later
    induction m, later using Nat.le_induction with
    | base => exact le_rfl
    | succ m later ih =>
      have move : Move _ _ _ _ := (r.step m).1
      exact (move.tokenMove.position (distinct m) (always m (Nat.le_trans after later))
        (always (m + 1) (by omega))).trans ih
  have looks := fair.room fun k => by
    obtain ⟨m, later, looks⟩ := fair.looks reachable
      (fun m later => List.ne_nil_of_mem (always m later)) (Nat.le_max_right k n)
    exact ⟨m, Nat.le_trans (Nat.le_max_left k n) later, looks⟩
  suffices never : ∃ m ≥ n, False from never.elim fun _ never => never.2
  refine eventually_of_falls (n ≤ ·) (fun m => (r.state m).shared.queue.tasks.idxOf task) ?_ le_rfl
  intro k after
  obtain ⟨m, later, ⟨moved, runtime, at_⟩, clear⟩ := looks k
  refine ⟨m + 1, Nat.le_succ_of_le later, .inr ⟨by omega, ?_⟩⟩
  refine Nat.lt_of_lt_of_le ?_ (falls after later)
  have move : Move ((r.state m).threads .worker) (r.state m).shared
    ((r.state (m + 1)).threads .worker) (r.state (m + 1)).shared := moved ▸ (r.step m).1
  have still := always (m + 1) (by omega)
  have stops : ∀ runtime, (r.state (m + 1)).threads .worker ≠ .worker runtime .stopped := by
    intro runtime stopped
    obtain ⟨l, closed, none⟩ := fair.closes (m + 1) runtime stopped
    exact List.ne_nil_of_mem (always l (by omega)) none
  rw [at_] at move
  generalize (r.state (m + 1)).threads .worker = thread', (r.state (m + 1)).shared = sh'
    at move still stops ⊢
  cases move with
  | worker move =>
    cases move with
    | popControl popped =>
      rw [(SearchQueueState.pop_generation popped).1] at clear
      cases clear
    | @popTask _ _ first _ popped =>
      obtain ⟨rest, tasks, rfl⟩ := SearchQueueState.pop_query popped
      have different : first ≠ task := by
        rintro rfl
        exact (List.nodup_cons.mp (tasks ▸ distinct m)).1 still
      rw [tasks, List.idxOf_cons_ne _ different]
      exact Nat.lt_succ_self _
    | stop => exact absurd rfl (stops _)

/-- Every active token ends, if no dispatch fails. -/
theorem Fair.ends (fair : Fair r) (reachable : searchService.machine.Reachable s)
    (tracked : Tracked s)
    (works : ∀ n, ¬ FailsDispatch (r.state n) (r.event n) (r.state (n + 1))) {control : RequestRef}
    (active : (r.state n).shared.cancellations.active token = some control) :
    ∃ m ≥ n, Ends r ⟨control, some token⟩ m := by
  have tracked : Tracked (r.state n) := by
    clear active
    induction n with
    | zero => exact r.zero.symm ▸ tracked
    | succ n ih => exact ih.step (r.step n) (works n)
  have of_queued : ∀ m ≥ n, ⟨control, some token⟩ ∈ (r.state m).shared.queue.tasks →
      ∃ m ≥ n, Ends r ⟨control, some token⟩ m := by
    intro m later queued
    obtain ⟨k, after, actor, taken⟩ := fair.taken_of_queued reachable queued
    obtain ⟨l, last, ended⟩ := fair.ends_of_taken taken
    exact ⟨l, by omega, ended⟩
  obtain queued | ⟨actor, held⟩ := tracked token control active
  · exact of_queued n le_rfl queued
  obtain dispatching | taken := List.mem_append.mp held
  · obtain ⟨m, later, queued⟩ :=
      fair.queued_of_dispatching works rfl (Option.mem_toList.mp dispatching)
    exact of_queued m later queued
  · exact fair.ends_of_taken taken

/-- Without a failed dispatch, and only then, every active token ends. -/
theorem Fair.ends_iff (fair : Fair r) (reachable : searchService.machine.Reachable s)
    (tracked : Tracked s) :
    (∀ n token control, (r.state n).shared.cancellations.active token = some control →
        ∃ m ≥ n, Ends r ⟨control, some token⟩ m) ↔
      ∀ n, ¬ FailsDispatch (r.state n) (r.event n) (r.state (n + 1)) := by
  constructor
  · intro ends n fails
    obtain ⟨token, control, orphan⟩ :=
      orphan_of_failsDispatch (r.reachable reachable n) (r.step n) fails
    obtain ⟨m, later, status, ended⟩ := ends (n + 1) token control orphan.active
    obtain ⟨_, run⟩ := r.run (Nat.le_succ_of_le later)
    have active := (orphan.run run).active
    rw [ended, active_finishToken, if_pos rfl] at active
    cases active
  · exact fun works n token control active => fair.ends reachable tracked works active

end Fair

/-! ## The registry in every run -/

/-- **Cancel tokens.** In every run active and remembered tokens are apart, each remembered
token is listed once, and the oldest ones are forgotten beyond the limit. A step leaves a
token behind exactly if it is a dispatch that fails after the registration; without such a
dispatch every active token belongs to a request that is under way. In a fair run every
active token ends with its request exactly if there is no such dispatch. -/
theorem cancel_tokens_iff (s : Service) (reachable : searchService.machine.Reachable s) :
    RegistryValid s.shared.cancellations ∧
    (∀ actor t, searchService.machine.step s actor t → ∃ ended : Option String,
      t.shared.cancellations.terminalOrder =
        (s.shared.cancellations.terminalOrder ++ ended.toList).drop
          ((s.shared.cancellations.terminalOrder ++ ended.toList).length -
            cancelHistoryLimit)) ∧
    (Tracked s → ∀ actor t, searchService.machine.step s actor t →
      (Tracked t ↔ ¬ FailsDispatch s actor t)) ∧
    ((searchService.machine.avoiding FailsDispatch).Reachable s → Tracked s) ∧
    (Tracked s → ∀ r : searchService.machine.Endless s, Fair r →
      ((∀ n token control, (r.state n).shared.cancellations.active token = some control →
          ∃ m ≥ n, Ends r ⟨control, some token⟩ m) ↔
        ∀ n, ¬ FailsDispatch (r.state n) (r.event n) (r.state (n + 1)))) := by
  refine ⟨(tokens_outlined reachable).shared.registry, ?_, ?_, ?_, ?_⟩
  · intro actor t step
    exact (Move.tokenMove step.1).order (tokens_outlined reachable).shared.registry
  · intro tracked actor t step
    constructor
    · intro still fails
      obtain ⟨token, control, orphan⟩ := orphan_of_failsDispatch reachable step fails
      exact not_tracked_of_orphan orphan still
    · exact tracked.step step
  · intro careful
    have inductive_ : (searchService.machine.avoiding FailsDispatch).Inductive Tracked := by
      refine ⟨?_, fun tracked step => tracked.step step.1 step.2⟩
      rintro s ⟨starts, -⟩ token control active
      have initial : s.shared = .initial := starts
      rw [initial] at active
      cases active
    exact inductive_.holds careful
  · exact fun tracked r fair => fair.ends_iff reachable tracked

/-! ## Runs -/

@[simp] theorem threads_put (s : Service) (actor : Actor) (pc : Thread) (sh : Shared) :
    (s.put actor pc sh).threads actor = pc := Function.update_self ..

/-- No thread has a request in hand, and the worker finds nothing to do. -/
structure Resting (s : Service) : Prop where
  waits : s.threads .worker = .worker none .waiting
  idle : ∀ actor, (s.threads actor).hand = []
  tasks : s.shared.queue.tasks = []
  control : s.shared.queue.generationControl = none
  serving : s.shared.queue.controlProtocolFailed = false ∧ s.shared.queue.closed = false

theorem Resting.not_movable (rest : Resting s) : ¬ Movable (s.threads .worker) s.shared := by
  have empty : s.shared.queue.pop = (.wait, s.shared.queue) := by
    simp [SearchQueueState.pop, rest.control, rest.serving, rest.tasks]
  rw [rest.waits]
  rintro ⟨thread', sh', move⟩
  cases move with
  | worker move =>
    cases move with
    | popControl popped | popTask popped | stop popped => cases empty.symm.trans popped

/-- A run that comes to rest is fair. -/
theorem fair_of_resting {r : searchService.machine.Endless s} {k : Nat}
    (rest : ∀ m ≥ k, Resting (r.state m)) : Fair r where
  moves actor n always := by
    obtain ⟨movable, rfl | busy⟩ := always (max n k) (Nat.le_max_left n k)
    · exact absurd movable (rest _ (Nat.le_max_right n k)).not_movable
    · exact absurd ((rest _ (Nat.le_max_right n k)).idle actor) busy
  room looks := by
    obtain ⟨m, later, moved, _⟩ := looks k
    exact absurd ⟨_, _, moved ▸ (r.step m).1⟩ (rest m later).not_movable
  closes n _ _ :=
    ⟨max n k, Nat.le_max_left n k, (rest _ (Nat.le_max_right n k)).tasks⟩

/-- The clock ticks on. -/
def ticking (s : Service) (works : s.threads .clock = .clock) :
    (searchService.machine.avoiding FailsDispatch).Endless s where
  state n := { s with shared := { s.shared with now := s.shared.now + n } }
  event _ := .clock
  zero := rfl
  step n := by
    refine ⟨⟨?_, fun _ _ => rfl⟩, ?_⟩
    · show Move (s.threads .clock) _ (s.threads .clock) _
      rw [works]
      exact .tick
    · rintro ⟨_, _, _, ⟨_, client, _⟩ | ⟨client, _⟩⟩ <;> cases works.symm.trans client

/-- A client registers a token. -/
def registeringService : Service :=
  freshService.put (.client 0) (.client (.scheduling ⟨0, some "search-1"⟩ 10))
    { Shared.initial with
      cancellations := ⟨Function.update (fun _ => none) "search-1" (some 0), fun _ => none, []⟩
      nextRequest := 1 }

theorem registeringService_step :
    searchService.machine.step freshService (.client 0) registeringService :=
  Program.step_put rfl (.client (.dispatch (some "search-1") 10 rfl))

/-- The client has told the deadline scheduler about it. -/
def schedulingService : Service :=
  registeringService.put (.client 0) (.client (.pushing ⟨0, some "search-1"⟩))
    (registeringService.shared.sendDeadline (.schedule ⟨0, 0, 10⟩))

/-- The same request in the queue. -/
def queuedService : Service :=
  schedulingService.put (.client 0) (.client .idle)
    { schedulingService.shared with
      queue.tasks := [⟨0, some "search-1"⟩]
      history.admitted := [0] }

theorem queuedService_reachable :
    (searchService.machine.avoiding FailsDispatch).Reachable queuedService := by
  have fresh : (searchService.machine.avoiding FailsDispatch).Reachable freshService :=
    .start ⟨rfl, fun _ => rfl⟩
  have registering := fresh.next ⟨registeringService_step, by
    rintro ⟨_, _, _, ⟨_, ⟨⟩, _⟩ | ⟨⟨⟩, _⟩⟩⟩
  have scheduled : searchService.machine.step registeringService (.client 0) schedulingService :=
    Program.step_put (threads_put ..) (.client (.schedule rfl))
  have scheduling := registering.next ⟨scheduled, by
    rintro ⟨_, _, _, ⟨_, _, ⟨⟩⟩ | ⟨⟨⟩, _⟩⟩⟩
  have pushed : searchService.machine.step schedulingService (.client 0) queuedService :=
    Program.step_put (threads_put ..) (.client (.push rfl))
  exact scheduling.next ⟨pushed, by rintro ⟨_, _, _, ⟨_, ⟨⟩, _⟩ | ⟨_, ⟨⟩⟩⟩⟩

theorem serve_step {runtime runtime' : Option QueryCoordinator} {point point' : WorkerPoint}
    {sh' : Shared} (at_ : s.threads .worker = .worker runtime point)
    (move : WorkerMove runtime point s.shared runtime' point' sh') :
    (searchService.machine.avoiding FailsDispatch).step s .worker
      (s.put .worker (.worker runtime' point') sh') := by
  refine ⟨Program.step_put at_ (.worker move), ?_⟩
  rintro ⟨_, _, _, ⟨_, client, _⟩ | ⟨client, _⟩⟩ <;> cases at_.symm.trans client

/-- The worker serves the request without a runtime, and everything rests. -/
theorem queuedService_served : ∃ events t,
    (searchService.machine.avoiding FailsDispatch).Run queuedService events t ∧ Resting t ∧
      t.threads .clock = .clock := by
  let nowhere : Surroundings := { emptyCorpus with canonicalDataDir := none }
  have waiting := Machine.Run.single (serve_step (s := queuedService) rfl (.start nowhere))
  have checking := waiting.snoc (serve_step (threads_put ..) (.popTask rfl))
  have opening := checking.snoc (serve_step (threads_put ..) (.proceed rfl))
  have searching := opening.snoc (serve_step (threads_put ..) (.openForTask nowhere))
  have deciding := searching.snoc (serve_step (threads_put ..) .searchNowhere)
  have writing := deciding.snoc (serve_step (threads_put ..) (.win rfl))
  have recording := writing.snoc (serve_step (threads_put ..) .writeReply)
  have releasing := recording.snoc (serve_step (threads_put ..) .record)
  have waking := releasing.snoc (serve_step (threads_put ..) .release)
  have done := waking.snoc (serve_step (threads_put ..) .wakeScheduler)
  refine ⟨_, _, done, ⟨rfl, fun actor => ?_, rfl, rfl, rfl, rfl⟩, rfl⟩
  cases actor with
  | client number =>
    have idle : queuedService.threads (.client number) = .client .idle := by
      by_cases first : number = 0
      · subst first
        rfl
      · simp [queuedService, schedulingService, registeringService, System.put, freshService,
          Actor.entry, first]
    exact congrArg Thread.hand idle
  | _ => rfl

/-- The token of the queued request ends with the request. -/
theorem cancel_tokens_of_served_request :
    queuedService.shared.cancellations.active "search-1" = some 0 ∧
    RegistryValid queuedService.shared.cancellations ∧ Tracked queuedService ∧
    ∃ r : searchService.machine.Endless queuedService, Fair r ∧
      ∃ m, Ends r ⟨0, some "search-1"⟩ m := by
  obtain ⟨valid, -, -, tracked, ends⟩ :=
    cancel_tokens_iff queuedService queuedService_reachable.of_avoiding
  have tracked := tracked queuedService_reachable
  obtain ⟨events, t, run, rest, works⟩ := queuedService_served
  obtain ⟨r, k, same⟩ := Machine.Endless.exists_after run (ticking t works)
  let all : searchService.machine.Endless queuedService :=
    ⟨r.state, r.event, r.zero, fun n => (r.step n).1⟩
  have fair : Fair all := by
    refine fair_of_resting (k := k) fun m later => ?_
    obtain ⟨n, rfl⟩ := Nat.exists_eq_add_of_le later
    show Resting (r.state (k + n))
    rw [(same n).1]
    exact ⟨rest.waits, rest.idle, rest.tasks, rest.control, rest.serving⟩
  have active : (all.state 0).shared.cancellations.active "search-1" = some 0 := by
    rw [all.zero]
    rfl
  obtain ⟨m, -, ended⟩ := (ends tracked all fair).mpr (fun n => (r.step n).2) 0 _ _ active
  exact ⟨rfl, valid, tracked, all, fair, m, ended⟩

/-- The connection of a request cannot be cloned after its token was registered. The request
is rejected, and its token is refused for good. -/
theorem rejected_token_refused_forever :
    ∃ (s : Service) (token : String), searchService.machine.Reachable s ∧
      s.threads (.client 0) = .client .idle ∧ s.shared.queue.tasks = [] ∧
      ∀ events t, searchService.machine.Run s events t → ∀ control,
        t.shared.cancellations.register token control = none := by
  have registering : searchService.machine.Reachable registeringService :=
    freshService_reachable.next registeringService_step
  have rejected := Program.step_put (P := searchService) (s := registeringService) (a := .client 0)
    (threads_put ..) (.client .unscheduled)
  obtain ⟨token, control, orphan⟩ := orphan_of_failsDispatch registering rejected
    ⟨⟨0, some "search-1"⟩, "search-1", rfl, .inl ⟨10, rfl, threads_put ..⟩⟩
  exact ⟨_, token, registering.next rejected, threads_put .., rfl,
    fun events t run other => (orphan.run run).register other⟩

end ResumeIr.Daemon.SearchService
