import ResumeIr.Daemon.SearchService.TerminalReplies

/-!
# Cancel tokens over the life of the service

A cancel token is active from the registration of its request until a thread that has the
request in hand records how it ended. Each request is in one place: it is being
dispatched, it is queued, or some thread has taken it out of the queue (`TokenMove`). So a
token ends once per registration, and the history of ended tokens has no duplicates
(`RegistryValid`).

A dispatch that fails after the registration forgets the request and leaves its token
behind (`FailsDispatch`). Nobody records its end: the token stays active for good
(`Orphan`), and every request that uses it is refused. Without such a dispatch every
active token belongs to a request that is under way (`Tracked`).
-/

namespace ResumeIr.Daemon.SearchService

open SearchRuntime Foundation

variable {sh sh' : Shared} {thread thread' : Thread} {task : SearchTask} {token : String}

/-! ## Where a request is -/

def WorkerPoint.unfinished : WorkerPoint → List SearchTask
  | .checking task => [task]
  | .opening task => [task]
  | .searching task => [task]
  | .deciding task _ => [task]
  | .writing task _ => [task]
  | .recording task _ _ => [task]
  | _ => []

def ClientPoint.unfinished : ClientPoint → List SearchTask
  | .claiming task => [task]
  | .writing task => [task]
  | .recording task _ => [task]
  | .closing _ tasks => tasks
  | .settling _ task rest => task :: rest
  | .replying task rest => task :: rest
  | .noting _ task _ rest => task :: rest
  | _ => []

/-- The requests that a thread has taken out of the queue and whose end it has not
recorded yet. -/
def Thread.unfinished : Thread → List SearchTask
  | .worker _ point => point.unfinished
  | .client point => point.unfinished
  | _ => []

def ClientPoint.dispatching : ClientPoint → Option SearchTask
  | .scheduling task _ => some task
  | .pushing task => some task
  | _ => none

/-- The request that a thread has registered and not put into the queue yet. -/
def Thread.dispatching : Thread → Option SearchTask
  | .client point => point.dispatching
  | _ => none

def Thread.hand (thread : Thread) : List SearchTask :=
  thread.dispatching.toList ++ thread.unfinished

/-- Neither the tasks of the queue nor the tokens differ. -/
structure SameTokens (sh sh' : Shared) : Prop where
  tasks : sh'.queue.tasks = sh.queue.tasks
  registry : sh'.cancellations = sh.cancellations
  next : sh'.nextRequest = sh.nextRequest

/-- What a move does to the requests and their tokens. -/
inductive TokenMove : Option SearchTask → List SearchTask → Shared →
    Option SearchTask → List SearchTask → Shared → Prop where
  | stays {dispatching : Option SearchTask} {unfinished : List SearchTask} {sh sh' : Shared}
      (same : SameTokens sh sh') :
      TokenMove dispatching unfinished sh dispatching unfinished sh'
  | registers {sh sh' : Shared} (token : Option String)
      (registered : sh.cancellations.registerRequest token sh.nextRequest =
        some sh'.cancellations)
      (tasks : sh'.queue.tasks = sh.queue.tasks) (next : sh'.nextRequest = sh.nextRequest + 1) :
      TokenMove none [] sh (some ⟨sh.nextRequest, token⟩) [] sh'
  | fails {sh : Shared} (task : SearchTask) : TokenMove (some task) [] sh none [] sh
  | admits {sh sh' : Shared} (task : SearchTask) (tasks : sh'.queue.tasks = sh.queue.tasks ++ [task])
      (registry : sh'.cancellations = sh.cancellations) (next : sh'.nextRequest = sh.nextRequest) :
      TokenMove (some task) [] sh none [] sh'
  | takes {sh sh' : Shared} (taken : List SearchTask)
      (tasks : (taken ++ sh'.queue.tasks).Perm sh.queue.tasks)
      (left : sh'.queue.tasks.Sublist sh.queue.tasks)
      (registry : sh'.cancellations = sh.cancellations) (next : sh'.nextRequest = sh.nextRequest) :
      TokenMove none [] sh none taken sh'
  | finishes {sh : Shared} (task : SearchTask) (rest : List SearchTask) (status : CancelStatus) :
      TokenMove none (task :: rest) sh none rest (sh.finishToken task status)

theorem WorkerMove.tokenMove {runtime runtime' : Option QueryCoordinator}
    {point point' : WorkerPoint} (move : WorkerMove runtime point sh runtime' point' sh') :
    TokenMove none point.unfinished sh none point'.unfinished sh' := by
  cases move with
  | popControl popped =>
    obtain ⟨-, rfl⟩ := SearchQueueState.pop_generation popped
    exact .stays ⟨rfl, rfl, rfl⟩
  | popTask popped =>
    obtain ⟨rest, tasks, rfl⟩ := SearchQueueState.pop_query popped
    exact .takes [_] (by rw [tasks]; exact .refl _) (by rw [tasks]; exact List.sublist_cons_self ..)
      rfl rfl
  | stop popped =>
    obtain rfl := SearchQueueState.pop_stop popped
    exact .stays ⟨rfl, rfl, rfl⟩
  | record => exact .finishes _ [] _
  | @release _ _ task wake =>
    have same : SameTokens sh { sh with queue := sh.queue.completeActive task.control } :=
      ⟨SearchQueueState.tasks_completeActive .., rfl, rfl⟩
    cases wake <;> exact .stays same
  | _ => exact .stays ⟨rfl, rfl, rfl⟩

theorem SchedulerMove.sameTokens {scheduled scheduled' : List ScheduledDeadline}
    {sequence sequence' : UInt64} {point point' : SchedulerPoint}
    (move : SchedulerMove scheduled sequence point sh scheduled' sequence' point' sh') :
    SameTokens sh sh' := by
  cases move <;> exact ⟨rfl, rfl, rfl⟩

theorem sameTokens_cancelActive (sh : Shared) : SameTokens sh sh.cancelActive := by
  unfold Shared.cancelActive
  split <;> exact ⟨rfl, rfl, rfl⟩

theorem sameTokens_reject (sh : Shared) (rejected : Option QueuedGenerationControl) :
    SameTokens sh (sh.reject rejected) := by
  cases rejected <;> exact ⟨rfl, rfl, rfl⟩

theorem PublisherMove.sameTokens {point point' : PublisherPoint}
    (move : PublisherMove point sh point' sh') : SameTokens sh sh' := by
  refine ⟨move.tasks_eq, ?_, ?_⟩
  · cases move with
    | resolveFatal => exact (sameTokens_cancelActive sh).registry
    | _ => rfl
  · cases move with
    | resolveFatal => exact (sameTokens_cancelActive sh).next
    | _ => rfl

/-- Removing a task takes it out of the queue once. -/
theorem perm_of_remove {state queue : SearchQueueState} {control : RequestRef}
    (removed : state.remove control = some (task, queue)) :
    (task :: queue.tasks).Perm state.tasks := by
  obtain ⟨found, there, same⟩ := Option.map_eq_some_iff.mp removed
  cases same
  obtain ⟨named, before, after, split, others⟩ := List.find?_eq_some_iff_append.mp there
  have erased : state.tasks.eraseP (fun task => task.control = control) = before ++ after := by
    rw [split, List.eraseP_append_right _ (by simpa using others)]
    simp [named]
  rw [erased, split]
  exact List.perm_middle.symm

theorem ClientMove.tokenMove {point point' : ClientPoint} (move : ClientMove point sh point' sh') :
    TokenMove point.dispatching point.unfinished sh point'.dispatching point'.unfinished sh' := by
  cases move with
  | dispatch token _ registered => exact .registers token registered rfl rfl
  | unscheduled | pushRefused => exact .fails _
  | push pushed =>
    obtain ⟨-, rfl⟩ := SearchQueueState.push_some pushed
    exact .admits _ rfl rfl rfl
  | remove removed =>
    obtain ⟨-, same⟩ := SearchQueueState.remove_some removed
    exact .takes [_] (perm_of_remove removed) (by rw [same]; exact List.eraseP_sublist ..) rfl rfl
  | record => exact .finishes _ [] _
  | drain closed =>
    cases closed
    obtain ⟨tasks, registry, next⟩ := sameTokens_reject { sh with queue := _ } _
    exact .stays ⟨tasks, registry, next⟩
  | close how closed =>
    cases closed
    have rejected := sameTokens_reject
      { sh.cancelActive with queue := { sh.queue.closeForDrain.2 with tasks := [] } }
      sh.queue.generationControl
    have active := sameTokens_cancelActive sh
    refine .takes _ ?_ ?_ (rejected.registry.trans active.registry)
      (rejected.next.trans active.next)
    · rw [rejected.tasks]
      exact .of_eq (List.append_nil _)
    · rw [rejected.tasks]
      exact List.nil_sublist _
  | note => exact .finishes _ _ _
  | _ => exact .stays ⟨rfl, rfl, rfl⟩

theorem Move.tokenMove (move : Move thread sh thread' sh') :
    TokenMove thread.dispatching thread.unfinished sh thread'.dispatching thread'.unfinished
      sh' := by
  cases move with
  | worker move | client move => exact move.tokenMove
  | scheduler move | publisher move => exact .stays move.sameTokens
  | tick => exact .stays ⟨rfl, rfl, rfl⟩

/-! ## The registry -/

/-- Active and remembered tokens are apart, and the remembered ones are those in the order
of their end, each once. -/
structure RegistryValid (registry : CancellationRegistryState) : Prop where
  apart : ∀ token, (registry.active token).isSome = true → registry.terminal token = none
  listed : ∀ token, (registry.terminal token).isSome = true ↔ token ∈ registry.terminalOrder
  once : registry.terminalOrder.Nodup
  bounded : registry.terminalOrder.length ≤ cancelHistoryLimit

/-- The task has its token. -/
def Owned (sh : Shared) (task : SearchTask) : Prop :=
  ∀ token, task.cancelToken = some token → sh.cancellations.active token = some task.control

theorem RegistryValid.default : RegistryValid .default where
  apart _ active := by cases active
  listed token := by simp [CancellationRegistryState.default]
  once := List.nodup_nil
  bounded := Nat.zero_le _

theorem foldl_forget {terminal : String → Option CancelStatus} (expired : List String) :
    expired.foldl (fun terminal token => Function.update terminal token none) terminal token =
      if token ∈ expired then none else terminal token := by
  induction expired generalizing terminal with
  | nil => simp
  | cons first rest ih =>
    rw [List.foldl_cons, ih]
    by_cases same : token = first
    · subst same
      simp
    · simp [same]

@[simp] theorem active_complete (registry : CancellationRegistryState) (named : String)
    (status : CancelStatus) :
    (registry.complete (some named) status).active = Function.update registry.active named none := by
  simp only [CancellationRegistryState.complete, CancellationRegistryState.forgetOldest]

/-- The order after the end of a token: the token comes last, and the first ones are
forgotten. -/
theorem terminalOrder_complete (registry : CancellationRegistryState) (named : String)
    (status : CancelStatus) :
    (registry.complete (some named) status).terminalOrder =
      (registry.terminalOrder ++ [named]).drop
        ((registry.terminalOrder ++ [named]).length - cancelHistoryLimit) := by
  simp only [CancellationRegistryState.complete, CancellationRegistryState.forgetOldest]

theorem terminal_complete (registry : CancellationRegistryState) (named : String)
    (status : CancelStatus) (token : String) :
    (registry.complete (some named) status).terminal token =
      if token ∈ (registry.terminalOrder ++ [named]).take
          ((registry.terminalOrder ++ [named]).length - cancelHistoryLimit) then none
      else Function.update registry.terminal named (some status) token := by
  simp only [CancellationRegistryState.complete, CancellationRegistryState.forgetOldest]
  exact foldl_forget _

/-- The end of a request frees its token and no other one. -/
theorem active_finishToken (sh : Shared) (task : SearchTask) (status : CancelStatus)
    (token : String) :
    (sh.finishToken task status).cancellations.active token =
      if task.cancelToken = some token then none else sh.cancellations.active token := by
  unfold Shared.finishToken
  cases task.cancelToken with
  | none => rfl
  | some finished => simp [Function.update_apply, eq_comm]

/-- A token that is active ends. -/
theorem RegistryValid.complete {registry : CancellationRegistryState} (valid : RegistryValid registry)
    {named : String} (active : (registry.active named).isSome = true) (status : CancelStatus) :
    RegistryValid (registry.complete (some named) status) := by
  have fresh : named ∉ registry.terminalOrder := by
    intro member
    have remembered := (valid.listed named).mpr member
    rw [valid.apart named active] at remembered
    cases remembered
  have once : (registry.terminalOrder ++ [named]).Nodup :=
    List.concat_eq_append ▸ valid.once.concat fresh
  have listed : ∀ token, (Function.update registry.terminal named (some status) token).isSome =
      true ↔ token ∈ registry.terminalOrder ++ [named] := by
    intro token
    by_cases same : token = named
    · subst same
      simp
    · rw [Function.update_of_ne same, valid.listed token]
      simp [same]
  refine ⟨fun token still => ?_, fun token => ?_, ?_, ?_⟩
  · rw [active_complete] at still
    by_cases same : token = named
    · subst same
      simp at still
    · rw [Function.update_of_ne same] at still
      rw [terminal_complete, Function.update_of_ne same, valid.apart token still]
      split <;> rfl
  · rw [terminal_complete, terminalOrder_complete]
    generalize (registry.terminalOrder ++ [named]).length - cancelHistoryLimit = excess
    have parts := List.take_append_drop excess (registry.terminalOrder ++ [named])
    have apart : ∀ token ∈ (registry.terminalOrder ++ [named]).take excess,
        token ∉ (registry.terminalOrder ++ [named]).drop excess := by
      intro other first second
      rw [← parts] at once
      exact (List.nodup_append.mp once).2.2 other first other second rfl
    split
    next expired => simpa using apart token expired
    next kept =>
      rw [listed token, ← parts, List.mem_append]
      simp [kept]
  · rw [terminalOrder_complete]
    exact once.sublist (List.drop_sublist _ _)
  · rw [terminalOrder_complete, List.length_drop]
    omega

theorem registerRequest_some {registry after : CancellationRegistryState} {token : Option String}
    {control : RequestRef} (registered : registry.registerRequest token control = some after) :
    (token = none ∧ after = registry) ∨ ∃ named, token = some named ∧
      registry.active named = none ∧ registry.terminal named = none ∧
      after = { registry with active := Function.update registry.active named (some control) } := by
  cases token with
  | none => exact .inl ⟨rfl, (Option.some.inj registered).symm⟩
  | some named =>
    refine .inr ⟨named, rfl, ?_⟩
    simp only [CancellationRegistryState.registerRequest, CancellationRegistryState.register]
      at registered
    split at registered
    · cases registered
    next free =>
      simp only [Bool.or_eq_true, not_or, Option.not_isSome_iff_eq_none] at free
      exact ⟨free.1, free.2, (Option.some.inj registered).symm⟩

theorem RegistryValid.register {registry after : CancellationRegistryState}
    (valid : RegistryValid registry) {token : Option String} {control : RequestRef}
    (registered : registry.registerRequest token control = some after) : RegistryValid after := by
  obtain ⟨rfl, rfl⟩ | ⟨named, rfl, _, forgotten, rfl⟩ := registerRequest_some registered
  · exact valid
  · refine ⟨fun token active => ?_, valid.listed, valid.once, valid.bounded⟩
    by_cases same : token = named
    · exact same ▸ forgotten
    · exact valid.apart token (by simpa [Function.update_of_ne same] using active)

/-- A registration takes no token away. -/
theorem active_of_register {registry after : CancellationRegistryState} {token : Option String}
    {control : RequestRef} (registered : registry.registerRequest token control = some after)
    {named : String} {owner : RequestRef} (active : registry.active named = some owner) :
    after.active named = some owner := by
  obtain ⟨rfl, rfl⟩ | ⟨fresh, rfl, free, _, rfl⟩ := registerRequest_some registered
  · exact active
  · have different : named ≠ fresh := by
      rintro rfl
      rw [free] at active
      cases active
    exact (Function.update_of_ne different ..).trans active

/-! ## One place for each request -/

/-- Tasks of different requests that were dispatched and have their tokens. -/
structure Placed (sh : Shared) (tasks : List SearchTask) : Prop where
  distinct : (tasks.map (·.control)).Nodup
  known : ∀ task ∈ tasks, task.control < sh.nextRequest
  owned : ∀ task ∈ tasks, Owned sh task

section Placed

variable {tasks others : List SearchTask}

theorem Placed.subperm (placed : Placed sh tasks) (within : others.Subperm tasks) :
    Placed sh others where
  distinct := by
    obtain ⟨middle, perm, sublist⟩ := within
    exact (perm.map _).nodup_iff.mp (placed.distinct.sublist (sublist.map _))
  known task member := placed.known task (within.subset member)
  owned task member := placed.owned task (within.subset member)

theorem Placed.right (placed : Placed sh (others ++ tasks)) : Placed sh tasks :=
  placed.subperm (List.sublist_append_right _ _).subperm

theorem Placed.congr (placed : Placed sh tasks) (registry : sh'.cancellations = sh.cancellations)
    (next : sh'.nextRequest = sh.nextRequest) : Placed sh' tasks where
  distinct := placed.distinct
  known task member := next ▸ placed.known task member
  owned task member token named := registry ▸ placed.owned task member token named

theorem Placed.cons (placed : Placed sh tasks) (known : task.control < sh.nextRequest)
    (owned : Owned sh task) (fresh : task.control ∉ tasks.map (·.control)) :
    Placed sh (task :: tasks) where
  distinct := List.nodup_cons.mpr ⟨fresh, placed.distinct⟩
  known := List.forall_mem_cons.mpr ⟨known, placed.known⟩
  owned := List.forall_mem_cons.mpr ⟨owned, placed.owned⟩

/-- A registration leaves the other requests where they are. -/
theorem Placed.register {token : Option String} (placed : Placed sh tasks)
    (registered : sh.cancellations.registerRequest token sh.nextRequest = some sh'.cancellations)
    (next : sh'.nextRequest = sh.nextRequest + 1) : Placed sh' tasks where
  distinct := placed.distinct
  known task member := by
    rw [next]
    exact Nat.lt_succ_of_lt (placed.known task member)
  owned task member named has := active_of_register registered (placed.owned task member named has)

theorem owned_of_register {token : Option String}
    (registered : sh.cancellations.registerRequest token sh.nextRequest = some sh'.cancellations) :
    Owned sh' ⟨sh.nextRequest, token⟩ := by
  rintro named rfl
  obtain ⟨⟨⟩, _⟩ | ⟨_, ⟨⟩, _, _, after⟩ := registerRequest_some registered
  rw [after]
  exact Function.update_self ..

/-- The end of one request leaves the tokens of the others alone. -/
theorem Placed.finish (placed : Placed sh (task :: tasks)) (status : CancelStatus) :
    Placed (sh.finishToken task status) tasks := by
  obtain ⟨fresh, distinct⟩ := List.nodup_cons.mp placed.distinct
  refine ⟨distinct, fun other member => placed.known other (List.mem_cons_of_mem _ member), ?_⟩
  intro other member token named
  have owned := placed.owned other (List.mem_cons_of_mem _ member) token named
  have different : task.cancelToken ≠ some token := by
    intro own
    have same := placed.owned task List.mem_cons_self token own
    rw [owned] at same
    exact fresh (List.mem_map.mpr ⟨other, member, Option.some.inj same⟩)
  rw [active_finishToken, if_neg different, owned]

theorem Placed.registry (placed : Placed sh [task]) (valid : RegistryValid sh.cancellations)
    (status : CancelStatus) : RegistryValid (sh.finishToken task status).cancellations := by
  cases own : task.cancelToken with
  | none =>
    simp only [Shared.finishToken, own]
    exact valid
  | some finished =>
    have owned := placed.owned task (List.mem_singleton_self _) finished own
    simp only [Shared.finishToken, own]
    exact valid.complete (by rw [owned]; rfl) status

end Placed

structure TokensValid (sh : Shared) : Prop where
  registry : RegistryValid sh.cancellations
  queued : Placed sh sh.queue.tasks

/-- The tasks in hand and those in the queue belong to different requests. -/
def HandValid (thread : Thread) (sh : Shared) : Prop := Placed sh (thread.hand ++ sh.queue.tasks)

def HandsApart (thread other : Thread) : Prop :=
  ∀ task ∈ thread.hand, ∀ theirs ∈ other.hand, task.control ≠ theirs.control

theorem searchService_tokens : searchService.Outline TokensValid HandValid HandsApart where
  start := by
    rintro sh rfl
    exact ⟨.default, List.nodup_nil, nofun, nofun⟩
  entry := by
    rintro sh actor thread rfl rfl
    cases actor <;> exact ⟨List.nodup_nil, nofun, nofun⟩
  entry_apart := by
    rintro a b thread other _ rfl _ task member
    cases a <;> cases member
  symm apart task member theirs there same := apart theirs there task member same.symm
  move_own := by
    rintro _ thread sh thread' sh' valid own move
    have change := Move.tokenMove move
    unfold HandValid Thread.hand at own ⊢
    generalize thread.dispatching = dispatching, thread.unfinished = unfinished at own change
    generalize thread'.dispatching = dispatching', thread'.unfinished = unfinished' at change ⊢
    cases change with
    | stays same =>
      rw [same.tasks]
      have own := own.congr same.registry same.next
      exact ⟨⟨same.registry ▸ valid.registry, same.tasks ▸ own.right⟩, own⟩
    | registers token registered tasks next =>
      have queued := valid.queued.register registered next
      refine ⟨⟨valid.registry.register registered, tasks ▸ queued⟩, ?_⟩
      rw [tasks]
      refine queued.cons (next ▸ Nat.lt_succ_self _) (owned_of_register registered)
        fun member => ?_
      obtain ⟨other, there, same⟩ := List.mem_map.mp member
      exact absurd (valid.queued.known other there) (by rw [same]; exact lt_irrefl _)
    | fails task => exact ⟨valid, valid.queued⟩
    | admits task tasks registry next =>
      have placed : Placed sh' sh'.queue.tasks := by
        rw [tasks]
        exact (own.congr registry next).subperm (List.perm_append_singleton _ _).subperm
      exact ⟨⟨registry ▸ valid.registry, placed⟩, placed⟩
    | takes taken tasks _ registry next =>
      have placed : Placed sh' (unfinished' ++ sh'.queue.tasks) :=
        (valid.queued.congr registry next).subperm tasks.subperm
      exact ⟨⟨registry ▸ valid.registry, placed.right⟩, placed⟩
    | finishes task rest status =>
      have placed : Placed (sh.finishToken task status) (unfinished' ++ sh.queue.tasks) :=
        own.finish status
      refine ⟨⟨?_, placed.right⟩, placed⟩
      exact (own.subperm (List.singleton_sublist.mpr List.mem_cons_self).subperm).registry
        valid.registry status
  move_other := by
    rintro _ thread sh thread' sh' other valid own theirs apart move
    have change := Move.tokenMove move
    unfold HandValid at own theirs ⊢
    unfold HandsApart at apart ⊢
    generalize other.hand = hand at theirs apart ⊢
    unfold Thread.hand at own apart ⊢
    generalize thread.dispatching = dispatching, thread.unfinished = unfinished at own apart change
    generalize thread'.dispatching = dispatching', thread'.unfinished = unfinished' at change ⊢
    -- a task in hand is neither in the other hand nor in the queue
    have given : ∀ {task mine}, Placed sh (task :: mine ++ sh.queue.tasks) →
        (∀ theirs ∈ hand, task.control ≠ theirs.control) →
        Placed sh (task :: (hand ++ sh.queue.tasks)) := by
      intro task mine own apart
      refine theirs.cons (own.known task List.mem_cons_self) (own.owned task List.mem_cons_self)
        fun member => ?_
      obtain ⟨other, there, same⟩ := List.mem_map.mp member
      obtain theirHand | queued := List.mem_append.mp there
      · exact apart other theirHand same.symm
      · refine (List.nodup_cons.mp own.distinct).1 (List.mem_map.mpr ⟨other, ?_, same⟩)
        exact List.mem_append_right _ queued
    cases change with
    | stays same =>
      rw [same.tasks]
      exact ⟨theirs.congr same.registry same.next, apart⟩
    | registers token registered tasks next =>
      rw [tasks]
      refine ⟨theirs.register registered next, ?_⟩
      rintro task member other there same
      obtain rfl := List.mem_singleton.mp member
      have known := theirs.known other (List.mem_append_left _ there)
      rw [← same] at known
      exact lt_irrefl _ known
    | fails task => exact ⟨theirs, nofun⟩
    | admits task tasks registry next =>
      refine ⟨?_, nofun⟩
      rw [tasks]
      have placed := (given own (apart task List.mem_cons_self)).congr registry next
      refine placed.subperm (List.Perm.subperm ?_)
      rw [← List.append_assoc]
      exact List.perm_append_singleton _ _
    | takes taken tasks _ registry next =>
      have whole : Placed sh' (hand ++ (unfinished' ++ sh'.queue.tasks)) :=
        (theirs.congr registry next).subperm (tasks.append_left _).subperm
      refine ⟨whole.subperm ((List.sublist_append_right _ _).append_left _).subperm, ?_⟩
      intro task member other there same
      have distinct := whole.distinct
      rw [List.map_append] at distinct
      refine (List.nodup_append.mp distinct).2.2 _ (List.mem_map_of_mem there) task.control ?_
        same.symm
      exact List.mem_map_of_mem (List.mem_append_left _ member)
    | finishes task rest status =>
      refine ⟨?_, fun other member => apart other (List.mem_cons_of_mem _ member)⟩
      exact (given own (apart task List.mem_cons_self)).finish status

/-! ## Tokens of requests that are under way -/

variable {s t : Service} {actor : Actor} {control : RequestRef}

/-- The request is queued or in the hands of a thread. -/
def UnderWay (s : Service) (task : SearchTask) : Prop :=
  task ∈ s.shared.queue.tasks ∨ ∃ actor, task ∈ (s.threads actor).hand

/-- Every active token belongs to a request that is under way. -/
def Tracked (s : Service) : Prop :=
  ∀ token control, s.shared.cancellations.active token = some control →
    UnderWay s ⟨control, some token⟩

/-- A dispatch fails after the token of its request was registered: the reply cannot be
cloned or the deadline scheduler is gone, or the queue is closed. -/
def FailsDispatch (s : Service) (actor : Actor) (t : Service) : Prop :=
  ∃ task token, task.cancelToken = some token ∧
    ((∃ expiresAt, s.threads actor = .client (.scheduling task expiresAt) ∧
        t.threads actor = .client .idle) ∨
      s.threads actor = .client (.pushing task) ∧ s.shared.queue.closed = true)

section Moves

variable {dispatching dispatching' : Option SearchTask} {unfinished unfinished' : List SearchTask}
  (move : TokenMove dispatching unfinished sh dispatching' unfinished' sh')

include move

/-- A queued request stays in the queue or is taken. -/
theorem TokenMove.queued (member : task ∈ sh.queue.tasks) :
    task ∈ sh'.queue.tasks ∨ task ∈ unfinished' := by
  cases move with
  | stays same => exact .inl (same.tasks ▸ member)
  | registers _ _ tasks => exact .inl (tasks ▸ member)
  | fails | finishes => exact .inl member
  | admits _ tasks =>
    rw [tasks]
    exact .inl (List.mem_append_left _ member)
  | takes _ tasks => exact (List.mem_append.mp (tasks.mem_iff.mpr member)).symm

/-- A request that was taken out of the queue stays in hand until it ends. -/
theorem TokenMove.taken (member : task ∈ unfinished) :
    task ∈ unfinished' ∨ ∃ status, sh' = sh.finishToken task status := by
  cases move with
  | stays => exact .inl member
  | registers | takes | fails | admits => cases member
  | finishes other _ status =>
    obtain rfl | later := List.mem_cons.mp member
    · exact .inr ⟨status, rfl⟩
    · exact .inl later

/-- A request that has a place had one before, or has just registered its token. -/
theorem TokenMove.placed (member : task ∈ sh'.queue.tasks ∨ task ∈ dispatching'.toList ++ unfinished') :
    (task ∈ sh.queue.tasks ∨ task ∈ dispatching.toList ++ unfinished) ∨
      ∀ token, task.cancelToken = some token → sh.cancellations.active token = none := by
  cases move with
  | stays same => exact .inl (member.imp_left (same.tasks ▸ ·))
  | registers token registered tasks =>
    obtain queued | held := member
    · exact .inl (.inl (tasks ▸ queued))
    · obtain rfl := List.mem_singleton.mp held
      refine .inr fun named own => ?_
      obtain ⟨rfl, _⟩ | ⟨_, rfl, free, _⟩ := registerRequest_some registered
      · cases own
      · obtain rfl := Option.some.inj own
        exact free
  | fails => exact .inl (member.imp_right nofun)
  | admits other tasks =>
    obtain queued | ⟨⟨⟩⟩ := member
    rw [tasks] at queued
    exact .inl (List.mem_append.mp queued)
  | takes _ tasks => exact .inl (.inl (tasks.mem_iff.mp (List.mem_append.mpr member.symm)))
  | finishes other =>
    obtain queued | held := member
    · exact .inl (.inl queued)
    · exact .inl (.inr (List.mem_cons_of_mem _ held))

/-- A token stays active until the end of a request in hand. -/
theorem TokenMove.active (active : sh.cancellations.active token = some control) :
    sh'.cancellations.active token = some control ∨
      ∃ task ∈ unfinished, task.cancelToken = some token := by
  cases move with
  | stays same => exact .inl (same.registry ▸ active)
  | registers _ registered => exact .inl (active_of_register registered active)
  | fails => exact .inl active
  | admits _ _ registry | takes _ _ _ registry => exact .inl (registry ▸ active)
  | finishes task rest status =>
    by_cases own : task.cancelToken = some token
    · exact .inr ⟨task, List.mem_cons_self, own⟩
    · rw [active_finishToken, if_neg own]
      exact .inl active

/-- A token that is active was so before, or its request has just been registered. -/
theorem TokenMove.activated (active : sh'.cancellations.active token = some control) :
    sh.cancellations.active token = some control ∨
      ⟨control, some token⟩ ∈ dispatching'.toList ++ unfinished' := by
  cases move with
  | stays same => exact .inl (same.registry ▸ active)
  | registers given registered =>
    obtain ⟨rfl, same⟩ | ⟨named, rfl, _, _, after⟩ := registerRequest_some registered
    · exact .inl (same ▸ active)
    · rw [after] at active
      by_cases same : token = named
      · subst same
        obtain rfl : sh.nextRequest = control := by simpa using active
        exact .inr (List.mem_singleton_self _)
      · exact .inl (by simpa [Function.update_of_ne same] using active)
  | fails => exact .inl active
  | admits _ _ registry | takes _ _ _ registry => exact .inl (registry ▸ active)
  | finishes task rest status =>
    rw [active_finishToken] at active
    split at active
    · cases active
    · exact .inl active

/-- A token that ends is put last, and the oldest ones are forgotten. -/
theorem TokenMove.order (valid : RegistryValid sh.cancellations) :
    ∃ ended : Option String, sh'.cancellations.terminalOrder =
      (sh.cancellations.terminalOrder ++ ended.toList).drop
        ((sh.cancellations.terminalOrder ++ ended.toList).length - cancelHistoryLimit) := by
  suffices same : sh'.cancellations.terminalOrder = sh.cancellations.terminalOrder ∨
      ∃ finished status, sh'.cancellations = sh.cancellations.complete (some finished) status by
    obtain same | ⟨finished, status, ended⟩ := same
    · refine ⟨none, ?_⟩
      rw [same, Option.toList_none, List.append_nil, Nat.sub_eq_zero_of_le valid.bounded,
        List.drop_zero]
    · exact ⟨some finished, ended ▸ terminalOrder_complete ..⟩
  cases move with
  | stays same => exact .inl (same.registry ▸ rfl)
  | registers _ registered =>
    obtain ⟨_, same⟩ | ⟨_, _, _, _, after⟩ := registerRequest_some registered
    · exact .inl (same ▸ rfl)
    · exact .inl (after ▸ rfl)
  | fails => exact .inl rfl
  | admits _ _ registry | takes _ _ _ registry => exact .inl (registry ▸ rfl)
  | finishes task rest status =>
    unfold Shared.finishToken
    cases task.cancelToken with
    | none => exact .inl rfl
    | some finished => exact .inr ⟨finished, status, rfl⟩

end Moves

theorem tokens_outlined (reachable : searchService.machine.Reachable s) :
    Program.Outlined TokensValid HandValid HandsApart s :=
  searchService_tokens.inductive_.holds reachable

/-- A request that is being dispatched gets into the queue, unless the dispatch fails. -/
theorem dispatching_after (step : searchService.machine.step s actor t)
    (before : (s.threads actor).dispatching = some task) (own : task.cancelToken = some token)
    (works : ¬ FailsDispatch s actor t) :
    (t.threads actor).dispatching = some task ∨ task ∈ t.shared.queue.tasks := by
  have move : Move (s.threads actor) s.shared (t.threads actor) t.shared := step.1
  cases at_ : s.threads actor with
  | client point =>
    rw [at_] at before move
    cases point with
    | scheduling other expiresAt =>
      obtain rfl := Option.some.inj before
      generalize then_ : t.threads actor = thread', t.shared = sh' at move ⊢
      cases move with
      | client move =>
        cases move with
        | unscheduled => exact absurd ⟨_, token, own, .inl ⟨expiresAt, at_, then_⟩⟩ works
        | schedule => exact .inl rfl
    | pushing other =>
      obtain rfl := Option.some.inj before
      generalize t.threads actor = thread', t.shared = sh' at move ⊢
      cases move with
      | client move =>
        cases move with
        | push pushed =>
          obtain ⟨-, rfl⟩ := SearchQueueState.push_some pushed
          exact .inr (List.mem_append_right _ (List.mem_singleton_self _))
        | pushRefused refused =>
          refine absurd ⟨_, token, own, .inr ⟨at_, ?_⟩⟩ works
          simpa [SearchQueueState.push] using refused
    | _ => cases before
  | _ =>
    rw [at_] at before
    cases before

/-- A dispatch that fails forgets its request and changes nothing else. -/
theorem FailsDispatch.forgets (fails : FailsDispatch s actor t)
    (step : searchService.machine.step s actor t) :
    ∃ task token, task.cancelToken = some token ∧ (s.threads actor).dispatching = some task ∧
      (t.threads actor).hand = [] ∧ t.shared = s.shared := by
  have move : Move (s.threads actor) s.shared (t.threads actor) t.shared := step.1
  obtain ⟨task, token, own, ⟨expiresAt, at_, then_⟩ | ⟨at_, closed⟩⟩ := fails
  · refine ⟨task, token, own, by rw [at_]; rfl, by rw [then_]; rfl, ?_⟩
    rw [at_, then_] at move
    generalize t.shared = sh' at move ⊢
    cases move with
    | client move => cases move; rfl
  · refine ⟨task, token, own, by rw [at_]; rfl, ?_⟩
    rw [at_] at move
    generalize t.threads actor = thread', t.shared = sh' at move ⊢
    cases move with
    | client move =>
      cases move with
      | push pushed =>
        rw [(SearchQueueState.push_some pushed).1] at closed
        cases closed
      | pushRefused => exact ⟨rfl, rfl⟩

/-- A request stays under way until it ends, unless its dispatch fails. -/
theorem UnderWay.after (underWay : UnderWay s task) (step : searchService.machine.step s actor t)
    (own : task.cancelToken = some token) (works : ¬ FailsDispatch s actor t) :
    UnderWay t task ∨ ∃ status, t.shared = s.shared.finishToken task status := by
  have move := Move.tokenMove step.1
  have unfinished : task ∈ (t.threads actor).unfinished → UnderWay t task :=
    fun member => .inr ⟨actor, List.mem_append_right _ member⟩
  obtain queued | held := underWay
  · exact .inl ((move.queued queued).elim .inl unfinished)
  · obtain kept | mine := Program.exists_after (fun thread => task ∈ thread.hand) step held
    · exact .inl (.inr kept)
    obtain dispatching | mine := List.mem_append.mp mine
    · obtain still | queued := dispatching_after step (Option.mem_toList.mp dispatching) own works
      · exact .inl (.inr ⟨actor, List.mem_append_left _ (Option.mem_toList.mpr still)⟩)
      · exact .inl (.inl queued)
    · exact (move.taken mine).imp_left unfinished

/-- A step keeps the tokens tracked unless it is a dispatch that fails. -/
theorem Tracked.step (tracked : Tracked s) (step : searchService.machine.step s actor t)
    (works : ¬ FailsDispatch s actor t) : Tracked t := by
  intro token control active
  have move := Move.tokenMove step.1
  obtain old | fresh := move.activated active
  · obtain underWay | ⟨status, finished⟩ := (tracked token control old).after step rfl works
    · exact underWay
    · rw [finished, active_finishToken, if_pos rfl] at active
      cases active
  · exact .inr ⟨actor, fresh⟩

/-! ## Tokens that are left behind -/

/-- An active token whose request is nowhere. -/
structure Orphan (s : Service) (token : String) (control : RequestRef) : Prop where
  active : s.shared.cancellations.active token = some control
  nowhere : ∀ task, task.cancelToken = some token → ¬ UnderWay s task

/-- Nobody ends the token. -/
theorem Orphan.step (orphan : Orphan s token control)
    (step : searchService.machine.step s actor t) : Orphan t token control := by
  have move := Move.tokenMove step.1
  refine ⟨?_, fun task own underWay => ?_⟩
  · refine (move.active orphan.active).resolve_right ?_
    rintro ⟨task, member, own⟩
    exact orphan.nowhere task own (.inr ⟨actor, List.mem_append_right _ member⟩)
  · have earlier : task ∈ s.shared.queue.tasks ∨ task ∈ (s.threads actor).hand →
        UnderWay s task := Or.imp_right fun member => ⟨actor, member⟩
    have before : UnderWay s task ∨
        ∀ named, task.cancelToken = some named → s.shared.cancellations.active named = none := by
      obtain queued | ⟨holder, member⟩ := underWay
      · exact (move.placed (.inl queued)).imp_left earlier
      · by_cases same : holder = actor
        · subst same
          exact (move.placed (.inr member)).imp_left earlier
        · rw [step.2 holder same] at member
          exact .inl (.inr ⟨holder, member⟩)
    obtain underWay | free := before
    · exact orphan.nowhere task own underWay
    · have active := orphan.active
      rw [free token own] at active
      cases active

theorem Orphan.run {events : List Actor} (orphan : Orphan s token control)
    (run : searchService.machine.Run s events t) : Orphan t token control :=
  run.keeps (fun held step => Orphan.step held step) orphan

/-- A dispatch that fails leaves its token behind. -/
theorem orphan_of_failsDispatch (reachable : searchService.machine.Reachable s)
    (step : searchService.machine.step s actor t) (fails : FailsDispatch s actor t) :
    ∃ token control, Orphan t token control := by
  obtain ⟨task, token, own, before, nothing, same⟩ := fails.forgets step
  have outlined := tokens_outlined reachable
  have mine : task ∈ (s.threads actor).hand :=
    List.mem_append_left _ (Option.mem_toList.mpr before)
  have owned : ∀ {other actor'}, other ∈ (s.threads actor').hand → Owned s.shared other :=
    fun member => (outlined.own _).owned _ (List.mem_append_left _ member)
  have active := owned mine token own
  refine ⟨token, task.control, by rw [same]; exact active, fun other named underWay => ?_⟩
  obtain queued | ⟨holder, member⟩ := underWay
  · rw [same] at queued
    have control := active.symm.trans (outlined.shared.queued.owned other queued token named)
    have distinct := (outlined.own actor).distinct
    rw [List.map_append] at distinct
    exact (List.nodup_append.mp distinct).2.2 _ (List.mem_map_of_mem mine) _
      (List.mem_map_of_mem queued) (Option.some.inj control)
  · by_cases here : holder = actor
    · subst here
      rw [nothing] at member
      cases member
    · rw [step.2 holder here] at member
      have control := active.symm.trans (owned member token named)
      exact outlined.apart actor holder (Ne.symm here) task mine other member
        (Option.some.inj control)

theorem not_tracked_of_orphan (orphan : Orphan s token control) : ¬ Tracked s :=
  fun tracked => orphan.nowhere _ rfl (tracked token control orphan.active)

/-- A token that is left behind is refused. -/
theorem Orphan.register (orphan : Orphan s token control) (other : RequestRef) :
    s.shared.cancellations.register token other = none := by
  rw [CancellationRegistryState.register, orphan.active]
  rfl

end ResumeIr.Daemon.SearchService
