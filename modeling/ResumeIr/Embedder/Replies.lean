import Mathlib.Data.List.Perm.Subperm
import ResumeIr.Embedder.Responses

/-!
# Replies of the supervisor

Every task that was accepted is in a queue, in the hands of the supervisor, or has been
answered, and only once (`Ledger`). Only the end of the supervisor thread drops tasks.
-/

namespace ResumeIr.Embedder

open Foundation Fallible

variable {F : Type}

/-! ## Tasks that have no reply yet -/

def SpawnPurpose.inHand : SpawnPurpose → Option EmbeddingTask
  | .serve task => some task
  | _ => none

/-- The task that the supervisor has taken and not answered. -/
def Phase.inHand : Phase F → Option EmbeddingTask
  | .launch purpose => purpose.inHand
  | .spawning _ purpose => purpose.inHand
  | .taken task => some task
  | .writing task => some task
  | .checking exchange => some exchange.task
  | .receiving exchange => some exchange.task
  | .failing task _ => some task
  | .replying task _ _ _ => some task
  | _ => none

namespace Supervised

def waiting (s : Supervised F) : List EmbeddingTask := s.interactive ++ s.background

def pending (s : Supervised F) : List EmbeddingTask := s.phase.inHand.toList ++ s.waiting

/-- What the callers write, and the replies. -/
def kept (s : Supervised F) := (s.replies, s.accepted, s.returned, s.shutdown)

end Supervised

/-- Neither the end of the thread nor the look at the background queue. -/
def Phase.plain : Phase F → Bool
  | .lookBackground | .stopping | .stopped => false
  | _ => true

/-- What a step of the supervisor does to the tasks. -/
inductive SuperviseEffect (s t : Supervised F) : Prop where
  | carries (pending : t.pending.Perm s.pending) (replies : t.replies = s.replies)
      (connected : t.disconnected = s.disconnected)
  | replies {task : EmbeddingTask} {origin : Option TaskId} {outcome : Outcome F} {restart : Bool}
      (phase : s.phase = .replying task origin outcome restart)
      (pending : s.pending = task :: t.pending)
      (replies : t.replies = ⟨task.id, origin, outcome⟩ :: s.replies)
      (connected : t.disconnected = false)
  | stops (shut : s.phase = .stopping) (pending : t.pending = []) (replies : t.replies = s.replies)
      (gone : t.disconnected = true)

/-- The supervisor does not touch what only the callers write. It looks at the background
queue only when it has found the interactive one empty, and ends only when it is told to. -/
structure Supervises (s t : Supervised F) : Prop where
  effect : SuperviseEffect s t
  accepted : t.accepted = s.accepted
  returned : t.returned = s.returned
  shutdown : t.shutdown = s.shutdown
  background : t.background = s.background ∨ s.phase = .lookBackground ∨ s.phase = .stopping
  looks : t.phase = .lookBackground → t.interactive = []
  halts : t.phase = .stopping ∨ t.phase = .stopped →
    s.shutdown = true ∨ s.phase = .stopping ∨ s.phase = .stopped

section Effects

variable {finite : F → Bool} {spec : ResidentEmbeddingSpec} {s t : Supervised F} {phase : Phase F}

theorem disconnected_of_phase (here : s.phase = phase) (running : phase ≠ .stopped) :
    s.disconnected = false := by
  unfold Supervised.disconnected
  split
  next stopped => exact absurd (here.symm.trans stopped) running
  · rfl

theorem Supervises.carries (before : s.phase = phase) (live : phase ≠ .stopped)
    (pending : t.pending.Perm s.pending) (kept : t.kept = s.kept)
    (background : t.background = s.background ∨ s.phase = .lookBackground ∨ s.phase = .stopping)
    (plain : t.phase.plain = true) : Supervises s t := by
  simp only [Supervised.kept, Prod.mk.injEq] at kept
  obtain ⟨replies, accepted, returned, shutdown⟩ := kept
  have connected : t.disconnected = false := by
    refine disconnected_of_phase rfl fun stopped => ?_
    rw [stopped] at plain
    cases plain
  refine ⟨.carries pending replies (connected.trans (disconnected_of_phase before live).symm),
    accepted, returned, shutdown, background, fun looks => ?_, ?_⟩
  · rw [looks] at plain
    cases plain
  · rintro (halts | halts)
    all_goals
      rw [halts] at plain
      cases plain

/-- The task in hand stays in hand. -/
theorem Supervises.hold (before : s.phase = phase) (live : phase ≠ .stopped)
    (hand : t.phase.inHand = phase.inHand)
    (queues : t.interactive = s.interactive ∧ t.background = s.background) (kept : t.kept = s.kept)
    (plain : t.phase.plain = true) : Supervises s t := by
  refine .carries before live (.of_eq ?_) kept (.inl queues.2) plain
  rw [Supervised.pending, Supervised.pending, hand, Supervised.waiting, queues.1, queues.2, before]
  rfl

/-- A task is taken from a queue. -/
theorem Supervises.takes {task : EmbeddingTask} (before : s.phase = phase)
    (live : phase ≠ .stopped) (free : phase.inHand = none) (taken : t.phase = .taken task)
    (waiting : (task :: t.waiting).Perm s.waiting) (kept : t.kept = s.kept)
    (background : t.background = s.background ∨ s.phase = .lookBackground ∨ s.phase = .stopping) :
    Supervises s t := by
  refine .carries before live ?_ kept background (by rw [taken]; rfl)
  rw [Supervised.pending, Supervised.pending, taken, before, free]
  exact waiting

theorem spawnReturns_supervises {purpose : SpawnPurpose} (now : Nat) (child : Option (Child F))
    (before : s.phase = phase) (live : phase ≠ .stopped) (hand : purpose.inHand = phase.inHand) :
    Supervises s ({ s with now }.spawnReturns purpose child) := by
  cases purpose <;> cases child <;> exact .hold before live hand ⟨rfl, rfl⟩ rfl rfl

theorem awaitReady_supervises {deadline : Nat} {purpose : SpawnPurpose}
    (phase : s.phase = .spawning deadline purpose) :
    Supervises s (s.awaitReady spec deadline purpose) := by
  unfold Supervised.awaitReady
  repeat' split
  case h_3.isFalse.isFalse =>
    exact .hold phase nofun (by rw [phase]) ⟨rfl, rfl⟩ rfl (by rw [phase]; rfl)
  all_goals exact spawnReturns_supervises _ _ phase nofun rfl

theorem takeTask_supervises {task : EmbeddingTask} (phase : s.phase = .taken task) :
    Supervises s (s.takeTask task) := by
  unfold Supervised.takeTask
  repeat' split
  all_goals exact .hold phase nofun rfl ⟨rfl, rfl⟩ rfl rfl

theorem writeRequest_supervises {task : EmbeddingTask} (phase : s.phase = .writing task)
    (wrote : Bool) : Supervises s (s.writeRequest spec task wrote) := by
  unfold Supervised.writeRequest
  dsimp only
  repeat' split
  all_goals exact .hold phase nofun rfl ⟨rfl, rfl⟩ rfl rfl

theorem checkTask_supervises {exchange : Exchange} (phase : s.phase = .checking exchange) :
    Supervises s (s.checkTask exchange) := by
  unfold Supervised.checkTask
  repeat' split
  all_goals exact .hold phase nofun rfl ⟨rfl, rfl⟩ rfl rfl

theorem receiveResponse_supervises {exchange : Exchange} (phase : s.phase = .receiving exchange) :
    Supervises s (s.receiveResponse finite spec exchange) := by
  unfold Supervised.receiveResponse
  dsimp only
  repeat' split
  all_goals exact .hold phase nofun rfl ⟨rfl, rfl⟩ rfl rfl

theorem supervises (s : Supervised F) (done : Bool) :
    Supervises s (s.supervise finite spec done) := by
  unfold Supervised.supervise
  split
  next purpose phase =>
    split
    · exact .hold phase nofun rfl ⟨rfl, rfl⟩ rfl rfl
    · exact spawnReturns_supervises _ none phase nofun rfl
  next deadline purpose phase => exact awaitReady_supervises phase
  next phase =>
    split
    next shut =>
      exact ⟨.carries (by rw [Supervised.pending, Supervised.pending, phase]; rfl) rfl
        (disconnected_of_phase phase nofun).symm, rfl, rfl, rfl, .inl rfl, nofun, fun _ => .inl shut⟩
    · exact .hold phase nofun rfl ⟨rfl, rfl⟩ rfl rfl
  next phase =>
    split
    next task rest queue =>
      refine .takes phase nofun rfl rfl ?_ rfl (.inl rfl)
      rw [Supervised.waiting, Supervised.waiting, queue]
      rfl
    next empty =>
      exact ⟨.carries (by rw [Supervised.pending, Supervised.pending, phase]; rfl) rfl
        (disconnected_of_phase phase nofun).symm, rfl, rfl, rfl, .inl rfl, fun _ => empty,
        by rintro (⟨⟨⟩⟩ | ⟨⟨⟩⟩)⟩
  next phase =>
    split
    next task rest queue =>
      refine .takes phase nofun rfl rfl ?_ rfl (.inr (.inl phase))
      rw [Supervised.waiting, Supervised.waiting, queue]
      exact List.perm_middle.symm
    · exact .hold phase nofun rfl ⟨rfl, rfl⟩ rfl rfl
  next phase =>
    split
    next task rest queue =>
      refine .takes phase nofun rfl rfl ?_ rfl (.inl rfl)
      rw [Supervised.waiting, Supervised.waiting, queue]
      rfl
    · exact .hold phase nofun rfl ⟨rfl, rfl⟩ rfl rfl
  next task phase => exact takeTask_supervises phase
  next task phase => exact writeRequest_supervises phase done
  next exchange phase => exact checkTask_supervises phase
  next exchange phase => exact receiveResponse_supervises phase
  next task error phase => exact .hold phase nofun rfl ⟨rfl, rfl⟩ rfl rfl
  next task origin outcome restart phase =>
    have pending : s.pending = task :: s.waiting := by rw [Supervised.pending, phase]; rfl
    cases restart with
    | true | false =>
      exact ⟨.replies phase pending rfl rfl, rfl, rfl, rfl, .inl rfl, nofun,
        by rintro (⟨⟨⟩⟩ | ⟨⟨⟩⟩)⟩
  next phase =>
    split <;> exact .hold phase nofun rfl ⟨rfl, rfl⟩ rfl rfl
  next phase =>
    exact ⟨.stops phase rfl rfl rfl, rfl, rfl, rfl, .inr (.inr phase), nofun,
      fun _ => .inr (.inl phase)⟩
  next phase =>
    refine ⟨.carries (.refl _) rfl rfl, rfl, rfl, rfl, .inl rfl, fun looks => ?_,
      fun _ => .inr (.inr phase)⟩
    cases phase.symm.trans looks

end Effects

/-! ## The ledger -/

/-- Where the accepted tasks are. -/
structure Ledger (model : List String → ResidentBatchOutput F → Prop)
    (spec : ResidentEmbeddingSpec) (s : Supervised F) : Prop where
  distinct : (s.accepted.map (·.id)).Nodup
  known : ∀ task ∈ s.pending, task ∈ s.accepted
  tally : (s.pending.map (·.id) ++ s.replies.map (·.task)).Subperm (s.accepted.map (·.id))
  complete : s.disconnected = false →
    (s.pending.map (·.id) ++ s.replies.map (·.task)).Perm (s.accepted.map (·.id))
  answered : ∀ reply ∈ s.replies, ∃ task ∈ s.accepted, task.id = reply.task ∧
    Answered model spec task reply.origin reply.outcome
  returned : ∀ entry ∈ s.returned,
    (∃ reply ∈ s.replies, reply.task = entry.1 ∧ reply.outcome = entry.2) ∨
      entry.2 = .error .workerUnavailable
  halted : s.phase = .stopping ∨ s.phase = .stopped → s.shutdown = true

section Steps

variable {finite : F → Bool} {spec : ResidentEmbeddingSpec}
  {model : List String → ResidentBatchOutput F → Prop} {s t : Supervised F}

theorem Ledger.supervise (ledger : Ledger model spec s) (sane : Sane model spec s) (done : Bool) :
    Ledger model spec (s.supervise finite spec done) := by
  have frame : Supervises s (s.supervise finite spec done) := supervises s done
  generalize s.supervise finite spec done = t at frame ⊢
  have halted : t.phase = .stopping ∨ t.phase = .stopped → t.shutdown = true := by
    intro halts
    rw [frame.shutdown]
    exact (frame.halts halts).elim id ledger.halted
  have distinct : (t.accepted.map (·.id)).Nodup := frame.accepted ▸ ledger.distinct
  cases frame.effect with
  | carries pending replies connected =>
    have same : (t.pending.map (·.id) ++ t.replies.map (·.task)).Perm
        (s.pending.map (·.id) ++ s.replies.map (·.task)) := by
      rw [replies]
      exact (pending.map _).append_right _
    refine ⟨distinct, ?_, ?_, ?_, ?_, ?_, halted⟩
    · intro task member
      rw [frame.accepted]
      exact ledger.known task (pending.mem_iff.mp member)
    · rw [frame.accepted]
      exact same.subperm.trans ledger.tally
    · intro running
      rw [frame.accepted]
      exact same.trans (ledger.complete (connected ▸ running))
    · rw [frame.accepted, replies]
      exact ledger.answered
    · rw [frame.returned, replies]
      exact ledger.returned
  | @replies task origin outcome restart phase pending replies connected =>
    have same : (t.pending.map (·.id) ++ t.replies.map (·.task)).Perm
        (s.pending.map (·.id) ++ s.replies.map (·.task)) := by
      rw [replies, pending]
      exact List.perm_middle
    have known := ledger.known task (by rw [pending]; exact List.mem_cons_self)
    have running := disconnected_of_phase phase nofun
    refine ⟨distinct, ?_, ?_, ?_, ?_, ?_, halted⟩
    · intro other member
      rw [frame.accepted]
      exact ledger.known other (by rw [pending]; exact List.mem_cons_of_mem _ member)
    · rw [frame.accepted]
      exact same.subperm.trans ledger.tally
    · intro _
      rw [frame.accepted]
      exact same.trans (ledger.complete running)
    · intro reply member
      rw [frame.accepted]
      rw [replies] at member
      obtain rfl | member := List.mem_cons.mp member
      · have right := sane.right
        rw [phase] at right
        exact ⟨task, known, rfl, right⟩
      · exact ledger.answered reply member
    · intro entry member
      rw [frame.returned] at member
      obtain ⟨reply, there, same⟩ | error := ledger.returned entry member
      · rw [replies]
        exact .inl ⟨reply, List.mem_cons_of_mem _ there, same⟩
      · exact .inr error
  | stops shut pending replies gone =>
    refine ⟨distinct, ?_, ?_, ?_, ?_, ?_, halted⟩
    · intro task member
      rw [pending] at member
      cases member
    · rw [frame.accepted, pending, replies]
      exact (List.sublist_append_right _ _).subperm.trans ledger.tally
    · intro running
      rw [gone] at running
      cases running
    · rw [frame.accepted, replies]
      exact ledger.answered
    · rw [frame.returned, replies]
      exact ledger.returned

/-- A task that is accepted is put at the end of its queue. -/
theorem enqueueBatch_ok {submission : Supervised.Submission}
    (done : s.enqueueBatch submission = .ok t) :
    s.disconnected = false ∧
      (t = { s with
          interactive := s.interactive ++ [submission.task s.now]
          accepted := submission.task s.now :: s.accepted } ∨
        t = { s with
          background := s.background ++ [submission.task s.now]
          accepted := submission.task s.now :: s.accepted }) := by
  obtain ⟨_, _, done⟩ := bind_ok_iff.mp done
  obtain ⟨_, _, done⟩ := bind_ok_iff.mp done
  unfold Supervised.pushTask at done
  split at done
  · cases done
  next connected =>
    refine ⟨by simpa using connected, ?_⟩
    split at done
    · split at done
      · exact .inl (Except.ok.inj done).symm
      · cases done
    · split at done
      · exact .inr (Except.ok.inj done).symm
      · cases done

theorem Ledger.accept {task : EmbeddingTask} (ledger : Ledger model spec s)
    (fresh : ∀ other ∈ s.accepted, other.id ≠ task.id) (accepted : t.accepted = task :: s.accepted)
    (pending : t.pending.Perm (task :: s.pending)) (connected : s.disconnected = false)
    (same : t.phase = s.phase ∧ t.replies = s.replies ∧ t.returned = s.returned ∧
      t.shutdown = s.shutdown) :
    Ledger model spec t := by
  obtain ⟨phase, replies, returned, shutdown⟩ := same
  have more : (t.pending.map (·.id) ++ t.replies.map (·.task)).Perm
      (task.id :: (s.pending.map (·.id) ++ s.replies.map (·.task))) := by
    rw [replies]
    exact (pending.map _).append_right _
  have tally := (ledger.complete connected).cons task.id
  refine ⟨?_, ?_, ?_, ?_, ?_, ?_, ?_⟩
  · rw [accepted, List.map_cons, List.nodup_cons]
    refine ⟨fun member => ?_, ledger.distinct⟩
    obtain ⟨other, there, same⟩ := List.mem_map.mp member
    exact fresh other there same
  · intro other member
    rw [accepted]
    obtain rfl | member := List.mem_cons.mp (pending.mem_iff.mp member)
    · exact List.mem_cons_self
    · exact List.mem_cons_of_mem _ (ledger.known other member)
  · rw [accepted]
    exact (more.trans tally).subperm
  · intro _
    rw [accepted]
    exact more.trans tally
  · rw [accepted, replies]
    intro reply member
    obtain ⟨other, there, right⟩ := ledger.answered reply member
    exact ⟨other, List.mem_cons_of_mem _ there, right⟩
  · rw [returned, replies]
    exact ledger.returned
  · rw [phase, shutdown]
    exact ledger.halted

theorem Ledger.submit {submission : Supervised.Submission} (ledger : Ledger model spec s)
    (fresh : ∀ other ∈ s.accepted, other.id ≠ submission.id)
    (done : s.enqueueBatch submission = .ok t) : Ledger model spec t := by
  obtain ⟨connected, rfl | rfl⟩ := enqueueBatch_ok done
  · refine ledger.accept fresh rfl ?_ connected ⟨rfl, rfl, rfl, rfl⟩
    simp only [Supervised.pending, Supervised.waiting, List.append_assoc]
    exact (List.perm_middle.append_left _).trans List.perm_middle
  · refine ledger.accept fresh rfl ?_ connected ⟨rfl, rfl, rfl, rfl⟩
    exact ((List.perm_append_singleton _ _).append_left _).append_left _ |>.trans
      ((List.perm_middle.append_left _).trans List.perm_middle)

/-- A caller is given a reply that was sent to it. -/
theorem Ledger.receive (ledger : Ledger model spec s) (id : TaskId) :
    Ledger model spec (s.receive id) := by
  obtain ⟨distinct, known, tally, complete, answered, returned, halted⟩ := ledger
  unfold Supervised.receive
  split
  · exact ⟨distinct, known, tally, complete, answered, returned, halted⟩
  split
  next reply found =>
    refine ⟨distinct, known, tally, complete, answered, ?_, halted⟩
    intro entry member
    obtain rfl | member := List.mem_cons.mp member
    · exact .inl ⟨reply, List.mem_of_find?_eq_some found, by simpa using List.find?_some found, rfl⟩
    · exact returned entry member
  · split
    · refine ⟨distinct, known, tally, complete, answered, ?_, halted⟩
      intro entry member
      obtain rfl | member := List.mem_cons.mp member
      · exact .inr rfl
      · exact returned entry member
    · exact ⟨distinct, known, tally, complete, answered, returned, halted⟩

/-- Steps of others leave the tasks alone. -/
theorem Ledger.congr (ledger : Ledger model spec s) (phase : t.phase = s.phase)
    (interactive : t.interactive = s.interactive) (background : t.background = s.background)
    (accepted : t.accepted = s.accepted) (replies : t.replies = s.replies)
    (returned : t.returned = s.returned) (shutdown : s.shutdown = true → t.shutdown = true) :
    Ledger model spec t := by
  have pending : t.pending = s.pending := by
    simp only [Supervised.pending, Supervised.waiting, phase, interactive, background]
  have connected : t.disconnected = s.disconnected := by
    simp only [Supervised.disconnected, phase]
  obtain ⟨distinct, known, tally, complete, answered, given, halted⟩ := ledger
  rw [← accepted, ← pending] at known
  rw [← pending, ← replies, ← accepted] at tally complete
  rw [← replies, ← accepted] at answered
  rw [← returned, ← replies] at given
  rw [← phase] at halted
  exact ⟨accepted ▸ distinct, known, tally, connected ▸ complete, answered, given,
    fun halts => shutdown (halted halts)⟩

structure Sound (model : List String → ResidentBatchOutput F → Prop)
    (spec : ResidentEmbeddingSpec) (s : Supervised F) : Prop where
  sane : Sane model spec s
  ledger : Ledger model spec s

theorem Sound.initial (now : Nat) : Sound model spec (.initial now : Supervised F) where
  sane := ⟨nofun, trivial⟩
  ledger := ⟨List.nodup_nil, nofun, List.nil_subperm, fun _ => .nil, nofun, nofun, nofun⟩

theorem Sound.step {event : SupervisorEvent F} (sound : Sound model spec s)
    (step : (supervisorMachine finite spec model).step s event t) : Sound model spec t := by
  obtain ⟨⟨child, right⟩, ledger⟩ := sound
  obtain ⟨rfl, allowed⟩ := step
  cases event with
  | submit submission =>
    dsimp only [Supervised.after]
    split
    next u done =>
      refine ⟨?_, ledger.submit allowed done⟩
      obtain ⟨_, rfl | rfl⟩ := enqueueBatch_ok done <;> exact ⟨child, right⟩
    · exact ⟨⟨child, right⟩, ledger⟩
  | cancel id | tick duration =>
    exact ⟨⟨child, right⟩, ledger.congr rfl rfl rfl rfl rfl rfl fun shut => shut⟩
  | expire id =>
    dsimp only [Supervised.after]
    split
    · exact ⟨⟨child, right⟩, ledger.congr rfl rfl rfl rfl rfl rfl fun shut => shut⟩
    · exact ⟨⟨child, right⟩, ledger⟩
  | receive id =>
    refine ⟨?_, ledger.receive id⟩
    dsimp only [Supervised.after, Supervised.receive]
    repeat' split
    all_goals exact ⟨child, right⟩
  | shutdown => exact ⟨⟨child, right⟩, ledger.congr rfl rfl rfl rfl rfl rfl fun _ => rfl⟩
  | supervise done =>
    exact ⟨sane_supervise ⟨child, right⟩ done, ledger.supervise ⟨child, right⟩ done⟩
  | child event =>
    refine ⟨⟨fun d made => ?_, right⟩, ledger.congr rfl rfl rfl rfl rfl rfl fun shut => shut⟩
    obtain ⟨c, running, rfl⟩ := Option.map_eq_some_iff.mp made
    refine (child c running).after event ?_
    rintro output rfl
    exact allowed c running

theorem sound_inductive : (supervisorMachine finite spec model).Inductive (Sound model spec) where
  start := by
    rintro s ⟨now, rfl⟩
    exact .initial now
  step sound step := sound.step step

end Steps

end ResumeIr.Embedder
