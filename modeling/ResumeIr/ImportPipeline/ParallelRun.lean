import Mathlib.Algebra.Order.Group.Multiset
import Mathlib.Data.List.Infix
import Mathlib.Tactic.Abel
import ResumeIr.Foundation.Machine

/-!
# The parallel import run

An import run takes the discovered files in order. Files are processed one by one
until a first document is searchable. The rest are prepared by the run, parsed by
worker threads that share a bounded queue, and come back through a second bounded
queue in any order. A reorder buffer (`pending`) holds what has come back, and the
run commits the result that stands next.

What preparing a file answers, whether a document is searchable yet, and where a step
of the run fails are left open, so every statement holds whatever they are. With one
worker the run is sequential.

The commits are always the first files in their order. A run that ends normally has
committed all of them, so the number of workers and the order of the results do not
matter (`parallel_run_commits`). The run cannot get stuck before its end, and a weight
that each step lowers bounds its length.
-/

namespace ResumeIr.ImportPipeline

open Foundation

variable {File : Type}

/-- Where the run is. -/
inductive RunPoint (File : Type) where
  /-- Before the first searchable document. -/
  | prelude
  /-- `process_indexed_files_sequential`. -/
  | sequential
  /-- The head of the loop over the remaining files. -/
  | next
  /-- `drain_available_parse_results`, before or after a file is prepared. -/
  | drain (prepared : Bool)
  /-- `commit_ready_import_file_results`, at the same places. -/
  | commit (prepared : Bool)
  | prepare
  /-- `send_parse_work_with_backpressure`. -/
  | send (item : File × Nat)
  /-- The head of the loop that waits for the last results. -/
  | tail
  | tailCommit (committed : Bool)
  | tailWait
  | ended (normally : Bool)

/-- The run with its workers. Every file is paired with its index. -/
structure ParallelRun (File : Type) where
  point : RunPoint File
  remaining : List (File × Nat)
  workerCount : Nat := 0
  work : List (File × Nat) := []
  parsing : List (File × Nat) := []
  results : List (File × Nat) := []
  pending : List (File × Nat) := []
  nextCommitIndex : Nat := 0
  committed : List (File × Nat) := []

/-- `insert_import_file_result`: an index that is there already is an error. -/
def insertImportFileResult (pending : List (File × Nat)) (item : File × Nat) :
    Option (List (File × Nat)) :=
  if pending.any (·.2 = item.2) then none else some (pending ++ [item])

namespace ParallelRun

/-- The next result goes into the reorder buffer. -/
def receive (s : ParallelRun File) : Option (ParallelRun File) :=
  match s.results with
  | [] => none
  | item :: results =>
      (insertImportFileResult s.pending item).map fun pending => { s with results, pending }

/-- The result that stands next is committed. -/
def commitReady (s : ParallelRun File) : Option (ParallelRun File) :=
  (s.pending.find? (·.2 = s.nextCommitIndex)).map fun item =>
    { s with
      pending := s.pending.eraseP (·.2 = s.nextCommitIndex)
      nextCommitIndex := s.nextCommitIndex + 1
      committed := s.committed ++ [item] }

/-- A file is processed and committed at once. -/
def finish (s : ParallelRun File) : Option (ParallelRun File) :=
  match s.remaining with
  | [] => none
  | item :: remaining => some { s with remaining, committed := s.committed ++ [item] }

/-- The way the run goes once a document is searchable. -/
def enterLoop (s : ParallelRun File) (parseWorkers : Nat) : ParallelRun File :=
  match s.remaining with
  | [] => { s with point := .ended true }
  | first :: _ =>
      let workerCount := min parseWorkers s.remaining.length
      if workerCount ≤ 1 then { s with point := .sequential }
      else { s with point := .next, workerCount, nextCommitIndex := first.2 }

end ParallelRun

/-- The steps of the run and of its workers. -/
inductive RunMove (parseWorkers total : Nat) (s : ParallelRun File) : ParallelRun File → Prop where
  | finishFirst {t : ParallelRun File} (here : s.point = .prelude) (done : s.finish = some t) :
      RunMove parseWorkers total s t
  | searchable (here : s.point = .prelude) :
      RunMove parseWorkers total s (s.enterLoop parseWorkers)
  | finishNext {t : ParallelRun File} (here : s.point = .sequential) (done : s.finish = some t) :
      RunMove parseWorkers total s t
  | sequentialEnd (here : s.point = .sequential) (left : s.remaining = []) :
      RunMove parseWorkers total s { s with point := .ended true }
  | loop (here : s.point = .next) (left : s.remaining ≠ []) :
      RunMove parseWorkers total s { s with point := .drain false }
  | loopEnd (here : s.point = .next) (left : s.remaining = []) :
      RunMove parseWorkers total s { s with point := .tail }
  | drained {prepared : Bool} {t : ParallelRun File} (here : s.point = .drain prepared)
      (done : s.receive = some t) : RunMove parseWorkers total s t
  | drainEnd {prepared : Bool} (here : s.point = .drain prepared) (empty : s.results = []) :
      RunMove parseWorkers total s { s with point := .commit prepared }
  | committed {prepared : Bool} {t : ParallelRun File} (here : s.point = .commit prepared)
      (done : s.commitReady = some t) : RunMove parseWorkers total s t
  | commitEnd {prepared : Bool} (here : s.point = .commit prepared)
      (none_ : s.commitReady = none) :
      RunMove parseWorkers total s { s with point := if prepared then .next else .prepare }
  | preparedReady {item : File × Nat} {remaining pending : List (File × Nat)}
      (here : s.point = .prepare) (left : s.remaining = item :: remaining)
      (inserted : insertImportFileResult s.pending item = some pending) :
      RunMove parseWorkers total s { s with point := .drain true, remaining, pending }
  | preparedParse {item : File × Nat} {remaining : List (File × Nat)}
      (here : s.point = .prepare) (left : s.remaining = item :: remaining) :
      RunMove parseWorkers total s { s with point := .send item, remaining }
  | sent {item : File × Nat} (here : s.point = .send item)
      (room : s.work.length < s.workerCount) :
      RunMove parseWorkers total s { s with point := .drain true, work := s.work ++ [item] }
  | receivedWhileFull {item : File × Nat} {t : ParallelRun File} (here : s.point = .send item)
      (full : s.workerCount ≤ s.work.length) (done : s.receive = some t) :
      RunMove parseWorkers total s t
  | tailLoop (here : s.point = .tail) (left : s.nextCommitIndex < total) :
      RunMove parseWorkers total s { s with point := .tailCommit false }
  | tailEnd (here : s.point = .tail) (left : total ≤ s.nextCommitIndex) :
      RunMove parseWorkers total s { s with point := .ended true }
  | tailCommitted {already : Bool} {t : ParallelRun File} (here : s.point = .tailCommit already)
      (done : s.commitReady = some t) :
      RunMove parseWorkers total s { t with point := .tailCommit true }
  | tailCommitEnd {already : Bool} (here : s.point = .tailCommit already)
      (none_ : s.commitReady = none) :
      RunMove parseWorkers total s { s with point := if already then .tail else .tailWait }
  | tailReceived {t : ParallelRun File} (here : s.point = .tailWait) (done : s.receive = some t) :
      RunMove parseWorkers total s { t with point := .tail }
  | workerTakes {item : File × Nat} {work : List (File × Nat)}
      (free : s.parsing.length < s.workerCount) (there : s.work = item :: work) :
      RunMove parseWorkers total s { s with work, parsing := s.parsing ++ [item] }
  | workerSends {item : File × Nat} {before after : List (File × Nat)}
      (there : s.parsing = before ++ item :: after) (room : s.results.length < s.workerCount) :
      RunMove parseWorkers total s
        { s with parsing := before ++ after, results := s.results ++ [item] }

/-- A run over given files. It can also fail anywhere before its end. -/
def parallelRun (files : List File) (parseWorkers : Nat) : Machine (ParallelRun File) Unit where
  start s := s =
    { remaining := files.zipIdx
      point := if min parseWorkers files.length ≤ 1 then .sequential else .prelude }
  step s _ t := RunMove parseWorkers files.length s t ∨
    (∀ normally, s.point ≠ .ended normally) ∧ t = { s with point := .ended false }

/-! ## Where the files are -/

/-- The file that waits for room in the queue. -/
def RunPoint.held : RunPoint File → List (File × Nat)
  | .send item => [item]
  | _ => []

/-- How far a point is from the next one that handles a file. -/
def RunPoint.weight : RunPoint File → Nat
  | .send _ => 9
  | .prelude | .drain true => 8
  | .commit true => 7
  | .next => 6
  | .drain false => 5
  | .commit false | .tailCommit true => 4
  | .prepare | .tail => 3
  | .tailCommit false => 2
  | .tailWait | .sequential => 1
  | .ended _ => 0

namespace ParallelRun

variable {s t : ParallelRun File}

/-- The files that are under way or still to come. -/
def pool (s : ParallelRun File) : Multiset (File × Nat) :=
  (s.pending : Multiset (File × Nat)) + s.results + s.parsing + s.work + s.point.held +
    s.remaining

theorem insertImportFileResult_some {pending after : List (File × Nat)} {item : File × Nat}
    (done : insertImportFileResult pending item = some after) : after = pending ++ [item] := by
  unfold insertImportFileResult at done
  split at done
  · cases done
  · exact (Option.some.inj done).symm

theorem receive_some (done : s.receive = some t) :
    ∃ item results, s.results = item :: results ∧
      t = { s with results, pending := s.pending ++ [item] } ∧ t.pool = s.pool := by
  unfold receive at done
  split at done
  · cases done
  · next item results there =>
    obtain ⟨pending, inserted, rfl⟩ := Option.map_eq_some_iff.mp done
    rw [insertImportFileResult_some inserted]
    refine ⟨item, results, there, rfl, ?_⟩
    simp only [pool, there, ← Multiset.coe_add, ← Multiset.cons_coe, ← Multiset.singleton_add]
    abel

theorem commitReady_some (done : s.commitReady = some t) :
    ∃ item pending, item.2 = s.nextCommitIndex ∧ s.pending.length = pending.length + 1 ∧
      t = { s with
        pending
        nextCommitIndex := s.nextCommitIndex + 1
        committed := s.committed ++ [item] } ∧ s.pool = item ::ₘ t.pool := by
  obtain ⟨item, found, rfl⟩ := Option.map_eq_some_iff.mp done
  obtain ⟨index, before, after, split_, others⟩ := List.find?_eq_some_iff_append.mp found
  have erased : s.pending.eraseP (·.2 = s.nextCommitIndex) = before ++ after := by
    rw [split_, List.eraseP_append_right _ (by simpa using others)]
    simp [of_decide_eq_true index]
  refine ⟨item, _, of_decide_eq_true index, ?_, rfl, ?_⟩
  · rw [erased, split_]
    simp [Nat.add_assoc]
  simp only [pool, erased]
  simp only [split_, ← Multiset.coe_add, ← Multiset.cons_coe, ← Multiset.singleton_add]
  abel

theorem commitReady_none (done : s.commitReady = none) :
    ∀ item ∈ s.pending, item.2 ≠ s.nextCommitIndex := by
  simpa [commitReady] using done

theorem finish_some (done : s.finish = some t) :
    ∃ item remaining, s.remaining = item :: remaining ∧
      t = { s with remaining, committed := s.committed ++ [item] } ∧ s.pool = item ::ₘ t.pool := by
  unfold finish at done
  split at done
  · cases done
  · next item remaining left =>
    cases done
    refine ⟨item, remaining, left, rfl, ?_⟩
    simp only [pool, left, ← Multiset.singleton_add]
    abel

/-- Only a file that waits for room moves with the point. -/
theorem pool_at {point : RunPoint File} (same : point.held = s.point.held) :
    pool { s with point } = s.pool := by
  simp only [pool, same]

/-- The run and its reorder buffer agree on what is committed. -/
def InLoop (s : ParallelRun File) : Prop :=
  s.nextCommitIndex = s.committed.length ∧ 2 ≤ s.workerCount

/-- What is known at each point of the run. -/
def Phase (files : List File) (s : ParallelRun File) : Prop :=
  match s.point with
  | .prelude | .sequential =>
      s.remaining = files.zipIdx.drop s.committed.length ∧ s.pending = [] ∧ s.results = [] ∧
        s.parsing = [] ∧ s.work = []
  | .next | .drain true | .commit true | .send _ => s.InLoop
  | .drain false | .commit false | .prepare => s.InLoop ∧ s.remaining ≠ []
  | .tail => s.InLoop ∧ s.remaining = []
  | .tailCommit already =>
      s.InLoop ∧ s.remaining = [] ∧ (already = false → s.nextCommitIndex < files.length)
  | .tailWait =>
      s.InLoop ∧ s.remaining = [] ∧ s.nextCommitIndex < files.length ∧
        ∀ item ∈ s.pending, item.2 ≠ s.nextCommitIndex
  | .ended normally => normally = true → files.length ≤ s.committed.length

/-- The first files are committed, and while the run goes on the others are each in one
place. -/
structure Kept (files : List File) (s : ParallelRun File) : Prop where
  commits : s.committed = files.zipIdx.take s.committed.length
  left : (∀ normally, s.point ≠ .ended normally) →
    s.pool = (files.zipIdx.drop s.committed.length : Multiset (File × Nat))
  phase : s.Phase files

theorem index_of_head {files : List File} {count : Nat} {item : File × Nat}
    {rest : List (File × Nat)} (head : files.zipIdx.drop count = item :: rest) :
    item.2 = count ∧ rest = files.zipIdx.drop (count + 1) ∧
      files.zipIdx.take (count + 1) = files.zipIdx.take count ++ [item] := by
  have inside : count < files.zipIdx.length := by
    by_contra beyond
    rw [List.drop_eq_nil_of_le (not_lt.mp beyond)] at head
    cases head
  rw [List.drop_eq_getElem_cons inside] at head
  obtain ⟨rfl, rfl⟩ := List.cons.inj head
  exact ⟨by simp, rfl, (List.take_concat_get' _ _ inside).symm⟩

/-- The file that stands next is the one with the next index. -/
theorem head_of_index {files : List File} {item : File × Nat} {count : Nat}
    (member : item ∈ files.zipIdx.drop count) (index : item.2 = count) :
    files.zipIdx.drop count = item :: files.zipIdx.drop (count + 1) := by
  obtain ⟨i, inside, rfl⟩ := List.mem_iff_getElem.mp member
  obtain rfl : i = 0 := by simpa using index
  have within_ : count < files.zipIdx.length := by simpa [Nat.sub_pos_iff_lt] using inside
  simpa using List.drop_eq_getElem_cons within_

variable {files : List File}

theorem Kept.stays (kept : s.Kept files) (same : t.committed = s.committed)
    (pool : t.pool = s.pool) (going : ∀ normally, s.point ≠ .ended normally)
    (phase : t.Phase files) : t.Kept files :=
  ⟨same ▸ kept.commits, fun _ => by rw [same, pool, kept.left going], phase⟩

/-- Only the point changes. -/
theorem Kept.goes {point : RunPoint File} (kept : s.Kept files)
    (going : ∀ normally, s.point ≠ .ended normally) (held : point.held = s.point.held)
    (phase : Phase files { s with point }) : Kept files { s with point } :=
  kept.stays rfl (pool_at held) going phase

/-- One more file is committed: the one that stands next. -/
theorem Kept.grows (kept : s.Kept files) {item : File × Nat}
    (committed : t.committed = s.committed ++ [item]) (pool : s.pool = item ::ₘ t.pool)
    (index : item.2 = s.committed.length) (going : ∀ normally, s.point ≠ .ended normally)
    (phase : t.Phase files) : t.Kept files := by
  have left := kept.left going
  have member : item ∈ files.zipIdx.drop s.committed.length := by
    rw [← Multiset.mem_coe, ← left, pool]
    exact Multiset.mem_cons_self item _
  have head := head_of_index member index
  rw [pool, head] at left
  have count : t.committed.length = s.committed.length + 1 := by simp [committed]
  refine ⟨?_, fun _ => ?_, phase⟩
  · rw [count, (index_of_head head).2.2, ← kept.commits, committed]
  · rw [count]
    exact (Multiset.cons_inj_right item).mp left

theorem InLoop.commit (loop : s.InLoop) (item : File × Nat) :
    s.nextCommitIndex + 1 = (s.committed ++ [item]).length ∧ 2 ≤ s.workerCount :=
  ⟨by simp [loop.1], loop.2⟩

/-- The workers have no part in the phase, and nothing to do outside the loop. -/
theorem Phase.parsed {work parsing results : List (File × Nat)} (phase : s.Phase files)
    (busy : s.work ≠ [] ∨ s.parsing ≠ []) : Phase files { s with work, parsing, results } := by
  obtain ⟨point, _⟩ := s
  cases point with
  | prelude | sequential =>
    obtain ⟨-, -, -, parsing, work⟩ := phase
    exact absurd busy (by simp_all)
  | drain prepared | commit prepared => cases prepared <;> exact phase
  | _ => exact phase

theorem Kept.move {parseWorkers : Nat} (kept : s.Kept files)
    (move : RunMove parseWorkers files.length s t) : t.Kept files := by
  have phase := kept.phase
  cases move with
  | finishFirst here done | finishNext here done =>
    obtain ⟨item, remaining, left, rfl, pool⟩ := finish_some done
    simp only [Phase, here] at phase
    obtain ⟨rest, idle⟩ := phase
    obtain ⟨index, later, -⟩ := index_of_head (rest.symm.trans left)
    refine kept.grows rfl pool index (by simp [here]) ?_
    simp [Phase, here, later, idle]
  | searchable here =>
    simp only [Phase, here] at phase
    unfold enterLoop
    dsimp only
    split
    · next left =>
      rw [left] at phase
      refine kept.goes (by simp [here]) (by rw [here]; rfl) ?_
      simpa [Phase] using List.drop_eq_nil_iff.mp phase.1.symm
    · next first rest left =>
      split
      · exact kept.goes (by simp [here]) (by rw [here]; rfl) phase
      · next many =>
        refine kept.stays rfl ?_ (by simp [here]) ⟨?_, by simp at many ⊢; omega⟩
        · simp only [pool, here, RunPoint.held]
        · exact (index_of_head (phase.1.symm.trans left)).1
  | sequentialEnd here left =>
    simp only [Phase, here, left] at phase
    refine kept.goes (by simp [here]) (by rw [here]; rfl) ?_
    simpa [Phase] using List.drop_eq_nil_iff.mp phase.1.symm
  | loop here left | loopEnd here left =>
    simp only [Phase, here] at phase
    exact kept.goes (by simp [here]) (by rw [here]; rfl) ⟨phase, left⟩
  | @drained prepared _ here done =>
    obtain ⟨item, results, -, rfl, pool⟩ := receive_some done
    refine kept.stays rfl pool (by simp [here]) ?_
    simp only [Phase, here] at phase ⊢
    cases prepared <;> exact phase
  | @drainEnd prepared here empty =>
    simp only [Phase, here] at phase
    refine kept.goes (by simp [here]) (by rw [here]; rfl) ?_
    cases prepared <;> exact phase
  | @committed prepared _ here done =>
    obtain ⟨item, pending, index, -, rfl, pool⟩ := commitReady_some done
    cases prepared with
    | false =>
      simp only [Phase, here] at phase
      refine kept.grows rfl pool (index.trans phase.1.1) (by simp [here]) ?_
      simp only [here]
      exact ⟨phase.1.commit item, phase.2⟩
    | true =>
      simp only [Phase, here] at phase
      refine kept.grows rfl pool (index.trans phase.1) (by simp [here]) ?_
      simp only [here]
      exact phase.commit item
  | @commitEnd prepared here none_ =>
    simp only [Phase, here] at phase
    refine kept.goes (by simp [here]) ?_ ?_
    · cases prepared <;> simp [here, RunPoint.held]
    · cases prepared <;> exact phase
  | preparedReady here left inserted =>
    simp only [Phase, here] at phase
    rw [insertImportFileResult_some inserted]
    refine kept.stays rfl ?_ (by simp [here]) phase.1
    simp only [pool, here, left, ← Multiset.coe_add, ← Multiset.cons_coe, ← Multiset.singleton_add]
    abel
  | preparedParse here left =>
    simp only [Phase, here] at phase
    refine kept.stays rfl ?_ (by simp [here]) phase.1
    simp only [pool, here, left]
    abel
  | sent here room =>
    simp only [Phase, here] at phase
    refine kept.stays rfl ?_ (by simp [here]) phase
    simp only [pool, here, RunPoint.held, ← Multiset.coe_add]
    abel
  | receivedWhileFull here full done =>
    obtain ⟨item, results, -, rfl, pool⟩ := receive_some done
    refine kept.stays rfl pool (by simp [here]) ?_
    simp only [Phase, here] at phase ⊢
    exact phase
  | tailLoop here left =>
    simp only [Phase, here] at phase
    exact kept.goes (by simp [here]) (by rw [here]; rfl) ⟨phase.1, phase.2, fun _ => left⟩
  | tailEnd here left =>
    simp only [Phase, here] at phase
    exact kept.goes (by simp [here]) (by rw [here]; rfl) fun _ => phase.1.1 ▸ left
  | tailCommitted here done =>
    obtain ⟨item, pending, index, -, rfl, pool⟩ := commitReady_some done
    simp only [Phase, here] at phase
    refine kept.grows rfl (pool.trans (congrArg _ ?_)) (index.trans phase.1.1) (by simp [here])
      ⟨phase.1.commit item, phase.2.1, nofun⟩
    exact (pool_at (by simp [here, RunPoint.held])).symm
  | @tailCommitEnd already here none_ =>
    have missing := commitReady_none none_
    simp only [Phase, here] at phase
    refine kept.goes (by simp [here]) ?_ ?_
    · cases already <;> simp [here, RunPoint.held]
    · cases already
      · exact ⟨phase.1, phase.2.1, phase.2.2 rfl, missing⟩
      · exact ⟨phase.1, phase.2.1⟩
  | tailReceived here done =>
    obtain ⟨item, results, -, rfl, pool⟩ := receive_some done
    simp only [Phase, here] at phase
    exact kept.stays rfl ((pool_at (by rw [here]; rfl)).trans pool) (by simp [here])
      ⟨phase.1, phase.2.1⟩
  | workerTakes free there =>
    refine ⟨kept.commits, fun going => ?_, phase.parsed (.inl (by simp [there]))⟩
    rw [← kept.left going]
    simp only [pool, there, ← Multiset.coe_add, ← Multiset.cons_coe, ← Multiset.singleton_add]
    abel
  | workerSends there room =>
    refine ⟨kept.commits, fun going => ?_, phase.parsed (.inr (by simp [there]))⟩
    rw [← kept.left going]
    simp only [pool, there, ← Multiset.coe_add, ← Multiset.cons_coe, ← Multiset.singleton_add]
    abel

theorem kept_inductive (files : List File) (parseWorkers : Nat) :
    (parallelRun files parseWorkers).Inductive (Kept files) where
  start := by
    rintro s rfl
    refine ⟨by simp, fun _ => ?_, ?_⟩
    · split <;> simp [pool, RunPoint.held]
    · split <;> simp [Phase]
  step := by
    rintro s _ t kept (move | ⟨going, rfl⟩)
    · exact kept.move move
    · exact ⟨kept.commits, fun ended => absurd rfl (ended false), nofun⟩

/-! ## The run gets to its end -/

/-- A file costs less the further it has come. -/
def cost (s : ParallelRun File) : Nat :=
  32 * s.remaining.length + 24 * s.point.held.length + 16 * s.work.length +
    12 * s.parsing.length + 8 * s.results.length + 4 * s.pending.length + s.point.weight

theorem cost_enterLoop (here : s.point = .prelude) (parseWorkers : Nat) :
    (s.enterLoop parseWorkers).cost < s.cost := by
  unfold enterLoop
  dsimp only
  split
  · simp [cost, here, RunPoint.held, RunPoint.weight]
  · split <;> simp [cost, here, RunPoint.held, RunPoint.weight]

theorem cost_move {parseWorkers total : Nat} (move : RunMove parseWorkers total s t) :
    t.cost < s.cost := by
  cases move with
  | searchable here => exact cost_enterLoop here parseWorkers
  | finishFirst here done | finishNext here done =>
    obtain ⟨item, remaining, left, rfl, -⟩ := finish_some done
    simp [cost, left]
  | drained here done | receivedWhileFull here _ done =>
    obtain ⟨item, results, there, rfl, -⟩ := receive_some done
    simp [cost, there]
    omega
  | committed here done =>
    obtain ⟨item, pending, -, fewer, rfl, -⟩ := commitReady_some done
    simp [cost, fewer]
  | @tailCommitted already _ here done =>
    obtain ⟨item, pending, -, fewer, rfl, -⟩ := commitReady_some done
    cases already <;> simp [cost, here, fewer, RunPoint.held, RunPoint.weight]
    omega
  | tailReceived here done =>
    obtain ⟨item, results, there, rfl, -⟩ := receive_some done
    simp [cost, there, RunPoint.held, RunPoint.weight]
    omega
  | preparedReady here left inserted =>
    rw [insertImportFileResult_some inserted]
    simp [cost, left, RunPoint.held, RunPoint.weight]
    omega
  | preparedParse here left =>
    simp [cost, here, left, RunPoint.held, RunPoint.weight]
    omega
  | sent here room =>
    simp [cost, here, RunPoint.held, RunPoint.weight]
    omega
  | workerTakes free there | workerSends there room =>
    simp [cost, there]
    omega
  | @drainEnd flag here _ | @commitEnd flag here _ | @tailCommitEnd flag here _ =>
    cases flag <;> simp [cost, here, RunPoint.held, RunPoint.weight]
  | sequentialEnd here _ | loop here _ | loopEnd here _ | tailLoop here _ | tailEnd here _ =>
    simp [cost, here, RunPoint.held, RunPoint.weight]

theorem cost_step {files : List File} {parseWorkers : Nat} {event : Unit}
    (step : (parallelRun files parseWorkers).step s event t) : t.cost < s.cost := by
  obtain move | ⟨going, rfl⟩ := step
  · exact cost_move move
  · obtain ⟨point, _⟩ := s
    cases point with
    | ended normally => exact absurd rfl (going normally)
    | drain flag | commit flag | tailCommit flag =>
      cases flag <;> simp [cost, RunPoint.held, RunPoint.weight]
    | send item =>
      simp [cost, RunPoint.held, RunPoint.weight]
      omega
    | _ => simp [cost, RunPoint.held, RunPoint.weight]

theorem cost_start {files : List File} {parseWorkers : Nat}
    (starts : (parallelRun files parseWorkers).start s) : s.cost ≤ 32 * files.length + 8 := by
  obtain rfl := starts
  dsimp only [cost]
  split <;> simp [RunPoint.held, RunPoint.weight]

/-- No index is there twice, so a result always finds its place in the buffer. -/
theorem Kept.receives (kept : s.Kept files) (going : ∀ normally, s.point ≠ .ended normally)
    (some_ : s.results ≠ []) : ∃ t, s.receive = some t := by
  obtain ⟨item, results, there⟩ := List.exists_cons_of_ne_nil some_
  have below : ((s.pending ++ item :: results : List _) : Multiset (File × Nat)) ≤ s.pool := by
    refine Multiset.le_iff_exists_add.mpr ⟨s.parsing + s.work + s.point.held + s.remaining, ?_⟩
    simp only [pool, there, ← Multiset.coe_add]
    abel
  rw [kept.left going] at below
  have indices : ((files.zipIdx.drop s.committed.length).map Prod.snd).Nodup := by
    rw [List.map_drop, List.zipIdx_map_snd]
    exact (List.nodup_range' _).sublist (List.drop_sublist _ _)
  have distinct : ((s.pending ++ item :: results).map Prod.snd).Nodup :=
    Multiset.nodup_of_le (Multiset.map_le_map below) indices
  have fresh : ¬ s.pending.any (·.2 = item.2) := by
    intro taken
    obtain ⟨other, member, same⟩ := List.any_eq_true.mp taken
    rw [List.map_append, List.nodup_append] at distinct
    exact distinct.2.2 other.2 (List.mem_map_of_mem member) item.2 (by simp)
      (of_decide_eq_true same)
  simp [receive, there, insertImportFileResult, fresh]

theorem worker_moves {parseWorkers total : Nat} (workers : 2 ≤ s.workerCount)
    (empty : s.results = []) (busy : s.parsing ≠ [] ∨ s.work ≠ []) :
    ∃ t, RunMove parseWorkers total s t := by
  have positive : 0 < s.workerCount := Nat.lt_of_lt_of_le Nat.zero_lt_two workers
  match parsing : s.parsing with
  | item :: later =>
    have room : s.results.length < s.workerCount := by simpa [empty] using positive
    exact ⟨_, @RunMove.workerSends _ _ _ s item [] later parsing room⟩
  | [] =>
    obtain ⟨item, work, there⟩ := List.exists_cons_of_ne_nil (busy.resolve_left (by simp [parsing]))
    exact ⟨_, .workerTakes (by simpa [parsing] using positive) there⟩

/-- A run that waits for a result has one under way. -/
theorem Kept.busy (kept : s.Kept files) (here : s.point = .tailWait) :
    s.results ≠ [] ∨ s.parsing ≠ [] ∨ s.work ≠ [] := by
  have phase := kept.phase
  simp only [Phase, here] at phase
  obtain ⟨⟨count, -⟩, last, inside, missing⟩ := phase
  have within_ : s.committed.length < files.zipIdx.length := by simpa [← count] using inside
  have member : files.zipIdx[s.committed.length] ∈ s.pool := by
    rw [kept.left (by simp [here]), List.drop_eq_getElem_cons within_]
    exact List.mem_cons_self
  have elsewhere : files.zipIdx[s.committed.length] ∉ s.pending :=
    fun there => missing _ there (by simp [count])
  by_contra idle
  simp only [not_or, not_not] at idle
  simp [pool, here, idle, last, RunPoint.held] at member
  exact elsewhere (by simpa using member)

theorem Kept.moves (kept : s.Kept files) (parseWorkers : Nat)
    (going : ∀ normally, s.point ≠ .ended normally) :
    ∃ t, RunMove parseWorkers files.length s t := by
  have phase := kept.phase
  have receives := kept.receives going
  match here : s.point with
  | .prelude => exact ⟨_, .searchable here⟩
  | .sequential =>
    match left : s.remaining with
    | [] => exact ⟨_, .sequentialEnd here left⟩
    | item :: remaining => exact ⟨_, .finishNext here (by rw [finish, left])⟩
  | .next =>
    by_cases left : s.remaining = []
    · exact ⟨_, .loopEnd here left⟩
    · exact ⟨_, .loop here left⟩
  | .drain _ =>
    by_cases empty : s.results = []
    · exact ⟨_, .drainEnd here empty⟩
    · exact (receives empty).imp fun _ done => .drained here done
  | .commit _ =>
    match done : s.commitReady with
    | none => exact ⟨_, .commitEnd here done⟩
    | some _ => exact ⟨_, .committed here done⟩
  | .prepare =>
    simp only [Phase, here] at phase
    obtain ⟨item, remaining, left⟩ := List.exists_cons_of_ne_nil phase.2
    exact ⟨_, .preparedParse here left⟩
  | .send _ =>
    simp only [Phase, here] at phase
    obtain room | full := Nat.lt_or_ge s.work.length s.workerCount
    · exact ⟨_, .sent here room⟩
    · by_cases empty : s.results = []
      · refine worker_moves phase.2 empty (.inr fun none_ => ?_)
        have workers := phase.2
        simp [none_] at full
        omega
      · exact (receives empty).imp fun _ done => .receivedWhileFull here full done
  | .tail =>
    obtain left | done := Nat.lt_or_ge s.nextCommitIndex files.length
    · exact ⟨_, .tailLoop here left⟩
    · exact ⟨_, .tailEnd here done⟩
  | .tailCommit _ =>
    match done : s.commitReady with
    | none => exact ⟨_, .tailCommitEnd here done⟩
    | some _ => exact ⟨_, .tailCommitted here done⟩
  | .tailWait =>
    have busy := kept.busy here
    simp only [Phase, here] at phase
    by_cases empty : s.results = []
    · exact worker_moves phase.1.2 empty (busy.resolve_left (not_not.mpr empty))
    · obtain ⟨t, done⟩ := receives empty
      exact ⟨_, .tailReceived here done⟩
  | .ended normally => exact absurd here (going normally)

end ParallelRun

open ParallelRun in
/-- **The parallel run commits what the sequential run commits.** For every number of
workers and every order of their steps, the first files are committed once each and in
their order. A run that ends normally has committed all the files, which is what a run
with one worker commits. Before its end a run can always go on, and its length is
bounded. -/
theorem parallel_run_commits (files : List File) (parseWorkers : Nat) {s : ParallelRun File}
    (reachable : (parallelRun files parseWorkers).Reachable s) :
    s.committed = files.zipIdx.take s.committed.length ∧
      (s.point = .ended true → s.committed = files.zipIdx ∧
        ∀ t, (parallelRun files 1).Reachable t → t.point = .ended true →
          s.committed = t.committed) ∧
      ((∀ normally, s.point ≠ .ended normally) →
        ∃ t, RunMove parseWorkers files.length s t) ∧
      ∀ first events, (parallelRun files parseWorkers).start first →
        (parallelRun files parseWorkers).Run first events s →
          events.length ≤ 32 * files.length + 8 := by
  have all {workers : Nat} {t : ParallelRun File}
      (reached : (parallelRun files workers).Reachable t) (normally : t.point = .ended true) :
      t.committed = files.zipIdx := by
    have kept := (kept_inductive files workers).holds reached
    have phase := kept.phase
    simp only [Phase, normally] at phase
    rw [kept.commits, List.take_of_length_le (by simpa using phase trivial)]
  have kept := (kept_inductive files parseWorkers).holds reachable
  refine ⟨kept.commits, fun normally => ⟨all reachable normally, fun t reached ended => ?_⟩,
    kept.moves parseWorkers, ?_⟩
  · rw [all reachable normally, all reached ended]
  · intro first events starts run
    have bound := run.length_add_cost_le cost_step
    have dearest := cost_start starts
    omega

theorem reachable_move {files : List File} {parseWorkers : Nat} {s t : ParallelRun File}
    (reachable : (parallelRun files parseWorkers).Reachable s)
    (move : RunMove parseWorkers files.length s t) :
    (parallelRun files parseWorkers).Reachable t :=
  @Machine.Reachable.next _ _ _ _ _ () reachable (.inl move)

/-- One round of the loop while no result is back: the next file goes into the queue. -/
theorem reachable_sent {files : List File} {parseWorkers : Nat} {item : File × Nat}
    {remaining work parsing committed : List (File × Nat)} {workerCount index : Nat}
    (reachable : (parallelRun files parseWorkers).Reachable
      ⟨.next, item :: remaining, workerCount, work, parsing, [], [], index, committed⟩)
    (room : work.length < workerCount) :
    (parallelRun files parseWorkers).Reachable
      ⟨.next, remaining, workerCount, work ++ [item], parsing, [], [], index, committed⟩ := by
  have prepare := reachable_move (reachable_move (reachable_move reachable
    (.loop rfl (List.cons_ne_nil _ _))) (.drainEnd rfl rfl)) (.commitEnd rfl rfl)
  have sent := reachable_move (reachable_move prepare (.preparedParse rfl rfl)) (.sent rfl room)
  have drained := reachable_move sent (.drainEnd rfl rfl)
  exact reachable_move drained (@RunMove.commitEnd _ _ _ _ true rfl rfl)

/-- The result of the third file is back before the one of the second, and waits for it. -/
theorem parallel_run_commits_of_three_files :
    (∃ s : ParallelRun Nat, (parallelRun [7, 8, 9] 2).Reachable s ∧ s.parsing = [(8, 1)] ∧
      s.pending = [(9, 2)] ∧ s.committed = [(7, 0)]) ∧
    ∃ s : ParallelRun Nat, (parallelRun [7, 8, 9] 2).Reachable s ∧ s.point = .ended true ∧
      s.committed = [(7, 0), (8, 1), (9, 2)] := by
  have start : (parallelRun [7, 8, 9] 2).Reachable ⟨.prelude, [(7, 0), (8, 1), (9, 2)], 0, [], [],
      [], [], 0, []⟩ := .start rfl
  have loop : (parallelRun [7, 8, 9] 2).Reachable ⟨.next, [(8, 1), (9, 2)], 2, [], [], [], [], 1,
      [(7, 0)]⟩ := reachable_move (reachable_move start (.finishFirst rfl rfl)) (.searchable rfl)
  have sent : (parallelRun [7, 8, 9] 2).Reachable ⟨.next, [], 2, [(8, 1), (9, 2)], [], [], [], 1,
      [(7, 0)]⟩ := reachable_sent (reachable_sent loop (by decide)) (by decide)
  have parsing : (parallelRun [7, 8, 9] 2).Reachable ⟨.tail, [], 2, [], [(8, 1), (9, 2)], [], [],
      1, [(7, 0)]⟩ :=
    reachable_move (reachable_move (reachable_move sent (.loopEnd rfl rfl))
      (.workerTakes (by decide) rfl)) (.workerTakes (by decide) rfl)
  have overtaken : (parallelRun [7, 8, 9] 2).Reachable ⟨.tailWait, [], 2, [], [(8, 1)], [(9, 2)],
      [], 1, [(7, 0)]⟩ :=
    reachable_move (reachable_move (reachable_move parsing
      (@RunMove.workerSends _ _ _ _ (9, 2) [(8, 1)] [] rfl (by decide)))
      (.tailLoop rfl (by decide))) (@RunMove.tailCommitEnd _ _ _ _ false rfl rfl)
  have waiting := reachable_move overtaken (.tailReceived rfl rfl)
  have answered : (parallelRun [7, 8, 9] 2).Reachable ⟨.tailWait, [], 2, [], [], [(8, 1)],
      [(9, 2)], 1, [(7, 0)]⟩ :=
    reachable_move (reachable_move (reachable_move waiting (.tailLoop rfl (by decide)))
      (@RunMove.tailCommitEnd _ _ _ _ false rfl rfl))
      (@RunMove.workerSends _ _ _ _ (8, 1) [] [] rfl (by decide))
  have received := reachable_move (reachable_move answered (.tailReceived rfl rfl))
    (.tailLoop rfl (by decide))
  have committed := reachable_move (reachable_move received (.tailCommitted rfl rfl))
    (.tailCommitted rfl rfl)
  have last : (parallelRun [7, 8, 9] 2).Reachable ⟨.tail, [], 2, [], [], [], [], 3,
      [(7, 0), (8, 1), (9, 2)]⟩ :=
    reachable_move committed (@RunMove.tailCommitEnd _ _ _ _ true rfl rfl)
  have ended := reachable_move last (.tailEnd rfl (by decide))
  exact ⟨⟨_, waiting, rfl, rfl, rfl⟩, _, ended, rfl,
    ((parallel_run_commits [7, 8, 9] 2 ended).2.1 rfl).1⟩

end ResumeIr.ImportPipeline
