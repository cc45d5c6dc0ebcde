import Mathlib.Logic.Function.Basic
import ResumeIr.Foundation.Machine

/-!
# Threads over a shared state

Threads share one state and take turns. A program says where each thread may
start and how a thread at one point moves to another point while it changes the
shared state; a step of the system is one move of one thread, and the others
stay where they are.

Invariants of such a system are proved thread by thread (`Outline`). An
assertion about the shared state, an assertion about one thread and the shared
state, and an assertion about two different threads hold in every reachable
state when a moving thread keeps its own assertions and those of any other
thread that stays.

Statements that some thread is at a point need another rule: if such a thread
exists before a move, it exists after it, unless it is the one that has moved
away (`Program.exists_after`).

A program refines another one with the same threads when its moves, seen through
two maps, are moves of the other (`Program.Refines`). What is reachable is then
seen as something reachable, so an invariant proved about the coarser program
holds of the finer one.
-/

namespace ResumeIr.Foundation

universe u v w

/-- What the threads share, and the point that each of them has reached. -/
structure System (σ : Type u) (α : Type v) (π : Type w) where
  shared : σ
  threads : α → π

theorem System.ext_threads {σ : Type u} {α : Type v} {π : Type w} {s t : System σ α π}
    (shared : s.shared = t.shared) (threads : ∀ a, s.threads a = t.threads a) : s = t := by
  cases s
  cases t
  cases shared
  cases (funext threads : _ = _)
  rfl

/-- The system with one thread moved to another point. -/
def System.put {σ : Type u} {α : Type v} {π : Type w} [DecidableEq α] (s : System σ α π) (a : α)
    (pc : π) (sh : σ) : System σ α π where
  shared := sh
  threads := Function.update s.threads a pc

/-- A system seen through a map of what is shared and a map of the points. -/
def System.seen {σ σ' : Type u} {α : Type v} {π π' : Type w} (s : System σ α π)
    (viewShared : σ → σ') (view : π → π') : System σ' α π' where
  shared := viewShared s.shared
  threads a := view (s.threads a)

/-- Where threads start and how one thread moves. -/
structure Program (σ : Type u) (α : Type v) (π : Type w) where
  start : σ → Prop
  entry : α → π → Prop
  move : α → π → σ → π → σ → Prop

namespace Program

variable {σ : Type u} {α : Type v} {π : Type w}

/-- The machine in which one thread moves at a time; a label is the thread. -/
def machine (P : Program σ α π) : Machine (System σ α π) α where
  start s := P.start s.shared ∧ ∀ a, P.entry a (s.threads a)
  step s a t :=
    P.move a (s.threads a) s.shared (t.threads a) t.shared ∧
      ∀ b, b ≠ a → t.threads b = s.threads b

variable {P : Program σ α π}

/-- Assertions about the shared state, about one thread and about two threads
that every move keeps. -/
structure Outline (P : Program σ α π) (shared : σ → Prop) (own : π → σ → Prop)
    (apart : π → π → Prop) : Prop where
  start : ∀ {sh}, P.start sh → shared sh
  entry : ∀ {sh a pc}, P.start sh → P.entry a pc → own pc sh
  entry_apart : ∀ {a b pc other}, a ≠ b → P.entry a pc → P.entry b other → apart pc other
  symm : ∀ {pc other}, apart pc other → apart other pc
  move_own : ∀ {a pc sh pc' sh'}, shared sh → own pc sh → P.move a pc sh pc' sh' →
    shared sh' ∧ own pc' sh'
  move_other : ∀ {a pc sh pc' sh' other}, shared sh → own pc sh → own other sh →
    apart pc other → P.move a pc sh pc' sh' → own other sh' ∧ apart pc' other

/-- The assertions of an outline in one state. -/
structure Outlined (shared : σ → Prop) (own : π → σ → Prop) (apart : π → π → Prop)
    (s : System σ α π) : Prop where
  shared : shared s.shared
  own : ∀ a, own (s.threads a) s.shared
  apart : ∀ a b, a ≠ b → apart (s.threads a) (s.threads b)

/-- **The thread rule.** The assertions of an outline hold in every reachable
state. -/
theorem Outline.inductive_ {shared : σ → Prop} {own : π → σ → Prop} {apart : π → π → Prop}
    (outline : P.Outline shared own apart) : P.machine.Inductive (Outlined shared own apart) where
  start := by
    rintro s ⟨starts, entries⟩
    exact ⟨outline.start starts, fun a => outline.entry starts (entries a),
      fun a b different => outline.entry_apart different (entries a) (entries b)⟩
  step := by
    rintro s a t held ⟨move, others⟩
    obtain ⟨shared', own'⟩ := outline.move_own held.shared (held.own a) move
    have other : ∀ b, b ≠ a → own (t.threads b) t.shared ∧ apart (t.threads a) (t.threads b) := by
      intro b different
      rw [others b different]
      exact outline.move_other held.shared (held.own a) (held.own b) (held.apart a b different.symm)
        move
    refine ⟨shared', ?_, ?_⟩
    · intro b
      by_cases same : b = a
      · subst same
        exact own'
      · exact (other b same).1
    · intro b c different
      by_cases first : b = a
      · subst first
        exact (other c different.symm).2
      · by_cases second : c = a
        · subst second
          exact outline.symm (other b first).2
        · rw [others b first, others c second]
          exact held.apart b c different

theorem step_put [DecidableEq α] {s : System σ α π} {a : α} {pc pc' : π} {sh' : σ}
    (at_ : s.threads a = pc) (move : P.move a pc s.shared pc' sh') :
    P.machine.step s a (s.put a pc' sh') := by
  refine ⟨?_, fun b different => Function.update_of_ne different ..⟩
  rw [at_]
  simpa only [System.put, Function.update_self] using move

/-- A thread at some point is there after a move, unless it moved away. -/
theorem exists_after (holds : π → Prop) {s t : System σ α π} {a : α}
    (step : P.machine.step s a t) (held : ∃ b, holds (s.threads b)) :
    (∃ b, holds (t.threads b)) ∨ holds (s.threads a) := by
  obtain ⟨b, there⟩ := held
  by_cases same : b = a
  · subst same
    exact .inr there
  · refine .inl ⟨b, ?_⟩
    rw [step.2 b same]
    exact there

section Refinement

variable {σ' : Type u} {π' : Type w} {Q : Program σ' α π'} {viewShared : σ → σ'} {view : π → π'}

/-- Every start, entry and move of one program is, seen through two maps, one of
another program with the same threads. -/
structure Refines (P : Program σ α π) (Q : Program σ' α π') (viewShared : σ → σ')
    (view : π → π') : Prop where
  start : ∀ {sh}, P.start sh → Q.start (viewShared sh)
  entry : ∀ {a pc}, P.entry a pc → Q.entry a (view pc)
  move : ∀ {a pc sh pc' sh'}, P.move a pc sh pc' sh' →
    Q.move a (view pc) (viewShared sh) (view pc') (viewShared sh')

/-- What is reachable is seen as something reachable. -/
theorem Refines.reachable (refines : P.Refines Q viewShared view) {s : System σ α π}
    (reachable : P.machine.Reachable s) : Q.machine.Reachable (s.seen viewShared view) := by
  have seen : P.machine.Inductive fun s => Q.machine.Reachable (s.seen viewShared view) := by
    refine ⟨fun starts => ?_, fun earlier step => ?_⟩
    · exact .start ⟨refines.start starts.1, fun a => refines.entry (starts.2 a)⟩
    · refine earlier.next ⟨refines.move step.1, fun b different => ?_⟩
      exact congrArg view (step.2 b different)
  exact seen.holds reachable

end Refinement

end Program

end ResumeIr.Foundation
