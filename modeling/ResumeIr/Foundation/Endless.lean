import Mathlib.Data.Nat.Find
import ResumeIr.Foundation.Threads

/-!
# Endless runs

That something happens in the end is said of runs that never stop (`Machine.Endless`). It
is proved by a measure that some later moment lowers until it happens
(`eventually_of_falls`). Over threads the later moment is the next move of one thread, which
finds the thread where it was left (`Machine.Endless.next_move`).
-/

namespace ResumeIr.Foundation

/-- What is reached or else lowers a measure at some later moment is reached in the end. -/
theorem eventually_of_falls {goal : Nat → Prop} (holds : Nat → Prop) (measure : Nat → Nat)
    (falls : ∀ n, holds n → ∃ m ≥ n, goal m ∨ holds m ∧ measure m < measure n) {n : Nat}
    (now : holds n) : ∃ m ≥ n, goal m := by
  induction bound : measure n using Nat.strong_induction_on generalizing n with
  | _ k ih =>
    obtain ⟨m, later, reached | ⟨still, less⟩⟩ := falls n now
    · exact ⟨m, later, reached⟩
    · obtain ⟨last, after, reached⟩ := ih _ (bound ▸ less) still rfl
      exact ⟨last, Nat.le_trans later after, reached⟩

/-- What holds and does not hold later ceases to hold in some step. -/
theorem exists_last (holds : Nat → Prop) {n m : Nat} (later : n ≤ m) (now : holds n)
    (gone : ¬ holds m) : ∃ k ≥ n, holds k ∧ ¬ holds (k + 1) := by
  by_contra kept
  simp only [not_exists, not_and, not_not] at kept
  exact gone (Nat.le_induction now (fun k after held => kept k after held) m later)

/-- A run without an end. -/
structure Machine.Endless {σ ε : Type*} (M : Machine σ ε) (s : σ) where
  state : Nat → σ
  event : Nat → ε
  zero : state 0 = s
  step : ∀ n, M.step (state n) (event n) (state (n + 1))

namespace Machine.Endless

section Runs

variable {σ ε : Type*} {M : Machine σ ε} {s : σ}

theorem run (r : M.Endless s) {n m : Nat} (later : n ≤ m) :
    ∃ events, M.Run (r.state n) events (r.state m) := by
  induction m, later using Nat.le_induction with
  | base => exact ⟨[], .nil _⟩
  | succ m _ ih =>
    obtain ⟨events, earlier⟩ := ih
    exact ⟨_, earlier.snoc (r.step m)⟩

theorem reachable (r : M.Endless s) (from_ : M.Reachable s) (n : Nat) : M.Reachable (r.state n) := by
  obtain ⟨_, run⟩ := r.run (Nat.zero_le n)
  exact run.reachable (r.zero.symm ▸ from_)

/-- A run followed by an endless one. -/
theorem exists_after {t : σ} {events : List ε} (run : M.Run s events t) (tail : M.Endless t) :
    ∃ (r : M.Endless s) (k : Nat), ∀ n, r.state (k + n) = tail.state n ∧
      r.event (k + n) = tail.event n := by
  induction run with
  | nil => exact ⟨tail, 0, fun n => by rw [Nat.zero_add]; exact ⟨rfl, rfl⟩⟩
  | @snoc middle t _ event _ last ih =>
    have step : ∀ n, M.step (Nat.casesOn n middle tail.state : σ)
        (Nat.casesOn n event tail.event : ε) (tail.state n) := by
      rintro (_ | n)
      · rw [tail.zero]
        exact last
      · exact tail.step n
    obtain ⟨r, k, same⟩ := ih ⟨fun n => Nat.casesOn n middle tail.state,
      fun n => Nat.casesOn n event tail.event, rfl, step⟩
    refine ⟨r, k + 1, fun n => ?_⟩
    rw [Nat.add_assoc, Nat.add_comm 1 n]
    exact same (n + 1)

end Runs

section Threads

variable {σ α π : Type*} {P : Program σ α π} {s : System σ α π} {a : α} {n m : Nat}

/-- A thread stays where it is until it moves. -/
theorem stays (r : P.machine.Endless s) (later : n ≤ m)
    (still : ∀ k, n ≤ k → k < m → r.event k ≠ a) :
    (r.state m).threads a = (r.state n).threads a := by
  induction m, later using Nat.le_induction with
  | base => rfl
  | succ m later ih =>
    rw [(r.step m).2 a (still m later (Nat.lt_succ_self m)).symm]
    exact ih fun k after before => still k after (Nat.lt_succ_of_lt before)

/-- The next move of a thread begins where the thread is now. -/
theorem next_move (r : P.machine.Endless s) (moves : ∃ m ≥ n, r.event m = a) :
    ∃ m ≥ n, r.event m = a ∧ (r.state m).threads a = (r.state n).threads a := by
  classical
  obtain ⟨later, moved⟩ := Nat.find_spec moves
  refine ⟨Nat.find moves, later, moved, r.stays later fun k after before same => ?_⟩
  exact Nat.find_min moves before ⟨after, same⟩

end Threads

end Machine.Endless

end ResumeIr.Foundation
