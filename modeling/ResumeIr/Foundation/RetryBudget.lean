import ResumeIr.Foundation.Machine

/-!
# A budget of attempts

A task that may fail is attempted up to a limit. A record says how many attempts
were started and whether the last one still runs, is waited for until a deadline,
or was the last one for good. An attempt that is cancelled gives its place back,
a wait may be begun anew, and when the record is removed the budget starts anew.

`Move` lists what may happen to the record, with the starts and cancellations it
stands for. A machine whose every step is such a move counts correctly: as long
as the record is not removed, the attempts that were started and not cancelled are
those the record counts (`balance`), so there are never more of them than the
limit allows (`starts_le`). Until something is started or begun anew, a record that
waits keeps its deadline (`waits_on`).
-/

namespace ResumeIr.Foundation.RetryBudget

/-- Where the last attempt stands. -/
inductive Standing where
  | running
  | waiting (deadline : Int)
  | spent
  deriving DecidableEq

/-- The record of the attempts. -/
structure Attempts where
  count : Nat
  standing : Standing
  deriving DecidableEq

/-- What a step does for the record of a key: it starts an attempt, takes the last
start back, or begins a wait anew. -/
inductive Mark where
  | start (now : Int)
  | cancel
  | rebase
  deriving DecidableEq

/-- Whether a mark is that of a start. -/
def Mark.isStart : Mark → Bool
  | .start _ => true
  | _ => false

/-- The attempts that a log starts. -/
def starts (log : List Mark) : Nat := log.countP Mark.isStart

/-- The attempts that a log cancels. -/
def cancels (log : List Mark) : Nat := log.countP fun mark => mark = .cancel

theorem starts_append (first second : List Mark) :
    starts (first ++ second) = starts first + starts second :=
  List.countP_append

theorem cancels_append (first second : List Mark) :
    cancels (first ++ second) = cancels first + cancels second :=
  List.countP_append

/-- The attempts that count, of a record that may be absent. -/
def counted (record : Option Attempts) : Nat := record.elim 0 Attempts.count

/-- What may happen to a record. -/
inductive Move (limit : Nat) : Option Attempts → List Mark → Option Attempts → Prop where
  | stay (record : Option Attempts) : Move limit record [] record
  | first (now : Int) (room : 1 ≤ limit) : Move limit none [.start now] (some ⟨1, .running⟩)
  | next {count : Nat} {deadline now : Int} (due : deadline ≤ now) (room : count < limit) :
      Move limit (some ⟨count, .waiting deadline⟩) [.start now] (some ⟨count + 1, .running⟩)
  | stopped (count : Nat) (after : Standing) (halted : after ≠ .running) :
      Move limit (some ⟨count, .running⟩) [] (some ⟨count, after⟩)
  | rebased (count : Nat) (before after : Standing) :
      Move limit (some ⟨count, before⟩) [.rebase] (some ⟨count, after⟩)
  | cancelled (count : Nat) (deadline : Int) :
      Move limit (some ⟨count + 1, .running⟩) [.cancel] (some ⟨count, .waiting deadline⟩)
  | removed (attempts : Attempts) (marks : List Mark) : Move limit (some attempts) marks none

namespace Move

variable {limit : Nat} {before after : Option Attempts} {marks : List Mark}

/-- A move that does not remove the record changes its count by what it starts and
cancels. -/
theorem balance (move : Move limit before marks after) (kept : before.isSome → after.isSome) :
    counted after + cancels marks = counted before + starts marks := by
  cases move with
  | stay | first | next | stopped | rebased | cancelled => rfl
  | removed attempts => exact absurd (kept rfl) (by simp)

theorem of_none (before : Option Attempts) : Move limit before [] none := by
  cases before with
  | none => exact .stay none
  | some attempts => exact .removed attempts []

/-- A record that does not run changes by a mark or is removed. -/
theorem of_halted {attempts : Attempts} (move : Move limit (some attempts) [] after)
    (halted : attempts.standing ≠ .running) : after = some attempts ∨ after = none := by
  cases move with
  | stay => exact .inl rfl
  | stopped => exact absurd rfl halted
  | removed => exact .inr rfl

theorem counted_le (move : Move limit before marks after) (bounded : counted before ≤ limit) :
    counted after ≤ limit := by
  cases move with
  | stay | stopped | rebased => exact bounded
  | first now room | next due room => exact room
  | cancelled count deadline => exact Nat.le_trans (Nat.le_succ count) bounded
  | removed => exact Nat.zero_le limit

end Move

/-! ## A row that holds the record of one key -/

section Keyed

variable {ρ κ : Type*} [DecidableEq κ] {key : ρ → κ} {attempts : ρ → Attempts} {limit : Nat}
  {wanted : κ} {before after : Option ρ} {row : ρ}

/-- The record of a key, from a row that may be the row of another one. -/
def viewFor (key : ρ → κ) (attempts : ρ → Attempts) (wanted : κ) (row : Option ρ) :
    Option Attempts :=
  (row.filter fun row => key row = wanted).map attempts

theorem viewFor_own (own : key row = wanted) :
    viewFor key attempts wanted (some row) = some (attempts row) := by
  simp [viewFor, Option.filter, own]

theorem viewFor_other (other : ∀ row ∈ before, key row ≠ wanted) :
    viewFor key attempts wanted before = none := by
  cases before with
  | none => rfl
  | some row => simp [viewFor, other row rfl]

theorem counted_viewFor_le (bounded : ∀ row ∈ before, (attempts row).count ≤ limit) :
    counted (viewFor key attempts wanted before) ≤ limit := by
  cases before with
  | none => exact Nat.zero_le limit
  | some row =>
    by_cases own : key row = wanted
    · rw [viewFor_own own]
      exact bounded row rfl
    · rw [viewFor_other (by simpa using own)]
      exact Nat.zero_le limit

namespace Move

/-- A row that is kept or removed is a move of the budget. -/
theorem of_sameOrGone (rows : after = before ∨ after = none) :
    Move limit (viewFor key attempts wanted before) [] (viewFor key attempts wanted after) := by
  obtain rfl | rfl := rows
  · exact .stay _
  · exact .of_none _

/-- So is a row that keeps its count and its key, when it stops running or its wait
is begun anew. -/
theorem of_counted {later : ρ} {marks : List Mark} (same : key later = key row)
    (count : (attempts later).count = (attempts row).count)
    (marked : (attempts row).standing = .running ∧ (attempts later).standing ≠ .running ∧
      marks = [] ∨ marks = if key row = wanted then [.rebase] else []) :
    Move limit (viewFor key attempts wanted (some row)) marks
      (viewFor key attempts wanted (some later)) := by
  by_cases own : key row = wanted
  · rw [viewFor_own own, viewFor_own (same.trans own)]
    rw [if_pos own] at marked
    generalize attempts later = after at count marked
    generalize attempts row = before at count marked
    obtain ⟨_, _⟩ := before
    obtain ⟨_, _⟩ := after
    cases count
    obtain ⟨⟨⟩, halted, rfl⟩ | rfl := marked
    · exact .stopped _ _ halted
    · exact .rebased _ _ _
  · have silent : marks = [] := marked.elim (·.2.2) (·.trans (if_neg own))
    rw [silent, viewFor_other (by simpa using own), viewFor_other (by simpa [same] using own)]
    exact .stay none

/-- The start of an attempt, seen from any key. -/
theorem of_started {now : Int} {marks : List Mark}
    (follows : viewFor key attempts (key row) before = none ∧ attempts row = ⟨1, .running⟩ ∨
      ∃ count deadline, viewFor key attempts (key row) before = some ⟨count, .waiting deadline⟩ ∧
        deadline ≤ now ∧ count < limit ∧ attempts row = ⟨count + 1, .running⟩)
    (room : 1 ≤ limit) (marked : marks = if key row = wanted then [.start now] else []) :
    Move limit (viewFor key attempts wanted before) marks
      (viewFor key attempts wanted (some row)) := by
  by_cases own : key row = wanted
  · rw [marked, if_pos own, viewFor_own own, ← own]
    obtain ⟨absent, started⟩ | ⟨count, deadline, waits, due, below, started⟩ := follows
    · rw [absent, started]
      exact .first now room
    · rw [waits, started]
      exact .next due below
  · have absent : viewFor key attempts wanted (some row) = none :=
      viewFor_other (by simpa using own)
    rw [marked, if_neg own, absent]
    exact .of_none _

end Move

end Keyed

section Machine

variable {σ ε : Type*} {M : Machine σ ε} {limit : Nat} {view : σ → Option Attempts}
  {marks : σ → ε → List Mark}

/-- A step that removes the record. -/
def Removes (view : σ → Option Attempts) (next : σ → ε → σ) (s : σ) (event : ε) : Prop :=
  (view s).isSome ∧ view (next s event) = none

variable {next : σ → ε → σ}
  (deterministic : ∀ {s event t}, M.step s event t → t = next s event)
  (moves : ∀ {s event t}, M.Reachable s → M.step s event t →
    Move limit (view s) (marks s event) (view t))

include deterministic moves

/-- A record that does not run stays as it is in a run without marks that does not
remove it. -/
theorem waits_on {s t : σ} {events : List ε} {attempts : Attempts} (reachable : M.Reachable s)
    (there : view s = some attempts) (halted : attempts.standing ≠ .running)
    (logged : (M.restrict fun s event => ¬ Removes view next s event).Logs marks s events [] t) :
    view t = some attempts := by
  generalize empty : [] = log at logged
  induction logged with
  | nil => exact there
  | @snoc t u _ log event earlier taken ih =>
    obtain ⟨rfl, silent⟩ := List.append_eq_nil_iff.mp empty.symm
    have before := ih rfl
    have move := moves (earlier.run.of_restrict.reachable reachable) taken.2
    rw [silent, before] at move
    refine (move.of_halted halted).resolve_right fun gone => taken.1 ⟨by rw [before]; rfl, ?_⟩
    rw [← deterministic taken.2, gone]

/-- As long as the record is not removed, it counts the attempts that were started
and not cancelled. -/
theorem balance {s t : σ} {events : List ε} {log : List Mark} (reachable : M.Reachable s)
    (logged : (M.restrict fun s event => ¬ Removes view next s event).Logs marks s events log t) :
    counted (view t) + cancels log = counted (view s) + starts log := by
  induction logged with
  | nil => rfl
  | @snoc t u events log event earlier taken ih =>
    have there := earlier.run.of_restrict.reachable reachable
    have kept : (view t).isSome → (view u).isSome := by
      intro present
      rw [deterministic taken.2]
      cases gone : view (next t event) with
      | none => exact absurd ⟨present, gone⟩ taken.1
      | some attempts => rfl
    have step := (moves there taken.2).balance kept
    rw [starts_append, cancels_append]
    omega

/-- **The budget.** As long as the record is not removed, no more attempts are
started and not cancelled than the limit leaves room for. -/
theorem starts_le {s t : σ} {events : List ε} {log : List Mark} (reachable : M.Reachable s)
    (bounded : counted (view s) ≤ limit)
    (logged : (M.restrict fun s event => ¬ Removes view next s event).Logs marks s events log t) :
    counted (view s) + starts log ≤ limit + cancels log := by
  have balanced := balance deterministic moves reachable logged
  have within_ : counted (view t) ≤ limit := by
    clear balanced
    induction logged with
    | nil => exact bounded
    | snoc earlier taken ih =>
      exact (moves (earlier.run.of_restrict.reachable reachable) taken.2).counted_le ih
  omega

end Machine

end ResumeIr.Foundation.RetryBudget
