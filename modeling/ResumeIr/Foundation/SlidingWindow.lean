import Mathlib.Data.List.Basic

/-!
# Admissions within a sliding window

A budget that admits a bounded number of events within any interval of one
length keeps the times of the events it admitted, oldest first, and forgets them
from the front once they are a whole interval old. `prune` is that forgetting.

The times that are kept need not be the times of the clock: they may be read
through a function that runs no faster than the clock does (`NoFaster`), such as
a sum that saturates. `Remembers` relates everything that was admitted to what
is kept, and `Budget` adds that no interval holds more than the limit. A budget
is kept by waiting, by forgetting, and by an admission that finds room.
-/

namespace ResumeIr.Foundation.SlidingWindow

/-- The kept times without those at the front that are a whole window old. -/
def prune (window now : Nat) (times : List Nat) : List Nat :=
  times.dropWhile fun time => decide (window ≤ now - time)

/-- The times of a log within one interval of a window's length. -/
def within (window from_ : Nat) (log : List Nat) : List Nat :=
  log.filter fun time => decide (from_ ≤ time ∧ time < from_ + window)

/-- A reading of the clock that runs no faster than the clock itself. -/
def NoFaster (reading : Nat → Nat) : Prop :=
  ∀ {a b : Nat}, a ≤ b → reading b - reading a ≤ b - a

/-- What is kept are the readings of the latest admissions, and every admission
that is not kept is a whole window old. -/
structure Remembers (reading : Nat → Nat) (window now : Nat) (log kept : List Nat) : Prop where
  split : ∃ gone latest, log = gone ++ latest ∧ kept = latest.map reading ∧
    ∀ time ∈ gone, time + window ≤ now
  past : ∀ time ∈ log, time ≤ now

/-- A log with no more than the limit in any interval, and what is kept of it. -/
structure Budget (reading : Nat → Nat) (window limit now : Nat) (log kept : List Nat) : Prop
    extends Remembers reading window now log kept where
  bounded : ∀ from_, (within window from_ log).length ≤ limit
  room : kept.length ≤ limit

variable {reading : Nat → Nat} {window limit now later : Nat} {log kept : List Nat}

theorem length_prune_le (window now : Nat) (times : List Nat) :
    (prune window now times).length ≤ times.length :=
  (List.dropWhile_sublist _).length_le

/-- What was forgotten earlier would be forgotten now. -/
theorem prune_prune (window : Nat) (passed : now ≤ later) (times : List Nat) :
    prune window later (prune window now times) = prune window later times := by
  induction times with
  | nil => rfl
  | cons time times ih =>
    by_cases old : window ≤ now - time
    · have still : window ≤ later - time := Nat.le_trans old (Nat.sub_le_sub_right passed _)
      simpa [prune, old, still] using ih
    · simp [prune, old]

theorem within_append (window from_ : Nat) (first second : List Nat) :
    within window from_ (first ++ second) = within window from_ first ++ within window from_ second :=
  List.filter_append _ _

theorem length_within_le (window from_ : Nat) (log : List Nat) :
    (within window from_ log).length ≤ log.length :=
  List.length_filter_le _ _

/-- A part of a log has no more within an interval than the log. -/
theorem length_within_le_append (window from_ : Nat) (first second : List Nat) :
    (within window from_ second).length ≤ (within window from_ (first ++ second)).length := by
  rw [within_append, List.length_append]
  omega

/-- What lies before an interval is not within it. -/
theorem within_eq_nil {from_ : Nat} (before : ∀ time ∈ log, time < from_) :
    within window from_ log = [] := by
  rw [within, List.filter_eq_nil_iff]
  intro time member
  have := before time member
  simp only [decide_eq_true_eq]
  omega

/-- What is pruned from readings are the readings of a front part that is old. -/
theorem prune_map (slow : NoFaster reading) (window now : Nat) :
    ∀ latest : List Nat, (∀ time ∈ latest, time ≤ now) →
      ∃ gone rest, latest = gone ++ rest ∧ (∀ time ∈ gone, time + window ≤ now) ∧
        prune window (reading now) (latest.map reading) = rest.map reading
  | [], _ => ⟨[], [], rfl, by simp, rfl⟩
  | time :: latest, past => by
      by_cases old : window ≤ reading now - reading time
      · obtain ⟨gone, rest, split, gone_old, pruned⟩ :=
          prune_map slow window now latest fun other member => past other (by simp [member])
        refine ⟨time :: gone, rest, by rw [split]; rfl, ?_, ?_⟩
        · intro other member
          rcases List.mem_cons.mp member with rfl | member
          · have before : other ≤ now := past other (by simp)
            have := slow before
            omega
          · exact gone_old other member
        · simpa [prune, old] using pruned
      · exact ⟨[], time :: latest, rfl, by simp, by simp [prune, old]⟩

theorem Remembers.empty (reading : Nat → Nat) (window now : Nat) :
    Remembers reading window now [] [] :=
  ⟨⟨[], [], rfl, rfl, by simp⟩, by simp⟩

theorem Remembers.wait (remembers : Remembers reading window now log kept) (passed : now ≤ later) :
    Remembers reading window later log kept := by
  obtain ⟨gone, latest, split, same, old⟩ := remembers.split
  refine ⟨⟨gone, latest, split, same, ?_⟩, ?_⟩
  · intro time member
    exact Nat.le_trans (old time member) passed
  · intro time member
    exact Nat.le_trans (remembers.past time member) passed

theorem Remembers.prune (slow : NoFaster reading) (remembers : Remembers reading window now log kept)
    (passed : now ≤ later) :
    Remembers reading window later log (prune window (reading later) kept) := by
  obtain ⟨gone, latest, rfl, rfl, old⟩ := (remembers.wait passed).split
  have past := (remembers.wait passed).past
  obtain ⟨older, rest, rfl, older_old, pruned⟩ := prune_map slow window later latest
    fun time member => past time (List.mem_append_right _ member)
  refine ⟨⟨gone ++ older, rest, (List.append_assoc _ _ _).symm, pruned, ?_⟩, past⟩
  intro time member
  rcases List.mem_append.mp member with member | member
  · exact old time member
  · exact older_old time member

theorem Remembers.push (remembers : Remembers reading window now log kept) :
    Remembers reading window now (log ++ [now]) (kept ++ [reading now]) := by
  obtain ⟨gone, latest, rfl, rfl, old⟩ := remembers.split
  refine ⟨⟨gone, latest ++ [now], List.append_assoc _ _ _, by simp, old⟩, ?_⟩
  intro time member
  rcases List.mem_append.mp member with member | member
  · exact remembers.past time member
  · simp_all

theorem Budget.empty (reading : Nat → Nat) (window limit now : Nat) :
    Budget reading window limit now [] [] :=
  ⟨.empty reading window now, by simp [within], by simp⟩

theorem Budget.wait (budget : Budget reading window limit now log kept) (passed : now ≤ later) :
    Budget reading window limit later log kept :=
  ⟨budget.toRemembers.wait passed, budget.bounded, budget.room⟩

theorem Budget.prune (slow : NoFaster reading) (budget : Budget reading window limit now log kept)
    (passed : now ≤ later) :
    Budget reading window limit later log (prune window (reading later) kept) :=
  ⟨budget.toRemembers.prune slow passed, budget.bounded,
    Nat.le_trans (length_prune_le _ _ _) budget.room⟩

/-- An admission that finds room keeps every interval within the limit: one that
contains the admission contains nothing that was forgotten. -/
theorem Budget.push (budget : Budget reading window limit now log kept)
    (free : kept.length < limit) :
    Budget reading window limit now (log ++ [now]) (kept ++ [reading now]) := by
  refine ⟨budget.toRemembers.push, ?_, by simpa using Nat.succ_le_of_lt free⟩
  intro from_
  by_cases inside : from_ ≤ now ∧ now < from_ + window
  · obtain ⟨gone, latest, rfl, rfl, old⟩ := budget.split
    have forgotten : within window from_ gone = [] := by
      apply within_eq_nil
      intro time member
      have := old time member
      omega
    have latest_le := length_within_le window from_ (latest ++ [now])
    rw [List.append_assoc, within_append, forgotten, List.nil_append]
    simp only [List.length_map, List.length_append, List.length_singleton] at free latest_le
    omega
  · have outside : within window from_ [now] = [] := by simp [within, inside]
    rw [within_append, outside, List.append_nil]
    exact budget.bounded from_

end ResumeIr.Foundation.SlidingWindow
