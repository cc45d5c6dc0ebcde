import Mathlib.Logic.Relation

/-!
# Machines and their runs

A machine has start states and labelled steps between states. A run is a list
of labels together with the states it leads through, and a state is reachable
when some run from a start state ends in it.

Every safety statement of the development is an instance of one rule: a
property that holds at the start and is kept by each step holds in every
reachable state (`Inductive.holds`). A second rule covers statements about two
moments of one run: a reflexive and transitive relation between states that
contains every step relates the two ends of every run (`Run.relates`).

What the steps of a run record, in order, is its log (`Machine.Logs`). Each run
has one.

A machine can be restricted to the steps that meet a condition
(`Machine.restrict`). The runs of the restricted machine are the runs of the
machine in which every step meets the condition. Steps can also be excluded by
where they lead (`Machine.avoiding`).
-/

namespace ResumeIr.Foundation

universe u v

/-- What holds of the entries of a log holds of one more. -/
theorem forall_mem_concat {α : Type u} {p : α → Prop} {log : List α} {entry : α}
    (old : ∀ other ∈ log, p other) (new : p entry) : ∀ other ∈ log ++ [entry], p other :=
  List.forall_mem_append.mpr ⟨old, List.forall_mem_singleton.mpr new⟩

/-- Start states and labelled steps. -/
structure Machine (σ : Type u) (ε : Type v) where
  start : σ → Prop
  step : σ → ε → σ → Prop

namespace Machine

variable {σ : Type u} {ε : Type v} {M : Machine σ ε}

/-- A run from one state to another, with the labels of its steps in order. -/
inductive Run (M : Machine σ ε) : σ → List ε → σ → Prop where
  | nil (s : σ) : Run M s [] s
  | snoc {s t u : σ} {events : List ε} {event : ε} :
      Run M s events t → M.step t event u → Run M s (events ++ [event]) u

/-- A run together with what each of its steps records, in order. -/
inductive Logs {α : Type*} (M : Machine σ ε) (record : σ → ε → List α) :
    σ → List ε → List α → σ → Prop where
  | nil (s : σ) : Logs M record s [] [] s
  | snoc {s t u : σ} {events : List ε} {log : List α} {event : ε} :
      Logs M record s events log t → M.step t event u →
        Logs M record s (events ++ [event]) (log ++ record t event) u

/-- The end of some run from a start state. -/
def Reachable (M : Machine σ ε) (t : σ) : Prop :=
  ∃ s events, M.start s ∧ M.Run s events t

/-- A property that holds at the start and is kept by every step. -/
structure Inductive (M : Machine σ ε) (holdsAt : σ → Prop) : Prop where
  start : ∀ {s}, M.start s → holdsAt s
  step : ∀ {s event t}, holdsAt s → M.step s event t → holdsAt t

/-- The machine that takes only the steps that meet a condition. -/
def restrict (M : Machine σ ε) (allowed : σ → ε → Prop) : Machine σ ε where
  start := M.start
  step s event t := allowed s event ∧ M.step s event t

/-- The machine without some of its steps. -/
def avoiding (M : Machine σ ε) (bad : σ → ε → σ → Prop) : Machine σ ε where
  start := M.start
  step s event t := M.step s event t ∧ ¬ bad s event t

/-- Whether a test of the steps passes all along a list of events. -/
def playable (after : σ → ε → σ) (permits : σ → ε → Bool) : σ → List ε → Bool
  | _, [] => true
  | s, event :: events => permits s event && playable after permits (after s event) events

theorem Reachable.start {s : σ} (first : M.start s) : M.Reachable s :=
  ⟨s, [], first, .nil s⟩

theorem Reachable.next {s t : σ} {event : ε} (reachable : M.Reachable s)
    (step : M.step s event t) : M.Reachable t := by
  obtain ⟨first, events, starts, run⟩ := reachable
  exact ⟨first, events ++ [event], starts, run.snoc step⟩

/-- The states that a function of the steps leads through. -/
theorem Reachable.foldl {after : σ → ε → σ} {events : List ε}
    (step : ∀ s, ∀ event ∈ events, M.step s event (after s event)) {s : σ}
    (reachable : M.Reachable s) : M.Reachable (events.foldl after s) := by
  induction events generalizing s with
  | nil => exact reachable
  | cons event rest ih =>
    exact ih (fun s later member => step s later (List.mem_cons_of_mem _ member))
      (reachable.next (step s event List.mem_cons_self))

namespace Run

theorem single {s t : σ} {event : ε} (step : M.step s event t) : M.Run s [event] t :=
  (Run.nil s).snoc step

theorem append {s t u : σ} {first second : List ε} (earlier : M.Run s first t)
    (later : M.Run t second u) : M.Run s (first ++ second) u := by
  induction later with
  | nil => simpa using earlier
  | snoc _ step ih =>
    rw [← List.append_assoc]
    exact ih.snoc step

theorem cons {s t u : σ} {event : ε} {events : List ε} (step : M.step s event t)
    (later : M.Run t events u) : M.Run s (event :: events) u := by
  simpa using (single step).append later

theorem reachable {s t : σ} {events : List ε} (run : M.Run s events t)
    (from_ : M.Reachable s) : M.Reachable t := by
  obtain ⟨first, earlier, starts, before⟩ := from_
  exact ⟨first, earlier ++ events, starts, before.append run⟩

/-- The run through the states that a function of the steps leads to, where a test of the
steps passes. -/
theorem play {after : σ → ε → σ} {permits : σ → ε → Bool}
    (step : ∀ {s event}, permits s event = true → M.step s event (after s event)) :
    ∀ {events : List ε} {s : σ}, playable after permits s events = true →
      M.Run s events (events.foldl after s)
  | [], s, _ => .nil s
  | _ :: _, _, passed => by
      obtain ⟨here, later⟩ := Bool.and_eq_true_iff.mp passed
      exact .cons (step here) (play step later)

/-- A property kept by every step is kept by every run. -/
theorem keeps {holdsAt : σ → Prop}
    (step : ∀ {s event t}, holdsAt s → M.step s event t → holdsAt t)
    {s t : σ} {events : List ε} (run : M.Run s events t) (first : holdsAt s) : holdsAt t := by
  induction run with
  | nil => exact first
  | snoc _ last ih => exact step ih last

/-- A reflexive and transitive relation that contains every step relates the
ends of every run. -/
theorem relates {related : σ → σ → Prop} (refl : ∀ s, related s s)
    (trans : ∀ {s t u}, related s t → related t u → related s u)
    (step : ∀ {s event t}, M.step s event t → related s t)
    {s t : σ} {events : List ε} (run : M.Run s events t) : related s t := by
  induction run with
  | nil => exact refl _
  | snoc _ last ih => exact trans ih (step last)

/-- A cost that every step lowers bounds the length of every run. -/
theorem length_add_cost_le {cost : σ → Nat}
    (falls : ∀ {s event t}, M.step s event t → cost t < cost s)
    {s t : σ} {events : List ε} (run : M.Run s events t) : events.length + cost t ≤ cost s := by
  induction run with
  | nil => simp
  | snoc _ last ih =>
    have fallen := falls last
    simp only [List.length_append, List.length_singleton]
    omega

/-- A run whose steps all meet a condition is a run of the machine. -/
theorem of_restrict {allowed : σ → ε → Prop} {s t : σ} {events : List ε}
    (run : (M.restrict allowed).Run s events t) : M.Run s events t := by
  induction run with
  | nil => exact .nil _
  | snoc _ last ih => exact ih.snoc last.2

theorem logs {α : Type*} (record : σ → ε → List α) {s t : σ} {events : List ε}
    (run : M.Run s events t) : ∃ log, M.Logs record s events log t := by
  induction run with
  | nil => exact ⟨[], .nil _⟩
  | snoc _ last ih =>
    obtain ⟨log, earlier⟩ := ih
    exact ⟨_, earlier.snoc last⟩

end Run

theorem Logs.run {α : Type*} {record : σ → ε → List α} {s t : σ} {events : List ε} {log : List α}
    (logged : M.Logs record s events log t) : M.Run s events t := by
  induction logged with
  | nil => exact .nil _
  | snoc _ last ih => exact ih.snoc last

/-- **The invariant rule.** A property that holds at the start and is kept by
every step holds in every reachable state. -/
theorem Inductive.holds {holdsAt : σ → Prop} (inductive_ : M.Inductive holdsAt) {t : σ}
    (reachable : M.Reachable t) : holdsAt t := by
  obtain ⟨s, events, starts, run⟩ := reachable
  exact run.keeps inductive_.step (inductive_.start starts)

theorem Reachable.of_avoiding {bad : σ → ε → σ → Prop} {t : σ}
    (reachable : (M.avoiding bad).Reachable t) : M.Reachable t := by
  have known : (M.avoiding bad).Inductive M.Reachable :=
    ⟨fun starts => .start starts, fun earlier step => earlier.next step.1⟩
  exact known.holds reachable

/-- An invariant may use the invariants already established. -/
theorem Inductive.strengthen {known holdsAt : σ → Prop} (given : M.Inductive known)
    (start : ∀ {s}, M.start s → holdsAt s)
    (step : ∀ {s event t}, known s → holdsAt s → M.step s event t → holdsAt t) :
    M.Inductive fun s => known s ∧ holdsAt s where
  start first := ⟨given.start first, start first⟩
  step held taken := ⟨given.step held.1 taken, step held.1 held.2 taken⟩

end Machine

end ResumeIr.Foundation
