import Mathlib.Data.List.Forall2

/-!
# Computations over a state that can fail

`EStateM ε σ` is the monad of computations that read and write a state and may
stop with an error. The state written before a failure is kept, which is how a
method on a mutable receiver behaves when it returns early with an error.

Three small steps occur everywhere: a guard (`require`), an optional value that
must be present (`demand`) and a pure computation that can fail (`ofExcept` of
the library).
Each has one lemma that says when it succeeds and one equation for each way it
can go, so that a proof about a longer computation peels it apart from the
front with `run_bind_eq_ok`.

A property that each step of a computation keeps, however it ends, is kept by
the whole (`Preserves`). A preorder between states that contains every step that
succeeds contains the whole when it succeeds (`Within`), and wherever it ends if
a failure leaves the state alone (`Atomic`).

A transaction (`transaction`) undoes every write when its body fails, one whose
answer can ask for it undoes them then too (`transactionIf`), and a computation
on a part of a state is one on the whole that leaves the rest alone (`zoom`).
-/

namespace ResumeIr.Foundation.Fallible

variable {ε σ τ α β : Type}

/-! ## The steps -/

/-- Go on only when the condition holds. -/
def require (condition : Prop) [Decidable condition] (error : ε) : EStateM ε σ Unit :=
  if condition then pure () else throw error

/-- The value of an option, or the given error. -/
def demand (value : Option α) (error : ε) : EStateM ε σ α :=
  match value with
  | some a => pure a
  | none => throw error

/-- The state in which a computation ends, whether or not it fails. -/
def final (x : EStateM ε σ α) (s : σ) : σ :=
  match x.run s with
  | .ok _ t => t
  | .error _ t => t

/-- The answer of a computation, if it does not fail. -/
def answer (x : EStateM ε σ α) (s : σ) : Option α :=
  match x.run s with
  | .ok a _ => some a
  | .error _ _ => none

/-- A computation whose writes are undone when it fails. -/
def transaction (x : EStateM ε σ α) : EStateM ε σ α := fun s =>
  match x.run s with
  | .ok a t => .ok a t
  | .error e _ => .error e s

/-- A computation whose writes are undone when it fails, or when its answer does
not ask to keep them. -/
def transactionIf (keep : α → Bool) (x : EStateM ε σ α) : EStateM ε σ α := fun s =>
  match x.run s with
  | .ok a t => .ok a (if keep a then t else s)
  | .error e _ => .error e s

/-- A computation on a part of the state. -/
def zoom (part : σ → τ) (put : σ → τ → σ) (x : EStateM ε τ α) : EStateM ε σ α := fun s =>
  match x.run (part s) with
  | .ok a t => .ok a (put s t)
  | .error e t => .error e (put s t)

/-! ## Peeling a computation apart -/

variable {x : EStateM ε σ α} {f : α → EStateM ε σ β} {s t : σ} {b : β}

theorem run_bind_eq_ok :
    (x >>= f).run s = .ok b t ↔ ∃ a r, x.run s = .ok a r ∧ (f a).run r = .ok b t := by
  rw [EStateM.run_bind]
  cases x.run s with
  | ok a r =>
    constructor
    · intro rest
      exact ⟨a, r, rfl, rest⟩
    · rintro ⟨_, _, first, rest⟩
      cases first
      exact rest
  | error e r => simp

variable {a : α}

theorem run_bind_of_ok {s r : σ} (first : x.run s = .ok a r) : (x >>= f).run s = (f a).run r := by
  rw [EStateM.run_bind, first]

variable {e : ε}

theorem run_bind_of_error {s r : σ} (first : x.run s = .error e r) :
    (x >>= f).run s = .error e r := by
  rw [EStateM.run_bind, first]

/-- A sequence fails if its first part does, or the rest from there. -/
theorem run_bind_eq_error :
    (x >>= f).run s = .error e t ↔
      x.run s = .error e t ∨ ∃ a r, x.run s = .ok a r ∧ (f a).run r = .error e t := by
  cases first : x.run s with
  | ok a r => simp [run_bind_of_ok first]
  | error e' r => simp [run_bind_of_error first]

@[simp] theorem run_pure' (a : α) (s : σ) :
    (pure a : EStateM ε σ α).run s = .ok a s := rfl

@[simp] theorem run_throw' (e : ε) (s : σ) :
    (throw e : EStateM ε σ α).run s = .error e s := rfl

@[simp] theorem run_map_eq (f : α → β) (x : EStateM ε σ α) (s : σ) :
    (f <$> x).run s =
      match x.run s with
      | .ok a t => .ok (f a) t
      | .error e t => .error e t := rfl

variable {condition : Prop}

@[simp] theorem run_require [Decidable condition] (e : ε) (s : σ) :
    (require condition e : EStateM ε σ Unit).run s =
      if condition then .ok () s else .error e s := by
  unfold require
  split <;> rfl

theorem run_require_eq_ok [Decidable condition] {u : Unit} :
    (require condition e : EStateM ε σ Unit).run s = .ok u t ↔ condition ∧ s = t := by
  rw [run_require]
  split <;> simp [*]

theorem run_require_eq_error [Decidable condition] {e e' : ε} :
    (require condition e : EStateM ε σ Unit).run s = .error e' t ↔ ¬ condition ∧ e = e' ∧ s = t := by
  rw [run_require]
  split <;> simp [*]

@[simp] theorem run_demand_some (a : α) (e : ε) (s : σ) :
    (demand (some a) e : EStateM ε σ α).run s = .ok a s := rfl

@[simp] theorem run_demand_none (e : ε) (s : σ) :
    (demand none e : EStateM ε σ α).run s = .error e s := rfl

variable {value : Option α}

theorem run_demand_eq_ok :
    (demand value e : EStateM ε σ α).run s = .ok a t ↔ value = some a ∧ s = t := by
  cases value <;> simp

@[simp] theorem run_ofExcept_ok (a : α) (s : σ) :
    (ofExcept (.ok a) : EStateM ε σ α).run s = .ok a s := rfl

@[simp] theorem run_ofExcept_error (e : ε) (s : σ) :
    (ofExcept (.error e) : EStateM ε σ α).run s = .error e s := rfl

theorem run_ofExcept_eq_ok {value : Except ε α} :
    (ofExcept value : EStateM ε σ α).run s = .ok a t ↔ value = .ok a ∧ s = t := by
  cases value <;> simp

theorem answer_eq_some_iff : answer x s = some a ↔ ∃ t, x.run s = .ok a t := by
  unfold answer
  cases x.run s with
  | ok b t => simp
  | error e t => simp

theorem final_of_ok (done : x.run s = .ok a t) : final x s = t := by
  rw [final, done]

theorem final_of_error (failed : x.run s = .error e t) : final x s = t := by
  rw [final, failed]

@[simp] theorem final_get (s : σ) : final (get : EStateM ε σ σ) s = s := rfl

@[simp] theorem final_modify (f : σ → σ) (s : σ) :
    final (modify f : EStateM ε σ PUnit) s = f s := rfl

@[simp] theorem final_require (condition : Prop) [Decidable condition] (e : ε) (s : σ) :
    final (require condition e : EStateM ε σ Unit) s = s := by
  unfold require
  split <;> rfl

@[simp] theorem final_demand (value : Option α) (e : ε) (s : σ) :
    final (demand value e : EStateM ε σ α) s = s := by
  cases value <;> rfl

@[simp] theorem final_ofExcept (value : Except ε α) (s : σ) :
    final (ofExcept value : EStateM ε σ α) s = s := by
  cases value <;> rfl

theorem final_bind_of_ok {s r : σ} (first : x.run s = .ok a r) :
    final (x >>= f) s = final (f a) r := by
  simp only [final, run_bind_of_ok first]

theorem final_bind_of_error {s r : σ} (first : x.run s = .error e r) : final (x >>= f) s = r :=
  final_of_error (run_bind_of_error first)

/-- A continuation that never writes does not move the end state. -/
theorem final_bind_of_silent (silent : ∀ a t, final (f a) t = t) (s : σ) :
    final (x >>= f) s = final x s := by
  cases run : x.run s with
  | ok a t => rw [final_bind_of_ok run, silent, final_of_ok run]
  | error e t => rw [final_bind_of_error run, final_of_error run]

/-- After a step that never writes, a computation has stopped without a change
or goes on from the same state. -/
theorem final_bind_cases (silent : ∀ t, final x t = t) (s : σ) :
    final (x >>= f) s = s ∨ ∃ a, x.run s = .ok a s ∧ final (x >>= f) s = final (f a) s := by
  have same := silent s
  cases run : x.run s with
  | ok a t =>
    obtain rfl : t = s := (final_of_ok run).symm.trans same
    exact .inr ⟨a, rfl, final_bind_of_ok run⟩
  | error e t =>
    obtain rfl : t = s := (final_of_error run).symm.trans same
    exact .inl (final_bind_of_error run)

theorem run_modify_eq_ok {f : σ → σ} {u : PUnit} :
    (modify f : EStateM ε σ PUnit).run s = .ok u t ↔ f s = t := by
  constructor
  · intro done
    cases done
    rfl
  · rintro rfl
    rfl

theorem run_zoom_eq_ok {part : σ → τ} {put : σ → τ → σ} {x : EStateM ε τ α} :
    (zoom part put x).run s = .ok a t ↔ ∃ r, x.run (part s) = .ok a r ∧ t = put s r := by
  show (match x.run (part s) with
    | .ok b r => EStateM.Result.ok b (put s r)
    | .error e r => .error e (put s r)) = _ ↔ _
  cases x.run (part s) with
  | ok b r =>
    constructor
    · intro done
      cases done
      exact ⟨r, rfl, rfl⟩
    · rintro ⟨_, done, rfl⟩
      cases done
      rfl
  | error e r => simp

theorem run_zoom_of_error {part : σ → τ} {put : σ → τ → σ} {x : EStateM ε τ α} {t : τ}
    (failed : x.run (part s) = .error e t) : (zoom part put x).run s = .error e (put s t) := by
  show (match x.run (part s) with
    | .ok b r => EStateM.Result.ok b (put s r)
    | .error e r => .error e (put s r)) = _
  rw [failed]

/-! What a step at the front of a computation lets the rest start with. -/

theorem run_get_bind {f : σ → EStateM ε σ β} : (get >>= f).run s = (f s).run s := rfl

theorem run_modify_bind {g : σ → σ} {f : PUnit → EStateM ε σ β} :
    (modify g >>= f).run s = (f ()).run (g s) := rfl

theorem run_require_bind_eq_ok [Decidable condition] {f : Unit → EStateM ε σ β} :
    (require condition e >>= f).run s = .ok b t ↔ condition ∧ (f ()).run s = .ok b t := by
  rw [run_bind_eq_ok]
  constructor
  · rintro ⟨_, _, checked, rest⟩
    obtain ⟨held, rfl⟩ := run_require_eq_ok.mp checked
    exact ⟨held, rest⟩
  · rintro ⟨held, rest⟩
    exact ⟨(), s, run_require_eq_ok.mpr ⟨held, rfl⟩, rest⟩

theorem run_demand_bind_eq_ok :
    (demand value e >>= f).run s = .ok b t ↔ ∃ a, value = some a ∧ (f a).run s = .ok b t := by
  rw [run_bind_eq_ok]
  constructor
  · rintro ⟨a, _, present, rest⟩
    obtain ⟨there, rfl⟩ := run_demand_eq_ok.mp present
    exact ⟨a, there, rest⟩
  · rintro ⟨a, there, rest⟩
    exact ⟨a, s, run_demand_eq_ok.mpr ⟨there, rfl⟩, rest⟩

theorem run_ofExcept_bind_eq_ok {value : Except ε α} :
    (ofExcept value >>= f).run s = .ok b t ↔ ∃ a, value = .ok a ∧ (f a).run s = .ok b t := by
  rw [run_bind_eq_ok]
  constructor
  · rintro ⟨a, _, passed, rest⟩
    obtain ⟨there, rfl⟩ := run_ofExcept_eq_ok.mp passed
    exact ⟨a, there, rest⟩
  · rintro ⟨a, there, rest⟩
    exact ⟨a, s, run_ofExcept_eq_ok.mpr ⟨there, rfl⟩, rest⟩

theorem run_zoom_bind_eq_ok {part : σ → τ} {put : σ → τ → σ} {x : EStateM ε τ α} :
    (zoom part put x >>= f).run s = .ok b t ↔
      ∃ a r, x.run (part s) = .ok a r ∧ (f a).run (put s r) = .ok b t := by
  rw [run_bind_eq_ok]
  constructor
  · rintro ⟨a, _, zoomed, rest⟩
    obtain ⟨r, inside, rfl⟩ := run_zoom_eq_ok.mp zoomed
    exact ⟨a, r, inside, rest⟩
  · rintro ⟨a, r, inside, rest⟩
    exact ⟨a, _, run_zoom_eq_ok.mpr ⟨r, inside, rfl⟩, rest⟩

/-- Collecting the results of a partial function gives one result for each
element. -/
theorem length_of_mapM_eq_some {f : α → Option β} :
    ∀ {xs : List α} {ys : List β}, xs.mapM f = some ys → ys.length = xs.length
  | [], ys, collected => by
      rw [List.mapM_nil] at collected
      cases collected
      rfl
  | x :: xs, ys, collected => by
      rw [List.mapM_cons] at collected
      obtain ⟨y, _, rest⟩ := Option.bind_eq_some_iff.mp collected
      obtain ⟨tail, found, rest⟩ := Option.bind_eq_some_iff.mp rest
      cases rest
      simp [length_of_mapM_eq_some found]

/-! ## Properties kept by a computation -/

/-- Every way a computation can end leaves the property as it was. -/
def Preserves (holdsAt : σ → Prop) (x : EStateM ε σ α) : Prop :=
  ∀ s, holdsAt s → holdsAt (final x s)

namespace Preserves

variable {holdsAt : σ → Prop}

/-- A step that never writes keeps every property. -/
theorem of_final_eq (same : ∀ s, final x s = s) : Preserves holdsAt x := by
  intro s held
  rw [same]
  exact held

theorem bind (first : Preserves holdsAt x) (rest : ∀ a, Preserves holdsAt (f a)) :
    Preserves holdsAt (x >>= f) := by
  intro s held
  have reached := first s held
  cases run : x.run s with
  | ok a t =>
    rw [final_of_ok run] at reached
    rw [final_bind_of_ok run]
    exact rest a t reached
  | error e t =>
    rw [final_of_error run] at reached
    rw [final_bind_of_error run]
    exact reached

theorem ite [Decidable condition] {x y : EStateM ε σ α} (yes : condition → Preserves holdsAt x)
    (no : ¬ condition → Preserves holdsAt y) : Preserves holdsAt (if condition then x else y) := by
  split
  · exact yes ‹_›
  · exact no ‹_›

end Preserves

/-! ## What a computation that succeeds does to the state -/

/-- A property passed on from one state to another. -/
def Keeps (holdsAt : σ → Prop) (s t : σ) : Prop := holdsAt s → holdsAt t

instance (holdsAt : σ → Prop) : IsPreorder σ (Keeps holdsAt) where
  refl _ held := held
  trans _ _ _ first second held := second (first held)

/-- A computation that succeeds relates the state it started in to the one it ends
in. -/
def Within (related : σ → σ → Prop) (x : EStateM ε σ α) : Prop :=
  ∀ s a t, x.run s = .ok a t → related s t

/-- A computation that fails leaves the state as it was. -/
def Atomic (x : EStateM ε σ α) : Prop :=
  ∀ s e t, x.run s = .error e t → t = s

namespace Within

variable {related : σ → σ → Prop}

theorem write {f : σ → σ} (step : ∀ s, related s (f s)) :
    Within related (modify f : EStateM ε σ PUnit) := by
  intro s a t done
  rw [← run_modify_eq_ok.mp done]
  exact step s

theorem mono {wider : σ → σ → Prop} (inside : Within related x)
    (weaken : ∀ s t, related s t → wider s t) : Within wider x :=
  fun s a t done => weaken s t (inside s a t done)

theorem ite [Decidable condition] {x y : EStateM ε σ α} (yes : condition → Within related x)
    (no : ¬ condition → Within related y) : Within related (if condition then x else y) := by
  split
  · exact yes ‹_›
  · exact no ‹_›

theorem get_bind {f : σ → EStateM ε σ β} (rest : ∀ s, Within related (f s)) :
    Within related (get >>= f) :=
  fun s b t done => rest s s b t done

theorem require_bind [Decidable condition] {f : Unit → EStateM ε σ β}
    (rest : condition → Within related (f ())) : Within related (require condition e >>= f) := by
  intro s b t done
  obtain ⟨held, going⟩ := run_require_bind_eq_ok.mp done
  exact rest held s b t going

theorem demand_bind (rest : ∀ a, value = some a → Within related (f a)) :
    Within related (demand value e >>= f) := by
  intro s b t done
  obtain ⟨a, there, going⟩ := run_demand_bind_eq_ok.mp done
  exact rest a there s b t going

theorem ofExcept_bind {value : Except ε α} (rest : ∀ a, value = .ok a → Within related (f a)) :
    Within related (ofExcept value >>= f) := by
  intro s b t done
  obtain ⟨a, there, going⟩ := run_ofExcept_bind_eq_ok.mp done
  exact rest a there s b t going

variable [IsPreorder σ related]

theorem pure (a : α) : Within related (Pure.pure a : EStateM ε σ α) := by
  intro s b t done
  cases done
  exact refl_of related s

theorem require (condition : Prop) [Decidable condition] (e : ε) :
    Within related (require condition e : EStateM ε σ Unit) := by
  intro s u t done
  obtain ⟨_, rfl⟩ := run_require_eq_ok.mp done
  exact refl_of related s

theorem bind (first : Within related x) (rest : ∀ a, Within related (f a)) :
    Within related (x >>= f) := by
  intro s b t done
  obtain ⟨a, r, begun, going⟩ := run_bind_eq_ok.mp done
  exact trans_of related (first s a r begun) (rest a r b t going)

theorem write_bind {f : σ → σ} {g : PUnit → EStateM ε σ β} (step : ∀ s, related s (f s))
    (rest : Within related (g ⟨⟩)) : Within related (modify f >>= g) :=
  bind (write step) fun _ => rest

/-- Where a computation that leaves the state alone on failure ends. -/
theorem final (inside : Within related x) (atomic : Atomic x) (s : σ) : related s (final x s) := by
  cases run : x.run s with
  | ok a t =>
    rw [final_of_ok run]
    exact inside s a t run
  | error e t =>
    rw [final_of_error run, atomic s e t run]
    exact refl_of related s

end Within

/-! ## Checks without a state -/

section Checks

/-- Go on only if a condition holds. -/
def check (condition : Prop) [Decidable condition] (e : ε) : Except ε Unit :=
  if condition then .ok () else .error e

/-- Go on with a value that must be present. -/
def present (value : Option α) (e : ε) : Except ε α :=
  match value with
  | some a => .ok a
  | none => .error e

theorem bind_ok_iff {x : Except ε α} {f : α → Except ε β} :
    (x >>= f) = .ok b ↔ ∃ a, x = .ok a ∧ f a = .ok b := by
  cases x with
  | ok a =>
    constructor
    · intro rest
      exact ⟨a, rfl, rest⟩
    · rintro ⟨_, ⟨⟩, rest⟩
      exact rest
  | error e =>
    constructor
    · intro stopped
      cases stopped
    · rintro ⟨_, ⟨⟩, _⟩

/-- A chain stops with an error at its first part, or later. -/
theorem bind_error_iff {x : Except ε α} {f : α → Except ε β} :
    (x >>= f) = .error e ↔ x = .error e ∨ ∃ a, x = .ok a ∧ f a = .error e := by
  cases x with
  | ok a =>
    constructor
    · intro rest
      exact .inr ⟨a, rfl, rest⟩
    · rintro (⟨⟨⟩⟩ | ⟨_, ⟨⟩, rest⟩)
      exact rest
  | error first =>
    constructor
    · intro stopped
      cases stopped
      exact .inl rfl
    · rintro (⟨⟨⟩⟩ | ⟨_, ⟨⟩, _⟩)
      rfl

theorem check_eq_ok [Decidable condition] {u : Unit} : check condition e = .ok u ↔ condition := by
  unfold check
  split
  · simp [*]
  · simp [*]

theorem check_bind_eq_ok [Decidable condition] {f : Unit → Except ε β} :
    (check condition e >>= f) = .ok b ↔ condition ∧ f () = .ok b := by
  rw [bind_ok_iff]
  constructor
  · rintro ⟨_, passed, rest⟩
    exact ⟨check_eq_ok.mp passed, rest⟩
  · rintro ⟨held, rest⟩
    exact ⟨(), check_eq_ok.mpr held, rest⟩

theorem present_eq_ok : present value e = .ok a ↔ value = some a := by
  cases value with
  | none | some b => simp [present]

theorem toOption_eq_some {x : Except ε α} : x.toOption = some a ↔ x = .ok a := by
  cases x with
  | ok b | error e => simp [Except.toOption]

/-- In two lists related element by element, every element on the left has a
partner on the right. -/
theorem exists_related_right {related : α → β → Prop} {left : List α} {right : List β}
    (pairs : List.Forall₂ related left right) (member : a ∈ left) : ∃ b ∈ right, related a b := by
  induction pairs with
  | nil => cases member
  | cons here _ ih =>
    cases member with
    | head => exact ⟨_, List.mem_cons_self, here⟩
    | tail _ later =>
      obtain ⟨b, there, known⟩ := ih later
      exact ⟨b, List.mem_cons_of_mem _ there, known⟩

theorem exists_related_left {related : α → β → Prop} {left : List α} {right : List β}
    (pairs : List.Forall₂ related left right) (member : b ∈ right) : ∃ a ∈ left, related a b :=
  exists_related_right (List.Forall₂.flip (R := fun b a => related a b) pairs) member

/-- Searches that agree on related elements find related ones. -/
theorem find?_related {related : α → β → Prop} {left : List α} {right : List β} {p : α → Bool}
    {q : β → Bool} (pairs : List.Forall₂ related left right)
    (agree : ∀ a b, related a b → p a = q b) :
    (left.find? p = none ∧ right.find? q = none) ∨
      ∃ a b, left.find? p = some a ∧ right.find? q = some b ∧ related a b := by
  induction pairs with
  | nil => exact .inl ⟨rfl, rfl⟩
  | cons here _ ih =>
    rw [List.find?_cons, List.find?_cons, agree _ _ here]
    split
    · exact .inr ⟨_, _, rfl, rfl, here⟩
    · exact ih

/-- A list is mapped when each of its elements is. -/
theorem mapM_eq_ok {f : α → Except ε β} {inputs : List α} {results : List β} :
    inputs.mapM f = .ok results ↔ List.Forall₂ (fun a b => f a = .ok b) inputs results := by
  induction inputs generalizing results with
  | nil =>
    rw [List.forall₂_nil_left_iff]
    constructor
    · rintro ⟨⟩
      rfl
    · rintro rfl
      rfl
  | cons input rest ih =>
    simp only [List.mapM_cons, bind_ok_iff, ih, List.forall₂_cons_left_iff]
    constructor
    · rintro ⟨result, first, others, later, ⟨⟩⟩
      exact ⟨result, others, first, later, rfl⟩
    · rintro ⟨result, others, first, later, rfl⟩
      exact ⟨result, first, others, later, rfl⟩

theorem exists_mapM_eq_ok {f : α → Except ε β} {inputs : List α}
    (each : ∀ a ∈ inputs, ∃ b, f a = .ok b) : ∃ results, inputs.mapM f = .ok results := by
  induction inputs with
  | nil => exact ⟨[], rfl⟩
  | cons input rest ih =>
    obtain ⟨result, known⟩ := each input List.mem_cons_self
    obtain ⟨others, later⟩ := ih fun a member => each a (List.mem_cons_of_mem _ member)
    exact ⟨result :: others, mapM_eq_ok.mpr (.cons known (mapM_eq_ok.mp later))⟩

end Checks

/-! ## Transactions -/

theorem run_transaction_of_ok (done : x.run s = .ok a t) : (transaction x).run s = .ok a t := by
  simp only [transaction, EStateM.run] at done ⊢
  rw [done]

theorem run_transaction_of_error (failed : x.run s = .error e t) :
    (transaction x).run s = .error e s := by
  simp only [transaction, EStateM.run] at failed ⊢
  rw [failed]

theorem run_transaction_eq_ok : (transaction x).run s = .ok a t ↔ x.run s = .ok a t := by
  cases body : x.run s with
  | ok b r => rw [run_transaction_of_ok body]
  | error e r => simp [run_transaction_of_error body]

theorem run_transaction_eq_error :
    (transaction x).run s = .error e t ↔ (∃ r, x.run s = .error e r) ∧ s = t := by
  cases body : x.run s with
  | ok b r => simp [run_transaction_of_ok body]
  | error e' r => simp [run_transaction_of_error body]

/-- A call that is a transaction succeeds, or fails where it started. -/
theorem run_of_transaction {y x : EStateM ε σ α} (atomic : y = transaction x) (s : σ) :
    (∃ a t, y.run s = .ok a t) ∨ ∃ e, y.run s = .error e s := by
  subst atomic
  cases body : x.run s with
  | ok a t => exact .inl ⟨a, t, run_transaction_of_ok body⟩
  | error e t => exact .inr ⟨e, run_transaction_of_error body⟩

/-- A call that is a transaction ends where it started unless it succeeds. -/
theorem final_of_transaction {y x : EStateM ε σ α} (atomic : y = transaction x) (s : σ) :
    final y s = s ∨ ∃ a, y.run s = .ok a (final y s) := by
  obtain ⟨a, t, done⟩ | ⟨e, failed⟩ := run_of_transaction atomic s
  · exact .inr ⟨a, by rw [final_of_ok done, done]⟩
  · exact .inl (final_of_error failed)

theorem run_transactionIf_eq_ok {keep : α → Bool} :
    (transactionIf keep x).run s = .ok a t ↔
      ∃ r, x.run s = .ok a r ∧ t = if keep a then r else s := by
  show (match x.run s with
    | .ok b r => EStateM.Result.ok b (if keep b then r else s)
    | .error e _ => .error e s) = _ ↔ _
  cases x.run s with
  | ok b r =>
    constructor
    · intro done
      cases done
      exact ⟨r, rfl, rfl⟩
    · rintro ⟨_, done, rfl⟩
      cases done
      rfl
  | error e r => simp

/-- A transaction that is not kept changes nothing. -/
theorem run_transactionIf_cases {keep : α → Bool} (done : (transactionIf keep x).run s = .ok a t) :
    (keep a = false ∧ t = s) ∨ (keep a = true ∧ x.run s = .ok a t) := by
  obtain ⟨r, body, rfl⟩ := run_transactionIf_eq_ok.mp done
  cases keep a with
  | false => exact .inl ⟨rfl, rfl⟩
  | true => exact .inr ⟨rfl, body⟩

theorem Within.transaction {related : σ → σ → Prop} (inside : Within related x) :
    Within related (transaction x) :=
  fun s a t done => inside s a t (run_transaction_eq_ok.mp done)

theorem Within.transactionIf {related : σ → σ → Prop} [IsPreorder σ related] {keep : α → Bool}
    (inside : Within related x) : Within related (transactionIf keep x) := by
  intro s a t done
  obtain ⟨r, body, rfl⟩ := run_transactionIf_eq_ok.mp done
  split
  · exact inside s a r body
  · exact refl_of related s

/-! ## Computations that leave the state alone when they fail -/

namespace Atomic

/-- Such a computation ends where it started, or where it ends when it succeeds. -/
theorem final_cases (atomic : Atomic x) {holdsAt : σ → Prop} (same : holdsAt s)
    (done : ∀ a t, x.run s = .ok a t → holdsAt t) : holdsAt (final x s) := by
  cases run : x.run s with
  | ok a t =>
    rw [final_of_ok run]
    exact done a t run
  | error e t =>
    rw [final_of_error run, atomic s e t run]
    exact same

theorem final_eq (atomic : Atomic x) (done : ∀ a t, x.run s = .ok a t → t = s) : final x s = s := by
  cases run : x.run s with
  | ok a t => rw [final_of_ok run, done a t run]
  | error e t => rw [final_of_error run, atomic s e t run]

theorem transaction (x : EStateM ε σ α) : Atomic (transaction x) := by
  intro s e t failed
  obtain ⟨a, r, done⟩ | ⟨e', stopped⟩ := run_of_transaction (y := Fallible.transaction x) rfl s
  · rw [done] at failed
    cases failed
  · rw [stopped] at failed
    cases failed
    rfl

theorem transactionIf (keep : α → Bool) (x : EStateM ε σ α) : Atomic (transactionIf keep x) := by
  intro s e t failed
  simp only [Fallible.transactionIf, EStateM.run] at failed
  split at failed
  · cases failed
  · cases failed
    rfl

theorem write (f : σ → σ) : Atomic (modify f : EStateM ε σ PUnit) := by
  intro s e t failed
  cases failed

/-- A step that never writes may come first. -/
theorem silent_bind (silent : ∀ s, final x s = s) (rest : ∀ a, Atomic (f a)) :
    Atomic (x >>= f) := by
  intro s e t failed
  have same := silent s
  cases run : x.run s with
  | ok a r =>
    obtain rfl : r = s := (final_of_ok run).symm.trans same
    rw [run_bind_of_ok run] at failed
    exact rest a r e t failed
  | error e' r =>
    rw [run_bind_of_error run] at failed
    cases failed
    exact (final_of_error run).symm.trans same

/-- A step that never fails may come last. -/
theorem bind_pure (first : Atomic x) (f : α → β) : Atomic (x >>= fun a => Pure.pure (f a)) := by
  intro s e t failed
  cases run : x.run s with
  | ok a r =>
    rw [run_bind_of_ok run] at failed
    cases failed
  | error e' r =>
    rw [run_bind_of_error run] at failed
    cases failed
    exact first s _ _ run

end Atomic

end ResumeIr.Foundation.Fallible
