import Mathlib.Algebra.Group.Nat.Defs
import Mathlib.Data.List.Count
import Mathlib.Data.List.Perm.Basic
import ResumeIr.Foundation.Machine

/-!
# Admission permits

A request is admitted under a permit, which counts it in two counters: one for its class
and one for all. The permit is shared by whoever has the request (the client that
dispatches it, the queue, the worker, the deadline scheduler, a cancel): each has a handle.
The first that releases the permit takes the request out of the counters, and the last
handle that is dropped does so if nobody has.

The counters are changed one at a time, and the threads are interleaved between any two
changes. An operation that has changed one of them and not yet the other is listed in the
state (`Operation`). Threads may use their handles in any way: a machine step is one
change by any of them.

The counters count the permits that nobody has released and the operations that are under
way (`Balanced`).
-/

namespace ResumeIr.Daemon.SearchService

open Foundation

inductive ClientClass where
  | interactiveGui
  | codexValidation
  | benchmark
  | background
  deriving DecidableEq

def ClientClass.inFlightLimit : ClientClass → Nat
  | .interactiveGui => 8
  | .codexValidation => 2
  | .benchmark => 8
  | .background => 4

def totalInFlightLimit : Nat := 16

/-- A permit with the number of its handles. -/
structure AdmissionPermit where
  clientClass : ClientClass
  released : Bool
  handles : Nat

/-- Some handle is left. -/
def AdmissionPermit.live (permit : AdmissionPermit) : Bool := permit.handles != 0

/-- Where a thread is that has begun to acquire or to give back a permit. -/
inductive Operation where
  /-- `acquire` has raised the counter of the class. -/
  | counting (clientClass : ClientClass)
  /-- `acquire` has raised both counters. -/
  | granting (clientClass : ClientClass)
  /-- `acquire` has found too many requests in flight. -/
  | refusing (clientClass : ClientClass)
  /-- The last handle is gone. -/
  | dropping (permit : Nat) (clientClass : ClientClass)
  /-- The permit has been marked as released. -/
  | lowering (clientClass : ClientClass)
  /-- The total has been lowered. -/
  | loweringClass (clientClass : ClientClass)
  deriving DecidableEq

structure AdmissionState where
  total : Nat
  byClass : ClientClass → Nat
  permits : List AdmissionPermit
  operations : List Operation

inductive AdmissionEvent where
  | acquire (clientClass : ClientClass)
  | clone (permit : Nat)
  | release (permit : Nat)
  | drop (permit : Nat)
  | proceed (operation : Operation)

/-- `fetch_sub` wraps around. -/
def fetchSub (counter : Nat) : Nat := if counter = 0 then 2 ^ 64 - 1 else counter - 1

namespace AdmissionState

def new : AdmissionState := ⟨0, fun _ => 0, [], []⟩

variable (s : AdmissionState)

def setClass (clientClass : ClientClass) (count : Nat) : AdmissionState :=
  { s with byClass := Function.update s.byClass clientClass count }

def begin (operation : Operation) : AdmissionState :=
  { s with operations := operation :: s.operations }

/-- A permit is marked as released by the first that asks for it. -/
def markReleased (index : Nat) (permit : AdmissionPermit) : AdmissionState :=
  if permit.released then s
  else
    { s with permits := s.permits.set index { permit with released := true } }.begin
      (.lowering permit.clientClass)

/-- The next change of an operation that is under way. -/
def perform : Operation → AdmissionState
  | .counting clientClass =>
      if s.total < totalInFlightLimit then
        { s with total := s.total + 1 }.begin (.granting clientClass)
      else s.begin (.refusing clientClass)
  | .granting clientClass => { s with permits := s.permits ++ [⟨clientClass, false, 1⟩] }
  | .refusing clientClass => s.setClass clientClass (fetchSub (s.byClass clientClass))
  | .dropping index _ =>
      match s.permits[index]? with
      | some permit => s.markReleased index permit
      | none => s
  | .lowering clientClass =>
      { s with total := fetchSub s.total }.begin (.loweringClass clientClass)
  | .loweringClass clientClass => s.setClass clientClass (fetchSub (s.byClass clientClass))

/-- One change. A permit without handles cannot be used. -/
def after : AdmissionEvent → AdmissionState
  | .acquire clientClass =>
      if s.byClass clientClass < clientClass.inFlightLimit then
        (s.setClass clientClass (s.byClass clientClass + 1)).begin (.counting clientClass)
      else s
  | .clone index =>
      match s.permits[index]? with
      | some permit =>
          if permit.live then
            { s with permits := s.permits.set index { permit with handles := permit.handles + 1 } }
          else s
      | none => s
  | .release index =>
      match s.permits[index]? with
      | some permit => if permit.live then s.markReleased index permit else s
      | none => s
  | .drop index =>
      match s.permits[index]? with
      | some permit =>
          if permit.handles = 0 then s
          else
            let s := { s with
              permits := s.permits.set index { permit with handles := permit.handles - 1 } }
            if permit.handles = 1 then s.begin (.dropping index permit.clientClass) else s
      | none => s
  | .proceed operation =>
      if operation ∈ s.operations then
        { s with operations := s.operations.erase operation }.perform operation
      else s

end AdmissionState

def admissionMachine : Machine AdmissionState AdmissionEvent where
  start s := s = .new
  step s event t := t = s.after event

/-! ## What the counters count -/

/-- The operations that are counted in the total. -/
def Operation.inTotal : Operation → Bool
  | .granting _ => true
  | .lowering _ => true
  | _ => false

/-- The operations that are counted in a class. -/
def Operation.inClass (clientClass : ClientClass) : Operation → Bool
  | .counting other => other = clientClass
  | .granting other => other = clientClass
  | .refusing other => other = clientClass
  | .lowering other => other = clientClass
  | .loweringClass other => other = clientClass
  | .dropping _ _ => false

def AdmissionPermit.inClass (clientClass : ClientClass) (permit : AdmissionPermit) : Bool :=
  !permit.released && decide (permit.clientClass = clientClass)

/-- The counters count the permits that are not released and the operations that have
changed them. -/
structure Counted (s : AdmissionState) : Prop where
  total : s.total = s.permits.countP (!·.released) + s.operations.countP Operation.inTotal
  byClass : ∀ clientClass, s.byClass clientClass =
    s.permits.countP (·.inClass clientClass) + s.operations.countP (Operation.inClass clientClass)

structure Bounded (s : AdmissionState) : Prop where
  total : s.total ≤ totalInFlightLimit
  byClass : ∀ clientClass, s.byClass clientClass ≤ clientClass.inFlightLimit

/-- A permit that is not released has a handle, or its last handle is just being
dropped. -/
def Covered (s : AdmissionState) : Prop :=
  ∀ index permit, s.permits[index]? = some permit → permit.released = false →
    permit.live = false → ∃ clientClass, .dropping index clientClass ∈ s.operations

structure Balanced (s : AdmissionState) : Prop where
  counted : Counted s
  bounded : Bounded s
  covered : Covered s

/-! ## The counters -/

section Counters

variable {s : AdmissionState} {operation : Operation} {clientClass : ClientClass} {index : Nat}
  {permit : AdmissionPermit}

theorem fetchSub_of_pos {counter : Nat} (positive : 0 < counter) :
    fetchSub counter = counter - 1 :=
  if_neg (Nat.pos_iff_ne_zero.mp positive)

/-- A permit is replaced. -/
theorem countP_set_permit {permits : List AdmissionPermit} {new : AdmissionPermit}
    (here : permits[index]? = some permit) (p : AdmissionPermit → Bool) :
    (permits.set index new).countP p + (if p permit then 1 else 0) =
      permits.countP p + (if p new then 1 else 0) := by
  obtain ⟨lt, rfl⟩ := List.getElem?_eq_some_iff.mp here
  have after := (List.set_perm_cons_eraseIdx lt new).countP_eq p
  have before := (List.getElem_cons_eraseIdx_perm lt).countP_eq p
  rw [List.countP_cons] at after before
  omega

theorem countP_operations (member : operation ∈ s.operations) (p : Operation → Bool) :
    s.operations.countP p =
      (s.operations.erase operation).countP p + (if p operation then 1 else 0) := by
  rw [(List.perm_cons_erase member).countP_eq p, List.countP_cons]

/-- An operation that is counted finds a counter that is not zero. -/
theorem Counted.total_pos (counted : Counted s) (member : operation ∈ s.operations)
    (inTotal : operation.inTotal = true) : 0 < s.total := by
  have := countP_operations member Operation.inTotal
  rw [if_pos inTotal] at this
  have := counted.total
  omega

theorem Counted.byClass_pos (counted : Counted s) (member : operation ∈ s.operations)
    (inClass : operation.inClass clientClass = true) : 0 < s.byClass clientClass := by
  have := countP_operations member (Operation.inClass clientClass)
  rw [if_pos inClass] at this
  have := counted.byClass clientClass
  omega

/-- The permit is no longer counted, and the operation is. -/
theorem Counted.markReleased (counted : Counted s) (here : s.permits[index]? = some permit) :
    Counted (s.markReleased index permit) := by
  unfold AdmissionState.markReleased
  split
  · exact counted
  next unreleased =>
    constructor
    · have moved := @countP_set_permit _ permit _ { permit with released := true } here
        (!·.released)
      have total := counted.total
      simp [AdmissionState.begin, List.countP_cons, Operation.inTotal, unreleased] at moved ⊢
      omega
    · intro clientClass
      have moved := @countP_set_permit _ permit _ { permit with released := true } here
        (·.inClass clientClass)
      have byClass := counted.byClass clientClass
      simp [AdmissionState.begin, List.countP_cons, Operation.inClass, AdmissionPermit.inClass,
        unreleased] at moved byClass ⊢
      omega

/-- One counter is changed to what it should be. -/
theorem counted_setClass {count : Nat}
    (total : s.total = s.permits.countP (!·.released) + s.operations.countP Operation.inTotal)
    (here : count = s.permits.countP (·.inClass clientClass) +
      s.operations.countP (Operation.inClass clientClass))
    (others : ∀ other, other ≠ clientClass → s.byClass other =
      s.permits.countP (·.inClass other) + s.operations.countP (Operation.inClass other)) :
    Counted (s.setClass clientClass count) := by
  refine ⟨total, fun other => ?_⟩
  unfold AdmissionState.setClass
  by_cases same : other = clientClass
  · subst same
    simpa using here
  · simpa [Function.update_of_ne same] using others other same

theorem Counted.perform (counted : Counted s) (member : operation ∈ s.operations) :
    Counted ({ s with operations := s.operations.erase operation }.perform operation) := by
  have total : s.total = s.permits.countP (!·.released) +
      ((s.operations.erase operation).countP Operation.inTotal +
        if operation.inTotal then 1 else 0) := by
    rw [← countP_operations member]
    exact counted.total
  have byClass : ∀ clientClass, s.byClass clientClass =
      s.permits.countP (·.inClass clientClass) +
        ((s.operations.erase operation).countP (Operation.inClass clientClass) +
          if operation.inClass clientClass then 1 else 0) := by
    intro clientClass
    rw [← countP_operations member]
    exact counted.byClass clientClass
  have lowered : ∀ clientClass, operation.inClass clientClass = true →
      fetchSub (s.byClass clientClass) = s.byClass clientClass - 1 := fun clientClass inClass =>
    fetchSub_of_pos (counted.byClass_pos member inClass)
  cases operation with
  | counting clientClass =>
    dsimp only [AdmissionState.perform]
    split
    · constructor
      · simp [AdmissionState.begin, List.countP_cons, Operation.inTotal] at total ⊢
        omega
      · intro other
        simpa [AdmissionState.begin, List.countP_cons, Operation.inClass] using byClass other
    · constructor
      · simpa [AdmissionState.begin, Operation.inTotal] using total
      · intro other
        simpa [AdmissionState.begin, List.countP_cons, Operation.inClass] using byClass other
  | granting clientClass =>
    constructor
    · simp [AdmissionState.perform, Operation.inTotal] at total ⊢
      omega
    · intro other
      have byClass := byClass other
      simp [AdmissionState.perform, Operation.inClass, AdmissionPermit.inClass] at byClass ⊢
      omega
  | refusing clientClass | loweringClass clientClass =>
    refine counted_setClass (by simpa [Operation.inTotal] using total) ?_ fun other different => ?_
    · rw [lowered clientClass (by simp [Operation.inClass]), byClass clientClass]
      simp [Operation.inClass]
    · simpa [Operation.inClass, Ne.symm different] using byClass other
  | dropping index clientClass =>
    have erased :
        Counted { s with operations := s.operations.erase (.dropping index clientClass) } := by
      constructor
      · simpa [Operation.inTotal] using total
      · intro other
        simpa [Operation.inClass] using byClass other
    dsimp only [AdmissionState.perform]
    split
    next permit here => exact erased.markReleased here
    · exact erased
  | lowering clientClass =>
    constructor
    · rw [total]
      rfl
    · intro other
      show s.byClass other = s.permits.countP (·.inClass other) +
        (.loweringClass clientClass :: s.operations.erase (.lowering clientClass)).countP
          (Operation.inClass other)
      rw [byClass other, List.countP_cons]
      rfl

/-! ## The limits -/

theorem Bounded.setClass (bounded : Bounded s) {count : Nat}
    (le : count ≤ clientClass.inFlightLimit) : Bounded (s.setClass clientClass count) := by
  refine ⟨bounded.total, fun other => ?_⟩
  unfold AdmissionState.setClass
  by_cases same : other = clientClass
  · subst same
    simpa using le
  · simpa [Function.update_of_ne same] using bounded.byClass other

theorem Bounded.markReleased (bounded : Bounded s) :
    Bounded (s.markReleased index permit) := by
  unfold AdmissionState.markReleased
  split
  · exact bounded
  · exact ⟨bounded.total, bounded.byClass⟩

theorem Bounded.perform (bounded : Bounded s) (counted : Counted s)
    (member : operation ∈ s.operations) :
    Bounded ({ s with operations := s.operations.erase operation }.perform operation) := by
  have lowered : ∀ clientClass, operation.inClass clientClass = true →
      fetchSub (s.byClass clientClass) ≤ clientClass.inFlightLimit := by
    intro clientClass inClass
    have := bounded.byClass clientClass
    rw [fetchSub_of_pos (counted.byClass_pos member inClass)]
    omega
  have erased : Bounded { s with operations := s.operations.erase operation } :=
    ⟨bounded.total, bounded.byClass⟩
  cases operation with
  | counting clientClass =>
    dsimp only [AdmissionState.perform]
    split
    next room => exact ⟨room, bounded.byClass⟩
    · exact ⟨bounded.total, bounded.byClass⟩
  | granting clientClass => exact ⟨bounded.total, bounded.byClass⟩
  | refusing clientClass | loweringClass clientClass =>
    exact erased.setClass (lowered clientClass (by simp [Operation.inClass]))
  | dropping index clientClass =>
    dsimp only [AdmissionState.perform]
    split
    · exact erased.markReleased
    · exact erased
  | lowering clientClass =>
    refine ⟨?_, bounded.byClass⟩
    have := bounded.total
    show fetchSub s.total ≤ totalInFlightLimit
    rw [fetchSub_of_pos (counted.total_pos member rfl)]
    omega

/-! ## Permits without a handle -/

/-- A permit is replaced by one that needs no more cover. -/
theorem Covered.set {new : AdmissionPermit} {operations : List Operation}
    (covered : ∀ other permit, other ≠ index → s.permits[other]? = some permit →
      permit.released = false → permit.live = false →
      ∃ clientClass, .dropping other clientClass ∈ operations)
    (here : new.released = false → new.live = false →
      ∃ clientClass, .dropping index clientClass ∈ operations)
    {total : Nat} {byClass : ClientClass → Nat} :
    Covered ⟨total, byClass, s.permits.set index new, operations⟩ := by
  intro other permit there unreleased dead
  rw [List.getElem?_set] at there
  split at there
  next same =>
    split at there
    · obtain rfl := Option.some.inj there
      exact same ▸ here unreleased dead
    · cases there
  next different => exact covered other permit (Ne.symm different) there unreleased dead

theorem Covered.mono (covered : Covered s) {t : AdmissionState} (permits : t.permits = s.permits)
    (operations : s.operations ⊆ t.operations) : Covered t := by
  intro index permit here unreleased dead
  rw [permits] at here
  obtain ⟨clientClass, member⟩ := covered index permit here unreleased dead
  exact ⟨clientClass, operations member⟩

/-- A permit that is marked as released needs no cover. -/
theorem covered_markReleased (here : s.permits[index]? = some permit)
    (covered : ∀ other permit, other ≠ index → s.permits[other]? = some permit →
      permit.released = false → permit.live = false →
      ∃ clientClass, .dropping other clientClass ∈ s.operations) :
    Covered (s.markReleased index permit) := by
  unfold AdmissionState.markReleased
  split
  next released =>
    intro other found there unreleased dead
    by_cases same : other = index
    · subst same
      obtain rfl := Option.some.inj (here.symm.trans there)
      rw [released] at unreleased
      cases unreleased
    · exact covered other found same there unreleased dead
  · refine Covered.set (fun other found different there unreleased dead => ?_)
      fun released => by cases released
    obtain ⟨clientClass, member⟩ := covered other found different there unreleased dead
    exact ⟨clientClass, List.mem_cons_of_mem _ member⟩

/-- Only the permit whose drop is performed loses its cover. -/
theorem Covered.erase (covered : Covered s) {found : AdmissionPermit}
    (other : ∀ clientClass, operation ≠ .dropping index clientClass)
    (here : s.permits[index]? = some found) (unreleased : found.released = false)
    (dead : found.live = false) :
    ∃ clientClass, .dropping index clientClass ∈ s.operations.erase operation := by
  obtain ⟨clientClass, member⟩ := covered index found here unreleased dead
  exact ⟨clientClass, (List.mem_erase_of_ne (other clientClass).symm).mpr member⟩

theorem Covered.perform (covered : Covered s) :
    Covered ({ s with operations := s.operations.erase operation }.perform operation) := by
  have erased : (∀ index clientClass, operation ≠ .dropping index clientClass) →
      Covered { s with operations := s.operations.erase operation } :=
    fun other index found => covered.erase (other index)
  cases operation with
  | counting clientClass =>
    dsimp only [AdmissionState.perform]
    split
    · exact (erased nofun).mono rfl (List.subset_cons_self _ _)
    · exact (erased nofun).mono rfl (List.subset_cons_self _ _)
  | granting clientClass =>
    intro index found here unreleased dead
    simp only [AdmissionState.perform, List.getElem?_append] at here
    split at here
    · exact erased nofun index found here unreleased dead
    · obtain rfl := List.mem_singleton.mp (List.mem_of_getElem? here)
      cases dead
  | refusing clientClass | loweringClass clientClass =>
    exact (erased nofun).mono rfl (List.Subset.refl _)
  | dropping index clientClass =>
    have others : ∀ other found, other ≠ index → s.permits[other]? = some found →
        found.released = false → found.live = false →
        ∃ named, .dropping other named ∈ s.operations.erase (.dropping index clientClass) := by
      intro other found different
      exact covered.erase fun named same => different (Operation.dropping.inj same).1.symm
    dsimp only [AdmissionState.perform]
    split
    next permit here => exact covered_markReleased here others
    next missing =>
      intro other found there unreleased dead
      refine others other found ?_ there unreleased dead
      rintro rfl
      cases missing.symm.trans there
  | lowering clientClass => exact (erased nofun).mono rfl (List.subset_cons_self _ _)

end Counters

/-! ## Runs -/

section Runs

variable {s : AdmissionState}

theorem Balanced.acquire (balanced : Balanced s) (clientClass : ClientClass) :
    Balanced (s.after (.acquire clientClass)) := by
  obtain ⟨counted, bounded, covered⟩ := balanced
  dsimp only [AdmissionState.after]
  split
  next room =>
    refine ⟨?_, ?_, covered.mono rfl (List.subset_cons_self _ _)⟩
    · have total := counted.total
      refine ⟨?_, fun other => ?_⟩
      · simpa [AdmissionState.begin, AdmissionState.setClass, Operation.inTotal] using total
      · have byClass := counted.byClass other
        by_cases same : other = clientClass
        · subst same
          simp [AdmissionState.begin, AdmissionState.setClass, Operation.inClass]
          omega
        · simpa [AdmissionState.begin, AdmissionState.setClass, Operation.inClass,
            Function.update_of_ne same, Ne.symm same] using byClass
    · have raised : Bounded (s.setClass clientClass (s.byClass clientClass + 1)) :=
        bounded.setClass room
      exact ⟨raised.total, raised.byClass⟩
  · exact ⟨counted, bounded, covered⟩

/-- The number of handles is not counted. -/
theorem Counted.setHandles {index handles : Nat} {permit : AdmissionPermit} (counted : Counted s)
    (here : s.permits[index]? = some permit) :
    Counted { s with permits := s.permits.set index { permit with handles } } := by
  constructor
  · have moved := @countP_set_permit _ permit _ { permit with handles } here (!·.released)
    have total := counted.total
    simp only at moved ⊢
    omega
  · intro clientClass
    have moved := @countP_set_permit _ permit _ { permit with handles } here (·.inClass clientClass)
    exact (counted.byClass clientClass).trans
      (congrArg (· + _) (Nat.add_right_cancel moved).symm)

theorem Balanced.clone (balanced : Balanced s) (index : Nat) :
    Balanced (s.after (.clone index)) := by
  dsimp only [AdmissionState.after]
  split
  next permit here =>
    split
    · obtain ⟨counted, bounded, covered⟩ := balanced
      refine ⟨counted.setHandles here, ⟨bounded.total, bounded.byClass⟩, ?_⟩
      exact Covered.set (fun other found _ => covered other found) fun _ dead => by cases dead
    · exact balanced
  · exact balanced

theorem Balanced.release (balanced : Balanced s) (index : Nat) :
    Balanced (s.after (.release index)) := by
  dsimp only [AdmissionState.after]
  split
  next permit here =>
    split
    · obtain ⟨counted, bounded, covered⟩ := balanced
      exact ⟨counted.markReleased here, bounded.markReleased,
        covered_markReleased here fun other found _ => covered other found⟩
    · exact balanced
  · exact balanced

theorem Balanced.drop (balanced : Balanced s) (index : Nat) :
    Balanced (s.after (.drop index)) := by
  dsimp only [AdmissionState.after]
  split
  next permit here =>
    split
    · exact balanced
    next some =>
      obtain ⟨counted, bounded, covered⟩ := balanced
      have fewer : Counted { s with
          permits := s.permits.set index { permit with handles := permit.handles - 1 } } :=
        counted.setHandles here
      split
      · refine ⟨⟨?_, fun clientClass => ?_⟩, ⟨bounded.total, bounded.byClass⟩, ?_⟩
        · simpa [AdmissionState.begin, Operation.inTotal] using fewer.total
        · simpa [AdmissionState.begin, Operation.inClass] using fewer.byClass clientClass
        · refine Covered.set (fun other found _ there unreleased dead => ?_) fun _ _ =>
            ⟨permit.clientClass, List.mem_cons_self⟩
          obtain ⟨clientClass, member⟩ := covered other found there unreleased dead
          exact ⟨clientClass, List.mem_cons_of_mem _ member⟩
      next more =>
        refine ⟨fewer, ⟨bounded.total, bounded.byClass⟩, ?_⟩
        refine Covered.set (fun other found _ => covered other found) fun _ dead => ?_
        simp [AdmissionPermit.live] at dead
        omega
  · exact balanced

theorem Balanced.proceed (balanced : Balanced s) (operation : Operation) :
    Balanced (s.after (.proceed operation)) := by
  dsimp only [AdmissionState.after]
  split
  next member =>
    obtain ⟨counted, bounded, covered⟩ := balanced
    exact ⟨counted.perform member, bounded.perform counted member, covered.perform⟩
  · exact balanced

theorem balanced_inductive : admissionMachine.Inductive Balanced where
  start := by
    rintro s rfl
    exact ⟨⟨rfl, fun _ => rfl⟩, ⟨Nat.zero_le _, fun _ => Nat.zero_le _⟩, nofun⟩
  step := by
    rintro s event t balanced rfl
    cases event with
    | acquire clientClass => exact balanced.acquire clientClass
    | clone index => exact balanced.clone index
    | release index => exact balanced.release index
    | drop index => exact balanced.drop index
    | proceed operation => exact balanced.proceed operation

/-- A permit that has a handle and is not released. -/
def AdmissionPermit.held (permit : AdmissionPermit) : Bool := permit.live && !permit.released

/-- Between operations the permits that are not released are those in somebody's hands. -/
theorem Covered.held_of_idle (covered : Covered s) (idle : s.operations = [])
    {permit : AdmissionPermit} (member : permit ∈ s.permits) :
    permit.held = !permit.released := by
  obtain ⟨index, here⟩ := List.getElem?_of_mem member
  unfold AdmissionPermit.held
  cases released : permit.released with
  | true => simp
  | false =>
    cases live : permit.live with
    | true => rfl
    | false =>
      obtain ⟨_, member⟩ := covered index permit here released live
      rw [idle] at member
      cases member

/-- Each counter counts the permits that nobody has released and the operations that have
raised it and not yet lowered it; it stays within its limit, and whoever lowers it finds it
positive. Between operations it counts the permits that are held and not released. -/
theorem admission_counters (reachable : admissionMachine.Reachable s) :
    Counted s ∧ Bounded s ∧ Covered s ∧
      (∀ clientClass, .lowering clientClass ∈ s.operations → 0 < s.total) ∧
      (∀ clientClass,
        .loweringClass clientClass ∈ s.operations ∨ .refusing clientClass ∈ s.operations →
          0 < s.byClass clientClass) ∧
      (s.operations = [] →
        s.total = s.permits.countP (·.held) ∧
          ∀ clientClass, s.byClass clientClass =
            s.permits.countP fun permit =>
              permit.held && decide (permit.clientClass = clientClass)) := by
  obtain ⟨counted, bounded, covered⟩ := balanced_inductive.holds reachable
  refine ⟨counted, bounded, covered, fun clientClass member => counted.total_pos member rfl,
    fun clientClass member => ?_, fun idle => ⟨?_, fun clientClass => ?_⟩⟩
  · obtain member | member := member
    all_goals exact counted.byClass_pos member (decide_eq_true rfl)
  · rw [counted.total, idle]
    exact List.countP_congr fun permit member => by rw [covered.held_of_idle idle member]
  · rw [counted.byClass clientClass, idle]
    refine List.countP_congr fun permit member => ?_
    rw [covered.held_of_idle idle member, AdmissionPermit.inClass]

end Runs

theorem reachable_foldl_after (events : List AdmissionEvent) :
    admissionMachine.Reachable (events.foldl .after .new) :=
  .foldl (fun _ _ _ => rfl) (.start rfl)

/-- A request is admitted, its permit is cloned and one of the handles dropped. -/
theorem admission_counters_of_request :
    let s := [AdmissionEvent.acquire .background, .proceed (.counting .background),
      .proceed (.granting .background), .clone 0, .drop 0].foldl .after AdmissionState.new
    s.operations = [] ∧ s.total = 1 ∧ s.permits.countP (·.held) = 1 :=
  have exact_ := (admission_counters (reachable_foldl_after
    [.acquire .background, .proceed (.counting .background), .proceed (.granting .background),
      .clone 0, .drop 0])).2.2.2.2.2 (by decide)
  ⟨by decide, exact_.1.trans (by decide), by decide⟩

/-- A release that has only marked its permit: both counters still have a request whose
permit is released. -/
theorem released_permit_still_counted :
    ∃ s, admissionMachine.Reachable s ∧ s.total = 1 ∧ s.byClass .interactiveGui = 1 ∧
      s.permits.countP (·.held) = 0 :=
  ⟨_, reachable_foldl_after
    [.acquire .interactiveGui, .proceed (.counting .interactiveGui),
      .proceed (.granting .interactiveGui), .release 0], by decide, by decide, by decide⟩

end ResumeIr.Daemon.SearchService
