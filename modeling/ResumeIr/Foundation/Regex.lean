import Mathlib.Computability.Language

/-!
# Leftmost-first regular expressions

An expression is matched at a cursor: the symbol before it, which word boundaries look at,
and the symbols after it. The ends of the matches at a cursor are listed in order of
preference (`Regex.ends`): the first alternative before the second, and more repetitions
before fewer. The match that a search reports is the first one in this order at the leftmost
cursor that has one, and `Regex.replaceAll` replaces such matches from left to right.

A set of symbols is a name, and what the names mean is a parameter, so the tables of
character classes stay open. Two tables that agree on the symbols of a text give the same
result on it (`Regex.replaceAll_congr`).

What a match consumes is a word of the language of the expression (`Regex.language`,
`Regex.mem_ends`). Statements about what every match contains are proved about the language.
-/

namespace ResumeIr.Foundation

universe u v

/-- Where a match has come to. -/
structure Cursor (α : Type u) where
  last : Option α
  rest : List α
  deriving DecidableEq

/-- The cursors of a text, from left to right. -/
def cursors {α : Type u} (last : Option α) : List α → List (Cursor α)
  | [] => [⟨last, []⟩]
  | symbol :: rest => ⟨last, symbol :: rest⟩ :: cursors (some symbol) rest

inductive Regex (κ : Type v) where
  | empty
  | one (set : κ)
  /-- Exactly one of the two symbols around the cursor is in the set. -/
  | boundary (set : κ)
  | seq (first second : Regex κ)
  | alt (first second : Regex κ)
  | star (body : Regex κ)

namespace Regex

variable {α : Type u} {κ : Type v} {cursor stop : Cursor α} {replacement : List α}

def opt (body : Regex κ) : Regex κ := .alt body .empty

def times : Nat → Regex κ → Regex κ
  | 0, _ => .empty
  | count + 1, body => .seq body (times count body)

def upTo : Nat → Regex κ → Regex κ
  | 0, _ => .empty
  | count + 1, body => opt (.seq body (upTo count body))

def atLeast (low : Nat) (body : Regex κ) : Regex κ := .seq (times low body) (.star body)

def between (low high : Nat) (body : Regex κ) : Regex κ :=
  .seq (times low body) (upTo (high - low) body)

def concat : List (Regex κ) → Regex κ
  | [] => .empty
  | first :: rest => .seq first (concat rest)

def oneOf : Regex κ → List (Regex κ) → Regex κ
  | first, [] => first
  | first, second :: rest => .alt first (oneOf second rest)

/-! ## Matching -/

/-- As many repetitions as there are, each of which has to consume something. -/
def iterate (step : Cursor α → List (Cursor α)) : Nat → Cursor α → List (Cursor α)
  | 0, cursor => [cursor]
  | count + 1, cursor =>
      ((step cursor).filter (·.rest.length < cursor.rest.length)).flatMap (iterate step count) ++
        [cursor]

section Matching

variable (sem : κ → α → Bool)

/-- The ends of the matches at a cursor, the preferred one first. -/
def ends : Regex κ → Cursor α → List (Cursor α)
  | .empty, cursor => [cursor]
  | .one set, cursor =>
      match cursor.rest with
      | [] => []
      | symbol :: rest => if sem set symbol then [⟨some symbol, rest⟩] else []
  | .boundary set, cursor =>
      if cursor.last.any (sem set) != cursor.rest.head?.any (sem set) then [cursor] else []
  | .seq first second, cursor => (first.ends cursor).flatMap second.ends
  | .alt first second, cursor => first.ends cursor ++ second.ends cursor
  | .star body, cursor => iterate body.ends cursor.rest.length cursor

/-- The expression matches somewhere in the text. -/
def isMatch (regex : Regex κ) (text : List α) : Bool :=
  (cursors none text).any fun cursor => !(regex.ends sem cursor).isEmpty

/-- Replacement from a cursor on. The number bounds the symbols that are left. An expression
that matches without consuming anything is not replaced. -/
def replaceFrom (regex : Regex κ) (replacement : List α) : Nat → Cursor α → List α
  | 0, _ => []
  | count + 1, cursor =>
      match cursor.rest with
      | [] => []
      | symbol :: rest =>
          match (regex.ends sem cursor).head? with
          | some stop =>
              if stop.rest.length < cursor.rest.length then
                replacement ++ replaceFrom regex replacement count stop
              else symbol :: replaceFrom regex replacement count ⟨some symbol, rest⟩
          | none => symbol :: replaceFrom regex replacement count ⟨some symbol, rest⟩

def replaceAll (regex : Regex κ) (replacement text : List α) : List α :=
  replaceFrom sem regex replacement text.length ⟨none, text⟩

end Matching

/-! ## Languages -/

section Languages

variable {sem : κ → α → Bool}

/-- What the expression can consume, whatever the word boundaries are. -/
def language (sem : κ → α → Bool) : Regex κ → Language α
  | .empty => 1
  | .one set => { word | ∃ symbol, sem set symbol = true ∧ word = [symbol] }
  | .boundary _ => 1
  | .seq first second => first.language sem * second.language sem
  | .alt first second => first.language sem + second.language sem
  | .star body => KStar.kstar (body.language sem)

/-- A match from one cursor to another consumes a word. The symbols around and after its end
are among those around and after its beginning. -/
structure Consumes (word : List α) (cursor stop : Cursor α) : Prop where
  rest : cursor.rest = word ++ stop.rest
  inside : stop.last.toList ++ stop.rest ⊆ cursor.last.toList ++ cursor.rest

theorem Consumes.nil (cursor : Cursor α) : Consumes [] cursor cursor :=
  ⟨rfl, List.Subset.refl _⟩

theorem Consumes.one (last : Option α) (symbol : α) (rest : List α) :
    Consumes [symbol] ⟨last, symbol :: rest⟩ ⟨some symbol, rest⟩ :=
  ⟨rfl, List.subset_append_right ..⟩

theorem Consumes.append {first second : List α} {middle : Cursor α}
    (before : Consumes first cursor middle) (after : Consumes second middle stop) :
    Consumes (first ++ second) cursor stop :=
  ⟨by rw [before.rest, after.rest, List.append_assoc], List.Subset.trans after.inside before.inside⟩

/-- A repetition consumes words of the body. -/
theorem mem_iterate {step : Cursor α → List (Cursor α)} {words : Language α}
    (sound : ∀ {cursor stop}, stop ∈ step cursor → ∃ word ∈ words, Consumes word cursor stop)
    {count : Nat} (member : stop ∈ iterate step count cursor) :
    ∃ word ∈ KStar.kstar words, Consumes word cursor stop := by
  induction count generalizing cursor with
  | zero =>
    obtain rfl := List.mem_singleton.mp member
    exact ⟨[], Language.nil_mem_kstar _, .nil _⟩
  | succ count ih =>
    rw [iterate, List.mem_append, List.mem_flatMap] at member
    obtain ⟨middle, stepped, later⟩ | same := member
    · obtain ⟨word, inside, first⟩ := sound (List.mem_of_mem_filter stepped)
      obtain ⟨words', more, second⟩ := ih later
      refine ⟨word ++ words', ?_, first.append second⟩
      exact (mul_kstar_le_kstar : words * KStar.kstar words ≤ _)
        (Language.append_mem_mul inside more)
    · obtain rfl := List.mem_singleton.mp same
      exact ⟨[], Language.nil_mem_kstar _, .nil _⟩

/-- **What a match consumes is a word of the language.** -/
theorem mem_ends {regex : Regex κ} (member : stop ∈ regex.ends sem cursor) :
    ∃ word ∈ regex.language sem, Consumes word cursor stop := by
  induction regex generalizing cursor stop with
  | empty =>
    obtain rfl := List.mem_singleton.mp member
    exact ⟨[], Language.nil_mem_one, .nil _⟩
  | one set =>
    obtain ⟨last, _ | ⟨symbol, rest⟩⟩ := cursor
    · cases member
    · simp only [ends] at member
      split at member
      next inside =>
        obtain rfl := List.mem_singleton.mp member
        exact ⟨[symbol], ⟨symbol, inside, rfl⟩, .one ..⟩
      · cases member
  | boundary set =>
    rw [ends] at member
    split at member
    · obtain rfl := List.mem_singleton.mp member
      exact ⟨[], Language.nil_mem_one, .nil _⟩
    · cases member
  | seq first second ihFirst ihSecond =>
    obtain ⟨middle, before, after⟩ := List.mem_flatMap.mp member
    obtain ⟨word, inside, split⟩ := ihFirst before
    obtain ⟨word', inside', split'⟩ := ihSecond after
    exact ⟨word ++ word', Language.append_mem_mul inside inside', split.append split'⟩
  | alt first second ihFirst ihSecond =>
    obtain there | there := List.mem_append.mp member
    · obtain ⟨word, inside, split⟩ := ihFirst there
      exact ⟨word, .inl inside, split⟩
    · obtain ⟨word, inside, split⟩ := ihSecond there
      exact ⟨word, .inr inside, split⟩
  | star body ih => exact mem_iterate ih member

end Languages

/-! ## Searching -/

section Searching

variable {sem : κ → α → Bool} {regex : Regex κ} {text : List α}

theorem rest_of_mem_cursors {last : Option α} (member : cursor ∈ cursors last text) :
    cursor.rest <:+ text := by
  induction text generalizing last with
  | nil =>
    obtain rfl := List.mem_singleton.mp member
    exact List.suffix_refl _
  | cons symbol text ih =>
    obtain rfl | member := List.mem_cons.mp member
    · exact List.suffix_refl _
    · exact (ih member).trans (List.suffix_cons ..)

/-- A match somewhere in the text is a word of the language that stands there. -/
theorem exists_word_of_isMatch (found : regex.isMatch sem text = true) :
    ∃ before word after, text = before ++ word ++ after ∧ word ∈ regex.language sem := by
  obtain ⟨cursor, member, some⟩ := List.any_eq_true.mp found
  obtain ⟨stop, stops⟩ := List.exists_mem_of_ne_nil _ (by simpa using some)
  obtain ⟨word, inside, split⟩ := mem_ends stops
  obtain ⟨before, rfl⟩ := rest_of_mem_cursors member
  exact ⟨before, word, stop.rest, by rw [split.rest, List.append_assoc], inside⟩

/-- Where nothing matches nothing is replaced. -/
theorem replaceFrom_of_ends_eq_nil {last : Option α} {count : Nat} (enough : text.length ≤ count)
    (none : ∀ cursor ∈ cursors last text, regex.ends sem cursor = []) :
    replaceFrom sem regex replacement count ⟨last, text⟩ = text := by
  induction text generalizing last count with
  | nil => cases count <;> rfl
  | cons symbol text ih =>
    cases count with
    | zero => cases enough
    | succ count =>
      have here := none ⟨last, symbol :: text⟩ List.mem_cons_self
      simp only [replaceFrom, here, List.head?_nil]
      rw [ih (Nat.le_of_succ_le_succ enough) fun cursor member =>
        none cursor (List.mem_cons_of_mem _ member)]

theorem replaceAll_of_not_isMatch (none : regex.isMatch sem text = false) :
    regex.replaceAll sem replacement text = text := by
  refine replaceFrom_of_ends_eq_nil (Nat.le_refl _) fun cursor member => ?_
  simpa using List.any_eq_false.mp none cursor member

/-- Every word of the language has a symbol of some kind. -/
def Needs (sem : κ → α → Bool) (wanted : α → Prop) (regex : Regex κ) : Prop :=
  ∀ word ∈ regex.language sem, ∃ symbol ∈ word, wanted symbol

variable {wanted : α → Prop} {first second : Regex κ}

theorem Needs.one {set : κ} (inside : ∀ symbol, sem set symbol = true → wanted symbol) :
    Needs sem wanted (.one set) := by
  rintro word ⟨symbol, holds, rfl⟩
  exact ⟨symbol, List.mem_singleton_self _, inside symbol holds⟩

theorem Needs.seq_left (needs : Needs sem wanted first) : Needs sem wanted (.seq first second) := by
  rintro word member
  obtain ⟨left, inside, right, _, rfl⟩ := Language.mem_mul.mp member
  obtain ⟨symbol, there, holds⟩ := needs left inside
  exact ⟨symbol, List.mem_append_left _ there, holds⟩

theorem Needs.seq_right (needs : Needs sem wanted second) :
    Needs sem wanted (.seq first second) := by
  rintro word member
  obtain ⟨left, _, right, inside, rfl⟩ := Language.mem_mul.mp member
  obtain ⟨symbol, there, holds⟩ := needs right inside
  exact ⟨symbol, List.mem_append_right _ there, holds⟩

theorem Needs.alt (left : Needs sem wanted first) (right : Needs sem wanted second) :
    Needs sem wanted (.alt first second) := by
  rintro word (inside | inside)
  · exact left word inside
  · exact right word inside

theorem Needs.exists_of_isMatch (needs : Needs sem wanted regex)
    (found : regex.isMatch sem text = true) : ∃ symbol ∈ text, wanted symbol := by
  obtain ⟨before, word, after, rfl, inside⟩ := exists_word_of_isMatch found
  obtain ⟨symbol, there, holds⟩ := needs word inside
  exact ⟨symbol, by simp [there], holds⟩

end Searching

/-! ## Tables -/

section Tables

variable {sem sem' : κ → α → Bool} {regex : Regex κ} {text : List α}

/-- Two tables agree on what is around and after a cursor. -/
def Agree (sem sem' : κ → α → Bool) (cursor : Cursor α) : Prop :=
  ∀ set, ∀ symbol ∈ cursor.last.toList ++ cursor.rest, sem set symbol = sem' set symbol

theorem Agree.any_last (agree : Agree sem sem' cursor) (set : κ) :
    cursor.last.any (sem set) = cursor.last.any (sem' set) := by
  cases here : cursor.last with
  | none => rfl
  | some symbol => exact agree set symbol (by simp [here])

theorem Agree.any_head (agree : Agree sem sem' cursor) (set : κ) :
    cursor.rest.head?.any (sem set) = cursor.rest.head?.any (sem' set) := by
  cases here : cursor.rest with
  | nil => rfl
  | cons symbol rest => exact agree set symbol (by simp [here])

theorem Agree.consumes {word : List α} (agree : Agree sem sem' cursor)
    (consumes : Consumes word cursor stop) : Agree sem sem' stop :=
  fun set symbol member => agree set symbol (consumes.inside member)

theorem Agree.of_mem_ends (agree : Agree sem sem' cursor) (member : stop ∈ regex.ends sem cursor) :
    Agree sem sem' stop := by
  obtain ⟨word, -, consumes⟩ := mem_ends member
  exact agree.consumes consumes

theorem flatMap_congr_of_mem {β γ : Type*} {items : List β} {f g : β → List γ}
    (same : ∀ item ∈ items, f item = g item) : items.flatMap f = items.flatMap g := by
  rw [List.flatMap_def, List.flatMap_def, List.map_congr_left same]

theorem iterate_congr {step step' : Cursor α → List (Cursor α)}
    (same : ∀ {cursor}, Agree sem sem' cursor → step cursor = step' cursor)
    (kept : ∀ {cursor stop}, Agree sem sem' cursor → stop ∈ step cursor → Agree sem sem' stop)
    {count : Nat} (agree : Agree sem sem' cursor) :
    iterate step count cursor = iterate step' count cursor := by
  induction count generalizing cursor with
  | zero => rfl
  | succ count ih =>
    rw [iterate, iterate, ← same agree]
    congr 1
    exact flatMap_congr_of_mem fun middle member =>
      ih (kept agree (List.mem_of_mem_filter member))

/-- Only what the tables say about the symbols of the text matters. -/
theorem ends_congr (agree : Agree sem sem' cursor) :
    regex.ends sem cursor = regex.ends sem' cursor := by
  induction regex generalizing cursor with
  | empty => rfl
  | one set =>
    obtain ⟨last, _ | ⟨symbol, rest⟩⟩ := cursor
    · rfl
    · simp only [ends, agree set symbol (by simp)]
  | boundary set => rw [ends, ends, agree.any_last, agree.any_head]
  | seq first second ihFirst ihSecond =>
    rw [ends, ends, ← ihFirst agree]
    exact flatMap_congr_of_mem fun middle member => ihSecond (agree.of_mem_ends member)
  | alt first second ihFirst ihSecond => rw [ends, ends, ihFirst agree, ihSecond agree]
  | star body ih => exact iterate_congr ih .of_mem_ends agree

theorem replaceFrom_congr {count : Nat} (agree : Agree sem sem' cursor) :
    replaceFrom sem regex replacement count cursor =
      replaceFrom sem' regex replacement count cursor := by
  induction count generalizing cursor with
  | zero => rfl
  | succ count ih =>
    obtain ⟨last, _ | ⟨symbol, rest⟩⟩ := cursor
    · rfl
    · have next := ih (agree.consumes (.one last symbol rest))
      simp only [replaceFrom, ← ends_congr agree, next]
      split
      next stop found => rw [ih (agree.of_mem_ends (List.mem_of_mem_head? found))]
      · rfl

theorem replaceAll_congr (agree : ∀ set, ∀ symbol ∈ text, sem set symbol = sem' set symbol) :
    regex.replaceAll sem replacement text = regex.replaceAll sem' replacement text :=
  replaceFrom_congr (show Agree sem sem' ⟨none, text⟩ from agree)

end Tables

end Regex

end ResumeIr.Foundation
