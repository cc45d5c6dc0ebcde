import ResumeIr.Foundation.Fallible

/-!
# Readers and writers of bytes

A reader hands out its bytes in pieces of its own choosing. Between two pieces a call may
be interrupted or fail (`Delivery`). `readExact` goes on until it has as many bytes as it
was asked for. A reader that never fails is described by its bytes alone
(`readExact_of_le`, `readExact_of_lt`): how they are cut into pieces and where a call is
interrupted makes no difference.

A writer takes bytes until it fails.
-/

namespace ResumeIr.Foundation

inductive IoError where
  | unexpectedEof
  | other
  deriving DecidableEq

/-- What a reader has for one call. -/
inductive Delivery where
  | bytes (first : UInt8) (rest : List UInt8)
  | interrupted
  | failed
  deriving DecidableEq

def Delivery.content : Delivery → List UInt8
  | .bytes first rest => first :: rest
  | _ => []

/-- What a reader is going to deliver before it ends. -/
abbrev Reader := List Delivery

namespace Reader

/-- The bytes that are left. -/
def content (reader : Reader) : List UInt8 := reader.flatMap Delivery.content

/-- No call fails. Calls may be interrupted. -/
def Steady (reader : Reader) : Prop := Delivery.failed ∉ reader

/-- The reader that has some bytes put back. -/
def unread (bytes : List UInt8) (reader : Reader) : Reader :=
  match bytes with
  | [] => reader
  | first :: rest => .bytes first rest :: reader

inductive ReadResult where
  | ok (bytes : List UInt8)
  | interrupted
  | failed

/-- One call with room for a number of bytes. No bytes mean the end. -/
def read (reader : Reader) (count : Nat) : ReadResult × Reader :=
  match reader with
  | [] => (.ok [], [])
  | .interrupted :: reader => (.interrupted, reader)
  | .failed :: reader => (.failed, reader)
  | .bytes first rest :: reader =>
      (.ok ((first :: rest).take count), unread ((first :: rest).drop count) reader)

/-- Calls until there are as many bytes as wanted. -/
def readExact : Reader → Nat → Except IoError (List UInt8 × Reader)
  | reader, 0 => .ok ([], reader)
  | [], _ + 1 => .error .unexpectedEof
  | .interrupted :: reader, count + 1 => readExact reader (count + 1)
  | .failed :: _, _ + 1 => .error .other
  | .bytes first rest :: reader, count + 1 =>
      if rest.length ≤ count then
        (readExact reader (count - rest.length)).map fun result =>
          (first :: rest ++ result.1, result.2)
      else .ok ((first :: rest).take (count + 1), unread ((first :: rest).drop (count + 1)) reader)

/-- The loop: an interrupted call is made again, and a short read is followed by another
one. -/
theorem readExact_succ (reader : Reader) (count : Nat) :
    reader.readExact (count + 1) = match reader.read (count + 1) with
      | (.ok [], _) => .error .unexpectedEof
      | (.ok (first :: rest), reader) =>
          (reader.readExact (count - rest.length)).map fun result =>
            (first :: rest ++ result.1, result.2)
      | (.interrupted, reader) => reader.readExact (count + 1)
      | (.failed, _) => .error .other := by
  match reader with
  | [] => rfl
  | .interrupted :: reader => rfl
  | .failed :: reader => rfl
  | .bytes first rest :: reader =>
    simp only [readExact, read, List.take_succ_cons]
    split
    next le =>
      rw [List.take_of_length_le le, List.drop_eq_nil_of_le (by simpa using le)]
      rfl
    next more =>
      have length : (rest.take count).length = count := by
        rw [List.length_take]
        omega
      rw [length]
      simp [readExact, Except.map]

@[simp] theorem content_nil : content [] = [] := rfl

@[simp] theorem content_cons (delivery : Delivery) (reader : Reader) :
    content (delivery :: reader) = delivery.content ++ reader.content := rfl

@[simp] theorem content_unread (bytes : List UInt8) (reader : Reader) :
    (unread bytes reader).content = bytes ++ reader.content := by
  cases bytes <;> rfl

theorem Steady.tail {delivery : Delivery} {reader : Reader} (steady : Steady (delivery :: reader)) :
    reader.Steady :=
  fun member => steady (List.mem_cons_of_mem _ member)

theorem Steady.unread {reader : Reader} (steady : reader.Steady) (bytes : List UInt8) :
    (unread bytes reader).Steady := by
  cases bytes with
  | nil => exact steady
  | cons first rest =>
    intro member
    obtain same | member := List.mem_cons.mp member
    · cases same
    · exact steady member

/-- What is left of a reader after a number of bytes was taken from it. -/
structure After (reader : Reader) (count : Nat) (rest : Reader) : Prop where
  content : rest.content = reader.content.drop count
  steady : rest.Steady

/-- A reader with enough bytes gives the first ones. -/
theorem readExact_of_le {reader : Reader} {count : Nat} (steady : reader.Steady)
    (le : count ≤ reader.content.length) :
    ∃ rest, reader.readExact count = .ok (reader.content.take count, rest) ∧
      reader.After count rest := by
  induction reader generalizing count with
  | nil =>
    obtain rfl := Nat.le_zero.mp le
    exact ⟨[], rfl, rfl, steady⟩
  | cons delivery reader ih =>
    cases count with
    | zero => exact ⟨delivery :: reader, by simp [readExact], by simp, steady⟩
    | succ count =>
      cases delivery with
      | failed => exact absurd List.mem_cons_self steady
      | interrupted =>
        obtain ⟨rest, read, after⟩ := ih steady.tail le
        exact ⟨rest, read, after.content, after.steady⟩
      | bytes first more =>
        simp only [readExact]
        split
        next short =>
          have enough : count - more.length ≤ (content reader).length := by
            simp [Delivery.content] at le
            omega
          obtain ⟨rest, read, after⟩ := ih steady.tail enough
          refine ⟨rest, ?_, ?_, after.steady⟩
          · rw [read]
            simp [Except.map, Delivery.content, List.take_append, List.take_of_length_le short]
          · simp [after.content, Delivery.content, List.drop_append,
              List.drop_eq_nil_of_le short]
        next long =>
          refine ⟨unread ((first :: more).drop (count + 1)) reader, ?_, ?_, steady.tail.unread _⟩
          · have fits : count ≤ more.length := by omega
            simp [Delivery.content, List.take_append_of_le_length fits]
          · have fits : count ≤ more.length := by omega
            simp [Delivery.content, List.drop_append_of_le_length fits]

/-- A reader with too few bytes gives none. -/
theorem readExact_of_lt {reader : Reader} {count : Nat} (steady : reader.Steady)
    (lt : reader.content.length < count) : reader.readExact count = .error .unexpectedEof := by
  induction reader generalizing count with
  | nil =>
    cases count with
    | zero => cases lt
    | succ count => rfl
  | cons delivery reader ih =>
    cases count with
    | zero => cases lt
    | succ count =>
      cases delivery with
      | failed => exact absurd List.mem_cons_self steady
      | interrupted => exact ih steady.tail lt
      | bytes first more =>
        simp only [content_cons, Delivery.content, List.length_append, List.length_cons] at lt
        have short : more.length ≤ count := by omega
        simp only [readExact, short]
        rw [ih steady.tail (by omega)]
        rfl

end Reader

/-! ## Writers -/

/-- A writer with what it was given. With a limit it fails when it is given more. -/
structure Writer where
  written : List UInt8
  limit : Option Nat
  flushes : Bool

namespace Writer

open Fallible

variable {ε : Type}

/-- As much as the writer takes of some bytes. -/
def taken (writer : Writer) (bytes : List UInt8) : List UInt8 :=
  match writer.limit with
  | none => bytes
  | some limit => bytes.take (limit - writer.written.length)

def writeAll (bytes : List UInt8) (error : ε) : EStateM ε Writer Unit := do
  let writer ← get
  modify fun writer => { writer with written := writer.written ++ writer.taken bytes }
  require (writer.taken bytes = bytes) error

def flush (error : ε) : EStateM ε Writer Unit := do
  let writer ← get
  require (writer.flushes = true) error

/-- A writer that does not fail has taken everything. -/
theorem run_writeAll_eq_ok {bytes : List UInt8} {error : ε} {writer after : Writer} {done : Unit}
    (ok : (writeAll bytes error).run writer = .ok done after) :
    after = { writer with written := writer.written ++ bytes } := by
  unfold writeAll at ok
  rw [run_get_bind, run_bind_eq_ok] at ok
  obtain ⟨_, middle, wrote, ok⟩ := ok
  obtain ⟨all, rfl⟩ := run_require_eq_ok.mp ok
  rw [← run_modify_eq_ok.mp wrote, all]

theorem run_flush_eq_ok {error : ε} {writer after : Writer} {done : Unit}
    (ok : (flush error).run writer = .ok done after) : after = writer := by
  exact (run_require_eq_ok.mp ok).2.symm

end Writer

end ResumeIr.Foundation
