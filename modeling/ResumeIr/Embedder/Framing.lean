import Mathlib.Algebra.Group.Nat.Defs
import ResumeIr.Foundation.ByteStream

/-!
# Frames between the supervisor and its worker

A message is sent as a frame: the length of its JSON text in four bytes and the text. A
stream of frames is read back as the messages it was written from, however the reader cuts
it into pieces (`readFrames_of_written`). A stream that ends early is read up to the last
whole frame (`readFrames_of_cut`).
-/

namespace ResumeIr.Embedder

open Foundation Fallible

inductive ProtocolError where
  | io (error : IoError)
  | frameTooLarge
  | invalidPayload
  deriving DecidableEq

/-- The JSON library for one type of messages. Serialization is a number of writes, after
which it may still fail. -/
structure Json (α : Type) where
  toWriter : α → List (List UInt8) × Bool
  fromSlice : List UInt8 → Option α
  roundTrips : ∀ value writes, toWriter value = (writes, true) →
    fromSlice writes.flatten = some value

/-! ## Writing -/

def u32Max : Nat := 2 ^ 32 - 1

/-- A buffer that refuses to grow beyond its bound. -/
structure BoundedBuffer where
  bytes : List UInt8
  maxBytes : Nat
  bounded : bytes.length ≤ maxBytes

namespace BoundedBuffer

def new (maxBytes : Nat) : BoundedBuffer := ⟨[], maxBytes, Nat.zero_le _⟩

def write (buffer : BoundedBuffer) (bytes : List UInt8) : Option BoundedBuffer :=
  if large : buffer.bytes.length + bytes.length > buffer.maxBytes then none
  else some ⟨buffer.bytes ++ bytes, buffer.maxBytes, by
    rw [List.length_append]
    omega⟩

theorem write_eq_some {buffer after : BoundedBuffer} {bytes : List UInt8}
    (wrote : buffer.write bytes = some after) :
    after.bytes = buffer.bytes ++ bytes ∧ after.maxBytes = buffer.maxBytes := by
  unfold write at wrote
  split at wrote
  · cases wrote
  · obtain rfl := Option.some.inj wrote
    exact ⟨rfl, rfl⟩

/-- The writes of a serialization, one after the other. -/
theorem foldlM_write_eq_some {writes : List (List UInt8)} {buffer after : BoundedBuffer}
    (wrote : writes.foldlM write buffer = some after) :
    after.bytes = buffer.bytes ++ writes.flatten ∧ after.maxBytes = buffer.maxBytes := by
  induction writes generalizing buffer with
  | nil =>
    obtain rfl := Option.some.inj wrote
    exact ⟨(List.append_nil _).symm, rfl⟩
  | cons bytes rest ih =>
    obtain ⟨middle, first, rest⟩ := Option.bind_eq_some_iff.mp wrote
    obtain ⟨content, bound⟩ := write_eq_some first
    obtain ⟨later, same⟩ := ih rest
    rw [later, content, List.append_assoc, same, bound]
    exact ⟨rfl, rfl⟩

end BoundedBuffer

/-- The four bytes of a number, the highest first. -/
def toBeBytes (size : Nat) : List UInt8 :=
  [UInt8.ofNat (size / 2 ^ 24), UInt8.ofNat (size / 2 ^ 16), UInt8.ofNat (size / 2 ^ 8),
    UInt8.ofNat size]

def fromBeBytes (bytes : List UInt8) : Nat := bytes.foldl (fun size byte => size * 256 + byte.toNat) 0

theorem fromBeBytes_toBeBytes {size : Nat} (fits : size ≤ u32Max) :
    fromBeBytes (toBeBytes size) = size := by
  simp only [fromBeBytes, toBeBytes, List.foldl_cons, List.foldl_nil, UInt8.toNat_ofNat', u32Max]
    at fits ⊢
  omega

@[simp] theorem length_toBeBytes (size : Nat) : (toBeBytes size).length = 4 := rfl

variable {α : Type}

variable (json : Json α)

/-- The text of a message, as far as a frame has room for it. -/
def payloadOf (value : α) (maxBytes : Nat) : Except ProtocolError (List UInt8) :=
  let (writes, serialized) := json.toWriter value
  match writes.foldlM BoundedBuffer.write (.new (min maxBytes u32Max)) with
  | none => .error .frameTooLarge
  | some buffer => if serialized then .ok buffer.bytes else .error .invalidPayload

def writeFrame (maxBytes : Nat) (value : α) : EStateM ProtocolError Writer Unit := do
  let payload ← ofExcept (payloadOf json value maxBytes)
  require (payload ≠ []) .frameTooLarge
  Writer.writeAll (toBeBytes payload.length) (.io .other)
  Writer.writeAll payload (.io .other)
  Writer.flush (.io .other)

/-- Messages that are sent one after the other. -/
def writeFrames (maxBytes : Nat) (values : List α) : EStateM ProtocolError Writer Unit :=
  forM values (writeFrame json maxBytes)

/-! ## Reading -/

/-- A call that is interrupted is made again. -/
def readPrefixByte : Reader → Except ProtocolError (Option UInt8 × Reader)
  | [] => .ok (none, [])
  | .interrupted :: reader => readPrefixByte reader
  | .failed :: _ => .error (.io .other)
  | .bytes first rest :: reader => .ok (some first, Reader.unread rest reader)

/-- The loop of `read_prefix_byte`, which reads one byte at a time. -/
theorem readPrefixByte_eq (reader : Reader) :
    readPrefixByte reader = match reader.read 1 with
      | (.ok [], reader) => .ok (none, reader)
      | (.ok (byte :: _), reader) => .ok (some byte, reader)
      | (.interrupted, reader) => readPrefixByte reader
      | (.failed, _) => .error (.io .other) := by
  match reader with
  | [] => rfl
  | .interrupted :: reader => rfl
  | .failed :: reader => rfl
  | .bytes first rest :: reader => rfl

def readExact (reader : Reader) (count : Nat) : Except ProtocolError (List UInt8 × Reader) :=
  (reader.readExact count).mapError .io

def readFrame (maxBytes : Nat) (reader : Reader) : Except ProtocolError (Option α × Reader) := do
  match ← readPrefixByte reader with
  | (none, reader) => .ok (none, reader)
  | (some first, reader) =>
      let (rest, reader) ← readExact reader 3
      let size := fromBeBytes (first :: rest)
      check (size ≠ 0 ∧ size ≤ maxBytes) .frameTooLarge
      let (payload, reader) ← readExact reader size
      let value ← present (json.fromSlice payload) .invalidPayload
      .ok (some value, reader)

/-- How a stream ends. -/
inductive StreamEnd where
  | clean
  | failed (error : ProtocolError)
  deriving DecidableEq

/-- Frames are read until there are no more or one cannot be read. The fuel bounds the
number of frames. -/
def readFrames (json : Json α) (maxBytes : Nat) : Nat → Reader → List α × Option StreamEnd
  | 0, _ => ([], none)
  | fuel + 1, reader =>
      match readFrame json maxBytes reader with
      | .error error => ([], some (.failed error))
      | .ok (none, _) => ([], some .clean)
      | .ok (some value, reader) =>
          let (values, ending) := readFrames json maxBytes fuel reader
          (value :: values, ending)

/-! ## What is written -/

/-- The bytes of a message. -/
def frameBytes (maxBytes : Nat) (value : α) : List UInt8 :=
  match payloadOf json value maxBytes with
  | .ok payload => toBeBytes payload.length ++ payload
  | .error _ => []

/-- A frame that holds a message. -/
structure Framed (maxBytes : Nat) (value : α) (payload : List UInt8) : Prop where
  bytes : frameBytes json maxBytes value = toBeBytes payload.length ++ payload
  reads : json.fromSlice payload = some value
  nonempty : payload ≠ []
  fits : payload.length ≤ maxBytes
  counted : payload.length ≤ u32Max

section Written

variable {json : Json α} {maxBytes : Nat} {value : α} {values : List α} {writer after : Writer}

theorem payloadOf_eq_ok {payload : List UInt8} (made : payloadOf json value maxBytes = .ok payload) :
    json.fromSlice payload = some value ∧ payload.length ≤ min maxBytes u32Max := by
  unfold payloadOf at made
  dsimp only at made
  split at made
  · cases made
  next buffer wrote =>
    obtain ⟨content, bound⟩ := BoundedBuffer.foldlM_write_eq_some wrote
    split at made
    next serialized =>
      obtain rfl := Except.ok.inj made
      constructor
      · rw [content]
        exact json.roundTrips value _ (Prod.ext rfl serialized)
      · have bounded := buffer.bounded
        rwa [bound] at bounded
    · cases made

theorem run_writeFrame_eq_ok (ok : (writeFrame json maxBytes value).run writer = .ok () after) :
    after.written = writer.written ++ frameBytes json maxBytes value ∧
      ∃ payload, Framed json maxBytes value payload := by
  obtain ⟨payload, made, ok⟩ := run_ofExcept_bind_eq_ok.mp ok
  obtain ⟨nonempty, ok⟩ := run_require_bind_eq_ok.mp ok
  obtain ⟨_, _, first, ok⟩ := run_bind_eq_ok.mp ok
  obtain ⟨_, _, second, ok⟩ := run_bind_eq_ok.mp ok
  obtain rfl := Writer.run_writeAll_eq_ok first
  obtain rfl := Writer.run_writeAll_eq_ok second
  obtain rfl := Writer.run_flush_eq_ok ok
  obtain ⟨reads, fits⟩ := payloadOf_eq_ok made
  have bytes : frameBytes json maxBytes value = toBeBytes payload.length ++ payload := by
    rw [frameBytes, made]
  refine ⟨?_, payload, bytes, reads, nonempty, ?_, ?_⟩
  · rw [bytes]
    exact List.append_assoc _ _ _
  · omega
  · omega

theorem run_writeFrames_eq_ok (ok : (writeFrames json maxBytes values).run writer = .ok () after) :
    after.written = writer.written ++ values.flatMap (frameBytes json maxBytes) ∧
      ∀ value ∈ values, ∃ payload, Framed json maxBytes value payload := by
  induction values generalizing writer with
  | nil =>
    cases ok
    exact ⟨(List.append_nil _).symm, nofun⟩
  | cons value rest ih =>
    obtain ⟨_, middle, first, ok⟩ := run_bind_eq_ok.mp ok
    obtain ⟨written, framed⟩ := run_writeFrame_eq_ok first
    obtain ⟨later, all⟩ := ih ok
    refine ⟨?_, ?_⟩
    · rw [later, written, List.flatMap_cons, List.append_assoc]
    · intro other member
      obtain rfl | member := List.mem_cons.mp member
      · exact framed
      · exact all other member

/-- The first messages of a sequence can be sent without the others. -/
theorem run_writeFrames_take (ok : (writeFrames json maxBytes values).run writer = .ok () after)
    (count : Nat) :
    ∃ middle, (writeFrames json maxBytes (values.take count)).run writer = .ok () middle := by
  unfold writeFrames at ok ⊢
  rw [← List.take_append_drop count values, List.forM_append] at ok
  obtain ⟨_, middle, first, _⟩ := run_bind_eq_ok.mp ok
  exact ⟨middle, first⟩

end Written

/-! ## What is read -/

section Read

variable {json : Json α} {maxBytes limit : Nat} {value : α} {values : List α} {reader : Reader}
  {payload : List UInt8}

theorem readPrefixByte_of_nil (steady : reader.Steady) (empty : reader.content = []) :
    ∃ rest, readPrefixByte reader = .ok (none, rest) := by
  induction reader with
  | nil => exact ⟨[], rfl⟩
  | cons delivery reader ih =>
    cases delivery with
    | bytes first rest => cases empty
    | interrupted => exact ih steady.tail empty
    | failed => exact absurd List.mem_cons_self steady

theorem readPrefixByte_of_cons {byte : UInt8} {bytes : List UInt8} (steady : reader.Steady)
    (content : reader.content = byte :: bytes) :
    ∃ rest : Reader, readPrefixByte reader = .ok (some byte, rest) ∧ rest.content = bytes ∧
      rest.Steady := by
  induction reader with
  | nil => cases content
  | cons delivery reader ih =>
    cases delivery with
    | bytes first rest =>
      obtain ⟨rfl, rfl⟩ := List.cons.inj content
      exact ⟨_, rfl, Reader.content_unread _ _, steady.tail.unread rest⟩
    | interrupted => exact ih steady.tail content
    | failed => exact absurd List.mem_cons_self steady

theorem readExact_of_append {bytes more : List UInt8} (steady : reader.Steady)
    (content : reader.content = bytes ++ more) :
    ∃ rest : Reader, readExact reader bytes.length = .ok (bytes, rest) ∧ rest.content = more ∧
      rest.Steady := by
  have enough : bytes.length ≤ reader.content.length := by
    rw [content, List.length_append]
    omega
  obtain ⟨rest, read, after⟩ := Reader.readExact_of_le steady enough
  refine ⟨rest, ?_, ?_, after.steady⟩
  · rw [readExact, read, content, List.take_left]
    rfl
  · rw [after.content, content, List.drop_left]

theorem readExact_of_short {count : Nat} (steady : reader.Steady)
    (short : reader.content.length < count) :
    readExact reader count = .error (.io .unexpectedEof) := by
  rw [readExact, Reader.readExact_of_lt steady short]
  rfl

theorem readFrame_of_nil (steady : reader.Steady) (empty : reader.content = []) :
    ∃ rest, readFrame json limit reader = .ok (none, rest) := by
  obtain ⟨rest, read⟩ := readPrefixByte_of_nil steady empty
  exact ⟨rest, by rw [readFrame, read]; rfl⟩

/-- What is left to do after the first byte of a frame. -/
theorem readFrame_of_cons {byte : UInt8} {bytes : List UInt8} (steady : reader.Steady)
    (content : reader.content = byte :: bytes) :
    ∃ rest : Reader, rest.content = bytes ∧ rest.Steady ∧ readFrame json limit reader = (do
      let (more, reader) ← readExact rest 3
      let size := fromBeBytes (byte :: more)
      check (size ≠ 0 ∧ size ≤ limit) .frameTooLarge
      let (payload, reader) ← readExact reader size
      let value ← present (json.fromSlice payload) .invalidPayload
      .ok (some value, reader)) := by
  obtain ⟨rest, read, after, still⟩ := readPrefixByte_of_cons steady content
  exact ⟨rest, after, still, by rw [readFrame, read]; rfl⟩

/-- A frame is read as the message it holds. -/
theorem readFrame_of_framed (framed : Framed json maxBytes value payload) (le : maxBytes ≤ limit)
    (steady : reader.Steady) {more : List UInt8}
    (content : reader.content = frameBytes json maxBytes value ++ more) :
    ∃ rest : Reader, readFrame json limit reader = .ok (some value, rest) ∧ rest.content = more ∧
      rest.Steady := by
  obtain ⟨bytes, reads, nonempty, fits, counted⟩ := framed
  rw [bytes, List.append_assoc] at content
  obtain ⟨first, started, steady, read⟩ := @readFrame_of_cons α json limit _ _ _ steady content
  obtain ⟨second, size, sized, steady⟩ := readExact_of_append steady started
  obtain ⟨third, text, ended, steady⟩ := readExact_of_append steady sized
  have positive := List.length_pos_iff.mpr nonempty
  refine ⟨third, ?_, ended, steady⟩
  rw [read, bind_ok_iff]
  refine ⟨_, size, check_bind_eq_ok.mpr ?_⟩
  show (fromBeBytes (toBeBytes payload.length) ≠ 0 ∧
    fromBeBytes (toBeBytes payload.length) ≤ limit) ∧
      (readExact second (fromBeBytes (toBeBytes payload.length)) >>= _) = _
  rw [fromBeBytes_toBeBytes counted, bind_ok_iff]
  exact ⟨by omega, _, text, bind_ok_iff.mpr ⟨value, present_eq_ok.mpr reads, rfl⟩⟩

/-- A frame that is cut short cannot be read. -/
theorem readFrame_of_part (framed : Framed json maxBytes value payload) (le : maxBytes ≤ limit)
    (steady : reader.Steady) (cut : reader.content <+: frameBytes json maxBytes value)
    (proper : reader.content ≠ frameBytes json maxBytes value) (nonempty : reader.content ≠ []) :
    readFrame json limit reader = .error (.io .unexpectedEof) := by
  obtain ⟨bytes, reads, filled, fits, counted⟩ := framed
  have taken := List.prefix_iff_eq_take.mp cut
  have shorter : reader.content.length < 4 + payload.length := by
    have less := cut.length_le
    have differs : reader.content.length ≠ (frameBytes json maxBytes value).length :=
      fun same => proper (cut.eq_of_length same)
    rw [bytes, List.length_append, length_toBeBytes] at less differs
    omega
  obtain ⟨count, length⟩ := Nat.exists_eq_add_one.mpr (List.length_pos_iff.mpr nonempty)
  rw [bytes, length] at taken
  obtain ⟨first, started, steady, read⟩ := @readFrame_of_cons α json limit _ _ _ steady taken
  rw [read, bind_error_iff]
  by_cases header : 3 ≤ count
  · -- the length is there, and the text is not complete
    have split : first.content = (toBeBytes payload.length).tail ++ payload.take (count - 3) := by
      rw [started]
      exact List.take_append.trans (by rw [List.take_of_length_le header]; rfl)
    obtain ⟨second, size, sized, steady⟩ := readExact_of_append steady split
    have short : second.content.length < payload.length := by
      rw [sized, List.length_take]
      omega
    refine .inr ⟨_, size, bind_error_iff.mpr (.inr ⟨(), ?_⟩)⟩
    show check (fromBeBytes (toBeBytes payload.length) ≠ 0 ∧
      fromBeBytes (toBeBytes payload.length) ≤ limit) _ = _ ∧
        (readExact second (fromBeBytes (toBeBytes payload.length)) >>= _) = _
    rw [fromBeBytes_toBeBytes counted]
    exact ⟨check_eq_ok.mpr (by omega),
      bind_error_iff.mpr (.inl (readExact_of_short steady short))⟩
  · refine .inl (readExact_of_short steady ?_)
    rw [started]
    exact Nat.lt_of_le_of_lt (List.length_take_le _ _) (by omega)

/-! ## Streams -/

theorem readFrames_of_message {fuel : Nat} {rest : Reader}
    (read : readFrame json limit reader = .ok (some value, rest)) :
    readFrames json limit (fuel + 1) reader =
      (value :: (readFrames json limit fuel rest).1, (readFrames json limit fuel rest).2) := by
  rw [readFrames, read]

/-- Whole frames are read before anything else. -/
theorem readFrames_append (framed : ∀ value ∈ values, ∃ payload, Framed json maxBytes value payload)
    (le : maxBytes ≤ limit) (steady : reader.Steady) {more : List UInt8}
    (content : reader.content = values.flatMap (frameBytes json maxBytes) ++ more) :
    ∃ rest : Reader, rest.content = more ∧ rest.Steady ∧ ∀ fuel,
      readFrames json limit (values.length + fuel) reader =
        (values ++ (readFrames json limit fuel rest).1, (readFrames json limit fuel rest).2) := by
  induction values generalizing reader with
  | nil => exact ⟨reader, content, steady, fun fuel => by rw [List.length_nil, Nat.zero_add]; rfl⟩
  | cons value values ih =>
    obtain ⟨payload, here⟩ := framed value List.mem_cons_self
    rw [List.flatMap_cons, List.append_assoc] at content
    obtain ⟨next, read, content, steady⟩ := readFrame_of_framed here le steady content
    obtain ⟨rest, content, steady, later⟩ :=
      ih (fun other member => framed other (List.mem_cons_of_mem _ member)) steady content
    refine ⟨rest, content, steady, fun fuel => ?_⟩
    rw [List.length_cons, Nat.add_right_comm, readFrames_of_message read, later]
    rfl

/-- A stream of whole frames ends cleanly. -/
theorem readFrames_of_written
    (framed : ∀ value ∈ values, ∃ payload, Framed json maxBytes value payload)
    (le : maxBytes ≤ limit) (steady : reader.Steady)
    (content : reader.content = values.flatMap (frameBytes json maxBytes)) {fuel : Nat}
    (enough : values.length < fuel) :
    readFrames json limit fuel reader = (values, some .clean) := by
  obtain ⟨rest, nothing, steady, read⟩ := readFrames_append framed le steady
    (content.trans (List.append_nil _).symm)
  obtain ⟨last, done⟩ := @readFrame_of_nil α json limit _ steady nothing
  obtain ⟨more, rfl⟩ : ∃ more, fuel = values.length + (more + 1) :=
    ⟨fuel - values.length - 1, by omega⟩
  rw [read, readFrames, done]
  simp

/-- A stream that ends within a frame is read up to that frame. -/
theorem readFrames_of_cut
    (framed : ∀ value ∈ values, ∃ payload, Framed json maxBytes value payload)
    (le : maxBytes ≤ limit) (steady : reader.Steady) {more : List UInt8}
    (content : reader.content = values.flatMap (frameBytes json maxBytes) ++ more)
    (here : Framed json maxBytes value payload) (part : more <+: frameBytes json maxBytes value)
    (proper : more ≠ frameBytes json maxBytes value) (nonempty : more ≠ []) {fuel : Nat}
    (enough : values.length < fuel) :
    readFrames json limit fuel reader = (values, some (.failed (.io .unexpectedEof))) := by
  obtain ⟨rest, left, steady, read⟩ := readFrames_append framed le steady content
  have failed : readFrame json limit rest = .error (.io .unexpectedEof) :=
    readFrame_of_part here le steady (left ▸ part) (left ▸ proper) (left ▸ nonempty)
  obtain ⟨extra, rfl⟩ : ∃ extra, fuel = values.length + (extra + 1) :=
    ⟨fuel - values.length - 1, by omega⟩
  rw [read, readFrames, failed]
  simp

/-- A part of a stream ends within some frame. -/
theorem exists_cut {frame : α → List UInt8} {part : List UInt8}
    (cut : part <+: values.flatMap frame) (proper : part ≠ values.flatMap frame) :
    ∃ done value rest, values = done ++ value :: rest ∧ ∃ more, part = done.flatMap frame ++ more ∧
      more <+: frame value ∧ more ≠ frame value := by
  induction values generalizing part with
  | nil => exact absurd (List.prefix_nil.mp cut) proper
  | cons value rest ih =>
    rw [List.flatMap_cons] at cut proper
    by_cases within : part <+: frame value ∧ part ≠ frame value
    · exact ⟨[], value, rest, rfl, part, rfl, within⟩
    have whole : frame value <+: part := by
      obtain before | after :=
        List.prefix_or_prefix_of_prefix cut (List.prefix_append (frame value) _)
      · by_cases same : part = frame value
        · exact same ▸ List.prefix_rfl
        · exact absurd ⟨before, same⟩ within
      · exact after
    obtain ⟨later, rfl⟩ := whole
    obtain ⟨done, next, rest, rfl, more, rfl, cut, proper⟩ :=
      ih ((List.prefix_append_right_inj _).mp cut) fun same => proper (by rw [same])
    refine ⟨value :: done, next, rest, rfl, more, ?_, cut, proper⟩
    rw [List.flatMap_cons, List.append_assoc]

/-- A stream that ends within a frame does not end where the first messages do. -/
theorem eq_nil_of_boundary {frame : α → List UInt8} {done rest : List α} {more : List UInt8}
    (cut : more <+: frame value) (proper : more ≠ frame value) {count : Nat}
    (boundary : done.flatMap frame ++ more = ((done ++ value :: rest).take count).flatMap frame) :
    more = [] := by
  have less : more.length < (frame value).length :=
    Nat.lt_of_le_of_ne cut.length_le fun same => proper (cut.eq_of_length same)
  have lengths := congrArg List.length boundary
  rw [List.length_append] at lengths
  by_cases short : count ≤ done.length
  · rw [List.take_append_of_le_length short] at lengths
    have within : ((done.take count).flatMap frame).length ≤ (done.flatMap frame).length := by
      rw [← List.take_append_drop count done, List.flatMap_append, List.take_append_drop,
        List.length_append]
      exact Nat.le_add_right _ _
    exact List.eq_nil_of_length_eq_zero (by omega)
  · obtain ⟨extra, rfl⟩ : ∃ extra, count = done.length + (extra + 1) :=
      ⟨count - done.length - 1, by omega⟩
    rw [List.take_length_add_append, List.take_succ_cons, List.flatMap_append, List.flatMap_cons,
      List.length_append, List.length_append] at lengths
    omega

end Read

/-- The bytes that a writer has been given by the first messages of a sequence. -/
def Sends (json : Json α) (maxBytes : Nat) (writer : Writer) (values : List α)
    (bytes : List UInt8) : Prop :=
  ∃ after, (writeFrames json maxBytes values).run writer = .ok () after ∧
    after.written = writer.written ++ bytes

/-- **Frames round trip.** Messages that a writer has accepted are read back in order, and
then the stream ends. A stream that is cut is read up to its last whole frame. It ends
cleanly if the cut is at the end of a frame, and with an error otherwise. -/
theorem frames_round_trip (json : Json α) {maxBytes limit : Nat} (le : maxBytes ≤ limit)
    {values : List α} {writer : Writer} {bytes : List UInt8}
    (sent : Sends json maxBytes writer values bytes) :
    (∀ (reader : Reader) fuel, reader.Steady → reader.content = bytes → values.length < fuel →
      readFrames json limit fuel reader = (values, some .clean)) ∧
    ∀ (reader : Reader) fuel, reader.Steady → reader.content <+: bytes → reader.content ≠ bytes →
      values.length < fuel → ∃ count < values.length, ∃ ending,
        readFrames json limit fuel reader = (values.take count, some ending) ∧
          (ending = .clean → Sends json maxBytes writer (values.take count) reader.content) ∧
          ∀ other, Sends json maxBytes writer (values.take other) reader.content →
            ending = .clean := by
  obtain ⟨after, ok, written⟩ := sent
  obtain ⟨all, framed⟩ := run_writeFrames_eq_ok ok
  obtain rfl : bytes = _ := List.append_cancel_left (written.symm.trans all)
  refine ⟨fun reader fuel steady content enough =>
    readFrames_of_written framed le steady content enough,
    fun reader fuel steady cut proper enough => ?_⟩
  obtain ⟨done, value, rest, rfl, more, content, part, improper⟩ := exists_cut cut proper
  have first : (done ++ value :: rest).take done.length = done := List.take_left
  have before : ∀ other ∈ done, ∃ payload, Framed json maxBytes other payload :=
    fun other member => framed other (List.mem_append_left _ member)
  obtain ⟨payload, here⟩ := framed value (by simp)
  rw [List.length_append, List.length_cons] at enough ⊢
  refine ⟨done.length, by omega, ?_⟩
  rw [first]
  by_cases empty : more = []
  · subst empty
    rw [List.append_nil] at content
    refine ⟨.clean, readFrames_of_written before le steady content (by omega), fun _ => ?_,
      fun _ _ => rfl⟩
    obtain ⟨middle, sent⟩ := run_writeFrames_take ok done.length
    rw [first] at sent
    refine ⟨middle, sent, ?_⟩
    rw [(run_writeFrames_eq_ok sent).1, content]
  · refine ⟨.failed (.io .unexpectedEof),
      readFrames_of_cut before le steady content here part improper empty (by omega), nofun, ?_⟩
    rintro other ⟨middle, sent, given⟩
    rw [(run_writeFrames_eq_ok sent).1, content] at given
    exact absurd (eq_nil_of_boundary part improper (List.append_cancel_left given).symm) empty

/-- Messages that are their own text, written in one piece. -/
def sampleJson : Json (List UInt8) where
  toWriter value := ([value], true)
  fromSlice := some
  roundTrips := by
    rintro value _ ⟨⟩
    simp

def sampleWriter : Writer := ⟨[], none, true⟩

def sampleMessages : List (List UInt8) := [[7], [8, 9]]

theorem sampleMessages_sent :
    Sends sampleJson 16 sampleWriter sampleMessages [0, 0, 0, 1, 7, 0, 0, 0, 2, 8, 9] :=
  ⟨⟨[0, 0, 0, 1, 7, 0, 0, 0, 2, 8, 9], none, true⟩, by rfl, by rfl⟩

/-- The reader cuts the stream within both headers and is interrupted. The second stream
ends within the second message. -/
theorem frames_round_trip_of_sample :
    readFrames sampleJson 16 3
        [.bytes 0 [0], .interrupted, .bytes 0 [1, 7, 0, 0], .bytes 0 [2, 8, 9]] =
      (sampleMessages, some .clean) ∧
    ∃ count < sampleMessages.length, ∃ ending,
      readFrames sampleJson 16 3 [.bytes 0 [0, 0, 1, 7, 0], .interrupted, .bytes 0 [0, 2, 8]] =
        (sampleMessages.take count, some ending) := by
  obtain ⟨whole, cut⟩ := frames_round_trip sampleJson (Nat.le_refl 16) sampleMessages_sent
  refine ⟨whole _ 3 (by unfold Reader.Steady; decide) rfl (by decide), ?_⟩
  obtain ⟨count, less, ending, read, _⟩ := cut
    [.bytes 0 [0, 0, 1, 7, 0], .interrupted, .bytes 0 [0, 2, 8]] 3
    (by unfold Reader.Steady; decide) ⟨[9], rfl⟩ (by decide) (by decide)
  exact ⟨count, less, ending, read⟩

end ResumeIr.Embedder
