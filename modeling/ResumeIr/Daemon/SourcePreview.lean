import ResumeIr.CoreDomain.Document
import ResumeIr.Foundation.Table

/-!
# Previews of source files

A source file is verified before it is shown: it is read to its end, and what each read
returned is hashed. A preview is read later in chunks of 64 KiB, and each chunk must have
the hash that stands at its place.

The two fit together when every verifying read but the last one filled its buffer
(`VerifiedSourceFile.Aligned`). The operating system may return less. Then the hash at some
place is not that of the chunk (`chunkHashes_iff`), and the chunk of the file as it was
verified is refused. So the previews of a file are exact and available if and only if its
reads are aligned.

The hash is a parameter. Conversions between integer types do not fail, since no offset
exceeds the size of a source file.
-/

namespace ResumeIr.Daemon.SourcePreview

open CoreDomain Foundation Fallible

def maxSourceFileBytes : Nat := 256 * 1024 * 1024

def hashBufferBytes : Nat := 64 * 1024

def maxRangeBytes : Nat := 64 * 1024

def chunkBytes : Nat := maxRangeBytes

/-- In seconds, as all times here. -/
def leaseTtl : Int := 120

inductive SourceFileError where
  | staleSelection
  | sourceMissing
  | sourceChanged
  | unsafePath
  | metadataUnavailable
  | cancelled
  | io

inductive PreviewError where
  | source (error : SourceFileError)
  | leaseInvalid
  | rangeInvalid
  | io

/-! ## Verifying a file -/

/-- What one verifying read returned: some bytes, and no more than the buffer holds. -/
structure Piece where
  bytes : List UInt8
  nonempty : bytes ≠ []
  fits : bytes.length ≤ hashBufferBytes

def content (reads : List Piece) : List UInt8 := reads.flatMap (·.bytes)

variable {Digest : Type}

structure SearchSourceFileReference (Digest : Type) where
  contentHash : Digest
  byteSize : Nat
  extension : FileExtension

/-- What the file system answers while a file is opened and read. -/
structure Opening where
  safeRelativePath : Bool
  /-- The checks of the path, with the length of what was opened if it is a file. -/
  file : Except SourceFileError (Option Nat)
  isCancelled : Nat → Bool
  reads : List (Except SourceFileError Piece)

/-- A file that was read to its end. The reads themselves are not kept. -/
structure VerifiedSourceFile (sha256 : List UInt8 → Digest) where
  byteSize : Nat
  contentHash : Digest
  chunkHashes : List Digest
  extension : FileExtension
  reads : List Piece
  sized : byteSize = (content reads).length
  hashed : chunkHashes = reads.map fun piece => sha256 piece.bytes

/-- The loop of `open_reference`: every read, until one returns nothing. -/
def takeReads (byteSize : Nat) (isCancelled : Nat → Bool) (taken : List Piece) :
    List (Except SourceFileError Piece) → Except SourceFileError (List Piece)
  | [] => do
      check (isCancelled taken.length = false) .cancelled
      .ok taken
  | read :: rest => do
      check (isCancelled taken.length = false) .cancelled
      let piece ← read
      check ((content (taken ++ [piece])).length ≤ byteSize) .sourceChanged
      takeReads byteSize isCancelled (taken ++ [piece]) rest

variable {sha256 : List UInt8 → Digest}

/-- The open file of a lease. Others may write to it between two reads. -/
structure File where
  /-- `seek` and `read_exact`. -/
  readExact : Nat → Nat → Except PreviewError (List UInt8)
  exact : ∀ {start length bytes}, readExact start length = .ok bytes → bytes.length = length

/-- A lease holds the size and the hashes of the file that was verified. -/
structure PreviewLease (sha256 : List UInt8 → Digest) where
  leaseId : String
  source : VerifiedSourceFile sha256
  expiresAt : Int

structure PreviewRange where
  offset : Nat
  bytesRead : Nat
  totalBytes : Nat
  base64Data : String

inductive SearchSourceFileResolution (Digest : Type) where
  | current (reference : SearchSourceFileReference Digest)
  | stale
  | notFound

abbrev PreviewLeaseStore (sha256 : List UInt8 → Digest) :=
  Table fun lease : PreviewLease sha256 => lease.leaseId

def PreviewLease.renew (later : Int) (lease : PreviewLease sha256) : PreviewLease sha256 :=
  { lease with expiresAt := later + leaseTtl }

theorem PreviewLease.renew_leaseId (later : Int) (lease : PreviewLease sha256) :
    (lease.renew later).leaseId = lease.leaseId := rfl

variable [DecidableEq Digest]

def openReference (sha256 : List UInt8 → Digest) (reference : SearchSourceFileReference Digest)
    (opening : Opening) : Except SourceFileError (VerifiedSourceFile sha256) := do
  check (0 < reference.byteSize ∧ reference.byteSize ≤ maxSourceFileBytes ∧
    opening.safeRelativePath = true) .unsafePath
  let length ← opening.file
  check (length = some reference.byteSize) .sourceChanged
  let reads ← takeReads reference.byteSize opening.isCancelled [] opening.reads
  if exact : reference.byteSize = (content reads).length ∧
      sha256 (content reads) = reference.contentHash then
    .ok ⟨reference.byteSize, reference.contentHash, _, reference.extension, reads, exact.1, rfl⟩
  else .error .sourceChanged

/-! ## Reading a preview -/

def removeExpired (now : Int) (leases : PreviewLeaseStore sha256) : PreviewLeaseStore sha256 :=
  leases.delete fun lease => decide (lease.expiresAt ≤ now)

def slice (bytes : List UInt8) (start stop : Nat) : List UInt8 :=
  (bytes.drop start).take (stop - start)

/-- What is copied of one chunk. -/
def readChunk (source : VerifiedSourceFile sha256) (file : File) (offset stop index : Nat) :
    Except PreviewError (List UInt8) := do
  let chunkStart := index * chunkBytes
  let chunkEnd := min source.byteSize (chunkStart + chunkBytes)
  let chunk ← file.readExact chunkStart (chunkEnd - chunkStart)
  let expected ← present source.chunkHashes[index]? (.source .sourceChanged)
  check (sha256 chunk = expected) (.source .sourceChanged)
  .ok (slice chunk (max offset chunkStart - chunkStart) (min stop chunkEnd - chunkStart))

def readChunks (source : VerifiedSourceFile sha256) (file : File) (offset stop : Nat) :
    Nat → Nat → Except PreviewError (List UInt8)
  | _, 0 => .ok []
  | index, count + 1 => do
      let part ← readChunk source file offset stop index
      let rest ← readChunks source file offset stop (index + 1) count
      .ok (part ++ rest)

def readVerifiedRange (source : VerifiedSourceFile sha256) (file : File) (offset length : Nat) :
    Except PreviewError (List UInt8) := do
  let stop := offset + length
  let firstChunk := offset / chunkBytes
  let lastChunk := (stop - 1) / chunkBytes
  let requested ← readChunks source file offset stop firstChunk (lastChunk + 1 - firstChunk)
  check (requested.length = length) (.source .sourceChanged)
  .ok requested

/-- The selection of the lease still names the file that was verified. -/
def checkSelection (source : VerifiedSourceFile sha256) :
    Except Unit (SearchSourceFileResolution Digest) → Except PreviewError Unit
  | .error _ => .error (.source .metadataUnavailable)
  | .ok (.current reference) =>
      check (reference.byteSize = source.byteSize ∧ reference.contentHash = source.contentHash)
        (.source .sourceChanged)
  | .ok .stale => .error (.source .staleSelection)
  | .ok .notFound => .error (.source .sourceMissing)

/-- The resolution is the answer of the store for the selection of the lease. -/
def readRange (base64 : List UInt8 → String) (file : File)
    (resolution : Except Unit (SearchSourceFileResolution Digest)) (now later : Int)
    (leaseId : String) (offset length : Nat) :
    EStateM PreviewError (PreviewLeaseStore sha256) PreviewRange := do
  modify (removeExpired now)
  require (0 < length ∧ length ≤ maxRangeBytes) .rangeInvalid
  let leases ← get
  let lease ← demand (leases.find? leaseId) .leaseInvalid
  ofExcept (checkSelection lease.source resolution)
  require (offset < lease.source.byteSize) .rangeInvalid
  let bounded := min (lease.source.byteSize - offset) length
  let bytes ← ofExcept (readVerifiedRange lease.source file offset bounded)
  modify fun leases => leases.update leaseId (·.renew later) (PreviewLease.renew_leaseId later)
  pure ⟨offset, bytes.length, lease.source.byteSize, base64 bytes⟩

/-! ## When the hashes stand at the places of the chunks -/

section Slices

variable {bytes : List UInt8} {start middle stop : Nat}

theorem slice_of_le (empty : stop ≤ start) : slice bytes start stop = [] := by
  rw [slice, Nat.sub_eq_zero_of_le empty, List.take_zero]

theorem length_slice (fits : stop ≤ bytes.length) :
    (slice bytes start stop).length = stop - start := by
  rw [slice, List.length_take, List.length_drop]
  omega

theorem slice_slice {first last : Nat} (inside : start + last ≤ stop) :
    slice (slice bytes start stop) first last = slice bytes (start + first) (start + last) := by
  simp only [slice, List.drop_take, List.drop_drop, List.take_take]
  congr 1
  omega

theorem slice_append (before : start ≤ middle) (after : middle ≤ stop) :
    slice bytes start middle ++ slice bytes middle stop = slice bytes start stop := by
  have total : stop - start = (middle - start) + (stop - middle) := by omega
  rw [slice, slice, slice, total, List.take_add, List.drop_drop, Nat.add_sub_cancel' before]

/-- The parts of a range on both sides of a boundary. -/
theorem slice_join {low high offset : Nat} (before : low ≤ middle) (after : middle ≤ high) :
    slice bytes (max offset low) (min stop middle) ++ slice bytes (max offset middle) (min stop high)
      = slice bytes (max offset low) (min stop high) := by
  by_cases ended : stop ≤ middle
  · rw [slice_of_le (by omega : min stop high ≤ max offset middle), List.append_nil,
      min_eq_left ended, min_eq_left (ended.trans after)]
  by_cases later : middle ≤ offset
  · rw [slice_of_le (by omega : min stop middle ≤ max offset low), List.nil_append,
      max_eq_left later, max_eq_left (before.trans later)]
  · rw [min_eq_right (by omega : middle ≤ stop), max_eq_right (by omega : offset ≤ middle)]
    exact slice_append (by omega) (by omega)

end Slices

/-- The chunk at a place. -/
def chunk (bytes : List UInt8) (index : Nat) : List UInt8 :=
  slice bytes (index * chunkBytes) (min bytes.length (index * chunkBytes + chunkBytes))

theorem chunk_append {full rest : List UInt8} (length : full.length = chunkBytes) (index : Nat) :
    chunk (full ++ rest) (index + 1) = chunk rest index := by
  have dropped : (full ++ rest).drop ((index + 1) * chunkBytes) =
      rest.drop (index * chunkBytes) := by
    rw [Nat.succ_mul, Nat.add_comm, ← length, List.drop_length_add_append]
  have lengths : min (chunkBytes + rest.length) (index * chunkBytes + chunkBytes + chunkBytes) -
      (index * chunkBytes + chunkBytes) =
      min rest.length (index * chunkBytes + chunkBytes) - index * chunkBytes := by omega
  rw [chunk, slice, dropped, chunk, slice, List.length_append, length, Nat.succ_mul, lengths]

omit [DecidableEq Digest] in
/-- **Where the hashes stand.** The hashes of the reads are those of the chunks exactly if
every read but the last one filled its buffer. -/
theorem chunkHashes_iff (injective : Function.Injective sha256) (reads : List Piece) :
    (∀ index, index * chunkBytes < (content reads).length →
      (reads.map fun piece => sha256 piece.bytes)[index]? =
        some (sha256 (chunk (content reads) index))) ↔
      ∀ piece ∈ reads.dropLast, piece.bytes.length = hashBufferBytes := by
  induction reads with
  | nil => simp [content]
  | cons piece rest ih =>
    have fits : piece.bytes.length ≤ chunkBytes := piece.fits
    cases rest with
    | nil =>
      refine ⟨fun _ => by simp, fun _ index inside => ?_⟩
      have whole : content [piece] = piece.bytes := by simp [content]
      rw [whole] at inside ⊢
      obtain rfl : index = 0 := by
        by_contra later
        have := Nat.le_mul_of_pos_left chunkBytes (Nat.pos_of_ne_zero later)
        omega
      simp [chunk, slice, fits]
    | cons next others =>
      have split : content (piece :: next :: others) = piece.bytes ++ content (next :: others) := by
        simp [content]
      have more : 0 < (content (next :: others)).length := by
        have := List.length_pos_of_ne_nil next.nonempty
        simp only [content, List.flatMap_cons, List.length_append]
        omega
      rw [List.dropLast_cons_cons, List.forall_mem_cons, ← ih, split]
      constructor
      · intro hashes
        have full : piece.bytes.length = chunkBytes := by
          have first := hashes 0 (by rw [Nat.zero_mul, List.length_append]; omega)
          have same := congrArg List.length (injective (Option.some.inj first))
          rw [chunk, length_slice (min_le_left _ _), List.length_append] at same
          omega
        refine ⟨full, fun index inside => ?_⟩
        have later := hashes (index + 1) (by rw [List.length_append, Nat.succ_mul]; omega)
        rwa [chunk_append full] at later
      · rintro ⟨full, hashes⟩ index inside
        cases index with
        | zero =>
          have whole : chunk (piece.bytes ++ content (next :: others)) 0 = piece.bytes := by
            simp [chunk, slice, show piece.bytes.length = chunkBytes from full]
          rw [whole]
          rfl
        | succ index =>
          rw [List.length_append, Nat.succ_mul,
            show piece.bytes.length = chunkBytes from full] at inside
          rw [chunk_append full]
          exact hashes index (by omega)

/-! ## Exact and available -/

/-- A file with some content, while nobody writes to it. -/
def File.of (bytes : List UInt8) : File where
  readExact start length :=
    if start + length ≤ bytes.length then .ok (slice bytes start (start + length))
    else .error (.source .sourceChanged)
  exact := by
    intro start length read found
    split at found
    next fits =>
      cases found
      rw [length_slice fits, Nat.add_sub_cancel_left]
    next => cases found

def VerifiedSourceFile.content (source : VerifiedSourceFile sha256) : List UInt8 :=
  SourcePreview.content source.reads

/-- Every verifying read but the last one filled its buffer. -/
def VerifiedSourceFile.Aligned (source : VerifiedSourceFile sha256) : Prop :=
  ∀ piece ∈ source.reads.dropLast, piece.bytes.length = hashBufferBytes

theorem File.of_readExact {bytes : List UInt8} {start stop : Nat} (before : start ≤ stop)
    (fits : stop ≤ bytes.length) :
    (File.of bytes).readExact start (stop - start) = .ok (slice bytes start stop) := by
  simp only [File.of, Nat.add_sub_cancel' before, if_pos fits]

/-- A live lease of the file. -/
def Leased (leases : PreviewLeaseStore sha256) (now : Int) (leaseId : String)
    (source : VerifiedSourceFile sha256) : Prop :=
  ∃ lease, leases.find? leaseId = some lease ∧ now < lease.expiresAt ∧ lease.source = source

/-- The previews of a file are exact, and available while the file is unmodified. -/
structure Previews (base64 : List UInt8 → String) (source : VerifiedSourceFile sha256) :
    Prop where
  exact : ∀ file resolution now later leaseId offset length leases range after,
    Leased leases now leaseId source →
    (readRange base64 file resolution now later leaseId offset length).run leases =
      .ok range after →
    range.bytesRead = min (source.byteSize - offset) length ∧
      range.base64Data = base64 (slice source.content offset (offset + range.bytesRead))
  available : ∀ reference now later leaseId offset length leases,
    Leased leases now leaseId source →
    reference.byteSize = source.byteSize ∧ reference.contentHash = source.contentHash →
    0 < length ∧ length ≤ maxRangeBytes → offset < source.byteSize →
    ∃ range after, (readRange base64 (.of source.content) (.ok (.current reference)) now later
      leaseId offset length).run leases = .ok range after

variable {source : VerifiedSourceFile sha256} {file : File} {offset stop index count : Nat}

/-- The hashes stand at the places of the chunks. -/
def VerifiedSourceFile.Hashes (source : VerifiedSourceFile sha256) : Prop :=
  ∀ index, index * chunkBytes < source.byteSize →
    source.chunkHashes[index]? = some (sha256 (chunk source.content index))

omit [DecidableEq Digest] in
theorem VerifiedSourceFile.hashes_iff (injective : Function.Injective sha256) :
    source.Hashes ↔ source.Aligned := by
  rw [Hashes, source.sized, source.hashed]
  exact chunkHashes_iff injective source.reads

section Unmodified

variable {part bytes : List UInt8} {length : Nat} (injective : Function.Injective sha256)

/-- A chunk of the unmodified file is refused exactly if another hash stands at its place. -/
theorem readChunk_of_iff (inside : index * chunkBytes < stop) (fits : stop ≤ source.byteSize) :
    readChunk source (.of source.content) offset stop index = .ok part ↔
      source.chunkHashes[index]? = some (sha256 (chunk source.content index)) ∧
        slice source.content (max offset (index * chunkBytes))
          (min stop ((index + 1) * chunkBytes)) = part := by
  have size : source.byteSize = source.content.length := source.sized
  have places : index * chunkBytes + (max offset (index * chunkBytes) - index * chunkBytes) =
        max offset (index * chunkBytes) ∧
      index * chunkBytes + (min stop (min source.byteSize (index * chunkBytes + chunkBytes)) -
        index * chunkBytes) = min stop (index * chunkBytes + chunkBytes) := by omega
  simp only [readChunk, bind_ok_iff, present_eq_ok, check_eq_ok, chunk, ← size, Nat.succ_mul]
  rw [File.of_readExact (by omega) (by omega)]
  constructor
  · rintro ⟨_, ⟨⟩, _, found, _, rfl, ⟨⟩⟩
    rw [slice_slice (by omega), places.1, places.2]
    exact ⟨found, rfl⟩
  · rintro ⟨found, rfl⟩
    refine ⟨_, rfl, _, found, (), rfl, ?_⟩
    rw [slice_slice (by omega), places.1, places.2]

include injective

/-- What is read of any file under the right hashes is what the unmodified file holds. -/
theorem readChunks_of (hashes : source.Hashes) (fits : stop ≤ source.byteSize)
    (inside : ∀ place, place < index + count → place * chunkBytes < stop)
    (read : readChunks source file offset stop index count = .ok bytes) :
    readChunks source (.of source.content) offset stop index count = .ok bytes := by
  induction count generalizing index bytes with
  | zero => exact read
  | succ count ih =>
    simp only [readChunks, bind_ok_iff] at read ⊢
    obtain ⟨part, first, rest, later, ⟨⟩⟩ := read
    refine ⟨part, ?_, rest, ih (fun place below => inside place (by omega)) later, rfl⟩
    have below := inside index (by omega)
    simp only [readChunk, bind_ok_iff, present_eq_ok, check_eq_ok] at first ⊢
    obtain ⟨chunk, -, expected, found, _, same, copied⟩ := first
    have size : source.byteSize = source.content.length := source.sized
    have stored := hashes index (below.trans_le fits)
    rw [found, ← same] at stored
    obtain rfl := injective (Option.some.inj stored)
    refine ⟨_, ?_, _, found, (), same, copied⟩
    rw [File.of_readExact (by omega) (by omega), SourcePreview.chunk, size]

omit injective in
theorem readChunks_unmodified (hashes : source.Hashes) (fits : stop ≤ source.byteSize)
    (inside : ∀ place, place < index + count → place * chunkBytes < stop) :
    readChunks source (.of source.content) offset stop index count =
      .ok (slice source.content (max offset (index * chunkBytes))
        (min stop ((index + count) * chunkBytes))) := by
  induction count generalizing index with
  | zero => rw [readChunks, Nat.add_zero, slice_of_le (by omega)]
  | succ count ih =>
    have here := inside index (by omega)
    simp only [readChunks, bind_ok_iff]
    refine ⟨_, (readChunk_of_iff here fits).mpr ⟨hashes index (here.trans_le fits), rfl⟩, _,
      ih fun place below => inside place (by omega), ?_⟩
    rw [slice_join (Nat.mul_le_mul_right _ (Nat.le_succ index))
      (Nat.mul_le_mul_right _ (by omega)), Nat.add_right_comm, Nat.add_assoc]

/-- The chunks of a range cover it, and nothing else is read under the right hashes. -/
theorem readVerifiedRange_unmodified (hashes : source.Hashes) (positive : 0 < length)
    (fits : offset + length ≤ source.byteSize) :
    readVerifiedRange source (.of source.content) offset length =
        .ok (slice source.content offset (offset + length)) ∧
      ∀ file bytes, readVerifiedRange source file offset length = .ok bytes →
        bytes = slice source.content offset (offset + length) := by
  have inside : ∀ place, place < offset / chunkBytes +
      ((offset + length - 1) / chunkBytes + 1 - offset / chunkBytes) →
        place * chunkBytes < offset + length := by
    simp only [chunkBytes, maxRangeBytes]
    omega
  have chunks := @readChunks_unmodified _ _ _ source offset _ _ _ hashes fits inside
  rw [max_eq_left (Nat.div_mul_le_self offset chunkBytes), min_eq_left] at chunks
  · have size : source.byteSize = source.content.length := source.sized
    simp only [readVerifiedRange, bind_ok_iff, check_eq_ok]
    constructor
    · exact ⟨_, chunks, (), by rw [length_slice (size ▸ fits)]; omega, rfl⟩
    · rintro file _ ⟨_, read, _, _, ⟨⟩⟩
      have same := readChunks_of injective hashes fits inside read
      rw [chunks] at same
      exact (Except.ok.inj same).symm
  · simp only [chunkBytes, maxRangeBytes]
    omega

end Unmodified

variable {base64 : List UInt8 → String} {now later : Int} {leaseId : String} {length : Nat}
  {leases : PreviewLeaseStore sha256} {range : PreviewRange}
  {resolution : Except Unit (SearchSourceFileResolution Digest)}

/-- What a request on a live lease comes to. -/
theorem exists_run_readRange_iff (leased : Leased leases now leaseId source) :
    (∃ after, (readRange base64 file resolution now later leaseId offset length).run leases =
        .ok range after) ↔
      (0 < length ∧ length ≤ maxRangeBytes) ∧ checkSelection source resolution = .ok () ∧
        offset < source.byteSize ∧
        ∃ bytes, readVerifiedRange source file offset (min (source.byteSize - offset) length) =
            .ok bytes ∧ ⟨offset, bytes.length, source.byteSize, base64 bytes⟩ = range := by
  obtain ⟨lease, found, live, rfl⟩ := leased
  have kept : (removeExpired now leases).find? leaseId = some lease := by
    rw [removeExpired, Table.find?_delete, found, Option.filter_some, if_pos (by simpa using live)]
  simp only [readRange, run_modify_bind, run_require_bind_eq_ok, run_get_bind,
    run_demand_bind_eq_ok, run_ofExcept_bind_eq_ok, kept]
  constructor
  · rintro ⟨after, size, _, ⟨⟩, _, selected, inside, bytes, read, ⟨⟩⟩
    exact ⟨size, selected, inside, bytes, read, rfl⟩
  · rintro ⟨size, selected, inside, bytes, read, rfl⟩
    exact ⟨_, size, _, rfl, (), selected, inside, bytes, read, rfl⟩

/-- **When previews can be trusted.** The previews of a verified file are exact and available
if and only if every verifying read but the last one filled its buffer. -/
theorem previews_exact_and_available_iff (injective : Function.Injective sha256)
    (base64 : List UInt8 → String) (source : VerifiedSourceFile sha256) :
    Previews base64 source ↔ source.Aligned := by
  rw [← VerifiedSourceFile.hashes_iff injective]
  constructor
  · intro previews index inside
    have leased : Leased (Table.empty.upsert ⟨"", source, 1⟩) 0 "" source :=
      ⟨_, by rw [Table.find?_upsert, if_pos rfl], Int.one_pos, rfl⟩
    obtain ⟨range, done⟩ := previews.available ⟨source.contentHash, source.byteSize, .pdf⟩ 0 0 ""
      (index * chunkBytes) 1 _ leased ⟨rfl, rfl⟩ (by decide) inside
    obtain ⟨-, -, -, bytes, read, -⟩ := (exists_run_readRange_iff leased).mp done
    rw [min_eq_right (by omega)] at read
    simp only [readVerifiedRange, bind_ok_iff, Nat.add_sub_cancel, Nat.add_sub_cancel_left,
      Nat.mul_div_cancel _ (by decide : 0 < chunkBytes), readChunks] at read
    obtain ⟨_, ⟨part, first, -⟩, -⟩ := read
    exact ((readChunk_of_iff (Nat.lt_succ_self _) inside).mp first).1
  · intro hashes
    constructor
    · intro file resolution now later leaseId offset length leases range after leased done
      obtain ⟨size, -, inside, bytes, read, rfl⟩ :=
        (exists_run_readRange_iff leased).mp ⟨after, done⟩
      have fits : offset + min (source.byteSize - offset) length ≤ source.byteSize := by omega
      have exact := (readVerifiedRange_unmodified injective hashes (by omega) fits).2 _ _ read
      have whole : bytes.length = min (source.byteSize - offset) length := by
        rw [exact, length_slice (source.sized ▸ fits)]
        omega
      exact ⟨whole, congrArg base64 (whole ▸ exact)⟩
    · intro reference now later leaseId offset length leases leased current size inside
      have fits : offset + min (source.byteSize - offset) length ≤ source.byteSize := by omega
      have read := (readVerifiedRange_unmodified injective hashes (by omega) fits).1
      refine ⟨_, (exists_run_readRange_iff leased).mpr ⟨size, ?_, inside, _, read, rfl⟩⟩
      rw [checkSelection, check, if_pos current]

/-! A file of two bytes. -/

def samplePiece (first : UInt8) (rest : List UInt8) (fits : rest.length ≤ 1) : Piece :=
  ⟨first :: rest, List.cons_ne_nil first rest, (Nat.succ_le_succ fits).trans (by decide)⟩

def sampleReference : SearchSourceFileReference (List UInt8) := ⟨[37, 80], 2, .pdf⟩

def sampleOpening (reads : List Piece) : Opening :=
  ⟨true, .ok (some 2), fun _ => false, reads.map .ok⟩

/-- The file is read byte by byte. Afterwards it is refused although nobody has modified it. -/
theorem unmodified_file_refused_after_short_reads :
    ∃ source, openReference id sampleReference
        (sampleOpening [samplePiece 37 [] (by decide), samplePiece 80 [] (by decide)]) = .ok source ∧
      answer (readRange (fun _ => "") (.of source.content) (.ok (.current sampleReference)) 0 0 ""
        0 2) ⟨[⟨"", source, 1⟩], List.nodup_singleton _⟩ = none :=
  ⟨_, rfl, rfl⟩

omit [DecidableEq Digest] in
theorem takeReads_unhindered {byteSize : Nat} {taken pieces : List Piece}
    (fits : (content (taken ++ pieces)).length ≤ byteSize) :
    takeReads byteSize (fun _ => false) taken (pieces.map .ok) = .ok (taken ++ pieces) := by
  induction pieces generalizing taken with
  | nil => exact congrArg _ (List.append_nil taken).symm
  | cons piece rest ih =>
    have here : (content (taken ++ [piece])).length ≤ byteSize := by
      simp only [content, List.flatMap_append, List.flatMap_cons, List.flatMap_nil,
        List.length_append, List.length_nil] at fits ⊢
      omega
    have later := @ih (taken ++ [piece]) (by simpa using fits)
    simp only [List.map_cons, takeReads, bind_ok_iff, check_eq_ok]
    exact ⟨(), trivial, piece, rfl, (), here, by simpa using later⟩

/-- A file that nobody hinders is verified with the reads it took. -/
theorem openReference_unhindered (sha256 : List UInt8 → Digest) (pieces : List Piece)
    (extension : FileExtension) (some_ : 0 < (content pieces).length)
    (bounded : (content pieces).length ≤ maxSourceFileBytes) :
    ∃ source, openReference sha256
        ⟨sha256 (content pieces), (content pieces).length, extension⟩
        ⟨true, .ok (some (content pieces).length), fun _ => false, pieces.map .ok⟩ = .ok source ∧
      source.reads = pieces := by
  refine ⟨⟨_, sha256 (content pieces), _, extension, pieces, rfl, rfl⟩, ?_, rfl⟩
  simp only [openReference, bind_ok_iff, check_eq_ok]
  refine ⟨(), ⟨some_, bounded, trivial⟩, _, rfl, (), rfl, pieces, takeReads_unhindered le_rfl, ?_⟩
  rw [dif_pos ⟨rfl, rfl⟩]

theorem sampleLength_pos : 0 < (List.replicate hashBufferBytes (37 : UInt8)).length := by
  rw [List.length_replicate]
  decide

/-- The first read fills the buffer, and a second one takes the last byte. -/
def sampleReads : List Piece :=
  [⟨List.replicate hashBufferBytes 37, List.ne_nil_of_length_pos sampleLength_pos,
      List.length_replicate.le⟩,
    samplePiece 80 [] (by decide)]

theorem previews_exact_and_available_of_two_reads :
    ∃ source, openReference id
        ⟨content sampleReads, (content sampleReads).length, .pdf⟩
        ⟨true, .ok (some (content sampleReads).length), fun _ => false, sampleReads.map .ok⟩ =
          .ok source ∧
      source.byteSize = hashBufferBytes + 1 ∧ Previews (fun _ => "") source := by
  have size : (content sampleReads).length = hashBufferBytes + 1 := by
    simp [content, sampleReads, samplePiece]
  obtain ⟨source, opened, reads⟩ := openReference_unhindered id sampleReads .pdf
    (size ▸ Nat.succ_pos _) (size ▸ by decide)
  refine ⟨source, opened, by rw [source.sized, reads, size],
    (previews_exact_and_available_iff Function.injective_id _ _).mpr ?_⟩
  rw [VerifiedSourceFile.Aligned, reads]
  simp [sampleReads]

end ResumeIr.Daemon.SourcePreview
