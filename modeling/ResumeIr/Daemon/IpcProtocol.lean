import Mathlib.Data.List.Infix
import ResumeIr.CoreDomain.Text
import ResumeIr.Foundation.ByteStream

/-!
# Requests on the local socket

A request arrives in pieces that the socket chooses. After each piece the reader looks
for the end of the header in all that it has, and checks the size. None of this shows in
the request: the end of the header in a part of the stream is the end of the header in the
stream (`findHeaderEnd_append`), and a stream that ends with the declared body is too large
for every splitting or for none.
-/

namespace ResumeIr.Daemon.Protocol

open Foundation Fallible CoreDomain

def maxRequestBytes : Nat := 64 * 1024

/-- The outcomes without a request. -/
inductive Rejection where
  | tooLarge
  | badRequest

structure Request where
  method : String
  path : String
  version : String
  headers : List (String × String)
  body : List UInt8

def Request.empty : Request := ⟨"", "", "", [], []⟩

/-! ## The header -/

def blankLine : List UInt8 := [13, 10, 13, 10]

def findHeaderEnd : List UInt8 → Option Nat
  | [] => none
  | byte :: rest =>
      if blankLine <+: byte :: rest then some 4 else (findHeaderEnd rest).map (· + 1)

/-- The lines of a text that ends with a line break. -/
def lines (text : List Char) : List (List Char) :=
  (text.splitOn '\n').dropLast.map fun line =>
    if line.getLast? = some '\r' then line.dropLast else line

def splitWhitespace (line : List Char) : List String :=
  ((line.splitOnP isWhiteSpace).filter (· ≠ [])).map String.ofList

/-- The name and the value of a header, cut at the first colon. -/
def headerOf (line : List Char) : Option (String × String) :=
  match line.span (· ≠ ':') with
  | (_, []) => none
  | (name, _ :: value) => some (trim (.ofList name), trim (.ofList value))

/-- Names are compared without regard to the case of ASCII letters. -/
def headerValue (headers : List (String × String)) (name : String) : Option String :=
  (headers.find? fun header =>
    header.1.toList.map Char.toLower = name.toList.map Char.toLower).map (·.2)

/-- `value.parse::<usize>()`. -/
def parseUsize (value : String) : Option Nat :=
  let digits := if value.toList.head? = some '+' then value.toList.tail else value.toList
  let number := digits.foldl (fun number digit => 10 * number + (digit.toNat - '0'.toNat)) 0
  if digits ≠ [] ∧ digits.all Char.isDigit ∧ number < UInt64.size then some number else none

/-- A request without its body, and the declared length of the body. -/
def parseHeader (bytes : List UInt8) : Except Rejection (Request × Nat) := do
  let text ← present (String.fromUTF8? ⟨bytes.toArray⟩) .badRequest
  let lines := lines text.toList
  let firstLine := splitWhitespace (lines.headD [])
  let headers := lines.tail.filterMap headerOf
  let contentLength ← match headerValue headers "content-length" with
    | some value => present (parseUsize value) .badRequest
    | none => .ok 0
  .ok (⟨firstLine.getD 0 "", firstLine.getD 1 "", firstLine.getD 2 "", headers, []⟩,
    contentLength)

/-! ## The reader -/

/-- The loops of the reader: calls until there is enough or the stream ends. The loop for
the header may look before it reads, since there is no header in no bytes. An interrupted
call is not made again. -/
def fill (enough : List UInt8 → Bool) (request : List UInt8) :
    Reader → Except Rejection (List UInt8 × Reader)
  | [] => .ok (request, [])
  | delivery :: reader =>
      if enough request then .ok (request, delivery :: reader)
      else match delivery with
        | .bytes first rest =>
            if maxRequestBytes < (request ++ first :: rest).length then .error .tooLarge
            else fill enough (request ++ first :: rest) reader
        | _ => .error .badRequest

def read (reader : Reader) : Except Rejection Request := do
  let (request, reader) ← fill (fun request => (findHeaderEnd request).isSome) [] reader
  match findHeaderEnd request with
  | none => .ok .empty
  | some headerEnd =>
      let (head, contentLength) ← parseHeader (request.take headerEnd)
      -- an overflow of `checked_add` is past the limit as well
      let requestEnd := headerEnd + contentLength
      check (requestEnd ≤ maxRequestBytes) .tooLarge
      let (request, _) ← fill (fun request => requestEnd ≤ request.length) request reader
      check (requestEnd ≤ request.length) .badRequest
      .ok { head with body := (request.drop headerEnd).take contentLength }

/-! ## What has arrived -/

variable {bytes more : List UInt8} {reader : Reader} {headerEnd : Nat}

theorem findHeaderEnd_bounds (found : findHeaderEnd bytes = some headerEnd) :
    4 ≤ headerEnd ∧ headerEnd ≤ bytes.length := by
  induction bytes generalizing headerEnd with
  | nil => cases found
  | cons byte rest ih =>
    rw [findHeaderEnd] at found
    split at found
    next here =>
      obtain rfl := Option.some.inj found
      exact ⟨le_rfl, here.length_le⟩
    next =>
      obtain ⟨inRest, foundInRest, rfl⟩ := Option.map_eq_some_iff.mp found
      have := ih foundInRest
      simp only [List.length_cons]
      omega

/-- What arrives later does not move the end of the header. -/
theorem findHeaderEnd_append (found : findHeaderEnd bytes = some headerEnd) :
    findHeaderEnd (bytes ++ more) = some headerEnd := by
  induction bytes generalizing headerEnd with
  | nil => cases found
  | cons byte rest ih =>
    rw [findHeaderEnd] at found
    rw [List.cons_append, findHeaderEnd, ← List.cons_append]
    split at found
    next here => rw [if_pos (here.trans (List.prefix_append _ _)), found]
    next elsewhere =>
      obtain ⟨inRest, foundInRest, rfl⟩ := Option.map_eq_some_iff.mp found
      have := findHeaderEnd_bounds foundInRest
      -- with a blank line in the rest, one that begins here ends before `more`
      rw [if_neg, ih foundInRest, Option.map_some]
      intro here
      refine elsewhere (List.prefix_of_prefix_length_le here (List.prefix_append _ _) ?_)
      simp only [blankLine, List.length_cons, List.length_nil]
      omega

/-- Every call returns a piece of the stream that fits the buffer. -/
def InPieces (reader : Reader) : Prop :=
  ∀ delivery ∈ reader, ∃ first rest, delivery = .bytes first rest ∧ rest.length < 512

theorem fill_cases (enough : List UInt8 → Bool) (request : List UInt8)
    (pieces : InPieces reader) :
    (∃ rejection, fill enough request reader = .error rejection ∧
        maxRequestBytes < (request ++ reader.content).length) ∨
      ∃ after rest, fill enough request reader = .ok (after, rest) ∧ InPieces rest ∧
        after ++ rest.content = request ++ reader.content ∧ (enough after = true ∨ rest = []) := by
  induction reader generalizing request with
  | nil => exact .inr ⟨request, [], rfl, pieces, rfl, .inr rfl⟩
  | cons delivery reader ih =>
    obtain ⟨first, piece, rfl, -⟩ := pieces delivery List.mem_cons_self
    simp only [fill]
    split
    next done => exact .inr ⟨_, _, rfl, pieces, rfl, .inl done⟩
    next =>
      rw [Reader.content_cons, Delivery.content, ← List.append_assoc]
      split
      next large =>
        refine .inl ⟨_, rfl, ?_⟩
        rw [List.length_append]
        omega
      next =>
        exact ih _ fun delivery member => pieces delivery (List.mem_cons_of_mem _ member)

/-- The stream ends with the body that its header declares. -/
structure EndsWithBody (stream : List UInt8) (headerEnd : Nat) : Prop where
  found : findHeaderEnd stream = some headerEnd
  whole : ∀ head contentLength,
    parseHeader (stream.take headerEnd) = .ok (head, contentLength) →
      headerEnd + contentLength = stream.length

/-- What the stream declares, if it is not too large. -/
def declared (stream : List UInt8) (headerEnd : Nat) : Option Request :=
  if stream.length ≤ maxRequestBytes then
    (parseHeader (stream.take headerEnd)).toOption.map fun result =>
      { result.1 with body := (stream.drop headerEnd).take result.2 }
  else none

theorem toOption_read {stream : List UInt8} (complete : EndsWithBody stream headerEnd)
    (pieces : InPieces reader) (content : reader.content = stream) :
    (read reader).toOption = declared stream headerEnd := by
  obtain ⟨rejection, failed, large⟩ | ⟨arrived, rest, filled, pieces, all, enough⟩ :=
    fill_cases (fun request => (findHeaderEnd request).isSome) [] pieces
  · rw [content, List.nil_append] at large
    rw [declared, if_neg (by omega), read, failed]
    rfl
  rw [content, List.nil_append] at all
  have here : findHeaderEnd arrived = some headerEnd := by
    rw [← complete.found, ← all]
    cases absent : findHeaderEnd arrived with
    | none =>
      simp only [absent] at enough
      obtain rfl := enough.resolve_left (by simp)
      rw [Reader.content_nil, List.append_nil, absent]
    | some other => exact (findHeaderEnd_append absent).symm
  have sameHeader : arrived.take headerEnd = stream.take headerEnd := by
    rw [← all, List.take_append_of_le_length (findHeaderEnd_bounds here).2]
  rw [declared]
  simp only [read, filled, here, sameHeader, bind, Except.bind]
  cases parsed : parseHeader (stream.take headerEnd) with
  | error rejection => simp [Except.toOption]
  | ok result =>
    obtain ⟨head, contentLength⟩ := result
    have whole := complete.whole head contentLength parsed
    simp only [whole]
    by_cases small : stream.length ≤ maxRequestBytes
    · obtain ⟨_, _, large⟩ | ⟨after, rest, filled, -, allAfter, enough⟩ :=
        fill_cases (fun request => stream.length ≤ request.length) arrived pieces
      · rw [all] at large
        omega
      rw [all] at allAfter
      have long : stream.length ≤ after.length := by
        obtain enough | rfl := enough
        · exact of_decide_eq_true enough
        · rw [← allAfter, Reader.content_nil, List.append_nil]
      obtain rfl := List.IsPrefix.eq_of_length_le ⟨_, allAfter⟩ long
      simp [check, small, filled, Except.toOption]
    · simp [check, small, Except.toOption]

/-- **A request does not depend on how its stream is split.** Every splitting of a stream
that ends with the declared body gives the same request, or every splitting is rejected. -/
theorem read_ignores_splitting (stream : List UInt8) (headerEnd : Nat)
    (complete : EndsWithBody stream headerEnd) :
    ((∃ request, ∀ reader, InPieces reader → reader.content = stream →
        read reader = .ok request) ∨
      ∀ reader, InPieces reader → reader.content = stream →
        ∃ rejection, read reader = .error rejection) ∧
    ∀ reader request, InPieces reader → reader.content = stream → read reader = .ok request →
      ∃ head contentLength,
        parseHeader (stream.take headerEnd) = .ok (head, contentLength) ∧
        request = { head with body := (stream.drop headerEnd).take contentLength } ∧
        request.body.length = contentLength ∧
        headerEnd + request.body.length ≤ maxRequestBytes := by
  have each reader (pieces : InPieces reader) (content : reader.content = stream) :=
    toOption_read complete pieces content
  constructor
  · cases outcome : declared stream headerEnd with
    | none =>
      refine .inr fun reader pieces content => ?_
      cases ok : read reader with
      | error rejection => exact ⟨rejection, rfl⟩
      | ok request =>
        have known := each reader pieces content
        rw [ok, outcome] at known
        cases known
    | some request =>
      refine .inl ⟨request, fun reader pieces content => ?_⟩
      exact toOption_eq_some.mp ((each reader pieces content).trans outcome)
  · intro reader request pieces content ok
    have known := (each reader pieces content).symm.trans (toOption_eq_some.mpr ok)
    rw [declared] at known
    split at known
    next small =>
      obtain ⟨⟨head, contentLength⟩, parsed, rfl⟩ := Option.map_eq_some_iff.mp known
      rw [toOption_eq_some] at parsed
      have whole := complete.whole head contentLength parsed
      have length : ((stream.drop headerEnd).take contentLength).length = contentLength := by
        rw [List.length_take, List.length_drop]
        omega
      exact ⟨head, contentLength, parsed, rfl, length, by rwa [length, whole]⟩
    next => cases known

/-- The bytes of `Content-Length:2`, a line break, a blank line and the body. -/
def sampleStream : List UInt8 :=
  [13, 10, 67, 111, 110, 116, 101, 110, 116, 45, 76, 101, 110, 103, 116, 104, 58, 50,
    13, 10, 13, 10, 111, 107]

/-- The stream arrives at once, or byte by byte. -/
theorem read_ignores_splitting_of_sample :
    EndsWithBody sampleStream 22 ∧
      ∃ request, request.body = [111, 107] ∧
        read [.bytes 13 sampleStream.tail] = .ok request ∧
        read (sampleStream.map (.bytes · [])) = .ok request := by
  have parsed : (parseHeader (sampleStream.take 22)).toOption.map (·.2) = some 2 := by
    decide +kernel
  have complete : EndsWithBody sampleStream 22 := by
    refine ⟨by decide, fun head contentLength known => ?_⟩
    rw [known] at parsed
    obtain rfl := Option.some.inj parsed
    rfl
  have whole : InPieces [.bytes 13 sampleStream.tail] := by simp [InPieces, sampleStream]
  have single : InPieces (sampleStream.map (.bytes · [])) := by simp [InPieces]
  have accepted : (read [.bytes 13 sampleStream.tail]).toOption.isSome = true := by
    decide +kernel
  obtain ⟨same | refused, exactly⟩ := read_ignores_splitting sampleStream 22 complete
  · obtain ⟨request, same⟩ := same
    have first := same _ whole rfl
    obtain ⟨head, contentLength, known, rfl, -⟩ := exactly _ request whole rfl first
    rw [known] at parsed
    obtain rfl := Option.some.inj parsed
    exact ⟨complete, _, rfl, first, same _ single rfl⟩
  · obtain ⟨rejection, failed⟩ := refused _ whole rfl
    rw [failed] at accepted
    cases accepted

end ResumeIr.Daemon.Protocol
