import ResumeIr.Privacy.Redaction

/-!
# What the signal checks skip

A pattern whose check finds no signal is skipped. The checks for e-mail addresses, WeChat
names and local paths find a signal in every text that their pattern matches, so skipping
changes nothing.

The checks for phone numbers read bytes. They know the ASCII digits only, the separated one
also knows only some of the white space, and it gives a candidate up after thirty-two bytes.
A number that lies in a run of at most thirty-two such bytes is found
(`separated_signal_of_run`); one with longer gaps is not, and is then left in the text.
-/

namespace ResumeIr.Privacy

open Foundation CoreDomain

/-! ## Bytes -/

variable {c : Char}

section Bytes

def byteOf (c : Char) : UInt8 := UInt8.ofNat c.toNat

def isAscii (c : Char) : Bool := c.toNat < 128

theorem toNat_byteOf (ascii : isAscii c = true) : (byteOf c).toNat = c.toNat := by
  have : c.toNat < 128 := by simpa [isAscii] using ascii
  rw [byteOf, UInt8.toNat_ofNat']
  omega

theorem utf8EncodeChar_of_ascii (ascii : isAscii c = true) :
    String.utf8EncodeChar c = [byteOf c] := by
  have small : c.val.toNat ≤ 0x7f := by
    have : c.toNat < 128 := by simpa [isAscii] using ascii
    exact Nat.le_of_lt_succ this
  exact if_pos small

/-- The last byte of a character outside ASCII is a continuation byte. -/
theorem utf8EncodeChar_of_not_ascii (other : isAscii c = false) :
    ∃ first last, String.utf8EncodeChar c = first ++ [last] ∧ 128 ≤ last.toNat := by
  have large : ¬ c.val.toNat ≤ 0x7f := by
    have : ¬ c.toNat < 128 := by simpa [isAscii] using other
    exact fun le => this (Nat.lt_succ_of_le le)
  have continuation : 128 ≤ (UInt8.ofNat (c.val.toNat % 0x40 + 0x80)).toNat := by
    rw [UInt8.toNat_ofNat']
    omega
  unfold String.utf8EncodeChar
  simp only [large, if_false]
  split
  · exact ⟨[_], _, rfl, continuation⟩
  · split
    · exact ⟨[_, _], _, rfl, continuation⟩
    · exact ⟨[_, _, _], _, rfl, continuation⟩

theorem bytes_append (first second : List Char) :
    bytes (first ++ second) = bytes first ++ bytes second :=
  List.flatMap_append ..

theorem bytes_of_ascii {text : List Char} (ascii : ∀ c ∈ text, isAscii c = true) :
    bytes text = text.map byteOf := by
  induction text with
  | nil => rfl
  | cons c text ih =>
    rw [List.forall_mem_cons] at ascii
    rw [bytes, List.flatMap_cons, utf8EncodeChar_of_ascii ascii.1, ← bytes, ih ascii.2]
    rfl

theorem byteOf_mem_bytes {text : List Char} (member : c ∈ text) (ascii : isAscii c = true) :
    byteOf c ∈ bytes text :=
  List.mem_flatMap.mpr ⟨c, member, by simp [utf8EncodeChar_of_ascii ascii]⟩

end Bytes

/-! ## Signals that every match gives -/

variable {word : List Char}

section Exact

variable {tables : UnicodeTables} {text : List Char}

theorem language_exactly (member : word ∈ (exactly c).language tables.meaning) : word = [c] := by
  obtain ⟨symbol, same, rfl⟩ := member
  rw [(beq_iff_eq.mp same : symbol = c)]

theorem needs_exactly (c : Char) : (exactly c).Needs tables.meaning (· = c) :=
  Regex.Needs.one fun _ same => beq_iff_eq.mp same

theorem at_of_email (found : emailRegex.isMatch tables.meaning text = true) :
    text.contains '@' = true := by
  have needs : emailRegex.Needs tables.meaning (· = '@') :=
    .seq_right (.seq_right (.seq_left (needs_exactly '@')))
  obtain ⟨c, member, rfl⟩ := needs.exists_of_isMatch found
  exact List.contains_iff_mem.mpr member

/-- The characters that every local path has one of. -/
def PathMark (c : Char) : Prop := c = '/' ∨ c = '\\' ∨ c = '~'

theorem needs_slash : (exactly '/').Needs tables.meaning PathMark :=
  Regex.Needs.one fun _ same => .inl (beq_iff_eq.mp same)

theorem needs_backslash : (exactly '\\').Needs tables.meaning PathMark :=
  Regex.Needs.one fun _ same => .inr (.inl (beq_iff_eq.mp same))

theorem localPathRegex_needs : localPathRegex.Needs tables.meaning PathMark := by
  have tilde : (exactly '~').Needs tables.meaning PathMark :=
    Regex.Needs.one fun _ same => .inr (.inr (beq_iff_eq.mp same))
  have either : (one slash).Needs tables.meaning PathMark := Regex.Needs.one fun c same => by
    obtain same | same := Bool.or_eq_true_iff.mp same
    · exact .inr (.inl (beq_iff_eq.mp same))
    · exact .inl (beq_iff_eq.mp same)
  have rooted : ∀ rest, (Regex.seq (exactly '/') rest).Needs tables.meaning PathMark :=
    fun _ => .seq_left needs_slash
  refine .alt ?file (.alt ?root (.alt ?drive ?inner))
  case file => exact .seq_right (.seq_left (.seq_right (.seq_left needs_slash)))
  case root =>
    refine .seq_left (.alt tilde (.alt (rooted _) (.alt (rooted _) (.alt (rooted _)
      (.alt (rooted _) (.alt (rooted _) ?_))))))
    exact .seq_right (.seq_right (.seq_left either))
  case drive => exact .seq_right (.seq_right (.seq_left (.seq_right (.seq_left needs_backslash))))
  case inner =>
    exact .seq_right (.seq_left (.alt (rooted _) (.alt (rooted _) (.alt (rooted _)
      (.seq_left needs_backslash)))))

theorem path_signal_of_match (found : localPathRegex.isMatch tables.meaning text = true) :
    containsLocalPathSignal text = true := by
  obtain ⟨c, member, mark⟩ := localPathRegex_needs.exists_of_isMatch found
  have ascii : isAscii c = true ∧ (byteOf c == 47 || byteOf c == 92 || byteOf c == 126) = true := by
    rcases mark with rfl | rfl | rfl <;> decide
  exact List.any_eq_true.mpr ⟨byteOf c, byteOf_mem_bytes member ascii.1, ascii.2⟩

theorem language_literal {literal_ word : List Char}
    (member : word ∈ (literal literal_).language tables.meaning) : word = literal_ := by
  induction literal_ generalizing word with
  | nil => exact member
  | cons c literal_ ih =>
    obtain ⟨first, here, rest, more, rfl⟩ := Language.mem_mul.mp member
    rw [language_exactly here, ih more]
    rfl

/-- An ASCII letter that only ASCII letters fold to. -/
def Plain (letter : Char) : Prop :=
  isAscii letter = true ∧ letter ≠ 's' ∧ letter ≠ 'k' ∧ 97 ≤ letter.toNat ∧ letter.toNat ≤ 122

instance (letter : Char) : Decidable (Plain letter) := inferInstanceAs (Decidable (_ ∧ _))

theorem plain_of_all {letters : List Char} (all : letters.all (decide <| Plain ·) = true) :
    ∀ letter ∈ letters, Plain letter := fun letter inside =>
  of_decide_eq_true (List.all_eq_true.mp all letter inside)

theorem byte_of_foldsTo {letter c : Char} (plain : Plain letter) (folds : foldsTo letter c = true) :
    isAscii c = true ∧ toAsciiLowercase (byteOf c) = toAsciiLowercase (byteOf letter) := by
  obtain ⟨ascii, notS, notK, low, high⟩ := plain
  simp only [foldsTo, Bool.or_eq_true, Bool.and_eq_true, beq_iff_eq, notS, notK, false_and,
    or_false] at folds
  obtain rfl | upper := folds
  · exact ⟨ascii, rfl⟩
  · have asciiC : isAscii c = true := by
      simp only [isAscii, decide_eq_true_eq]
      omega
    have lower : byteOf letter = byteOf c + 32 := by
      rw [byteOf, ← upper, UInt8.ofNat_add]
      rfl
    have isUpper : (65 ≤ byteOf c && byteOf c ≤ 90) = true := by
      simp only [Bool.and_eq_true, decide_eq_true_eq, UInt8.le_iff_toNat_le, toNat_byteOf asciiC]
      exact ⟨show 65 ≤ c.toNat by omega, show c.toNat ≤ 90 by omega⟩
    have notUpper : (65 ≤ byteOf letter && byteOf letter ≤ 90) = false := by
      simp only [Bool.and_eq_false_iff, decide_eq_false_iff_not, UInt8.le_iff_toNat_le,
        toNat_byteOf ascii]
      exact .inr (show ¬ letter.toNat ≤ 90 by omega)
    refine ⟨asciiC, ?_⟩
    rw [toAsciiLowercase, if_pos isUpper, toAsciiLowercase, notUpper, lower]
    rfl

theorem bytes_of_ignoringCase {letters word : List Char} (plain : ∀ letter ∈ letters, Plain letter)
    (member : word ∈ (ignoringCase letters).language tables.meaning) :
    (∀ c ∈ word, isAscii c = true) ∧
      (bytes word).map toAsciiLowercase = (bytes letters).map toAsciiLowercase := by
  induction letters generalizing word with
  | nil =>
    obtain rfl : word = [] := member
    exact ⟨nofun, rfl⟩
  | cons letter letters ih =>
    rw [List.forall_mem_cons] at plain
    obtain ⟨first, ⟨c, folds, rfl⟩, rest, more, rfl⟩ := Language.mem_mul.mp member
    obtain ⟨ascii, same⟩ := byte_of_foldsTo plain.1 folds
    obtain ⟨later, rest_same⟩ := ih plain.2 more
    refine ⟨by simpa using ⟨ascii, later⟩, ?_⟩
    have head : ∀ {d : Char} (text : List Char), isAscii d = true →
        bytes (d :: text) = byteOf d :: bytes text := fun text ascii => by
      rw [bytes, List.flatMap_cons, utf8EncodeChar_of_ascii ascii]
      rfl
    rw [List.singleton_append, head _ ascii, head _ plain.1.1, List.map_cons, List.map_cons, same,
      rest_same]

theorem take_mem_windows {α : Type*} (before window after : List α) :
    window ∈ windows window.length (before ++ window ++ after) := by
  refine List.mem_map.mpr ⟨window ++ after, List.mem_filter.mpr ⟨?_, by simp⟩, by simp⟩
  exact (List.mem_tails _ _).mpr ⟨before, by simp⟩

theorem asciiSignal_of_part {before word after letters : List Char}
    (plain : ∀ letter ∈ letters, Plain letter)
    (member : word ∈ (ignoringCase letters).language tables.meaning) :
    containsAsciiCaseInsensitive (before ++ word ++ after) (bytes letters) = true := by
  obtain ⟨_, same⟩ := bytes_of_ignoringCase plain member
  have length : (bytes letters).length = (bytes word).length := by
    simpa using (congrArg List.length same).symm
  refine List.any_eq_true.mpr ⟨bytes word, ?_, beq_iff_eq.mpr same⟩
  rw [length, bytes_append, bytes_append]
  exact take_mem_windows ..

theorem wechat_signal_of_match (found : wechatRegex.isMatch tables.meaning text = true) :
    containsWechatSignal text = true := by
  obtain ⟨before, word, after, rfl, member⟩ := Regex.exists_word_of_isMatch found
  obtain ⟨_, rfl, word, more, rfl⟩ := Language.mem_mul.mp member
  obtain ⟨name, named, rest, -, rfl⟩ := Language.mem_mul.mp more
  have around : before ++ ([] ++ (name ++ rest)) ++ after = before ++ name ++ (rest ++ after) := by
    simp
  rw [around]
  have chinese : ∀ tail, name = ['微', '信'] ++ tail →
      (before ++ name ++ (rest ++ after)).tails.any (['微', '信'].isPrefixOf ·) = true := by
    rintro tail rfl
    refine List.any_eq_true.mpr ⟨['微', '信'] ++ tail ++ (rest ++ after), ?_, ?_⟩
    · exact (List.mem_tails _ _).mpr ⟨before, by simp⟩
    · rw [List.isPrefixOf_iff_prefix]
      exact ⟨tail ++ (rest ++ after), by simp⟩
  unfold containsWechatSignal
  simp only [Bool.or_eq_true]
  obtain named | named | named | named | named := named
  · exact .inl (.inl (.inr (asciiSignal_of_part (plain_of_all (by decide)) named)))
  · exact .inl (.inr (asciiSignal_of_part (plain_of_all (by decide)) named))
  · exact .inr (asciiSignal_of_part (plain_of_all (by decide)) named)
  · exact .inl (.inl (.inl (chinese [] (language_literal named))))
  · exact .inl (.inl (.inl (chinese ['号'] (language_literal named))))

end Exact

/-! ## Compact phone numbers -/

section Compact

variable {tables : UnicodeTables} {count : Nat}

theorem compactPhoneSignal_of_digits {run rest : List UInt8}
    (digits : ∀ byte ∈ run, isDigitByte byte = true) (few : count < 10)
    (enough : 10 ≤ count + run.length) : compactPhoneSignal count (run ++ rest) = true := by
  induction run generalizing count with
  | nil => exact absurd enough (by simpa using few)
  | cons byte run ih =>
    rw [List.forall_mem_cons] at digits
    rw [List.cons_append, compactPhoneSignal, if_pos digits.1]
    split
    · rfl
    next more =>
      rw [List.length_cons] at enough
      exact ih digits.2 (by omega) (by omega)

/-- Nothing that stands before the digits hides them. -/
theorem compactPhoneSignal_append {before rest : List UInt8}
    (later : ∀ count < 10, compactPhoneSignal count rest = true) (few : count < 10) :
    compactPhoneSignal count (before ++ rest) = true := by
  induction before generalizing count with
  | nil => exact later count few
  | cons byte before ih =>
    rw [List.cons_append, compactPhoneSignal]
    split
    · split
      · rfl
      next more => exact ih (by omega)
    · exact ih (by decide)

/-- A word of so many digits. -/
theorem language_times_digit (member : word ∈ (Regex.times count digit).language tables.meaning) :
    word.length = count ∧ ∀ c ∈ word, tables.digit c = true := by
  induction count generalizing word with
  | zero =>
    obtain rfl : word = [] := member
    exact ⟨rfl, nofun⟩
  | succ count ih =>
    obtain ⟨first, ⟨c, isDigit, rfl⟩, rest, more, rfl⟩ := Language.mem_mul.mp member
    obtain ⟨length, digits⟩ := ih more
    exact ⟨by simp [length], by simpa using ⟨isDigit, digits⟩⟩

theorem isDigitByte_of_digit (isDigit : tables.digit c = true) (ascii : isAscii c = true) :
    isDigitByte (byteOf c) = true := by
  rw [tables.digit_ascii c (by simpa [isAscii] using ascii)] at isDigit
  simp only [isAsciiDigit, Bool.and_eq_true, decide_eq_true_eq] at isDigit
  simp only [isDigitByte, Bool.and_eq_true, decide_eq_true_eq, UInt8.le_iff_toNat_le,
    toNat_byteOf ascii]
  exact isDigit

/-- Ten ASCII digits are found wherever they stand. -/
theorem compact_signal_of_match {before word after : List Char}
    (member : word ∈ compactPhoneRegex.language tables.meaning)
    (ascii : ∀ c ∈ word, isAscii c = true) :
    containsCompactPhoneSignal (before ++ word ++ after) = true := by
  obtain ⟨plus, -, word, more, rfl⟩ := Language.mem_mul.mp member
  obtain ⟨country, -, word, last, rfl⟩ := Language.mem_mul.mp more
  obtain ⟨number, ten, word, -, rfl⟩ := Language.mem_mul.mp last
  obtain ⟨length, digits⟩ := language_times_digit ten
  have ascii : ∀ c ∈ number, isAscii c = true := fun c inside => ascii c (by simp [inside])
  have around : before ++ (plus ++ (country ++ (number ++ word))) ++ after =
      (before ++ plus ++ country) ++ (number ++ (word ++ after)) := by simp
  rw [containsCompactPhoneSignal, around, bytes_append, bytes_append number, bytes_of_ascii ascii]
  refine compactPhoneSignal_append (fun count few => ?_) (by decide)
  refine compactPhoneSignal_of_digits (fun byte inside => ?_) few (by simp [length])
  obtain ⟨c, there, rfl⟩ := List.mem_map.mp inside
  exact isDigitByte_of_digit (digits c there) (ascii c there)

end Compact

/-! ## Separated phone numbers -/

/-- The bytes that the search for a separated number goes on at. -/
def isPhoneByte (byte : UInt8) : Bool :=
  isDigitByte byte || isBracketByte byte || isSeparatorByte byte

namespace PhoneCandidate

/-- One byte, before a candidate that is too long is given up. -/
def advance (candidate : PhoneCandidate) (byte : UInt8) : PhoneCandidate :=
  if isDigitByte byte then
    ⟨candidate.digits + 1, candidate.candidateLen + 1, candidate.separatorSeen⟩
  else if isBracketByte byte || (isSeparatorByte byte && decide (candidate.candidateLen > 0)) then
    ⟨candidate.digits, candidate.candidateLen + 1, true⟩
  else none

def step (candidate : PhoneCandidate) (byte : UInt8) : PhoneCandidate :=
  (candidate.advance byte).cut

/-- Something has been seen, and a separator among it. -/
def Marked (candidate : PhoneCandidate) : Prop :=
  0 < candidate.candidateLen ∧ candidate.separatorSeen = true

end PhoneCandidate

section Separated

open PhoneCandidate

variable {candidate : PhoneCandidate} {byte : UInt8} {run rest : List UInt8}

theorem separatedPhoneSignal_cons :
    separatedPhoneSignal candidate (byte :: rest) =
      ((isDigitByte byte && decide (10 ≤ candidate.digits + 1) && candidate.separatorSeen) ||
        separatedPhoneSignal (candidate.step byte) rest) := by
  rw [separatedPhoneSignal, step, advance]
  cases isDigit : isDigitByte byte with
  | true =>
    simp only [Bool.true_and]
    cases decide (10 ≤ candidate.digits + 1) && candidate.separatorSeen <;> rfl
  | false =>
    simp only [Bool.false_eq_true, if_false]
    split <;> rfl

/-- A number that is found from where the run leads is found. -/
theorem separatedPhoneSignal_append (later : separatedPhoneSignal (run.foldl step candidate) rest) :
    separatedPhoneSignal candidate (run ++ rest) = true := by
  induction run generalizing candidate with
  | nil => exact later
  | cons byte run ih =>
    rw [List.cons_append, separatedPhoneSignal_cons, ih later, Bool.or_true]

theorem isDigitByte_of_bracket (bracket : isBracketByte byte = true) : isDigitByte byte = false := by
  simp only [isBracketByte, Bool.or_eq_true, beq_iff_eq] at bracket
  rcases bracket with (rfl | rfl) | rfl <;> rfl

theorem isDigitByte_of_separator (separator : isSeparatorByte byte = true) :
    isDigitByte byte = false := by
  simp only [isSeparatorByte, Bool.or_eq_true, beq_iff_eq] at separator
  rcases separator with ((((rfl | rfl) | rfl) | rfl) | rfl) | rfl <;> rfl

theorem step_of_not_phone (other : isPhoneByte byte = false) : candidate.step byte = .none := by
  simp only [isPhoneByte, Bool.or_eq_false_iff] at other
  simp [step, advance, other.1.1, other.1.2, other.2, cut]

theorem candidateLen_advance_le :
    (candidate.advance byte).candidateLen ≤ candidate.candidateLen + 1 := by
  unfold advance
  split
  · exact Nat.le_refl _
  · split
    · exact Nat.le_refl _
    · exact Nat.zero_le _

/-- A short run is never given up. -/
theorem foldl_step_eq (short : candidate.candidateLen + run.length ≤ 32) :
    run.foldl step candidate = run.foldl advance candidate := by
  induction run generalizing candidate with
  | nil => rfl
  | cons byte run ih =>
    have le : (candidate.advance byte).candidateLen ≤ candidate.candidateLen + 1 :=
      candidateLen_advance_le
    rw [List.length_cons] at short
    have same : candidate.step byte = candidate.advance byte := by
      rw [step, cut, if_neg (by omega)]
    rw [List.foldl_cons, List.foldl_cons, same, ih (by omega)]

/-- A bracket, or a separator inside a candidate, is counted and seen. -/
theorem advance_of_mark
    (mark : isBracketByte byte = true ∨
      (isSeparatorByte byte = true ∧ 0 < candidate.candidateLen)) :
    candidate.advance byte = ⟨candidate.digits, candidate.candidateLen + 1, true⟩ := by
  have notDigit : isDigitByte byte = false :=
    mark.elim isDigitByte_of_bracket fun inside => isDigitByte_of_separator inside.1
  rw [PhoneCandidate.advance, notDigit, if_neg Bool.false_ne_true, if_pos (by simpa using mark)]

theorem advance_of_digit (isDigit : isDigitByte byte = true) :
    candidate.advance byte =
      ⟨candidate.digits + 1, candidate.candidateLen + 1, candidate.separatorSeen⟩ :=
  if_pos isDigit

theorem isPhoneByte_cases (phone : isPhoneByte byte = true) :
    isDigitByte byte = true ∨ isBracketByte byte = true ∨ isSeparatorByte byte = true := by
  simpa [isPhoneByte, or_assoc] using phone

/-- A candidate goes on at every phone byte. -/
theorem advance_of_live (live : 0 < candidate.candidateLen) (phone : isPhoneByte byte = true) :
    0 < (candidate.advance byte).candidateLen ∧
      (candidate.separatorSeen = true → (candidate.advance byte).separatorSeen = true) := by
  obtain isDigit | mark := isPhoneByte_cases phone
  · rw [advance_of_digit isDigit]
    exact ⟨Nat.succ_pos _, id⟩
  · rw [advance_of_mark (mark.imp_right (⟨·, live⟩))]
    exact ⟨Nat.succ_pos _, fun _ => rfl⟩

theorem PhoneCandidate.Marked.foldl (marked : candidate.Marked)
    (phone : ∀ byte ∈ run, isPhoneByte byte = true) :
    (run.foldl PhoneCandidate.advance candidate).Marked := by
  induction run generalizing candidate with
  | nil => exact marked
  | cons byte run ih =>
    rw [List.forall_mem_cons] at phone
    exact ih ((advance_of_live marked.1 phone.1).imp_right (· marked.2)) phone.2

/-- A run with a digit keeps a candidate. -/
theorem live_foldl (phone : ∀ byte ∈ run, isPhoneByte byte = true)
    (some : 0 < candidate.candidateLen ∨ ∃ byte ∈ run, isDigitByte byte = true) :
    0 < (run.foldl PhoneCandidate.advance candidate).candidateLen := by
  induction run generalizing candidate with
  | nil => simpa using some
  | cons byte run ih =>
    rw [List.forall_mem_cons] at phone
    refine ih phone.2 ?_
    obtain live | ⟨other, there, isDigit⟩ := some
    · exact .inl (advance_of_live live phone.1).1
    · obtain rfl | there := List.mem_cons.mp there
      · left
        rw [advance_of_digit isDigit]
        exact Nat.succ_pos _
      · exact .inr ⟨other, there, isDigit⟩

/-- No digit is forgotten. -/
theorem digits_foldl (phone : ∀ byte ∈ run, isPhoneByte byte = true)
    (fresh : candidate.candidateLen = 0 → candidate.digits = 0) :
    (run.foldl PhoneCandidate.advance candidate).digits =
      candidate.digits + run.countP isDigitByte := by
  induction run generalizing candidate with
  | nil => rfl
  | cons byte run ih =>
    rw [List.forall_mem_cons] at phone
    have one : (candidate.advance byte).digits =
        candidate.digits + (if isDigitByte byte then 1 else 0) ∧
        ((candidate.advance byte).candidateLen = 0 → (candidate.advance byte).digits = 0) := by
      unfold PhoneCandidate.advance
      split
      · exact ⟨rfl, nofun⟩
      next notDigit =>
        split
        · exact ⟨rfl, nofun⟩
        next outside =>
          -- what is left is a separator before anything else
          have stopped : candidate.candidateLen = 0 := by
            grind [isPhoneByte]
          exact ⟨(fresh stopped).symm, fun _ => rfl⟩
    rw [List.foldl_cons, ih phone.2 one.2, List.countP_cons]
    omega

/-- Somewhere in the run there is a bracket, or a separator after a digit. -/
def Separates (run : List UInt8) : Prop :=
  ∃ before byte after, run = before ++ byte :: after ∧
    (isBracketByte byte = true ∨
      (isSeparatorByte byte = true ∧ ∃ earlier ∈ before, isDigitByte earlier = true))

theorem Separates.append (separates : Separates run) (before after : List UInt8) :
    Separates (before ++ run ++ after) := by
  obtain ⟨first, byte, second, rfl, cause⟩ := separates
  refine ⟨before ++ first, byte, second ++ after, by simp, cause.imp_right ?_⟩
  rintro ⟨separator, earlier, there, isDigit⟩
  exact ⟨separator, earlier, List.mem_append_right _ there, isDigit⟩

theorem Separates.marked (separates : Separates run)
    (phone : ∀ byte ∈ run, isPhoneByte byte = true) :
    (run.foldl PhoneCandidate.advance candidate).Marked := by
  obtain ⟨before, byte, after, rfl, cause⟩ := separates
  rw [List.forall_mem_append, List.forall_mem_cons] at phone
  rw [List.foldl_append, List.foldl_cons]
  refine Marked.foldl ?_ phone.2.2
  rw [advance_of_mark]
  · exact ⟨Nat.succ_pos _, rfl⟩
  · exact cause.imp_right fun ⟨separator, earlier⟩ =>
      ⟨separator, live_foldl phone.1 (.inr earlier)⟩

/-- **The automaton finds a number in a short run.** The run stands at the start or after
something else, and its last digit is at least the tenth. -/
theorem separatedPhoneSignal_of_run {before : List UInt8} {last : UInt8}
    (apart : before.foldl step candidate = .none)
    (phone : ∀ byte ∈ run, isPhoneByte byte = true) (short : run.length ≤ 32)
    (separates : Separates run) (nine : 9 ≤ run.countP isDigitByte)
    (isDigit : isDigitByte last = true) :
    separatedPhoneSignal candidate (before ++ (run ++ last :: rest)) = true := by
  refine separatedPhoneSignal_append ?_
  rw [apart]
  refine separatedPhoneSignal_append ?_
  rw [foldl_step_eq (by simpa [PhoneCandidate.none] using short), separatedPhoneSignal_cons]
  have digits := @digits_foldl .none run phone fun _ => rfl
  have seen : (run.foldl PhoneCandidate.advance .none).separatorSeen = true :=
    (separates.marked phone).2
  have ten : 10 ≤ (run.foldl PhoneCandidate.advance .none).digits + 1 := by
    omega
  simp [isDigit, seen, ten]

end Separated

section SeparatedMatch

variable {tables : UnicodeTables}

/-- The characters that the search for a separated number goes on at. -/
def isPhoneChar (c : Char) : Bool := isAscii c && isPhoneByte (byteOf c)

theorem toNat_of_phoneByte {byte : UInt8} (phone : isPhoneByte byte = true) : byte.toNat < 128 := by
  obtain isDigit | bracket | separator := isPhoneByte_cases phone
  · simp only [isDigitByte, Bool.and_eq_true, decide_eq_true_eq] at isDigit
    exact Nat.lt_of_le_of_lt isDigit.2 (by decide)
  · simp only [isBracketByte, Bool.or_eq_true, beq_iff_eq] at bracket
    rcases bracket with (rfl | rfl) | rfl <;> decide
  · simp only [isSeparatorByte, Bool.or_eq_true, beq_iff_eq] at separator
    rcases separator with ((((rfl | rfl) | rfl) | rfl) | rfl) | rfl <;> decide

/-- What is no phone character ends the candidate, however many bytes it has. -/
theorem foldl_step_bytes {before : List Char}
    (apart : ∀ c, before.getLast? = some c → isPhoneChar c = false) :
    (bytes before).foldl PhoneCandidate.step .none = .none := by
  obtain rfl | ⟨init, c, same⟩ := List.eq_nil_or_concat before
  · rfl
  · rw [List.concat_eq_append] at same
    subst same
    have other := apart c (by simp)
    have single : bytes [c] = String.utf8EncodeChar c := List.append_nil _
    rw [bytes_append, single]
    cases ascii : isAscii c with
    | true =>
      rw [isPhoneChar, ascii] at other
      rw [utf8EncodeChar_of_ascii ascii, List.foldl_append]
      exact step_of_not_phone other
    | false =>
      obtain ⟨first, last, encoding, high⟩ := utf8EncodeChar_of_not_ascii ascii
      rw [encoding, ← List.append_assoc, List.foldl_append]
      refine step_of_not_phone (Bool.eq_false_iff.mpr fun phone => ?_)
      exact absurd (toNat_of_phoneByte phone) (Nat.not_lt.mpr high)

theorem isSeparatorByte_of_separator (phone : isPhoneChar c = true)
    (separator : tables.meaning .separator c = true) : isSeparatorByte (byteOf c) = true := by
  have table : ∀ n < 128, isPhoneByte (UInt8.ofNat n) = true →
      (isWhiteSpace (Char.ofNat n) || Char.ofNat n == '.' || Char.ofNat n == '-') = true →
        isSeparatorByte (UInt8.ofNat n) = true := by
    decide
  rw [isPhoneChar, Bool.and_eq_true] at phone
  have small : c.toNat < 128 := by simpa [isAscii] using phone.1
  refine table c.toNat small phone.2 ?_
  rw [Char.ofNat_toNat]
  exact separator

theorem isDigitByte_of_phone (phone : isPhoneChar c = true) (isDigit : tables.digit c = true) :
    isDigitByte (byteOf c) = true :=
  isDigitByte_of_digit isDigit (Bool.and_eq_true_iff.mp phone).1

/-- So many digits are counted. -/
theorem countP_of_times {count : Nat}
    (member : word ∈ (Regex.times count digit).language tables.meaning)
    (phone : ∀ c ∈ word, isPhoneChar c = true) : (word.map byteOf).countP isDigitByte = count := by
  obtain ⟨length, digits⟩ := language_times_digit member
  have all : (word.map byteOf).countP isDigitByte = (word.map byteOf).length := by
    refine List.countP_eq_length.mpr fun byte there => ?_
    obtain ⟨c, inside, rfl⟩ := List.mem_map.mp there
    exact isDigitByte_of_phone (phone c inside) (digits c inside)
  rw [all, List.length_map, length]

theorem le_countP_of_between {low high : Nat}
    (member : word ∈ (Regex.between low high digit).language tables.meaning)
    (phone : ∀ c ∈ word, isPhoneChar c = true) : low ≤ (word.map byteOf).countP isDigitByte := by
  obtain ⟨first, times, second, -, rfl⟩ := Language.mem_mul.mp member
  rw [List.forall_mem_append] at phone
  rw [List.map_append, List.countP_append, countP_of_times times phone.1]
  exact Nat.le_add_right ..

/-- The area code has three digits and is set apart from the rest. -/
theorem area_spec (member : word ∈ (Regex.alt
      (.concat [exactly '(', .times 3 digit, exactly ')', .star separator])
      (.concat [.between 3 4 digit, .atLeast 1 separator])).language tables.meaning)
    (phone : ∀ c ∈ word, isPhoneChar c = true) :
    3 ≤ (word.map byteOf).countP isDigitByte ∧ Separates (word.map byteOf) := by
  obtain inBrackets | plain := member
  · obtain ⟨bracket, here, rest, more, rfl⟩ := Language.mem_mul.mp inBrackets
    obtain ⟨code, times, rest, -, rfl⟩ := Language.mem_mul.mp more
    obtain rfl := language_exactly here
    simp only [List.forall_mem_append] at phone
    refine ⟨?_, [], byteOf '(', _, rfl, .inl rfl⟩
    simp only [List.map_append, List.countP_append, countP_of_times times phone.2.1]
    omega
  · obtain ⟨code, digits, rest, more, rfl⟩ := Language.mem_mul.mp plain
    obtain ⟨gaps, inside, _, rfl, rfl⟩ := Language.mem_mul.mp more
    obtain ⟨first, single, gaps, -, rfl⟩ := Language.mem_mul.mp inside
    obtain ⟨_, ⟨gap, isGap, rfl⟩, _, rfl, rfl⟩ := Language.mem_mul.mp single
    simp only [List.forall_mem_append] at phone
    have three := le_countP_of_between digits phone.1
    refine ⟨?_, code.map byteOf, byteOf gap, gaps.map byteOf, by simp, .inr ⟨?_, ?_⟩⟩
    · rw [List.map_append, List.countP_append]
      omega
    · exact isSeparatorByte_of_separator (phone.2.1.1.1 gap (List.mem_singleton_self _)) isGap
    · exact List.countP_pos_iff.mp (Nat.lt_of_lt_of_le (by decide) three)

/-- A separated number ends in a digit, with nine digits and a separation before it. -/
theorem separated_spec (member : word ∈ separatedPhoneRegex.language tables.meaning)
    (phone : ∀ c ∈ word, isPhoneChar c = true) :
    ∃ before last, word = before ++ [last] ∧ isDigitByte (byteOf last) = true ∧
      9 ≤ (before.map byteOf).countP isDigitByte ∧ Separates (before.map byteOf) := by
  obtain ⟨country, -, _, fromArea, rfl⟩ := Language.mem_mul.mp member
  obtain ⟨area, inArea, _, fromMiddle, rfl⟩ := Language.mem_mul.mp fromArea
  obtain ⟨middle, inMiddle, _, fromGap, rfl⟩ := Language.mem_mul.mp fromMiddle
  obtain ⟨gap, -, _, fromLine, rfl⟩ := Language.mem_mul.mp fromGap
  obtain ⟨line, inLine, _, rfl, rfl⟩ := Language.mem_mul.mp fromLine
  simp only [List.forall_mem_append] at phone
  obtain ⟨-, phoneArea, phoneMiddle, -, phoneLine, -⟩ := phone
  obtain ⟨three, separates⟩ := area_spec inArea phoneArea
  have middleDigits := le_countP_of_between inMiddle phoneMiddle
  have lineDigits := countP_of_times inLine phoneLine
  obtain ⟨length, digits⟩ := language_times_digit inLine
  obtain rfl | ⟨init, last, same⟩ := List.eq_nil_or_concat line
  · cases length
  · rw [List.concat_eq_append] at same
    subst same
    have isDigit : isDigitByte (byteOf last) = true :=
      isDigitByte_of_phone (phoneLine last (by simp)) (digits last (by simp))
    refine ⟨country ++ area ++ middle ++ gap ++ init, last, by simp, isDigit, ?_, ?_⟩
    · simp only [List.map_append, List.countP_append, List.map_cons, List.map_nil,
        List.countP_singleton, isDigit, if_true] at lineDigits ⊢
      omega
    · simpa using separates.append (country.map byteOf) ((middle ++ gap ++ init).map byteOf)

/-- The separators that are not counted before a candidate begins. -/
def isSeparatorChar (c : Char) : Bool := isAscii c && isSeparatorByte (byteOf c)

theorem foldl_step_separators {blank : List Char}
    (separators : ∀ c ∈ blank, isSeparatorChar c = true) :
    (bytes blank).foldl PhoneCandidate.step .none = .none := by
  induction blank with
  | nil => rfl
  | cons c rest ih =>
    rw [List.forall_mem_cons, isSeparatorChar, Bool.and_eq_true] at separators
    obtain ⟨⟨ascii, separator⟩, others⟩ := separators
    have first : bytes (c :: rest) = byteOf c :: bytes rest := by
      rw [bytes, List.flatMap_cons, utf8EncodeChar_of_ascii ascii]
      rfl
    have idle : PhoneCandidate.step .none (byteOf c) = .none := by
      simp only [isSeparatorByte, Bool.or_eq_true, beq_iff_eq] at separator
      rcases separator with ((((same | same) | same) | same) | same) | same <;> rw [same] <;> rfl
    rw [first, List.foldl_cons, idle, ih others]

/-- **A number in a short run of phone characters is found.** -/
theorem separated_signal_of_run {before lead word after : List Char}
    (apart : (bytes before).foldl PhoneCandidate.step .none = .none)
    (member : word ∈ separatedPhoneRegex.language tables.meaning)
    (phone : ∀ c ∈ lead ++ word, isPhoneChar c = true) (short : (lead ++ word).length ≤ 32) :
    containsSeparatedPhoneSignal (before ++ lead ++ word ++ after) = true := by
  rw [List.forall_mem_append] at phone
  obtain ⟨init, last, rfl, isDigit, nine, separates⟩ := separated_spec member phone.2
  have ascii : ∀ c ∈ lead ++ (init ++ [last]), isAscii c = true := fun c inside =>
    (Bool.and_eq_true_iff.mp (List.forall_mem_append.mpr phone c inside)).1
  have split : bytes (before ++ lead ++ (init ++ [last]) ++ after) =
      bytes before ++ ((lead ++ init).map byteOf ++ byteOf last :: bytes after) := by
    have inner := bytes_of_ascii ascii
    have : before ++ lead ++ (init ++ [last]) ++ after =
        before ++ (lead ++ (init ++ [last])) ++ after := by simp
    rw [this, bytes_append, bytes_append, inner]
    simp
  rw [containsSeparatedPhoneSignal, split]
  refine separatedPhoneSignal_of_run apart (fun byte inside => ?_) ?_ ?_ ?_ isDigit
  · obtain ⟨c, there, rfl⟩ := List.mem_map.mp inside
    refine (Bool.and_eq_true_iff.mp (List.forall_mem_append.mpr phone c ?_)).2
    rw [← List.append_assoc]
    exact List.mem_append_left _ there
  · simp only [List.length_append, List.length_map] at short ⊢
    omega
  · simpa using separates.append (lead.map byteOf) []
  · rw [List.map_append, List.countP_append]
    omega

end SeparatedMatch

/-! ## Redaction -/

section Redaction

variable (tables : UnicodeTables)

/-- The five replacements without any check. -/
def redactUnconditionally (text : List Char) : List Char :=
  let text := emailRegex.replaceAll tables.meaning redactedEmail text
  let text := separatedPhoneRegex.replaceAll tables.meaning redactedPhone text
  let text := compactPhoneRegex.replaceAll tables.meaning redactedPhone text
  let text := wechatRegex.replaceAll tables.meaning redactedWechat text
  localPathRegex.replaceAll tables.meaning redactedPath text

/-- A replacement that is made only on a signal. -/
def redactOn (signal : List Char → Bool) (regex : Pattern) (replacement text : List Char) :
    List Char :=
  if signal text then regex.replaceAll tables.meaning replacement text else text

/-- A separated number that, with the phone characters right before it, takes at most
thirty-two bytes. Separators that these begin with are not counted. -/
def HasShortNumber (text : List Char) : Prop :=
  ∃ before blank lead word after, text = before ++ blank ++ lead ++ word ++ after ∧
    word ∈ separatedPhoneRegex.language tables.meaning ∧
    (∀ c, before.getLast? = some c → isPhoneChar c = false) ∧
    (∀ c ∈ blank, isSeparatorChar c = true) ∧
    (∀ c ∈ lead ++ word, isPhoneChar c = true) ∧ (lead ++ word).length ≤ 32

/-- A compact number in ASCII digits. -/
def HasAsciiNumber (text : List Char) : Prop :=
  ∃ before word after, text = before ++ word ++ after ∧
    word ∈ compactPhoneRegex.language tables.meaning ∧ ∀ c ∈ word, isAscii c = true

variable {tables} {text : List Char}

theorem redactedText_replaceRedaction (current : Option (List Char)) (regex : Pattern)
    (replacement : List Char) :
    redactedText text (replaceRedaction tables current text regex replacement) =
      regex.replaceAll tables.meaning replacement (redactedText text current) := by
  cases found : regex.isMatch tables.meaning (redactedText text current) with
  | true =>
    simp only [replaceRedaction, found]
    rfl
  | false =>
    simp only [replaceRedaction, found]
    exact (Regex.replaceAll_of_not_isMatch found).symm

theorem redactedText_ite (signal : List Char → Bool) (current : Option (List Char))
    (regex : Pattern) (replacement : List Char) :
    redactedText text
        (if signal (redactedText text current) then
          replaceRedaction tables current text regex replacement
        else current) =
      redactOn tables signal regex replacement (redactedText text current) := by
  unfold redactOn
  split
  · exact redactedText_replaceRedaction ..
  · rfl

theorem redactContactValues_eq :
    redactContactValues tables text =
      redactOn tables containsLocalPathSignal localPathRegex redactedPath
        (redactOn tables containsWechatSignal wechatRegex redactedWechat
          (redactOn tables containsCompactPhoneSignal compactPhoneRegex redactedPhone
            (redactOn tables containsSeparatedPhoneSignal separatedPhoneRegex redactedPhone
              (redactOn tables (·.contains '@') emailRegex redactedEmail text)))) := by
  refine (redactedText_ite containsLocalPathSignal _ _ _).trans (congrArg _ ?_)
  refine (redactedText_ite containsWechatSignal _ _ _).trans (congrArg _ ?_)
  refine (redactedText_ite containsCompactPhoneSignal _ _ _).trans (congrArg _ ?_)
  refine (redactedText_ite containsSeparatedPhoneSignal _ _ _).trans (congrArg _ ?_)
  exact redactedText_ite (·.contains '@') none _ _

/-- A check that finds a signal in every match changes nothing. -/
theorem redactOn_of_complete {signal : List Char → Bool} {regex : Pattern} {replacement : List Char}
    (complete : regex.isMatch tables.meaning text = true → signal text = true) :
    redactOn tables signal regex replacement text =
      regex.replaceAll tables.meaning replacement text := by
  unfold redactOn
  split
  · rfl
  next silent =>
    have none : regex.isMatch tables.meaning text = false :=
      Bool.eq_false_iff.mpr fun found => silent (complete found)
    exact (Regex.replaceAll_of_not_isMatch none).symm

/-- Only the checks for phone numbers decide anything. They find every number in a short run
of phone characters and every ten ASCII digits; where each finds a signal in what its pattern
matches, redaction is the five replacements. -/
theorem redaction_signals (tables : UnicodeTables) (text : List Char) :
    redactContactValues tables text =
        localPathRegex.replaceAll tables.meaning redactedPath
          (wechatRegex.replaceAll tables.meaning redactedWechat
            (redactOn tables containsCompactPhoneSignal compactPhoneRegex redactedPhone
              (redactOn tables containsSeparatedPhoneSignal separatedPhoneRegex redactedPhone
                (emailRegex.replaceAll tables.meaning redactedEmail text)))) ∧
      (HasShortNumber tables text → containsSeparatedPhoneSignal text = true) ∧
      (HasAsciiNumber tables text → containsCompactPhoneSignal text = true) ∧
      (let first := emailRegex.replaceAll tables.meaning redactedEmail text
        let second := separatedPhoneRegex.replaceAll tables.meaning redactedPhone first
        (separatedPhoneRegex.isMatch tables.meaning first = true →
          containsSeparatedPhoneSignal first = true) →
        (compactPhoneRegex.isMatch tables.meaning second = true →
          containsCompactPhoneSignal second = true) →
        redactContactValues tables text = redactUnconditionally tables text) := by
  have gated := @redactContactValues_eq tables text
  rw [redactOn_of_complete path_signal_of_match, redactOn_of_complete wechat_signal_of_match,
    redactOn_of_complete at_of_email] at gated
  refine ⟨gated, ?_, ?_, fun separated compact => ?_⟩
  · rintro ⟨before, blank, lead, word, after, rfl, member, apart, separators, phone, short⟩
    refine separated_signal_of_run ?_ member phone short
    rw [bytes_append, List.foldl_append, foldl_step_bytes apart, foldl_step_separators separators]
  · rintro ⟨before, word, after, rfl, member, ascii⟩
    exact compact_signal_of_match member ascii
  · rw [gated, redactOn_of_complete separated, redactOn_of_complete compact]
    rfl

theorem meaning_of_ascii (tables : UnicodeTables) (set : CharClass) (ascii : isAscii c = true) :
    tables.meaning set c = UnicodeTables.ascii.meaning set c := by
  have small : c.toNat < 128 := by simpa [isAscii] using ascii
  cases set with
  | digit => exact tables.digit_ascii c small
  | word => exact tables.word_ascii c small
  | set | space | notSpace | separator => rfl

/-- On an ASCII text all tables are alike. -/
theorem replaceAll_of_ascii (tables : UnicodeTables) {regex : Pattern} {replacement : List Char}
    (ascii : ∀ c ∈ text, isAscii c = true) :
    regex.replaceAll tables.meaning replacement text =
      regex.replaceAll UnicodeTables.ascii.meaning replacement text :=
  Regex.replaceAll_congr fun set c member => meaning_of_ascii tables set (ascii c member)

/-- A phone number with a wide gap. -/
def wideNumber : List Char :=
  ['1', '2', '3'] ++ List.replicate 25 ' ' ++ ['4', '5', '6', '7', '8', '9', '0']

theorem wide_number_not_redacted :
    containsSeparatedPhoneSignal wideNumber = false ∧
      ∀ tables : UnicodeTables, redactContactValues tables wideNumber = wideNumber ∧
        redactUnconditionally tables wideNumber = redactedPhone := by
  refine ⟨by decide, fun tables => ?_⟩
  have ascii : ∀ c ∈ wideNumber, isAscii c = true := List.all_eq_true.mp (by decide)
  have token : ∀ c ∈ redactedPhone, isAscii c = true := List.all_eq_true.mp (by decide)
  constructor
  · have quiet : ∀ signal regex replacement, signal wideNumber = false →
        redactOn tables signal regex replacement wideNumber = wideNumber :=
      fun signal _ _ silent => if_neg (by simp [silent])
    rw [redactContactValues_eq, quiet (·.contains '@') _ _ (by decide),
      quiet containsSeparatedPhoneSignal _ _ (by decide),
      quiet containsCompactPhoneSignal _ _ (by decide),
      quiet containsWechatSignal _ _ (by decide), quiet containsLocalPathSignal _ _ (by decide)]
  · have email : emailRegex.replaceAll tables.meaning redactedEmail wideNumber = wideNumber := by
      rw [replaceAll_of_ascii tables ascii]
      decide +kernel
    have separated :
        separatedPhoneRegex.replaceAll tables.meaning redactedPhone wideNumber = redactedPhone := by
      rw [replaceAll_of_ascii tables ascii]
      decide +kernel
    have later : ∀ regex replacement,
        Regex.replaceAll UnicodeTables.ascii.meaning regex replacement redactedPhone =
          redactedPhone →
        regex.replaceAll tables.meaning replacement redactedPhone = redactedPhone :=
      fun regex replacement same => by rw [replaceAll_of_ascii tables token, same]
    rw [redactUnconditionally, email, separated, later _ _ (by decide +kernel),
      later _ _ (by decide +kernel), later _ _ (by decide +kernel)]

/-- A number as it is usually written. -/
theorem redaction_signals_of_phone :
    redactContactValues .ascii "+1 650-555-1234".toList =
      redactUnconditionally .ascii "+1 650-555-1234".toList ∧
    redactUnconditionally .ascii "+1 650-555-1234".toList = redactedPhone :=
  ⟨(redaction_signals .ascii "+1 650-555-1234".toList).2.2.2 (by decide +kernel)
    (by decide +kernel), by decide +kernel⟩

end Redaction

end ResumeIr.Privacy
