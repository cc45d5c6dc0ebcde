import ResumeIr.CoreDomain.Text
import ResumeIr.Foundation.Regex

/-!
# Redaction of contact values

Before a text crosses a privacy boundary its e-mail addresses, phone numbers, WeChat names
and local paths are replaced. There are five patterns, applied one after another, and each is
tried only when a cheap check of the bytes of the text finds a signal for it.

A text is the list of its characters. The digit and word classes of Unicode are tables that
the patterns refer to; only what they say about ASCII is fixed here (`UnicodeTables`).
-/

namespace ResumeIr.Privacy

open Foundation CoreDomain

/-! ## Character classes -/

def isAsciiDigit (c : Char) : Bool := '0' ≤ c && c ≤ '9'

def isAsciiAlphabetic (c : Char) : Bool := ('a' ≤ c && c ≤ 'z') || ('A' ≤ c && c ≤ 'Z')

def isAsciiWord (c : Char) : Bool := isAsciiAlphabetic c || isAsciiDigit c || c == '_'

/-- The classes `\d` and `\w` of Unicode, and what they are on ASCII. -/
structure UnicodeTables where
  digit : Char → Bool
  word : Char → Bool
  digit_ascii : ∀ c : Char, c.toNat < 128 → digit c = isAsciiDigit c
  word_ascii : ∀ c : Char, c.toNat < 128 → word c = isAsciiWord c

/-- The tables that know no character outside ASCII. -/
def UnicodeTables.ascii : UnicodeTables where
  digit := isAsciiDigit
  word := isAsciiWord
  digit_ascii _ _ := rfl
  word_ascii _ _ := rfl

/-- The classes that the patterns use. -/
inductive CharClass where
  /-- A class that the pattern spells out. -/
  | set (holds : Char → Bool)
  | digit
  | space
  | notSpace
  | word
  /-- White space, a full stop or a hyphen. -/
  | separator

def UnicodeTables.meaning (tables : UnicodeTables) : CharClass → Char → Bool
  | .set holds => holds
  | .digit => tables.digit
  | .space => isWhiteSpace
  | .notSpace => fun c => !isWhiteSpace c
  | .word => tables.word
  | .separator => fun c => isWhiteSpace c || c == '.' || c == '-'

/-! ## Patterns -/

/-- Patterns over these classes. -/
abbrev Pattern := Regex CharClass

def one (holds : Char → Bool) : Pattern := .one (.set holds)

def exactly (c : Char) : Pattern := one (· == c)

def literal (text : List Char) : Pattern := .concat (text.map exactly)

/-- The characters that a lower-case ASCII letter stands for when case is ignored. The long s
and the sign of the kelvin fold to ASCII letters. -/
def foldsTo (letter c : Char) : Bool :=
  c == letter || c.toNat + 32 == letter.toNat || (letter == 's' && c == 'ſ') ||
    (letter == 'k' && c == '\u212a')

def foldedLetter (c : Char) : Bool := isAsciiAlphabetic c || c == 'ſ' || c == '\u212a'

/-- A text in lower case, matched without regard to case. -/
def ignoringCase (text : List Char) : Pattern := .concat (text.map fun letter => one (foldsTo letter))

/-- `EMAIL_REGEX`. -/
def emailRegex : Pattern :=
  .concat [
    .boundary (.set isAsciiWord),
    .atLeast 1 (one fun c =>
      isAsciiAlphabetic c || isAsciiDigit c || ['.', '_', '%', '+', '-'].contains c),
    exactly '@',
    .atLeast 1 (one fun c => isAsciiAlphabetic c || isAsciiDigit c || ['.', '-'].contains c),
    exactly '.',
    .atLeast 2 (one isAsciiAlphabetic),
    .boundary (.set isAsciiWord)]

def digit : Pattern := .one .digit

def separator : Pattern := .one .separator

def separatedPhoneRegex : Pattern :=
  .concat [
    .opt (.concat [exactly '+', .between 1 3 digit, .star separator]),
    .alt (.concat [exactly '(', .times 3 digit, exactly ')', .star separator])
      (.concat [.between 3 4 digit, .atLeast 1 separator]),
    .between 3 4 digit,
    .star separator,
    .times 4 digit]

def compactPhoneRegex : Pattern :=
  .concat [.opt (exactly '+'), .opt (exactly '1'), .times 10 digit, .boundary .word]

def wechatRegex : Pattern :=
  .concat [
    .boundary .word,
    .oneOf (ignoringCase "wechat".toList)
      [ignoringCase "weixin".toList, ignoringCase "wx".toList, literal "微信".toList,
        literal "微信号".toList],
    .star (.one .space),
    one fun c => c == ':' || c == '：',
    .star (.one .space),
    one foldedLetter,
    .between 5 31 (one fun c => foldedLetter c || isAsciiDigit c || ['_', '.', '-'].contains c),
    .boundary .word]

def notSpace : Pattern := .one .notSpace

def slash (c : Char) : Bool := c == '\\' || c == '/'

def localPathRegex : Pattern :=
  .oneOf (.concat [ignoringCase "file".toList, literal "://".toList, .atLeast 1 notSpace])
    [.concat [
      .oneOf (exactly '~')
        [.seq (exactly '/') (ignoringCase "users".toList),
          .seq (exactly '/') (ignoringCase "home".toList),
          .seq (exactly '/') (ignoringCase "private".toList),
          .seq (exactly '/') (ignoringCase "var".toList),
          .seq (exactly '/') (ignoringCase "tmp".toList),
          .concat [one foldedLetter, exactly ':', one slash]],
      .star notSpace],
    .concat [.boundary .word, one foldedLetter, literal ":\\".toList, .atLeast 1 notSpace],
    .concat [
      .star notSpace,
      .oneOf (.concat [exactly '/', ignoringCase "users".toList, exactly '/'])
        [.concat [exactly '/', ignoringCase "home".toList, exactly '/'],
          .seq (exactly '/') (ignoringCase "private".toList),
          .concat [exactly '\\', ignoringCase "users".toList, exactly '\\']],
      .star notSpace]]

/-! ## Signals -/

def bytes (text : List Char) : List UInt8 := text.flatMap String.utf8EncodeChar

/-- What the search for a separated phone number remembers. -/
structure PhoneCandidate where
  digits : Nat
  candidateLen : Nat
  separatorSeen : Bool

namespace PhoneCandidate

def none : PhoneCandidate := ⟨0, 0, false⟩

/-- A candidate of more than thirty-two bytes is given up. -/
def cut (candidate : PhoneCandidate) : PhoneCandidate :=
  if candidate.candidateLen > 32 then none else candidate

end PhoneCandidate

def isDigitByte (byte : UInt8) : Bool := 48 ≤ byte && byte ≤ 57

/-- The bytes of `+`, `(` and `)`. -/
def isBracketByte (byte : UInt8) : Bool := byte == 43 || byte == 40 || byte == 41

/-- The bytes of the space, the tab, the line ends, the full stop and the hyphen. -/
def isSeparatorByte (byte : UInt8) : Bool :=
  byte == 32 || byte == 9 || byte == 10 || byte == 13 || byte == 46 || byte == 45

def separatedPhoneSignal (candidate : PhoneCandidate) : List UInt8 → Bool
  | [] => false
  | byte :: rest =>
      if isDigitByte byte then
        let next : PhoneCandidate :=
          ⟨candidate.digits + 1, candidate.candidateLen + 1, candidate.separatorSeen⟩
        if next.digits ≥ 10 && next.separatorSeen then true
        else separatedPhoneSignal next.cut rest
      else if isBracketByte byte ||
          (isSeparatorByte byte && decide (candidate.candidateLen > 0)) then
        separatedPhoneSignal
          (PhoneCandidate.cut ⟨candidate.digits, candidate.candidateLen + 1, true⟩) rest
      else separatedPhoneSignal .none rest

def containsSeparatedPhoneSignal (text : List Char) : Bool :=
  separatedPhoneSignal .none (bytes text)

def compactPhoneSignal (consecutiveDigits : Nat) : List UInt8 → Bool
  | [] => false
  | byte :: rest =>
      if isDigitByte byte then
        if consecutiveDigits + 1 ≥ 10 then true
        else compactPhoneSignal (consecutiveDigits + 1) rest
      else compactPhoneSignal 0 rest

def containsCompactPhoneSignal (text : List Char) : Bool := compactPhoneSignal 0 (bytes text)

def windows {α : Type*} (size : Nat) (items : List α) : List (List α) :=
  (items.tails.filter (size ≤ ·.length)).map (·.take size)

def toAsciiLowercase (byte : UInt8) : UInt8 :=
  if 65 ≤ byte && byte ≤ 90 then byte + 32 else byte

def containsAsciiCaseInsensitive (haystack : List Char) (needle : List UInt8) : Bool :=
  (windows needle.length (bytes haystack)).any fun window =>
    window.map toAsciiLowercase == needle.map toAsciiLowercase

def containsWechatSignal (text : List Char) : Bool :=
  text.tails.any ("微信".toList.isPrefixOf ·) ||
    containsAsciiCaseInsensitive text (bytes "wechat".toList) ||
    containsAsciiCaseInsensitive text (bytes "weixin".toList) ||
    containsAsciiCaseInsensitive text (bytes "wx".toList)

/-- The bytes of `/`, `\` and `~`. -/
def containsLocalPathSignal (text : List Char) : Bool :=
  (bytes text).any fun byte => byte == 47 || byte == 92 || byte == 126

/-! ## Redaction -/

def redactedEmail : List Char := "<redacted-email>".toList
def redactedPhone : List Char := "<redacted-phone>".toList
def redactedWechat : List Char := "<redacted-wechat>".toList
def redactedPath : List Char := "<redacted-path>".toList

def redactedText (original : List Char) (redacted : Option (List Char)) : List Char :=
  redacted.getD original

section Redaction

variable (tables : UnicodeTables)

/-- The text is copied only when the pattern matches. -/
def replaceRedaction (current : Option (List Char)) (original : List Char) (regex : Pattern)
    (replacement : List Char) : Option (List Char) :=
  let text := redactedText original current
  if regex.isMatch tables.meaning text then
    some (regex.replaceAll tables.meaning replacement text)
  else current

def redactContactValues (text : List Char) : List Char :=
  let redacted := none
  let redacted :=
    if text.contains '@' then replaceRedaction tables redacted text emailRegex redactedEmail
    else redacted
  let redacted :=
    if containsSeparatedPhoneSignal (redactedText text redacted) then
      replaceRedaction tables redacted text separatedPhoneRegex redactedPhone
    else redacted
  let redacted :=
    if containsCompactPhoneSignal (redactedText text redacted) then
      replaceRedaction tables redacted text compactPhoneRegex redactedPhone
    else redacted
  let redacted :=
    if containsWechatSignal (redactedText text redacted) then
      replaceRedaction tables redacted text wechatRegex redactedWechat
    else redacted
  let redacted :=
    if containsLocalPathSignal (redactedText text redacted) then
      replaceRedaction tables redacted text localPathRegex redactedPath
    else redacted
  redactedText text redacted

end Redaction

end ResumeIr.Privacy
