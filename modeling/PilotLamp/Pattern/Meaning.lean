import PilotLamp.Pattern.Matching
import PilotLamp.Pattern.Text

/-!
# From written patterns to their meaning

The flags decide what a written pattern means: characters or bytes, upper and lower case, lines.
Of what lies beyond ASCII only single characters and ranges are known, no classes and no cases, so
patterns that need those are refused. Bytes may be matched only where they are ASCII.
-/

namespace PilotLamp

namespace WrittenSet

/-- A set of characters, with whether something stands in it. -/
structure Meaning where
  /-- Which characters are in it. -/
  accepts : Char → Bool
  /-- Whether something stands in it. -/
  isOccupied : Bool

/-- A set in which something stands. -/
def Meaning.ofChars (accepts : Char → Bool) : Meaning := ⟨accepts, true⟩

/-- A letter in the other case, and any other character itself. -/
def swapCase (c : Char) : Char :=
  if c.isUpper then c.toLower else if c.isLower then c.toUpper else c

/-- A set of ASCII characters with both cases of each letter. -/
def fold (accepts : Char → Bool) : Char → Bool := fun c => accepts c || accepts (swapCase c)

/-- Whether all bytes of a set are ASCII. -/
def isAscii (accepts : Char → Bool) : Bool :=
  (List.range 0x80).all fun n => !accepts (Char.ofNat (0x80 + n))

/-- Checks that a set of bytes is one of ASCII characters. -/
def ofBytes (accepts : Char → Bool) : Except PatternError Meaning :=
  if isAscii accepts then .ok (.ofChars fun c => decide (c.toNat < 0x80) && accepts c)
  else .error .invalidText

/-- A set with both cases of each letter if case does not matter. -/
def foldCase (flags : PatternFlags) (set : Meaning) : Except PatternError Meaning :=
  if !flags.caseInsensitive then .ok set
  else if !flags.wide then .ok { set with accepts := fold set.accepts }
  else if set.isOccupied then .error .wideCaseUnknown
  else .ok set

/-- A set between brackets, which may be negated. -/
def close (flags : PatternFlags) (negated : Bool) (set : Meaning) :
    Except PatternError Meaning := do
  let set ← foldCase flags set
  let accepts (c : Char) : Bool := set.accepts c != negated
  if flags.wide then .ok ⟨accepts, set.isOccupied || negated⟩ else ofBytes accepts

/-- The ASCII characters of a class with a letter of its own. -/
def ofLetter (kind : LetterClass) (c : Char) : Bool :=
  match kind with
  | .digit => c.isDigit
  | .blank => c == ' ' || (0x09 ≤ c.toNat && c.toNat ≤ 0x0D)
  | .word => c.isAlphanum || c == '_'

/-- A class with a letter of its own. -/
def letterMeaning (flags : PatternFlags) (kind : LetterClass) (negated : Bool) :
    Except PatternError Meaning :=
  if flags.wide then .error .wideClassUnknown
  else ofBytes fun c => ofLetter kind c != negated

/-- What is wrong with a property. -/
def propertyError (flags : PatternFlags) (valueMissing : Bool) : PatternError :=
  if !flags.wide then .wideNotAllowed
  else if valueMissing then .propertyValueUnknown
  else .propertyUnknown

/-- A character in a set. -/
def elementChar (flags : PatternFlags) (c : WrittenChar) : Except PatternError Char :=
  if flags.wide || c.char.toNat < 0x80 then .ok c.char
  else if c.isByte then .error .invalidText
  else .error .wideNotAllowed

/-- Whether a character is in one of some ranges. -/
def inRanges (ranges : List (Char × Char)) (c : Char) : Bool :=
  ranges.any fun range => decide (range.1 ≤ c ∧ c ≤ range.2)

/-- The characters of an operation on two sets. -/
def operate (kind : SetOperation) (first second : Bool) : Bool :=
  match kind with
  | .intersection => first && second
  | .difference => first && !second
  | .symmetricDifference => first != second

/-- The characters of a written set. -/
def meaning (flags : PatternFlags) : WrittenSet → Except PatternError Meaning
  | empty => .ok ⟨fun _ => false, false⟩
  | one c => do
    let c ← elementChar flags c
    .ok (.ofChars (· == c))
  | range first last => do
    let first ← elementChar flags first
    let last ← elementChar flags last
    .ok (.ofChars (inRanges [(first, last)]))
  | named ranges negated => close flags negated (.ofChars (inRanges ranges))
  | letter kind negated => letterMeaning flags kind negated
  | property valueMissing => .error (propertyError flags valueMissing)
  | union first second => do
    let first ← first.meaning flags
    let second ← second.meaning flags
    .ok ⟨fun c => first.accepts c || second.accepts c, first.isOccupied || second.isOccupied⟩
  | bracketed negated set => do close flags negated (← set.meaning flags)
  | operation kind first second => do
    let first ← first.meaning flags
    let second ← second.meaning flags
    let first ← foldCase flags first
    let second ← foldCase flags second
    .ok ⟨fun c => operate kind (first.accepts c) (second.accepts c),
      first.isOccupied || second.isOccupied⟩

end WrittenSet

namespace WrittenPattern

/-- The meaning of a single character. -/
def charMeaning (flags : PatternFlags) (c : WrittenChar) : Except PatternError Pattern :=
  if flags.wide then
    if flags.caseInsensitive then .error .wideCaseUnknown else .ok (.one (· == c.char))
  else if 0x80 ≤ c.char.toNat then
    if c.isByte then .error .invalidText
    else if flags.caseInsensitive then .error .wideNotAllowed
    else .ok (.one (· == c.char))
  else if flags.caseInsensitive then .ok (.one (WrittenSet.fold (· == c.char)))
  else .ok (.one (· == c.char))

/-- The meaning of the dot. -/
def dotMeaning (flags : PatternFlags) : Except PatternError Pattern :=
  if !flags.wide then .error .invalidText
  else if flags.dotMatchesLineFeed then .ok (.one fun _ => true)
  else if flags.returnEndsLine then .ok (.one fun c => c != '\n' && c != '\r')
  else .ok (.one (· != '\n'))

/-- The meaning of an assertion. -/
def assertionMeaning (flags : PatternFlags) : PatternAssertion → Pattern
  | .textStart => .place .textStart
  | .textEnd => .place .textEnd
  | .lineStart =>
    .place (if flags.multiLine then .lineStart flags.returnEndsLine else .textStart)
  | .lineEnd => .place (if flags.multiLine then .lineEnd flags.returnEndsLine else .textEnd)
  | .wordBoundary => ofWord .wordBoundary
  | .noWordBoundary => ofWord .noWordBoundary
  | .wordStart => ofWord .wordStart
  | .wordEnd => ofWord .wordEnd
  | .wordStartHalf => ofWord .wordStartHalf
  | .wordEndHalf => ofWord .wordEndHalf
where
  /-- A test on words, which are known in ASCII only. -/
  ofWord (test : PlaceTest) : Pattern := if flags.wide then .untestable else .place test

/-- The meaning of a written pattern under some flags, and the flags after it. -/
def meaning (flags : PatternFlags) :
    WrittenPattern → Except PatternError (Pattern × PatternFlags)
  | empty => .ok (.empty, flags)
  | .flags changes => .ok (.empty, flags.changeAll changes)
  | char c => (charMeaning flags c).map (·, flags)
  | dot => (dotMeaning flags).map (·, flags)
  | assertion kind => .ok (assertionMeaning flags kind, flags)
  | letter kind negated => do
    let set ← WrittenSet.letterMeaning flags kind negated
    .ok (.one set.accepts, flags)
  | property valueMissing => .error (WrittenSet.propertyError flags valueMissing)
  | set negated elements => do
    let set ← WrittenSet.close flags negated (← elements.meaning flags)
    .ok (.one set.accepts, flags)
  | repetition pattern least most => do
    let (pattern, flags) ← pattern.meaning flags
    if most = some 0 then .ok (.empty, flags) else .ok (.repetition pattern least most, flags)
  | group changes pattern => do
    let (pattern, _) ← pattern.meaning (flags.changeAll changes)
    .ok (pattern, flags)
  | sequence first second => do
    let (first, flags) ← first.meaning flags
    let (second, flags) ← second.meaning flags
    .ok (.sequence first second, flags)
  | either first second => do
    let (first, flags) ← first.meaning flags
    let (second, flags) ← second.meaning flags
    .ok (.either first second, flags)

end WrittenPattern

namespace Pattern

/-- The most bytes that a pattern may take when its repetitions are written out. -/
def maxSize : Nat := 0xA00000

/-- How many bytes a character or a place of a pattern takes. -/
def sizeOfOne : Nat := 32

/-- The meaning of the text of a pattern. -/
def ofText (text : String) : Except PatternError Pattern := do
  let written ← PatternText.read text
  let (pattern, _) ← written.meaning {}
  if maxSize < pattern.extent * sizeOfOne then .error (.tooLarge maxSize)
  else if !pattern.isTestable then .error .wideWordUnknown
  else .ok pattern

end Pattern

end PilotLamp
