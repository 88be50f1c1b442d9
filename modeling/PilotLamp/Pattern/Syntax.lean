/-!
# Patterns as they are written

A pattern describes texts: characters, classes of characters, assertions about a place, groups,
alternatives and repetitions. This module holds what a pattern consists of and what can be wrong
with one, in the words of the reports.
-/

namespace PilotLamp

/-- What can be wrong with a pattern. -/
inductive PatternError
  | classEscape | classRangeOrder | classRangeBoundary | classUnclosed
  | decimalInvalid | countEmpty | countUnclosed | countOrder | repeatsNothing
  | hexEmpty | hexNoCharacter | hexDigit | escapeEnds | escapeUnknown
  | flagDangling | flagDuplicate | flagNegatedTwice | flagEnds | flagUnknown
  | nameDuplicate | nameEmpty | nameCharacter | nameUnclosed | groupUnclosed | groupUnopened
  | nestedTooDeep (limit : Nat)
  | boundaryUnclosed | boundaryUnknown | boundaryEnds
  | propertySyntax | backreference | lookAround
  /-- A class of more than bytes where only bytes may be matched. -/
  | wideNotAllowed
  /-- Bytes may be matched that are no text. -/
  | invalidText
  /-- A named property of characters is not known. -/
  | propertyUnknown
  /-- A value of a property of characters is not known. -/
  | propertyValueUnknown
  /-- The class of digits, blanks or word characters beyond ASCII is not known. -/
  | wideClassUnknown
  /-- The case of characters beyond ASCII is not known. -/
  | wideCaseUnknown
  /-- The word characters beyond ASCII are not known. -/
  | wideWordUnknown
  /-- The pattern grows too large when its repetitions are written out. -/
  | tooLarge (limit : Nat)
deriving DecidableEq, Repr

namespace PatternError

/-- The wording. -/
def message : PatternError → String
  | classEscape => "invalid escape sequence found in character class"
  | classRangeOrder => "invalid character class range, the start must be <= the end"
  | classRangeBoundary => "invalid range boundary, must be a literal"
  | classUnclosed => "unclosed character class"
  | decimalInvalid => "decimal literal invalid"
  | countEmpty => "repetition quantifier expects a valid decimal"
  | countUnclosed => "unclosed counted repetition"
  | countOrder => "invalid repetition count range, the start must be <= the end"
  | repeatsNothing => "repetition operator missing expression"
  | hexEmpty => "hexadecimal literal empty"
  | hexNoCharacter => "hexadecimal literal is not a Unicode scalar value"
  | hexDigit => "invalid hexadecimal digit"
  | escapeEnds => "incomplete escape sequence, reached end of pattern prematurely"
  | escapeUnknown => "unrecognized escape sequence"
  | flagDangling => "dangling flag negation operator"
  | flagDuplicate => "duplicate flag"
  | flagNegatedTwice => "flag negation operator repeated"
  | flagEnds => "expected flag but got end of regex"
  | flagUnknown => "unrecognized flag"
  | nameDuplicate => "duplicate capture group name"
  | nameEmpty => "empty capture group name"
  | nameCharacter => "invalid capture group character"
  | nameUnclosed => "unclosed capture group name"
  | groupUnclosed => "unclosed group"
  | groupUnopened => "unopened group"
  | nestedTooDeep limit =>
    "exceed the maximum number of nested parentheses/brackets (" ++ Nat.repr limit ++ ")"
  | boundaryUnclosed =>
    "special word boundary assertion is either unclosed or contains an invalid character"
  | boundaryUnknown =>
    "unrecognized special word boundary assertion, valid choices are: start, end, start-half "
      ++ "or end-half"
  | boundaryEnds =>
    "found either the beginning of a special word boundary or a bounded repetition on a \\b "
      ++ "with an opening brace, but no closing brace"
  | propertySyntax => "invalid Unicode character class"
  | backreference => "backreferences are not supported"
  | lookAround => "look-around, including look-ahead and look-behind, is not supported"
  | wideNotAllowed => "Unicode not allowed here"
  | invalidText => "pattern can match invalid UTF-8"
  | propertyUnknown => "Unicode property not found"
  | propertyValueUnknown => "Unicode property value not found"
  | wideClassUnknown =>
    "Unicode-aware Perl class not found (make sure the unicode-perl feature is enabled)"
  | wideCaseUnknown =>
    "Unicode-aware case insensitivity matching is not available (make sure the unicode-case "
      ++ "feature is enabled)"
  | wideWordUnknown => "error building NFA"
  | tooLarge limit => "Compiled regex exceeds size limit of " ++ Nat.repr limit ++ " bytes."

/-- Whether an error can be found in the pattern as it is written. The others show only when it is
made ready for matching, and their reports do not repeat the pattern. -/
def isOfSyntax : PatternError → Bool
  | wideWordUnknown | tooLarge _ => false
  | _ => true

/-- What is reported about a pattern. -/
def report (pattern : String) (error : PatternError) : String :=
  if error.isOfSyntax then
    let lines := (pattern.toList.splitOn '\n').map fun line => "    " ++ String.ofList line ++ "\n"
    "regex parse error:\n" ++ String.join lines ++ "error: " ++ error.message
  else error.message

end PatternError

/-- What a flag of a pattern changes. -/
inductive PatternFlag
  /-- Upper and lower case are the same. -/
  | caseInsensitive
  /-- Lines have a start and an end. -/
  | multiLine
  /-- The dot matches a line feed. -/
  | dotMatchesLineFeed
  /-- Repetitions are short by default. -/
  | swapGreed
  /-- Characters rather than bytes are matched. -/
  | wide
  /-- Lines may end with a carriage return. -/
  | returnEndsLine
  /-- White space and comments in the pattern mean nothing. -/
  | ignoreBlanks
deriving DecidableEq, Repr

/-- The flags that are in force. -/
structure PatternFlags where
  /-- Whether upper and lower case are the same. -/
  caseInsensitive : Bool := false
  /-- Whether lines have a start and an end. -/
  multiLine : Bool := false
  /-- Whether the dot matches a line feed. -/
  dotMatchesLineFeed : Bool := false
  /-- Whether characters rather than bytes are matched. -/
  wide : Bool := true
  /-- Whether lines may end with a carriage return. -/
  returnEndsLine : Bool := false
deriving DecidableEq, Repr

/-- A flag that is set or cleared. -/
structure FlagChange where
  /-- The flag. -/
  flag : PatternFlag
  /-- Whether it is set. -/
  on : Bool
deriving DecidableEq, Repr

namespace PatternFlags

/-- The flags after a change. How much a repetition takes does not matter to whether it matches,
and blanks matter to reading alone. -/
def change (flags : PatternFlags) (change : FlagChange) : PatternFlags :=
  match change.flag with
  | .caseInsensitive => { flags with caseInsensitive := change.on }
  | .multiLine => { flags with multiLine := change.on }
  | .dotMatchesLineFeed => { flags with dotMatchesLineFeed := change.on }
  | .wide => { flags with wide := change.on }
  | .returnEndsLine => { flags with returnEndsLine := change.on }
  | .swapGreed | .ignoreBlanks => flags

/-- The flags after some changes. -/
def changeAll (flags : PatternFlags) (changes : List FlagChange) : PatternFlags :=
  changes.foldl change flags

end PatternFlags

/-- What an assertion says about a place. -/
inductive PatternAssertion
  | lineStart | lineEnd | textStart | textEnd
  | wordBoundary | noWordBoundary | wordStart | wordEnd | wordStartHalf | wordEndHalf
deriving DecidableEq, Repr

/-- A class of characters with a letter of its own. -/
inductive LetterClass
  | digit | blank | word
deriving DecidableEq, Repr

/-- An operation on two sets of characters. -/
inductive SetOperation
  | intersection | difference | symmetricDifference
deriving DecidableEq, Repr

/-- A character as it is written. -/
structure WrittenChar where
  /-- The character. -/
  char : Char
  /-- Whether it is written as a byte with two hexadecimal digits. -/
  isByte : Bool := false
deriving DecidableEq, Repr

/-- A set of characters between brackets, as it is written. -/
inductive WrittenSet
  /-- Nothing. -/
  | empty
  /-- One character. -/
  | one (char : WrittenChar)
  /-- All characters from one to another. -/
  | range (first last : WrittenChar)
  /-- A named class of ASCII characters. -/
  | named (ranges : List (Char × Char)) (negated : Bool)
  /-- A class with a letter of its own. -/
  | letter (kind : LetterClass) (negated : Bool)
  /-- The characters with a property, which is not known; true if only its value is not. -/
  | property (valueMissing : Bool)
  /-- The characters of either of two sets. -/
  | union (first second : WrittenSet)
  /-- A set between brackets of its own. -/
  | bracketed (negated : Bool) (set : WrittenSet)
  /-- An operation on two sets. -/
  | operation (kind : SetOperation) (first second : WrittenSet)
deriving Repr

/-- A pattern as it is written. -/
inductive WrittenPattern
  /-- Nothing. -/
  | empty
  /-- A change of the flags for what follows in the group. -/
  | flags (changes : List FlagChange)
  /-- A character. -/
  | char (char : WrittenChar)
  /-- Any character. -/
  | dot
  /-- An assertion. -/
  | assertion (kind : PatternAssertion)
  /-- A class with a letter of its own. -/
  | letter (kind : LetterClass) (negated : Bool)
  /-- The characters with a property, which is not known; true if only its value is not. -/
  | property (valueMissing : Bool)
  /-- A set between brackets. -/
  | set (negated : Bool) (set : WrittenSet)
  /-- A repetition, without an upper bound if there is none. -/
  | repetition (pattern : WrittenPattern) (least : Nat) (most : Option Nat)
  /-- A group with the changes of the flags inside it. -/
  | group (changes : List FlagChange) (pattern : WrittenPattern)
  /-- One pattern after the other. -/
  | sequence (first second : WrittenPattern)
  /-- Either of two patterns. -/
  | either (first second : WrittenPattern)
deriving Repr

end PilotLamp
