import PilotLamp.JsonText
import PilotLamp.Pattern.Syntax
import PilotLamp.WhiteSpace

/-!
# Reading patterns

A pattern is read from left to right, and the first thing wrong with it ends the reading. Every
part that is read has a height, how many groups, sets, repetitions, sequences and alternatives
stand inside each other in it; a pattern that is too high is refused at the end.
-/

namespace PilotLamp.PatternText

/-- Where in a pattern one is. -/
structure Cursor where
  /-- What is left to read. -/
  rest : List Char
  /-- Whether white space and comments mean nothing. -/
  ignoresBlanks : Bool
  /-- The names of the groups so far. -/
  names : List String

/-- A reader of a part of a pattern. -/
abbrev Reader := StateT Cursor (Except PatternError)

/-- A part of a pattern with its height. -/
structure Part (α : Type) where
  /-- The part. -/
  part : α
  /-- Its height. -/
  height : Nat

/-- A part with nothing inside it. -/
def Part.flat {α : Type} (part : α) : Part α := ⟨part, 0⟩

/-- Joins parts; more than one are one higher than the highest of them. -/
def Part.join {α : Type} (empty : α) (pair : α → α → α) : List (Part α) → Part α
  | [] => .flat empty
  | [part] => part
  | first :: rest =>
    ⟨rest.foldl (fun joined part => pair joined part.part) first.part,
      rest.foldl (fun height part => max height part.height) first.height + 1⟩

/-! ## Characters -/

/-- The next character, if there is one. -/
def next? : Reader (Option Char) := do return (← get).rest.head?

/-- Goes past one character. -/
def skip : Reader Unit := modify fun cursor => { cursor with rest := cursor.rest.tail }

/-- A text without the white space and the comments at its start; a comment goes from a hash sign
to the end of the line. -/
def dropBlanks : Bool → List Char → List Char
  | _, [] => []
  | true, c :: rest => dropBlanks (c != '\n') rest
  | false, c :: rest =>
    if WhiteSpace.isWhiteSpace c then dropBlanks false rest
    else if c = '#' then dropBlanks true rest
    else c :: rest

/-- Goes past what means nothing. -/
def skipBlanks : Reader Unit :=
  modify fun cursor =>
    if cursor.ignoresBlanks then { cursor with rest := dropBlanks false cursor.rest } else cursor

/-- Goes past one character and what means nothing after it. -/
def advance : Reader Unit := do
  skip
  skipBlanks

/-- The next character that means something after the next one. -/
def second? : Reader (Option Char) := do
  let cursor ← get
  let rest := cursor.rest.tail
  return (if cursor.ignoresBlanks then dropBlanks false rest else rest).head?

/-- Goes past some characters if they are next, and answers whether they were. -/
def skipText (text : String) : Reader Bool := do
  let cursor ← get
  if text.toList.isPrefixOf cursor.rest then
    set { cursor with rest := cursor.rest.drop text.length }
    return true
  else return false

/-- Goes past all characters that satisfy a condition and answers them. -/
def takeWhile (condition : Char → Bool) : Reader (List Char) := do
  let cursor ← get
  set { cursor with rest := cursor.rest.dropWhile condition }
  return cursor.rest.takeWhile condition

/-- Goes past all characters that satisfy a condition, and past what means nothing after each of
them, and answers them. -/
def takeSpaced (condition : Char → Bool) : Nat → Reader (List Char)
  | 0 => return []
  | fuel + 1 => do
    match ← next? with
    | none => return []
    | some c =>
      if condition c then
        advance
        let rest ← takeSpaced condition fuel
        return c :: rest
      else return []

/-- How many characters are left. -/
def remaining : Reader Nat := do return (← get).rest.length

/-! ## Escapes -/

/-- The characters that mean something in a pattern. -/
def isMeta (c : Char) : Bool :=
  ['\\', '.', '+', '*', '?', '(', ')', '|', '[', ']', '\x7b', '\x7d', '^', '$', '#', '&', '-',
    '~'].contains c

/-- Whether a character stands for itself after a backslash. -/
def isEscapable (c : Char) : Bool :=
  isMeta c || (c.toNat < 0x80 && !c.isAlphanum && c != '<' && c != '>')

/-- The character of a code point. -/
def charOfCode (code : Nat) : Reader Char :=
  match JsonText.charOf? code with
  | some c => return c
  | none => throw .hexNoCharacter

/-- Reads so many hexadecimal digits onto a number. -/
def hexDigits : Nat → Nat → Reader Nat
  | 0, value => return value
  | count + 1, value => do
    match ← next? with
    | none => throw .escapeEnds
    | some c =>
      match JsonText.hexDigit? c with
      | none => throw .hexDigit
      | some digit =>
        advance
        hexDigits count (16 * value + digit)

/-- Reads hexadecimal digits up to a closing brace. -/
def bracedHexDigits : Nat → Option Nat → Reader Nat
  | 0, _ => throw .escapeEnds
  | fuel + 1, value => do
    match ← next? with
    | none => throw .escapeEnds
    | some '\x7d' =>
      advance
      match value with
      | none => throw .hexEmpty
      | some value => return value
    | some c =>
      match JsonText.hexDigit? c with
      | none => throw .hexDigit
      | some digit =>
        advance
        bracedHexDigits fuel (some (16 * value.getD 0 + digit))

/-- Reads the number of a character after the letter that announces it. -/
def numberedChar (count : Nat) : Reader WrittenChar := do
  advance
  match ← next? with
  | none => throw .escapeEnds
  | some '\x7b' =>
    advance
    let code ← bracedHexDigits ((← remaining) + 1) none
    return ⟨← charOfCode code, false⟩
  | some _ =>
    let code ← hexDigits count 0
    return ⟨← charOfCode code, count == 2⟩

/-- The name of a property without what does not matter in it: case, blanks, dashes, underscores
and the word "is" at its start. -/
def plainName (name : List Char) : List Char :=
  let letters := (name.filter fun c => c.toNat < 0x80).map Char.toLower
  let letters := match letters with
    | 'i' :: 's' :: rest => rest
    | letters => letters
  letters.filter fun c => c != ' ' && c != '_' && c != '-'

/-- Whether the name of a property is that of a value of the general category alone. -/
def isCategoryValue (name : List Char) : Bool :=
  [['c', 'f'], ['s', 'c'], ['l', 'c']].contains (plainName name)

/-- Reads the name of a property after the letter that announces it. Answers whether only its
value is not known. -/
def propertyName : Reader Bool := do
  advance
  match ← next? with
  | none => throw .escapeEnds
  | some '\x7b' =>
    advance
    let name ← takeSpaced (· != '\x7d') ((← remaining) + 1)
    match ← next? with
    | none => throw .escapeEnds
    | some _ =>
      skip
      return !(name.contains ':') && !(name.contains '=') && isCategoryValue name
  | some '\\' => throw .propertySyntax
  | some _ =>
    advance
    return false

/-- The assertion that a word in braces stands for after `\b`. -/
def boundaryOf (word : List Char) : Reader PatternAssertion :=
  match String.ofList word with
  | "start" => return .wordStart
  | "end" => return .wordEnd
  | "start-half" => return .wordStartHalf
  | "end-half" => return .wordEndHalf
  | _ => throw .boundaryUnknown

/-- Reads what may stand in braces after `\b`. Braces that start otherwise are left alone: they
are a repetition. -/
def boundary : Reader PatternAssertion := do
  let cursor ← get
  match ← next? with
  | some '\x7b' =>
    advance
    let isNameChar (c : Char) : Bool := c.isAlpha || c == '-'
    match ← next? with
    | none => throw .boundaryEnds
    | some c =>
      if isNameChar c then
        let word ← takeSpaced isNameChar ((← remaining) + 1)
        match ← next? with
        | some '\x7d' =>
          skip
          boundaryOf word
        | _ => throw .boundaryUnclosed
      else
        set cursor
        return .wordBoundary
  | _ => return .wordBoundary

/-- The class that a letter stands for after a backslash; true if it is negated. -/
def letterClass? : Char → Option (LetterClass × Bool)
  | 'd' => some (.digit, false)
  | 'D' => some (.digit, true)
  | 's' => some (.blank, false)
  | 'S' => some (.blank, true)
  | 'w' => some (.word, false)
  | 'W' => some (.word, true)
  | _ => none

/-- The control character that a letter stands for after a backslash. -/
def controlChar? : Char → Option Char
  | 'a' => some '\x07'
  | 'f' => some '\x0c'
  | 't' => some '\t'
  | 'n' => some '\n'
  | 'r' => some '\r'
  | 'v' => some '\x0b'
  | _ => none

/-- The assertion that a character stands for after a backslash, `\b` apart. -/
def assertion? : Char → Option PatternAssertion
  | 'A' => some .textStart
  | 'z' => some .textEnd
  | 'B' => some .noWordBoundary
  | '<' => some .wordStart
  | '>' => some .wordEnd
  | _ => none

/-- Reads what stands after a backslash and is no number, property or class. -/
def simpleEscape (c : Char) : Reader WrittenPattern := do
  skip
  if isEscapable c then return .char ⟨c, false⟩
  else if c = 'b' then return .assertion (← boundary)
  else
    match controlChar? c, assertion? c with
    | some c, _ => return .char ⟨c, false⟩
    | none, some assertion => return .assertion assertion
    | none, none => throw .escapeUnknown

/-- Reads an escape from its backslash on. -/
def escape : Reader WrittenPattern := do
  skip
  match ← next? with
  | none => throw .escapeEnds
  | some 'x' => return .char (← numberedChar 2)
  | some 'u' => return .char (← numberedChar 4)
  | some 'U' => return .char (← numberedChar 8)
  | some 'p' | some 'P' => return .property (← propertyName)
  | some c =>
    if c.isDigit then throw .backreference
    else
      match letterClass? c with
      | some (kind, negated) =>
        skip
        return .letter kind negated
      | none => simpleEscape c

/-- Reads a character, an escape or an assertion. -/
def primitive (c : Char) : Reader WrittenPattern :=
  match c with
  | '\\' => escape
  | '.' => do
    skip
    return .dot
  | '^' => do
    skip
    return .assertion .lineStart
  | '$' => do
    skip
    return .assertion .lineEnd
  | c => do
    skip
    return .char ⟨c, false⟩

/-! ## Sets between brackets -/

/-- The named classes of ASCII characters. -/
def namedRanges? (name : String) : Option (List (Char × Char)) :=
  match name with
  | "alnum" => some [('0', '9'), ('A', 'Z'), ('a', 'z')]
  | "alpha" => some [('A', 'Z'), ('a', 'z')]
  | "ascii" => some [('\x00', '\x7f')]
  | "blank" => some [('\t', '\t'), (' ', ' ')]
  | "cntrl" => some [('\x00', '\x1f'), ('\x7f', '\x7f')]
  | "digit" => some [('0', '9')]
  | "graph" => some [('!', '~')]
  | "lower" => some [('a', 'z')]
  | "print" => some [(' ', '~')]
  | "punct" => some [('!', '/'), (':', '@'), ('[', '`'), ('\x7b', '~')]
  | "space" => some [('\t', '\r'), (' ', ' ')]
  | "upper" => some [('A', 'Z')]
  | "word" => some [('0', '9'), ('A', 'Z'), ('_', '_'), ('a', 'z')]
  | "xdigit" => some [('0', '9'), ('A', 'F'), ('a', 'f')]
  | _ => none

/-- Reads a named class between brackets and colons, if there is one; otherwise nothing is read. -/
def namedClass? : Reader (Option WrittenSet) := do
  let cursor ← get
  match cursor.rest with
  | '[' :: ':' :: rest =>
    let negated := rest.head? == some '^'
    let rest := if negated then rest.tail else rest
    match rest.dropWhile (· != ':') with
    | ':' :: ']' :: after =>
      match namedRanges? (String.ofList (rest.takeWhile (· != ':'))) with
      | some ranges =>
        set { cursor with rest := after }
        return some (.named ranges negated)
      | none => return none
    | _ => return none
  | _ => return none

/-- Reads one character or escape in a set. -/
def setPrimitive (c : Char) : Reader WrittenPattern :=
  if c = '\\' then escape
  else do
    skip
    return .char ⟨c, false⟩

/-- An element of a set by itself. -/
def toSet : WrittenPattern → Reader WrittenSet
  | .char c => return .one c
  | .letter kind negated => return .letter kind negated
  | .property valueMissing => return .property valueMissing
  | _ => throw .classEscape

/-- An element of a set as the end of a range. -/
def toRangeEnd : WrittenPattern → Reader WrittenChar
  | .char c => return c
  | _ => throw .classRangeBoundary

/-- Reads an element of a set: a range, if a dash stands after the first character that neither
ends the set nor is doubled. -/
def setElement (c : Char) : Reader WrittenSet := do
  let first ← setPrimitive c
  skipBlanks
  match ← next? with
  | none => throw .classUnclosed
  | some c =>
    let after ← second?
    if c != '-' || after == some ']' || after == some '-' then toSet first
    else
      advance
      match ← next? with
      | none => throw .classUnclosed
      | some c =>
        let last ← setPrimitive c
        let first ← toRangeEnd first
        let last ← toRangeEnd last
        if first.char ≤ last.char then return .range first last else throw .classRangeOrder

/-- Reads the dashes at the start of a set, which stand for themselves. -/
def leadingDashes : Nat → Reader (List (Part WrittenSet))
  | 0 => return []
  | fuel + 1 => do
    match ← next? with
    | none => throw .classUnclosed
    | some c =>
      if c = '-' then
        advance
        let rest ← leadingDashes fuel
        return .flat (.one ⟨'-', false⟩) :: rest
      else return []

/-- Reads the start of a set after its bracket: a caret negates it, dashes stand for themselves,
and so does a closing bracket right at the start. -/
def setStart : Reader (Bool × List (Part WrittenSet)) := do
  advance
  let negated := (← next?) == some '^'
  if negated then advance
  let dashes ← leadingDashes ((← remaining) + 1)
  if dashes.isEmpty && (← next?) == some ']' then
    advance
    if (← next?).isNone then throw .classUnclosed
    return (negated, [.flat (.one ⟨']', false⟩)])
  else return (negated, dashes)

/-- The operation that two characters stand for in a set. -/
def operation? : List Char → Option SetOperation
  | '&' :: '&' :: _ => some .intersection
  | '-' :: '-' :: _ => some .difference
  | '~' :: '~' :: _ => some .symmetricDifference
  | _ => none

/-- The elements of a set as one set. -/
def joinSets (elements : List (Part WrittenSet)) : Part WrittenSet :=
  .join .empty .union elements.reverse

/-- The set of an operation that is waiting, with its first side, and the elements after it. -/
def applyPending (pending : Option (SetOperation × Part WrittenSet))
    (elements : List (Part WrittenSet)) : Part WrittenSet :=
  let second := joinSets elements
  match pending with
  | none => second
  | some (kind, first) =>
    ⟨.operation kind first.part second.part, max first.height second.height + 1⟩

/-- Reads the elements of a set up to its closing bracket, and with it; latest first. -/
def setElements : Nat → Option (SetOperation × Part WrittenSet) → List (Part WrittenSet) →
    Reader (Part WrittenSet)
  | 0, _, _ => throw .classUnclosed
  | fuel + 1, pending, elements => do
    skipBlanks
    match ← next? with
    | none => throw .classUnclosed
    | some '[' =>
      match ← namedClass? with
      | some named => setElements fuel pending (.flat named :: elements)
      | none =>
        let (negated, start) ← setStart
        let inner ← setElements fuel none start.reverse
        setElements fuel pending (⟨.bracketed negated inner.part, inner.height + 1⟩ :: elements)
    | some ']' =>
      skip
      return applyPending pending elements
    | some c =>
      match operation? (← get).rest with
      | some kind =>
        skip
        skip
        setElements fuel (some (kind, applyPending pending elements)) []
      | none =>
        let element ← setElement c
        setElements fuel pending (.flat element :: elements)

/-- Reads a set from its bracket on. -/
def bracketedSet : Reader (Part WrittenPattern) := do
  let (negated, start) ← setStart
  let set ← setElements (2 * (← remaining) + 2) none start.reverse
  return ⟨.set negated set.part, set.height + 1⟩

/-! ## Repetitions -/

/-- The largest number of repetitions that can be written. -/
def maxCount : Nat := 0xFFFFFFFF

/-- Reads a number with white space around it. What is wrong with it is for the caller to report,
after what is wrong with the braces around it. -/
def decimal : Reader (Except PatternError Nat) := do
  let _ ← takeWhile WhiteSpace.isWhiteSpace
  let digits ← takeSpaced Char.isDigit ((← remaining) + 1)
  let _ ← takeWhile WhiteSpace.isWhiteSpace
  skipBlanks
  let number := Nat.ofDigitChars 10 digits 0
  if digits.isEmpty then return .error .countEmpty
  else if maxCount < number then return .error .decimalInvalid
  else return .ok number

/-- Goes past the question mark that makes a repetition short. -/
def skipShort : Reader Unit := do
  if (← next?) == some '?' then skip

/-- A repetition of the latest of some parts. -/
def repeatLatest (least : Nat) (most : Option Nat) :
    List (Part WrittenPattern) → Reader (List (Part WrittenPattern))
  | [] => throw .repeatsNothing
  | latest :: earlier => return ⟨.repetition latest.part least most, latest.height + 1⟩ :: earlier

/-- Checks that the latest of some parts can be repeated. -/
def checkRepeatable : List (Part WrittenPattern) → Reader Unit
  | [] | ⟨.flags _, _⟩ :: _ => throw .repeatsNothing
  | _ => return ()

/-- Reads a repetition with a sign of its own. -/
def signedRepetition (least : Nat) (most : Option Nat) (parts : List (Part WrittenPattern)) :
    Reader (List (Part WrittenPattern)) := do
  checkRepeatable parts
  skip
  skipShort
  repeatLatest least most parts

/-- Reads the bounds of a repetition up to the closing brace. -/
def counts : Reader (Nat × Option Nat) := do
  let least ← decimal
  match ← next? with
  | none => throw .countUnclosed
  | some ',' =>
    advance
    match ← next? with
    | none => throw .countUnclosed
    | some '\x7d' => return (← ofExcept least, none)
    | some _ =>
      let least ← ofExcept least
      let most ← decimal
      return (least, some (← ofExcept most))
  | some _ =>
    let count ← ofExcept least
    return (count, some count)

/-- Reads a repetition in braces. -/
def countedRepetition (parts : List (Part WrittenPattern)) :
    Reader (List (Part WrittenPattern)) := do
  checkRepeatable parts
  advance
  if (← next?).isNone then throw .countUnclosed
  let (least, most) ← counts
  if (← next?) != some '\x7d' then throw .countUnclosed
  advance
  skipShort
  if most.all (least ≤ ·) then repeatLatest least most parts else throw .countOrder

/-! ## Groups -/

/-- The flag that a letter stands for. -/
def flag? : Char → Option PatternFlag
  | 'i' => some .caseInsensitive
  | 'm' => some .multiLine
  | 's' => some .dotMatchesLineFeed
  | 'U' => some .swapGreed
  | 'u' => some .wide
  | 'R' => some .returnEndsLine
  | 'x' => some .ignoreBlanks
  | _ => none

/-- Reads flags up to a colon or a closing parenthesis. `on` says whether flags are set or, after
a dash, cleared; `dangling` whether the dash was just read. -/
def flagChanges : Nat → Bool → Bool → List FlagChange → Reader (List FlagChange)
  | 0, _, _, _ => throw .flagEnds
  | fuel + 1, on, dangling, changes => do
    match ← next? with
    | none => throw .flagEnds
    | some c =>
      if c = ':' ∨ c = ')' then
        if dangling then throw .flagDangling else return changes.reverse
      else if c = '-' then
        if on then
          skip
          flagChanges fuel false true changes
        else throw .flagNegatedTwice
      else
        match flag? c with
        | none => throw .flagUnknown
        | some flag =>
          if changes.any fun change => change.flag == flag then throw .flagDuplicate
          else
            skip
            flagChanges fuel on false (⟨flag, on⟩ :: changes)

/-- Whether a character may stand in the name of a group. Letters beyond ASCII may. -/
def isNameChar (first : Bool) (c : Char) : Bool :=
  if first then c == '_' || c.isAlpha || 0x7F < c.toNat
  else c == '_' || c == '.' || c == '[' || c == ']' || c.isAlphanum || 0x7F < c.toNat

/-- Reads the name of a group up to its closing angle bracket, and with it. -/
def groupName : Reader Unit := do
  let cursor ← get
  let name := cursor.rest.takeWhile (· != '>')
  let fits (c : Char × Nat) : Bool := isNameChar (c.2 == 0) c.1
  if !name.zipIdx.all fits then throw .nameCharacter
  match cursor.rest.dropWhile (· != '>') with
  | [] => throw .nameUnclosed
  | _ :: rest =>
    if name.isEmpty then throw .nameEmpty
    let name := String.ofList name
    if cursor.names.contains name then throw .nameDuplicate
    set { cursor with rest, names := name :: cursor.names }

/-- How a group starts. -/
inductive GroupStart
  /-- It changes the flags for what follows it and holds nothing. -/
  | flags (changes : List FlagChange)
  /-- It holds a pattern, in which the flags are changed. -/
  | holds (changes : List FlagChange)

/-- Reads the start of a group from its parenthesis on. -/
def groupStart : Reader GroupStart := do
  skip
  skipBlanks
  if (← skipText "?=") || (← skipText "?!") || (← skipText "?<=") || (← skipText "?<!") then
    throw .lookAround
  else if (← skipText "?P<") || (← skipText "?<") then
    groupName
    return .holds []
  else if ← skipText "?" then
    if (← next?).isNone then throw .groupUnclosed
    let changes ← flagChanges ((← remaining) + 1) true false []
    if (← next?) == some ')' then
      skip
      if changes.isEmpty then throw .repeatsNothing
      return .flags changes
    else
      skip
      return .holds changes
  else return .holds []

/-- Whether blanks are ignored after some changes. -/
def ignoresBlanksAfter (ignoresBlanks : Bool) (changes : List FlagChange) : Bool :=
  changes.foldl (fun ignores change => if change.flag = .ignoreBlanks then change.on else ignores)
    ignoresBlanks

/-- Changes whether blanks are ignored. -/
def changeBlanks (changes : List FlagChange) : Reader Unit :=
  modify fun cursor =>
    { cursor with ignoresBlanks := ignoresBlanksAfter cursor.ignoresBlanks changes }

/-- The pattern of some parts, latest first. -/
def joinSequence (parts : List (Part WrittenPattern)) : Part WrittenPattern :=
  .join .empty .sequence parts.reverse

/-- Reads alternatives up to a closing parenthesis or the end. Both the parts of the current
alternative and the alternatives before it stand latest first. -/
def alternatives : Nat → List (Part WrittenPattern) → List (Part WrittenPattern) →
    Reader (Part WrittenPattern)
  | 0, _, _ => throw .groupUnclosed
  | fuel + 1, parts, branches => do
    skipBlanks
    match ← next? with
    | none | some ')' =>
      return .join .empty .either (joinSequence parts :: branches).reverse
    | some '|' =>
      skip
      alternatives fuel [] (joinSequence parts :: branches)
    | some '(' =>
      match ← groupStart with
      | .flags changes =>
        changeBlanks changes
        alternatives fuel (.flat (.flags changes) :: parts) branches
      | .holds changes =>
        let outer := (← get).ignoresBlanks
        changeBlanks changes
        let inner ← alternatives fuel [] []
        if (← next?).isNone then throw .groupUnclosed
        modify fun cursor => { cursor with ignoresBlanks := outer }
        skip
        alternatives fuel (⟨.group changes inner.part, inner.height + 1⟩ :: parts) branches
    | some '[' =>
      let set ← bracketedSet
      alternatives fuel (set :: parts) branches
    | some '?' => alternatives fuel (← signedRepetition 0 (some 1) parts) branches
    | some '*' => alternatives fuel (← signedRepetition 0 none parts) branches
    | some '+' => alternatives fuel (← signedRepetition 1 none parts) branches
    | some '\x7b' => alternatives fuel (← countedRepetition parts) branches
    | some c => alternatives fuel (.flat (← primitive c) :: parts) branches

/-- The greatest height of a pattern. -/
def maxHeight : Nat := 250

/-- Reads a whole pattern. -/
def whole : Reader WrittenPattern := do
  let pattern ← alternatives (2 * (← remaining) + 2) [] []
  if (← next?).isSome then throw .groupUnopened
  if maxHeight < pattern.height then throw (.nestedTooDeep maxHeight)
  return pattern.part

/-- Reads a pattern. -/
def read (text : String) : Except PatternError WrittenPattern :=
  (whole.run ⟨text.toList, false, []⟩).map Prod.fst

end PilotLamp.PatternText
