/-!
# Matching patterns

What a pattern means: which parts of a text it matches. A pattern leads from a set of places in a
text to the set of places where a match that starts at one of them can end. A text is matched if
a match can start anywhere in it.
-/

namespace PilotLamp

/-- What an assertion demands of the characters before and after a place. -/
inductive PlaceTest
  | textStart | textEnd
  /-- A line starts; lines may end with a carriage return. -/
  | lineStart (returnEndsLine : Bool)
  /-- A line ends; lines may end with a carriage return. -/
  | lineEnd (returnEndsLine : Bool)
  | wordBoundary | noWordBoundary | wordStart | wordEnd | wordStartHalf | wordEndHalf
deriving DecidableEq, Repr

/-- What a pattern means. -/
inductive Pattern
  /-- The empty text. -/
  | empty
  /-- One character of a set. -/
  | one (accepts : Char → Bool)
  /-- A place that passes a test. -/
  | place (test : PlaceTest)
  /-- A place that no test is known for. -/
  | untestable
  /-- One pattern after the other. -/
  | sequence (first second : Pattern)
  /-- Either of two patterns. -/
  | either (first second : Pattern)
  /-- A pattern so many times, without an upper bound if there is none. -/
  | repetition (pattern : Pattern) (least : Nat) (most : Option Nat)

namespace PlaceTest

/-- Whether a character next to a place belongs to a word. -/
def isWord (c : Option Char) : Bool := c.any fun c => c.isAlphanum || c == '_'

/-- Whether a place between two characters passes a test. -/
def passes (test : PlaceTest) (before after : Option Char) : Bool :=
  match test with
  | textStart => before.isNone
  | textEnd => after.isNone
  | lineStart false => before.isNone || before == some '\n'
  | lineStart true =>
    before.isNone || before == some '\n' || (before == some '\r' && after != some '\n')
  | lineEnd false => after.isNone || after == some '\n'
  | lineEnd true =>
    after.isNone || after == some '\r' || (after == some '\n' && before != some '\r')
  | wordBoundary => isWord before != isWord after
  | noWordBoundary => isWord before == isWord after
  | wordStart => !isWord before && isWord after
  | wordEnd => isWord before && !isWord after
  | wordStartHalf => !isWord before
  | wordEndHalf => !isWord after

end PlaceTest

/-- A text in which places are looked at. -/
structure Haystack where
  /-- Its characters. -/
  chars : Array Char

namespace Haystack

/-- All places, from before the first character to after the last. -/
def places (text : Haystack) : List Nat := List.range (text.chars.size + 1)

/-- The character before a place. -/
def before? (text : Haystack) (place : Nat) : Option Char :=
  if place = 0 then none else text.chars[place - 1]?

/-- The character after a place. -/
def after? (text : Haystack) (place : Nat) : Option Char := text.chars[place]?

/-- The places that are in either of two lists, in ascending order. -/
def union (text : Haystack) (first second : List Nat) : List Nat :=
  text.places.filter fun place => first.contains place || second.contains place

/-- Goes on from some places so many times. It ends early where going on changes nothing. -/
def times (goOn : List Nat → List Nat) : Nat → List Nat → List Nat
  | 0, places => places
  | count + 1, places =>
    let next := goOn places
    if next = places then places else times goOn count next

/-- Goes on from some places at most so many times. It ends early where that adds nothing. -/
def upTo (text : Haystack) (goOn : List Nat → List Nat) : Nat → List Nat → List Nat
  | 0, places => places
  | count + 1, places =>
    let next := text.union places (goOn places)
    if next = places then places else upTo text goOn count next

end Haystack

namespace Pattern

/-- The places where a match can end that starts at one of some places. -/
def ends (text : Haystack) : Pattern → List Nat → List Nat
  | empty, places => places
  | one accepts, places =>
    (places.filter fun place => (text.after? place).any accepts).map (· + 1)
  | place test, places =>
    places.filter fun place => test.passes (text.before? place) (text.after? place)
  | untestable, _ => []
  | sequence first second, places => second.ends text (first.ends text places)
  | either first second, places =>
    text.union (first.ends text places) (second.ends text places)
  | repetition pattern least most, places =>
    let more := match most with
      | some most => most - least
      | none => text.chars.size + 1
    text.upTo (pattern.ends text) more (Haystack.times (pattern.ends text) least places)

/-- Whether a pattern matches a part of a text. -/
def occursIn (pattern : Pattern) (text : String) : Bool :=
  let text : Haystack := ⟨text.toList.toArray⟩
  !(pattern.ends text text.places).isEmpty

/-- Whether a test is known for every place of a pattern. -/
def isTestable : Pattern → Bool
  | untestable => false
  | empty | one _ | place _ => true
  | sequence first second | either first second => first.isTestable && second.isTestable
  | repetition pattern _ _ => pattern.isTestable

/-- How many characters and places a pattern has when its repetitions are written out. A character
counts more if it may lie beyond ASCII. -/
def extent : Pattern → Nat
  | one accepts => if accepts '\u0100' then 16 else 1
  | empty | place _ | untestable => 1
  | sequence first second => first.extent + second.extent
  | either first second => first.extent + second.extent + 1
  | repetition pattern least none => pattern.extent * max least 1 + 1
  | repetition pattern least (some most) => pattern.extent * most + (most - least)

end Pattern

end PilotLamp
