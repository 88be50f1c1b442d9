import PilotLamp.JsonText

/-!
# The grammar of JSON

A JSON text as a tree: each way to build one is a constructor, blanks and spellings included. A
tree has a text and stands for a value, or for none if a number in it is too large for a float.
Which texts are trees is not asked here; a tree for each is what the grammar is.
-/

namespace PilotLamp.JsonText

/-! ## Tokens -/

/-- What may stand between tokens. -/
structure Gap where
  /-- Its characters. -/
  chars : List Char
  /-- All of them are blank. -/
  blank : ∀ c ∈ chars, isBlank c = true

/-- Nothing between tokens. -/
def Gap.none : Gap := ⟨[], by simp⟩

/-- Whether a character stands for itself inside a string. -/
def standsForItself (c : Char) : Bool := c != '"' && c != '\\' && decide (0x20 ≤ c.toNat)

/-- A character of a string, as it is spelled. -/
inductive StringChar
  /-- It stands for itself. -/
  | itself (c : Char) (h : standsForItself c = true)
  /-- A backslash and a letter stand for it. -/
  | letter (mark c : Char) (h : letterEscape? mark = some c)
  /-- Its code does, after a backslash and a `u`. -/
  | code (escape : List Char) (c : Char) (h : unicodeEscape? escape = some (c, []))

namespace StringChar

/-- The character. -/
def char : StringChar → Char
  | itself c _ | letter _ c _ | code _ c _ => c

/-- Its spelling. -/
def text : StringChar → List Char
  | itself c _ => [c]
  | letter mark _ _ => ['\\', mark]
  | code escape _ _ => '\\' :: 'u' :: escape

/-- The characters of a string that spell a word without escapes. -/
def ofWord (word : List Char) (h : ∀ c ∈ word, standsForItself c = true) : List StringChar :=
  word.attach.map fun c => itself c.1 (h c.1 c.2)

end StringChar

/-- The string that its characters make. -/
def stringValue (string : List StringChar) : String := String.ofList (string.map StringChar.char)

/-- Without escapes the string is the word itself. -/
theorem stringValue_ofWord (word : List Char) (h : ∀ c ∈ word, standsForItself c = true) :
    stringValue (StringChar.ofWord word h) = String.ofList word := by
  simp [stringValue, StringChar.ofWord, StringChar.char, Function.comp_def]

/-- A string up to its closing quote. -/
def quotedText (string : List StringChar) : List Char :=
  string.flatMap StringChar.text ++ ['"']

/-- Digits, one at least. -/
structure Digits where
  /-- The digits. -/
  chars : List Char
  /-- All of them are digits. -/
  digits : ∀ c ∈ chars, c.isDigit = true
  /-- There is one. -/
  some : chars ≠ []

/-- The exponent of a number. -/
structure Exponent where
  /-- Whether its mark is a capital letter. -/
  capital : Bool
  /-- Its sign, if it is written: whether it is a minus. -/
  sign : Option Bool
  /-- Its digits. -/
  digits : Digits

namespace Exponent

/-- The spelling. -/
def text (exponent : Exponent) : List Char :=
  (if exponent.capital then 'E' else 'e')
    :: (exponent.sign.elim [] fun negative => [if negative then '-' else '+'])
    ++ exponent.digits.chars

/-- The number. -/
def value (exponent : Exponent) : Int :=
  let number : Int := Nat.ofDigitChars 10 exponent.digits.chars 0
  if exponent.sign = some true then -number else number

end Exponent

/-- A number, as it is spelled. -/
structure Number where
  /-- Whether it has a minus. -/
  negative : Bool
  /-- What stands before its point. Leading zeros are not allowed, so it has one spelling. -/
  whole : Nat
  /-- What stands after its point. -/
  fraction : Option Digits
  /-- Its exponent. -/
  exponent : Option Exponent

namespace Number

/-- A plain decimal integer. -/
def plain (n : Nat) : Number := ⟨false, n, none, none⟩

/-- The digits before the point. -/
def wholeText (number : Number) : List Char := (Nat.repr number.whole).toList

/-- What follows the digits before the point. -/
def tailText (number : Number) : List Char :=
  (number.fraction.elim [] fun fraction => '.' :: fraction.chars)
    ++ number.exponent.elim [] Exponent.text

/-- The spelling. -/
def text (number : Number) : List Char :=
  (if number.negative then ['-'] else []) ++ number.wholeText ++ number.tailText

/-- The value: that of an integer, or a float if there is a fraction or an exponent. -/
def value? (number : Number) : Option Value :=
  match number.fraction, number.exponent with
  | none, none => integerOf? number.negative number.wholeText
  | fraction, exponent =>
    (floatOf? number.negative number.wholeText (fraction.elim [] Digits.chars)
      (exponent.elim 0 Exponent.value)).map .float

end Number

/-! ## Values -/

/-- A member of an object, with its value in some form. -/
structure Member (α : Type) where
  /-- What stands before the key. -/
  before : Gap
  /-- The key. -/
  key : List StringChar
  /-- What stands after the key. -/
  after : Gap
  /-- The value. -/
  value : α

/-- The key of a member, as a string. -/
def Member.name {α : Type} (member : Member α) : String := stringValue member.key

/-- A JSON text. -/
inductive Tree
  /-- No value. -/
  | null
  /-- A truth value. -/
  | boolean (truth : Bool)
  /-- A number. -/
  | number (literal : Number)
  /-- A string. -/
  | string (chars : List StringChar)
  /-- An array; the gap stands before its items. -/
  | array (gap : Gap) (items : List Tree)
  /-- An object; the gap stands before its members. -/
  | object (gap : Gap) (members : List (Member Tree))
  /-- A text with blanks around it. -/
  | spaced (before : Gap) (inner : Tree) (after : Gap)

namespace Tree

mutual

/-- The characters of a text. -/
def text : Tree → List Char
  | null => ['n', 'u', 'l', 'l']
  | boolean true => ['t', 'r', 'u', 'e']
  | boolean false => ['f', 'a', 'l', 's', 'e']
  | number literal => literal.text
  | string chars => '"' :: quotedText chars
  | array gap [] => '[' :: gap.chars ++ [']']
  | array gap (item :: items) => '[' :: gap.chars ++ (item.text ++ itemsText items)
  | object gap [] => '\x7b' :: gap.chars ++ ['\x7d']
  | object gap (member :: members) =>
    '\x7b' :: gap.chars ++ (memberText member ++ membersText members)
  | spaced before inner after => before.chars ++ inner.text ++ after.chars

/-- What follows an item of an array. -/
def itemsText : List Tree → List Char
  | [] => [']']
  | item :: items => ',' :: (item.text ++ itemsText items)

/-- The characters of a member. -/
def memberText : Member Tree → List Char
  | ⟨before, key, after, value⟩ =>
    before.chars ++ '"' :: quotedText key ++ after.chars ++ ':' :: value.text

/-- What follows a member of an object. -/
def membersText : List (Member Tree) → List Char
  | [] => ['\x7d']
  | member :: members => ',' :: (memberText member ++ membersText members)

end

mutual

/-- The value of a text. -/
def value? : Tree → Option Value
  | null => some .null
  | boolean truth => some (.boolean truth)
  | number literal => literal.value?
  | string chars => some (.string (stringValue chars))
  | array _ items => (itemValues? items).map .array
  | object _ members => (memberValues? [] members).map .table
  | spaced _ inner _ => inner.value?

/-- The values of items. -/
def itemValues? : List Tree → Option (List Value)
  | [] => some []
  | item :: items => item.value?.bind fun value => (itemValues? items).map (value :: ·)

/-- The entries that members add to others. Of two with one key the later counts. -/
def memberValues? (read : List (String × Value)) :
    List (Member Tree) → Option (List (String × Value))
  | [] => some read
  | ⟨_, key, _, value⟩ :: members =>
    value.value?.bind fun value =>
      memberValues? (Value.insertEntry (stringValue key) value read) members

end

/-- The number that a text writes as a plain decimal integer. -/
def plain? : Tree → Option Nat
  | number ⟨false, whole, none, none⟩ => some whole
  | spaced _ inner _ => inner.plain?
  | _ => none

/-- A text as a string. -/
def written (tree : Tree) : String := String.ofList tree.text

end Tree

end PilotLamp.JsonText
