import PilotLamp.ShapelessRanges

/-!
# Quoted text in messages

A text is shown between double quotes. Quotes, backslashes and the usual controls are escaped by
a letter; a character without a shape of its own is shown by its number in braces.
-/

namespace PilotLamp.QuotedText

/-- Whether a character is shown by its number. -/
def isShapeless (c : Char) : Bool :=
  c.toNat < 0x20 || (0x7F ≤ c.toNat && ShapelessRanges.contains c)

/-- The form of one character between quotes. -/
def encodeChar (c : Char) : List Char :=
  if c = '\x00' then ['\\', '0']
  else if c = '\t' then ['\\', 't']
  else if c = '\n' then ['\\', 'n']
  else if c = '\r' then ['\\', 'r']
  else if c = '"' then ['\\', '"']
  else if c = '\\' then ['\\', '\\']
  else if isShapeless c then ['\\', 'u', '\x7b'] ++ Nat.toDigits 16 c.toNat ++ ['\x7d']
  else [c]

/-- A text between quotes. -/
def quote (text : String) : String :=
  String.ofList ('"' :: text.toList.flatMap encodeChar ++ ['"'])

end PilotLamp.QuotedText
