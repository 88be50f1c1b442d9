/-!
# Text without terminal control

What is left of a text when everything is taken out that steers a terminal: control characters
that are no white space, and the sequences that an escape character opens. White space inside such
a sequence is left in place, and how the sequence goes on after it is for the reader to choose.
-/

namespace PilotLamp.TerminalText

/-- A sequence that is being read. -/
inductive ControlSequence
  /-- Right after the escape character. -/
  | opened
  /-- An escape sequence with intermediate characters. -/
  | intermediate
  /-- A control sequence with parameters. -/
  | parameters
  /-- A command for the operating system. -/
  | command
  /-- The parameters of a device control string. -/
  | deviceParameters
  /-- The body of a device control string, or another string up to its terminator. -/
  | body
deriving DecidableEq, Repr

/-- Where in a text one is. -/
inductive Place
  /-- In plain text. -/
  | plain
  /-- In a sequence. -/
  | inside (sequence : ControlSequence)
  /-- In plain text that interrupts a sequence. -/
  | interrupting (sequence : ControlSequence)
deriving DecidableEq, Repr

/-- How a sequence goes on after white space inside it. -/
inductive Interruption
  /-- The sequence is over. -/
  | ends
  /-- The sequence goes on at the next control character. -/
  | suspends
deriving DecidableEq, Repr

/-- White space that is kept. -/
def isKeptSpace (c : Char) : Bool := ['\t', '\n', '\x0c', '\r'].contains c

/-- Whether a character controls a terminal. -/
def isControl (c : Char) : Bool := c.toNat < 0x20 || c.toNat = 0x7F

/-- Whether a character of plain text is kept. -/
def isKept (c : Char) : Bool := !isControl c || isKeptSpace c

/-- Whether the encoding of a character contains the byte that ends a string. -/
def holdsTerminator (c : Char) : Bool := (String.utf8EncodeChar c).contains 0x9C

/-- Whether a character ends a sequence of parameters. -/
def isFinal (c : Char) : Bool := decide ('@' ≤ c ∧ c ≤ '~')

namespace ControlSequence

/-- Whether white space in a sequence is kept. -/
def keepsSpace : ControlSequence → Bool
  | opened | intermediate | parameters => true
  | command | deviceParameters | body => false

/-- The sequence that a character opens right after the escape character. -/
def ofOpening (c : Char) : Place :=
  if isControl c || 0x7F < c.toNat then .inside opened
  else if c < '0' then .inside intermediate
  else
    match c with
    | '[' => .inside parameters
    | ']' => .inside command
    | 'P' => .inside deviceParameters
    | 'X' | '^' | '_' => .inside body
    | _ => .plain

/-- Where one is after a character of a sequence. -/
def next (sequence : ControlSequence) (c : Char) : Place :=
  if c = '\x1b' then .inside opened
  else if c = '\x18' ∨ c = '\x1a' then .plain
  else
    match sequence with
    | opened => ofOpening c
    | intermediate => if '0' ≤ c ∧ c ≤ '~' then .plain else .inside intermediate
    | parameters => if isFinal c then .plain else .inside parameters
    | command => if c = '\x07' then .plain else .inside command
    | deviceParameters => .inside (if isFinal c then body else deviceParameters)
    | body => if holdsTerminator c then .plain else .inside body

end ControlSequence

/-- Where one is after white space in a sequence. -/
def Interruption.place (sequence : ControlSequence) : Interruption → Place
  | ends => .plain
  | suspends => .interrupting sequence

/-- Where one is after a character, and whether it is kept. -/
def step (interruption : Interruption) (place : Place) (c : Char) : Place × Bool :=
  match place with
  | .plain => if c = '\x1b' then (.inside .opened, false) else (.plain, isKept c)
  | .inside sequence =>
    if isKeptSpace c && sequence.keepsSpace then (interruption.place sequence, true)
    else (sequence.next c, false)
  | .interrupting sequence =>
    if isKept c then (if c.toNat < 0x80 then place else .plain, true)
    else (sequence.next c, false)

/-- The characters that are kept. -/
def keptChars (interruption : Interruption) : Place → List Char → List Char
  | _, [] => []
  | place, c :: rest =>
    match step interruption place c with
    | (next, true) => c :: keptChars interruption next rest
    | (next, false) => keptChars interruption next rest

/-- A text without terminal control. -/
def plain (interruption : Interruption) (text : String) : String :=
  String.ofList (keptChars interruption .plain text.toList)

end PilotLamp.TerminalText
