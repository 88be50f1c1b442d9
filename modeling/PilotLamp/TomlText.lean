import PilotLamp.BareScalar
import PilotLamp.TomlTables

/-!
# Reading TOML text

A document is a sequence of lines: table headers, assignments, blank lines and comments. Reading
yields the table of the document, or nothing if the text breaks a rule of the grammar or of the
tables. Arrays and tables in braces may span lines; they nest to a limited depth, and a key has a
limited number of parts.
-/

namespace PilotLamp.TomlText

/-- A space or a tab. -/
def isBlank (c : Char) : Bool := c == ' ' || c == '\t'

/-- Whether a character may stand in a comment or a string. -/
def isPrinting (c : Char) : Bool := c == '\t' || (0x20 ≤ c.toNat && c.toNat != 0x7F)

/-- Whether a character may stand in a key without quotes. -/
def isBareKeyChar (c : Char) : Bool := c.isAlphanum || c == '_' || c == '-'

/-- Skips spaces and tabs. -/
def skipBlanks (text : List Char) : List Char := text.dropWhile isBlank

/-- Skips spaces, tabs and a comment. -/
def skipComment (text : List Char) : List Char :=
  match skipBlanks text with
  | '#' :: rest => rest.dropWhile isPrinting
  | rest => rest

/-- Reads a line break. -/
def newline? : List Char → Option (List Char)
  | '\n' :: rest => some rest
  | '\r' :: '\n' :: rest => some rest
  | _ => none

/-- Reads the end of a line, with blanks and a comment before it. -/
def lineEnd? (text : List Char) : Option (List Char) :=
  match skipComment text with
  | [] => some []
  | rest => newline? rest

/-- Skips blanks, comments and line breaks. -/
def skipLines : Nat → List Char → List Char
  | 0, text => text
  | fuel + 1, text =>
    let rest := skipComment text
    match newline? rest with
    | some rest => skipLines fuel rest
    | none => rest

/-! ## Strings -/

/-- Reads so many hexadecimal digits as the number of a character. -/
def numberedChar? (count : Nat) (text : List Char) : Option (Char × List Char) := do
  let digits := text.take count
  if digits.length = count then
    let c ← JsonText.hexValue? digits >>= JsonText.charOf?
    some (c, text.drop count)
  else none

/-- Reads an escape after its backslash. -/
def escape? : List Char → Option (Char × List Char)
  | '"' :: rest => some ('"', rest)
  | '\\' :: rest => some ('\\', rest)
  | 'b' :: rest => some ('\x08', rest)
  | 'e' :: rest => some ('\x1b', rest)
  | 'f' :: rest => some ('\x0c', rest)
  | 'n' :: rest => some ('\n', rest)
  | 'r' :: rest => some ('\r', rest)
  | 't' :: rest => some ('\t', rest)
  | 'x' :: rest => numberedChar? 2 rest
  | 'u' :: rest => numberedChar? 4 rest
  | 'U' :: rest => numberedChar? 8 rest
  | _ => none

/-- Reads a string on one line after its opening double quote. -/
def basicString? : Nat → List Char → List Char → Option (String × List Char)
  | 0, _, _ => none
  | fuel + 1, read, text =>
    match text with
    | '"' :: rest => some (String.ofList read.reverse, rest)
    | '\\' :: rest => do
      let (c, rest) ← escape? rest
      basicString? fuel (c :: read) rest
    | c :: rest => if isPrinting c then basicString? fuel (c :: read) rest else none
    | [] => none

/-- Reads a string on one line after its opening single quote; nothing in it is an escape. -/
def literalString? (text : List Char) : Option (String × List Char) :=
  let inside (c : Char) : Bool := isPrinting c && c != '\''
  match text.dropWhile inside with
  | '\'' :: rest => some (String.ofList (text.takeWhile inside), rest)
  | _ => none

/-- Skips one line break right after opening quotes. -/
def skipFirstBreak (text : List Char) : List Char := (newline? text).getD text

/-- Skips spaces, tabs and line breaks. -/
def skipBlankLines : List Char → List Char
  | '\r' :: '\n' :: rest => skipBlankLines rest
  | c :: rest => if isBlank c || c == '\n' then skipBlankLines rest else c :: rest
  | [] => []

/-- Reads what follows a backslash at the end of a line: blanks, a line break, and all blanks and
line breaks after it. -/
def continuation? (text : List Char) : Option (List Char) :=
  (newline? (skipBlanks text)).map skipBlankLines

/-- Splits a run of a quote off: how many there are, at most five, and the rest. -/
def quoteRun (quote : Char) (text : List Char) : Nat × List Char :=
  let count := min 5 (text.takeWhile (· == quote)).length
  (count, text.drop count)

/-- Reads a string over several lines after its three opening quotes. Up to two quotes may stand
right before the closing three. -/
def multilineString? (quote : Char) (escapes : Bool) :
    Nat → List Char → List Char → Option (String × List Char)
  | 0, _, _ => none
  | fuel + 1, read, text =>
    match text with
    | [] => none
    | '\r' :: '\n' :: rest => multilineString? quote escapes fuel ('\n' :: '\r' :: read) rest
    | '\n' :: rest => multilineString? quote escapes fuel ('\n' :: read) rest
    | c :: rest =>
      if c = quote then
        match quoteRun quote text with
        | (count + 3, rest) =>
          some (String.ofList (List.replicate count quote ++ read).reverse, rest)
        | (count, rest) =>
          multilineString? quote escapes fuel (List.replicate count quote ++ read) rest
      else if c = '\\' && escapes then
        match continuation? rest with
        | some rest => multilineString? quote escapes fuel read rest
        | none => do
          let (c, rest) ← escape? rest
          multilineString? quote escapes fuel (c :: read) rest
      else if isPrinting c then multilineString? quote escapes fuel (c :: read) rest
      else none

/-! ## Keys -/

/-- Reads one part of a key. -/
def simpleKey? : List Char → Option (String × List Char)
  | '"' :: rest => basicString? (rest.length + 1) [] rest
  | '\'' :: rest => literalString? rest
  | text =>
    let key := text.takeWhile isBareKeyChar
    if key.isEmpty then none else some (String.ofList key, text.dropWhile isBareKeyChar)

/-- How many parts a key may have, and how deep arrays and tables in braces may nest. -/
def maxDepth : Nat := 80

/-- Reads a key: the parts before the last, and the last. -/
def dottedKey? : Nat → List String → List Char → Option ((List String × String) × List Char)
  | 0, _, _ => none
  | fuel + 1, path, text => do
    let (key, rest) ← simpleKey? (skipBlanks text)
    match skipBlanks rest with
    | '.' :: rest => dottedKey? fuel (path ++ [key]) rest
    | rest => if path.length < maxDepth then some ((path, key), rest) else none

/-! ## Values -/

mutual

/-- Reads a value. -/
def value? : Nat → Nat → List Char → Option (Value × List Char)
  | 0, _, _ => none
  | fuel + 1, depth, text =>
    match text with
    | '"' :: '"' :: '"' :: rest =>
      let body := skipFirstBreak rest
      (multilineString? '"' true (body.length + 1) [] body).map fun (text, rest) =>
        (.string text, rest)
    | '\'' :: '\'' :: '\'' :: rest =>
      let body := skipFirstBreak rest
      (multilineString? '\'' false (body.length + 1) [] body).map fun (text, rest) =>
        (.string text, rest)
    | '"' :: rest =>
      (basicString? (rest.length + 1) [] rest).map fun (text, rest) => (.string text, rest)
    | '\'' :: rest => (literalString? rest).map fun (text, rest) => (.string text, rest)
    | '[' :: rest =>
      match depth with
      | 0 => none
      | depth + 1 => items? fuel depth [] rest
    | '\x7b' :: rest =>
      match depth with
      | 0 => none
      | depth + 1 => entries? fuel depth [] rest
    | text =>
      let (scalar, rest) := BareScalar.split text
      (BareScalar.read? scalar).map (·, rest)

/-- Reads the items of an array up to its closing bracket. -/
def items? : Nat → Nat → List Value → List Char → Option (Value × List Char)
  | 0, _, _, _ => none
  | fuel + 1, depth, read, text =>
    match skipLines (text.length + 1) text with
    | ']' :: rest => some (.array read.reverse, rest)
    | text => do
      let (item, rest) ← value? fuel depth text
      match skipLines (rest.length + 1) rest with
      | ',' :: rest => items? fuel depth (item :: read) rest
      | ']' :: rest => some (.array (item :: read).reverse, rest)
      | _ => none

/-- Reads the entries of a table in braces up to its closing brace. -/
def entries? : Nat → Nat → TomlEntries → List Char → Option (Value × List Char)
  | 0, _, _, _ => none
  | fuel + 1, depth, read, text =>
    match skipLines (text.length + 1) text with
    | '\x7d' :: rest => some (.table (TomlItem.entryValues read), rest)
    | text => do
      let ((path, key), rest) ← dottedKey? (text.length + 1) [] text
      match rest with
      | '=' :: rest =>
        let (value, rest) ← value? fuel depth (skipBlanks rest)
        let read ← TomlEntries.assign path key value .header read
        match skipLines (rest.length + 1) rest with
        | ',' :: rest => entries? fuel depth read rest
        | '\x7d' :: rest => some (.table (TomlItem.entryValues read), rest)
        | _ => none
      | _ => none

end

/-! ## Documents -/

/-- What was read of a document. -/
structure Draft where
  /-- The entries of the document. -/
  entries : TomlEntries
  /-- The table that assignments go to. -/
  current : List String

/-- Reads a table header after its first bracket. -/
def header? (draft : Draft) (text : List Char) : Option (Draft × List Char) :=
  match text with
  | '[' :: rest => do
    let ((path, key), rest) ← dottedKey? (rest.length + 1) [] rest
    match rest with
    | ']' :: ']' :: rest =>
      let entries ← draft.entries.appendTable path key
      some (⟨entries, path ++ [key]⟩, rest)
    | _ => none
  | text => do
    let ((path, key), rest) ← dottedKey? (text.length + 1) [] text
    match rest with
    | ']' :: rest =>
      let entries ← draft.entries.openTable path key
      some (⟨entries, path ++ [key]⟩, rest)
    | _ => none

/-- Reads an assignment. -/
def assignment? (draft : Draft) (text : List Char) : Option (Draft × List Char) := do
  let ((path, key), rest) ← dottedKey? (text.length + 1) [] text
  match rest with
  | '=' :: rest =>
    let (value, rest) ← value? (rest.length + 1) maxDepth (skipBlanks rest)
    let entries ← TomlEntries.editAt false (TomlEntries.assign path key value) draft.current
      .header draft.entries
    some (⟨entries, draft.current⟩, rest)
  | _ => none

/-- Reads the lines of a document. -/
def lines? : Nat → Draft → List Char → Option Draft
  | 0, _, _ => none
  | fuel + 1, draft, text =>
    match skipLines (text.length + 1) text with
    | [] => some draft
    | '[' :: rest => do
      let (draft, rest) ← header? draft rest
      let rest ← lineEnd? rest
      lines? fuel draft rest
    | text => do
      let (draft, rest) ← assignment? draft text
      let rest ← lineEnd? rest
      lines? fuel draft rest

/-- Reads a document. A byte order mark at its start is skipped. -/
def read? (text : String) : Option Value :=
  let chars := match text.toList with
    | '\ufeff' :: rest => rest
    | chars => chars
  (lines? (chars.length + 1) ⟨[], []⟩ chars).map fun draft =>
    .table (TomlItem.entryValues draft.entries)

end PilotLamp.TomlText
