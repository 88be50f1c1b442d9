/-!
# Lines of a text

A line ends with a line feed, which may have a carriage return before it. Both belong to no line.
A last line without an end is a line unless it is empty.
-/

namespace PilotLamp.TextLines

/-- A line without the carriage return before its end. -/
def withoutReturn (line : List Char) : List Char :=
  if line.getLast? = some '\r' then line.dropLast else line

/-- The lines of the rest of a text, with what was read of the current line. -/
def linesFrom : List Char → List Char → List (List Char)
  | [], [] => []
  | line, [] => [line.reverse]
  | line, '\n' :: rest => withoutReturn line.reverse :: linesFrom [] rest
  | line, c :: rest => linesFrom (c :: line) rest

/-- The lines of a text. -/
def lines (text : String) : List String := (linesFrom [] text.toList).map String.ofList

/-- The first line of a text, empty if there is none. -/
def first (text : String) : String := (lines text).headD ""

end PilotLamp.TextLines
