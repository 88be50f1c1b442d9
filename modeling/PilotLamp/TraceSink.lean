/-!
# Writing trace lines to a sink that may fail

A sink takes some of the characters that it is offered and may refuse the rest, as files and
pipes do. A trace line is written piece by piece, then a line feed, then the sink is flushed;
the first failure ends the attempt. Trace text is ASCII, so a character is a byte.
-/

namespace PilotLamp

/-- A stream for characters in a world `ω`. A failure says why. -/
structure TraceSink (ω : Type) where
  /-- Offers characters and answers how many of them were taken. -/
  write : List Char → ω → Except String Nat × ω
  /-- Makes what was taken visible. -/
  flush : ω → Except String Unit × ω

namespace TraceSink

variable {ω : Type}

/-- The failure of a sink that takes nothing of what it is offered. -/
def nothingTaken : String := "failed to write whole buffer"

/-- Offers characters again and again until all are taken. -/
def writeAll (sink : TraceSink ω) (text : List Char) (world : ω) : Except String Unit × ω :=
  match text with
  | [] => (.ok (), world)
  | first :: rest =>
    match sink.write (first :: rest) world with
    | (.error failure, world) => (.error failure, world)
    | (.ok 0, world) => (.error nothingTaken, world)
    | (.ok (taken + 1), world) => sink.writeAll (rest.drop taken) world
termination_by text.length
decreasing_by
  rw [List.length_cons, List.length_drop]
  omega

/-- Writes pieces one after the other. -/
def writePieces (sink : TraceSink ω) : List String → ω → Except String Unit × ω
  | [], world => (.ok (), world)
  | piece :: rest, world =>
    match sink.writeAll piece.toList world with
    | (.error failure, world) => (.error failure, world)
    | (.ok (), world) => sink.writePieces rest world

/-- Writes the pieces of a line, ends the line and flushes the sink. -/
def writeLine (sink : TraceSink ω) (pieces : List String) (world : ω) : Except String Unit × ω :=
  match sink.writePieces (pieces ++ ["\n"]) world with
  | (.error failure, world) => (.error failure, world)
  | (.ok (), world) => sink.flush world

/-- The sink of a world that takes everything. -/
def accepting (append : List Char → ω → ω) : TraceSink ω where
  write text world := (.ok text.length, append text world)
  flush world := (.ok (), world)

end TraceSink

end PilotLamp
