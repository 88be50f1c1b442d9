import PilotLamp.LogRecord
import PilotLamp.Pattern.Meaning

/-!
# Which log records are shown

A filter is a list of directives. Each allows severities up to a rank for targets that begin with
its name; the longest name that fits a record decides, and a record that none fits is not shown.
The text of a filter lists directives between commas, with a pattern after a slash that must occur
in every message. What is malformed in it is left out and complained about.
-/

namespace PilotLamp

/-- Which severities are allowed for the targets that begin with a name. -/
structure LogDirective where
  /-- The beginning of the targets; none for all. -/
  target : Option String
  /-- The rank of the least grave severity that is allowed, zero for none at all. -/
  maxRank : Nat
deriving DecidableEq, Repr

/-- Which log records are shown. -/
structure LogFilter where
  /-- The directives, those with longer names last. -/
  directives : List LogDirective
  /-- A pattern that must occur in messages. -/
  pattern : Option Pattern

/-- Why a part of the text of a filter is left out. -/
inductive LogFilterFault
  /-- A directive is malformed. -/
  | directive (text : String)
  /-- There is more than one slash. -/
  | slashes (text : String)
  /-- The pattern is malformed. -/
  | pattern (text : String) (cause : PatternError)

/-- The wording. -/
def LogFilterFault.message : LogFilterFault → String
  | directive text => "invalid logging spec '" ++ text ++ "'"
  | slashes text => "invalid logging spec '" ++ text ++ "' (too many '/'s)"
  | pattern text cause => "invalid regex filter - " ++ cause.report text

/-- What is said about a fault. -/
def LogFilterFault.complaint (fault : LogFilterFault) : String :=
  "warning: " ++ fault.message ++ ", ignoring it"

namespace LogFilter

/-- The rank that a word stands for, in upper or lower case. -/
def rank? (word : String) : Option Nat :=
  match word.map Char.toLower with
  | "off" => some 0
  | "error" => some 1
  | "warn" => some 2
  | "info" => some 3
  | "debug" => some 4
  | "trace" => some 5
  | _ => none

/-- The rank that allows everything. -/
def everything : Nat := Severity.trace.rank

/-- The directive of a word alone: a rank for all targets, or else a target. -/
def ofWord (word : List Char) : LogDirective :=
  match rank? (String.ofList word) with
  | some rank => ⟨none, rank⟩
  | none => ⟨some (String.ofList word), everything⟩

/-- The directive of a name and the word after an equals sign, which may be left out. -/
def ofNameAndWord (name word : List Char) : Except LogFilterFault LogDirective :=
  let word := String.ofList (WhiteSpace.trim word)
  if word.isEmpty then .ok ⟨some (String.ofList name), everything⟩
  else
    match rank? word with
    | some rank => .ok ⟨some (String.ofList name), rank⟩
    | none => .error (.directive word)

/-- Reads one directive without white space around it. -/
def directive (text : List Char) : Except LogFilterFault LogDirective :=
  match text.splitOn '=' with
  | [word] => .ok (ofWord word)
  | [name, word] => ofNameAndWord name word
  | _ => .error (.directive (String.ofList text))

/-- Adds a directive, in place of one with the same name. -/
def addDirective (directives : List LogDirective) (directive : LogDirective) :
    List LogDirective :=
  if directives.any fun old => old.target == directive.target then
    directives.map fun old => if old.target == directive.target then directive else old
  else directives ++ [directive]

/-- The length of the name of a directive, in bytes. -/
def nameSize (directive : LogDirective) : Nat := (directive.target.getD "").utf8ByteSize

/-- A filter of some directives, which lets only errors pass if there are none. -/
def ofDirectives (directives : List LogDirective) (pattern : Option Pattern) : LogFilter :=
  let directives := directives.foldl addDirective []
  let directives := if directives.isEmpty then [⟨none, Severity.error.rank⟩] else directives
  ⟨directives.mergeSort fun first second => decide (nameSize first ≤ nameSize second), pattern⟩

/-- What was read of the text of a filter. -/
structure Reading where
  /-- The filter. -/
  filter : LogFilter
  /-- What was left out. -/
  faults : List LogFilterFault

/-- What is right and what is wrong among some results. -/
def sortOut {ε α : Type} (results : List (Except ε α)) : List α × List ε :=
  (results.filterMap Except.toOption,
    results.filterMap fun
      | .error error => some error
      | .ok _ => none)

/-- The directives in a list between commas, with the faults in it. -/
def readDirectives (list : List Char) : List LogDirective × List LogFilterFault :=
  let parts := (list.splitOn ',').map WhiteSpace.trim
  sortOut ((parts.filter fun part => !part.isEmpty).map directive)

/-- Reads the text of a filter. -/
def read (text : String) : Reading :=
  match text.toList.splitOn '/' with
  | [list] =>
    let (directives, faults) := readDirectives list
    ⟨ofDirectives directives none, faults⟩
  | [list, pattern] =>
    let (directives, faults) := readDirectives list
    let pattern := String.ofList pattern
    match Pattern.ofText pattern with
    | .ok meaning => ⟨ofDirectives directives (some meaning), faults⟩
    | .error cause => ⟨ofDirectives directives none, faults ++ [.pattern pattern cause]⟩
  | _ => ⟨ofDirectives [] none, [.slashes text]⟩

/-- The filter of a program that was told none. -/
def Reading.standard : Reading := read "info"

/-- Whether a record is shown. -/
def allows (filter : LogFilter) (record : LogRecord) : Bool :=
  let fits (directive : LogDirective) : Bool :=
    match directive.target with
    | none => true
    | some name => name.toList.isPrefixOf record.target.toList
  let ranked := match filter.directives.reverse.find? fits with
    | some directive => decide (record.severity.rank ≤ directive.maxRank)
    | none => false
  ranked && filter.pattern.all fun pattern => pattern.occursIn record.message

end LogFilter

end PilotLamp
