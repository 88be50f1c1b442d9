import PilotLamp.IntegerBounds
import PilotLamp.NameLikeness
import PilotLamp.Pin
import PilotLamp.TerminalText
import PilotLamp.TextLines

/-!
# The command line of the host program

Arguments are taken from left to right. A value that stands in an argument of its own is held back
and checked when the next known option, the first free argument or the end is reached; an argument
that is not understood is reported before a value that is held back. After `--` every argument is
free. Reports repeat arguments without what steers a terminal in them.
-/

namespace PilotLamp

/-- What a command line asks for. -/
structure Invocation where
  /-- The period, as a free argument. -/
  periodMs : Option UInt32 := none
  /-- The pin. -/
  pin : Option Pin := none
  /-- The path of a configuration file. -/
  config : Option String := none
  /-- The number of cycles to stop after. -/
  cycles : Option UInt32 := none
deriving DecidableEq, Repr

/-- The arguments that carry a value. -/
inductive Parameter
  | periodMs | pin | config | cycles
deriving DecidableEq, Repr

/-- What an integer argument can be refused for. -/
inductive IntegerFault
  /-- There are no characters. -/
  | empty
  /-- A character is no digit. -/
  | invalidDigit
  /-- The number is past 64 bits. -/
  | tooLarge
  /-- The number is below 64 bits. -/
  | tooSmall
  /-- The number is out of the range of the parameter. -/
  | outOfRange (number : Int) (maximum : Nat)
deriving DecidableEq, Repr

/-- What is advised about an argument that is not understood. -/
inductive Advice
  /-- To pass it as a value. -/
  | asValue
  /-- To use an option with a similar name. -/
  | similar (option : String)
deriving DecidableEq, Repr

/-- Why a command line yields no invocation. The last two are asked for and not failures. -/
inductive CommandLineStop
  /-- An argument is not understood. -/
  | unknown (shown : String) (advice : Option Advice)
  /-- A value is no value of its parameter. -/
  | invalid (value : String) (parameter : Parameter) (fault : IntegerFault)
  /-- A parameter has no value. -/
  | valueMissing (parameter : Parameter)
  /-- A parameter is given twice. -/
  | repeated (parameter : Parameter)
  /-- A flag has a value. -/
  | valueUnexpected (value flag : String)
  /-- The help text is asked for. -/
  | help
  /-- The version is asked for. -/
  | version
deriving DecidableEq, Repr

namespace Parameter

/-- How messages show a parameter. -/
def shown : Parameter → String
  | periodMs => "[PERIOD_MS]"
  | pin => "--pin <PIN>"
  | config => "--config <CONFIG>"
  | cycles => "--cycles <CYCLES>"

/-- The parameter of a long option. -/
def ofLong? : String → Option Parameter
  | "pin" => some pin
  | "config" => some config
  | "cycles" => some cycles
  | _ => none

end Parameter

/-- The wording. -/
def IntegerFault.message : IntegerFault → String
  | empty => "cannot parse integer from empty string"
  | invalidDigit => "invalid digit found in string"
  | tooLarge => "number too large to fit in target type"
  | tooSmall => "number too small to fit in target type"
  | outOfRange number maximum => Int.repr number ++ " is not in 0..=" ++ Nat.repr maximum

namespace CommandLineStop

/-- The version text. -/
def versionText : String := "lumen-sim 0.1.0\n"

/-- The help text. -/
def helpText : String := String.join [
  "Host runner for the Lumen blink loop on the simulation backend\n",
  "\n",
  "Usage: lumen-sim [OPTIONS] [PERIOD_MS]\n",
  "\n",
  "Arguments:\n",
  "  [PERIOD_MS]  Time spent on and off, in milliseconds (default 500)\n",
  "\n",
  "Options:\n",
  "      --pin <PIN>        Indicator pin (default 12)\n",
  "  -c, --config <CONFIG>  TOML configuration file\n",
  "      --cycles <CYCLES>  Stop after this many on/off cycles instead of running forever\n",
  "  -h, --help             Print help\n",
  "  -V, --version          Print version\n"]

/-- Whether the stop is a failure. -/
def isFailure : CommandLineStop → Bool
  | help | version => false
  | _ => true

/-- The first sentence about a failure, with what `clean` leaves of the arguments. -/
def headline (clean : String → String) : CommandLineStop → String
  | unknown shown _ => "error: unexpected argument '" ++ clean shown ++ "' found"
  | invalid value parameter fault =>
    "error: invalid value '" ++ clean value ++ "' for '" ++ parameter.shown ++ "': "
      ++ fault.message
  | valueMissing parameter =>
    "error: a value is required for '" ++ parameter.shown ++ "' but none was supplied"
  | repeated parameter =>
    "error: the argument '" ++ parameter.shown ++ "' cannot be used multiple times"
  | valueUnexpected value flag =>
    "error: unexpected value '" ++ clean value ++ "' for '" ++ flag
      ++ "' found; no more were expected"
  | help | version => ""

/-- The advice about a failure. -/
def tip (clean : String → String) : CommandLineStop → String
  | unknown shown (some .asValue) =>
    "\n  tip: to pass '" ++ clean shown ++ "' as a value, use '-- " ++ clean shown ++ "'\n"
  | unknown _ (some (.similar option)) =>
    "\n  tip: a similar argument exists: '--" ++ option ++ "'\n"
  | _ => ""

/-- Whether a failure is one of the form of the command line, so that the form is recalled. -/
def recallsUsage : CommandLineStop → Bool
  | unknown .. | repeated _ | valueUnexpected .. => true
  | invalid .. | valueMissing _ | help | version => false

/-- What is said about a failure, or the text that was asked for. -/
def text (clean : String → String) (stop : CommandLineStop) : String :=
  match stop with
  | help => helpText
  | version => versionText
  | stop =>
    stop.headline clean ++ "\n" ++ stop.tip clean
      ++ (if stop.recallsUsage then "\nUsage: lumen-sim [OPTIONS] [PERIOD_MS]\n" else "")
      ++ "\nFor more information, try '--help'.\n"

/-- The first line of what is said about a failure, or the whole text that was asked for. -/
def message (stop : CommandLineStop) : String :=
  let text := stop.text (TerminalText.plain .ends)
  if stop.isFailure then TextLines.first text else text

/-- What is written on a terminal about a failure, or the text that was asked for. -/
def report (stop : CommandLineStop) : String := stop.text (TerminalText.plain .suspends)

end CommandLineStop

namespace CommandLine

/-! ## Values -/

/-- Reads digits onto a number, downward for a negative one, and stops where it leaves 64 bits. -/
def digits (negative : Bool) : List Char → Int → Except IntegerFault Int
  | [], number => .ok number
  | c :: rest, number =>
    if c.isDigit then
      let digit : Int := c.toNat - '0'.toNat
      let next := if negative then 10 * number - digit else 10 * number + digit
      if IntegerBounds.isSignedLong next then digits negative rest next
      else .error (if negative then .tooSmall else .tooLarge)
    else .error .invalidDigit

/-- Reads an integer of 64 bits. -/
def integer (text : String) : Except IntegerFault Int :=
  match text.toList with
  | [] => .error .empty
  | ['+'] | ['-'] => .error .invalidDigit
  | '+' :: rest => digits false rest 0
  | '-' :: rest => digits true rest 0
  | rest => digits false rest 0

/-- Reads an integer from zero up to a bound that is not reached. -/
def integerBelow (bound : Nat) (text : String) : Except IntegerFault Nat :=
  match integer text with
  | .error fault => .error fault
  | .ok number =>
    if 0 ≤ number ∧ number < bound then .ok number.toNat
    else .error (.outOfRange number (bound - 1))

/-- Whether a parameter has its value. -/
def isGiven (invocation : Invocation) : Parameter → Bool
  | .periodMs => invocation.periodMs.isSome
  | .pin => invocation.pin.isSome
  | .config => invocation.config.isSome
  | .cycles => invocation.cycles.isSome

/-- Gives a parameter its value. -/
def setValue (invocation : Invocation) (parameter : Parameter) (value : String) :
    Except CommandLineStop Invocation :=
  let withInteger (bound : Nat) (set : Nat → Invocation) : Except CommandLineStop Invocation :=
    match integerBelow bound value with
    | .ok number => .ok (set number)
    | .error fault => .error (.invalid value parameter fault)
  match parameter with
  | .periodMs =>
    withInteger IntegerBounds.word fun n => { invocation with periodMs := some n.toUInt32 }
  | .pin => withInteger IntegerBounds.byte fun n => { invocation with pin := some (.ofNat n) }
  | .cycles => withInteger IntegerBounds.word fun n => { invocation with cycles := some n.toUInt32 }
  | .config =>
    if value.isEmpty then .error (.valueMissing .config)
    else .ok { invocation with config := some value }

/-- Takes a parameter with its value, if it has one. -/
def accept (invocation : Invocation) (parameter : Parameter) (value : Option String) :
    Except CommandLineStop Invocation :=
  match value with
  | none => .error (.valueMissing parameter)
  | some value =>
    if isGiven invocation parameter then .error (.repeated parameter)
    else setValue invocation parameter value

/-! ## Arguments -/

/-- A parameter that is held back, with its value once there is one. -/
structure Held where
  /-- The parameter. -/
  parameter : Parameter
  /-- Its value. -/
  value : Option String
deriving DecidableEq, Repr

/-- How far a command line was read. -/
structure Progress where
  /-- What was accepted. -/
  invocation : Invocation
  /-- What is held back. -/
  held : Option Held
  /-- Whether the free argument was seen. -/
  freeSeen : Bool
  /-- Whether every further argument is free. -/
  onlyFree : Bool
deriving DecidableEq, Repr

/-- Accepts what is held back. -/
def settle (progress : Progress) : Except CommandLineStop Progress :=
  match progress.held with
  | none => .ok progress
  | some held =>
    match accept progress.invocation held.parameter held.value with
    | .ok invocation => .ok { progress with invocation, held := none }
    | .error stop => .error stop

/-- Takes an option: with a value at once, without one it is held back. -/
def takeOption (progress : Progress) (parameter : Parameter) (value : Option String) :
    Except CommandLineStop Progress := do
  let progress ← settle progress
  match value with
  | some value =>
    let invocation ← accept progress.invocation parameter (some value)
    .ok { progress with invocation }
  | none => .ok { progress with held := some ⟨parameter, none⟩ }

/-- The names of the long options. -/
def longNames : List String := ["pin", "config", "cycles", "help", "version"]

/-- What is advised about a long option that is not known: one whose name is alike by more than
seven tenths, or else to pass it as a value. -/
def adviceFor (name : String) : Advice :=
  match NameLikeness.closest? ⟨7, 10⟩ name longNames with
  | some option => .similar option
  | none => .asValue

/-- Takes a long option, after its two dashes. -/
def takeLong (progress : Progress) (text : List Char) : Except CommandLineStop Progress :=
  let name := String.ofList (text.takeWhile (· != '='))
  let value := match text.dropWhile (· != '=') with
    | [] => none
    | _ :: rest => some (String.ofList rest)
  let flag (stop : CommandLineStop) : Except CommandLineStop Progress :=
    match value with
    | some value => .error (.valueUnexpected value ("--" ++ name))
    | none => settle progress >>= fun _ => .error stop
  match Parameter.ofLong? name with
  | some parameter => takeOption progress parameter value
  | none =>
    if name = "help" then flag .help
    else if name = "version" then flag .version
    else .error (.unknown ("--" ++ name) (some (adviceFor name)))

/-- Takes the first of some short options; the rest may be its value. Both flags among them stop
the reading, so that no other option ever follows a known one. -/
def takeShort (progress : Progress) (first : Char) (rest : List Char) :
    Except CommandLineStop Progress :=
  if first = 'h' then settle progress >>= fun _ => .error .help
  else if first = 'V' then settle progress >>= fun _ => .error .version
  else if first = 'c' then
    takeOption progress .config <| match rest with
      | [] => none
      | '=' :: value => some (String.ofList value)
      | value => some (String.ofList value)
  else .error (.unknown ("-" ++ String.singleton first) (some .asValue))

/-- Takes a free argument. There is room for one. -/
def takeFree (progress : Progress) (argument : String) : Except CommandLineStop Progress := do
  if progress.freeSeen then .error (.unknown argument none)
  else
    let progress ← settle progress
    .ok { progress with held := some ⟨.periodMs, some argument⟩, freeSeen := true }

/-- Takes an argument that is no option: the value that an option waits for, or a free one. -/
def takePlain (progress : Progress) (argument : String) : Except CommandLineStop Progress :=
  match progress.held with
  | some ⟨parameter, none⟩ => .ok { progress with held := some ⟨parameter, some argument⟩ }
  | _ => takeFree progress argument

/-- Takes one argument. -/
def takeArgument (progress : Progress) (argument : String) : Except CommandLineStop Progress :=
  if progress.onlyFree then takeFree progress argument
  else
    match argument.toList with
    | ['-', '-'] => .ok { progress with onlyFree := true }
    | '-' :: '-' :: rest => takeLong progress rest
    | '-' :: first :: rest => takeShort progress first rest
    | _ => takePlain progress argument

/-- Reads a command line without the name of the program. -/
def read (arguments : List String) : Except CommandLineStop Invocation := do
  let progress ← arguments.foldlM takeArgument ⟨{}, none, false, false⟩
  let progress ← settle progress
  .ok progress.invocation

end CommandLine

end PilotLamp
