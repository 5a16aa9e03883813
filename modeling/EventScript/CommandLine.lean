import EventScript.Policy
import EventScript.Text.Decimal

/-!
# The command line

Reads the arguments of the program. The value of an option that was given apart from it is looked at
only when the next known argument arrives, or at the end; an unknown argument in between is
therefore the first thing to be refused. A value joined to its option by the sign of equality is
looked at at once.
-/

namespace EventScript.CommandLine

/-- What help was asked for. -/
inductive Topic where
  | program
  | run
  | help
  deriving DecidableEq

/-- Why the arguments do not ask for a run. -/
inductive Refusal where
  /-- Help was asked for. -/
  | help (topic : Topic)
  /-- The version was asked for. -/
  | version
  /-- There are no arguments at all. -/
  | noCommand
  /-- A command has no meaning. -/
  | unknownCommand
  /-- An argument has no meaning. -/
  | unknownArgument
  /-- A value is missing or empty. -/
  | emptyValue
  /-- A value cannot be understood. -/
  | badValue
  /-- A switch was given a value. -/
  | unexpectedValue
  /-- Something was given twice. -/
  | repeated
  /-- No script file was given. -/
  | noFile
  deriving DecidableEq

/-- What to run and how. -/
structure Options where
  /-- The script file. -/
  file : String
  /-- The file holds hexadecimal text. -/
  hexText : Bool
  /-- The most ticks. -/
  ticks : Nat
  /-- The configuration file. -/
  config : Option String
  /-- The policy of the primary context. -/
  policy : Option Policy
  /-- Resume the script whenever it suspends. -/
  resume : Bool
  deriving DecidableEq

/-- What has a value of its own. -/
inductive Slot where
  | file
  | ticks
  | config
  | policy
  deriving DecidableEq

/-- The arguments understood so far. -/
structure Scan where
  file : Option String := none
  hexText : Bool := false
  ticks : Option Nat := none
  config : Option String := none
  policy : Option Policy := none
  resume : Bool := false
  /-- A slot whose value, if it has arrived, has not been looked at. -/
  pending : Option (Slot × Option String) := none
  /-- The script file has been named. -/
  fileNamed : Bool := false

/-- The greatest number of ticks: what fits into 64 bits. -/
def maxTicks : Nat := 18446744073709551615

/-- A number of ticks in decimal digits, with or without a plus sign. -/
def number? (text : String) : Option Nat := (Text.natural? text.toList).filter (· ≤ maxTicks)

/-- A path; it may not be empty. -/
def path (text : String) : Except Refusal String :=
  if text.isEmpty then .error .emptyValue else .ok text

namespace Scan

/-- Looks at a value. -/
def accept (s : Scan) (slot : Slot) (value : String) : Except Refusal Scan :=
  match slot with
  | .file => do
    let file ← path value
    return { s with file := some file }
  | .ticks =>
    if s.ticks.isSome then .error .repeated
    else match number? value with
      | some n => .ok { s with ticks := some n }
      | none => .error .badValue
  | .config =>
    if s.config.isSome then .error .repeated
    else do
      let file ← path value
      return { s with config := some file }
  | .policy =>
    if s.policy.isSome then .error .repeated
    else match Policy.ofWord? value with
      | some policy => .ok { s with policy := some policy }
      | none => .error .badValue

/-- Looks at the value that has not been looked at yet. -/
def settle (s : Scan) : Except Refusal Scan :=
  match s.pending with
  | none => .ok s
  | some (_, none) => .error .emptyValue
  | some (slot, some value) => { s with pending := none }.accept slot value

/-- Takes an argument that is no option: the script file, of which there is one. -/
def positional (s : Scan) (arg : String) : Except Refusal Scan :=
  if s.fileNamed then .error .unknownArgument
  else do
    let s ← s.settle
    return { s with pending := some (.file, some arg), fileNamed := true }

/-- Takes a switch. -/
def switch (s : Scan) (given : Scan → Bool) (set : Scan → Scan) (value : Option String) :
    Except Refusal Scan :=
  if value.isSome then .error .unexpectedValue
  else do
    let s ← s.settle
    if given s then .error .repeated else return set s

/-- Takes an option with a value, joined to it or yet to come. -/
def valued (s : Scan) (slot : Slot) (value : Option String) : Except Refusal Scan := do
  let s ← s.settle
  match value with
  | some value => s.accept slot value
  | none => return { s with pending := some (slot, none) }

/-- Takes a request for help. -/
def askHelp (s : Scan) : Except Refusal Scan := do
  let _ ← s.settle
  .error (.help .run)

end Scan

/-- An option name and the value joined to it. -/
def splitOption (cs : List Char) : String × Option String :=
  let name := String.ofList (cs.takeWhile (· ≠ '='))
  match cs.dropWhile (· ≠ '=') with
  | _ :: value => (name, some (String.ofList value))
  | [] => (name, none)

/-- Takes one argument of the command `run`. -/
def scanArgument (s : Scan) (arg : String) : Except Refusal Scan :=
  match arg.toList with
  | '-' :: '-' :: cs =>
    let (name, value) := splitOption cs
    match name with
    | "hex" => s.switch Scan.hexText (fun s ↦ { s with hexText := true }) value
    | "resume" => s.switch Scan.resume (fun s ↦ { s with resume := true }) value
    | "ticks" => s.valued .ticks value
    | "config" => s.valued .config value
    | "policy" => s.valued .policy value
    | "help" => if value.isSome then .error .unexpectedValue else s.askHelp
    | _ => .error .unknownArgument
  | '-' :: 'h' :: _ => s.askHelp
  | '-' :: _ :: _ => .error .unknownArgument
  | _ =>
    match s.pending with
    | some (slot, none) => .ok { s with pending := some (slot, some arg) }
    | _ => s.positional arg

/-- Takes all arguments of the command `run`. Behind two dashes every argument is a file. -/
def scanArguments (s : Scan) : List String → Except Refusal Scan
  | [] => s.settle
  | "--" :: rest => do
    let s ← rest.foldlM Scan.positional s
    s.settle
  | arg :: rest => do
    let s ← scanArgument s arg
    scanArguments s rest

/-- The ticks of a run that names no limit. -/
def defaultTicks : Nat := 1000

/-- Reads the arguments of the command `run`. The configuration file may also be named by the
environment. -/
def parseRun (args : List String) (configVariable : Option String) : Except Refusal Options := do
  let s ← scanArguments {} args
  let config ← match s.config, configVariable with
    | some config, _ => pure (some config)
    | none, some value => some <$> path value
    | none, none => pure none
  match s.file with
  | none => .error .noFile
  | some file =>
    return {
      file, config,
      hexText := s.hexText
      ticks := s.ticks.getD defaultTicks
      policy := s.policy
      resume := s.resume }

/-- The help asked for by the command `help`. -/
def parseHelp : List String → Refusal
  | [] => .help .program
  | ["run"] => .help .run
  | ["help"] => .help .help
  | _ => .unknownCommand

/-- Reads an argument in front of the command. -/
def parseGlobal (arg : String) : Refusal :=
  match arg.toList with
  | '-' :: '-' :: cs =>
    match splitOption cs with
    | ("help", none) => .help .program
    | ("version", none) => .version
    | ("help", some _) | ("version", some _) => .unexpectedValue
    | _ => .unknownArgument
  | '-' :: 'h' :: _ => .help .program
  | '-' :: 'V' :: _ => .version
  | '-' :: _ :: _ => .unknownArgument
  | _ => .unknownCommand

/-- Reads all arguments. -/
def parse (args : List String) (configVariable : Option String) : Except Refusal Options :=
  match args with
  | [] | ["--"] => .error .noCommand
  | "run" :: rest => parseRun rest configVariable
  | "help" :: rest => .error (parseHelp rest)
  | "--" :: arg :: _ =>
    .error (if arg = "run" ∨ arg = "help" then .unknownArgument else .unknownCommand)
  | arg :: _ => .error (parseGlobal arg)

end EventScript.CommandLine
