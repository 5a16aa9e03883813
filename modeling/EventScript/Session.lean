import EventScript.CommandLine
import EventScript.Loader
import EventScript.Log.Filter
import EventScript.Run

/-!
# A session of the command line

From the arguments, the environment and the files to everything the program prints and its exit
code. Log records that pass the filter stand between the lines about the ticks, in the order in
which things happened. The log is set up before the arguments are looked at.
-/

namespace EventScript.Session

/-- The name of the program. -/
def programName : String := "overworld-cli"

/-- What the program leaves behind. -/
structure Result where
  /-- The exit code. -/
  exit : Nat
  /-- What was printed, each text followed by an end of line. -/
  output : List String
  /-- The error report, each text followed by an end of line. -/
  errors : List String
  deriving DecidableEq

/-- The surroundings of the program. -/
structure Environment where
  /-- The configuration file named by the environment. -/
  configVariable : Option String
  /-- The log filter set by the environment. -/
  filterVariable : Option String
  /-- The files. -/
  files : Files

/-! ## Help -/

/-- The help on a topic. -/
def helpLines (env : Environment) : CommandLine.Topic → List String
  | .program =>
    [ "Overworld CLI - drive script byte streams through the script engine",
      "",
      "Usage: overworld-cli <COMMAND>",
      "",
      "Commands:",
      "  run   Run a script in the primary context, one host tick at a time",
      "  help  Print this message or the help of the given subcommand(s)",
      "",
      "Options:",
      "  -h, --help     Print help",
      "  -V, --version  Print version" ]
  | .run =>
    [ "Run a script in the primary context, one host tick at a time",
      "",
      "Usage: overworld-cli run [OPTIONS] <FILE>",
      "",
      "Arguments:",
      "  <FILE>  Script file; raw bytes unless `--hex` is given",
      "",
      "Options:",
      "      --hex              Treat the file as hexadecimal text (whitespace and a `0x` " ++
        "prefix are ignored)",
      "      --ticks <N>        Maximum number of host ticks to run [default: 1000]",
      "      --config <PATH>    Engine configuration file (TOML) [env: OVERWORLD_CONFIG=" ++
        env.configVariable.getD "" ++ "]",
      "      --policy <POLICY>  Overrides the primary context dispatch policy (single, " ++
        "until-suspend)",
      "      --resume           Resume the script every time it suspends instead of stopping",
      "  -h, --help             Print help" ]
  | .help =>
    [ "Print this message or the help of the given subcommand(s)",
      "",
      "Usage: overworld-cli help [COMMAND]...",
      "",
      "Arguments:",
      "  [COMMAND]...  Print help for the subcommand(s)" ]

/-- The wording of a refusal. -/
def refusalText : CommandLine.Refusal → String
  | .help _ | .version | .noCommand => ""
  | .unknownCommand => "error: unrecognized subcommand"
  | .unknownArgument => "error: unexpected argument found"
  | .emptyValue => "error: a value is required"
  | .badValue => "error: invalid value"
  | .unexpectedValue => "error: unexpected value"
  | .repeated => "error: an argument cannot be used multiple times"
  | .noFile => "error: the following required arguments were not provided: <FILE>"

/-- What is left behind when the arguments do not ask for a run. -/
def refuse (env : Environment) : CommandLine.Refusal → Result
  | .help topic => ⟨0, helpLines env topic, []⟩
  | .version => ⟨0, [programName ++ " " ++ version], []⟩
  | .noCommand => ⟨2, [], helpLines env .program⟩
  | refusal => ⟨2, [], [refusalText refusal]⟩

/-! ## Printing a run -/

/-- The report of a failure and its cause. -/
def failure (summary : String) (cause : Option String) : List String :=
  let causes := match cause with
    | some cause => ["", "Caused by:", "    " ++ cause]
    | none => []
  ("Error: " ++ summary) :: causes

/-- The report of a configuration that was refused. -/
def configFailure (e : ConfigError) : List String :=
  match e with
  | .unreadable _ reason => failure e.message (some reason)
  | _ => failure e.message none

/-- The line about a tick. -/
def tickLine (seen : Observation) : String :=
  let outcome := match seen.report.primary with
    | .ok outcome => outcome.inspect
    | .error e => "fault: " ++ e.message
  "tick " ++ Text.padLeft 4 ' ' (toString seen.report.tick) ++ ": " ++
    Text.padRight 10 ' ' outcome ++
    " banks=" ++ inspectBanks seen.banks ++
    " cmp=" ++ toString seen.comparison.toNat ++
    " input=" ++ (if seen.gate.movementAllowed then "free" else "locked")

/-- What is printed of a record. -/
def recordLines (filter : Log.Filter) (record : Log.Record) : List String :=
  if filter.allows record then [record.line] else []

/-- What is printed of an entry of a transcript. -/
def entryLines (filter : Log.Filter) : Entry → List String
  | .logged record => recordLines filter record
  | .ticked seen => [tickLine seen]

/-- Runs a script that has been loaded and prints what happens. -/
def play (options : CommandLine.Options) (filter : Log.Filter) (config : EngineConfig)
    (bytes : List UInt8) : Result :=
  let loaded := commandLineRecord .info "script loaded"
    [("file", options.file), ("policy", config.primary.policy.text)]
  let host : Host Opcode := Host.new config
  let run := host.runScript (.ofBytes 0 bytes) options.ticks options.resume
  let lines := recordLines filter loaded ++ run.transcript.flatMap (entryLines filter)
  match run.result with
  | .ok summary =>
    let closing := s!"finished after {summary.ticks} ticks: {summary.outcome.inspect} banks=" ++
      inspectBanks summary.banks
    ⟨0, lines ++ [closing], []⟩
  | .error e =>
    let failed := commandLineRecord .error "script run failed" [("error", e.message)]
    ⟨1, lines ++ recordLines filter failed, failure e.message none⟩

/-- The log filter of an environment. One that cannot be read is as good as none. -/
def filterOf (env : Environment) : Except Log.FilterError Log.Filter :=
  match env.filterVariable.map Log.Filter.ofText with
  | none | some (.error .unreadable) => .ok .standard
  | some filter => filter

/-- What is left behind when even the log filter cannot be set up. -/
def breakdown : Result := ⟨101, [], ["the log filter would split a character"]⟩

/-- A session with a log filter. -/
def runWith (filter : Log.Filter) (args : List String) (env : Environment)
    (libraries : Libraries) : Result :=
  match CommandLine.parse args env.configVariable with
  | .error refusal => refuse env refusal
  | .ok options =>
    match env.files.loadConfig options.config options.policy libraries.configs with
    | .error e => ⟨1, [], configFailure e⟩
    | .ok config =>
      match env.files.loadScript options.file options.hexText libraries.hex with
      | .error e => ⟨1, [], failure e.summary (some e.cause)⟩
      | .ok bytes => play options filter config bytes

/-- The whole session. -/
def run (args : List String) (env : Environment) (libraries : Libraries := .standard) : Result :=
  match filterOf env with
  | .error _ => breakdown
  | .ok filter => runWith filter args env libraries

end EventScript.Session
