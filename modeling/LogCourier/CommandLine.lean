import LogCourier.Program

/-!
# The command line

The arguments of the program are options: long ones with a value behind an equals sign or
in the next argument, short ones with a value attached or in the next argument, and two
flags that ask for help and for the version. They are read from left to right, and the
first argument that is a fault or one of the flags decides.
-/

namespace LogCourier

namespace CommandLine

/-- What the arguments ask for. -/
inductive Request
  | run (options : Program.Options)
  | help
  | version
  | misuse
  deriving DecidableEq, Repr

/-- An option with a value. -/
inductive Key
  | config
  | stateFile
  | pollInterval
  | metricsPort
  | logLevel
  deriving DecidableEq, Repr

/-- The long name of an option. -/
def Key.name : Key → String
  | config => "config"
  | stateFile => "state-file"
  | pollInterval => "poll-interval"
  | metricsPort => "metrics-port"
  | logLevel => "log-level"

/-- The options. -/
def Key.all : List Key :=
  [config, stateFile, pollInterval, metricsPort, logLevel]

/-- Read a port: a number with an optional sign. -/
def port? (value : String) : Option UInt16 :=
  let read := fun (limit : Nat) (cs : List Char) =>
    (Decimal.readBelow limit cs).toOption.map UInt16.ofNat
  match value.toList with
  | '-' :: '+' :: _ => none
  | '-' :: cs => read 1 cs
  | cs => read UInt16.size cs

/-- Put the value of an option into the options, unless it is given already or cannot be
read. -/
def assign (o : Program.Options) (value : String) : Key → Option Program.Options
  | .config =>
    if o.configFile.isSome then none else some { o with configFile := some value }
  | .stateFile =>
    if o.overrides.stateFile.isSome then none
    else some { o with overrides.stateFile := some value }
  | .pollInterval => do
    guard o.overrides.pollIntervalSecs.isNone
    let n ← (Decimal.readBelow UInt64.size value.toList).toOption
    return { o with overrides.pollIntervalSecs := some (.ofNat n) }
  | .metricsPort => do
    guard o.overrides.metricsPort.isNone
    return { o with overrides.metricsPort := some (← port? value) }
  | .logLevel =>
    if o.overrides.logLevel.isSome then none
    else some { o with overrides.logLevel := some value }

/-- What one argument is. -/
inductive Argument
  /-- An option whose value is attached, or is in the next argument. -/
  | option (key : Key) (value : Option String)
  | flag (request : Request)
  /-- The mark after which no options follow. -/
  | last
  | other

/-- Read an argument that starts with two dashes. -/
def readLong (cs : List Char) : Argument :=
  let name := String.ofList (cs.takeWhile (· ≠ '='))
  let value := (cs.dropWhile (· ≠ '=')).tail?.map String.ofList
  match Key.all.find? (·.name = name) with
  | some key => .option key value
  | none =>
    if name = "help" ∧ value.isNone then .flag .help
    else if name = "version" ∧ value.isNone then .flag .version
    else .other

/-- Read an argument. -/
def Argument.read (s : String) : Argument :=
  match s.toList with
  | ['-', '-'] => .last
  | '-' :: '-' :: cs => readLong cs
  | ['-', 'c'] => .option .config none
  | '-' :: 'c' :: '=' :: cs => .option .config (some (String.ofList cs))
  | '-' :: 'c' :: cs => .option .config (some (String.ofList cs))
  | '-' :: 'h' :: _ => .flag .help
  | '-' :: 'V' :: _ => .flag .version
  | _ => .other

/-- Whether an argument may be the value of the option before it. -/
def isValue (s : String) : Bool :=
  s.toList.head? ≠ some '-' || s = "-"

/-- Read the arguments that are left. -/
def readFrom (o : Program.Options) : List String → Request
  | [] => .run o
  | a :: rest =>
    match Argument.read a with
    | .flag request => request
    | .other => .misuse
    | .last => if rest.isEmpty then .run o else .misuse
    | .option key (some value) =>
      match assign o value key with
      | some o => readFrom o rest
      | none => .misuse
    | .option key none =>
      match rest with
      | [] => .misuse
      | value :: rest =>
        if isValue value then
          match assign o value key with
          | some o => readFrom o rest
          | none => .misuse
        else .misuse

/-- Read the arguments. -/
def read (arguments : List String) : Request :=
  readFrom {} arguments

/-- The name of the program with its version. -/
def versionText : String := "querylog-shipper 0.1.0"

/-- How the program is used. -/
def usage : String := "Usage: querylog-shipper [OPTIONS]"

/-- What the help says of the options. -/
def helpText : String := "\n".intercalate [
  "Ships DNS query logs from Technitium to Loki",
  "",
  usage,
  "",
  "Options:",
  "  -c, --config <CONFIG>                Path to a TOML configuration file",
  "      --state-file <STATE_FILE>        File holding the last delivered row number",
  "      --poll-interval <POLL_INTERVAL>  Seconds between poll cycles",
  "      --metrics-port <METRICS_PORT>    Port of the Prometheus metrics endpoint",
  "      --log-level <LOG_LEVEL>          Log level (trace, debug, info, warn, error)",
  "  -h, --help                           Print help",
  "  -V, --version                        Print version"]

end CommandLine

end LogCourier
