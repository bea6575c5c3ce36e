import LogCourier.Net.SocketAddress
import LogCourier.Text.Blank
import LogCourier.Text.Case

/-!
# Settings

What the program can be told: where the log comes from, where it goes, how often, where
the cursor is kept, how clients are named and what is written about the work. Every
setting has a default; `Settings.validate` says which settings cannot be worked with.
-/

namespace LogCourier

/-- The query log source. -/
structure SourceSettings where
  /-- The base of the addresses of the source. -/
  url : String := "http://10.88.0.1:5380"
  /-- The credential; it is in no log line. -/
  token : String := ""
  appName : String := "Query Logs (Sqlite)"
  classPath : String := "QueryLogsSqlite.App"
  pageSize : UInt32 := 100
  maxPagesPerCycle : UInt32 := 10
  timeoutSecs : UInt64 := 10
  deriving DecidableEq, Repr

/-- The log store. -/
structure SinkSettings where
  url : String := "http://localhost:3100"
  subBatchSize : UInt64 := 100
  /-- The value of the label `job`. -/
  jobLabel : String := "dns_query_logs"
  timeoutSecs : UInt64 := 10
  deriving DecidableEq, Repr

/-- The rhythm of the work and the file of the cursor. -/
structure ShipperSettings where
  pollIntervalSecs : UInt64 := 15
  stateFile : String := "/var/lib/dns-query-exporter/last_row.txt"
  maxConsecutiveFailures : UInt32 := 3
  deriving DecidableEq, Repr

/-- The exposition of metrics. -/
structure MetricsSettings where
  bindAddress : String := "127.0.0.1"
  port : UInt16 := 9275
  deriving DecidableEq, Repr

/-- Where metrics are exposed. -/
def MetricsSettings.listenAddress (m : MetricsSettings) : String :=
  m.bindAddress ++ ":" ++ Decimal.text m.port.toNat

/-- The lookup of client names. -/
structure ResolverSettings where
  enabled : Bool := true
  dnsServer : String := "127.0.0.1:53"
  timeoutMs : UInt64 := 2000
  deriving DecidableEq, Repr

/-- What is written about the work. -/
structure LoggingSettings where
  level : String := "info"
  format : String := "text"
  deriving DecidableEq, Repr

/-- Whether log lines are written as JSON. -/
def LoggingSettings.isJson (l : LoggingSettings) : Bool :=
  Text.lowerAscii l.format = "json"

/-- All settings. -/
structure Settings where
  source : SourceSettings := {}
  sink : SinkSettings := {}
  shipper : ShipperSettings := {}
  metrics : MetricsSettings := {}
  resolver : ResolverSettings := {}
  logging : LoggingSettings := {}
  deriving DecidableEq, Repr

/-- Why there are no settings to work with. -/
inductive SettingsError
  | fileRead (path reason : String)
  | parse (reason : String)
  | invalidVariable (name value reason : String)
  | missingToken
  | validation (reason : String)
  deriving DecidableEq, Repr

/-- The wording of why there are no settings. -/
def SettingsError.message : SettingsError → String
  | fileRead path reason => "Failed to read config file '" ++ path ++ "': " ++ reason
  | parse reason => "Failed to parse config file: " ++ reason
  | invalidVariable name value reason =>
    "Invalid value '" ++ value ++ "' for " ++ name ++ ": " ++ reason
  | missingToken =>
    "TECHNITIUM_TOKEN is not set; the query log source requires an API token"
  | validation reason => "Validation error: " ++ reason

namespace Settings

/-- The demands on settings that need no address or credential, each with what is said if
it is not met. -/
def demands (s : Settings) : List (Bool × String) := [
  (s.source.pageSize ≠ 0, "source page size must be at least 1"),
  (s.source.maxPagesPerCycle ≠ 0, "max pages per cycle must be at least 1"),
  (s.sink.subBatchSize ≠ 0, "sub-batch size must be at least 1"),
  (s.shipper.pollIntervalSecs ≠ 0, "poll interval must be at least 1 second"),
  (s.shipper.maxConsecutiveFailures ≠ 0, "max consecutive failures must be at least 1"),
  (!(Text.trim s.shipper.stateFile).isEmpty, "state file path must not be empty"),
  (!s.resolver.enabled || (SocketAddress.parse? s.resolver.dnsServer).isSome,
    "hostname DNS server '" ++ s.resolver.dnsServer ++ "' is not a socket address")]

/-- The demand on an address of a server. -/
def urlDemand (name url : String) : Bool × String :=
  ("http://".toList.isPrefixOf url.toList || "https://".toList.isPrefixOf url.toList,
    name ++ " '" ++ url ++ "' must start with http:// or https://")

/-- Whether the settings can be worked with; the first demand that is not met is
reported. -/
def validate (s : Settings) : Except SettingsError Unit :=
  if (Text.trim s.source.token).isEmpty then .error .missingToken
  else
    let all := urlDemand "source url" s.source.url :: urlDemand "sink url" s.sink.url :: s.demands
    match all.find? fun d => !d.1 with
    | some (_, reason) => .error (.validation reason)
    | none => .ok ()

end Settings

end LogCourier
