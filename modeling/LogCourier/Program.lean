import LogCourier.Adapter.Wiring
import LogCourier.Observe.LogFilter
import LogCourier.Settings.Banner
import LogCourier.Settings.Environment
import LogCourier.Settings.File

/-!
# The program

From a command line to the end of the work: the settings are gathered, the address of the
metrics is taken, the pipeline is wired to devices and the job is run.
-/

namespace LogCourier

namespace Program

/-- What is given on the command line. -/
structure Options where
  configFile : Option String := none
  overrides : Overrides := {}
  deriving DecidableEq, Repr

/-- The settings before the environment and the command line: those of a file, if one is
given. -/
def baseSettings : Option String → DeviceWork (Except SettingsError Settings)
  | none => return .ok {}
  | some path => do
    let content ← DeviceWork.readFile path
    return Settings.ofFile path (content.mapError FileError.reason)

/-- Gather the settings, which are checked. -/
def settings (o : Options) (env : Environment) : DeviceWork (Except SettingsError Settings) := do
  let base ← baseSettings o.configFile
  return do
    let s ← (← base).layer env o.overrides
    s.validate
    return s

/-- The name of the program in the directives of a filter. -/
def origin : String := "querylog_shipper"

/-- The variable of the environment whose filter goes before the level of the settings. -/
def filterVariable : String := "RUST_LOG"

/-- Which log lines are written. -/
def filter (env : Environment) (s : Settings) : LogFilter :=
  ((env.lookup filterVariable) >>= LogFilter.ofText?).getD
    (.ofText (Text.lower s.logging.level))

/-- The exit code of a program that aborts. -/
def abortCode : UInt32 := 101

/-- Write the first lines. -/
def announce (s : Settings) : DeviceWork Unit := do
  DeviceWork.log .info ("Logging initialized at level: " ++ s.logging.level) []
  for line in s.banner do
    DeviceWork.note (.log line)

/-- Take the address of the metrics; on failure there is a message. -/
def listen (m : MetricsSettings) : DeviceWork (Except String Unit) := do
  let address := m.listenAddress
  if ← DeviceWork.listen address then
    DeviceWork.log .info "Metrics endpoint listening" [("bind_address", .text address)]
    return .ok ()
  else return .error ("Failed to bind metrics endpoint on " ++ address)

/-- Wire the pipeline to devices; on failure there is a message. -/
def wiring (s : Settings) : DeviceWork (Except String Wiring) := do
  if !s.resolver.enabled then DeviceWork.note (.log Wiring.lookupDisabled)
  return (Wiring.ofSettings s).mapError Failure.message

/-- Run the job, for at most the given number of cycles; on failure there is a message. -/
def work (s : Settings) (w : Wiring) (rounds : Nat) : DeviceWork (Except String Unit) := do
  match (← w.wire (s.job.run rounds s.memory)).1 with
  | .failed e =>
    DeviceWork.log .error "Query log shipper terminated" [("error", .text e.message)]
    return .error e.message
  | .cancelled =>
    DeviceWork.log .info "Query log shipper stopped" []
    return .ok ()
  | .unfinished => return .ok ()

/-- Run the program with its settings, for at most the given number of cycles; on failure
there is a message. -/
def run (s : Settings) (rounds : Nat) : DeviceWork (Except String Unit) := do
  announce s
  match ← listen s.metrics with
  | .error message => return .error message
  | .ok () =>
    match ← wiring s with
    | .error message => return .error message
    | .ok w => work s w rounds

end Program

end LogCourier
