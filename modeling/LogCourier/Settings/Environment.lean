import LogCourier.Settings.Basic

/-!
# Settings from the environment and the command line

Variables of the environment change settings: first eight that hold texts, then six that
are read as numbers or truth values. The first of the six that cannot be read ends the
changes, and those made before stay. Options of the command line come last and always win.
-/

namespace LogCourier

/-- The variables of an environment with their values. -/
abbrev Environment := List (String × String)

namespace Environment

/-- The variables that hold texts, with what they change. -/
def textVariables : List (String × (String → Settings → Settings)) := [
  ("TECHNITIUM_URL", fun v s => { s with source.url := v }),
  ("TECHNITIUM_TOKEN", fun v s => { s with source.token := v }),
  ("LOKI_URL", fun v s => { s with sink.url := v }),
  ("STATE_FILE", fun v s => { s with shipper.stateFile := v }),
  ("METRICS_BIND", fun v s => { s with metrics.bindAddress := v }),
  ("LOG_LEVEL", fun v s => { s with logging.level := v }),
  ("LOG_FORMAT", fun v s => { s with logging.format := v }),
  ("HOSTNAME_DNS_SERVER", fun v s => { s with resolver.dnsServer := v })]

/-- Read a number below a limit; blank characters around it are ignored. -/
def number (limit : Nat) (set : Nat → Settings → Settings) (value : String) :
  Except String (Settings → Settings) :=
  match Decimal.readBelow limit (Text.trimChars value.toList) with
  | .ok n => .ok (set n)
  | .error fault => .error fault.message

/-- The words for truth and falsehood. -/
def truthWords : List (String × Bool) := [
  ("1", true), ("true", true), ("yes", true), ("on", true),
  ("0", false), ("false", false), ("no", false), ("off", false)]

/-- Read a truth value; blank characters around it and the case of letters are ignored. -/
def truth (set : Bool → Settings → Settings) (value : String) :
  Except String (Settings → Settings) :=
  match truthWords.lookup (Text.lowerAscii (Text.trim value)) with
  | some b => .ok (set b)
  | none => .error "expected a boolean"

/-- The variables that are read, with how and what they change. -/
def readVariables : List (String × (String → Except String (Settings → Settings))) := [
  ("POLL_INTERVAL", number UInt64.size fun v s => { s with shipper.pollIntervalSecs := .ofNat v }),
  ("BATCH_SIZE", number UInt32.size fun v s => { s with source.pageSize := .ofNat v }),
  ("MAX_PAGES_PER_CYCLE",
    number UInt32.size fun v s => { s with source.maxPagesPerCycle := .ofNat v }),
  ("SUB_BATCH_SIZE", number UInt64.size fun v s => { s with sink.subBatchSize := .ofNat v }),
  ("METRICS_PORT", number UInt16.size fun v s => { s with metrics.port := .ofNat v }),
  ("HOSTNAME_LOOKUP", truth fun v s => { s with resolver.enabled := v })]

end Environment

namespace Settings

/-- Change settings by the variables that hold texts. -/
def applyTexts (env : Environment) (s : Settings) : Settings :=
  Environment.textVariables.foldl (fun s (name, set) =>
    match env.lookup name with
    | some value => set value s
    | none => s) s

/-- Change settings by variables that are read, up to the first that cannot be. -/
def applyRead (env : Environment) :
  List (String × (String → Except String (Settings → Settings))) → Settings →
  Settings × Except SettingsError Unit
  | [], s => (s, .ok ())
  | (name, read) :: rest, s =>
    match env.lookup name with
    | none => applyRead env rest s
    | some value =>
      match read value with
      | .ok change => applyRead env rest (change s)
      | .error reason => (s, .error (.invalidVariable name value reason))

/-- Change settings by the variables of an environment. -/
def applyEnvironment (env : Environment) (s : Settings) : Settings × Except SettingsError Unit :=
  applyRead env Environment.readVariables (applyTexts env s)

end Settings

/-- The settings given on the command line. -/
structure Overrides where
  stateFile : Option String := none
  pollIntervalSecs : Option UInt64 := none
  metricsPort : Option UInt16 := none
  logLevel : Option String := none
  deriving DecidableEq, Repr

namespace Settings

/-- Change settings by the command line. -/
def applyOverrides (o : Overrides) (s : Settings) : Settings :=
  { s with
    shipper.stateFile := o.stateFile.getD s.shipper.stateFile
    shipper.pollIntervalSecs := o.pollIntervalSecs.getD s.shipper.pollIntervalSecs
    metrics.port := o.metricsPort.getD s.metrics.port
    logging.level := o.logLevel.getD s.logging.level }

/-- The settings of a base, an environment and a command line. -/
def layer (base : Settings) (env : Environment) (o : Overrides) : Except SettingsError Settings :=
  match base.applyEnvironment env with
  | (s, .ok ()) => .ok (s.applyOverrides o)
  | (_, .error e) => .error e

end Settings

end LogCourier
