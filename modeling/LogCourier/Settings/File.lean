import LogCourier.Settings.Basic
import LogCourier.Text.Quoted
import LogCourier.Text.Utf8
import LogCourier.Toml.Document

/-!
# Settings from a file

A TOML document read as settings. Each section is a table of named fields, or an array of
their values in order; what is missing keeps its default, and names that are not known are
skipped.
-/

namespace LogCourier

namespace SettingsFile

/-- How a value is named where another one is expected. -/
def nameOf : Toml.Value → String
  | .text s => "string " ++ Text.quoted s
  | .integer z => "integer \x60" ++ toString z ++ "\x60"
  | .float text => "floating point \x60" ++ text ++ "\x60"
  | .boolean b => "boolean \x60" ++ (if b then "true" else "false") ++ "\x60"
  | .array _ | .tables _ => "sequence"
  | .moment | .table .. => "map"

/-- The fault of a value that stands where another kind of value is expected. -/
def mismatch {α : Type} (expected : String) (p : Toml.Span) (v : Toml.Value) :
  Except Toml.Fault α :=
  .error ⟨p, .mismatch (nameOf v) expected⟩

/-- A field of a record: its name, and how its value, which stands at a place, changes the
record. -/
structure Field (α : Type) where
  name : String
  read : Toml.Span → Toml.Value → Except Toml.Fault (α → α)

/-- A field that holds a text. -/
def Field.text {α : Type} (name : String) (set : String → α → α) : Field α where
  name
  read p
    | .text s => .ok (set s)
    | v => mismatch "a string" p v

/-- A range of numbers from zero on, with its name. -/
structure Range where
  name : String
  limit : Nat

/-- The numbers of sixteen bits. -/
def bits16 : Range := ⟨"u16", UInt16.size⟩

/-- The numbers of thirty-two bits. -/
def bits32 : Range := ⟨"u32", UInt32.size⟩

/-- The numbers of sixty-four bits. -/
def bits64 : Range := ⟨"u64", UInt64.size⟩

/-- The sizes of lists. -/
def sizes : Range := ⟨"usize", UInt64.size⟩

/-- A field that holds a number of a range. -/
def Field.within {α : Type} (name : String) (range : Range) (set : Nat → α → α) : Field α where
  name
  read p
    | .integer z =>
      if 0 ≤ z ∧ z < range.limit then .ok (set z.toNat)
      else .error ⟨p, .outOfRange (nameOf (.integer z)) range.name⟩
    | v => mismatch range.name p v

/-- A field that holds a truth value. -/
def Field.boolean {α : Type} (name : String) (set : Bool → α → α) : Field α where
  name
  read p
    | .boolean b => .ok (set b)
    | v => mismatch "a boolean" p v

/-- The fault of a skipped value, of which only the integers are looked at: they have at
most 128 bits. -/
def skipFault? (p : Toml.Span) : Toml.Value → Option Toml.Fault
  | .integer z =>
    if -0x80000000000000000000000000000000 ≤ z ∧ z < 0x100000000000000000000000000000000 then none
    else some ⟨p, .tooLarge⟩
  | .array vs => vs.attach.findSome? fun ⟨(q, v), _⟩ => skipFault? q v
  | .tables ts => ts.attach.findSome? fun ⟨(_, t), _⟩ =>
    t.attach.findSome? fun ⟨(_, q, v), _⟩ => skipFault? q v
  | .table _ es => es.attach.findSome? fun ⟨(_, q, v), _⟩ => skipFault? q v
  | .text _ | .float _ | .boolean _ | .moment => none
termination_by v => sizeOf v
decreasing_by
  all_goals simp_wf
  · have := List.sizeOf_lt_of_mem ‹_›; simp at this; omega
  · rename_i h₁ _ h₂
    have := List.sizeOf_lt_of_mem h₁
    have := List.sizeOf_lt_of_mem h₂
    simp at *; omega
  · have := List.sizeOf_lt_of_mem ‹_›; simp at this; omega

/-- Put the entries of a table into a record. -/
def readEntries {α : Type} (fields : List (Field α)) (a : α) :
  Toml.Entries → Except Toml.Fault α
  | [] => .ok a
  | (key, p, v) :: es =>
    match fields.find? (·.name = key) with
    | some f => do readEntries fields ((← f.read p v) a) es
    | none => match skipFault? p v with
      | some fault => .error fault
      | none => readEntries fields a es

/-- Put the entries of a table into a record, in the order of their names. -/
def readTable {α : Type} (fields : List (Field α)) (a : α) (es : Toml.Entries) :
  Except Toml.Fault α :=
  readEntries fields a (es.mergeSort fun e e' => e.1 ≤ e'.1)

/-- Put values into the fields of a record in order. -/
def readItems {α : Type} (a : α) :
  List (Field α) → List (Toml.Span × Toml.Value) → Except Toml.Fault α
  | f :: fields, (p, v) :: vs => do readItems ((← f.read p v) a) fields vs
  | _, _ => .ok a

/-- A section of the settings, read over its defaults; `kind` names what is expected. -/
def Field.section {α β : Type} (name kind : String) (fields : List (Field β)) (empty : β)
  (set : β → α → α) : Field α where
  name
  read p v := do
    let b ← match v with
      | .table _ es => readTable fields empty es
      | .array vs => readItems empty fields vs
      | .tables ts => readItems empty fields (ts.reverse.map fun (q, t) => (q, .table .headed t))
      | v => mismatch ("struct " ++ kind) p v
    return set b

/-- The fields of the source. -/
def sourceFields : List (Field SourceSettings) := [
  .text "url" fun v s => { s with url := v },
  .text "token" fun v s => { s with token := v },
  .text "app_name" fun v s => { s with appName := v },
  .text "class_path" fun v s => { s with classPath := v },
  .within "page_size" bits32 fun v s => { s with pageSize := .ofNat v },
  .within "max_pages_per_cycle" bits32 fun v s => { s with maxPagesPerCycle := .ofNat v },
  .within "timeout_secs" bits64 fun v s => { s with timeoutSecs := .ofNat v }]

/-- The fields of the log store. -/
def sinkFields : List (Field SinkSettings) := [
  .text "url" fun v s => { s with url := v },
  .within "sub_batch_size" sizes fun v s => { s with subBatchSize := .ofNat v },
  .text "job_label" fun v s => { s with jobLabel := v },
  .within "timeout_secs" bits64 fun v s => { s with timeoutSecs := .ofNat v }]

/-- The fields of the rhythm of the work. -/
def shipperFields : List (Field ShipperSettings) := [
  .within "poll_interval_secs" bits64 fun v s => { s with pollIntervalSecs := .ofNat v },
  .text "state_file" fun v s => { s with stateFile := v },
  .within "max_consecutive_failures" bits32 fun v s =>
    { s with maxConsecutiveFailures := .ofNat v }]

/-- The fields of the exposition of metrics. -/
def metricsFields : List (Field MetricsSettings) := [
  .text "bind_address" fun v s => { s with bindAddress := v },
  .within "port" bits16 fun v s => { s with port := .ofNat v }]

/-- The fields of the lookup of client names. -/
def resolverFields : List (Field ResolverSettings) := [
  .boolean "enabled" fun v s => { s with enabled := v },
  .text "dns_server" fun v s => { s with dnsServer := v },
  .within "timeout_ms" bits64 fun v s => { s with timeoutMs := .ofNat v }]

/-- The fields of what is written about the work. -/
def loggingFields : List (Field LoggingSettings) := [
  .text "level" fun v s => { s with level := v },
  .text "format" fun v s => { s with format := v }]

/-- The sections of the settings. -/
def sections : List (Field Settings) := [
  .section "source" "SourceConfig" sourceFields {} fun v s => { s with source := v },
  .section "sink" "SinkConfig" sinkFields {} fun v s => { s with sink := v },
  .section "shipper" "ShipperConfig" shipperFields {} fun v s => { s with shipper := v },
  .section "metrics" "MetricsConfig" metricsFields {} fun v s => { s with metrics := v },
  .section "resolver" "ResolverConfig" resolverFields {} fun v s => { s with resolver := v },
  .section "logging" "LoggingConfig" loggingFields {} fun v s => { s with logging := v }]

end SettingsFile

namespace Settings

/-- The settings of a TOML document. -/
def ofToml (document : String) : Except SettingsError Settings :=
  match Toml.read document >>= SettingsFile.readTable SettingsFile.sections {} with
  | .ok s => .ok s
  | .error fault => .error (.parse (fault.text document))

/-- The settings of a file that was read as bytes. -/
def ofFile (path : String) (content : Except String (List UInt8)) : Except SettingsError Settings :=
  match content with
  | .error reason => .error (.fileRead path reason)
  | .ok bytes =>
    match Utf8.decode? bytes with
    | some document => ofToml document
    | none => .error (.fileRead path "stream did not contain valid UTF-8")

end Settings

end LogCourier
