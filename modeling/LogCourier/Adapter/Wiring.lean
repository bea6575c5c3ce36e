import LogCourier.Adapter.CursorFile
import LogCourier.Adapter.Resolver
import LogCourier.Adapter.Sink
import LogCourier.Adapter.Source
import LogCourier.Job

/-!
# Wiring

The calls of the pipeline answered by work on devices, as the settings say.
-/

namespace LogCourier

/-- What the calls of the pipeline lead to. Without a name server no address has a name. -/
structure Wiring where
  source : SourceSettings
  sink : SinkSettings
  stateFile : String
  resolver : Option Resolver

namespace Wiring

/-- The line that tells that clients are not looked up. -/
def lookupDisabled : LogLine :=
  ⟨.info, "Hostname lookup disabled; client addresses used as hostnames", []⟩

/-- The wiring that settings ask for. -/
def ofSettings (s : Settings) : Except Failure Wiring := do
  let resolver ← if s.resolver.enabled then (Resolver.ofSettings s.resolver).map some else .ok none
  return ⟨s.source, s.sink, s.shipper.stateFile, resolver⟩

/-- Wait for the next cycle, and tell of a signal that asks for the end. -/
def pause : DeviceWork Bool := do
  match ← DeviceWork.pause with
  | none => return false
  | some s =>
    DeviceWork.log .info "Signal received; finishing current cycle" [("signal", .text s.name)]
    return true

/-- Answer a call of the pipeline by work on devices. -/
def answer (w : Wiring) : (c : Call) → DeviceWork c.Answer
  | .fetch r => SourceAdapter.fetch w.source r
  | .push r => SinkAdapter.push w.sink r
  | .lookup ip =>
    match w.resolver with
    | some r => r.lookup ip
    | none => return .ok none
  | .load => CursorFile.load w.stateFile
  | .store c => CursorFile.store w.stateFile c
  | .clock => .question Device.clock
  | .note n => .question (Device.note n)
  | .pause => pause

/-- Carry out a part of the pipeline's work on devices. -/
def wire {α : Type} (w : Wiring) (d : Work α) : DeviceWork α :=
  d.relay w.answer

end Wiring

namespace Settings

/-- The pipeline that settings ask for. -/
def pipeline (s : Settings) : Pipeline :=
  ⟨.new s.source.pageSize s.source.maxPagesPerCycle s.sink.subBatchSize, s.sink.jobLabel⟩

/-- The memory of that pipeline before the first cycle. -/
def memory (s : Settings) : Memory :=
  .new s.shipper.maxConsecutiveFailures

/-- The job that settings ask for. -/
def job (s : Settings) : Job :=
  ⟨s.pipeline, 1000 * s.shipper.pollIntervalSecs.toNat⟩

end Settings

end LogCourier
