import LogCourier.Device
import LogCourier.Settings.Basic
import LogCourier.Stream.PushRequest

/-!
# The log store over HTTP

Streams are handed over as the JSON body of a request. Every status of success is an
acceptance, and of a refusal the beginning of its body is kept.
-/

namespace LogCourier

namespace SinkAdapter

/-- Where streams are handed over. -/
def endpoint (s : SinkSettings) : String :=
  Text.dropTrailing '/' s.url ++ "/loki/api/v1/push"

/-- The request that hands over streams, if the endpoint can have one. -/
def request? (s : SinkSettings) (r : PushRequest) : Option Http.Request := do
  let url ← Http.Url.parse? (endpoint s)
  return ⟨"POST", url, some "application/json", Utf8.bytes r.body, s.timeoutSecs⟩

/-- How many characters of a refusal are kept. -/
def detailLength : Nat := 512

/-- What is kept of the body of a refusal. -/
def detail : Except Http.Fault (List UInt8) → String
  | .ok bytes => Text.takeChars detailLength (Text.trim (Utf8.decodeLossy bytes))
  | .error _ => ""

/-- Whether the request that had this outcome was accepted. -/
def readOutcome (s : SinkSettings) : Http.Outcome → Except Failure Unit
  | .none f => .error (.sinkDelivery ("Push to " ++ endpoint s ++ " failed: " ++ f.detail))
  | .reply status body =>
    if Http.isSuccess status then .ok ()
    else .error (.sinkDelivery
      (endpoint s ++ " returned HTTP " ++ Decimal.text status ++ ": " ++ detail body))

/-- Send a request, if there is one. -/
def send (request : Option Http.Request) : DeviceWork Http.Outcome :=
  match request with
  | some r => DeviceWork.http r
  | none => return .none .noUrl

/-- Hand over streams. -/
def push (s : SinkSettings) (r : PushRequest) : DeviceWork (Except Failure Unit) := do
  let outcome ← send (request? s r)
  match readOutcome s outcome with
  | .error e => return .error e
  | .ok () =>
    DeviceWork.log .debug "Push accepted"
      [("streams", .nat r.streams.length), ("entries", .nat r.entryCount)]
    return .ok ()

end SinkAdapter

end LogCourier
