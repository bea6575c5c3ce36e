import LogCourier.Device
import LogCourier.QueryLog.Page
import LogCourier.Settings.Basic

/-!
# The source over HTTP

A page of the log is asked for with a form in the query of the request, which holds the
credential, the names of the log and the page. The reply is an envelope with a status: a
page if all is well, or a message. Only a refusal in an envelope can blame the credential.
-/

namespace LogCourier

/-- The envelope around a page. -/
structure Envelope where
  status : String
  errorMessage : Option String
  response : Option QueryLogPage
  deriving DecidableEq, Repr

namespace Envelope

/-- The record of an envelope. -/
def shape : Json.Shape where
  title := "struct ApiEnvelope"
  names := ["status", "errorMessage", "response"]
  needed := 1

/-- What is wanted of an envelope. -/
def want : Json.Want :=
  .record shape [.text, .optional .text, .optional QueryLogPage.want]

/-- Read an envelope from a record. -/
def ofJson (v : Json) : Except Json.Misfit Envelope := do
  match ← Json.fields shape v with
  | [status, errorMessage, response] => do
    return {
      status := ← Json.required "status" Json.string status
      errorMessage := ← Json.optional Json.string errorMessage
      response := ← Json.optional QueryLogPage.ofJson response }
  | fields => throw (.wrongLength fields.length shape.sized)

/-- The page of an envelope, or what it refuses. -/
def page (e : Envelope) : Except SourceError QueryLogPage :=
  if e.status = "ok" then .ok (e.response.getD .empty)
  else
    let message := e.errorMessage.getD ("status '" ++ e.status ++ "'")
    if e.status = "invalid-token" then .error ⟨.authentication, message⟩
    else .error (.ofMessage message)

end Envelope

namespace SourceAdapter

/-- Where pages are asked for. -/
def endpoint (s : SourceSettings) : String :=
  Text.dropTrailing '/' s.url ++ "/api/logs/query"

/-- The form of a request. -/
def parameters (s : SourceSettings) (r : PageRequest) : List (String × String) := [
  ("token", s.token),
  ("name", s.appName),
  ("classPath", s.classPath),
  ("pageNumber", Decimal.text r.page.toNat),
  ("entriesPerPage", Decimal.text r.size.toNat)]

/-- The request for a page, if the endpoint can be one. -/
def request? (s : SourceSettings) (r : PageRequest) : Option Http.Request := do
  let url ← Http.Url.parse? (endpoint s)
  return ⟨"GET", url.addQuery (parameters s r), none, [], s.timeoutSecs⟩

/-- The error for the absence of a reply or of its body. -/
def errorOf (f : Http.Fault) : SourceError :=
  match f.kind with
  | .timeout => ⟨.timeout, f.detail⟩
  | .connect => ⟨.network, f.detail⟩
  | .other => ⟨.other, f.detail⟩

/-- The page that comes of a request. -/
def readOutcome : Http.Outcome → Except SourceError QueryLogPage
  | .none f => .error (errorOf f)
  | .reply status body =>
    if !Http.isSuccess status then
      .error ⟨.other, "HTTP " ++ Decimal.text status ++ ": " ++ Http.reason status⟩
    else match body with
      | .error f => .error (errorOf f)
      | .ok bytes =>
        match Json.decode Envelope.ofJson bytes with
        | .error _ =>
          .error ⟨.other, "Undecodable API response: " ++ Envelope.want.complaint bytes⟩
        | .ok envelope => envelope.page

/-- Send a request, if there is one. -/
def send (request : Option Http.Request) : DeviceWork Http.Outcome :=
  match request with
  | some r => DeviceWork.http r
  | none => return .none .noUrl

/-- Fetch a page. -/
def fetch (s : SourceSettings) (r : PageRequest) :
  DeviceWork (Except SourceError QueryLogPage) := do
  let outcome ← send (request? s r)
  match readOutcome outcome with
  | .error e => return .error e
  | .ok page =>
    DeviceWork.log .debug "Query log API page received"
      [("page_number", .nat r.page.toNat), ("entries_per_page", .nat r.size.toNat),
        ("entries", .nat page.entries.length)]
    return .ok page

end SourceAdapter

end LogCourier
