import LogCourier.Text.Case
import LogCourier.Text.Decimal
import LogCourier.QueryLog.Timestamp

/-!
# Failures

What can go wrong between the source, the sink, the name server and the file of the
cursor. A failed fetch has a `SourceError`, which says whether the credentials are at
fault; everything else is a `Failure` of its own. Only an open circuit is fatal.
-/

namespace LogCourier

/-- What a failed fetch is put down to. -/
inductive SourceError.Kind
  | authentication
  | timeout
  | network
  | other
  deriving DecidableEq, Repr

/-- The name of a kind in metrics and log fields. -/
def SourceError.Kind.label : SourceError.Kind → String
  | authentication => "auth"
  | timeout => "timeout"
  | network => "network"
  | other => "other"

/-- A failed fetch: what it is put down to, and the detail. -/
structure SourceError where
  kind : SourceError.Kind
  detail : String
  deriving DecidableEq, Repr

namespace SourceError

/-- Whether the credentials were refused. -/
def isAuthentication (e : SourceError) : Bool :=
  e.kind = .authentication

/-- The wording of a failed fetch. -/
def message (e : SourceError) : String :=
  match e.kind with
  | .authentication => "Authentication rejected by query log source: " ++ e.detail
  | .timeout => "Query log source timed out: " ++ e.detail
  | .network => "Network error reaching query log source: " ++ e.detail
  | .other => "Query log source error: " ++ e.detail

/-- The parts of a refusal that point at the credentials. -/
def credentialMarks : List String :=
  ["token", "session expired", "invalid"]

/-- Whether a list occurs in another one as a run of neighbours. -/
def occursIn {α : Type} [DecidableEq α] (part : List α) : List α → Bool
  | [] => part.isEmpty
  | a :: as => part.isPrefixOf (a :: as) || occursIn part as

/-- The error for a refusal that is known by its text only: the credentials are at fault
if the text, in lower case, has one of the marks in it. -/
def ofMessage (text : String) : SourceError :=
  let lowered := (Text.lower text).toList
  if credentialMarks.any fun mark => occursIn mark.toList lowered then ⟨.authentication, text⟩
  else ⟨.other, text⟩

end SourceError

/-- Why a part of the work was not done. -/
inductive Failure
  | source (error : SourceError)
  /-- The source is not asked any more after this many failures in a row. -/
  | circuitOpen (failures : UInt32)
  | sinkDelivery (detail : String)
  | invalidTimestamp (detail : String)
  | invalidIpAddress (detail : String)
  | invalidDomainName (detail : String)
  | invalidResponse (detail : String)
  | encoding (detail : String)
  | io (detail : String)
  | queryTimeout
  deriving DecidableEq, Repr

namespace Failure

/-- The wording of a failure. -/
def message : Failure → String
  | source e => e.message
  | circuitOpen n =>
    Decimal.text n.toNat
      ++ " consecutive authentication failures - check credential configuration"
  | sinkDelivery d => "Sink delivery failed: " ++ d
  | invalidTimestamp d => "Invalid timestamp: " ++ d
  | invalidIpAddress d => "Invalid IP address: " ++ d
  | invalidDomainName d => "Invalid domain name: " ++ d
  | invalidResponse d => "Invalid response: " ++ d
  | encoding d => "Encoding error: " ++ d
  | io d => "I/O error: " ++ d
  | queryTimeout => "Query timeout"

/-- Whether the work has to end instead of being tried again. -/
def isFatal : Failure → Bool
  | circuitOpen _ => true
  | _ => false

end Failure

/-- The failure of an entry without a readable time. -/
def Timestamp.Malformed.failure (m : Timestamp.Malformed) : Failure :=
  .invalidTimestamp m.message

end LogCourier
