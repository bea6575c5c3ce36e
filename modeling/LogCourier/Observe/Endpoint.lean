import LogCourier.Observe.Exposition

/-!
# The metrics endpoint

The program answers two requests over HTTP: `/metrics` with the text of all metrics, and
`/health` with a word that tells that it is alive.
-/

namespace LogCourier

namespace Endpoint

/-- What the endpoint replies: a status and a text. -/
structure Reply where
  status : Nat
  body : String
  deriving DecidableEq, Repr

/-- The path of a target: what stands before the query. -/
def path (target : String) : String :=
  String.ofList (target.toList.takeWhile (· ≠ '?'))

/-- The reply to a request for a target. -/
def reply (metrics : Registry) (target : String) : Reply :=
  match path target with
  | "/metrics" => ⟨200, Exposition.render metrics⟩
  | "/health" => ⟨200, "ok\n"⟩
  | _ => ⟨404, ""⟩

end Endpoint

end LogCourier
