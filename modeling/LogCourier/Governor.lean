import LogCourier.Failure

/-!
# The failure governor

A circuit breaker over the fetches from the source. Every failure counts, but only a
refusal of the credentials opens the circuit, once the count has reached the threshold;
an open circuit stays open.
-/

namespace LogCourier

/-- What follows from a failed fetch, with the number of failures in a row. -/
inductive Verdict
  | retry (failures : UInt32)
  | trip (failures : UInt32)
  deriving DecidableEq, Repr

/-- The failures in a row that a verdict reports. -/
def Verdict.failures : Verdict → UInt32
  | retry n | trip n => n

/-- The state of the connection to the source. -/
inductive Health
  | healthy
  | degraded (failures : UInt32)
  | terminated
  deriving DecidableEq, Repr

/-- A circuit breaker: after how many failures in a row a refusal of the credentials opens
the circuit, how many there are now, the time of the last success in milliseconds, and
whether the circuit is open. -/
structure Governor where
  threshold : UInt32
  failures : UInt32
  lastSuccess : Option Nat
  terminated : Bool
  deriving DecidableEq, Repr

namespace Governor

/-- The usual threshold. -/
def defaultThreshold : UInt32 := 3

/-- A closed circuit; the threshold is at least 1. -/
def new (threshold : UInt32) : Governor :=
  ⟨max threshold 1, 0, none, false⟩

/-- Count a successful fetch at the given time. -/
def success (g : Governor) (time : Nat) : Governor :=
  { g with failures := 0, lastSuccess := some time }

/-- The count after one more failure, at most the largest word. -/
def countAfter (n : UInt32) : UInt32 :=
  if n = 0xffffffff then n else n + 1

/-- Count a failed fetch. The count kept wraps around at 2³², the one reported stops at
the largest word. -/
def failure (g : Governor) (e : SourceError) : Verdict × Governor :=
  let count := countAfter g.failures
  let kept := { g with failures := g.failures + 1 }
  if g.terminated || (e.isAuthentication && g.threshold ≤ count) then
    (.trip count, { kept with terminated := true })
  else (.retry count, kept)

/-- The state of the connection. -/
def health (g : Governor) : Health :=
  if g.terminated then .terminated
  else if g.failures = 0 then .healthy
  else .degraded g.failures

end Governor

end LogCourier
