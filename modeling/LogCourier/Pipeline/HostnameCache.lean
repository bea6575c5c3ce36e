import LogCourier.Pipeline.Call

/-!
# Hostnames of clients

The name of a client is looked up once and remembered for ever, whatever the outcome: a
client without a name goes by its own text.
-/

namespace LogCourier

/-- The clients that were asked for, with their names, the latest first. -/
structure HostnameCache where
  names : List (String × String)
  deriving DecidableEq, Repr

namespace HostnameCache

/-- No client asked for yet. -/
def empty : HostnameCache := ⟨[]⟩

/-- The remembered name of a client. -/
def get? (c : HostnameCache) (client : String) : Option String :=
  c.names.lookup client

/-- The number of clients that were asked for. -/
def size (c : HostnameCache) : Nat :=
  c.names.length

/-- Whether no client was asked for. -/
def isEmpty (c : HostnameCache) : Bool :=
  c.names.isEmpty

/-- Remember the name of a client. -/
def insert (c : HostnameCache) (client name : String) : HostnameCache :=
  ⟨(client, name) :: c.names⟩

/-- The name of a client by the answer to a lookup: the dots at its end are dropped, and
the client itself stands in where nothing is left. -/
def nameOf (client : String) : Option String → String
  | none => client
  | some name =>
    let name := Text.dropTrailing '.' name
    if name.isEmpty then client else name

/-- Look up the name of a client. -/
def lookup (client : String) : Work String := do
  match IpAddress.parse? client with
  | none =>
    Work.log .debug "Client address is not an IP; skipping reverse lookup"
      [("client_ip", .text client)]
    return client
  | some ip =>
    match ← Work.lookup ip with
    | .ok name => return nameOf client name
    | .error e =>
      Work.log .debug "Reverse lookup failed; using address"
        [("client_ip", .text client), ("error", .text e.message)]
      return client

/-- The name of a client, remembered or looked up. -/
def hostname (c : HostnameCache) (client : String) : Work (String × HostnameCache) := do
  match c.get? client with
  | some name => return (name, c)
  | none =>
    let name ← lookup client
    let c := c.insert client name
    Work.record (.hostnameCacheSize c.size)
    return (name, c)

end HostnameCache

end LogCourier
