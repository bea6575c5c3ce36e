import LogCourier.Device
import LogCourier.Dns.Query
import LogCourier.Settings.Basic

/-!
# Names from a name server

The name of an address is asked of one name server, in one datagram. Only a datagram from
that server with the identifier of the question is believed.
-/

namespace LogCourier

/-- A name server, and how long it is waited for. -/
structure Resolver where
  server : SocketAddress
  timeoutMs : UInt64
  deriving DecidableEq, Repr

namespace Resolver

/-- The name server of the settings. -/
def ofSettings (s : ResolverSettings) : Except Failure Resolver :=
  match SocketAddress.parse? s.dnsServer with
  | some server => .ok ⟨server, s.timeoutMs⟩
  | none => .error (.invalidIpAddress
      ("Invalid DNS server '" ++ s.dnsServer ++ "': invalid socket address syntax"))

/-- The longest datagram that is read. -/
def longestReply : Nat := 4096

/-- The wording of a failed step of an exchange with a name server. -/
def complaint (server : String) : DatagramStep → String
  | .bind => "Failed to bind UDP socket"
  | .send => "Failed to send UDP query to " ++ server
  | .receive => "Failed to receive UDP response from " ++ server

/-- Send a question and wait for its reply. -/
def exchange (r : Resolver) (question : List UInt8) :
  DeviceWork (Except Failure (List UInt8)) := do
  let server := r.server.text
  match ← DeviceWork.datagram r.server question r.timeoutMs with
  | .silence => return .error .queryTimeout
  | .failed step reason => return .error (.io (complaint server step ++ ": " ++ reason))
  | .reply sender bytes =>
    if sender ≠ r.server then
      DeviceWork.log .warn "Discarding UDP response from unexpected source"
        [("expected", .text server), ("received_from", .text sender.text)]
      return .error (.invalidResponse
        ("response came from " ++ sender.text ++ " instead of " ++ server))
    let bytes := bytes.take longestReply
    DeviceWork.log .debug "UDP response received"
      [("server", .text server), ("bytes_received", .nat bytes.length)]
    return .ok bytes

/-- Note what a reply says. -/
def noteReply (ip : IpAddress) (reply : Dns.Reply) : DeviceWork Unit := do
  if let .refused code := reply then
    DeviceWork.log .debug "PTR lookup returned no answer" [("rcode", .text code.text)]
  match reply.name? with
  | some name =>
    DeviceWork.log .debug "PTR lookup successful" [("ip", .text ip.text), ("hostname", .text name)]
  | none => DeviceWork.log .debug "PTR lookup returned no records" [("ip", .text ip.text)]

/-- The name of an address. -/
def lookup (r : Resolver) (ip : IpAddress) : DeviceWork (Except Failure (Option String)) := do
  let id ← DeviceWork.chance
  DeviceWork.log .debug "Performing PTR lookup"
    [("ip", .text ip.text), ("server", .text r.server.text)]
  match ← r.exchange (Dns.query id ip) with
  | .error e => return .error e
  | .ok bytes =>
    match Dns.readReply id bytes with
    | .error fault => return .error (.invalidResponse fault.message)
    | .ok reply =>
      noteReply ip reply
      return .ok reply.name?

end Resolver

end LogCourier
