import LogCourier.Http.Wire
import LogCourier.Observe.Endpoint
import LogCourier.Observe.LogText
import LogCourier.Program
import LogCourier.Storage.FileTree
import Std.Async.DNS
import Std.Async.Signal
import Std.Async.TCP
import Std.Async.Timer
import Std.Async.UDP

/-!
# The host

The devices of the program on a real host: its network, its files, its clock, its standard
output and the signals that are sent to the program. Everything that is decided is decided
elsewhere; here questions are only carried out.
-/

namespace LogCourier

open Std.Async

/-- The state of the host while the program runs. -/
structure Host where
  filter : LogFilter
  isJson : Bool
  /-- The milliseconds of a pause. -/
  interval : Nat
  metrics : IO.Ref Registry
  signal : IO.Ref (Option Signal)

namespace Host

/-! ### Files -/

/-- The number that the system gives to an error. -/
def errorCode : IO.Error → Nat
  | .alreadyExists _ c _ | .otherError c _ | .resourceBusy c _ | .resourceVanished c _
  | .unsupportedOperation c _ | .hardwareFault c _ | .unsatisfiedConstraints c _
  | .illegalOperation c _ | .protocolError c _ | .timeExpired c _ | .interrupted _ c _
  | .noFileOrDirectory _ c _ | .invalidArgument _ c _ | .permissionDenied _ c _
  | .resourceExhausted _ c _ | .inappropriateType _ c _ | .noSuchThing _ c _ => c.toNat
  | .unexpectedEof | .userError _ => 0

/-- The numbers of the faults of files that have one. -/
def faultCodes : List (Nat × FileFault) := [
  (2, .notFound), (16, .busy), (17, .exists_), (20, .notDirectory), (21, .isDirectory),
  (36, .nameTooLong)]

/-- An error of the system as devices report it; its number may come with a minus sign. -/
def fileError (e : IO.Error) : FileError :=
  let code := errorCode e
  match faultCodes.lookup (if code < 0x80000000 then code else UInt32.size - code) with
  | some f => ⟨f = .notFound, f.message⟩
  | none => ⟨false, e.toString⟩

/-- Carry out an operation on files. -/
def attempt {α : Type} (operation : IO α) : IO (Except FileError α) := do
  try
    return .ok (← operation)
  catch e => return .error (fileError e)

/-! ### Addresses -/

/-- An address as the network library has it. -/
def netAddress (ip : IpAddress) (port : UInt16) : Std.Net.SocketAddress :=
  match ip with
  | .v4 a b c d => .v4 ⟨.ofParts a b c d, port⟩
  | .v6 groups => .v6 ⟨⟨groups⟩, port⟩

/-- The address of a host with a port. -/
def withPort (port : UInt16) : Std.Net.IPAddr → Std.Net.SocketAddress
  | .v4 a => .v4 ⟨a, port⟩
  | .v6 a => .v6 ⟨a, port⟩

/-- An address of the network library. -/
def socketAddress : Std.Net.SocketAddress → SocketAddress
  | .v4 a =>
    let o := a.addr.octets
    ⟨.v4 o[0] o[1] o[2] o[3], 0, a.port⟩
  | .v6 a => ⟨.v6 a.addr.segments, 0, a.port⟩

/-- The first address that the name of a host leads to. -/
def resolve (host : String) (port : UInt16) : Async Std.Net.SocketAddress := do
  let host := host.toList.filter fun c => c ≠ '[' ∧ c ≠ ']'
  match IpAddress.parse? (String.ofList host) with
  | some ip => return netAddress ip port
  | none =>
    match (← DNS.getAddrInfo (String.ofList host) "").toList with
    | a :: _ => return withPort port a
    | [] => throw (.userError "no address")

/-- The result of work, unless it takes longer than a number of milliseconds. -/
def within {α : Type} (ms : Nat) (work : Async α) : IO (Option α) :=
  let late : Async (Option α) := do
    Std.Async.sleep (.ofNat (min ms 0x10000000000))
    return none
  (Async.race (some <$> work) late).block

/-! ### Web servers -/

/-- Collect a reply until it is complete or the connection ends. -/
partial def collect (client : TCP.Socket.Client) (got : ByteArray) :
    Async (Option Http.Arrival) := do
  match ← client.recv? 65536 with
  | none => return Http.arrived? 8 got.toList
  | some more =>
    let got := got ++ more
    let arrival := Http.arrived? 8 got.toList
    if arrival.any (·.isComplete) then return arrival else collect client got

/-- Send a request over a new connection and wait for the reply. -/
def exchange (r : Http.Request) : Async Http.Outcome := do
  let port := r.url.port.getD 80
  let connected : Except IO.Error TCP.Socket.Client ← try
      let client ← TCP.Socket.Client.mk
      client.connect (← resolve r.url.host port)
      pure (Except.ok client)
    catch e => pure (Except.error e)
  match connected with
  | .error _ => return .none (.unsent .connect r.url)
  | .ok client =>
    try
      client.send r.bytes.toByteArray
      return Http.Arrival.outcome r.url (← collect client .empty)
    catch _ => return .none (.unsent .other r.url)

/-- Send a request to a web server; encrypted connections are not to be had. -/
def http (r : Http.Request) : IO Http.Outcome := do
  if r.url.secure then return .none (.unsent .connect r.url)
  return (← within (1000 * r.timeoutSecs.toNat) (exchange r)).getD (.none (.unsent .timeout r.url))

/-! ### Name servers -/

/-- Any address of the family of another one. -/
def anyAddress (ip : IpAddress) : Std.Net.SocketAddress :=
  match ip with
  | .v4 .. => netAddress (.v4 0 0 0 0) 0
  | .v6 _ => netAddress (.v6 (Vector.replicate 8 0)) 0

/-- Carry out a step of an exchange of datagrams, and go on with its result. -/
def during {α : Type} (step : DatagramStep) (operation : IO α)
  (next : α → IO DatagramOutcome) : IO DatagramOutcome := do
  match ← operation.toBaseIO with
  | .ok a => next a
  | .error e => return .failed step e.toString

/-- A socket for datagrams on any port of this host. -/
def bindFor (server : SocketAddress) : IO UDP.Socket := do
  let socket ← UDP.Socket.mk
  socket.bind (anyAddress server.ip)
  return socket

/-- Send a datagram and wait for one. -/
def datagram (server : SocketAddress) (bytes : List UInt8) (timeoutMs : UInt64) :
  IO DatagramOutcome := do
  let target := netAddress server.ip server.port
  during .bind (bindFor server) fun socket => do
    during .send (within timeoutMs.toNat (socket.send bytes.toByteArray (some target))) fun
      | none => return .silence
      | some () => do
        during .receive (within timeoutMs.toNat (socket.recv 65536)) fun
          | none => return .silence
          | some (reply, sender) => do
            let sender := (sender.map socketAddress).getD server
            let isServer := sender.ip = server.ip ∧ sender.port = server.port
            return .reply (if isServer then server else sender) reply.toList

/-! ### The metrics endpoint -/

/-- Reply to one request for the metrics. -/
def serveClient (h : Host) (client : TCP.Socket.Client) : Async Unit := do
  match ← client.recv? 65536 with
  | none => return
  | some bytes =>
    match Http.requestLine? bytes.toList with
    | none => client.send (Http.replyBytes 400 true "").toByteArray
    | some (method, target) =>
      let reply := Endpoint.reply (← h.metrics.get) target
      let isKnown := method = "GET" ∨ method = "HEAD"
      let status := if isKnown ∨ reply.status ≠ 200 then reply.status else 405
      client.send (Http.replyBytes status (method = "GET") reply.body).toByteArray
    client.shutdown

/-- Reply to requests for the metrics, one after the other. -/
partial def serve (h : Host) (server : TCP.Socket.Server) : Async Unit := do
  let client ← server.accept
  try serveClient h client catch _ => pure ()
  serve h server

/-- The host and the port of an address. -/
def splitAddress (address : String) : String × UInt16 :=
  let cs := address.toList.reverse
  let port := (cs.takeWhile (· ≠ ':')).reverse
  let host := ((cs.dropWhile (· ≠ ':')).drop 1).reverse
  match Decimal.readBelow UInt16.size port with
  | .ok n => (String.ofList host, .ofNat n)
  | .error _ => (String.ofList host, 0)

/-- Take a port and serve the metrics there. -/
def listen (h : Host) (address : String) : IO Bool := do
  try
    let (host, port) := splitAddress address
    let server ← TCP.Socket.Server.mk
    server.bind (← (resolve host port).block)
    server.listen 128
    let _ ← (serve h server).toIO
    return true
  catch _ => return false

/-! ### Notes and signals -/

/-- The time in milliseconds since the start of 1970. -/
def clock : IO Nat :=
  return (← Std.Time.Timestamp.now).toMillisecondsSinceUnixEpoch.val.toNat

/-- Write a log line, if the filter lets it pass. -/
def write (h : Host) (l : LogLine) : IO Unit := do
  if h.filter.shows Program.origin l then
    let ms ← clock
    let output ← IO.getStdout
    output.putStrLn
      (if h.isJson then (l.toJson ms Program.origin).print else l.toText ms Program.origin)
    output.flush

/-- Take a note. -/
def note (h : Host) : Note → IO Unit
  | .log l => h.write l
  | .metric e => do
    h.metrics.modify (·.record e)
    e.line?.forM h.write

/-- Wait until a point of time, or until a signal arrives. -/
partial def waitUntil (h : Host) (deadline : Nat) : IO (Option Signal) := do
  match ← h.signal.get with
  | some s => return some s
  | none =>
    let now ← IO.monoMsNow
    if deadline ≤ now then return none
    IO.sleep (.ofNat (min 50 (deadline - now)))
    waitUntil h deadline

/-- Remember a signal when it arrives. -/
def watch (h : Host) (kind : Std.Async.Signal) (s : Signal) : IO Std.Async.Signal.Waiter := do
  let waiter ← Std.Async.Signal.Waiter.mk kind false
  BaseIO.chainTask (← waiter.wait) fun
    | .ok _ => h.signal.modify fun before => some (before.getD s)
    | .error _ => pure ()
  return waiter

/-! ### Devices -/

/-- Answer a question to a device. -/
def answer (h : Host) : (d : Device) → IO d.Answer
  | .http r => http r
  | .datagram server bytes timeoutMs => datagram server bytes timeoutMs
  | .chance => return .ofNat (← IO.rand 0 0xffff)
  | .readFile path => attempt (ByteArray.toList <$> IO.FS.readBinFile path)
  | .makeDirectories path => attempt (IO.FS.createDirAll path)
  | .writeFile path content => attempt (IO.FS.writeBinFile path content.toByteArray)
  | .rename source target => attempt (IO.FS.rename source target)
  | .clock => clock
  | .note n => h.note n
  | .listen address => h.listen address
  | .pause => do h.waitUntil ((← IO.monoMsNow) + h.interval)

/-- Hold work on devices at the host. There is no result if it aborts. -/
def hold {α : Type} (h : Host) (d : DeviceWork α) : IO (Option α) :=
  d.perform h.answer

end Host

end LogCourier
