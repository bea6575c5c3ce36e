import LogCourier.Dns.Query
import LogCourier.Observe.LogFilter
import LogCourier.Program
import LogCourier.Storage.FileTree

/-!
# A scripted site

Devices for rehearsals of the whole program: web servers and a name server that follow a
script, a tree of files, ports that can be taken, a journal of what was told, and a signal
that arrives once a certain line has been written. The servers keep a record of what they
were asked.
-/

namespace LogCourier.Rehearsal

/-- What a web server does at its next request. -/
inductive WebCue
  | reply (status : Nat) (body : List UInt8)
  /-- Send less of a body than was announced. -/
  | broken (status : Nat)
  /-- Close the connection without a reply. -/
  | close
  /-- Never reply. -/
  | stall

/-- A web server: the host with its port, the cues for coming requests, what it does
without a cue, and the requests so far, last first. -/
structure WebServer where
  authority : String
  cues : List WebCue
  otherwise : WebCue := .reply 503 []
  requests : List Http.Request := []

/-- Whether replies of a status have no body. -/
def isBodiless (status : Nat) : Bool :=
  status = 204 ∨ status = 304

/-- What a cue makes of a request. -/
def WebCue.outcome (url : Http.Url) : WebCue → Http.Outcome
  | .reply status body => .reply status (.ok (if isBodiless status then [] else body))
  | .broken status =>
    .reply status (if isBodiless status then .ok [] else .error (.brokenBody .other))
  | .close => .none (.unsent .other url)
  | .stall => .none (.unsent .timeout url)

/-- Answer a request. -/
def WebServer.answer (s : WebServer) (r : Http.Request) : Http.Outcome × WebServer :=
  let cue := s.cues.head?.getD s.otherwise
  (cue.outcome r.url, { s with cues := s.cues.tail, requests := r :: s.requests })

/-- What a name server puts behind the identifier of a reply. -/
inductive NameContent
  /-- A name for the address that was asked for. -/
  | host (name : String)
  /-- There is no such name. -/
  | unknown
  /-- Bytes that are given, with those of the identifier. -/
  | bytes (content : List UInt8)

/-- Which identifier a reply has. -/
inductive NameId
  | same
  | other
  /-- The one in the bytes that are given. -/
  | given
  deriving DecidableEq

/-- A reply of a name server. -/
structure NameReply where
  content : NameContent
  id : NameId := .same
  fromOtherPort : Bool := false

/-- A name server: its address, what it does, and the questions so far, last first. It
gives one reply to all questions, or knows names by the name that is asked for. -/
structure NameServer where
  address : SocketAddress
  script : Option NameReply ⊕ List (String × String)
  queries : List (List UInt8) := []

/-- The name in a question. -/
def questionName (query : List UInt8) : String :=
  match Dns.readName query 12 with
  | some (name, _) =>
    ".".intercalate (name.map fun label => String.ofList (label.map fun b => .ofNat b.toNat))
  | none => ""

/-- The labels of the text of a name. -/
def hostLabels (name : String) : List String :=
  (name.splitOn ".").filter (· ≠ "")

/-- The bytes of a reply after the identifier, for a question without its identifier. -/
def replyBody (question : List UInt8) : NameContent → List UInt8
  | .bytes content => content.drop 2
  | .unknown => [0x81, 0x83] ++ question.drop 2
  | .host name =>
    let data := (Dns.Name.ofLabels (hostLabels name)).wire
    [0x81, 0x80, 0, 1, 0, 1, 0, 0, 0, 0] ++ question.drop 10
      ++ [0xc0, 0x0c, 0, 12, 0, 1, 0, 0, 0, 60] ++ Dns.wordBytes data.length ++ data

/-- The identifier of a reply; bytes that are too short for one stay as they are. -/
def replyId (query : List UInt8) (r : NameReply) : List UInt8 :=
  let given := match r.content with
    | .bytes content => content.take 2
    | _ => query.take 2
  match r.id with
  | .given => given
  | .same => query.take given.length
  | .other => (query.take given.length).map fun b => 255 - b

/-- What comes of a question. -/
def NameServer.answer (s : NameServer) (query : List UInt8) : DatagramOutcome × NameServer :=
  let reply := match s.script with
    | .inl reply => reply
    | .inr hosts =>
      some ⟨((hosts.lookup (questionName query)).map NameContent.host).getD .unknown, .same, false⟩
  let s := { s with queries := query :: s.queries }
  match reply with
  | none => (.silence, s)
  | some r =>
    let sender :=
      if r.fromOtherPort then { s.address with port := s.address.port + 1 } else s.address
    (.reply sender (replyId query r ++ replyBody (query.drop 2) r.content), s)

/-- The signal that arrives at a pause once a line with the text has been written. -/
structure Stop where
  text : String
  signal : Signal

/-- A scripted site. -/
structure Site where
  servers : List WebServer := []
  names : Option NameServer := none
  files : FileTree := ⟨[(["work"], .directory)], ["work"]⟩
  /-- The addresses of ports that are taken. -/
  taken : List String := []
  filter : LogFilter := ⟨[⟨"", LogLevel.trace.rank⟩]⟩
  journal : Journal := .empty
  stop : Option Stop := none

namespace Site

/-- Answer a request to the server that it is for; without a server there, or with no time
to wait, there is no reply. -/
def http (w : Site) (r : Http.Request) : Http.Outcome × Site :=
  match w.servers.find? fun s => s.authority = r.url.authority ∧ ¬ r.url.secure with
  | none => (.none (.unsent .connect r.url), w)
  | some s =>
    if r.timeoutSecs = 0 then (.none (.unsent .timeout r.url), w)
    else
      let (outcome, s) := s.answer r
      let servers := w.servers.map fun t => if t.authority = s.authority then s else t
      (outcome, { w with servers })

/-- Answer a datagram. -/
def datagram (w : Site) (server : SocketAddress) (bytes : List UInt8) : DatagramOutcome × Site :=
  if server.port = 0 then (.failed .send "Invalid argument (os error 22)", w)
  else match w.names with
    | some s =>
      if s.address = server then
        let (outcome, s) := s.answer bytes
        (outcome, { w with names := some s })
      else (.silence, w)
    | none => (.silence, w)

/-- The failure of an operation on files as devices report it. -/
def fileError (f : FileFault) : FileError :=
  ⟨f = .notFound, f.message⟩

/-- The outcome of a change of the files. -/
def changeFiles (w : Site) (r : Except FileFault FileTree) : Except FileError Unit × Site :=
  match r with
  | .ok files => (.ok (), { w with files })
  | .error f => (.error (fileError f), w)

/-- Whether a port of the host with this name can be taken: that of a loopback address, or
of all addresses. -/
def isLocalHost (host : String) : Bool :=
  match IpAddress.parse? host with
  | some (.v4 a b c d) => a = 127 ∨ (a = 0 ∧ b = 0 ∧ c = 0 ∧ d = 0)
  | some (.v6 groups) =>
    groups.toList.take 7 = List.replicate 7 0 ∧ groups.toList.drop 7 ∈ [[0], [1]]
  | none => host = "localhost"

/-- The host of an address with a port. -/
def hostOf (address : String) : String :=
  let cs := ((address.toList.reverse.dropWhile (· ≠ ':')).drop 1).reverse
  match cs with
  | '[' :: rest => String.ofList rest.dropLast
  | cs => String.ofList cs

/-- Whether a line that has been written has a text in it. -/
def hasWritten (w : Site) (text : String) : Bool :=
  let holds := fun (s : String) => SourceError.occursIn text.toList s.toList
  w.journal.lines.any fun l =>
    w.filter.shows Program.origin l && (holds l.message || l.fields.any fun f => holds f.2.render)

/-- The signal that has arrived. -/
def signal (w : Site) : Option Signal :=
  match w.stop with
  | some s => if w.hasWritten s.text then some s.signal else none
  | none => none

/-- Answer a question to a device. -/
def answer : (d : Device) → Site → d.Answer × Site
  | .http r, w => w.http r
  | .datagram server bytes _, w => w.datagram server bytes
  | .chance, w => (0x1234, w)
  | .readFile path, w => ((w.files.readFile path).mapError fileError, w)
  | .makeDirectories path, w =>
    let (files, r) := w.files.makeDirectories path
    (r.mapError fileError, { w with files })
  | .writeFile path content, w => w.changeFiles (w.files.writeFile path content)
  | .rename source target, w => w.changeFiles (w.files.rename source target)
  | .clock, w => (0, w)
  | .note n, w => ((), { w with journal := w.journal.tell n })
  | .listen address, w => (isLocalHost (hostOf address) && ! w.taken.contains address, w)
  | .pause, w => (w.signal, w)

/-- Hold work on devices at the site. -/
def hold {α : Type} (w : Site) (d : DeviceWork α) : Option α × Site :=
  d.run answer w

end Site

end LogCourier.Rehearsal
