import LogCourier.Dialogue
import LogCourier.Http.Message
import LogCourier.Net.SocketAddress
import LogCourier.Observe.Note

/-!
# Devices

The questions that the adapters ask: web servers, a name server, files, the clock, chance,
and whoever takes notes.
-/

namespace LogCourier

/-- The failure of an operation on files. -/
structure FileError where
  /-- Whether the file is missing. -/
  isMissing : Bool
  reason : String
  deriving DecidableEq, Repr

/-- A signal that asks the program to end. -/
inductive Signal
  | interrupt
  | terminate
  deriving DecidableEq, Repr

/-- The name of a signal. -/
def Signal.name : Signal → String
  | interrupt => "SIGINT"
  | terminate => "SIGTERM"

/-- The steps of an exchange of datagrams. -/
inductive DatagramStep
  /-- Take a port of this host. -/
  | bind
  | send
  | receive
  deriving DecidableEq, Repr

/-- What comes of an exchange of datagrams. -/
inductive DatagramOutcome
  | reply (sender : SocketAddress) (bytes : List UInt8)
  /-- A step was not completed in time. -/
  | silence
  | failed (step : DatagramStep) (reason : String)

/-- A question to a device. -/
inductive Device
  | http (request : Http.Request)
  /-- Send a datagram and wait for one for some milliseconds. -/
  | datagram (server : SocketAddress) (bytes : List UInt8) (timeoutMs : UInt64)
  /-- A number that cannot be foreseen. -/
  | chance
  | readFile (path : String)
  /-- Make a directory unless there is one, and those on the way to it. -/
  | makeDirectories (path : String)
  | writeFile (path : String) (content : List UInt8)
  | rename (source target : String)
  | clock
  | note (note : Note)
  /-- Take a port of this host, given as an address with a port, for the metrics. -/
  | listen (address : String)
  /-- Wait for the next cycle; the answer is a signal if one has arrived. -/
  | pause

/-- The answer to a question to a device. -/
@[reducible] def Device.Answer : Device → Type
  | http _ => Http.Outcome
  | datagram .. => DatagramOutcome
  | chance => UInt16
  | readFile _ => Except FileError (List UInt8)
  | makeDirectories _ | writeFile .. | rename .. => Except FileError Unit
  | clock => Nat
  | note _ => Unit
  | listen _ => Bool
  | pause => Option Signal

/-- Work on devices. -/
abbrev DeviceWork := Dialogue Device Device.Answer

namespace DeviceWork

/-- Send a request to a web server. -/
def http (r : Http.Request) : DeviceWork Http.Outcome :=
  .question (Device.http r)

/-- Send a datagram and wait for one. -/
def datagram (server : SocketAddress) (bytes : List UInt8) (timeoutMs : UInt64) :
  DeviceWork DatagramOutcome :=
  .question (Device.datagram server bytes timeoutMs)

/-- A number that cannot be foreseen. -/
def chance : DeviceWork UInt16 :=
  .question Device.chance

/-- Read a file. -/
def readFile (path : String) : DeviceWork (Except FileError (List UInt8)) :=
  .question (Device.readFile path)

/-- Make a directory unless there is one, and those on the way to it. -/
def makeDirectories (path : String) : DeviceWork (Except FileError Unit) :=
  .question (Device.makeDirectories path)

/-- Write a file. -/
def writeFile (path : String) (content : List UInt8) : DeviceWork (Except FileError Unit) :=
  .question (Device.writeFile path content)

/-- Give a file another name. -/
def rename (source target : String) : DeviceWork (Except FileError Unit) :=
  .question (Device.rename source target)

/-- Take a port of this host for the metrics. -/
def listen (address : String) : DeviceWork Bool :=
  .question (Device.listen address)

/-- Wait for the next cycle. -/
def pause : DeviceWork (Option Signal) :=
  .question Device.pause

/-- Tell a note. -/
def note (n : Note) : DeviceWork Unit :=
  .question (Device.note n)

/-- Write a log line. -/
def log (level : LogLevel) (message : String) (fields : List (String × FieldValue)) :
  DeviceWork Unit :=
  note (.log ⟨level, message, fields⟩)

/-- Record an event. -/
def record (e : MetricEvent) : DeviceWork Unit :=
  note (.metric e)

end DeviceWork

end LogCourier
