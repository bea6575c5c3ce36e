import LogCourier.Dns.Message
import LogCourier.Dns.NameText
import LogCourier.Net.IpAddress

/-!
# Reverse lookups

The question for the name of an address, and what a reply to it says. The name asked for
spells the address backwards: four octets under `in-addr.arpa` or thirty-two hexadecimal
digits under `ip6.arpa`.
-/

namespace LogCourier.Dns

/-- The bytes of an ASCII text. -/
def asciiLabel (s : String) : Label :=
  s.toList.map fun c => .ofNat c.toNat

/-- The labels of a name that is given as text. -/
def Name.ofLabels (labels : List String) : Name :=
  labels.map asciiLabel

/-- The labels that spell an address backwards. -/
def reverseLabels : IpAddress → List String
  | .v4 a b c d => [d, c, b, a].map (fun x => Decimal.text x.toNat) ++ ["in-addr", "arpa"]
  | .v6 gs =>
    let nibble := fun (n : Nat) => String.ofList (Nat.toDigits 16 n)
    let octets := (IpAddress.v6 gs).octets.reverse
    (octets.flatMap fun o => [nibble (o.toNat % 16), nibble (o.toNat / 16)]) ++ ["ip6", "arpa"]

/-- The name to ask for, as text. -/
def reverseName (ip : IpAddress) : String :=
  ".".intercalate (reverseLabels ip)

/-- The two bytes of a word. -/
def wordBytes (n : Nat) : List UInt8 :=
  [.ofNat (n / 256), .ofNat (n % 256)]

/-- The class of internet names. -/
def classInternet : Nat := 1

/-- The question for the name of an address: recursion is desired, and the identifier is
given. -/
def query (id : UInt16) (ip : IpAddress) : List UInt8 :=
  wordBytes id.toNat ++ wordBytes 0x0100 ++ [1, 0, 0, 0].flatMap wordBytes
    ++ (Name.ofLabels (reverseLabels ip)).wire
    ++ wordBytes Record.typePointer ++ wordBytes classInternet

/-- Why a reply says nothing. -/
inductive ReplyFault
  | tooShort (bytes : Nat)
  | otherId (id expected : Nat)
  | unreadable
  deriving DecidableEq, Repr

/-- The wording of why a reply says nothing. -/
def ReplyFault.message : ReplyFault → String
  | tooShort n => "DNS message too short: " ++ Decimal.text n ++ " bytes"
  | otherId id expected =>
    "DNS response ID " ++ Decimal.text id ++ " does not match query ID " ++ Decimal.text expected
  | unreadable => "Failed to parse DNS response"

/-- What a reply says: a name, or that there is none and the response code if it is an
error. -/
inductive Reply
  | host (name : String)
  | noName
  | refused (code : ResponseCode)
  deriving DecidableEq, Repr

/-- What a reply to the question with the given identifier says. -/
def readReply (id : UInt16) (bytes : List UInt8) : Except ReplyFault Reply := do
  let some replyId := wordAt? bytes 0 | throw (.tooShort bytes.length)
  if replyId ≠ id.toNat then throw (.otherId replyId id.toNat)
  let some m := Message.read? bytes | throw .unreadable
  if m.code ≠ ⟨0⟩ then return .refused m.code
  match m.pointer? with
  | none => return .noName
  | some target =>
    let host := target.host
    return if host.isEmpty then .noName else .host host

/-- The name that a reply gives. -/
def Reply.name? : Reply → Option String
  | host name => some name
  | noName | refused _ => none

end LogCourier.Dns
