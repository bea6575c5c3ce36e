import LogCourier.Http.Message
import LogCourier.Text.Blank
import LogCourier.Text.Case

/-!
# HTTP on the wire

Requests and replies as bytes: a head of lines, which ends at an empty one, and a body whose
end the head tells: by its length, by chunks that each tell theirs, or by the end of the
connection.
-/

namespace LogCourier.Http

/-- The bytes of the lines of a head, with the empty line after them. -/
def headBytes (lines : List String) : List UInt8 :=
  Utf8.bytes (String.join ((lines ++ [""]).map (· ++ "\r\n")))

/-- The bytes of a request; the connection is to end with the reply. -/
def Request.bytes (r : Request) : List UInt8 :=
  let content := match r.contentType with
    | some t => ["content-type: " ++ t, "content-length: " ++ Decimal.text r.body.length]
    | none => []
  headBytes ([r.method ++ " " ++ r.url.target ++ " HTTP/1.1", "host: " ++ r.url.authority,
    "accept: */*", "connection: close"] ++ content) ++ r.body

/-- Split bytes at the first line break; there is none if the line has not ended. -/
def takeLine? : List UInt8 → Option (List UInt8 × List UInt8)
  | 0x0d :: 0x0a :: rest => some ([], rest)
  | 0x0a :: rest => some ([], rest)
  | b :: rest => (takeLine? rest).map fun (line, rest) => (b :: line, rest)
  | [] => none

/-- What follows a line is shorter than the bytes it was split off. -/
theorem length_of_takeLine? {bytes line rest : List UInt8}
    (h : takeLine? bytes = some (line, rest)) :
  rest.length < bytes.length
  := by
  fun_induction takeLine? bytes generalizing line with
  | case1 => grind
  | case2 => grind
  | case3 b bytes _ _ ih =>
    obtain ⟨⟨l, r⟩, hl, hr⟩ := Option.map_eq_some_iff.1 h
    obtain ⟨-, rfl⟩ := Prod.mk.inj hr
    have := ih hl
    rw [List.length_cons]
    omega
  | case4 => nomatch h

/-- Split bytes into the lines of a head and what follows it. -/
def takeHead? (bytes : List UInt8) : Option (List String × List UInt8) :=
  match h : takeLine? bytes with
  | none => none
  | some ([], rest) => some ([], rest)
  | some (line, rest) =>
    have := length_of_takeLine? h
    (takeHead? rest).map fun (lines, rest) => (Utf8.decodeLossy line :: lines, rest)
termination_by bytes.length

/-- The value of a field of a head; names are compared without regard to case. -/
def field? (lines : List String) (name : String) : Option String :=
  lines.findSome? fun line =>
    let key := line.toList.takeWhile (· ≠ ':')
    if Text.lowerAscii (String.ofList key) = name then
      some (Text.trim (String.ofList (line.toList.drop (key.length + 1))))
    else none

/-- The status in the first line of a reply. -/
def status? (line : String) : Option Nat :=
  match line.splitOn " " with
  | version :: status :: _ =>
    if "HTTP/1.".toList.isPrefixOf version.toList ∧ status.length = 3 then
      (Decimal.readBelow 1000 status.toList).toOption
    else none
  | _ => none

/-- The body that arrived in chunks, each of which starts with a line that holds its length
in hexadecimal digits. The flag tells whether the last one, which is empty, has arrived. -/
def chunks (bytes : List UInt8) : List UInt8 × Bool :=
  match h : takeLine? bytes with
  | none => ([], false)
  | some (line, rest) =>
    have := length_of_takeLine? h
    let digits := ((Utf8.decodeLossy line).toList.takeWhile (· ≠ ';')).filterMap hexValue?
    let length := digits.foldl (fun n d => 16 * n + d) 0
    if length = 0 then ([], true)
    else if rest.length < length + 2 then (rest.take length, false)
    else
      let (more, complete) := chunks (rest.drop (length + 2))
      (rest.take length ++ more, complete)
termination_by bytes.length
decreasing_by simp only [List.length_drop]; omega

/-- What has arrived of a reply. -/
structure Arrival where
  status : Nat
  body : List UInt8
  /-- Whether nothing more is to come. -/
  isComplete : Bool
  /-- Whether the end of the connection ends the body. -/
  endsWithConnection : Bool
  deriving Repr

/-- Whether a reply with this status announces another reply. -/
def isInterim (status : Nat) : Bool :=
  100 ≤ status ∧ status < 200 ∧ status ≠ 101

/-- What has arrived of the body of a reply. -/
def arrivedBody (status : Nat) (lines : List String) (rest : List UInt8) : Arrival :=
  if status < 200 ∨ status = 204 ∨ status = 304 then ⟨status, [], true, false⟩
  else if (field? lines "transfer-encoding").any (Text.lowerAscii · = "chunked") then
    let (body, complete) := chunks rest
    ⟨status, body, complete, false⟩
  else match (field? lines "content-length").bind fun v =>
      (Decimal.readBelow UInt64.size v.toList).toOption with
    | some n => ⟨status, rest.take n, decide (n ≤ rest.length), false⟩
    | none => ⟨status, rest, false, true⟩

/-- What has arrived of a reply, if its head has; interim replies, of which at most `count`
are expected, are passed over. -/
def arrived? : (count : Nat) → List UInt8 → Option Arrival
  | 0, _ => none
  | count + 1, bytes => do
    let (lines, rest) ← takeHead? bytes
    let status ← status? (← lines.head?)
    if isInterim status then arrived? count rest
    else return arrivedBody status lines rest

/-- What comes of a request whose connection has ended, or whose reply is complete. -/
def Arrival.outcome (url : Url) : Option Arrival → Outcome
  | none => .none (.unsent .other url)
  | some a =>
    .reply a.status
      (if a.isComplete ∨ a.endsWithConnection then .ok a.body else .error (.brokenBody .other))

/-- The method and the target of a request whose head has arrived. -/
def requestLine? (bytes : List UInt8) : Option (String × String) := do
  let (lines, _) ← takeHead? bytes
  match (← lines.head?).splitOn " " with
  | [method, target, _] => return (method, target)
  | _ => none

/-- The bytes of a reply with a text. -/
def replyBytes (status : Nat) (withBody : Bool) (body : String) : List UInt8 :=
  let content := Utf8.bytes body
  headBytes ["HTTP/1.1 " ++ Decimal.text status ++ " " ++ reason status,
    "content-type: text/plain; charset=utf-8", "content-length: " ++ Decimal.text content.length,
    "connection: close"] ++ (if withBody then content else [])

end LogCourier.Http
