import LogCourier.Http.Percent
import LogCourier.Net.IpAddress

/-!
# URLs

The address of a request to a web server: the scheme, the host with its port, and the
target of the request. `Url.parse?` reads the texts that browsers accept for the two
schemes of the web, and puts the path into its usual form.
-/

namespace LogCourier.Http

/-- The address of a request. The port is absent if it is the usual one of the scheme. -/
structure Url where
  secure : Bool
  host : String
  port : Option UInt16
  path : List Char
  query : Option (List Char)
  deriving DecidableEq, Repr

namespace Url

/-- The text of the scheme. -/
def scheme (u : Url) : String :=
  if u.secure then "https" else "http"

/-- The host with its port. -/
def authority (u : Url) : String :=
  u.host ++ (match u.port with | some p => ":" ++ Decimal.text p.toNat | none => "")

/-- The target of the request: the path and the query. -/
def target (u : Url) : String :=
  String.ofList (u.path ++ (match u.query with | some q => '?' :: q | none => []))

/-- The text of an address. -/
def text (u : Url) : String :=
  u.scheme ++ "://" ++ u.authority ++ u.target

/-- Add pairs of a form to the query. -/
def addQuery (u : Url) (pairs : List (String × String)) : Url :=
  let more := form pairs
  { u with query := some (match u.query with
      | some (c :: cs) => c :: cs ++ '&' :: more
      | _ => more) }

/-- The text without the controls and spaces at its ends, and without tabs and line breaks
in it. -/
def clean (cs : List Char) : List Char :=
  let blank := fun (c : Char) => decide (c.toNat ≤ 0x20)
  let cs := ((cs.dropWhile blank).reverse.dropWhile blank).reverse
  cs.filter fun c => c ≠ '\t' ∧ c ≠ '\n' ∧ c ≠ '\r'

/-- Whether a character separates the parts of a path. -/
def isSlash (c : Char) : Bool :=
  c = '/' ∨ c = '\\'

/-- Take a scheme of the web, with the slashes after it, off a text. -/
def takeScheme? (cs : List Char) : Option (Bool × List Char) :=
  let front := (cs.takeWhile (· ≠ ':')).map Char.toLower
  let rest := (cs.dropWhile (· ≠ ':')).drop 1
  if front.length = cs.length then none
  else if front = "http".toList then some (false, rest.dropWhile isSlash)
  else if front = "https".toList then some (true, rest.dropWhile isSlash)
  else none

/-- Split a text before the first element that satisfies `p`. -/
def splitBefore (p : Char → Bool) (cs : List Char) : List Char × List Char :=
  (cs.takeWhile (! p ·), cs.dropWhile (! p ·))

/-- The part of a text after its last character of a kind. -/
def afterLast (c : Char) (cs : List Char) : List Char :=
  (cs.reverse.takeWhile (· ≠ c)).reverse

/-- Whether a character is forbidden in the name of a host. -/
def isForbidden (c : Char) : Bool :=
  c.toNat ≤ 0x20 ∨ c.toNat = 0x7f ∨ c ∈ "#/:<>?@[\\]^|%".toList

/-- Cut a text at each point. -/
def splitPoints (cs : List Char) : List (List Char) :=
  cs.splitOnP (· = '.')

/-- The value of a number in the notations of C: decimal, octal with a zero in front, or
hexadecimal. -/
def looseNumber? (cs : List Char) : Option Nat :=
  let read := fun base (ds : List Char) =>
    if ds.isEmpty then some 0 else (IpAddress.readNumber base UInt64.size none ds).bind fun r =>
      if r.2.isEmpty then some r.1 else none
  match cs with
  | [] => none
  | '0' :: 'x' :: ds | '0' :: 'X' :: ds => read 16 ds
  | '0' :: d :: ds => read 8 (d :: ds)
  | ds => read 10 ds

/-- The parts of the name of a host, without an empty last one. -/
def hostParts (cs : List Char) : List (List Char) :=
  let parts := splitPoints cs
  if parts.getLast? = some [] ∧ 1 < parts.length then parts.dropLast else parts

/-- Whether the name of a host has to be read as an address of version 4. -/
def endsInNumber (cs : List Char) : Bool :=
  match (hostParts cs).getLast? with
  | some (c :: cs) => (c :: cs).all Char.isDigit || (looseNumber? (c :: cs)).isSome
  | _ => false

/-- Read an address of version 4 in up to four parts, the last of which fills the rest. -/
def looseV4? (cs : List Char) : Option String := do
  let ns ← (hostParts cs).mapM looseNumber?
  let last ← ns.getLast?
  guard (ns.length ≤ 4 ∧ ns.dropLast.all (· < 256) ∧ last < Nat.pow 256 (5 - ns.length))
  let n := ns.dropLast.zipIdx.foldl (fun n p => n + p.1 * Nat.pow 256 (3 - p.2)) last
  return IpAddress.dotted
    (.ofNat (n / 0x1000000)) (.ofNat (n / 0x10000)) (.ofNat (n / 0x100)) (.ofNat n)

/-- Read a host. -/
def host? (cs : List Char) : Option String :=
  match cs with
  | [] => none
  | '[' :: rest =>
    if rest.getLast? = some ']' then
      match IpAddress.readV6 rest.dropLast with
      | some (groups, []) => some ("[" ++ (IpAddress.v6 groups).text ++ "]")
      | _ => none
    else none
  | _ => do
    let name := ((← Utf8.decode? (unescape false cs)).toList).map Char.toLower
    guard (name ≠ [] ∧ ¬ name.any isForbidden)
    if endsInNumber name then looseV4? name else return String.ofList name

/-- Split a host from its port. -/
def splitPort (cs : List Char) : List Char × Option (List Char) :=
  match cs with
  | '[' :: _ =>
    let (inner, rest) := splitBefore (· = ']') cs
    match rest with
    | ']' :: ':' :: port => (inner ++ [']'], some port)
    | _ => (cs, none)
  | _ =>
    match splitBefore (· = ':') cs with
    | (host, ':' :: port) => (host, some port)
    | (host, _) => (host, none)

/-- Read a port, which is absent if it is empty or the usual one. -/
def port? (secure : Bool) : Option (List Char) → Option (Option UInt16)
  | none | some [] => some none
  | some cs => do
    let (n, rest) ← IpAddress.readNumber 10 65536 none cs
    guard rest.isEmpty
    return if n = (if secure then 443 else 80) then none else some (.ofNat n)

/-- Whether a segment of a path stands for the path itself. -/
def isHere (segment : List Char) : Bool :=
  segment.map Char.toLower ∈ [".".toList, "%2e".toList]

/-- Whether a segment of a path stands for the path without its last segment. -/
def isUp (segment : List Char) : Bool :=
  segment.map Char.toLower ∈
    ["..".toList, ".%2e".toList, "%2e.".toList, "%2e%2e".toList]

/-- Carry out the segments that stand for a step in the path; `before` are the segments
kept so far, last first. -/
def resolveSegments (before : List (List Char)) : List (List Char) → List (List Char)
  | [] => before.reverse
  | [s] =>
    if isHere s then (([] : List Char) :: before).reverse
    else if isUp s then (([] : List Char) :: before.tail).reverse
    else (s :: before).reverse
  | s :: ss =>
    if isHere s then resolveSegments before ss
    else if isUp s then resolveSegments before.tail ss
    else resolveSegments (s :: before) ss

/-- The usual form of a path. -/
def normalPath (cs : List Char) : List Char :=
  let cs := match cs with
    | c :: rest => if isSlash c then rest else cs
    | [] => []
  let segments := (cs.splitOnP isSlash).map
    (percentEncode fun c => c ∈ " \"#<>?\x60\x7b\x7d".toList)
  (resolveSegments [] segments).flatMap fun s => '/' :: s

/-- Read an address. -/
def parse? (s : String) : Option Url := do
  let (secure, rest) ← takeScheme? (clean s.toList)
  let (authority, rest) := splitBefore (fun c => isSlash c ∨ c = '?' ∨ c = '#') rest
  let (hostText, portText) := splitPort (afterLast '@' authority)
  let host ← host? hostText
  let port ← port? secure portText
  let (pathText, rest) := splitBefore (fun c => c = '?' ∨ c = '#') rest
  let query := match rest with
    | '?' :: q =>
      some (percentEncode (fun c => c ∈ " \"#<>'".toList) (q.takeWhile (· ≠ '#')))
    | _ => none
  return ⟨secure, host, port, normalPath pathText, query⟩

end Url

end LogCourier.Http
