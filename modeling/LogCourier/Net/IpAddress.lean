import LogCourier.Text.Decimal

/-!
# Internet addresses

Addresses of version 4 and 6 with their texts. `IpAddress.parse?` reads the usual
notations, and `IpAddress.text` writes the canonical one: lower-case groups without
leading zeros, with the first of the longest runs of two or more zero groups left out.
-/

namespace LogCourier

/-- An address of version 4, by its four octets, or of version 6, by its eight groups. -/
inductive IpAddress
  | v4 (a b c d : UInt8)
  | v6 (groups : Vector UInt16 8)
  deriving DecidableEq, Repr

namespace IpAddress

/-- The value of a digit in a base of at most sixteen. -/
def digit? (base : Nat) (c : Char) : Option Nat :=
  let n := c.toNat
  let value :=
    if 48 ≤ n ∧ n ≤ 57 then n - 48
    else if 97 ≤ n ∧ n ≤ 102 then n - 87
    else if 65 ≤ n ∧ n ≤ 70 then n - 55
    else 16
  if value < base then some value else none

/-- Read the digits at the front of a text as a number below `limit`; there is at least
one digit and, if `most` is given, no more than `most` of them. -/
def readNumber (base limit : Nat) (most : Option Nat) (cs : List Char) :
  Option (Nat × List Char) :=
  let ds := cs.takeWhile fun c => (digit? base c).isSome
  let value := ds.foldl (fun n c => base * n + (digit? base c).getD 0) 0
  if ds.isEmpty ∨ most.any (· < ds.length) ∨ limit ≤ value then none
  else some (value, cs.drop ds.length)

/-- Read an octet in decimal, without a leading zero. -/
def readOctet (cs : List Char) : Option (UInt8 × List Char) := do
  let (n, rest) ← readNumber 10 256 (some 3) cs
  if cs.head? = some '0' ∧ rest.length + 1 < cs.length then none
  else some (.ofNat n, rest)

/-- Read the given character. -/
def readChar (c : Char) : List Char → Option (List Char)
  | [] => none
  | d :: rest => if d = c then some rest else none

/-- Read four octets with points between them. -/
def readV4 (cs : List Char) : Option ((UInt8 × UInt8 × UInt8 × UInt8) × List Char) := do
  let (a, cs) ← readOctet cs
  let (b, cs) ← readOctet (← readChar '.' cs)
  let (c, cs) ← readOctet (← readChar '.' cs)
  let (d, cs) ← readOctet (← readChar '.' cs)
  return ((a, b, c, d), cs)

/-- The group of two octets. -/
def group (high low : UInt8) : UInt16 :=
  .ofNat (256 * high.toNat + low.toNat)

/-- The groups at the front of a text, at most `room` of them, with colons between them;
the last two may be written as four octets. The flag tells that they are. -/
def readGroups : (room : Nat) → (first : Bool) → List Char → List UInt16 × Bool × List Char
  | 0, _, cs => ([], false, cs)
  | room + 1, first, cs =>
    match if first then some cs else readChar ':' cs with
    | none => ([], false, cs)
    | some inner =>
      match if room = 0 then none else readV4 inner with
      | some ((a, b, c, d), rest) => ([group a b, group c d], true, rest)
      | none =>
        match readNumber 16 0x10000 (some 4) inner with
        | none => ([], false, cs)
        | some (n, rest) =>
          let (gs, dotted, rest) := readGroups room false rest
          (.ofNat n :: gs, dotted, rest)

/-- The address of eight groups. -/
def ofGroups (gs : List UInt16) : Option (Vector UInt16 8) :=
  if h : gs.length = 8 then some ⟨gs.toArray, by simpa using h⟩ else none

/-- Read the groups of an address, where `::` stands for one or more zero groups. -/
def readV6 (cs : List Char) : Option (Vector UInt16 8 × List Char) := do
  let (head, dotted, rest) := readGroups 8 true cs
  if head.length = 8 then
    return (← ofGroups head, rest)
  if dotted then none
  let rest ← readChar ':' (← readChar ':' rest)
  let (tail, _, rest) := readGroups (7 - head.length) true rest
  let zeros := List.replicate (8 - head.length - tail.length) 0
  return (← ofGroups (head ++ zeros ++ tail), rest)

/-- Read an address at the front of a text. -/
def read (cs : List Char) : Option (IpAddress × List Char) :=
  match readV4 cs with
  | some ((a, b, c, d), rest) => some (.v4 a b c d, rest)
  | none => (readV6 cs).map fun (gs, rest) => (.v6 gs, rest)

/-- The address that a text names. -/
def parse? (s : String) : Option IpAddress :=
  match read s.toList with
  | some (ip, []) => some ip
  | _ => none

/-- The octets of an address, in network order. -/
def octets : IpAddress → List UInt8
  | v4 a b c d => [a, b, c, d]
  | v6 gs => gs.toList.flatMap fun g => [.ofNat (g.toNat / 256), .ofNat (g.toNat % 256)]

/-- Four octets with points between them. -/
def dotted (a b c d : UInt8) : String :=
  ".".intercalate ([a, b, c, d].map fun x => Decimal.text x.toNat)

/-- The hexadecimal text of a group. -/
def groupText (g : UInt16) : String :=
  String.ofList (Nat.toDigits 16 g.toNat)

/-- The length of the run of zeros at the front of a list. -/
def zeroRun (gs : List UInt16) : Nat :=
  (gs.takeWhile (· = 0)).length

/-- Where the first of the longest runs of zeros starts, and its length. -/
def longestRun : List UInt16 → Nat × Nat
  | [] => (0, 0)
  | g :: gs =>
    let here := zeroRun (g :: gs)
    let (start, length) := longestRun gs
    if length ≤ here ∧ 0 < here then (0, here) else (start + 1, length)

/-- The canonical text of the groups of an address. -/
def groupsText (gs : List UInt16) : String :=
  let joined := fun (gs : List UInt16) => ":".intercalate (gs.map groupText)
  match gs with
  | [0, 0, 0, 0, 0, 0xffff, x, y] =>
    "::ffff:" ++ dotted (.ofNat (x.toNat / 256)) (.ofNat (x.toNat % 256))
      (.ofNat (y.toNat / 256)) (.ofNat (y.toNat % 256))
  | _ =>
    let (start, length) := longestRun gs
    if 1 < length then joined (gs.take start) ++ "::" ++ joined (gs.drop (start + length))
    else joined gs

/-- The canonical text of an address. -/
def text : IpAddress → String
  | v4 a b c d => dotted a b c d
  | v6 gs => groupsText gs.toList

end IpAddress

end LogCourier
