/-!
# Domain names on the wire

A domain name is a list of labels. On the wire it is written label by label, each with its
length in front, and ends with a zero byte or with a pointer to the rest of a name that
stands earlier in the message.
-/

namespace LogCourier.Dns

/-- A label of a name. -/
abbrev Label := List UInt8

/-- A domain name, without the empty label of the root. -/
abbrev Name := List Label

/-- The wire form of a name without pointers. -/
def Name.wire (name : Name) : List UInt8 :=
  name.flatMap (fun l => .ofNat l.length :: l) ++ [0]

/-- The number of bytes of the labels of a name with their lengths. -/
def Name.size (name : Name) : Nat :=
  name.foldr (fun l n => l.length + 1 + n) 0

/-- Two bytes as a number. -/
def word (high low : UInt8) : Nat :=
  256 * high.toNat + low.toNat

/-- The number in the two bytes at a position. -/
def wordAt? (message : List UInt8) (pos : Nat) : Option Nat :=
  match message.drop pos with
  | high :: low :: _ => some (word high low)
  | _ => none

/-- The bytes at a position, if there are as many as asked for. -/
def slice? (message : List UInt8) (pos count : Nat) : Option (List UInt8) :=
  let bytes := (message.drop pos).take count
  if bytes.length = count then some bytes else none

/-- Read the labels of a name from `pos` on, where the name, or the part of it that was
pointed to, starts at `start`. A pointer leads before `start`, and no label or pointer may
start at `limit` or later. The result has the position after the name. -/
def readLabels (message : List UInt8) (start limit pos : Nat) : Option (Name × Nat) :=
  if limit ≤ pos then none
  else if h : pos < message.length then
    let n := message[pos].toNat
    if n = 0 then some ([], pos + 1)
    else if n < 0x40 then do
      let label ← slice? message (pos + 1) n
      let (rest, after) ← readLabels message start limit (pos + 1 + n)
      return (label :: rest, after)
    else if 0xc0 ≤ n then do
      let target := (← wordAt? message pos) % 0x4000
      if h : target < start then
        let (rest, _) ← readLabels message target start target
        return (rest, pos + 2)
      else none
    else none
  else none
termination_by (start, message.length - pos)
decreasing_by all_goals omega

/-- Read a name at a position; its labels with their lengths have fewer than 255 bytes. -/
def readName (message : List UInt8) (pos : Nat) : Option (Name × Nat) := do
  let (name, after) ← readLabels message pos message.length pos
  guard (name.size < 255)
  return (name, after)

end LogCourier.Dns
