import LogCourier.Dns.Name

/-!
# Resource records

A resource record has an owner, a type and data. Of the data only the target of a pointer
record is kept, and the response code that an extension record adds; of all other data it
is only checked that it is well formed, which depends on the type.
-/

namespace LogCourier.Dns

/-- The data of a record. -/
inductive RecordData
  | pointer (target : Name)
  | other
  deriving DecidableEq, Repr

/-- A resource record. -/
structure Record where
  owner : Name
  type : Nat
  ttl : Nat
  data : RecordData
  deriving DecidableEq, Repr

namespace Record

/-- The types of records that have a meaning here. -/
def typePointer : Nat := 12

/-- The type of the extension record. -/
def typeExtension : Nat := 41

/-- Whether bytes are texts with their lengths in front; `count` is how many, if that is
fixed. The first argument bounds the number of texts. -/
def areTexts : (bound : Nat) → (count : Option Nat) → List UInt8 → Bool
  | _, some 0, rest => rest.isEmpty
  | _, none, [] => true
  | _, some (_ + 1), [] => false
  | 0, _, _ :: _ => false
  | bound + 1, count, n :: rest =>
    n.toNat ≤ rest.length && areTexts bound (count.map (· - 1)) (rest.drop n.toNat)

/-- Take a text with its length in front. -/
def takeText? : List UInt8 → Option (List UInt8 × List UInt8)
  | [] => none
  | n :: rest =>
    if n.toNat ≤ rest.length then some (rest.take n.toNat, rest.drop n.toNat) else none

/-- Whether a byte is an ASCII letter or digit. -/
def isAlphanumeric (b : UInt8) : Bool :=
  (Char.ofNat b.toNat).isAlphanum

/-- Where the reading of a type bitmap stands. -/
inductive BitmapPart
  | window
  | length
  | block (length left : Nat)

/-- Whether bytes are a type bitmap: windows of blocks, each with its number and length in
front. The last window may be cut off. -/
def isBitmap : BitmapPart → List UInt8 → Bool
  | _, [] => true
  | .window, _ :: rest => isBitmap .length rest
  | .length, n :: rest => isBitmap (.block n.toNat n.toNat) rest
  | .block length left, bits :: rest =>
    left ≠ 0 && (bits = 0 || (length - left) * 8 + 7 < 256)
      && isBitmap (if left = 1 then .window else .block length (left - 1)) rest

/-- Whether the data of a client subnet is long enough for its prefix. -/
def isSubnet : List UInt8 → Bool
  | 0 :: family :: bits :: _ :: address =>
    let octets := (bits.toNat + 7) / 8
    (family = 1 && min octets 4 ≤ address.length) || (family = 2 && min octets 16 ≤ address.length)
  | _ => false

/-- Whether bytes are options of an extension record, with at most `bound` of them; the
last one may be cut off. -/
def areOptions (size : Nat) : (bound : Nat) → List UInt8 → Bool
  | bound + 1, a :: b :: c :: d :: rest =>
    let length := word c d
    let content := rest.take length
    length ≤ size
      && (word a b ≠ 8 || content.length < length || isSubnet content)
      && areOptions size bound (rest.drop length)
  | _, _ => true

/-- Whether the value of a service parameter is well formed. -/
def isParameter (key : Nat) (value : List UInt8) : Bool :=
  match key with
  | 0 => value ≠ [] && value.length % 2 = 0
  | 1 => value ≠ [] && areTexts value.length none value
  | 2 => value = []
  | 3 => value.length = 2
  | 4 => value.length % 4 = 0
  | 6 => value.length % 16 = 0
  | _ => true

/-- Whether bytes are service parameters in ascending order of their keys, all beyond
`last`. -/
def areParameters : (bound : Nat) → (last : Int) → List UInt8 → Bool
  | bound + 1, last, a :: b :: c :: d :: rest =>
    let key := word a b
    let length := word c d
    last < key && length ≤ rest.length && isParameter key (rest.take length)
      && areParameters bound key (rest.drop length)
  | _, _, rest => rest.isEmpty

/-- Whether data of a type without names in it is well formed. -/
def isPlainData (type : Nat) (data : List UInt8) : Bool :=
  match type with
  | 0 => data.isEmpty
  | 1 => data.length = 4
  | 13 => areTexts data.length (some 2) data
  | 16 => areTexts data.length none data
  | 28 => data.length = 16
  | 37 => 5 < data.length
  | 41 => areOptions data.length data.length data
  | 44 => 2 ≤ data.length
  | 52 | 53 => 3 ≤ data.length
  | 62 =>
    match data with
    | _ :: _ :: _ :: _ :: _ :: flags :: bitmap => flags.toNat % 256 < 4 && isBitmap .window bitmap
    | _ => false
  | 251 | 252 | 255 => false
  | 257 =>
    match data with
    | _ :: n :: rest =>
      1 ≤ n.toNat && n.toNat ≤ 15 && n.toNat ≤ rest.length
        && (rest.take n.toNat).all isAlphanumeric
    | _ => false
  | _ => true

/-- The position of the name in the data of a type that has one, for data at `pos`. -/
def nameOffset? (type : Nat) (message : List UInt8) (pos : Nat) : Option Nat :=
  match type with
  | 2 | 5 | 6 | 12 | 65305 => some pos
  | 15 | 64 | 65 => some (pos + 2)
  | 33 => some (pos + 6)
  | 35 => do
    let (flags, rest) ← takeText? (message.drop (pos + 4))
    let (_, rest) ← takeText? rest
    let (_, rest) ← takeText? rest
    if flags.all isAlphanumeric then some (message.length - rest.length) else none
  | _ => none

/-- Whether a type has a name in its data. -/
def hasName (type : Nat) : Bool :=
  type ∈ [2, 5, 6, 12, 15, 33, 35, 64, 65, 65305]

/-- Whether what follows the name in the data is well formed; `start` is where the name
ends and `stop` where the data does. -/
def tailFits (type : Nat) (message : List UInt8) (start stop : Nat) : Bool :=
  match type with
  | 6 =>
    match readName message start with
    | some (_, after) => after + 20 = stop
    | none => false
  | 64 | 65 =>
    start ≤ stop && areParameters message.length (-1) ((message.drop start).take (stop - start))
  | _ => start = stop

/-- Read data of a type that takes the bytes from `pos` to `stop`. -/
def readData (type : Nat) (message : List UInt8) (pos stop : Nat) : Option RecordData :=
  if hasName type then do
    let (name, after) ← readName message (← nameOffset? type message pos)
    guard (tailFits type message after stop)
    return if type = typePointer then .pointer name else .other
  else do
    guard (isPlainData type ((message.drop pos).take (stop - pos)))
    return .other

/-- Read a record at a position. Data of length zero is accepted for every type, and the
owner of an extension record is the root. -/
def read (message : List UInt8) (pos : Nat) : Option (Record × Nat) := do
  let (owner, pos) ← readName message pos
  let type ← wordAt? message pos
  let _ ← wordAt? message (pos + 2)
  let ttl := 65536 * (← wordAt? message (pos + 4)) + (← wordAt? message (pos + 6))
  let length ← wordAt? message (pos + 8)
  let pos := pos + 10
  guard (type ≠ typeExtension ∨ owner = [])
  let _ ← slice? message pos length
  let data ← if length = 0 then some .other else readData type message pos (pos + length)
  return (⟨owner, type, ttl, data⟩, pos + length)

end Record

end LogCourier.Dns
