import LogCourier.Dns.Record

/-!
# DNS messages

A message as it is read from the wire: its identifier, the response code, and the records
of the answer section. The questions and the other sections are checked and dropped.
-/

namespace LogCourier.Dns

/-- A response code. -/
structure ResponseCode where
  code : Nat
  deriving DecidableEq, Repr

namespace ResponseCode

/-- The names of the response codes that have one. -/
def names : List (Nat × String) := [
  (0, "NoError"), (1, "FormErr"), (2, "ServFail"), (3, "NXDomain"), (4, "NotImp"),
  (5, "Refused"), (6, "YXDomain"), (7, "YXRRSet"), (8, "NXRRSet"), (9, "NotAuth"),
  (10, "NotZone"), (16, "BADVERS"), (17, "BADKEY"), (18, "BADTIME"), (19, "BADMODE"),
  (20, "BADNAME"), (21, "BADALG"), (22, "BADTRUNC"), (23, "BADCOOKIE")]

/-- The name of a response code. -/
def text (c : ResponseCode) : String :=
  (names.lookup c.code).getD ("Unknown(" ++ toString c.code ++ ")")

end ResponseCode

/-- A message. -/
structure Message where
  id : Nat
  code : ResponseCode
  answers : List Record
  deriving DecidableEq, Repr

namespace Message

/-- Read questions from a position on, which are checked only. -/
def readQuestions (message : List UInt8) : (count pos : Nat) → Option Nat
  | 0, pos => some pos
  | count + 1, pos => do
    let (_, pos) ← readName message pos
    let _ ← wordAt? message pos
    let _ ← wordAt? message (pos + 2)
    readQuestions message count (pos + 4)

/-- The types of records that stand in the last section only. -/
def isAdditionalOnly (type : Nat) : Bool :=
  type = Record.typeExtension ∨ type = 24 ∨ type = 250

/-- Read the records of a section. -/
def readSection (message : List UInt8) (additional : Bool) :
  (count pos : Nat) → Option (List Record × Nat)
  | 0, pos => some ([], pos)
  | count + 1, pos => do
    let (r, pos) ← Record.read message pos
    guard (additional ∨ ¬ isAdditionalOnly r.type)
    let (rs, pos) ← readSection message additional count pos
    return (r :: rs, pos)

/-- The high bits of the response code, which the extension record holds. -/
def highCode (additional : List Record) : Nat :=
  match additional.find? (·.type = Record.typeExtension) with
  | some r => r.ttl / 0x1000000
  | none => 0

/-- Read a message; bytes after it are ignored. -/
def read? (message : List UInt8) : Option Message := do
  let id ← wordAt? message 0
  let flags ← wordAt? message 2
  let questions ← wordAt? message 4
  let answers ← wordAt? message 6
  let authorities ← wordAt? message 8
  let additionals ← wordAt? message 10
  let pos ← readQuestions message questions 12
  let (answers, pos) ← readSection message false answers pos
  let (_, pos) ← readSection message false authorities pos
  let (additional, _) ← readSection message true additionals pos
  guard (additional.countP (·.type = Record.typeExtension) ≤ 1)
  return ⟨id, ⟨16 * highCode additional + flags % 16⟩, answers⟩

/-- The target of the first pointer record among the answers. -/
def pointer? (m : Message) : Option Name :=
  m.answers.findSome? fun r => match r.data with
    | .pointer target => some target
    | .other => none

end Message

end LogCourier.Dns
