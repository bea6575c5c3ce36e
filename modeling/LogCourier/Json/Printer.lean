import LogCourier.Json.Basic
import LogCourier.Text.Decimal

/-!
# Writing a document

The compact form of a tree: no white space, members in their order. In a text the quote,
the backslash and the control characters below U+0020 are escaped and all else is written
as it is.
-/

namespace LogCourier.Json

/-- A hexadecimal digit. -/
def hexDigit (n : Nat) : Char :=
  Char.ofNat (if n < 10 then 48 + n else 87 + n)

/-- A character as it stands in a text. -/
def escape (c : Char) : List Char :=
  if c = '"' then ['\\', '"']
  else if c = '\\' then ['\\', '\\']
  else if c = '\x08' then ['\\', 'b']
  else if c = '\t' then ['\\', 't']
  else if c = '\n' then ['\\', 'n']
  else if c = '\x0c' then ['\\', 'f']
  else if c = '\r' then ['\\', 'r']
  else if c.toNat < 0x20 then
    ['\\', 'u', '0', '0', hexDigit (c.toNat / 16), hexDigit (c.toNat % 16)]
  else [c]

/-- A text with its quotes; a mark is written as the escape of a surrogate. -/
def quoted (t : Text) : List Char :=
  '"' :: t.flatMap (fun g => match g with
    | some c => escape c
    | none => ['\\', 'u', 'd', '8', '0', '0']) ++ ['"']

/-- Lists written one after another with a comma between neighbours. -/
def separated (parts : List (List Char)) : List Char :=
  (parts.intersperse [',']).flatten

/-- The characters of a tree. -/
def chars : Json → List Char
  | .null => ['n', 'u', 'l', 'l']
  | .bool true => ['t', 'r', 'u', 'e']
  | .bool false => ['f', 'a', 'l', 's', 'e']
  | .natural n => Decimal.digits n
  | .numeral s => s
  | .text t => quoted t
  | .array items => '[' :: separated (items.attach.map fun ⟨v, _⟩ => chars v) ++ [']']
  | .object members =>
    '\x7b' :: separated (members.attach.map fun ⟨(k, v), _⟩ => quoted k ++ ':' :: chars v)
      ++ ['\x7d']
decreasing_by
  all_goals simp_wf
  · have := List.sizeOf_lt_of_mem ‹_›; omega
  · have := List.sizeOf_lt_of_mem ‹_›; simp at this; omega

/-- The text of a tree. -/
def print (v : Json) : String :=
  String.ofList v.chars

end LogCourier.Json
