import LogCourier.Text.Utf8

/-!
# Percent encoding

Bytes written as a percent sign and two hexadecimal digits: in the parts of a URL where
only some characters are written so, and in form fields, where a space becomes a plus sign
and only letters, digits and four marks are kept. `decodeForm` undoes the latter.
-/

namespace LogCourier.Http

/-- A capital hexadecimal digit. -/
def hexDigit (n : Nat) : Char :=
  Char.ofNat (if n < 10 then 48 + n else 55 + n)

/-- A byte as a percent sign and two digits. -/
def percent (b : UInt8) : List Char :=
  ['%', hexDigit (b.toNat / 16), hexDigit (b.toNat % 16)]

/-- Write the characters that satisfy `p`, and those outside of ASCII, byte by byte. -/
def percentEncode (p : Char → Bool) (cs : List Char) : List Char :=
  cs.flatMap fun c =>
    if 0x7f ≤ c.toNat ∨ c.toNat < 0x20 ∨ p c then (Utf8.encodeChar c).flatMap percent else [c]

/-- A byte of a form field. -/
def formByte (b : UInt8) : List Char :=
  let c := Char.ofNat b.toNat
  if b = 0x20 then ['+']
  else if c.isAlphanum ∨ c = '*' ∨ c = '-' ∨ c = '.' ∨ c = '_' then [c]
  else percent b

/-- The text of a form field. -/
def formField (s : String) : List Char :=
  (Utf8.bytes s).flatMap formByte

/-- The text of a form: names and values in order. -/
def form (pairs : List (String × String)) : List Char :=
  (pairs.map fun p => formField p.1 ++ '=' :: formField p.2).intersperse ['&'] |>.flatten

/-- The value of a hexadecimal digit. -/
def hexValue? (c : Char) : Option Nat :=
  let n := c.toNat
  if 48 ≤ n ∧ n ≤ 57 then some (n - 48)
  else if 65 ≤ n ∧ n ≤ 70 then some (n - 55)
  else if 97 ≤ n ∧ n ≤ 102 then some (n - 87)
  else none

/-- The bytes that percent signs with two digits stand for; `plus` tells that a plus sign
stands for a space. -/
def unescape (plus : Bool) : List Char → List UInt8
  | [] => []
  | '%' :: a :: b :: cs =>
    match hexValue? a, hexValue? b with
    | some x, some y => .ofNat (16 * x + y) :: unescape plus cs
    | _, _ => 0x25 :: unescape plus (a :: b :: cs)
  | c :: cs => (if c = '+' ∧ plus then [0x20] else Utf8.encodeChar c) ++ unescape plus cs

end LogCourier.Http
