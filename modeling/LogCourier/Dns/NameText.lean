import LogCourier.Dns.Idna.Label
import LogCourier.Dns.Name
import LogCourier.Text.Blank
import LogCourier.Text.Utf8

/-!
# Domain names as text

The text of a name: its labels with points between them. A label that stands for other
characters is written as these; in any other one the bytes that are not usual in host
names are escaped.
-/

namespace LogCourier.Dns

/-- Three octal digits. -/
def octal (n : Nat) : List Char :=
  [n / 64, n / 8 % 8, n % 8].map fun d => Char.ofNat (48 + d)

/-- A byte of a label as text: letters, digits and underscores as they are, a hyphen too
if it is not the first, and an asterisk if it is. -/
def escapeByte (first : Bool) (b : UInt8) : List Char :=
  let n := b.toNat
  let c := Char.ofNat n
  if c.isAlphanum ∨ c = '_' ∨ (c = '-' ∧ !first) ∨ (c = '*' ∧ first) then [c]
  else if 0x20 < n ∧ n < 0x7f then ['\\', c]
  else '\\' :: octal n

/-- The escaped text of a label. -/
def escapeLabel : Label → List Char
  | [] => []
  | b :: bs => escapeByte true b ++ bs.flatMap (escapeByte false)

/-- The text of a label. -/
def labelChars (l : Label) : List Char :=
  let cs := l.map fun b => Char.ofNat b.toNat
  (Idna.decode? cs).getD (escapeLabel l)

/-- The text of a name, with a point after each label. -/
def Name.chars (name : Name) : List Char :=
  name.flatMap fun l => labelChars l ++ ['.']

/-- The text of a name without the points at its end. -/
def Name.host (name : Name) : String :=
  Text.dropTrailing '.' (String.ofList name.chars)

end LogCourier.Dns
