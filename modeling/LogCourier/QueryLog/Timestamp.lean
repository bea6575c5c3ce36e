import LogCourier.Calendar
import LogCourier.Text.Blank
import LogCourier.Text.Decimal

/-!
# Timestamps

The time of a log row, read from its text. Two notations are accepted: the strict one of
RFC 3339 with an offset from UTC, and a looser one without an offset that is read as UTC.
A final capital `Z` stands for the offset zero. The result is the number of nanoseconds
since the start of 1970, which has to fit a signed 64-bit integer.
-/

namespace LogCourier

namespace Timestamp

/-- Why a text is not in the looser notation. -/
inductive Fault
  | premature
  | invalid
  | outOfRange
  | trailing
  deriving DecidableEq, Repr

/-- The wording of a fault. -/
def Fault.message : Fault → String
  | premature => "premature end of input"
  | invalid => "input contains invalid characters"
  | outOfRange => "input is out of range"
  | trailing => "trailing input"

/-- A reading of the front of a text, which leaves the rest. -/
abbrev Scan := StateT (List Char) (Except Fault)

/-- Read the given character. -/
def literal (c : Char) : Scan Unit := fun cs =>
  match cs with
  | [] => .error .premature
  | d :: rest => if d = c then .ok ((), rest) else .error .invalid

/-- The digits at the front of a text, at most `width` of them, and the rest. -/
def spanDigits (width : Nat) (cs : List Char) : List Char × List Char :=
  let ds := (cs.take width).takeWhile Char.isDigit
  (ds, cs.drop ds.length)

/-- Read between one and `width` digits. -/
def number (width : Nat) : Scan Nat := fun cs =>
  match spanDigits width cs with
  | ([], []) => .error .premature
  | ([], _ :: _) => .error .invalid
  | (ds, rest) => .ok (Nat.ofDigitChars 10 ds 0, rest)

/-- Skip blank characters. -/
def skipBlank : Scan Unit := fun cs =>
  .ok ((), cs.dropWhile Text.isBlank)

/-- Read a number of up to two digits after blank characters; it has to lie between `low`
and `high`. -/
def field (low high : Nat) : Scan Nat := do
  skipBlank
  let n ← number 2
  if low ≤ n ∧ n ≤ high then pure n else throw .outOfRange

/-- Read a year after blank characters: a sign and any number of digits, or up to four
digits. -/
def year : Scan Int := do
  skipBlank
  let cs ← get
  let n : Int ← match cs with
    | '-' :: rest => do set rest; pure (-(← number rest.length : Int))
    | '+' :: rest => do set rest; pure (← number rest.length : Int)
    | _ => do pure (← number 4 : Int)
  if -2147483648 ≤ n ∧ n ≤ 2147483647 then pure n else throw .outOfRange

/-- The nanoseconds of the digits after a decimal point; digits after the ninth are
ignored. -/
def nanosOfDigits (ds : List Char) : Nat :=
  let ds := ds.take 9
  Nat.ofDigitChars 10 ds 0 * Nat.pow 10 (9 - ds.length)

/-- Read a decimal point and at least one digit, if there is a point. -/
def fraction : Scan Nat := fun cs =>
  match cs with
  | '.' :: rest =>
    match spanDigits rest.length rest with
    | ([], []) => .error .premature
    | ([], _ :: _) => .error .invalid
    | (ds, rest) => .ok (nanosOfDigits ds, rest)
  | _ => .ok (0, cs)

/-- The first and the last year that a moment can have. -/
def firstYear : Int := -262143

/-- The last year that a moment can have. -/
def lastYear : Int := 262142

/-- Read a moment in the looser notation, `YYYY-MM-DDTHH:MM:SS[.f]`, up to the end of the
text. -/
def plain : Scan Moment := do
  let y ← year
  literal '-'
  let mo ← field 1 12
  literal '-'
  let d ← field 1 31
  literal 'T'
  let h ← field 0 23
  literal ':'
  let mi ← field 0 59
  literal ':'
  let s ← field 0 60
  let f ← fraction
  unless (← get).isEmpty do throw .trailing
  let m : Moment := ⟨y, mo, d, h, mi, s, f, 0⟩
  if m.HasDate ∧ firstYear ≤ y ∧ y ≤ lastYear then pure m else throw .outOfRange

/-- Read exactly `width` digits. -/
def exactly (width : Nat) (cs : List Char) : Option (Nat × List Char) :=
  let (ds, rest) := spanDigits width cs
  if ds.length = width then some (Nat.ofDigitChars 10 ds 0, rest) else none

/-- Read a character that satisfies `p`. -/
def oneOf (p : Char → Bool) : List Char → Option (Char × List Char)
  | [] => none
  | c :: rest => if p c then some (c, rest) else none

/-- Read the offset of a clock from UTC in seconds: a letter `Z`, or a sign, hours and
minutes. -/
def offset (cs : List Char) : Option (Int × List Char) := do
  let (c, rest) ← oneOf (fun c => c = 'Z' ∨ c = 'z' ∨ c = '+' ∨ c = '-' ∨ c = '\u2212') cs
  if c = 'Z' ∨ c = 'z' then return (0, rest)
  let (h, rest) ← exactly 2 rest
  let (_, rest) ← oneOf (· = ':') rest
  let (m, rest) ← exactly 2 rest
  guard (h ≤ 23 ∧ m ≤ 59)
  let seconds : Int := 3600 * h + 60 * m
  return (if c = '+' then seconds else -seconds, rest)

/-- Read a moment in the strict notation. -/
def zoned (cs : List Char) : Option Moment := do
  let (y, cs) ← exactly 4 cs
  let (_, cs) ← oneOf (· = '-') cs
  let (mo, cs) ← exactly 2 cs
  let (_, cs) ← oneOf (· = '-') cs
  let (d, cs) ← exactly 2 cs
  let (_, cs) ← oneOf (fun c => c = 'T' ∨ c = 't' ∨ c = ' ') cs
  let (h, cs) ← exactly 2 cs
  let (_, cs) ← oneOf (· = ':') cs
  let (mi, cs) ← exactly 2 cs
  let (_, cs) ← oneOf (· = ':') cs
  let (s, cs) ← exactly 2 cs
  let (f, cs) ← (fraction cs).toOption
  let (o, cs) ← offset cs
  guard cs.isEmpty
  let m : Moment := ⟨y, mo, d, h, mi, s, f, o⟩
  guard (m.HasDate ∧ m.HasTime)
  return m

/-- The characters with a final capital `Z` written as the offset `+00:00`. -/
def spellZulu (cs : List Char) : List Char :=
  match cs.reverse with
  | 'Z' :: before => before.reverse ++ ['+', '0', '0', ':', '0', '0']
  | _ => cs

/-- The moment that a text names; blank characters around it are ignored. -/
def moment (text : String) : Except Fault Moment :=
  let cs := spellZulu (Text.trimChars text.toList)
  match zoned cs with
  | some m => .ok m
  | none => plain.run' cs

/-- Why a text has no time in nanoseconds: it names no moment, or one outside the range
of a signed 64-bit integer. -/
inductive Malformed
  | unreadable (text : String) (fault : Fault)
  | outOfRange (text : String)
  deriving DecidableEq, Repr

/-- The wording of why a text has no time. -/
def Malformed.message : Malformed → String
  | unreadable t f => "'" ++ t ++ "': " ++ f.message
  | outOfRange t => "'" ++ t ++ "' is out of range"

/-- The nanoseconds since the start of 1970 of the moment that a text names. -/
def nanos (text : String) : Except Malformed Int := do
  let m ← (moment text).mapError (.unreadable text)
  let n := m.nanosSinceEpoch
  if -0x8000000000000000 ≤ n ∧ n < 0x8000000000000000 then pure n else throw (.outOfRange text)

end Timestamp

end LogCourier
