/-!
# Decimal numbers

Natural numbers written in decimal digits. `digits` writes a number without leading
zeros; `readBelow` reads an optional plus sign and one or more digits whose value stays
below a limit, and says which of three faults a text has otherwise.
-/

namespace LogCourier.Decimal

/-- The value of an ASCII decimal digit. -/
def digitValue? (c : Char) : Option Nat :=
  if 48 ≤ c.toNat ∧ c.toNat ≤ 57 then some (c.toNat - 48) else none

/-- The decimal digits of a number, most significant first, without leading zeros. -/
def digits (n : Nat) : List Char :=
  Nat.toDigits 10 n

/-- The decimal text of a number. -/
def text (n : Nat) : String :=
  String.ofList (digits n)

/-- The decimal text of an integer, with a minus sign if it is negative. -/
def intText (z : Int) : String :=
  if z < 0 then String.ofList ('-' :: digits z.natAbs) else text z.natAbs

/-- The digits of a number, with zeros in front up to the given width. -/
def padded (width n : Nat) : List Char :=
  let ds := digits n
  List.replicate (width - ds.length) '0' ++ ds

/-- Why a text is not a number below the limit. -/
inductive Fault
  | empty
  | invalidDigit
  | tooLarge
  deriving DecidableEq, Repr

/-- The wording of a fault. -/
def Fault.message : Fault → String
  | empty => "cannot parse integer from empty string"
  | invalidDigit => "invalid digit found in string"
  | tooLarge => "number too large to fit in target type"

/-- Continue the number `n` with the digits of a text, as long as it stays below
`limit`; the first fault from the left is reported. -/
def readDigits (limit : Nat) : Nat → List Char → Except Fault Nat
  | n, [] => .ok n
  | n, c :: cs =>
    match digitValue? c with
    | none => .error .invalidDigit
    | some d => if 10 * n + d < limit then readDigits limit (10 * n + d) cs else .error .tooLarge

/-- Read an optional plus sign and at least one digit, with a value below `limit`. -/
def readBelow (limit : Nat) : List Char → Except Fault Nat
  | [] => .error .empty
  | '+' :: [] => .error .invalidDigit
  | '+' :: cs => readDigits limit 0 cs
  | cs => readDigits limit 0 cs

end LogCourier.Decimal
