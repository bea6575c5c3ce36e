import LogCourier.Number
import LogCourier.Text.Decimal

/-!
# Numbers of a document

A number of a document as it is taken for a value: a whole number of 64 bits, or a double. The
digits are gathered in a machine word as long as they fit, the others only shift the point, and
the power of ten is multiplied or divided in doubles. So the double is not always the one
nearest to what is written.
-/

namespace LogCourier.Json

/-- A number: a whole number from zero on, one below zero by its distance from it, or a double
with its sign. -/
inductive Number
  | natural (value : Nat)
  | negative (value : Nat)
  | double (minus : Bool) (value : Double)
  deriving DecidableEq, Repr

namespace Number

/-- A number in words. -/
def words : Number → String
  | natural n => "integer \x60" ++ Decimal.text n ++ "\x60"
  | negative n => "integer \x60-" ++ Decimal.text n ++ "\x60"
  | double minus x =>
    "floating point \x60" ++ (if minus then "-" else "") ++ x.compact ++ "\x60"

/-- Continue a number with digits as long as it stays below the limit; the second part is what
is left of the text. -/
def gather (limit : Nat) : Nat → List Char → Nat × List Char
  | n, [] => (n, [])
  | n, c :: cs =>
    match Decimal.digitValue? c with
    | none => (n, c :: cs)
    | some d => if 10 * n + d < limit then gather limit (10 * n + d) cs else (n, c :: cs)

/-- Multiply a double by a power of ten from -308 to 308. -/
def shift (x : Double) (scale : Int) : Double :=
  let power := Double.ofNat (Nat.pow 10 scale.natAbs)
  if 0 ≤ scale then x.mul power else x.div power

/-- The double of some digits with a power of ten, unless it is too large. -/
def scaled? (digits : Nat) (scale : Int) : Option Double :=
  let x := Double.ofNat digits
  if digits = 0 then some x
  else if scale.natAbs ≤ 308 then
    let y := shift x scale
    if y.isFinite then some y else none
  else if 0 ≤ scale then none
  -- the power is divided by in two steps, and after another one nothing would be left
  else if -616 ≤ scale then some (shift (shift x (-308)) (scale + 308))
  else some (.ofNat 0)

/-- The number of some digits with a power of ten, which the given text may continue with an
exponent. If the number is too large, the result is what is left of the text where this
shows. -/
def withExponent (minus : Bool) (digits : Nat) (scale : Int) :
  List Char → Except (List Char) Number
  | [] => ((scaled? digits scale).map (double minus)).elim (.error []) .ok
  | _ :: cs =>
    let (below, cs) :=
      match cs with
      | '-' :: cs => (true, cs)
      | '+' :: cs => (false, cs)
      | cs => (false, cs)
    let (exponent, left) := gather (Nat.pow 2 31) 0 cs
    if left.isEmpty then
      let scale := if below then scale - exponent else scale + exponent
      ((scaled? digits scale).map (double minus)).elim (.error []) .ok
    else if digits ≠ 0 ∧ !below then .error (left.drop 1)
    else .ok (double minus (.ofNat 0))

/-- The number of a spelling. If it is too large, the result is how many characters it takes
until this shows. -/
def read (spelling : List Char) : Except Nat Number :=
  let (minus, cs) :=
    match spelling with
    | '-' :: cs => (true, cs)
    | cs => (false, cs)
  let (digits, rest) := gather UInt64.size 0 cs
  -- the digits that do not fit
  let skipped := rest.takeWhile Char.isDigit
  let number :=
    match rest.drop skipped.length with
    | [] =>
      if !skipped.isEmpty then withExponent minus digits skipped.length []
      else if !minus then .ok (natural digits)
      else if 0 < digits ∧ digits ≤ Nat.pow 2 63 then .ok (negative digits)
      else .ok (double true (.ofNat digits))
    | '.' :: fraction =>
      let (digits, rest) := gather UInt64.size digits fraction
      let scale : Int := skipped.length - (fraction.length - rest.length : Nat)
      withExponent minus digits scale (rest.dropWhile Char.isDigit)
    | exponent => withExponent minus digits skipped.length exponent
  number.mapError fun left => spelling.length - left.length

end Number

end LogCourier.Json
